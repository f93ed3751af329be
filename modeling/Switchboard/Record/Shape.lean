import Switchboard.Record
import Switchboard.Record.Fault
import Switchboard.Run

/-!
Shapes: the declared fields of the records with one tag.

`Shape.assemble` makes a record from arguments. It looks first at the shape
itself (an empty tag, a name declared twice), then at the arguments (a name that
is not declared) and last at each declaration in turn (a required field without
an argument), and reports the first fault that it meets. The record has its
fields in declaration order. `Shape.build` is the same with an event for every
record built.
-/

namespace Switchboard

/-- What becomes of a declared field that is given no argument. -/
inductive Presence where
  | required
  | optional
  | defaulted (value : Value)
deriving DecidableEq, Repr

/-- A field that records of a shape have or may have. -/
structure Declaration where
  name : String
  presence : Presence
deriving DecidableEq, Repr

/-- A tag with declarations, in order. Nothing keeps a name from being declared twice; such a
shape builds no record. -/
structure Shape where
  tag : String
  declarations : List Declaration
deriving DecidableEq, Repr

/-! ### Texts -/

def Presence.outline : Presence → Outline
  | .required => .leaf "Required"
  | .optional => .leaf "Optional"
  | .defaulted value => .tuple "Default" [value.outline]

def Declaration.outline (d : Declaration) : Outline :=
  .struct "FieldSpec" [("name", .text d.name), ("kind", d.presence.outline)]

def Shape.outline (s : Shape) : Outline :=
  .struct "RecordShape" [
    ("tag", .text s.tag),
    ("fields", .list (s.declarations.map Declaration.outline))]

/-! ### Equality -/

def Presence.equal : Presence → Presence → Bool
  | .required, .required => true
  | .optional, .optional => true
  | .defaulted a, .defaulted b => a == b
  | _, _ => false

/-- The same names with equal presences, in the same order. -/
def Declaration.sameAll : List Declaration → List Declaration → Bool
  | [], [] => true
  | d :: rest, e :: rest' =>
    d.name = e.name && d.presence.equal e.presence && sameAll rest rest'
  | _, _ => false

def Shape.equal (s t : Shape) : Bool :=
  s.tag = t.tag && Declaration.sameAll s.declarations t.declarations

instance : BEq Shape := ⟨Shape.equal⟩

namespace Shape

/-! ### Declaring -/

/-- A shape without fields. -/
def ofTag (tag : String) : Shape := ⟨tag, []⟩

/-- Add a declaration at the end. -/
def declare (s : Shape) (d : Declaration) : Shape :=
  { s with declarations := s.declarations ++ [d] }

/-- The declared names, in order and as often as they are declared. -/
def names (s : Shape) : List String :=
  s.declarations.map Declaration.name

@[simp] theorem names_declare (s : Shape) (d : Declaration) :
    (s.declare d).names = s.names ++ [d.name] := by
  simp [names, declare]

@[simp] theorem tag_declare (s : Shape) (d : Declaration) : (s.declare d).tag = s.tag := rfl

theorem foldl_declare (s : Shape) (declarations : List Declaration) :
    declarations.foldl declare s = ⟨s.tag, s.declarations ++ declarations⟩ := by
  induction declarations generalizing s with
  | nil => rw [List.foldl_nil, List.append_nil]
  | cons d rest ih =>
    rw [List.foldl_cons, ih, tag_declare, declare, List.append_assoc, List.singleton_append]

/-- Every shape comes of declaring, from a tag on, its declarations one after the other. -/
theorem foldl_declare_ofTag (s : Shape) : s.declarations.foldl declare (ofTag s.tag) = s :=
  foldl_declare (ofTag s.tag) s.declarations

/-! ### Assembling a record -/

/-- The first name that occurs among those seen or before itself in the list. -/
def firstRepeated (seen : List String) : List String → Option String
  | [] => none
  | name :: rest => if name ∈ seen then some name else firstRepeated (name :: seen) rest

theorem firstRepeated_eq_none_iff {seen names : List String} :
    firstRepeated seen names = none ↔ names.Nodup ∧ ∀ name ∈ names, name ∉ seen := by
  induction names generalizing seen with
  | nil => simp [firstRepeated]
  | cons name rest ih =>
    by_cases known : name ∈ seen
    · simp [firstRepeated, known]
    · rw [firstRepeated, if_neg known, ih]
      simp only [List.mem_cons, not_or, List.nodup_cons, forall_eq_or_imp]
      constructor
      · rintro ⟨nodup, fresh⟩
        exact ⟨⟨fun mem => (fresh name mem).1 rfl, nodup⟩, known, fun n mem => (fresh n mem).2⟩
      · rintro ⟨⟨fresh, nodup⟩, _, unseen⟩
        exact ⟨nodup, fun n mem => ⟨fun e => fresh (e ▸ mem), unseen n mem⟩⟩

/-- The arguments by name, the last one under each name; every name has to be declared. -/
def collect (s : Shape) (given : Roster Value) :
    History Value → Except RecordFault (Roster Value)
  | [] => .ok given
  | (name, value) :: rest =>
    if name ∈ s.names then s.collect (given.insert name value) rest
    else .error (.undeclared s.tag name)

/-- The fields in declaration order, each with its argument or its default. -/
def fill (tag : String) (given : Roster Value) :
    List Declaration → Except RecordFault (List (String × Value))
  | [] => .ok []
  | d :: rest =>
    match given.get? d.name, d.presence with
    | some value, _ => return (d.name, value) :: (← fill tag given rest)
    | none, .defaulted value => return (d.name, value) :: (← fill tag given rest)
    | none, .optional => fill tag given rest
    | none, .required => .error (.missing tag d.name)

/-- The record of this shape with the given arguments. -/
def assemble (s : Shape) (arguments : History Value) : Except RecordFault Record :=
  if s.tag = "" then .error .untagged
  else
    match firstRepeated [] s.names with
    | some name => .error (.redeclared s.tag name)
    | none => do
      let given ← s.collect ∅ arguments
      let fields ← fill s.tag given s.declarations
      return ⟨s.tag, ⟨fields⟩⟩

/-! ### Building with an event -/

/-- The event that a record was built. -/
def builtEvent (r : Record) : Event where
  level := .trace
  target := "tagmatch_union::record"
  message := "built record"
  fields := [("tag", .name r.tag), ("fields", .count r.size)]

/-- Assemble a record and report it. A fault leaves nothing in the journal. -/
def build (s : Shape) (arguments : History Value) : Run (Except RecordFault Record) :=
  match s.assemble arguments with
  | .ok r => do
    Run.emit (builtEvent r)
    return .ok r
  | .error fault => return .error fault

theorem outcome_build (s : Shape) (arguments : History Value) :
    (s.build arguments).outcome = .returned (s.assemble arguments) := by
  unfold build
  cases s.assemble arguments <;> rfl

theorem journal_build (s : Shape) (arguments : History Value) :
    (s.build arguments).journal =
      match s.assemble arguments with
      | .ok r => [.event (builtEvent r)]
      | .error _ => [] := by
  unfold build
  cases s.assemble arguments <;> rfl

end Shape

end Switchboard
