import Mathlib.Data.List.Forall2
import Switchboard.Proofs.Record.Verdict

/-!
Equality of values, records and shapes, and what respects it.

`==` compares numbers as numbers, so a NaN differs from itself and equal values may have different
bits. Symmetry and transitivity are left, and pass from values to lists of fields and of
declarations, since both are compared member by member
(`Record.beq_iff`, `Shape.beq_iff`). Setting, looking up and building go through such lists name by
name and look into no value. Each of their loops keeps lists equal that were so
(`Record.forall₂_put`, `Shape.fill_concurs`), and what comes out for equal inputs is equal
(`equality_is_partial_congruence`).
-/

namespace Switchboard

/-! ### Equality that may fail for a thing and itself -/

/-- `==` is an equality, but that whatever holds a NaN differs from itself. -/
structure PartialEquality (α : Type) [BEq α] (holdsNaN : α → Prop) : Prop where
  symm : ∀ {a b : α}, a == b → b == a
  trans : ∀ {a b c : α}, a == b → b == c → a == c
  ne_iff : ∀ {a b : α}, a != b ↔ ¬ a == b
  self_iff : ∀ {a : α}, a == a ↔ ¬ holdsNaN a

/-- Equal values are the same value, but for the two zeros; and a NaN equals nothing. -/
theorem Value.beq_iff {v w : Value} :
    v == w ↔ v.isNaN = false ∧
      (v = w ∨ ∃ x y, v = .float x ∧ w = .float y ∧ x.isZero ∧ y.isZero) := by
  change v.equal w ↔ _
  cases v <;> cases w <;> simp [equal, isNaN, Binary64.beq_iff_eq_or_isZero]

theorem Value.partialEquality : PartialEquality Value fun v => v.isNaN where
  symm same := by rwa [beq_comm]
  trans := beq_trans
  ne_iff := by simp [bne]
  self_iff := by simp [beq_self_iff]

section Lists

variable {α : Type} {R : α → α → Prop} {l m n : List α}

/-- Lists that are compared member by member are compared as their members are. -/
theorem forall₂_symm (symm : ∀ a b, R a b → R b a) (related : List.Forall₂ R l m) :
    List.Forall₂ R m l :=
  .flip (related.imp fun a b => symm a b)

theorem forall₂_trans (trans : ∀ a b c, R a b → R b c → R a c) (first : List.Forall₂ R l m)
    (second : List.Forall₂ R m n) : List.Forall₂ R l n := by
  induction first generalizing n with
  | nil => exact second
  | cons related _ ih =>
    cases second with
    | cons related' rest' => exact .cons (trans _ _ _ related related') (ih rest')

end Lists

/-! ### Records -/

namespace Record

/-- One name with equal values. -/
def SameField (f g : String × Value) : Prop :=
  f.1 = g.1 ∧ f.2 == g.2

theorem sameFields_iff {fields more : List (String × Value)} :
    sameFields fields more ↔ List.Forall₂ SameField fields more := by
  induction fields generalizing more with
  | nil => cases more <;> simp [sameFields]
  | cons f rest ih => cases more <;> simp [sameFields, SameField, ih]

theorem beq_iff {r s : Record} :
    r == s ↔ r.tag = s.tag ∧ List.Forall₂ SameField r.fields.entries s.fields.entries := by
  change r.equal s ↔ _
  rw [equal, Bool.and_eq_true, decide_eq_true_iff, sameFields_iff]

theorem SameField.symm {f g : String × Value} (same : SameField f g) : SameField g f :=
  ⟨same.1.symm, Value.partialEquality.symm same.2⟩

theorem SameField.trans {f g h : String × Value} (first : SameField f g) (second : SameField g h) :
    SameField f h :=
  ⟨first.1.trans second.1, Value.partialEquality.trans first.2 second.2⟩

/-- The value of some field is a NaN. -/
def HoldsNaN (r : Record) : Prop :=
  ∃ field ∈ r.fields.entries, field.2.isNaN

theorem partialEquality : PartialEquality Record HoldsNaN where
  symm same := by
    rw [beq_iff] at *
    exact ⟨same.1.symm, forall₂_symm (fun _ _ => SameField.symm) same.2⟩
  trans first second := by
    rw [beq_iff] at *
    exact ⟨first.1.trans second.1, forall₂_trans (fun _ _ _ => SameField.trans) first.2 second.2⟩
  ne_iff := by simp [bne]
  self_iff := by simp [beq_self_iff, HoldsNaN]

end Record

/-! ### Shapes -/

namespace Presence

/-- One kind of presence, with equal defaults where there are some. -/
inductive Alike : Presence → Presence → Prop where
  | required : Alike .required .required
  | optional : Alike .optional .optional
  | defaulted {v w : Value} : v == w → Alike (.defaulted v) (.defaulted w)

theorem equal_iff {p q : Presence} : p.equal q ↔ p.Alike q := by
  constructor
  · intro same
    cases p with
    | required => cases q <;> simp [equal, Alike.required] at same ⊢
    | optional => cases q <;> simp [equal, Alike.optional] at same ⊢
    | defaulted v =>
      cases q with
      | required => cases same
      | optional => cases same
      | defaulted w => exact .defaulted same
  · intro alike
    cases alike with
    | required => rfl
    | optional => rfl
    | defaulted same => exact same

theorem Alike.symm {p q : Presence} (alike : p.Alike q) : q.Alike p := by
  cases alike with
  | required => exact .required
  | optional => exact .optional
  | defaulted same => exact .defaulted (Value.partialEquality.symm same)

theorem Alike.trans {p q o : Presence} (first : p.Alike q) (second : q.Alike o) : p.Alike o := by
  cases first with
  | required => exact second
  | optional => exact second
  | defaulted same =>
    cases second with
    | defaulted same' => exact .defaulted (Value.partialEquality.trans same same')

theorem alike_self_iff {p : Presence} :
    p.Alike p ↔ ¬ ∃ value, p = .defaulted value ∧ value.isNaN := by
  cases p with
  | required => simp [Alike.required]
  | optional => simp [Alike.optional]
  | defaulted v => simp [← equal_iff, equal, Value.beq_self_iff]

end Presence

/-- One name, declared alike. -/
def Declaration.Same (d e : Declaration) : Prop :=
  d.name = e.name ∧ d.presence.Alike e.presence

theorem Declaration.sameAll_iff {declarations more : List Declaration} :
    sameAll declarations more ↔ List.Forall₂ Same declarations more := by
  induction declarations generalizing more with
  | nil => cases more <;> simp [sameAll]
  | cons d rest ih => cases more <;> simp [sameAll, Same, Presence.equal_iff, ih]

namespace Shape

theorem beq_iff {s t : Shape} :
    s == t ↔ s.tag = t.tag ∧ List.Forall₂ Declaration.Same s.declarations t.declarations := by
  change s.equal t ↔ _
  rw [equal, Bool.and_eq_true, decide_eq_true_iff, Declaration.sameAll_iff]

/-- Some default is a NaN. -/
def HoldsNaN (s : Shape) : Prop :=
  ∃ d ∈ s.declarations, ∃ value, d.presence = .defaulted value ∧ value.isNaN

theorem partialEquality : PartialEquality Shape HoldsNaN where
  symm same := by
    rw [beq_iff] at *
    refine ⟨same.1.symm, forall₂_symm ?_ same.2⟩
    exact fun d e same => ⟨same.1.symm, same.2.symm⟩
  trans first second := by
    rw [beq_iff] at *
    refine ⟨first.1.trans second.1, forall₂_trans ?_ first.2 second.2⟩
    exact fun c d e first second =>
      ⟨first.1.trans second.1, first.2.trans second.2⟩
  ne_iff := by simp [bne]
  self_iff := by
    simp [beq_iff, List.forall₂_same, Declaration.Same, Presence.alike_self_iff, HoldsNaN]

end Shape

/-! ### Looking up and setting -/

namespace Record

variable {fields more : List (String × Value)}

/-- The same name is found in both lists, or in neither. -/
theorem rel_find (related : List.Forall₂ SameField fields more) (name : String) :
    Option.Rel (· == ·) (Roster.find name fields) (Roster.find name more) := by
  induction related with
  | nil => exact .none
  | @cons f g _ _ same _ ih =>
    obtain ⟨n, v⟩ := f
    obtain ⟨_, w⟩ := g
    obtain ⟨rfl, equal⟩ := same
    by_cases found : name = n
    · rw [Roster.find, Roster.find, if_pos found, if_pos found]
      exact .some equal
    · rw [Roster.find, Roster.find, if_neg found, if_neg found]
      exact ih

/-- The same name is replaced in both lists, or added to both. -/
theorem forall₂_put (related : List.Forall₂ SameField fields more) (name : String)
    {v w : Value} (equal : v == w) :
    List.Forall₂ SameField (Roster.put name v fields) (Roster.put name w more) := by
  induction related with
  | nil => exact .cons ⟨rfl, equal⟩ .nil
  | @cons f g _ _ same rest ih =>
    obtain ⟨n, _⟩ := f
    obtain ⟨_, _⟩ := g
    obtain ⟨rfl, before⟩ := same
    by_cases found : name = n
    · rw [Roster.put, Roster.put, if_pos found, if_pos found]
      exact .cons ⟨rfl, equal⟩ rest
    · rw [Roster.put, Roster.put, if_neg found, if_neg found]
      exact .cons ⟨rfl, before⟩ ih

theorem rel_get? {r s : Record} (same : r == s) (name : String) :
    Option.Rel (· == ·) (r.get? name) (s.get? name) :=
  rel_find (beq_iff.mp same).2 name

theorem set_beq_set {r s : Record} (same : r == s) (name : String) {v w : Value}
    (equal : v == w) : r.set name v == s.set name w := by
  rw [beq_iff] at *
  exact ⟨same.1, forall₂_put same.2 name equal⟩

end Record

/-! ### Building -/

/-- Both succeed, with results that are the same in some respect, or both fail, with one fault. -/
inductive Concurs {A : Type} (same : A → A → Prop) :
    Except RecordFault A → Except RecordFault A → Prop where
  | succeed {a b : A} : same a b → Concurs same (.ok a) (.ok b)
  | fail (fault : RecordFault) : Concurs same (.error fault) (.error fault)

theorem Concurs.bind {A B : Type} {same : A → A → Prop} {same' : B → B → Prop}
    {x y : Except RecordFault A} {f g : A → Except RecordFault B} (first : Concurs same x y)
    (next : ∀ a b, same a b → Concurs same' (f a) (g b)) : Concurs same' (x >>= f) (y >>= g) := by
  cases first with
  | succeed related => exact next _ _ related
  | fail fault => exact .fail fault

namespace Shape

open Record (SameField)

variable {s t : Shape} {arguments arguments' : History Value}

theorem names_eq_of_beq (same : s == t) : s.names = t.names := by
  have related := (beq_iff.mp same).2
  rw [names, names, ← List.forall₂_eq_eq_eq, List.forall₂_map_left_iff, List.forall₂_map_right_iff]
  exact related.imp fun _ _ declared => declared.1

/-- By induction on the arguments, of which each goes into both rosters or is refused by both
shapes. -/
theorem collect_concurs (tag_eq : s.tag = t.tag) (names_eq : s.names = t.names)
    {given given' : Roster Value} (known : List.Forall₂ SameField given.entries given'.entries)
    (passed : List.Forall₂ SameField arguments arguments') :
    Concurs (fun a b => List.Forall₂ SameField a.entries b.entries)
      (s.collect given arguments) (t.collect given' arguments') := by
  induction passed generalizing given given' with
  | nil => exact .succeed known
  | @cons f g _ _ same _ ih =>
    obtain ⟨name, _⟩ := f
    obtain ⟨_, _⟩ := g
    obtain ⟨rfl, equal⟩ := same
    rw [collect, collect, tag_eq, names_eq]
    split
    · exact ih (Record.forall₂_put known name equal)
    · exact .fail _

/-- By induction on the declarations. A field is given to both or to neither, and where it is not,
both have equal defaults or none. -/
theorem fill_concurs {given given' : Roster Value} {declarations more : List Declaration}
    (known : List.Forall₂ SameField given.entries given'.entries)
    (related : List.Forall₂ Declaration.Same declarations more) (tag : String) :
    Concurs (List.Forall₂ SameField) (fill tag given declarations) (fill tag given' more) := by
  induction related with
  | nil => exact .succeed .nil
  | @cons d e rest rest' same _ ih =>
    obtain ⟨name, presence⟩ := d
    obtain ⟨_, presence'⟩ := e
    obtain ⟨rfl, alike⟩ := same
    have add : ∀ {v w : Value}, v == w → Concurs (List.Forall₂ SameField)
        (do return (name, v) :: (← fill tag given rest))
        (do return (name, w) :: (← fill tag given' rest')) := by
      intro v w equal
      apply ih.bind
      intro fields fields' filled
      exact .succeed (.cons ⟨rfl, equal⟩ filled)
    have found := Record.rel_find known name
    rw [fill, fill]
    simp only [Roster.get?]
    generalize Roster.find name given.entries = v at found ⊢
    generalize Roster.find name given'.entries = w at found ⊢
    cases found with
    | some equal => exact add equal
    | none =>
      cases alike with
      | required => exact .fail _
      | optional => exact ih
      | defaulted equal => exact add equal

theorem assemble_concurs (same : s == t) (passed : List.Forall₂ SameField arguments arguments') :
    Concurs (· == ·) (s.assemble arguments) (t.assemble arguments') := by
  have names_eq := names_eq_of_beq same
  obtain ⟨tag_eq, declared⟩ := beq_iff.mp same
  rw [assemble, assemble, tag_eq, names_eq]
  split
  · exact .fail _
  · split
    · exact .fail _
    · apply (collect_concurs tag_eq names_eq .nil passed).bind
      intro given given' known
      apply (fill_concurs known declared t.tag).bind
      intro fields fields' made
      exact .succeed (Record.beq_iff.mpr ⟨rfl, made⟩)

end Shape

/-! ### Main result -/

/-- What the operations make of equal things is equal. -/
structure EqualityRespected : Prop where
  /-- Equal shapes, given arguments of the same names with equal values, in the same order, build
  equal records or report the same fault. -/
  build : ∀ (s t : Shape) (arguments arguments' : History Value), s == t →
    List.Forall₂ (fun a b => a.1 = b.1 ∧ a.2 == b.2) arguments arguments' →
    ∃ verdict verdict', s.build arguments = Shape.reported verdict ∧
      t.build arguments' = Shape.reported verdict' ∧ Concurs (· == ·) verdict verdict'
  set : ∀ (r q : Record) (v w : Value), r == q → v == w → ∀ name, r.set name v == q.set name w
  /-- A field is absent from both records, or equal in them. -/
  get? : ∀ r q : Record, r == q → ∀ name, Option.Rel (· == ·) (r.get? name) (q.get? name)

/-- Equality of values, of records and of shapes is symmetric and transitive, and fails for a thing
and itself exactly where that holds a NaN. Of single values a NaN equals none and the two zeros are
equal; otherwise equal values are the same. Building, setting and looking up respect equality. -/
theorem equality_is_partial_congruence :
    PartialEquality Value (fun v => v.isNaN) ∧ PartialEquality Record Record.HoldsNaN ∧
    PartialEquality Shape Shape.HoldsNaN ∧
    (∀ v w : Value, v == w ↔ v.isNaN = false ∧
      (v = w ∨ ∃ x y, v = .float x ∧ w = .float y ∧ x.isZero ∧ y.isZero)) ∧
    EqualityRespected := by
  refine ⟨Value.partialEquality, Record.partialEquality, Shape.partialEquality, ?_, ?_, ?_, ?_⟩
  · exact fun v w => Value.beq_iff
  · intro s t arguments arguments' same passed
    exact ⟨_, _, Shape.build_eq_reported s arguments, Shape.build_eq_reported t arguments',
      Shape.assemble_concurs same passed⟩
  · exact fun r q v w same equal name => Record.set_beq_set same name equal
  · exact fun r q same name => Record.rel_get? same name

/-- A point that lies on an axis unless told otherwise, with a zero of either sign. -/
def pointShape (zero : Binary64) : Shape :=
  ⟨"point", [⟨"x", .required⟩, ⟨"y", .defaulted (.float zero)⟩]⟩

theorem equality_is_partial_congruence_zeros :
    pointShape ⟨0⟩ ≠ pointShape ⟨0x8000000000000000⟩ ∧
    pointShape ⟨0⟩ == pointShape ⟨0x8000000000000000⟩ ∧
    ∃ r q,
      (pointShape ⟨0⟩).build [("x", .float ⟨0x8000000000000000⟩)] = Shape.reported (.ok r) ∧
      (pointShape ⟨0x8000000000000000⟩).build [("x", .float ⟨0⟩)] = Shape.reported (.ok q) ∧
      r == q := by
  have same : pointShape ⟨0⟩ == pointShape ⟨0x8000000000000000⟩ := by decide
  obtain ⟨_, _, built, built', concurs⟩ :=
    equality_is_partial_congruence.2.2.2.2.build _ _ [("x", .float ⟨0x8000000000000000⟩)]
      [("x", .float ⟨0⟩)] same (.cons ⟨rfl, by decide⟩ .nil)
  refine ⟨by decide, same, ?_⟩
  cases concurs with
  | succeed equal => exact ⟨_, _, built, built', equal⟩
  | fail fault => cases congrArg Run.outcome built

end Switchboard
