import Switchboard.Roster
import Switchboard.Value

/-!
Records: a tag with named values.

The fields form a roster, so setting a field replaces the value of a name that is
present and adds any other name at the end. `==` asks for the same tag and, in
the same order, the same names with equal values.
-/

namespace Switchboard

/-- A tag with fields. -/
structure Record where
  tag : String
  fields : Roster Value
deriving DecidableEq, Repr, Inhabited

namespace Record

/-! ### Operations -/

/-- A record without fields. -/
def ofTag (tag : String) : Record := ⟨tag, ∅⟩

/-- Give a field a value. -/
def set (r : Record) (name : String) (value : Value) : Record :=
  { r with fields := r.fields.insert name value }

/-- Set each field in turn. -/
def setAll (r : Record) (fields : History Value) : Record :=
  fields.foldl (fun acc field => acc.set field.1 field.2) r

/-- The value of a field. -/
def get? (r : Record) (name : String) : Option Value :=
  r.fields.get? name

/-- The characters of a field that holds a string. -/
def getStr? (r : Record) (name : String) : Option String :=
  (r.get? name).bind Value.str?

/-- The number of a field that holds an integer. -/
def getInt? (r : Record) (name : String) : Option Int64 :=
  (r.get? name).bind Value.int?

/-- The number of fields. -/
def size (r : Record) : Nat :=
  r.fields.size

def isEmpty (r : Record) : Bool :=
  r.fields.isEmpty

@[simp] theorem tag_ofTag (tag : String) : (ofTag tag).tag = tag := rfl

@[simp] theorem tag_set (r : Record) (name : String) (value : Value) :
    (r.set name value).tag = r.tag := rfl

@[simp] theorem setAll_nil (r : Record) : r.setAll [] = r := rfl

theorem setAll_cons (r : Record) (field : String × Value) (fields : History Value) :
    r.setAll (field :: fields) = (r.set field.1 field.2).setAll fields := rfl

/-- Setting fields in turn is inserting them in turn. -/
theorem setAll_eq (r : Record) (fields : History Value) :
    r.setAll fields = ⟨r.tag, r.fields.insertAll fields⟩ := by
  induction fields generalizing r with
  | nil => rfl
  | cons field rest ih =>
    rw [setAll_cons, ih]
    rfl

@[simp] theorem tag_setAll (r : Record) (fields : History Value) :
    (r.setAll fields).tag = r.tag := by
  rw [setAll_eq]

@[simp] theorem fields_setAll (r : Record) (fields : History Value) :
    (r.setAll fields).fields = r.fields.insertAll fields := by
  rw [setAll_eq]

theorem get?_set (r : Record) (name other : String) (value : Value) :
    (r.set name value).get? other = if other = name then some value else r.get? other :=
  r.fields.get?_insert name other value

theorem names_setAll (r : Record) (fields : History Value) :
    (r.setAll fields).fields.names =
      r.fields.names ++ History.fresh r.fields.names (fields.map Prod.fst) := by
  rw [fields_setAll, Roster.names_insertAll]

theorem get?_setAll (r : Record) (fields : History Value) (name : String) :
    (r.setAll fields).get? name = (fields.latest name).or (r.get? name) := by
  rw [get?, fields_setAll, Roster.get?_insertAll, get?]

/-! ### Text -/

/-- A field as the pair of its name and value. -/
def fieldOutline (field : String × Value) : Outline :=
  .tuple "" [.text field.1, field.2.outline]

def outline (r : Record) : Outline :=
  .struct "Record" [
    ("tag", .text r.tag),
    ("fields", .list (r.fields.entries.map fieldOutline))]

/-! ### Equality -/

/-- The same names with equal values, in the same order. -/
def sameFields : List (String × Value) → List (String × Value) → Bool
  | [], [] => true
  | (m, a) :: rest, (n, b) :: rest' => m = n && a == b && sameFields rest rest'
  | _, _ => false

/-- The same tag and the same fields. -/
def equal (r s : Record) : Bool :=
  r.tag = s.tag && sameFields r.fields.entries s.fields.entries

instance : BEq Record := ⟨equal⟩

theorem sameFields_self_iff {fields : List (String × Value)} :
    sameFields fields fields ↔ ∀ field ∈ fields, field.2.isNaN = false := by
  induction fields with
  | nil => simp [sameFields]
  | cons field rest ih =>
    obtain ⟨name, value⟩ := field
    simp [sameFields, ih, Value.beq_self_iff]

theorem beq_self_iff {r : Record} :
    r == r ↔ ∀ field ∈ r.fields.entries, field.2.isNaN = false := by
  change r.equal r ↔ _
  simp [equal, sameFields_self_iff]

end Record

end Switchboard
