import Switchboard.Proofs.History
import Switchboard.Proofs.Record.Assembly

/-!
Records as maps in order of insertion.

A caller comes by a record in two ways: from a tag alone, or from a shape
(`Record.Made`). Setting fields keeps the names distinct, and neither way to begin
gives a name twice, although a shape writes its fields without looking for their names
among those that are there. So `made_setAll_ordered` holds of every record that
callers can have: which fields it has, in which order and with which values follows
from where it began and what was set since.
-/

namespace Switchboard

namespace Record

/-! ### Records as callers have them -/

/-- `Made r tag`: a caller comes by the record without setting fields, and gives it the tag. -/
inductive Made : Record → String → Prop where
  /-- A record without fields. -/
  | plain (tag : String) : Made (ofTag tag) tag
  /-- A record built from a shape. -/
  | built {s : Shape} {arguments : History Value} {r : Record} :
      (s.build arguments).outcome = .returned (.ok r) → Made r s.tag

theorem Made.tag_eq {r : Record} {tag : String} (made : r.Made tag) : r.tag = tag := by
  cases made with
  | plain => rfl
  | built built => exact Shape.tag_of_assemble (Shape.build_eq_ok_iff.mp built)

theorem Made.distinct {r : Record} {tag : String} (made : r.Made tag) : r.fields.Distinct := by
  cases made with
  | plain => exact Roster.distinct_empty
  | built built => exact Shape.distinct_of_assemble (Shape.build_eq_ok_iff.mp built)

/-! ### Order of insertion -/

/-- The record has the tag and, as a map in order of insertion, the fields of the record that it
began as, changed by the updates. -/
structure Ordered (r : Record) (tag : String) (start : Record) (updates : History Value) :
    Prop where
  tag_eq : r.tag = tag
  /-- No name is that of two fields. -/
  nodup : r.fields.names.Nodup
  /-- The fields that were there come first, then the new names as they first came. -/
  names_eq : r.fields.names =
    start.fields.names ++ History.fresh start.fields.names (updates.map Prod.fst)
  /-- A field is found exactly where it is listed. -/
  get?_iff_mem : ∀ name value, r.get? name = some value ↔ (name, value) ∈ r.fields.entries
  /-- Its value is that of the last update, or the one that it began with. -/
  get?_eq : ∀ name, r.get? name = (updates.latest name).or (start.get? name)
  /-- There are as many fields as there are different names. -/
  size_eq : r.size = (start.fields.names ++ updates.map Prod.fst).toFinset.card
  isEmpty_iff : r.isEmpty ↔ r.fields.entries = []
  /-- Setting one field leaves every other one at its place and with its value. -/
  set_other : ∀ (name other : String) (value kept : Value), other ≠ name → ∀ i : Nat,
    (r.set name value).fields.entries[i]? = some (other, kept) ↔
      r.fields.entries[i]? = some (other, kept)

/-- Setting fields keeps the names distinct. -/
theorem Made.distinct_setAll {start : Record} {tag : String} (made : start.Made tag)
    (updates : History Value) : (start.setAll updates).fields.Distinct := by
  rw [fields_setAll]
  exact made.distinct.insertAll updates

/-- A record has as many fields as there are different names among those that it began with and
those that were set. -/
theorem Made.size_setAll {start : Record} {tag : String} (made : start.Made tag)
    (updates : History Value) :
    (start.setAll updates).size =
      (start.fields.names ++ updates.map Prod.fst).toFinset.card := by
  rw [size, ← Roster.length_names, names_setAll, History.length_append_fresh made.distinct]

/-- Every record that a caller can have is a map in order of insertion. -/
theorem made_setAll_ordered {start : Record} {tag : String} (made : start.Made tag)
    (updates : History Value) : (start.setAll updates).Ordered tag start updates where
  tag_eq := (tag_setAll start updates).trans made.tag_eq
  nodup := made.distinct_setAll updates
  names_eq := start.names_setAll updates
  get?_iff_mem _ _ := (made.distinct_setAll updates).get?_eq_some_iff
  get?_eq := start.get?_setAll updates
  size_eq := made.size_setAll updates
  isEmpty_iff := List.isEmpty_iff
  set_other _ _ _ _ ne i := Roster.getElem?_insert_of_ne _ ne _ _ i

theorem made_setAll_ordered_parcel :
    Shape.parcel.Made "parcel" ∧
      (Shape.parcel.setAll [("note", .str "a"), ("weight", .int 5), ("note", .str "b")]).Ordered
        "parcel" Shape.parcel [("note", .str "a"), ("weight", .int 5), ("note", .str "b")] := by
  have made : Shape.parcel.Made "parcel" := .built Shape.build_parcelShape
  exact ⟨made, made_setAll_ordered made _⟩

end Record

end Switchboard
