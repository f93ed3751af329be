import Mathlib.Data.List.Basic
import Switchboard.Proofs.Record.Assembly

/-!
Which records a shape builds, and that building them again changes nothing.

A default becomes a field where no argument takes its place, so the fields of a built
record are arguments that build it: they give every required field, each default is among
them and an optional field that was left out is left out again. What they cannot change
is the order, which is that of the declarations. Hence a shape builds the records that
have its tag and, in declaration order, all fields that are not optional
(`Shape.Admits`), and each of them from its own fields (`build_iff_admits`).
-/

namespace Switchboard

/-- The record has the shape's tag and, in declaration order, fields of the declared names. Of
these only optional ones may be left out. -/
structure Shape.Admits (s : Shape) (r : Record) : Prop where
  tag_eq : r.tag = s.tag
  sublist_names : r.fields.names.Sublist s.names
  mem_names : ∀ d ∈ s.declarations, d.presence ≠ .optional → d.name ∈ r.fields.names

namespace Declaration

variable {arguments : History Value} {d : Declaration}

/-! ### Values of single declarations -/

/-- Only an optional field may be without a value where the required ones are given. -/
theorem exists_value_of_ne_optional (needed : d.presence ≠ .optional)
    (answered : d.presence = .required → d.name ∈ arguments.map Prod.fst) :
    ∃ value, d.value? arguments = some value := by
  rw [← Option.isSome_iff_exists, value?, Option.isSome_or, Bool.or_eq_true]
  cases presence : d.presence with
  | required => exact .inl (History.latest_isSome_iff.mpr (answered presence))
  | optional => exact absurd presence needed
  | defaulted value => exact .inr rfl

/-- A single argument of the name is the value. -/
theorem field?_cons_self {rest : History Value} (single : d.name ∉ rest.map Prod.fst)
    (value : Value) : d.field? ((d.name, value) :: rest) = some (d.name, value) := by
  rw [field?_eq_some_iff, value?, History.latest, History.latest_eq_none_iff.mpr single,
    if_pos rfl]
  exact ⟨rfl, rfl⟩

/-- Arguments of other names do not matter. -/
theorem field?_cons_of_ne {argument : String × Value} (ne : d.name ≠ argument.1)
    (rest : History Value) : d.field? (argument :: rest) = d.field? rest := by
  rw [field?, field?, value?, value?, History.latest, if_neg ne, Option.or_none]

/-- An optional field without an argument is left out. -/
theorem field?_of_optional (optional : d.presence = .optional)
    (absent : d.name ∉ arguments.map Prod.fst) : d.field? arguments = none := by
  rw [field?, value?, History.latest_eq_none_iff.mpr absent, optional]
  rfl

/-! ### Values of all declarations -/

/-- Arguments in declaration order, one at most for each declaration and one for each that is not
optional, are the fields that they lead to. -/
theorem filterMap_field?_of_sublist {declarations : List Declaration} {fields : History Value}
    (once : (declarations.map name).Nodup)
    (ordered : (fields.map Prod.fst).Sublist (declarations.map name))
    (needed : ∀ d ∈ declarations, d.presence ≠ .optional → d.name ∈ fields.map Prod.fst) :
    declarations.filterMap (field? fields) = fields := by
  induction declarations generalizing fields with
  | nil =>
    rw [List.map_nil, List.sublist_nil, List.map_eq_nil_iff] at ordered
    rw [ordered, List.filterMap_nil]
  | cons d rest ih =>
    obtain ⟨fresh, once⟩ := List.nodup_cons.mp once
    obtain ⟨first_needed, needed⟩ := List.forall_mem_cons.mp needed
    generalize listed : fields.map Prod.fst = names at ordered
    cases ordered with
    | cons _ ordered =>
      -- Nothing is given for the first declaration.
      rw [← listed] at ordered
      have absent : d.name ∉ fields.map Prod.fst := fun mem => fresh (ordered.subset mem)
      have optional : d.presence = .optional := by
        by_contra mandatory
        exact absent (first_needed mandatory)
      rw [List.filterMap_cons_none (field?_of_optional optional absent)]
      exact ih once ordered needed
    | cons_cons _ ordered =>
      -- The first argument is that of the first declaration, and it is the only one of the name.
      obtain ⟨⟨_, value⟩, more, rfl, rfl, rfl⟩ := List.map_eq_cons_iff.mp listed
      have single : d.name ∉ more.map Prod.fst := fun mem => fresh (ordered.subset mem)
      have ne : ∀ e ∈ rest, e.name ≠ d.name := by
        intro e mem same
        exact fresh (same ▸ List.mem_map_of_mem mem)
      have others : rest.filterMap (field? ((d.name, value) :: more)) =
          rest.filterMap (field? more) :=
        List.filterMap_congr fun e mem => field?_cons_of_ne (ne e mem) more
      have others_needed : ∀ e ∈ rest, e.presence ≠ .optional → e.name ∈ more.map Prod.fst := by
        intro e mem mandatory
        exact (List.mem_cons.mp (needed e mem mandatory)).resolve_left (ne e mem)
      rw [List.filterMap_cons_some (field?_cons_self single value), others,
        ih once ordered others_needed]

end Declaration

namespace Shape

variable {s : Shape} {r : Record}

/-! ### Records of a shape -/

theorem admits_of_assemble {arguments : History Value} (assembled : s.assemble arguments = .ok r) :
    s.Admits r := by
  obtain ⟨_, _, _, answered, rfl⟩ := assemble_eq_ok_iff.mp assembled
  refine ⟨rfl, Declaration.sublist_names arguments s.declarations, ?_⟩
  intro d mem needed
  obtain ⟨value, found⟩ := Declaration.exists_value_of_ne_optional needed (answered d mem)
  have made : d.field? arguments = some (d.name, value) :=
    Declaration.field?_eq_some_iff.mpr ⟨rfl, found⟩
  exact List.mem_map_of_mem (List.mem_filterMap.mpr ⟨d, mem, made⟩)

/-- The fields of such a record are arguments that lead to it. -/
theorem Admits.assemble_entries (admits : s.Admits r) (tagged : s.tag ≠ "")
    (once : s.names.Nodup) : s.assemble r.fields.entries = .ok r := by
  have same := Declaration.filterMap_field?_of_sublist once admits.sublist_names admits.mem_names
  refine assemble_eq_ok_iff.mpr ⟨tagged, once, ?_, ?_, ?_⟩
  · intro name mem
    exact admits.sublist_names.subset mem
  · intro d mem required
    apply admits.mem_names d mem
    simp [required]
  · rw [same, ← admits.tag_eq]

/-- A record is built from some arguments exactly where it has the shape's tag and, in declaration
order, fields of declared names, the required and the defaulted ones among them; and exactly then
it is built from its own fields, with the same values in the same order. -/
theorem build_iff_admits (tagged : s.tag ≠ "") (once : s.names.Nodup) (r : Record) :
    ((∃ arguments, (s.build arguments).outcome = .returned (.ok r)) ↔ s.Admits r) ∧
      ((s.build r.fields.entries).outcome = .returned (.ok r) ↔ s.Admits r) := by
  simp only [build_eq_ok_iff]
  have rebuilt : s.Admits r → s.assemble r.fields.entries = .ok r := by
    intro admits
    exact admits.assemble_entries tagged once
  constructor
  · constructor
    · rintro ⟨arguments, assembled⟩
      exact admits_of_assemble assembled
    · intro admits
      exact ⟨r.fields.entries, rebuilt admits⟩
  · exact ⟨admits_of_assemble, rebuilt⟩

/-- A parcel whose weight is no number, in a colour other than the default. -/
def oddParcel : Record :=
  ⟨"parcel", ⟨[("weight", .float ⟨0x7ff8000000000001⟩), ("colour", .str "blue")]⟩⟩

/-- The same fields in the other order. -/
def turnedParcel : Record :=
  ⟨"parcel", ⟨oddParcel.fields.entries.reverse⟩⟩

theorem build_iff_admits_parcel :
    parcelShape.tag ≠ "" ∧ parcelShape.names.Nodup ∧
      (parcelShape.build oddParcel.fields.entries).outcome = .returned (.ok oddParcel) ∧
      ¬ ∃ arguments, (parcelShape.build arguments).outcome = .returned (.ok turnedParcel) := by
  have tagged : parcelShape.tag ≠ "" := by decide
  have once : parcelShape.names.Nodup := by decide
  have admits : parcelShape.Admits oddParcel := by
    refine ⟨rfl, by decide, ?_⟩
    simp [parcelShape, oddParcel, Roster.names]
  refine ⟨tagged, once, (build_iff_admits tagged once oddParcel).2.mpr admits, ?_⟩
  intro built
  have turned := ((build_iff_admits tagged once turnedParcel).1.mp built).sublist_names
  exact absurd turned (by decide)

end Shape

end Switchboard
