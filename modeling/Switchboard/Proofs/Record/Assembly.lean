import Switchboard.Record.Shape

/-!
What a shape assembles, and when.

A shape assembles a record exactly where its tag is not empty, no name is declared
twice, every argument has a declared name and every required field an argument
(`assemble_eq_ok_iff`). The record then has the shape's tag and a field for each
declaration that has a value (`Declaration.field?`), in declaration order. So its
names are distinct and among those that the shape declares.
-/

namespace Switchboard

/-- A sequence of two steps succeeds exactly where both do. -/
theorem bind_eq_ok_iff {E A B : Type} {first : Except E A} {next : A → Except E B} {b : B} :
    first >>= next = .ok b ↔ ∃ a, first = .ok a ∧ next a = .ok b := by
  cases first with
  | error fault => simp [bind, Except.bind]
  | ok a => simp [bind, Except.bind]

/-! ### Values of declared fields -/

/-- The value of a field that is given no argument. -/
def Presence.default? : Presence → Option Value
  | defaulted value => some value
  | required => none
  | optional => none

namespace Declaration

/-- The value of a declared field: the last argument of its name, else its default. -/
def value? (arguments : History Value) (d : Declaration) : Option Value :=
  (arguments.latest d.name).or d.presence.default?

/-- The field of a declaration that has a value. -/
def field? (arguments : History Value) (d : Declaration) : Option (String × Value) :=
  (d.value? arguments).map fun value => (d.name, value)

theorem field?_eq_some_iff {arguments : History Value} {d : Declaration}
    {field : String × Value} :
    d.field? arguments = some field ↔ field.1 = d.name ∧ d.value? arguments = some field.2 := by
  rw [field?, Option.map_eq_some_iff]
  constructor
  · rintro ⟨value, found, rfl⟩
    exact ⟨rfl, found⟩
  · rintro ⟨name_eq, found⟩
    exact ⟨field.2, found, by rw [← name_eq]⟩

/-- Fields keep the order of the declarations, with one at most for each. -/
theorem sublist_names (arguments : History Value) (declarations : List Declaration) :
    ((declarations.filterMap (field? arguments)).map Prod.fst).Sublist
      (declarations.map name) := by
  induction declarations with
  | nil => exact .slnil
  | cons d rest ih =>
    cases made : d.field? arguments with
    | none =>
      rw [List.filterMap_cons_none made]
      exact ih.cons d.name
    | some field =>
      rw [List.filterMap_cons_some made, List.map_cons, List.map_cons,
        (field?_eq_some_iff.mp made).1]
      exact ih.cons_cons d.name

end Declaration

namespace Shape

/-! ### The two passes -/

/-- Arguments are collected exactly where all their names are declared. -/
theorem collect_eq_ok_iff {s : Shape} {given given' : Roster Value} {arguments : History Value} :
    s.collect given arguments = .ok given' ↔
      (∀ name ∈ arguments.map Prod.fst, name ∈ s.names) ∧ given' = given.insertAll arguments := by
  induction arguments generalizing given with
  | nil => simp [collect, Roster.insertAll, eq_comm]
  | cons argument rest ih =>
    obtain ⟨name, value⟩ := argument
    by_cases declared : name ∈ s.names
    · rw [collect, if_pos declared, ih, List.map_cons, List.forall_mem_cons, and_assoc]
      exact ⟨fun h => ⟨declared, h⟩, fun h => h.2⟩
    · simp [collect, declared]

section Fill

variable {tag : String} {arguments : History Value} {d : Declaration}

/-- A declaration that has a value adds its field. -/
theorem fill_cons_of_value {value : Value} (found : d.value? arguments = some value)
    (rest : List Declaration) :
    fill tag (.ofHistory arguments) (d :: rest) =
      ((d.name, value) :: ·) <$> fill tag (.ofHistory arguments) rest := by
  rw [fill, Roster.get?_ofHistory]
  cases given : arguments.latest d.name with
  | some argument =>
    rw [Declaration.value?, given] at found
    cases found
    rfl
  | none =>
    rw [Declaration.value?, given, Option.none_or] at found
    cases presence : d.presence with
    | required => simp [presence, Presence.default?] at found
    | optional => simp [presence, Presence.default?] at found
    | defaulted default =>
      rw [presence] at found
      cases found
      rfl

/-- A required field without an argument is reported. -/
theorem fill_cons_of_missing (required : d.presence = .required)
    (absent : arguments.latest d.name = none) (rest : List Declaration) :
    fill tag (.ofHistory arguments) (d :: rest) = .error (.missing tag d.name) := by
  rw [fill, Roster.get?_ofHistory, absent, required]

/-- Any other declaration without a value is passed over. -/
theorem fill_cons_of_omitted (omitted : d.value? arguments = none)
    (dispensable : d.presence ≠ .required) (rest : List Declaration) :
    fill tag (.ofHistory arguments) (d :: rest) = fill tag (.ofHistory arguments) rest := by
  obtain ⟨absent, undefaulted⟩ := Option.or_eq_none_iff.mp omitted
  rw [fill, Roster.get?_ofHistory, absent]
  cases presence : d.presence with
  | required => exact absurd presence dispensable
  | optional => rfl
  | defaulted default => simp [presence, Presence.default?] at undefaulted

/-- Declarations are filled exactly where every required field has an argument. -/
theorem fill_eq_ok_iff {declarations : List Declaration} {fields : List (String × Value)} :
    fill tag (.ofHistory arguments) declarations = .ok fields ↔
      (∀ d ∈ declarations, d.presence = .required → d.name ∈ arguments.map Prod.fst) ∧
        fields = declarations.filterMap (Declaration.field? arguments) := by
  induction declarations generalizing fields with
  | nil => simp [fill, eq_comm]
  | cons d rest ih =>
    rw [List.forall_mem_cons, ← History.latest_isSome_iff]
    cases found : d.value? arguments with
    | some value =>
      -- A required field has no default, so it is an argument that gives it the value.
      have given : d.presence = .required → (arguments.latest d.name).isSome := by
        intro required
        rw [Declaration.value?, required] at found
        simpa [Presence.default?] using congrArg Option.isSome found
      have first : d.field? arguments = some (d.name, value) := by
        rw [Declaration.field?, found]
        rfl
      rw [fill_cons_of_value found, List.filterMap_cons_some first]
      rw [map_eq_pure_bind, bind_eq_ok_iff]
      constructor
      · rintro ⟨more, filled, made⟩
        obtain ⟨answered, rfl⟩ := ih.mp filled
        cases made
        exact ⟨⟨given, answered⟩, rfl⟩
      · rintro ⟨⟨_, answered⟩, rfl⟩
        exact ⟨_, ih.mpr ⟨answered, rfl⟩, rfl⟩
    | none =>
      obtain ⟨absent, _⟩ := Option.or_eq_none_iff.mp found
      by_cases required : d.presence = .required
      · rw [fill_cons_of_missing required absent]
        simp [required, absent]
      · rw [fill_cons_of_omitted found required, ih]
        simp [Declaration.field?, found, required]

end Fill

/-! ### Assembling -/

section Assemble

variable {s : Shape} {arguments : History Value} {r : Record}

theorem nodup_names_iff : s.names.Nodup ↔ firstRepeated [] s.names = none := by
  simp [firstRepeated_eq_none_iff]

/-- What a shape that is in order makes of arguments. -/
theorem assemble_of_valid (tagged : s.tag ≠ "") (once : s.names.Nodup)
    (arguments : History Value) :
    s.assemble arguments = do
      let given ← s.collect ∅ arguments
      let fields ← fill s.tag given s.declarations
      return ⟨s.tag, ⟨fields⟩⟩ := by
  rw [assemble, if_neg tagged, nodup_names_iff.mp once]

/-- A record is assembled exactly from a shape that is in order and arguments that fit it. -/
theorem assemble_eq_ok_iff :
    s.assemble arguments = .ok r ↔
      s.tag ≠ "" ∧ s.names.Nodup ∧
        (∀ name ∈ arguments.map Prod.fst, name ∈ s.names) ∧
        (∀ d ∈ s.declarations, d.presence = .required → d.name ∈ arguments.map Prod.fst) ∧
        r = ⟨s.tag, ⟨s.declarations.filterMap (Declaration.field? arguments)⟩⟩ := by
  constructor
  · intro assembled
    have tagged : s.tag ≠ "" := by
      intro untagged
      simp [assemble, untagged] at assembled
    have once : s.names.Nodup := by
      rw [nodup_names_iff, Option.eq_none_iff_forall_ne_some]
      intro name repeated
      simp [assemble, tagged, repeated] at assembled
    rw [assemble_of_valid tagged once] at assembled
    obtain ⟨given, collected, rest⟩ := bind_eq_ok_iff.mp assembled
    obtain ⟨declared, rfl⟩ := collect_eq_ok_iff.mp collected
    obtain ⟨fields, filled, made⟩ := bind_eq_ok_iff.mp rest
    obtain ⟨answered, rfl⟩ := fill_eq_ok_iff.mp filled
    cases made
    exact ⟨tagged, once, declared, answered, rfl⟩
  · rintro ⟨tagged, once, declared, answered, rfl⟩
    rw [assemble_of_valid tagged once]
    exact bind_eq_ok_iff.mpr ⟨_, collect_eq_ok_iff.mpr ⟨declared, rfl⟩,
      bind_eq_ok_iff.mpr ⟨_, fill_eq_ok_iff.mpr ⟨answered, rfl⟩, rfl⟩⟩

theorem tag_of_assemble (assembled : s.assemble arguments = .ok r) : r.tag = s.tag := by
  obtain ⟨_, _, _, _, rfl⟩ := assemble_eq_ok_iff.mp assembled
  rfl

/-- No name is declared twice where a record is assembled, so none is given two fields. -/
theorem distinct_of_assemble (assembled : s.assemble arguments = .ok r) : r.fields.Distinct := by
  obtain ⟨_, once, _, _, rfl⟩ := assemble_eq_ok_iff.mp assembled
  exact (Declaration.sublist_names arguments s.declarations).nodup once

/-- Building adds a report to assembling, and changes nothing of what comes out. -/
theorem build_eq_ok_iff :
    (s.build arguments).outcome = .returned (.ok r) ↔ s.assemble arguments = .ok r := by
  rw [outcome_build, Outcome.returned.injEq]

end Assemble

/-! ### An example -/

/-- A shape with a field that must be given, one with a default and one that may be left out. -/
def parcelShape : Shape :=
  ⟨"parcel", [⟨"weight", .required⟩, ⟨"colour", .defaulted (.str "red")⟩, ⟨"note", .optional⟩]⟩

/-- A parcel of weight three. -/
def parcel : Record :=
  ⟨"parcel", ⟨[("weight", .int 3), ("colour", .str "red")]⟩⟩

theorem build_parcelShape :
    (parcelShape.build [("weight", .int 2), ("weight", .int 3)]).outcome =
      .returned (.ok parcel) := rfl

end Shape

end Switchboard
