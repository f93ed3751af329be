import Switchboard.Proofs.History
import Switchboard.Proofs.Record.Rebuilding
import Switchboard.Proofs.Record.Verdict

/-!
What a record shows of the arguments that it was built from.

A shape collects arguments in a roster, in the order in which they came. It then goes through its
own declarations and asks the roster for one name after the other, so all that it reads is the
last argument of each name (`Shape.fill_congr`), and lists that agree on these build the same
record or meet the same fault. Only a name that is not declared is reported while the
arguments are still gone through, and each list has its own first one
(`build_reads_last_arguments`).

An argument behind the others is then read by the declaration of its name alone
(`Declaration.exists_fields_around`). Where the record had the field, this changes its value in
place; where it had not, the field comes in between those of the declarations around its own
(`extra_argument_sets_field`).
-/

namespace Switchboard

namespace Declaration

variable {arguments arguments' : History Value} {d : Declaration}

/-! ### Fields of single declarations -/

/-- A declaration reads the last argument of its name. -/
theorem field?_congr (same : arguments.latest d.name = arguments'.latest d.name) :
    d.field? arguments = d.field? arguments' := by
  rw [field?, field?, value?, value?, same]

theorem field?_append_self (arguments : History Value) (value : Value) :
    d.field? (arguments ++ [(d.name, value)]) = some (d.name, value) := by
  rw [field?_eq_some_iff, value?, History.latest_append_self]
  exact ⟨rfl, rfl⟩

/-- Declarations of other names do not see the argument. -/
theorem filterMap_append_of_ne {declarations : List Declaration} {name : String}
    (ne : ∀ d ∈ declarations, d.name ≠ name) (arguments : History Value) (value : Value) :
    declarations.filterMap (field? (arguments ++ [(name, value)])) =
      declarations.filterMap (field? arguments) :=
  List.filterMap_congr fun d mem => field?_congr (History.latest_append_of_ne _ (ne d mem) value)

/-- A declaration whose name is not declared twice has a place of its own among the fields. There
stands its field, if it has one, and an argument behind the others puts its value there. -/
theorem exists_fields_around {declarations : List Declaration}
    (once : (declarations.map Declaration.name).Nodup) (mem : d ∈ declarations)
    (arguments : History Value) :
    ∃ before after : List (String × Value),
      d.name ∉ before.map Prod.fst ∧ d.name ∉ after.map Prod.fst ∧
      declarations.filterMap (field? arguments) =
        before ++ (d.field? arguments).toList ++ after ∧
      ∀ value, declarations.filterMap (field? (arguments ++ [(d.name, value)])) =
        before ++ (d.name, value) :: after := by
  obtain ⟨first, rest, rfl⟩ := List.append_of_mem mem
  rw [List.map_append, List.map_cons, List.nodup_middle, List.nodup_cons, List.mem_append,
    not_or] at once
  obtain ⟨⟨earlier, later⟩, _⟩ := once
  have ne_first : ∀ e ∈ first, e.name ≠ d.name := by
    intro e listed same
    exact earlier (same ▸ List.mem_map_of_mem listed)
  have ne_rest : ∀ e ∈ rest, e.name ≠ d.name := by
    intro e listed same
    exact later (same ▸ List.mem_map_of_mem listed)
  refine ⟨first.filterMap (field? arguments), rest.filterMap (field? arguments), ?_, ?_, ?_, ?_⟩
  · exact fun made => earlier ((sublist_names arguments first).subset made)
  · exact fun made => later ((sublist_names arguments rest).subset made)
  · rw [List.filterMap_append, List.append_assoc]
    cases made : d.field? arguments with
    | none => rw [List.filterMap_cons_none made, Option.toList_none, List.nil_append]
    | some field => rw [List.filterMap_cons_some made, Option.toList_some, List.singleton_append]
  · intro value
    rw [List.filterMap_append, List.filterMap_cons_some (field?_append_self arguments value),
      filterMap_append_of_ne ne_first, filterMap_append_of_ne ne_rest]

end Declaration

namespace Shape

variable {s : Shape} {arguments arguments' : History Value}

/-! ### The same last arguments -/

/-- Filling asks for the arguments by name, whatever their order. -/
theorem fill_congr {given given' : Roster Value} (same : given.get? = given'.get?) (tag : String)
    (declarations : List Declaration) :
    fill tag given declarations = fill tag given' declarations := by
  induction declarations with
  | nil => rfl
  | cons d rest ih => rw [fill, fill, same, ih]

theorem assemble_congr (same : ∀ name, arguments.latest name = arguments'.latest name)
    (declared : ∀ name ∈ arguments.map Prod.fst, name ∈ s.names) :
    s.assemble arguments = s.assemble arguments' := by
  have declared' : ∀ name ∈ arguments'.map Prod.fst, name ∈ s.names := by
    intro name mem
    exact declared name ((History.mem_iff_of_latest_eq same name).mpr mem)
  have collected : s.collect ∅ arguments = .ok (.ofHistory arguments) :=
    collect_eq_ok_iff.mpr ⟨declared, rfl⟩
  have collected' : s.collect ∅ arguments' = .ok (.ofHistory arguments') :=
    collect_eq_ok_iff.mpr ⟨declared', rfl⟩
  have filled := fill_congr (Roster.get?_ofHistory_congr same) s.tag s.declarations
  simp only [assemble, collected, collected', bind, Except.bind, filled]

theorem build_of_decides {verdict : Except RecordFault Record}
    (decides : s.Decides arguments verdict) : s.build arguments = reported verdict := by
  rw [build_eq_reported, assemble_of_decides decides]

/-- What the shape says to two lists of arguments of the same names, one of which is not declared.
A defect of the shape itself is the same for both; else each list is told its own first name that
is not declared. -/
inductive Refuses (s : Shape) (arguments arguments' : History Value) :
    RecordFault → RecordFault → Prop where
  | untagged : s.tag = "" → Refuses s arguments arguments' .untagged .untagged
  | redeclared {before after : List String} {name : String} :
      s.tag ≠ "" → s.names = before ++ name :: after → before.Nodup → name ∈ before →
      Refuses s arguments arguments' (.redeclared s.tag name) (.redeclared s.tag name)
  | undeclared {argument argument' : String × Value} :
      s.tag ≠ "" → s.names.Nodup →
      arguments.find? (fun argument => argument.1 ∉ s.names) = some argument →
      arguments'.find? (fun argument => argument.1 ∉ s.names) = some argument' →
      Refuses s arguments arguments' (.undeclared s.tag argument.1) (.undeclared s.tag argument'.1)

/-- A list with a name that is not declared has a first one. -/
theorem exists_first_undeclared (undeclared : ∃ name ∈ arguments.map Prod.fst, name ∉ s.names) :
    ∃ argument, arguments.find? (fun argument => argument.1 ∉ s.names) = some argument := by
  obtain ⟨name, mem, undeclared⟩ := undeclared
  obtain ⟨argument, listed, rfl⟩ := List.mem_map.mp mem
  rw [← Option.isSome_iff_exists, List.find?_isSome]
  exact ⟨argument, listed, by simpa using undeclared⟩

/-- Names that are not declared are refused, unless the shape is at fault first. -/
theorem exists_refuses (undeclared : ∃ name ∈ arguments.map Prod.fst, name ∉ s.names)
    (undeclared' : ∃ name ∈ arguments'.map Prod.fst, name ∉ s.names) :
    ∃ fault fault', s.Decides arguments (.error fault) ∧ s.Decides arguments' (.error fault') ∧
      s.Refuses arguments arguments' fault fault' := by
  obtain ⟨argument, first⟩ := exists_first_undeclared undeclared
  obtain ⟨argument', first'⟩ := exists_first_undeclared undeclared'
  by_cases tagged : s.tag = ""
  · exact ⟨_, _, .untagged tagged, .untagged tagged, .untagged tagged⟩
  cases repeated : firstRepeated [] s.names with
  | some name =>
    obtain ⟨before, after, split, passed, again⟩ := firstRepeated_eq_some_iff.mp repeated
    have nodup := firstRepeated_nil_eq_none_iff.mp passed
    have twice := again.resolve_left List.not_mem_nil
    exact ⟨_, _, .redeclared tagged split nodup twice, .redeclared tagged split nodup twice,
      .redeclared tagged split nodup twice⟩
  | none =>
    have once := firstRepeated_nil_eq_none_iff.mp repeated
    exact ⟨_, _, .undeclared tagged once first, .undeclared tagged once first',
      .undeclared tagged once first first'⟩

/-- Take two lists of arguments with the same names and the same last argument of each. If all the
names are declared, building from either is the same run: the same record, with its fields in the
same order, or the same fault. If some name is not declared, both builds fail, and if the shape is
in order each names the first such name of its own list. -/
theorem build_reads_last_arguments (s : Shape)
    (same : ∀ name, arguments.latest name = arguments'.latest name) :
    ((∀ name ∈ arguments.map Prod.fst, name ∈ s.names) → s.build arguments = s.build arguments') ∧
    ((∃ name ∈ arguments.map Prod.fst, name ∉ s.names) →
      ∃ fault fault', s.build arguments = reported (.error fault) ∧
        s.build arguments' = reported (.error fault') ∧
        s.Refuses arguments arguments' fault fault') := by
  constructor
  · intro declared
    rw [build_eq_reported, build_eq_reported, assemble_congr same declared]
  · intro undeclared
    have undeclared' : ∃ name ∈ arguments'.map Prod.fst, name ∉ s.names := by
      obtain ⟨name, mem, undeclared⟩ := undeclared
      exact ⟨name, (History.mem_iff_of_latest_eq same name).mp mem, undeclared⟩
    obtain ⟨fault, fault', decides, decides', refuses⟩ := exists_refuses undeclared undeclared'
    exact ⟨fault, fault', build_of_decides decides, build_of_decides decides', refuses⟩

/-- A shape whose optional field lies between the others. -/
def letterShape : Shape :=
  ⟨"letter", [⟨"to", .required⟩, ⟨"via", .optional⟩, ⟨"stamps", .defaulted (.int 1)⟩]⟩

/-- Arguments for a parcel; the first of its two weights is replaced. -/
def replacedArguments : History Value :=
  [("weight", .int 2), ("colour", .str "blue"), ("weight", .int 3)]

/-- The arguments that are left where replaced ones are left out. -/
def lastArguments : History Value :=
  [("colour", .str "blue"), ("weight", .int 3)]

theorem build_reads_last_arguments_replaced :
    (∀ name, replacedArguments.latest name = lastArguments.latest name) ∧
    parcelShape.build replacedArguments = parcelShape.build lastArguments ∧
    ∃ fault fault', letterShape.build replacedArguments = reported (.error fault) ∧
      letterShape.build lastArguments = reported (.error fault') ∧
      letterShape.Refuses replacedArguments lastArguments fault fault' := by
  have same : ∀ name, replacedArguments.latest name = lastArguments.latest name := by
    intro name
    by_cases weight : name = "weight"
    · subst weight
      rfl
    · simp [replacedArguments, lastArguments, History.latest, weight]
  refine ⟨same, (build_reads_last_arguments parcelShape same).1 ?_,
    (build_reads_last_arguments letterShape same).2 ⟨"weight", ?_, by decide⟩⟩
  · simp [replacedArguments, parcelShape, names]
  · simp [replacedArguments]

/-! ### One argument more -/

/-- The record is the other one with a field added, at the place that the shape gives it. -/
structure Places (s : Shape) (name : String) (value : Value) (r r' : Record) : Prop where
  tag_eq : r'.tag = r.tag
  /-- All other fields keep their values and their order. -/
  split : ∃ before after, r.fields.entries = before ++ after ∧
    r'.fields.entries = before ++ (name, value) :: after
  /-- The fields are in declaration order. -/
  sublist_names : r'.fields.names.Sublist s.names
  /-- But for their order they are the fields that setting this one leads to. -/
  perm_set : r'.fields.entries.Perm (r.set name value).fields.entries
  size_eq : r'.size = r.size + 1

/-- A value changed in place is a field set. -/
theorem eq_set_of_split {r r' : Record} {name : String} {old value : Value}
    {before after : List (String × Value)} (tag_eq : r'.tag = r.tag)
    (split : r.fields.entries = before ++ (name, old) :: after)
    (split' : r'.fields.entries = before ++ (name, value) :: after)
    (earlier : name ∉ before.map Prod.fst) : r' = r.set name value := by
  obtain ⟨tag, ⟨entries⟩⟩ := r'
  have replaced := Roster.entries_insert_of_split split earlier value
  simp only at tag_eq split'
  rw [tag_eq, split', ← replaced]
  rfl

/-- A field that comes in between has only its place from the shape; setting it would add it behind
the others. -/
theorem places_of_split {r r' : Record} {name : String} {value : Value}
    {before after : List (String × Value)} (tag_eq : r'.tag = r.tag)
    (split : r.fields.entries = before ++ after)
    (split' : r'.fields.entries = before ++ (name, value) :: after)
    (absent : name ∉ r.fields.names) (ordered : r'.fields.names.Sublist s.names) :
    s.Places name value r r' where
  tag_eq := tag_eq
  split := ⟨before, after, split, split'⟩
  sublist_names := ordered
  perm_set := by
    have added := Roster.put_append absent value []
    rw [List.append_nil] at added
    change List.Perm _ (Roster.put name value r.fields.entries)
    rw [added, split, split']
    exact List.perm_middle.trans (List.perm_append_singleton _ _).symm
  size_eq := by
    simp [Record.size, Roster.size, split, split', Nat.add_assoc]

/-- One argument more is no reason to refuse what was built, if its name is declared. -/
theorem exists_assemble_append {r : Record} (assembled : s.assemble arguments = .ok r)
    {d : Declaration} (listed : d ∈ s.declarations) (value : Value) :
    ∃ r' before after, s.assemble (arguments ++ [(d.name, value)]) = .ok r' ∧ r'.tag = r.tag ∧
      d.name ∉ before.map Prod.fst ∧ d.name ∉ after.map Prod.fst ∧
      r.fields.entries = before ++ (d.field? arguments).toList ++ after ∧
      r'.fields.entries = before ++ (d.name, value) :: after := by
  obtain ⟨tagged, once, known, answered, rfl⟩ := assemble_eq_ok_iff.mp assembled
  obtain ⟨before, after, earlier, later, entries_eq, entries_eq'⟩ :=
    Declaration.exists_fields_around once listed arguments
  refine ⟨_, before, after, assemble_eq_ok_iff.mpr ⟨tagged, once, ?_, ?_, rfl⟩, rfl, earlier,
    later, entries_eq, entries_eq' value⟩
  · simp only [List.map_append, List.mem_append]
    rintro name (mem | mem)
    · exact known name mem
    · rw [List.mem_singleton.mp mem]
      exact List.mem_map_of_mem listed
  · intro e mem required
    rw [List.map_append, List.mem_append]
    exact .inl (answered e mem required)

/-- A record has, of what is declared, what the arguments lead to. -/
theorem get?_of_assemble {r : Record} (assembled : s.assemble arguments = .ok r)
    {d : Declaration} (listed : d ∈ s.declarations) :
    r.get? d.name = d.value? arguments := by
  have distinct := distinct_of_assemble assembled
  obtain ⟨_, once, _, _, rfl⟩ := assemble_eq_ok_iff.mp assembled
  obtain ⟨before, after, earlier, later, split, _⟩ :=
    Declaration.exists_fields_around once listed arguments
  ext value
  have other : ∀ part : List (String × Value), d.name ∉ part.map Prod.fst →
      (d.name, value) ∉ part := fun _ absent mem => absent (List.mem_map_of_mem mem)
  rw [Record.get?, distinct.get?_eq_some_iff, split, List.mem_append, List.mem_append,
    or_iff_left (other after later), or_iff_right (other before earlier), Option.mem_toList,
    Declaration.field?_eq_some_iff]
  exact and_iff_right rfl

theorem assemble_append_of_some {r : Record} (assembled : s.assemble arguments = .ok r)
    {d : Declaration} (listed : d ∈ s.declarations) {old : Value}
    (found : d.value? arguments = some old) (value : Value) :
    s.assemble (arguments ++ [(d.name, value)]) = .ok (r.set d.name value) := by
  obtain ⟨r', before, after, assembled', tag_eq, earlier, _, split, split'⟩ :=
    exists_assemble_append assembled listed value
  rw [Declaration.field?, found, Option.map_some, Option.toList_some, List.append_assoc,
    List.singleton_append] at split
  rw [assembled', eq_set_of_split tag_eq split split' earlier]

theorem exists_places_of_none {r : Record} (assembled : s.assemble arguments = .ok r)
    {d : Declaration} (listed : d ∈ s.declarations) (omitted : d.value? arguments = none)
    (value : Value) :
    ∃ r', s.assemble (arguments ++ [(d.name, value)]) = .ok r' ∧ s.Places d.name value r r' := by
  obtain ⟨r', before, after, assembled', tag_eq, earlier, later, split, split'⟩ :=
    exists_assemble_append assembled listed value
  rw [Declaration.field?, omitted, Option.map_none, Option.toList_none, List.append_nil] at split
  have absent : d.name ∉ r.fields.names := by
    rw [Roster.names, split, List.map_append, List.mem_append, not_or]
    exact ⟨earlier, later⟩
  have ordered := (admits_of_assemble assembled').sublist_names
  exact ⟨r', assembled', places_of_split tag_eq split split' absent ordered⟩

/-- Only an optional field that was not given is left out of a record. -/
theorem optional_of_omitted {r : Record} (assembled : s.assemble arguments = .ok r)
    {d : Declaration} (listed : d ∈ s.declarations) (omitted : d.value? arguments = none) :
    d.presence = .optional ∧ d.name ∉ arguments.map Prod.fst := by
  obtain ⟨_, _, _, answered, _⟩ := assemble_eq_ok_iff.mp assembled
  constructor
  · by_contra needed
    obtain ⟨value, found⟩ := Declaration.exists_value_of_ne_optional needed (answered d listed)
    rw [omitted] at found
    cases found
  · exact History.latest_eq_none_iff.mp (Option.or_eq_none_iff.mp omitted).1

/-- Where a record is built, an argument behind the others is only refused for its own name. -/
theorem decides_undeclared_append {r : Record} (assembled : s.assemble arguments = .ok r)
    {name : String} (undeclared : name ∉ s.names) (value : Value) :
    s.Decides (arguments ++ [(name, value)]) (.error (.undeclared s.tag name)) := by
  obtain ⟨tagged, once, known, _, _⟩ := assemble_eq_ok_iff.mp assembled
  have passed : arguments.find? (fun argument => argument.1 ∉ s.names) = none := by
    simpa using known
  have first : (arguments ++ [(name, value)]).find? (fun argument => argument.1 ∉ s.names) =
      some (name, value) := by
    rw [List.find?_append, passed, Option.none_or,
      List.find?_cons_of_pos (by simpa using undeclared)]
  exact .undeclared tagged once first

/-- Build a record, and then another one with one argument more. If its name is declared there is
such a record. It is the first one with this field set, if that has the field, from an argument or
by default. If it has not, the field is optional and was not given; it is then added in its place
among the others, which stay as they are. A name that is not declared is reported. -/
theorem extra_argument_sets_field {r : Record}
    (built : (s.build arguments).outcome = .returned (.ok r)) (name : String) (value : Value) :
    (name ∈ s.names → ∃ r', s.build (arguments ++ [(name, value)]) = reported (.ok r') ∧
      ((r.get? name).isSome → r' = r.set name value) ∧
      (r.get? name = none → ⟨name, .optional⟩ ∈ s.declarations ∧
        name ∉ arguments.map Prod.fst ∧ s.Places name value r r')) ∧
    (name ∉ s.names →
      s.build (arguments ++ [(name, value)]) = reported (.error (.undeclared s.tag name))) := by
  have assembled := build_eq_ok_iff.mp built
  constructor
  · intro declared
    obtain ⟨d, listed, rfl⟩ := List.mem_map.mp declared
    rw [get?_of_assemble assembled listed]
    cases found : d.value? arguments with
    | some old =>
      have assembled' := assemble_append_of_some assembled listed found value
      refine ⟨r.set d.name value, ?_, fun _ => rfl, ?_⟩
      · rw [build_eq_reported, assembled']
      · intro absent
        cases absent
    | none =>
      obtain ⟨r', assembled', places⟩ := exists_places_of_none assembled listed found value
      obtain ⟨optional, omitted⟩ := optional_of_omitted assembled listed found
      refine ⟨r', ?_, ?_, fun _ => ⟨optional ▸ listed, omitted, places⟩⟩
      · rw [build_eq_reported, assembled']
      · intro present
        cases present
  · intro undeclared
    exact build_of_decides (decides_undeclared_append assembled undeclared value)

/-- A letter with the stamps that it has by default. -/
def letter : Record :=
  ⟨"letter", ⟨[("to", .str "north"), ("stamps", .int 1)]⟩⟩

theorem extra_argument_sets_field_letter :
    (letterShape.build [("to", .str "north")]).outcome = .returned (.ok letter) ∧
    letterShape.build [("to", .str "north"), ("stamps", .int 2)] =
      reported (.ok (letter.set "stamps" (.int 2))) ∧
    (∃ r', letterShape.build [("to", .str "north"), ("via", .str "sea")] = reported (.ok r') ∧
      letterShape.Places "via" (.str "sea") letter r' ∧ r' ≠ letter.set "via" (.str "sea")) ∧
    letterShape.build [("to", .str "north"), ("size", .int 3)] =
      reported (.error (.undeclared "letter" "size")) := by
  have built : (letterShape.build [("to", .str "north")]).outcome = .returned (.ok letter) := rfl
  refine ⟨built, ?_, ?_, (extra_argument_sets_field built "size" (.int 3)).2 (by decide)⟩
  · obtain ⟨r', made, kept, _⟩ :=
      (extra_argument_sets_field built "stamps" (.int 2)).1 (by decide)
    rw [← kept rfl]
    exact made
  · obtain ⟨r', made, _, added⟩ :=
      (extra_argument_sets_field built "via" (.str "sea")).1 (by decide)
    obtain ⟨_, _, places⟩ := added rfl
    refine ⟨r', made, places, ?_⟩
    rintro rfl
    exact absurd places.sublist_names (by decide)

end Shape

end Switchboard
