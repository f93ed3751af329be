import Switchboard.Proofs.Record.Arguments

/-!
Completing the arguments of a shape, one missing field after the other.

A caller who is told of a missing field can add a value for it behind the other arguments and
build again. `Shape.lacking` lists the required fields that have no argument. Building reports the
first of them (`Fits.build_of_lacking_cons`), and an argument for it takes it off the list and
leaves the others (`Fits.lacking_append`). So what is reported next is declared further
back, and the loop (`complete`) ends after one round for each field on the list
(`completing_ends`).
-/

namespace Switchboard.Shape

variable {s : Shape} {arguments : History Value} {d : Declaration} {rest : List Declaration}

/-! ### Fields that are still to be given -/

/-- The required fields without an argument, in declaration order. -/
def lacking (s : Shape) (arguments : History Value) : List Declaration :=
  s.declarations.filter fun d => d.Lacks arguments

theorem mem_lacking_iff : d ∈ s.lacking arguments ↔ d ∈ s.declarations ∧ d.Lacks arguments := by
  rw [lacking, List.mem_filter, decide_eq_true_iff]

theorem lacks_of_lacking_cons (listed : s.lacking arguments = d :: rest) :
    d ∈ s.declarations ∧ d.Lacks arguments :=
  mem_lacking_iff.mp (listed ▸ List.mem_cons_self)

theorem lacking_eq_nil_iff :
    s.lacking arguments = [] ↔ ∀ d ∈ s.declarations, ¬ d.Lacks arguments := by
  simp [lacking, List.filter_eq_nil_iff]

/-- An argument takes the declarations of its name off the list. -/
theorem lacking_append (arguments : History Value) (name : String) (value : Value) :
    s.lacking (arguments ++ [(name, value)]) =
      (s.lacking arguments).filter fun d => d.name ≠ name := by
  rw [lacking, lacking, List.filter_filter]
  apply List.filter_congr
  intro d _
  rw [← Bool.decide_and, decide_eq_decide, Declaration.Lacks, Declaration.Lacks, List.map_append,
    List.mem_append, not_or, List.map_singleton, List.mem_singleton]
  tauto

/-- A field that is reported missing is on the list, whatever the shape. -/
theorem exists_mem_lacking_of_missing {tag name : String}
    (missing : (s.build arguments).outcome = .returned (.error (.missing tag name))) :
    ∃ d ∈ s.lacking arguments, d.name = name := by
  rw [outcome_build, Outcome.returned.injEq] at missing
  obtain ⟨verdict, decides⟩ := s.exists_decides arguments
  obtain rfl := missing.symm.trans (assemble_of_decides decides)
  cases decides with
  | missing _ _ _ first =>
    have lacks := List.find?_some first
    rw [decide_eq_true_iff] at lacks
    exact ⟨_, mem_lacking_iff.mpr ⟨List.mem_of_find?_eq_some first, lacks⟩, rfl⟩

/-- An argument for it makes the list shorter. -/
theorem length_lacking_append_lt {tag name : String}
    (missing : (s.build arguments).outcome = .returned (.error (.missing tag name)))
    (value : Value) :
    (s.lacking (arguments ++ [(name, value)])).length < (s.lacking arguments).length := by
  obtain ⟨d, mem, rfl⟩ := exists_mem_lacking_of_missing missing
  rw [lacking_append, List.length_filter_lt_length_iff_exists]
  exact ⟨d, mem, by simp⟩

/-! ### The loop -/

/-- What the loop comes to: the arguments that it added, in order, and the last build. -/
structure Completion where
  added : History Value
  last : Run (Except RecordFault Record)

/-- The same with one more argument added first. -/
def Completion.after (name : String) (value : Value) (c : Completion) : Completion :=
  { c with added := (name, value) :: c.added }

/-- Build, and as long as a field is reported missing add a value for it behind the arguments and
build again. The value may depend on all arguments so far. -/
def complete (s : Shape) (supply : History Value → String → Value) (arguments : History Value) :
    Completion :=
  match _ : (s.build arguments).outcome with
  | .returned (.error (.missing _ name)) =>
    let value := supply arguments name
    (s.complete supply (arguments ++ [(name, value)])).after name value
  | _ => ⟨[], s.build arguments⟩
termination_by (s.lacking arguments).length
decreasing_by exact length_lacking_append_lt ‹_› _

section Complete

variable {supply : History Value → String → Value}

theorem complete_of_missing {tag name : String}
    (missing : s.build arguments = reported (.error (.missing tag name))) :
    s.complete supply arguments =
      (s.complete supply (arguments ++ [(name, supply arguments name)])).after name
        (supply arguments name) := by
  rw [complete]
  split
  · rename_i found
    rw [missing] at found
    cases found
    rfl
  · rename_i other
    rw [missing] at other
    exact absurd rfl (other tag name)

theorem complete_of_built {r : Record} (built : s.build arguments = reported (.ok r)) :
    s.complete supply arguments = ⟨[], reported (.ok r)⟩ := by
  rw [complete]
  split
  · rename_i found
    rw [built] at found
    cases found
  · rw [built]

end Complete

/-! ### Arguments that fit but for missing ones -/

/-- The shape is in order, and all arguments are declared. -/
structure Fits (s : Shape) (arguments : History Value) : Prop where
  tagged : s.tag ≠ ""
  once : s.names.Nodup
  declared : ∀ name ∈ arguments.map Prod.fst, name ∈ s.names

namespace Fits

/-- The only thing to report is the first field on the list. -/
theorem build_of_lacking_cons (fits : s.Fits arguments) (listed : s.lacking arguments = d :: rest) :
    s.build arguments = reported (.error (.missing s.tag d.name)) := by
  apply build_of_decides
  apply Decides.missing fits.tagged fits.once fits.declared
  rw [← List.head?_filter]
  change (s.lacking arguments).head? = some d
  rw [listed, List.head?_cons]

/-- Where no field is on the list there is nothing to report. -/
theorem exists_build_of_lacking_nil (fits : s.Fits arguments) (listed : s.lacking arguments = []) :
    ∃ r, s.assemble arguments = .ok r ∧ s.build arguments = reported (.ok r) := by
  have decides : s.Decides arguments (.ok ⟨s.tag, ⟨_⟩⟩) :=
    .made fits.tagged fits.once fits.declared (lacking_eq_nil_iff.mp listed) rfl rfl
  exact ⟨_, assemble_of_decides decides, build_of_decides decides⟩

/-- An argument for the first field on the list leaves the others, as their names differ. -/
theorem lacking_append (fits : s.Fits arguments) (listed : s.lacking arguments = d :: rest)
    (value : Value) : s.lacking (arguments ++ [(d.name, value)]) = rest := by
  have distinct : ((d :: rest).map Declaration.name).Nodup := by
    rw [← listed]
    exact (List.filter_sublist.map Declaration.name).nodup fits.once
  rw [List.map_cons, List.nodup_cons] at distinct
  rw [Shape.lacking_append, listed, List.filter_cons_of_neg (by simp), List.filter_eq_self]
  intro e mem
  rw [decide_eq_true_iff]
  intro same
  exact distinct.1 (same ▸ List.mem_map_of_mem mem)

theorem append (fits : s.Fits arguments) (mem : d ∈ s.declarations) (value : Value) :
    s.Fits (arguments ++ [(d.name, value)]) where
  tagged := fits.tagged
  once := fits.once
  declared := by
    rw [List.map_append, List.forall_mem_append]
    refine ⟨fits.declared, ?_⟩
    intro name single
    rw [List.mem_singleton.mp single]
    exact List.mem_map_of_mem mem

end Fits

/-! ### Progress -/

/-- What comes of the report of a missing field: it is required and has no argument, and once a
value for it is added there is a record, or what is missing is declared behind it. -/
structure Advances (s : Shape) (arguments : History Value) (d : Declaration)
    (after : List Declaration) : Prop where
  lacks : d.Lacks arguments
  next : ∀ value,
    (∃ r, s.build (arguments ++ [(d.name, value)]) = reported (.ok r)) ∨
    ∃ e ∈ after, e.Lacks (arguments ++ [(d.name, value)]) ∧
      s.build (arguments ++ [(d.name, value)]) = reported (.error (.missing s.tag e.name))

/-- The first field on the list stands before the others in the declarations. -/
theorem exists_split_of_lacking_cons (listed : s.lacking arguments = d :: rest) :
    ∃ before after, s.declarations = before ++ d :: after ∧ ∀ e ∈ rest, e ∈ after := by
  obtain ⟨before, after, split, _, _, kept⟩ := List.filter_eq_cons_iff.mp listed
  refine ⟨before, after, split, ?_⟩
  intro e mem
  rw [← kept] at mem
  exact List.mem_of_mem_filter mem

theorem Fits.advances (fits : s.Fits arguments) (listed : s.lacking arguments = d :: rest)
    {after : List Declaration} (behind : ∀ e ∈ rest, e ∈ after) : s.Advances arguments d after := by
  obtain ⟨mem, lacks⟩ := lacks_of_lacking_cons listed
  refine ⟨lacks, ?_⟩
  intro value
  have fits' := fits.append mem value
  have listed' := fits.lacking_append listed value
  cases rest with
  | nil =>
    obtain ⟨r, _, built⟩ := fits'.exists_build_of_lacking_nil listed'
    exact .inl ⟨r, built⟩
  | cons e more =>
    exact .inr ⟨e, behind e List.mem_cons_self, (lacks_of_lacking_cons listed').2,
      fits'.build_of_lacking_cons listed'⟩

/-! ### The end -/

/-- The loop ended with a record. -/
structure Completes (s : Shape) (arguments : History Value) (c : Completion) : Prop where
  /-- One round for each required field without an argument, in declaration order. -/
  names_added : c.added.map Prod.fst = (s.lacking arguments).map Declaration.name
  last_eq : c.last = s.build (arguments ++ c.added)
  /-- The record holds what was given to begin with. -/
  built : ∃ r, c.last = reported (.ok r) ∧
    ∀ name value, arguments.latest name = some value → r.get? name = some value

theorem Fits.completes_of_nil (fits : s.Fits arguments) (listed : s.lacking arguments = [])
    (supply : History Value → String → Value) :
    s.Completes arguments (s.complete supply arguments) := by
  obtain ⟨r, assembled, built⟩ := fits.exists_build_of_lacking_nil listed
  rw [complete_of_built built]
  refine ⟨by rw [listed]; rfl, ?_, r, rfl, ?_⟩
  · rw [List.append_nil, built]
  · intro name value given
    have mem : name ∈ arguments.map Prod.fst := by
      rw [← History.latest_isSome_iff, given, Option.isSome_some]
    obtain ⟨d, listed, rfl⟩ := List.mem_map.mp (fits.declared name mem)
    rw [get?_of_assemble assembled listed, Declaration.value?, given, Option.some_or]

/-- A round for a field that had no argument replaces none. -/
theorem Completes.after {c : Completion} {value : Value} (lacks : d.Lacks arguments)
    (listed : s.lacking arguments = d :: s.lacking (arguments ++ [(d.name, value)]))
    (completes : s.Completes (arguments ++ [(d.name, value)]) c) :
    s.Completes arguments (c.after d.name value) := by
  obtain ⟨r, last_eq, kept⟩ := completes.built
  refine ⟨?_, ?_, r, last_eq, ?_⟩
  · rw [listed, List.map_cons, ← completes.names_added]
    rfl
  · change c.last = s.build (arguments ++ (d.name, value) :: c.added)
    rw [completes.last_eq, List.append_assoc, List.singleton_append]
  · intro name given found
    apply kept
    rw [History.latest_append_of_ne, found]
    rintro rfl
    rw [History.latest_eq_none_iff.mpr lacks.2] at found
    cases found

theorem Completes.length_added {c : Completion} (completes : s.Completes arguments c) :
    c.added.length = (s.lacking arguments).length := by
  simpa using congrArg List.length completes.names_added

/-- The loop ends, by induction on the fields that have no argument: each round gives one to the
first. -/
theorem Fits.completes (fits : s.Fits arguments) (supply : History Value → String → Value) :
    s.Completes arguments (s.complete supply arguments) := by
  induction listed : s.lacking arguments generalizing arguments with
  | nil => exact fits.completes_of_nil listed supply
  | cons d rest ih =>
    obtain ⟨mem, lacks⟩ := lacks_of_lacking_cons listed
    have left := fits.lacking_append listed (supply arguments d.name)
    rw [complete_of_missing (fits.build_of_lacking_cons listed)]
    apply Completes.after lacks (by rw [listed, left])
    exact ih (fits.append mem _) left

/-- Let a shape be in order and all arguments declared. If building fails, it is for a required
field without an argument, and with any value for that field added building succeeds or fails for
a required field declared behind it. So the loop that adds some value for each field reported ends
with a record, whatever the values. It takes as many rounds as there were required fields without
an argument, and all that was given to begin with is in the record. -/
theorem completing_ends (tagged : s.tag ≠ "") (once : s.names.Nodup)
    (declared : ∀ name ∈ arguments.map Prod.fst, name ∈ s.names) :
    (∀ fault, (s.build arguments).outcome = .returned (.error fault) →
      ∃ before d after, s.declarations = before ++ d :: after ∧
        fault = .missing s.tag d.name ∧ s.Advances arguments d after) ∧
    ∀ supply, s.Completes arguments (s.complete supply arguments) ∧
      (s.complete supply arguments).added.length = (s.lacking arguments).length := by
  have fits : s.Fits arguments := ⟨tagged, once, declared⟩
  constructor
  · intro fault failed
    cases listed : s.lacking arguments with
    | nil =>
      obtain ⟨_, _, built⟩ := fits.exists_build_of_lacking_nil listed
      rw [built] at failed
      cases failed
    | cons d rest =>
      obtain ⟨before, after, split, behind⟩ := exists_split_of_lacking_cons listed
      rw [fits.build_of_lacking_cons listed] at failed
      cases failed
      exact ⟨before, d, after, split, rfl, fits.advances listed behind⟩
  · intro supply
    have completes := fits.completes supply
    exact ⟨completes, completes.length_added⟩

/-- A shape with two required fields, and fields that are never asked for around them. -/
def orderShape : Shape :=
  ⟨"order", [⟨"note", .optional⟩, ⟨"item", .required⟩, ⟨"colour", .defaulted (.str "red")⟩,
    ⟨"count", .required⟩]⟩

/-- The name of the field with the number of arguments so far. -/
def placeholder (arguments : History Value) (name : String) : Value :=
  .str (name ++ toString arguments.length)

theorem completing_ends_order :
    orderShape.tag ≠ "" ∧ orderShape.names.Nodup ∧
    (∀ name ∈ [("colour", Value.str "blue"), ("colour", .str "green")].map Prod.fst,
      name ∈ orderShape.names) ∧
    ∃ c r, orderShape.complete placeholder [("colour", .str "blue"), ("colour", .str "green")] = c ∧
      c.added.map Prod.fst = ["item", "count"] ∧ c.last = reported (.ok r) ∧
      r.get? "colour" = some (.str "green") := by
  have tagged : orderShape.tag ≠ "" := by decide
  have once : orderShape.names.Nodup := by decide
  have declared : ∀ name ∈ [("colour", Value.str "blue"), ("colour", .str "green")].map Prod.fst,
      name ∈ orderShape.names := by decide
  obtain ⟨completes, _⟩ := (completing_ends tagged once declared).2 placeholder
  obtain ⟨r, last_eq, kept⟩ := completes.built
  exact ⟨tagged, once, declared, _, r, rfl, completes.names_added, last_eq, kept "colour" _ rfl⟩

end Switchboard.Shape
