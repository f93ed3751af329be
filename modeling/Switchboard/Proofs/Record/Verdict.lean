import Switchboard.Proofs.Record.Assembly

/-!
What a shape says to arguments: a record, or the first defect that it meets.

A shape looks for four kinds of defects, each only when there is none of the kinds before:
an empty tag, a name declared twice, an argument that is not declared and a required field
without an argument. Each search goes through its own list in order and stops at the
first hit. `Shape.Decides` lists the five things that can be said and says when each is
right in terms of the declarations and the arguments as they were given, without the
roster in which a shape collects these. It leaves exactly one thing to say to any
arguments, and this is what building reports (`build_reaches_only_verdict`).
-/

namespace Switchboard

/-! ### Arguments that are asked for -/

namespace Declaration

/-- The declaration asks for an argument, and there is none of its name. -/
def Lacks (arguments : History Value) (d : Declaration) : Prop :=
  d.presence = .required ∧ d.name ∉ arguments.map Prod.fst

instance (arguments : History Value) : DecidablePred (Lacks arguments) :=
  fun d => inferInstanceAs (Decidable (d.presence = .required ∧ d.name ∉ arguments.map Prod.fst))

theorem not_lacks_iff {arguments : History Value} {d : Declaration} :
    ¬ d.Lacks arguments ↔ (d.presence = .required → d.name ∈ arguments.map Prod.fst) := by
  rw [Lacks, not_and, Decidable.not_not]

end Declaration

namespace Shape

variable {s : Shape} {arguments : History Value}

/-! ### Verdicts -/

/-- What there is to say to arguments. Of several defects the one said is of the kind that comes
first here, and of those of a kind the first in its list. -/
inductive Decides (s : Shape) (arguments : History Value) : Except RecordFault Record → Prop where
  | untagged : s.tag = "" → s.Decides arguments (.error .untagged)
  /-- The name is that of an earlier declaration, and no declaration before has such a name. -/
  | redeclared {before after : List String} {name : String} :
      s.tag ≠ "" → s.names = before ++ name :: after → before.Nodup → name ∈ before →
      s.Decides arguments (.error (.redeclared s.tag name))
  | undeclared {argument : String × Value} :
      s.tag ≠ "" → s.names.Nodup →
      arguments.find? (fun argument => argument.1 ∉ s.names) = some argument →
      s.Decides arguments (.error (.undeclared s.tag argument.1))
  | missing {d : Declaration} :
      s.tag ≠ "" → s.names.Nodup → (∀ name ∈ arguments.map Prod.fst, name ∈ s.names) →
      s.declarations.find? (fun d => d.Lacks arguments) = some d →
      s.Decides arguments (.error (.missing s.tag d.name))
  /-- The fields are those of the declarations that were given an argument or have a default, in
  declaration order; the last argument of a name takes the place of its default. -/
  | made {r : Record} :
      s.tag ≠ "" → s.names.Nodup → (∀ name ∈ arguments.map Prod.fst, name ∈ s.names) →
      (∀ d ∈ s.declarations, ¬ d.Lacks arguments) →
      r.tag = s.tag → r.fields.entries = s.declarations.filterMap (Declaration.field? arguments) →
      s.Decides arguments (.ok r)

/-- The run of building that ends with a verdict. -/
def reported : Except RecordFault Record → Run (Except RecordFault Record)
  | .ok r => ⟨[.event (builtEvent r)], .returned (.ok r)⟩
  | .error fault => ⟨[], .returned (.error fault)⟩

theorem build_eq_reported (s : Shape) (arguments : History Value) :
    s.build arguments = reported (s.assemble arguments) := by
  unfold build
  cases s.assemble arguments with
  | ok r => rfl
  | error fault => rfl

/-! ### Where the searches stop -/

theorem firstRepeated_nil_eq_none_iff {names : List String} :
    firstRepeated [] names = none ↔ names.Nodup := by
  simp [firstRepeated_eq_none_iff]

/-- The search for a repeated name goes through names without a hit, up to one that was seen or is
among them. -/
theorem firstRepeated_eq_some_iff {seen names : List String} {name : String} :
    firstRepeated seen names = some name ↔
      ∃ before after, names = before ++ name :: after ∧ firstRepeated seen before = none ∧
        (name ∈ seen ∨ name ∈ before) := by
  induction names generalizing seen with
  | nil => simp [firstRepeated]
  | cons first rest ih =>
    by_cases known : first ∈ seen
    · rw [firstRepeated, if_pos known]
      constructor
      · rintro ⟨⟩
        exact ⟨[], rest, rfl, rfl, .inl known⟩
      · rintro ⟨before, after, split, passed, _⟩
        rcases List.cons_eq_append_iff.mp split with ⟨rfl, split⟩ | ⟨more, rfl, _⟩
        · rw [(List.cons.inj split).1]
        · simp [firstRepeated, known] at passed
    · -- A name that is not seen yet is seen from here on.
      have again_iff : ∀ before : List String,
          (name ∈ first :: seen ∨ name ∈ before) ↔ (name ∈ seen ∨ name ∈ first :: before) := by
        intro before
        rw [List.mem_cons, List.mem_cons, or_assoc, or_left_comm]
      have pass : ∀ more,
          firstRepeated seen (first :: more) = firstRepeated (first :: seen) more := by
        intro more
        rw [firstRepeated, if_neg known]
      rw [pass, ih]
      constructor
      · rintro ⟨before, after, rfl, passed, again⟩
        exact ⟨first :: before, after, rfl, (pass before).trans passed, (again_iff before).mp again⟩
      · rintro ⟨before, after, split, passed, again⟩
        rcases List.cons_eq_append_iff.mp split with ⟨rfl, split⟩ | ⟨more, rfl, rfl⟩
        · rw [← (List.cons.inj split).1] at again
          exact absurd (again.resolve_right List.not_mem_nil) known
        · exact ⟨more, after, rfl, (pass more).symm.trans passed, (again_iff more).mpr again⟩

/-- Collecting stops at the first argument that is not declared. -/
theorem collect_of_undeclared {argument : String × Value}
    (first : arguments.find? (fun argument => argument.1 ∉ s.names) = some argument)
    (given : Roster Value) :
    s.collect given arguments = .error (.undeclared s.tag argument.1) := by
  induction arguments generalizing given with
  | nil => cases first
  | cons entry rest ih =>
    obtain ⟨name, value⟩ := entry
    by_cases declared : name ∈ s.names
    · rw [List.find?_cons_of_neg (by simpa using declared)] at first
      rw [collect, if_pos declared, ih first]
    · rw [List.find?_cons_of_pos (by simpa using declared)] at first
      cases first
      rw [collect, if_neg declared]

/-- Filling stops at the first required field without an argument. -/
theorem fill_of_missing {tag : String} {declarations : List Declaration} {d : Declaration}
    (first : declarations.find? (fun d => d.Lacks arguments) = some d) :
    fill tag (.ofHistory arguments) declarations = .error (.missing tag d.name) := by
  induction declarations with
  | nil => cases first
  | cons e rest ih =>
    by_cases lacks : e.Lacks arguments
    · rw [List.find?_cons_of_pos (by simpa using lacks)] at first
      cases first
      exact fill_cons_of_missing lacks.1 (History.latest_eq_none_iff.mpr lacks.2) rest
    · rw [List.find?_cons_of_neg (by simpa using lacks)] at first
      cases found : e.value? arguments with
      | some value =>
        rw [fill_cons_of_value found, ih first]
        rfl
      | none =>
        have absent := History.latest_eq_none_iff.mp (Option.or_eq_none_iff.mp found).1
        have dispensable : e.presence ≠ .required := by
          intro required
          exact lacks ⟨required, absent⟩
        rw [fill_cons_of_omitted found dispensable, ih first]

/-! ### Assembling says what is decided -/

theorem assemble_of_decides {verdict : Except RecordFault Record}
    (decides : s.Decides arguments verdict) : s.assemble arguments = verdict := by
  cases decides with
  | untagged untagged => rw [assemble, if_pos untagged]
  | redeclared tagged split nodup again =>
    have passed := firstRepeated_nil_eq_none_iff.mpr nodup
    have repeated := firstRepeated_eq_some_iff.mpr ⟨_, _, split, passed, .inr again⟩
    rw [assemble, if_neg tagged, repeated]
  | undeclared tagged once first =>
    rw [assemble_of_valid tagged once, collect_of_undeclared first]
    rfl
  | missing tagged once declared first =>
    have collected : s.collect ∅ arguments = .ok (.ofHistory arguments) :=
      collect_eq_ok_iff.mpr ⟨declared, rfl⟩
    rw [assemble_of_valid tagged once, collected]
    change (fill s.tag (.ofHistory arguments) s.declarations >>= _) = _
    rw [fill_of_missing first]
    rfl
  | @made r tagged once declared answered tag_eq entries_eq =>
    refine assemble_eq_ok_iff.mpr ⟨tagged, once, declared, ?_, ?_⟩
    · intro d mem
      exact Declaration.not_lacks_iff.mp (answered d mem)
    · rw [← tag_eq, ← entries_eq]

/-- There is always something to say. -/
theorem exists_decides (s : Shape) (arguments : History Value) :
    ∃ verdict, s.Decides arguments verdict := by
  by_cases tagged : s.tag = ""
  · exact ⟨_, .untagged tagged⟩
  cases repeated : firstRepeated [] s.names with
  | some name =>
    obtain ⟨before, after, split, passed, again⟩ := firstRepeated_eq_some_iff.mp repeated
    have nodup := firstRepeated_nil_eq_none_iff.mp passed
    exact ⟨_, .redeclared tagged split nodup (again.resolve_left List.not_mem_nil)⟩
  | none =>
    have once := firstRepeated_nil_eq_none_iff.mp repeated
    cases unknown : arguments.find? (fun argument => argument.1 ∉ s.names) with
    | some argument => exact ⟨_, .undeclared tagged once unknown⟩
    | none =>
      have declared : ∀ name ∈ arguments.map Prod.fst, name ∈ s.names := by
        simpa using unknown
      cases lacking : s.declarations.find? (fun d => d.Lacks arguments) with
      | some d => exact ⟨_, .missing tagged once declared lacking⟩
      | none =>
        have answered : ∀ d ∈ s.declarations, ¬ d.Lacks arguments := by
          simpa using lacking
        exact ⟨.ok ⟨_, ⟨_⟩⟩, .made tagged once declared answered rfl rfl⟩

/-- Building always ends with a verdict, the only one that there is on the shape and the arguments.
It leaves one event for a record and nothing for a fault. -/
theorem build_reaches_only_verdict (s : Shape) (arguments : History Value) :
    ∃ verdict, s.build arguments = reported verdict ∧ s.Decides arguments verdict ∧
      ∀ other, s.Decides arguments other → other = verdict := by
  obtain ⟨verdict, decides⟩ := s.exists_decides arguments
  have assembled := assemble_of_decides decides
  refine ⟨verdict, ?_, decides, ?_⟩
  · rw [build_eq_reported, assembled]
  · intro other decides'
    rw [← assemble_of_decides decides', assembled]

/-- The argument that is not declared is reported although a required field has none. -/
example : parcelShape.assemble [("colour", .str "blue"), ("size", .int 1)] =
    .error (.undeclared "parcel" "size") := rfl

end Shape

end Switchboard
