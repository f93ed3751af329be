import Switchboard.Proofs.Dispatch.Sealing

/-!
What it takes to seal a table that could not be sealed.

A registration takes its tag out of those that are found without a handler and leaves the others
as they are, whether the tag is new to the table or its handler is replaced
(`Handlers.uncovered_insert`). So of the tags that sealing reports, those are left after any
further registrations that were not among these (`Handlers.uncovered_insertAll`), and the table
can be sealed once none is left. The report is therefore a list of what to register: nothing that
it names can be spared, and nothing else is needed (`Handlers.exists_repairList`).
-/

namespace Switchboard

variable {V R : Type}

namespace Handlers

/-! ### Tags that registrations cover -/

theorem uncovered_insert (h : Handlers V R) (tag : String) (handler : Handler V R)
    (tags : List String) :
    (h.insert tag handler).uncovered tags =
      History.unregistered [(tag, handler)] (h.uncovered tags) := by
  rw [uncovered, uncovered, History.unregistered, List.filter_filter]
  apply List.filter_congr
  intro other _
  rw [Bool.eq_iff_iff]
  simp [← Bool.not_eq_true, contains_insert]

theorem uncovered_insertAll (h : Handlers V R) (more : History (Handler V R))
    (tags : List String) :
    (h.insertAll more).uncovered tags = more.unregistered (h.uncovered tags) := by
  induction more generalizing h with
  | nil => rw [History.unregistered_nil]; rfl
  | cons entry rest ih =>
    change ((h.insert entry.1 entry.2).insertAll rest).uncovered tags = _
    rw [ih, uncovered_insert, ← History.unregistered_append, List.singleton_append]

/-! ### What sealing reports -/

/-- The table can be sealed against the tags. -/
def Sealable (h : Handlers V R) (tags : List String) : Prop :=
  ∃ s, (h.sealFor tags).outcome = .returned (.ok s)

/-- `h.Misses tags missing`: sealed against the tags, the table is found to miss these. It is
sealed, as it is, where it misses none. -/
inductive Misses (h : Handlers V R) (tags : List String) : List String → Prop where
  | nothing : (h.sealFor tags).outcome = .returned (.ok ⟨h⟩) → Misses h tags []
  | reported {missing : List String} : missing ≠ [] →
      (h.sealFor tags).outcome = .returned (.error (.uncovered missing)) → Misses h tags missing

section Reports

variable {h : Handlers V R} {tags missing : List String}

theorem sealable_iff : h.Sealable tags ↔ h.uncovered tags = [] := by
  rw [Sealable, uncovered_eq_nil_iff]
  simp only [sealFor_eq_ok_iff]
  constructor
  · rintro ⟨s, covered, _⟩
    exact covered
  · intro covered
    exact ⟨⟨h⟩, covered, rfl⟩

/-- Sealing reports the tags without a handler, whether or not there are any. -/
theorem misses_iff : h.Misses tags missing ↔ missing = h.uncovered tags := by
  constructor
  · intro misses
    cases misses with
    | nothing closed => exact (sealable_iff.mp ⟨_, closed⟩).symm
    | reported _ refused =>
      rw [sealFor_eq] at refused
      split at refused
      · cases refused
      · cases refused
        rfl
  · rintro rfl
    by_cases covered : h.uncovered tags = []
    · rw [covered]
      exact .nothing (by rw [sealFor_eq, if_pos covered])
    · exact .reported covered (by rw [sealFor_eq, if_neg covered])

end Reports

/-- A table that has the tags of another one and those of some more handlers can be sealed exactly
where these make up for what the other one misses. -/
theorem sealable_rebuilt_iff {history more rebuilt : History (Handler V R)}
    (added : ∀ tag, tag ∈ rebuilt.map Prod.fst ↔
      tag ∈ history.map Prod.fst ∨ tag ∈ more.map Prod.fst) (tags : List String) :
    (ofHistory rebuilt).Sealable tags ↔
      ∀ tag ∈ (ofHistory history).uncovered tags, tag ∈ more.map Prod.fst := by
  rw [sealable_iff, uncovered_ofHistory, uncovered_ofHistory, History.unregistered_eq_nil_iff]
  constructor
  · intro covered tag missed
    obtain ⟨listed, absent⟩ := History.mem_unregistered_iff.mp missed
    exact ((added tag).mp (covered tag listed)).resolve_left absent
  · intro repaired tag listed
    by_cases known : tag ∈ history.map Prod.fst
    · exact (added tag).mpr (.inl known)
    · exact (added tag).mpr (.inr (repaired tag (History.mem_unregistered_iff.mpr ⟨listed, known⟩)))

/-! ### Repairs -/

/-- The missing tags are all that keeps the table from being sealed against the tags. -/
structure RepairList (h : Handlers V R) (tags missing : List String) : Prop where
  misses : h.Misses tags missing
  eq_of_misses : ∀ other, h.Misses tags other → other = missing
  sealable_iff : h.Sealable tags ↔ missing = []
  /-- After more registrations the others are missing, in the same order and as often. -/
  misses_insertAll : ∀ more, (h.insertAll more).Misses tags (more.unregistered missing)
  /-- Registering more never hinders sealing. -/
  sealable_insertAll : ∀ more, h.Sealable tags → (h.insertAll more).Sealable tags
  /-- It allows for it exactly where all the missing tags are registered. -/
  sealable_insertAll_iff : ∀ more, (h.insertAll more).Sealable tags ↔
    ∀ tag ∈ missing, tag ∈ more.map Prod.fst
  /-- The same holds of a table made anew with more handlers, registered in whichever order. -/
  sealable_rebuilt_iff : ∀ history more rebuilt : History (Handler V R), h = ofHistory history →
    (∀ tag, tag ∈ rebuilt.map Prod.fst ↔
      tag ∈ history.map Prod.fst ∨ tag ∈ more.map Prod.fst) →
    ((ofHistory rebuilt).Sealable tags ↔ ∀ tag ∈ missing, tag ∈ more.map Prod.fst)
  /-- Against one list after another, what each of them finds missing is missing. -/
  misses_append : ∀ tags' missing', h.Misses tags' missing' →
    h.Misses (tags ++ tags') (missing ++ missing')
  sealable_append_iff : ∀ tags', h.Sealable (tags ++ tags') ↔ h.Sealable tags ∧ h.Sealable tags'

/-- Sealing any table against any tags reports such a list, and reports none exactly where the table
is sealed. -/
theorem exists_repairList (h : Handlers V R) (tags : List String) :
    ∃ missing, h.RepairList tags missing := by
  have repaired_iff : ∀ more, (h.insertAll more).Sealable tags ↔
      ∀ tag ∈ h.uncovered tags, tag ∈ more.map Prod.fst := by
    intro more
    rw [sealable_iff, uncovered_insertAll, History.unregistered_eq_nil_iff]
  refine ⟨h.uncovered tags, ?_⟩
  constructor
  · exact misses_iff.mpr rfl
  · exact fun other misses => misses_iff.mp misses
  · exact sealable_iff
  · exact fun more => misses_iff.mpr (h.uncovered_insertAll more tags).symm
  · intro more covered
    rw [repaired_iff, sealable_iff.mp covered]
    simp
  · exact repaired_iff
  · rintro history more rebuilt rfl added
    exact sealable_rebuilt_iff added tags
  · intro tags' missing' misses
    rw [misses_iff.mp misses, misses_iff, uncovered_append]
  · intro tags'
    rw [sealable_iff, sealable_iff, sealable_iff, uncovered_append, List.append_eq_nil_iff]

theorem exists_repairList_replaced :
    ((ofHistory replacedHandlers).sealFor ["b", "c", "a", "c", "d"]).outcome =
      .returned (.error (.uncovered ["c", "c", "d"])) ∧
    ((ofHistory replacedHandlers).insertAll [("c", fun _ => return "c")]).Misses
      ["b", "c", "a", "c", "d"] ["d"] ∧
    ((ofHistory replacedHandlers).insertAll
      [("d", fun _ => return "d"), ("c", fun _ => return "c")]).Sealable
      ["b", "c", "a", "c", "d"] := by
  obtain ⟨missing, repairs⟩ :=
    exists_repairList (ofHistory replacedHandlers) ["b", "c", "a", "c", "d"]
  have missing_eq : missing = ["c", "c", "d"] := by
    rw [misses_iff.mp repairs.misses, uncovered_ofHistory]
    decide
  subst missing_eq
  refine ⟨?_, repairs.misses_insertAll _, (repairs.sealable_insertAll_iff _).mpr (by decide)⟩
  cases repairs.misses with
  | reported _ refused => exact refused

end Handlers

end Switchboard
