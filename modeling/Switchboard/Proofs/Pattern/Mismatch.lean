import Switchboard.Proofs.History
import Switchboard.Proofs.Pattern.Combination

/-!
What combining patterns with result functions reports.

The two sides are compared by different means, a hash map of the result functions and the
table of patterns. Both comparisons come down to which names were ever registered on the
other side (`Pending.unanswered_ofHistory`, `Pending.unmatched_ofHistory`). Hence the
verdict on two histories and what it leaves in the journal can be read off the names alone
(`Matcher.ofHistories_concludes`): a name without a result function decides it before any
name without a pattern is looked at.
-/

namespace Switchboard

variable {S P R : Type}

namespace Pending

/-! ### Names that one side lacks -/

theorem unanswered_ofHistory (patterns : History (Pattern S P)) (results : History (P → Run R)) :
    unanswered ⟨.ofHistory patterns⟩ (Roster.ofHistory results).toHashMap =
      results.unregistered patterns.names := by
  rw [unanswered, Roster.names_ofHistory]
  apply History.filter_not_eq_unregistered
  intro name
  rw [Roster.contains_toHashMap, Roster.mem_names_ofHistory_iff]

theorem unmatched_ofHistory (patterns : History (Pattern S P)) (results : History (P → Run R)) :
    unmatched ⟨.ofHistory patterns⟩ (.ofHistory results) =
      patterns.unregistered results.names := by
  rw [unmatched, Roster.names_ofHistory]
  apply History.filter_not_eq_unregistered
  intro name
  rw [Roster.contains_iff, Roster.mem_names_ofHistory_iff]

/-! ### What is reported -/

section Reports

variable {p : Pending S P} {results : Results P R}

theorem withResults_of_ok {m : Matcher S P R} (combined : p.combine results = .ok m) :
    p.withResults results =
      ⟨[.event (Matcher.builtEvent m.size)], .returned (.ok m)⟩ := by
  rw [withResults, combined]
  rfl

theorem withResults_of_error {fault : PatternFault}
    (refused : p.combine results = .error fault) :
    p.withResults results = ⟨[], .returned (.error fault)⟩ := by
  rw [withResults, refused]
  rfl

end Reports

end Pending

namespace Matcher

variable {patterns : History (Pattern S P)} {results : History (P → Run R)}

/-- What two histories of registrations lead to when they are combined, with all that it leaves in
the journal. No two cases are possible at once. -/
inductive Concludes (patterns : History (Pattern S P)) (results : History (P → Run R)) :
    Run (Except PatternFault (Matcher S P R)) → Prop where
  /-- Some pattern has no result function, whether or not there are others without a pattern. -/
  | unanswered {missing : List String} :
      (∃ name ∈ patterns.map Prod.fst, name ∉ results.map Prod.fst) →
      missing = results.unregistered patterns.names → missing ≠ [] → missing.Nodup →
      Concludes patterns results ⟨[], .returned (.error (.unanswered missing))⟩
  | unmatched {unknown : List String} :
      (∀ name ∈ patterns.map Prod.fst, name ∈ results.map Prod.fst) →
      (∃ name ∈ results.map Prod.fst, name ∉ patterns.map Prod.fst) →
      unknown = patterns.unregistered results.names → unknown ≠ [] → unknown.Nodup →
      Concludes patterns results ⟨[], .returned (.error (.unmatched unknown))⟩
  /-- Both sides have the same names, and as many of them as the matcher has arms. -/
  | made {m : Matcher S P R} :
      (∀ name, name ∈ patterns.map Prod.fst ↔ name ∈ results.map Prod.fst) →
      m.size = (Roster.ofHistory patterns).size → m.size = (Roster.ofHistory results).size →
      Concludes patterns results ⟨[.event (builtEvent m.size)], .returned (.ok m)⟩

/-- Both sides have as many names as the matcher has arms. -/
theorem size_of_made {m : Matcher S P R}
    (made : (ofHistories patterns results).outcome = .returned (.ok m)) :
    m.size = (Roster.ofHistory patterns).size ∧ m.size = (Roster.ofHistory results).size := by
  have names_eq : m.names = (Roster.ofHistory patterns).names := (joins_ofHistories made).names_eq
  have size_eq : m.size = (Roster.ofHistory patterns).size := by
    rw [← Roster.length_names, ← names_eq, names, List.length_map, size]
  have permuted : (Roster.ofHistory patterns).names.Perm (Roster.ofHistory results).names := by
    apply (List.perm_ext_iff_of_nodup (Roster.distinct_ofHistory patterns)
      (Roster.distinct_ofHistory results)).mpr
    intro name
    rw [Roster.mem_names_ofHistory_iff, Roster.mem_names_ofHistory_iff]
    exact (ofHistories_eq_ok_iff.mp made).1 name
  refine ⟨size_eq, size_eq.trans ?_⟩
  rw [← Roster.length_names, permuted.length_eq, Roster.length_names]

/-- Patterns and result functions, whatever was registered for either, are combined where they have
the same names. Else the names without a result function are reported, each once and in the order of
the table; only if there are none, the names without a pattern are, in the order of the mapping. The
one event that is left tells how many arms there are. -/
theorem ofHistories_concludes (patterns : History (Pattern S P))
    (results : History (P → Run R)) :
    Concludes patterns results (ofHistories patterns results) := by
  have decided := Pending.combine_eq ⟨.ofHistory patterns⟩ (Roster.ofHistory results)
  rw [Pending.unanswered_ofHistory, Pending.unmatched_ofHistory] at decided
  by_cases answered : results.unregistered patterns.names = []
  · rw [if_pos answered] at decided
    by_cases matched : patterns.unregistered results.names = []
    · rw [if_pos matched] at decided
      have concluded : ofHistories patterns results = _ := Pending.withResults_of_ok decided
      have made := congrArg Run.outcome concluded
      have same := (ofHistories_eq_ok_iff.mp made).1
      obtain ⟨size_eq, size_eq'⟩ := size_of_made made
      rw [concluded]
      exact .made same size_eq size_eq'
    · rw [if_neg matched] at decided
      have concluded : ofHistories patterns results = _ := Pending.withResults_of_error decided
      have known := History.unregistered_eq_nil_iff.mp answered
      have unknown := History.unregistered_ne_nil_iff.mp matched
      simp only [History.mem_names_iff] at known unknown
      rw [concluded]
      exact .unmatched known unknown rfl matched (results.nodup_names.filter _)
  · rw [if_neg answered] at decided
    have concluded : ofHistories patterns results = _ := Pending.withResults_of_error decided
    have lacking := History.unregistered_ne_nil_iff.mp answered
    simp only [History.mem_names_iff] at lacking
    rw [concluded]
    exact .unanswered lacking rfl answered (patterns.nodup_names.filter _)

end Matcher

end Switchboard
