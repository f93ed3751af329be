import Switchboard.Proofs.Pattern.FirstMatch

/-!
The winner and the answer agree.

Both loops follow one search, so the winner is the name of the arm whose result
function the answer calls, and looking for it calls the same extractions in the same
order. It calls no result function: the winner of a matcher is that of any matcher
with the same patterns (`winner_replaceResults`).
-/

namespace Switchboard.Matcher

variable {S P R : Type}

/-! ### Result functions are not called -/

/-- The matcher with other result functions. -/
def replaceResults {Q : Type} (m : Matcher S P R) (result : Arm S P R → P → Run Q) :
    Matcher S P Q :=
  ⟨m.arms.map fun arm => ⟨arm.name, arm.extract, result arm⟩⟩

theorem winner_replaceResults {Q : Type} (m : Matcher S P R) (result : Arm S P R → P → Run Q)
    (input : S) : (m.replaceResults result).winner input = m.winner input := by
  obtain ⟨arms⟩ := m
  simp only [winner, replaceResults]
  induction arms with
  | nil => rfl
  | cons arm rest ih => simp only [List.map_cons, firstName, ih]

/-! ### Endings compared -/

theorem Ending.winner_eq_none_iff (ending : Ending S P R) :
    ending.winner = .returned none ↔ ending.outcome = .returned none := by
  cases ending with
  | exhausted => simp [winner, outcome]
  | broken text => simp [winner, outcome]
  | found arm value =>
    have answered : (arm.result value).outcome.map some ≠ .returned none := by
      cases (arm.result value).outcome <;> simp [Outcome.map]
    simp [winner, outcome, answered]

theorem Ending.winner_eq_panicked_iff (ending : Ending S P R) (text : String) :
    ending.winner = .panicked text ↔ ending = .broken text := by
  cases ending <;> simp [winner]

/-! ### The winner among the patterns of a table -/

/-- Names in a table before that of an arm all of whose predecessors pass. -/
theorem Joins.passes_before {m : Matcher S P R} {table : Patterns S P} {results : Results P R}
    (joins : m.Joins table results) {input : S} {passed later : List (Arm S P R)}
    (split : m.arms = passed ++ later) (passes : ∀ a ∈ passed, a.Passes input) :
    ∀ name ∈ passed.map Arm.name, ∃ pattern,
      table.get? name = some pattern ∧ (pattern.extract input).outcome = .returned none := by
  intro name listed
  obtain ⟨arm, mem, rfl⟩ := List.mem_map.mp listed
  obtain ⟨pattern, found, extract_eq⟩ := joins.pattern_of arm (by simp [split, mem])
  refine ⟨pattern, found, ?_⟩
  rw [← extract_eq]
  exact passes arm mem

/-- Wherever patterns and result functions were combined, there is a winner exactly where there is
an answer, and the winner is the first name of the table whose pattern returns a value, which the
answer gives to the result function of that name. On every input, also where an extraction panics,
both try the same arms in the same order. The winner calls nothing but their extractions, reports
nothing, does not depend on the result functions, and panics exactly where one of those
extractions does. -/
theorem winner_agrees (patterns : History (Pattern S P)) (results : History (P → Run R))
    (m : Matcher S P R) (made : (ofHistories patterns results).outcome = .returned (.ok m))
    (input : S) :
    ((m.winner input).outcome = .returned none ↔ (m.answer input).outcome = .returned none) ∧
    (∀ name, (m.winner input).outcome = .returned (some name) →
      ∃ before after pattern value result,
        (Roster.ofHistory patterns).names = before ++ name :: after ∧
        (∀ earlier ∈ before, ∃ other, (Roster.ofHistory patterns).get? earlier = some other ∧
          (other.extract input).outcome = .returned none) ∧
        (Roster.ofHistory patterns).get? name = some pattern ∧
        (pattern.extract input).outcome = .returned (some value) ∧
        (Roster.ofHistory results).get? name = some result ∧
        (m.answer input).outcome = (result value).outcome.map some) ∧
    (∃ tried ending, Searches input m.arms tried ending ∧
      (m.winner input).journal = extractions tried input ∧
      (m.answer input).journal =
        .entered answerSpan :: (attempts tried input ++ ending.journal) ++ [.left answerSpan] ∧
      ∀ text, (m.winner input).outcome = .panicked text ↔
        ∃ arm ∈ tried, (arm.extract input).outcome = .panicked text) ∧
    ∀ (Q : Type) (result : Arm S P R → P → Run Q),
      (m.replaceResults result).winner input = m.winner input := by
  have joins := joins_ofHistories made
  obtain ⟨tried, ending, search⟩ := exists_searches m.arms input
  have won := winner_of_searches search
  have answered := answer_of_searches search
  refine ⟨?_, ?_, ⟨tried, ending, search, ?_, ?_, ?_⟩, ?_⟩
  · rw [won, answered]
    exact ending.winner_eq_none_iff
  · intro name wins
    rw [won] at wins
    generalize split : m.arms = arms at search
    cases search with
    | exhausted _ => cases wins
    | broken _ _ => cases wins
    | @found passed later arm value passes finds =>
      cases wins
      have mem : arm ∈ m.arms := by simp [split]
      obtain ⟨pattern, found, extract_eq⟩ := joins.pattern_of arm mem
      refine ⟨passed.map Arm.name, later.map Arm.name, pattern, value, arm.result, ?_,
        joins.passes_before split passes, found, ?_, joins.result_of arm mem, ?_⟩
      · rw [← joins.names_eq, names, split, List.map_append, List.map_cons]
      · rw [← extract_eq, finds]
      · rw [answered]
        rfl
  · rw [won]
  · rw [answered]
  · intro text
    rw [won, ← search.eq_broken_iff text]
    exact ending.winner_eq_panicked_iff text
  · intro Q result
    exact m.winner_replaceResults result input

theorem winner_agrees_seven :
    ∃ m, (ofHistories parityPatterns parityResults).outcome = .returned (.ok m) ∧
      (m.winner 7).outcome = .returned (some "odd") ∧
      ∃ before after pattern value result,
        (Roster.ofHistory parityPatterns).names = before ++ "odd" :: after ∧
        (∀ earlier ∈ before, ∃ other, (Roster.ofHistory parityPatterns).get? earlier = some other ∧
          (other.extract 7).outcome = .returned none) ∧
        (Roster.ofHistory parityPatterns).get? "odd" = some pattern ∧
        (pattern.extract 7).outcome = .returned (some value) ∧
        (Roster.ofHistory parityResults).get? "odd" = some result ∧
        (m.answer 7).outcome = (result value).outcome.map some := by
  let arms := (Roster.ofHistory parityPatterns).entries.filterMap
    (Pending.armOf (Roster.ofHistory parityResults).get?)
  have made : (ofHistories parityPatterns parityResults).outcome = .returned (.ok ⟨arms⟩) :=
    ofHistories_eq_ok_iff.mpr ⟨parity_same_names, rfl⟩
  have agrees := winner_agrees parityPatterns parityResults ⟨arms⟩ made 7
  exact ⟨⟨arms⟩, made, rfl, agrees.2.1 "odd" rfl⟩

end Switchboard.Matcher
