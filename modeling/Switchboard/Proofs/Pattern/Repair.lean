import Switchboard.Proofs.Pattern.Fallback
import Switchboard.Proofs.Pattern.Mismatch

/-!
What it takes to combine patterns with result functions that did not fit.

Whether two histories can be combined depends on which names each of them leaves out of the
other's (`Matcher.ofHistories_eq_unanswered_iff`, `Matcher.ofHistories_eq_unmatched_iff`). Result
functions for the names that were reported are all that the patterns lack, and they bring no name
that is new to the patterns; patterns for the names that were reported then are all that is lacking
after that. So the second round ends with a matcher (`mismatches_are_repaired`). Patterns that are
added stand behind the others, which is why they are only asked where those find nothing.
-/

namespace Switchboard

variable {S P R : Type}

namespace Matcher

variable {patterns : History (Pattern S P)} {results : History (P → Run R)}

/-! ### Which fault is reported -/

theorem combine_ofHistories (patterns : History (Pattern S P)) (results : History (P → Run R)) :
    Pending.combine ⟨.ofHistory patterns⟩ (.ofHistory results) =
      if results.unregistered patterns.names = [] then
        if patterns.unregistered results.names = [] then
          .ok ⟨Pending.pair (Roster.ofHistory patterns).entries
            (Roster.ofHistory results).toHashMap⟩
        else .error (.unmatched (patterns.unregistered results.names))
      else .error (.unanswered (results.unregistered patterns.names)) := by
  rw [Pending.combine_eq, Pending.unanswered_ofHistory, Pending.unmatched_ofHistory]

theorem ofHistories_eq_unanswered_iff {missing : List String} :
    (ofHistories patterns results).outcome = .returned (.error (.unanswered missing)) ↔
      missing ≠ [] ∧ missing = results.unregistered patterns.names := by
  rw [ofHistories, Pending.outcome_withResults, Outcome.returned.injEq, combine_ofHistories]
  by_cases answered : results.unregistered patterns.names = []
  · rw [if_pos answered]
    constructor
    · intro refused
      split at refused <;> cases refused
    · rintro ⟨lacking, rfl⟩
      exact absurd answered lacking
  · rw [if_neg answered]
    constructor
    · rintro ⟨⟩
      exact ⟨answered, rfl⟩
    · rintro ⟨_, rfl⟩
      rfl

theorem ofHistories_eq_unmatched_iff {unknown : List String} :
    (ofHistories patterns results).outcome = .returned (.error (.unmatched unknown)) ↔
      results.unregistered patterns.names = [] ∧
        unknown ≠ [] ∧ unknown = patterns.unregistered results.names := by
  rw [ofHistories, Pending.outcome_withResults, Outcome.returned.injEq, combine_ofHistories]
  by_cases answered : results.unregistered patterns.names = []
  · rw [if_pos answered]
    by_cases matched : patterns.unregistered results.names = []
    · rw [if_pos matched]
      constructor
      · rintro ⟨⟩
      · rintro ⟨_, unmatched, rfl⟩
        exact absurd matched unmatched
    · rw [if_neg matched]
      constructor
      · rintro ⟨⟩
        exact ⟨answered, matched, rfl⟩
      · rintro ⟨_, _, rfl⟩
        rfl
  · rw [if_neg answered]
    constructor
    · rintro ⟨⟩
    · rintro ⟨all, _⟩
      exact absurd all answered

/-- A matcher can be made where neither side leaves a name out. -/
theorem exists_ofHistories_of_nil (answered : results.unregistered patterns.names = [])
    (matched : patterns.unregistered results.names = []) :
    ∃ m, (ofHistories patterns results).outcome = .returned (.ok m) := by
  rw [exists_ofHistories_iff]
  intro name
  constructor
  · intro mem
    exact History.unregistered_eq_nil_iff.mp answered name (History.mem_names_iff.mpr mem)
  · intro mem
    exact History.unregistered_eq_nil_iff.mp matched name (History.mem_names_iff.mpr mem)

/-- It can also be made with the result functions of the patterns alone. -/
theorem exists_ofHistories_of_restricts {kept : History (P → Run R)}
    (answered : results.unregistered patterns.names = [])
    (restricts : kept.Restricts results (patterns.map Prod.fst)) :
    ∃ m, (ofHistories patterns kept).outcome = .returned (.ok m) := by
  rw [exists_ofHistories_iff]
  intro name
  rw [restricts.mem_iff]
  constructor
  · intro mem
    have listed := History.mem_names_iff.mpr mem
    exact ⟨mem, History.unregistered_eq_nil_iff.mp answered name listed⟩
  · exact And.left

/-! ### The rounds of repair -/

/-- Result functions for the missing names leave nothing unanswered, and as much unmatched as there
was. -/
theorem unregistered_of_answers {missing : List String}
    (refused : (ofHistories patterns results).outcome = .returned (.error (.unanswered missing)))
    {more : History (P → Run R)} (named : ∀ name, name ∈ more.map Prod.fst ↔ name ∈ missing) :
    (results ++ more).unregistered patterns.names = [] ∧
      patterns.unregistered (results ++ more).names = patterns.unregistered results.names := by
  obtain ⟨_, rfl⟩ := ofHistories_eq_unanswered_iff.mp refused
  constructor
  · rw [History.unregistered_append, History.unregistered_eq_nil_iff]
    intro name missed
    exact (named name).mpr missed
  · apply History.unregistered_names_append
    intro name mem
    obtain ⟨listed, _⟩ := History.mem_unregistered_iff.mp ((named name).mp mem)
    exact History.mem_names_iff.mp listed

section Unmatched

variable {unknown : List String} {more : History (Pattern S P)}

/-- Patterns for the unknown names are new, each of them once, so they stand behind the others. -/
theorem entries_of_matches
    (refused : (ofHistories patterns results).outcome = .returned (.error (.unmatched unknown)))
    (named : more.map Prod.fst = unknown) :
    (Roster.ofHistory (patterns ++ more)).entries =
      (Roster.ofHistory patterns).entries ++ more := by
  obtain ⟨_, _, rfl⟩ := ofHistories_eq_unmatched_iff.mp refused
  have apart : ∀ name ∈ more.map Prod.fst, name ∉ patterns.map Prod.fst := by
    rw [named]
    exact fun name missed => (History.mem_unregistered_iff.mp missed).2
  have once : (more.map Prod.fst).Nodup := by
    rw [named]
    exact results.nodup_names.filter _
  rw [Roster.entries_ofHistory_append apart, Roster.entries_ofHistory_of_nodup once]

/-- With them both sides have the same names. -/
theorem same_names_of_matches
    (refused : (ofHistories patterns results).outcome = .returned (.error (.unmatched unknown)))
    (named : more.map Prod.fst = unknown) (name : String) :
    name ∈ (patterns ++ more).map Prod.fst ↔ name ∈ results.map Prod.fst := by
  obtain ⟨answered, _, rfl⟩ := ofHistories_eq_unmatched_iff.mp refused
  rw [List.map_append, List.mem_append, named, History.mem_unregistered_iff,
    History.mem_names_iff]
  constructor
  · rintro (known | ⟨mem, _⟩)
    · exact History.unregistered_eq_nil_iff.mp answered name (History.mem_names_iff.mpr known)
    · exact mem
  · intro mem
    by_cases known : name ∈ patterns.map Prod.fst
    · exact .inl known
    · exact .inr ⟨mem, known⟩

end Unmatched

/-! ### Inputs that a pattern matches -/

theorem passes_of_answer_none {m : Matcher S P R} {input : S}
    (nothing : (m.answer input).outcome = .returned none) : ∀ arm ∈ m.arms, arm.Passes input := by
  obtain ⟨tried, ending, search⟩ := exists_searches m.arms input
  rw [← outcome_winner_eq_none_iff, winner_of_searches search] at nothing
  generalize m.arms = arms at search
  cases search with
  | exhausted passes => exact passes
  | broken _ _ => cases nothing
  | found _ _ => cases nothing

/-- Where some pattern finds a value there is an answer, or a panic before it. -/
theorem answered_of_found {m : Matcher S P R}
    (made : (ofHistories patterns results).outcome = .returned (.ok m)) {input : S} {name : String}
    {value : P} (found : patterns.found? input name = some value) :
    (m.answer input).outcome ≠ .returned none := by
  intro nothing
  have unfound := firstFound_eq_none_of_made made (passes_of_answer_none nothing)
  rw [History.firstFound, List.findSome?_eq_none_iff] at unfound
  have registered : (patterns.latest name).isSome := by
    obtain ⟨pattern, latest, _⟩ := Option.bind_eq_some_iff.mp found
    rw [latest]
    rfl
  have listed := History.mem_names_iff.mpr (History.latest_isSome_iff.mp registered)
  have contradiction := unfound name listed
  rw [found] at contradiction
  cases contradiction

/-- The arms of added patterns follow those of the others, which do not need the result functions of
the added names. -/
theorem fallsBack_of_matches {unknown : List String} {more : History (Pattern S P)}
    {kept : History (P → Run R)}
    (refused : (ofHistories patterns results).outcome = .returned (.error (.unmatched unknown)))
    (named : more.map Prod.fst = unknown)
    (restricts : kept.Restricts results (patterns.map Prod.fst))
    {m m' : Matcher S P R}
    (made : (ofHistories (patterns ++ more) results).outcome = .returned (.ok m))
    (made' : (ofHistories patterns kept).outcome = .returned (.ok m')) :
    m.FallsBack m' ⟨more.filterMap (Pending.armOf (Roster.ofHistory results).get?)⟩ := by
  apply fallsBack_of_arms
  rw [(ofHistories_eq_ok_iff.mp made).2, (ofHistories_eq_ok_iff.mp made').2,
    entries_of_matches refused named, List.filterMap_append,
    filterMap_armOf_of_restricts restricts]

/-- Where result functions are missing, add one for each name that is reported. Then patterns and
result functions are combined, or the names are reported that the mapping had from the start and
the table lacks. Where names are reported that the table lacks, in the first round or in the
second, add a pattern for each of them in this order. Then the two are combined. The matcher has
the names of the table and behind them the added ones. On every input in which a pattern of the
table finds a value, it does what the matcher does that the table makes alone with the result
functions of its own names. -/
theorem mismatches_are_repaired :
    (∀ (patterns : History (Pattern S P)) (results : History (P → Run R)) (missing : List String),
      (ofHistories patterns results).outcome = .returned (.error (.unanswered missing)) →
      ∀ more : History (P → Run R), (∀ name, name ∈ more.map Prod.fst ↔ name ∈ missing) →
        (∃ m, (ofHistories patterns (results ++ more)).outcome = .returned (.ok m)) ∨
        (ofHistories patterns (results ++ more)).outcome =
            .returned (.error (.unmatched (patterns.unregistered results.names))) ∧
          ∀ added : History (Pattern S P),
            added.map Prod.fst = patterns.unregistered results.names →
            ∃ m, (ofHistories (patterns ++ added) (results ++ more)).outcome =
              .returned (.ok m)) ∧
    ∀ (patterns : History (Pattern S P)) (results : History (P → Run R)) (unknown : List String),
      (ofHistories patterns results).outcome = .returned (.error (.unmatched unknown)) →
      ∀ more : History (Pattern S P), more.map Prod.fst = unknown →
        ∃ m, (ofHistories (patterns ++ more) results).outcome = .returned (.ok m) ∧
          m.names = patterns.names ++ unknown ∧
          ∀ kept : History (P → Run R), kept.Restricts results (patterns.map Prod.fst) →
            ∃ m', (ofHistories patterns kept).outcome = .returned (.ok m') ∧
              ∀ input name value, patterns.found? input name = some value →
                m.answer input = m'.answer input ∧ m.winner input = m'.winner input := by
  constructor
  · intro patterns results missing refused more named
    obtain ⟨answered, unmatched_eq⟩ := unregistered_of_answers refused named
    by_cases matched : patterns.unregistered results.names = []
    · exact .inl (exists_ofHistories_of_nil answered (unmatched_eq.trans matched))
    · have unmatched := ofHistories_eq_unmatched_iff.mpr ⟨answered, matched, unmatched_eq.symm⟩
      refine .inr ⟨unmatched, fun added named' => ?_⟩
      exact exists_ofHistories_iff.mpr (same_names_of_matches unmatched named')
  · intro patterns results unknown refused more named
    have same := same_names_of_matches refused named
    obtain ⟨m, made⟩ := exists_ofHistories_iff.mpr same
    refine ⟨m, made, ?_, ?_⟩
    · rw [names_of_made made, ← Roster.names_ofHistory, Roster.names,
        entries_of_matches refused named, List.map_append, named, ← Roster.names_ofHistory]
      rfl
    · intro kept restricts
      obtain ⟨m', made'⟩ := exists_ofHistories_of_restricts
        (ofHistories_eq_unmatched_iff.mp refused).1 restricts
      refine ⟨m', made', fun input name value found => ?_⟩
      have falls := fallsBack_of_matches refused named restricts made made'
      exact falls.kept input (answered_of_found made' found)

/-- Result functions for odd numbers and for primes; the even ones are left out. -/
def oddResults : History (Nat → Run String) :=
  [("prime", fun n => return s!"prime {n}"), ("odd", fun n => return s!"odd {n}")]

/-- The function that is missing for even numbers. -/
def evenResults : History (Nat → Run String) :=
  [("even", fun n => return s!"even {n}")]

/-- The pattern that is missing for primes, of which it knows one. -/
def primePatterns : History (Pattern Nat Nat) :=
  [("prime", .predicate id fun n => return n == 7)]

theorem mismatches_are_repaired_seven :
    (ofHistories parityPatterns oddResults).outcome =
      .returned (.error (.unanswered ["even"])) ∧
    (ofHistories parityPatterns (oddResults ++ evenResults)).outcome =
      .returned (.error (.unmatched ["prime"])) ∧
    ∃ m, (ofHistories (parityPatterns ++ primePatterns) (oddResults ++ evenResults)).outcome =
        .returned (.ok m) ∧
      m.names = ["even", "odd", "prime"] ∧ (m.answer 7).outcome = .returned (some "odd 7") := by
  have missing : (ofHistories parityPatterns oddResults).outcome =
      .returned (.error (.unanswered ["even"])) :=
    ofHistories_eq_unanswered_iff.mpr ⟨by decide, by decide⟩
  have unknown : (ofHistories parityPatterns (oddResults ++ evenResults)).outcome =
      .returned (.error (.unmatched ["prime"])) := by
    have named : ∀ name, name ∈ evenResults.map Prod.fst ↔ name ∈ ["even"] := by
      simp [evenResults]
    rcases mismatches_are_repaired.1 _ _ _ missing evenResults named with made | unmatched
    · exact absurd (exists_ofHistories_iff.mp made "prime") (by decide)
    · exact unmatched.1
  obtain ⟨m, made, names_eq, agrees⟩ :=
    mismatches_are_repaired.2 _ _ _ unknown primePatterns rfl
  obtain ⟨⟨arms⟩, made', agrees⟩ := agrees _ (History.restricts_filter _ _)
  have alone : (answer ⟨arms⟩ 7).outcome = .returned (some "odd 7") := by
    cases (ofHistories_eq_ok_iff.mp made').2
    rfl
  refine ⟨missing, unknown, m, made, names_eq, ?_⟩
  rw [(agrees 7 "odd" 7 rfl).1, alone]

end Matcher

end Switchboard
