import Switchboard.Proofs.Pattern.Combination
import Switchboard.Proofs.Pattern.Search

/-!
Matchers made of two histories, read off the histories alone.

`firstFound` looks for the first name, in the order of first registration, whose
last pattern finds a value. `ofHistories_first_match` says that a matcher exists
exactly where the two histories have the same names, that it has one arm for each
name with the last pattern and the last result function registered under it, and
that it answers an input by the last result function of the first name found.
-/

namespace Switchboard

variable {S P R : Type}

/-! ### What the patterns of a history find -/

/-- The value that a pattern finds in an input, none where it panics. -/
def Pattern.found? (pattern : Pattern S P) (input : S) : Option P :=
  match (pattern.extract input).outcome with
  | .returned found => found
  | .panicked _ => none

/-- The value that the last pattern of a name finds in an input. -/
def History.found? (patterns : History (Pattern S P)) (input : S) (name : String) : Option P :=
  (patterns.latest name).bind fun pattern => pattern.found? input

/-- The first name whose last pattern finds a value in the input, with that value. -/
def History.firstFound (patterns : History (Pattern S P)) (input : S) : Option (String × P) :=
  patterns.names.findSome? fun name => (patterns.found? input name).map fun value => (name, value)

namespace Matcher

variable {patterns : History (Pattern S P)} {results : History (P → Run R)} {m : Matcher S P R}

/-! ### The arms of a matcher made of histories -/

theorem names_of_made (made : (ofHistories patterns results).outcome = .returned (.ok m)) :
    m.names = patterns.names := by
  rw [(joins_ofHistories made).names_eq, Roster.names_ofHistory]

theorem pattern_of_made (made : (ofHistories patterns results).outcome = .returned (.ok m))
    {arm : Arm S P R} (mem : arm ∈ m.arms) :
    ∃ pattern, patterns.latest arm.name = some pattern ∧ arm.extract = pattern.extract := by
  obtain ⟨pattern, found, extract_eq⟩ := (joins_ofHistories made).pattern_of arm mem
  rw [Roster.get?_ofHistory] at found
  exact ⟨pattern, found, extract_eq⟩

theorem result_of_made (made : (ofHistories patterns results).outcome = .returned (.ok m))
    {arm : Arm S P R} (mem : arm ∈ m.arms) : results.latest arm.name = some arm.result := by
  rw [← Roster.get?_ofHistory, (joins_ofHistories made).result_of arm mem]

/-- What the history finds under the name of an arm is what the arm's extraction returns. -/
theorem found?_of_made (made : (ofHistories patterns results).outcome = .returned (.ok m))
    {arm : Arm S P R} (mem : arm ∈ m.arms) {input : S} {found : Option P}
    (returned : (arm.extract input).outcome = .returned found) :
    patterns.found? input arm.name = found := by
  obtain ⟨pattern, latest, extract_eq⟩ := pattern_of_made made mem
  rw [extract_eq] at returned
  rw [History.found?, latest, Option.bind_some, Pattern.found?, returned]

/-! ### Answers -/

theorem firstFound_eq_none_of_made
    (made : (ofHistories patterns results).outcome = .returned (.ok m)) {input : S}
    (passes : ∀ arm ∈ m.arms, arm.Passes input) : patterns.firstFound input = none := by
  rw [History.firstFound, List.findSome?_eq_none_iff]
  intro name listed
  rw [← names_of_made made] at listed
  obtain ⟨arm, mem, rfl⟩ := List.mem_map.mp listed
  rw [found?_of_made made mem (passes arm mem)]
  rfl

theorem firstFound_eq_some_of_made
    (made : (ofHistories patterns results).outcome = .returned (.ok m)) {input : S}
    {passed later : List (Arm S P R)} {arm : Arm S P R} {value : P}
    (split : m.arms = passed ++ arm :: later) (passes : ∀ a ∈ passed, a.Passes input)
    (finds : (arm.extract input).outcome = .returned (some value)) :
    patterns.firstFound input = some (arm.name, value) := by
  rw [History.firstFound, List.findSome?_eq_some_iff]
  refine ⟨passed.map Arm.name, arm.name, later.map Arm.name, ?_, ?_, ?_⟩
  · rw [← names_of_made made, names, split, List.map_append, List.map_cons]
  · have mem : arm ∈ m.arms := by simp [split]
    rw [found?_of_made made mem finds]
    rfl
  · intro name listed
    obtain ⟨a, earlier, rfl⟩ := List.mem_map.mp listed
    have mem : a ∈ m.arms := by simp [split, earlier]
    rw [found?_of_made made mem (passes a earlier)]
    rfl

/-- A matcher can be made of a history of patterns and one of result functions exactly where the
same names occur in both. It has one arm for each name, in the order in which the names first came
among the patterns, with the last pattern and the last result function of the name. It answers an
input on which no pattern panics by the first name whose last pattern finds a value: the last
result function of that name is called on the value. Where no name finds one, it answers none. -/
theorem ofHistories_first_match (patterns : History (Pattern S P))
    (results : History (P → Run R)) :
    ((∃ m, (ofHistories patterns results).outcome = .returned (.ok m)) ↔
      ∀ name, name ∈ patterns.map Prod.fst ↔ name ∈ results.map Prod.fst) ∧
    ∀ m, (ofHistories patterns results).outcome = .returned (.ok m) →
      m.names = patterns.names ∧ m.names.Nodup ∧
      (∀ arm ∈ m.arms, results.latest arm.name = some arm.result ∧
        ∃ pattern, patterns.latest arm.name = some pattern ∧ arm.extract = pattern.extract) ∧
      ∀ input,
        (∀ name pattern, patterns.latest name = some pattern →
          ∀ text, (pattern.extract input).outcome ≠ .panicked text) →
        match patterns.firstFound input with
        | none => (m.answer input).outcome = .returned none
        | some (name, value) => ∃ result, results.latest name = some result ∧
            (m.answer input).outcome = (result value).outcome.map some := by
  refine ⟨exists_ofHistories_iff, fun m made => ?_⟩
  have names_eq := names_of_made made
  have nodup : m.names.Nodup := by
    rw [names_eq]
    exact patterns.nodup_names
  refine ⟨names_eq, nodup, fun arm mem => ⟨result_of_made made mem, pattern_of_made made mem⟩, ?_⟩
  intro input quiet
  obtain ⟨tried, ending, search⟩ := exists_searches m.arms input
  have answered : (m.answer input).outcome = ending.outcome := by rw [answer_of_searches search]
  generalize split : m.arms = arms at search
  cases search with
  | exhausted passes =>
    subst split
    rw [firstFound_eq_none_of_made made passes]
    exact answered
  | @broken passed later arm text passes panics =>
    have mem : arm ∈ m.arms := by simp [split]
    obtain ⟨pattern, latest, extract_eq⟩ := pattern_of_made made mem
    rw [extract_eq] at panics
    exact absurd panics (quiet arm.name pattern latest text)
  | @found passed later arm value passes finds =>
    have mem : arm ∈ m.arms := by simp [split]
    rw [firstFound_eq_some_of_made made split passes finds]
    exact ⟨arm.result, result_of_made made mem, answered⟩

/-- Patterns for even and odd numbers; the first pattern for even numbers was replaced. -/
def parityPatterns : History (Pattern Nat Nat) :=
  [("even", .extracting fun _ => Run.panic "replaced"),
    ("odd", .predicate id fun n => return n % 2 == 1),
    ("even", .predicate id fun n => return n % 2 == 0)]

def parityResults : History (Nat → Run String) :=
  [("odd", fun n => return s!"odd {n}"), ("even", fun n => return s!"even {n}")]

theorem parity_same_names (name : String) :
    name ∈ parityPatterns.map Prod.fst ↔ name ∈ parityResults.map Prod.fst := by
  simp [parityPatterns, parityResults, or_comm]

theorem ofHistories_first_match_seven :
    ∃ m, (ofHistories parityPatterns parityResults).outcome = .returned (.ok m) ∧
      m.names = ["even", "odd"] ∧ (m.answer 7).outcome = .returned (some "odd 7") := by
  have meaning := ofHistories_first_match parityPatterns parityResults
  obtain ⟨m, made⟩ := meaning.1.mpr parity_same_names
  obtain ⟨names_eq, _, _, answers⟩ := meaning.2 m made
  have quiet : ∀ name pattern, parityPatterns.latest name = some pattern →
      ∀ text, (pattern.extract 7).outcome ≠ .panicked text := by
    intro name pattern latest text panics
    by_cases even : name = "even"
    · subst even
      cases latest
      cases panics
    · by_cases odd : name = "odd"
      · subst odd
        cases latest
        cases panics
      · simp [parityPatterns, History.latest, even, odd] at latest
  obtain ⟨result, latest, answered⟩ := answers 7 quiet
  cases latest
  exact ⟨m, made, names_eq, answered⟩

end Matcher

end Switchboard
