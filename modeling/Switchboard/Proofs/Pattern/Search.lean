import Switchboard.Pattern.Matcher

/-!
Searches through arms, as one relation for the two loops that search.

`Searches` says of a list of arms which of them are tried on an input and how the
search ends: with no arm left, with a panic of an extraction, or at the first arm
whose extraction returns a value. Every list of arms has such a search
(`exists_searches`), and `answer_of_searches` and `winner_of_searches` say what each
loop leaves behind and returns on it. What an arm's functions leave is
kept as a whole journal, so an extraction or result function stands in the journal
of a search as often as it is called, and in that order.
-/

namespace Switchboard

open Journal

variable {S P R : Type}

/-- The extraction returns nothing, so that the next arm is tried. -/
def Arm.Passes (arm : Arm S P R) (input : S) : Prop :=
  (arm.extract input).outcome = .returned none

namespace Matcher

/-! ### Endings -/

/-- How a search through arms ends. -/
inductive Ending (S P R : Type) where
  /-- No arm is left. -/
  | exhausted
  /-- An extraction panics. -/
  | broken (text : String)
  /-- An extraction returns a value. -/
  | found (arm : Arm S P R) (value : P)

namespace Ending

/-- What an answer leaves after the arms that it tried. -/
def journal : Ending S P R → Journal
  | exhausted => []
  | broken _ => []
  | found arm value => .event (matchedEvent arm.name) :: (arm.result value).journal

/-- How an answer ends. -/
def outcome : Ending S P R → Outcome (Option R)
  | exhausted => .returned none
  | broken text => .panicked text
  | found arm value => (arm.result value).outcome.map some

/-- How the search for the winner ends. -/
def winner : Ending S P R → Outcome (Option String)
  | exhausted => .returned none
  | broken text => .panicked text
  | found arm _ => .returned (some arm.name)

end Ending

/-! ### Searches -/

/-- `Searches input arms tried ending`: of the arms exactly those in `tried` are tried on the
input, in order, and the search ends in this way. All arms before the last one tried pass. -/
inductive Searches (input : S) :
    List (Arm S P R) → List (Arm S P R) → Ending S P R → Prop where
  | exhausted {arms : List (Arm S P R)} :
      (∀ arm ∈ arms, arm.Passes input) → Searches input arms arms .exhausted
  | broken {passed later : List (Arm S P R)} {arm : Arm S P R} {text : String} :
      (∀ a ∈ passed, a.Passes input) → (arm.extract input).outcome = .panicked text →
      Searches input (passed ++ arm :: later) (passed ++ [arm]) (.broken text)
  | found {passed later : List (Arm S P R)} {arm : Arm S P R} {value : P} :
      (∀ a ∈ passed, a.Passes input) → (arm.extract input).outcome = .returned (some value) →
      Searches input (passed ++ arm :: later) (passed ++ [arm]) (.found arm value)

/-- An arm that passes is tried, and the search goes on behind it. -/
theorem Searches.cons {input : S} {arm : Arm S P R} {arms tried : List (Arm S P R)}
    {ending : Ending S P R} (passes : arm.Passes input)
    (search : Searches input arms tried ending) :
    Searches input (arm :: arms) (arm :: tried) ending := by
  cases search with
  | exhausted rest => exact .exhausted (List.forall_mem_cons.mpr ⟨passes, rest⟩)
  | broken rest panics => exact .broken (List.forall_mem_cons.mpr ⟨passes, rest⟩) panics
  | found rest finds => exact .found (List.forall_mem_cons.mpr ⟨passes, rest⟩) finds

/-- How the search through arms ends. -/
def ending : List (Arm S P R) → S → Ending S P R
  | [], _ => .exhausted
  | arm :: rest, input =>
    match (arm.extract input).outcome with
    | .panicked text => .broken text
    | .returned none => ending rest input
    | .returned (some value) => .found arm value

theorem ending_cons_of_passes {arm : Arm S P R} {input : S} (passes : arm.Passes input)
    (rest : List (Arm S P R)) : ending (arm :: rest) input = ending rest input := by
  rw [Arm.Passes] at passes
  simp only [ending, passes]

theorem exists_searches_ending (arms : List (Arm S P R)) (input : S) :
    ∃ tried, Searches input arms tried (ending arms input) := by
  have none_passed : ∀ arm ∈ ([] : List (Arm S P R)), arm.Passes input := by simp
  induction arms with
  | nil => exact ⟨[], .exhausted none_passed⟩
  | cons arm rest ih =>
    cases ended : (arm.extract input).outcome with
    | panicked text =>
      have broken : Searches input (arm :: rest) [arm] (.broken text) := .broken none_passed ended
      exact ⟨[arm], by simpa only [ending, ended] using broken⟩
    | returned found =>
      cases found with
      | some value =>
        have found : Searches input (arm :: rest) [arm] (.found arm value) :=
          .found none_passed ended
        exact ⟨[arm], by simpa only [ending, ended] using found⟩
      | none =>
        obtain ⟨tried, search⟩ := ih
        rw [ending_cons_of_passes ended]
        exact ⟨arm :: tried, search.cons ended⟩

/-- Every search takes some course. -/
theorem exists_searches (arms : List (Arm S P R)) (input : S) :
    ∃ tried ending, Searches input arms tried ending := by
  obtain ⟨tried, search⟩ := exists_searches_ending arms input
  exact ⟨tried, ending arms input, search⟩

/-- An arm that is tried passes, or the search ends at it. -/
theorem Searches.passes_or_ends {input : S} {arms tried : List (Arm S P R)}
    {ending : Ending S P R} (search : Searches input arms tried ending) {arm : Arm S P R}
    (mem : arm ∈ tried) :
    arm.Passes input ∨
      (∃ text, (arm.extract input).outcome = .panicked text ∧ ending = .broken text) ∨
      ∃ value, (arm.extract input).outcome = .returned (some value) ∧
        ending = .found arm value := by
  cases search with
  | exhausted passes => exact .inl (passes arm mem)
  | broken passes panics =>
    rcases List.mem_append.mp mem with earlier | last
    · exact .inl (passes arm earlier)
    · obtain rfl := List.mem_singleton.mp last
      exact .inr (.inl ⟨_, panics, rfl⟩)
  | found passes finds =>
    rcases List.mem_append.mp mem with earlier | last
    · exact .inl (passes arm earlier)
    · obtain rfl := List.mem_singleton.mp last
      exact .inr (.inr ⟨_, finds, rfl⟩)

/-- A search breaks off exactly where the extraction of an arm that is tried panics. -/
theorem Searches.eq_broken_iff {input : S} {arms tried : List (Arm S P R)}
    {ending : Ending S P R} (search : Searches input arms tried ending) (text : String) :
    ending = .broken text ↔ ∃ arm ∈ tried, (arm.extract input).outcome = .panicked text := by
  constructor
  · rintro rfl
    cases search with
    | broken passes panics => exact ⟨_, by simp, panics⟩
  · rintro ⟨arm, mem, panicked⟩
    rcases search.passes_or_ends mem with passes | ⟨other, panics, ends⟩ | ⟨value, finds, _⟩
    · rw [Arm.Passes, panicked] at passes
      cases passes
    · rw [panicked] at panics
      cases panics
      exact ends
    · rw [panicked] at finds
      cases finds

/-! ### The two loops -/

/-- What an answer leaves while it tries arms: for each the report, then what the extraction
leaves. -/
def attempts (arms : List (Arm S P R)) (input : S) : Journal :=
  arms.flatMap fun arm => .event (tryingEvent arm.name) :: (arm.extract input).journal

/-- What the extractions of arms leave. -/
def extractions (arms : List (Arm S P R)) (input : S) : Journal :=
  arms.flatMap fun arm => (arm.extract input).journal

theorem attempts_append (arms more : List (Arm S P R)) (input : S) :
    attempts (arms ++ more) input = attempts arms input ++ attempts more input :=
  List.flatMap_append

theorem extractions_append (arms more : List (Arm S P R)) (input : S) :
    extractions (arms ++ more) input = extractions arms input ++ extractions more input :=
  List.flatMap_append

theorem firstResult_cons_of_passes {arm : Arm S P R} {input : S} (passes : arm.Passes input)
    (rest : List (Arm S P R)) :
    firstResult (arm :: rest) input =
      ⟨.event (tryingEvent arm.name) :: (arm.extract input).journal ++
          (firstResult rest input).journal, (firstResult rest input).outcome⟩ := by
  rw [firstResult, Run.emit_bind, Run.bind_of_returned passes]
  rfl

theorem firstResult_cons_of_panicked {arm : Arm S P R} {input : S} {text : String}
    (panics : (arm.extract input).outcome = .panicked text) (rest : List (Arm S P R)) :
    firstResult (arm :: rest) input =
      ⟨.event (tryingEvent arm.name) :: (arm.extract input).journal, .panicked text⟩ := by
  rw [firstResult, Run.emit_bind, Run.bind_of_panicked panics]

theorem firstResult_cons_of_found {arm : Arm S P R} {input : S} {value : P}
    (finds : (arm.extract input).outcome = .returned (some value)) (rest : List (Arm S P R)) :
    firstResult (arm :: rest) input =
      ⟨.event (tryingEvent arm.name) :: (arm.extract input).journal ++
          .event (matchedEvent arm.name) :: (arm.result value).journal,
        (arm.result value).outcome.map some⟩ := by
  rw [firstResult, Run.emit_bind, Run.bind_of_returned finds]
  simp only [Run.emit_bind, bind_pure_comp, Run.journal_map, Run.outcome_map, List.cons_append]

/-- Arms that pass leave their attempts before whatever the arms behind them do. -/
theorem firstResult_append_of_passes {passed : List (Arm S P R)} {input : S}
    (passes : ∀ arm ∈ passed, arm.Passes input) (rest : List (Arm S P R)) :
    firstResult (passed ++ rest) input =
      ⟨attempts passed input ++ (firstResult rest input).journal,
        (firstResult rest input).outcome⟩ := by
  induction passed with
  | nil => rfl
  | cons arm passed ih =>
    obtain ⟨first, others⟩ := List.forall_mem_cons.mp passes
    rw [List.cons_append, firstResult_cons_of_passes first, ih others]
    simp [attempts]

theorem firstName_append_of_passes {passed : List (Arm S P R)} {input : S}
    (passes : ∀ arm ∈ passed, arm.Passes input) (rest : List (Arm S P R)) :
    firstName (passed ++ rest) input =
      ⟨extractions passed input ++ (firstName rest input).journal,
        (firstName rest input).outcome⟩ := by
  induction passed with
  | nil => rfl
  | cons arm passed ih =>
    obtain ⟨first, others⟩ := List.forall_mem_cons.mp passes
    rw [List.cons_append, firstName, Run.bind_of_returned first]
    simp [ih others, extractions]

/-- The loop of an answer goes the way of the search. -/
theorem firstResult_of_searches {input : S} {arms tried : List (Arm S P R)}
    {ending : Ending S P R} (search : Searches input arms tried ending) :
    firstResult arms input = ⟨attempts tried input ++ ending.journal, ending.outcome⟩ := by
  cases search with
  | exhausted passes =>
    have all := firstResult_append_of_passes passes []
    rw [List.append_nil] at all
    exact all
  | broken passes panics =>
    rw [firstResult_append_of_passes passes, firstResult_cons_of_panicked panics, attempts_append]
    simp [attempts, Ending.journal, Ending.outcome]
  | found passes finds =>
    rw [firstResult_append_of_passes passes, firstResult_cons_of_found finds, attempts_append]
    simp [attempts, Ending.journal, Ending.outcome]

/-- The loop that looks for the winner goes the way of the same search. -/
theorem firstName_of_searches {input : S} {arms tried : List (Arm S P R)}
    {ending : Ending S P R} (search : Searches input arms tried ending) :
    firstName arms input = ⟨extractions tried input, ending.winner⟩ := by
  cases search with
  | exhausted passes =>
    have all := firstName_append_of_passes passes []
    rw [List.append_nil] at all
    rw [all]
    simp [firstName, Ending.winner]
  | broken passes panics =>
    rw [firstName_append_of_passes passes, firstName, Run.bind_of_panicked panics,
      extractions_append]
    simp [extractions, Ending.winner]
  | found passes finds =>
    rw [firstName_append_of_passes passes, firstName, Run.bind_of_returned finds,
      extractions_append]
    simp [extractions, Ending.winner]

theorem answer_of_searches {m : Matcher S P R} {input : S} {tried : List (Arm S P R)}
    {ending : Ending S P R} (search : Searches input m.arms tried ending) :
    m.answer input =
      ⟨.entered answerSpan :: (attempts tried input ++ ending.journal) ++ [.left answerSpan],
        ending.outcome⟩ := by
  rw [answer, firstResult_of_searches search]
  rfl

theorem winner_of_searches {m : Matcher S P R} {input : S} {tried : List (Arm S P R)}
    {ending : Ending S P R} (search : Searches input m.arms tried ending) :
    m.winner input = ⟨extractions tried input, ending.winner⟩ :=
  firstName_of_searches search

/-- A winner is the name of an arm that the search found. -/
theorem exists_found_of_winner {m : Matcher S P R} {input : S} {name : String}
    (wins : (m.winner input).outcome = .returned (some name)) :
    ∃ tried arm value, Searches input m.arms tried (.found arm value) ∧ arm.name = name := by
  obtain ⟨tried, ending, search⟩ := exists_searches m.arms input
  rw [winner_of_searches search] at wins
  cases ending with
  | exhausted => cases wins
  | broken text => cases wins
  | found arm value =>
    cases wins
    exact ⟨tried, arm, value, search, rfl⟩

/-- An arm that the search found is one of those searched, and its extraction returned the value. -/
theorem Searches.found_mem {input : S} {arms tried : List (Arm S P R)} {arm : Arm S P R} {value : P}
    (search : Searches input arms tried (.found arm value)) :
    arm ∈ arms ∧ (arm.extract input).outcome = .returned (some value) := by
  cases search with
  | found _ finds => exact ⟨by simp, finds⟩

/-- Both loops end as the search does. -/
theorem outcomes_of_ending (m : Matcher S P R) (input : S) :
    (m.answer input).outcome = (ending m.arms input).outcome ∧
      (m.winner input).outcome = (ending m.arms input).winner := by
  obtain ⟨tried, search⟩ := exists_searches_ending m.arms input
  rw [answer_of_searches search, winner_of_searches search]
  exact ⟨rfl, rfl⟩

end Matcher

end Switchboard
