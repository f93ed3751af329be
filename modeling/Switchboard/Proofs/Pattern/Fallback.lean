import Switchboard.Proofs.Pattern.Winner

/-!
Tables one after the other.

Where the patterns of one table stand before those of another, the second table is
what the first one falls back on: both loops of a matcher run through the arms of
the first and go on with those of the second only where the first found nothing
(`firstResult_append`, `firstName_append`). `tables_compose_by_fallback` says this of
matchers that are made apart, the parts with only those result functions that their
own names call for.
-/

namespace Switchboard

variable {S P R : Type}

/-! ### Running one after the other -/

namespace Run

variable {A : Type}

/-- Run one computation and, only where it returns nothing, another one. -/
def orElse (first second : Run (Option A)) : Run (Option A) := do
  match ← first with
  | none => second
  | some a => return some a

theorem orElse_of_nothing {first : Run (Option A)} (nothing : first.outcome = .returned none)
    (second : Run (Option A)) :
    first.orElse second = ⟨first.journal ++ second.journal, second.outcome⟩ := by
  rw [orElse, bind_of_returned nothing]

/-- A value or a panic is final. -/
theorem orElse_of_ended {first : Run (Option A)} (ended : first.outcome ≠ .returned none)
    (second : Run (Option A)) : first.orElse second = first := by
  obtain ⟨journal, outcome⟩ := first
  cases outcome with
  | panicked text => rfl
  | returned found =>
    cases found with
    | none => exact absurd rfl ended
    | some a =>
      rw [orElse, bind_of_returned rfl]
      simp

end Run

/-! ### Arms one after the other -/

namespace Matcher

theorem firstResult_append (arms more : List (Arm S P R)) (input : S) :
    firstResult (arms ++ more) input =
      (firstResult arms input).orElse (firstResult more input) := by
  induction arms with
  | nil => rfl
  | cons arm rest ih =>
    rw [List.cons_append, firstResult, firstResult, Run.orElse, bind_assoc]
    refine congrArg (Run.emit _ >>= ·) (funext fun _ => ?_)
    rw [bind_assoc]
    refine congrArg (arm.extract input >>= ·) (funext fun found => ?_)
    cases found with
    | none => exact ih
    | some value => simp

theorem firstName_append (arms more : List (Arm S P R)) (input : S) :
    firstName (arms ++ more) input = (firstName arms input).orElse (firstName more input) := by
  induction arms with
  | nil => rfl
  | cons arm rest ih =>
    rw [List.cons_append, firstName, firstName, Run.orElse, bind_assoc]
    refine congrArg (arm.extract input >>= ·) (funext fun found => ?_)
    cases found with
    | none => exact ih
    | some value => rfl

/-- Where there is no answer there is no winner, and conversely. -/
theorem outcome_winner_eq_none_iff (m : Matcher S P R) (input : S) :
    (m.winner input).outcome = .returned none ↔ (m.answer input).outcome = .returned none := by
  obtain ⟨answered, won⟩ := m.outcomes_of_ending input
  rw [answered, won]
  exact (ending m.arms input).winner_eq_none_iff

/-- The first matcher decides wherever it can, and what it finds nothing for goes to the second. -/
structure FallsBack (m m₁ m₂ : Matcher S P R) : Prop where
  names_eq : m.names = m₁.names ++ m₂.names
  /-- There is one span, and in it the first matcher does what it does alone, then the second. -/
  answer_eq : ∀ input, ∃ run₁ run₂ : Run (Option R),
    m₁.answer input = .within answerSpan run₁ ∧ m₂.answer input = .within answerSpan run₂ ∧
      m.answer input = .within answerSpan (run₁.orElse run₂)
  winner_eq : ∀ input, m.winner input = (m₁.winner input).orElse (m₂.winner input)
  /-- An answer of the first matcher, or its panic, is the answer, without another call. -/
  kept : ∀ input, (m₁.answer input).outcome ≠ .returned none →
    m.answer input = m₁.answer input ∧ m.winner input = m₁.winner input
  /-- Where the first matcher has no answer, that of the second follows its calls and reports. -/
  passed_on : ∀ input, (m₁.answer input).outcome = .returned none →
    (m.answer input).outcome = (m₂.answer input).outcome ∧
    (m.answer input).journal.notes =
      (m₁.answer input).journal.notes ++ (m₂.answer input).journal.notes ∧
    (m.answer input).journal.events =
      (m₁.answer input).journal.events ++ (m₂.answer input).journal.events ∧
    m.winner input =
      ⟨(m₁.winner input).journal ++ (m₂.winner input).journal, (m₂.winner input).outcome⟩

/-- Arms one after the other are tried one after the other. -/
theorem fallsBack_of_arms {m m₁ m₂ : Matcher S P R} (arms_eq : m.arms = m₁.arms ++ m₂.arms) :
    m.FallsBack m₁ m₂ := by
  have answered : ∀ input, m.answer input = .within answerSpan
      ((firstResult m₁.arms input).orElse (firstResult m₂.arms input)) := by
    intro input
    rw [answer, arms_eq, firstResult_append]
  have won : ∀ input, m.winner input = (m₁.winner input).orElse (m₂.winner input) := by
    intro input
    rw [winner, arms_eq, firstName_append]
    rfl
  constructor
  · rw [names, arms_eq, List.map_append]
    rfl
  · exact fun input => ⟨_, _, rfl, rfl, answered input⟩
  · exact won
  · intro input ended
    have inside : (firstResult m₁.arms input).outcome ≠ .returned none := ended
    have unsettled := mt (m₁.outcome_winner_eq_none_iff input).mp ended
    rw [answered, won, Run.orElse_of_ended inside, Run.orElse_of_ended unsettled]
    exact ⟨rfl, rfl⟩
  · intro input nothing
    have inside : (firstResult m₁.arms input).outcome = .returned none := nothing
    have unsettled := (m₁.outcome_winner_eq_none_iff input).mpr nothing
    rw [answered, won, Run.orElse_of_nothing inside, Run.orElse_of_nothing unsettled]
    refine ⟨rfl, ?_, ?_, rfl⟩
    · simp [answer, Run.within, Journal.notes]
    · simp [answer, Run.within, Journal.events]

end Matcher

/-! ### Matchers made apart -/

/-- The part has, of what was registered last in the whole, what lies under the names. -/
def History.Restricts {α : Type} (part whole : History α) (names : List String) : Prop :=
  ∀ name, part.latest name = if name ∈ names then whole.latest name else none

namespace History

variable {α : Type}

/-- Leaving out the registrations under other names is a way to restrict a history. -/
theorem restricts_filter (whole : History α) (names : List String) :
    Restricts (whole.filter fun entry => entry.1 ∈ names) whole names := by
  intro name
  induction whole with
  | nil => simp
  | cons entry rest ih =>
    obtain ⟨n, a⟩ := entry
    by_cases listed : n ∈ names
    · rw [List.filter_cons_of_pos (by simpa using listed), latest, latest, ih]
      by_cases asked : name ∈ names
      · rw [if_pos asked, if_pos asked]
      · have other : name ≠ n := fun same => asked (same ▸ listed)
        rw [if_neg asked, if_neg asked, if_neg other, Option.none_or]
    · rw [List.filter_cons_of_neg (by simpa using listed), latest, ih]
      by_cases asked : name ∈ names
      · have other : name ≠ n := fun same => listed (same ▸ asked)
        rw [if_pos asked, if_pos asked, if_neg other, Option.or_none]
      · rw [if_neg asked, if_neg asked]

theorem Restricts.mem_iff {part whole : History α} {names : List String}
    (restricts : part.Restricts whole names) (name : String) :
    name ∈ part.map Prod.fst ↔ name ∈ names ∧ name ∈ whole.map Prod.fst := by
  rw [← latest_isSome_iff, ← latest_isSome_iff, restricts name]
  by_cases listed : name ∈ names
  · simp [listed]
  · simp [listed]

end History

namespace Matcher

variable {first second : History (Pattern S P)} {results results₁ results₂ : History (P → Run R)}

/-- The patterns of a table do not tell a mapping from what it restricts to under their names. -/
theorem filterMap_armOf_of_restricts {patterns : History (Pattern S P)}
    {part whole : History (P → Run R)}
    (restricts : part.Restricts whole (patterns.map Prod.fst)) :
    (Roster.ofHistory patterns).entries.filterMap
        (Pending.armOf (Roster.ofHistory whole).get?) =
      (Roster.ofHistory patterns).entries.filterMap
        (Pending.armOf (Roster.ofHistory part).get?) := by
  refine List.filterMap_congr fun entry mem => ?_
  have listed : entry.1 ∈ patterns.map Prod.fst :=
    Roster.mem_names_ofHistory_iff.mp (List.mem_map_of_mem mem)
  have same : (Roster.ofHistory part).get? entry.1 = (Roster.ofHistory whole).get? entry.1 := by
    rw [Roster.get?_ofHistory, Roster.get?_ofHistory, restricts, if_pos listed]
  rw [Pending.armOf, Pending.armOf, same]

/-- Take two tables without a name in common and result functions for exactly their names. The
patterns of both in one table, those of the first before those of the second, can be had by
registering them in this order. Every such table combines with the result functions, and each of
the two with those of its own names; and the matcher of the whole answers an input as that of the
first does, with the same calls and reports and nothing else, unless that finds nothing: then what
the matcher of the second does follows. -/
theorem tables_compose_by_fallback
    (apart : ∀ name ∈ first.map Prod.fst, name ∉ second.map Prod.fst)
    (covers : ∀ name, name ∈ results.map Prod.fst ↔
      name ∈ first.map Prod.fst ∨ name ∈ second.map Prod.fst)
    (restricts₁ : results₁.Restricts results (first.map Prod.fst))
    (restricts₂ : results₂.Restricts results (second.map Prod.fst)) :
    (Roster.ofHistory (first ++ second)).entries =
      (Roster.ofHistory first).entries ++ (Roster.ofHistory second).entries ∧
    ∀ joined : History (Pattern S P),
      (Roster.ofHistory joined).entries =
        (Roster.ofHistory first).entries ++ (Roster.ofHistory second).entries →
      ∃ m m₁ m₂, (ofHistories joined results).outcome = .returned (.ok m) ∧
        (ofHistories first results₁).outcome = .returned (.ok m₁) ∧
        (ofHistories second results₂).outcome = .returned (.ok m₂) ∧
        m.FallsBack m₁ m₂ := by
  refine ⟨Roster.entries_ofHistory_append fun name mem other => apart name other mem, ?_⟩
  intro joined entries_eq
  have named : ∀ name, name ∈ joined.map Prod.fst ↔ name ∈ results.map Prod.fst := by
    intro name
    rw [covers, ← Roster.mem_names_ofHistory_iff, Roster.names, entries_eq, List.map_append,
      List.mem_append]
    exact or_congr Roster.mem_names_ofHistory_iff Roster.mem_names_ofHistory_iff
  have named₁ : ∀ name, name ∈ first.map Prod.fst ↔ name ∈ results₁.map Prod.fst := by
    intro name
    rw [restricts₁.mem_iff, covers]
    exact ⟨fun mem => ⟨mem, .inl mem⟩, And.left⟩
  have named₂ : ∀ name, name ∈ second.map Prod.fst ↔ name ∈ results₂.map Prod.fst := by
    intro name
    rw [restricts₂.mem_iff, covers]
    exact ⟨fun mem => ⟨mem, .inr mem⟩, And.left⟩
  refine ⟨⟨_⟩, ⟨_⟩, ⟨_⟩, ofHistories_eq_ok_iff.mpr ⟨named, rfl⟩,
    ofHistories_eq_ok_iff.mpr ⟨named₁, rfl⟩, ofHistories_eq_ok_iff.mpr ⟨named₂, rfl⟩,
    fallsBack_of_arms ?_⟩
  rw [entries_eq, List.filterMap_append, filterMap_armOf_of_restricts restricts₁,
    filterMap_armOf_of_restricts restricts₂]

/-- Patterns for even numbers only. -/
def evenPatterns : History (Pattern Nat Nat) :=
  [("even", .predicate id fun n => return n % 2 == 0)]

/-- Patterns for odd numbers only. -/
def oddPatterns : History (Pattern Nat Nat) :=
  [("odd", .predicate id fun n => return n % 2 == 1)]

theorem tables_compose_by_fallback_seven :
    ∃ m m₁ m₂, (ofHistories parityPatterns parityResults).outcome = .returned (.ok m) ∧
      (ofHistories evenPatterns (parityResults.filter fun entry => entry.1 ∈ ["even"])).outcome =
        .returned (.ok m₁) ∧
      (ofHistories oddPatterns (parityResults.filter fun entry => entry.1 ∈ ["odd"])).outcome =
        .returned (.ok m₂) ∧
      m.FallsBack m₁ m₂ ∧ (m₁.answer 7).outcome = .returned none ∧
      (m.answer 7).outcome = .returned (some "odd 7") := by
  have apart : ∀ name ∈ evenPatterns.map Prod.fst, name ∉ oddPatterns.map Prod.fst := by
    simp [evenPatterns, oddPatterns]
  have covers : ∀ name, name ∈ parityResults.map Prod.fst ↔
      name ∈ evenPatterns.map Prod.fst ∨ name ∈ oddPatterns.map Prod.fst := by
    simp [parityResults, evenPatterns, oddPatterns, or_comm]
  obtain ⟨_, composes⟩ := tables_compose_by_fallback apart covers
    (History.restricts_filter _ _) (History.restricts_filter _ _)
  obtain ⟨m, ⟨arms₁⟩, ⟨arms₂⟩, made, made₁, made₂, falls⟩ := composes parityPatterns rfl
  have nothing : (answer ⟨arms₁⟩ 7).outcome = .returned none := by
    cases (ofHistories_eq_ok_iff.mp made₁).2
    rfl
  have odd : (answer ⟨arms₂⟩ 7).outcome = .returned (some "odd 7") := by
    cases (ofHistories_eq_ok_iff.mp made₂).2
    rfl
  exact ⟨m, ⟨arms₁⟩, ⟨arms₂⟩, made, made₁, made₂, falls, nothing,
    (falls.passed_on 7 nothing).1.trans odd⟩

end Matcher

end Switchboard
