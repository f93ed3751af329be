import Switchboard.Proofs.Pattern.Search

/-!
Answers stop early: what an answer calls and reports, and in which order.

`answer_short_circuits` gives the whole run of an answer from its search. The
journal is closed in the span of the answer, holds one report and one extraction
for each arm that is tried and nothing of the arms behind them, and ends with the
report of the match and the result function where a value was found. A panic of an
extraction or of a result function ends the run and is its outcome.
-/

namespace Switchboard.Matcher

open Journal

variable {S P R : Type}

/-! ### Where the events of an answer lie -/

/-- The events of attempts at arms when the spans given are open around them: each report lies in
these spans, and the events of an extraction stand behind the report of its arm. -/
def locatedAttempts (around : List Span) (arms : List (Arm S P R)) (input : S) :
    List (Event × List Span) :=
  arms.flatMap fun arm =>
    (tryingEvent arm.name, around) :: located around (arm.extract input).journal

/-- Extractions that leave their own spans leave the open spans as they were. -/
theorem balanced_attempts {arms : List (Arm S P R)} {input : S}
    (balanced : ∀ arm ∈ arms, (arm.extract input).journal.Balanced) :
    (attempts arms input).Balanced := by
  induction arms with
  | nil => exact balanced_nil
  | cons arm rest ih =>
    obtain ⟨first, others⟩ := List.forall_mem_cons.mp balanced
    have attempt := (balanced_event (tryingEvent arm.name)).append first
    exact attempt.append (ih others)

theorem located_attempts {arms : List (Arm S P R)} {input : S}
    (balanced : ∀ arm ∈ arms, (arm.extract input).journal.Balanced) (around : List Span) :
    located around (attempts arms input) = locatedAttempts around arms input := by
  induction arms with
  | nil => rfl
  | cons arm rest ih =>
    obtain ⟨first, others⟩ := List.forall_mem_cons.mp balanced
    have behind : located around ((arm.extract input).journal ++ attempts rest input) =
        located around (arm.extract input).journal ++ locatedAttempts around rest input := by
      rw [located_append, first, ih others]
    exact congrArg ((tryingEvent arm.name, around) :: ·) behind

/-! ### The law of answers -/

/-- Every answer is that of a search. Its journal holds, between the bounds of its span, for each
arm that is tried the report and then the extraction, then what the ending leaves; its outcome is
that of the ending. Where extractions leave their own spans, the reports lie directly in the span
of the answer. -/
theorem answer_short_circuits (m : Matcher S P R) (input : S) :
    ∃ tried ending, Searches input m.arms tried ending ∧
      m.answer input =
        ⟨.entered answerSpan :: (attempts tried input ++ ending.journal) ++ [.left answerSpan],
          ending.outcome⟩ ∧
      ∀ around, (∀ arm ∈ tried, (arm.extract input).journal.Balanced) →
        located around (m.answer input).journal =
          locatedAttempts (answerSpan :: around) tried input ++
            located (answerSpan :: around) ending.journal := by
  obtain ⟨tried, ending, search⟩ := exists_searches m.arms input
  have run := answer_of_searches search
  refine ⟨tried, ending, search, run, fun around balanced => ?_⟩
  have closing : ∀ spans, located spans [Entry.left answerSpan] = [] := fun _ => rfl
  calc located around (m.answer input).journal
      = located (answerSpan :: around)
          ((attempts tried input ++ ending.journal) ++ [.left answerSpan]) := by rw [run]; rfl
    _ = located (answerSpan :: around) (attempts tried input ++ ending.journal) := by
        rw [located_append, closing, List.append_nil]
    _ = locatedAttempts (answerSpan :: around) tried input ++
          located (answerSpan :: around) ending.journal := by
        rw [located_append, located_attempts balanced, balanced_attempts balanced]

end Switchboard.Matcher
