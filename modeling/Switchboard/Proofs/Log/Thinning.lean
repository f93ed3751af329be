import Switchboard.Journal

/-!
Logs under thresholds: a threshold takes lines away and does nothing else.

A `Threshold` decides by target and level alone whether an event or a span is let through, and
lets through with a level everything less detailed; nothing else is asked of what filters a log.
Where each event has only such spans around it as are let through whenever it is
(`Journal.Uniform`), a line is the same under every threshold that shows it. So the log under one
threshold is the log under a more generous one without the lines that the first does not let
through (`Journal.shown_eq_filter`).

An event of one part inside the span of another would break this: a threshold that hides the
second part alone shows the event, but not the name of the span in its line.
-/

namespace Switchboard

/-! ### Thresholds -/

/-- A limit of detail for each target. -/
structure Threshold where
  enables : String → Level → Bool
  /-- With a level everything less detailed is let through. -/
  enables_of_rank_le : ∀ {target : String} {a b : Level}, a.rank ≤ b.rank →
    enables target b → enables target a

/-- The spans are at the event's own target and at most as detailed as the event, so that a
threshold that shows the event shows them too. -/
def Event.FitsIn (event : Event) (spans : List Span) : Prop :=
  ∀ span ∈ spans, span.target = event.target ∧ span.level.rank ≤ event.level.rank

namespace Threshold

variable {t : Threshold}

/-- The threshold that lets nothing through. -/
def silent : Threshold where
  enables _ _ := false
  enables_of_rank_le _ enabled := enabled

/-- The spans that are let through. -/
def visible (t : Threshold) (spans : List Span) : List Span :=
  spans.filter fun span => t.enables span.target span.level

theorem visible_of_fitsIn {event : Event} {spans : List Span} (fits : event.FitsIn spans)
    (enabled : t.enables event.target event.level) : t.visible spans = spans := by
  rw [visible, List.filter_eq_self]
  intro span mem
  obtain ⟨target, le⟩ := fits span mem
  exact target ▸ t.enables_of_rank_le le enabled

end Threshold

/-! ### Lines with their origin -/

/-- A line of a program's output. -/
inductive Line where
  /-- Printed by the program itself. -/
  | own (text : String)
  /-- Logged for an event, with the spans that are shown, innermost first. -/
  | logged (event : Event) (spans : List Span)
deriving DecidableEq, Repr

namespace Line

def isOwn : Line → Bool
  | own _ => true
  | logged _ _ => false

/-- The line is the program's own or logged for an event that is enabled. -/
def stays (enabled : String → Level → Bool) : Line → Bool
  | own _ => true
  | logged event _ => enabled event.target event.level

end Line

namespace Journal

variable {t u : Threshold} {around : List Span} {journal : Journal}

/-- The lines under a threshold of a journal that starts inside some spans, innermost first. -/
def shown (t : Threshold) (around : List Span) : Journal → List Line
  | [] => []
  | .note text :: rest => .own text :: shown t around rest
  | .event event :: rest =>
    if t.enables event.target event.level then
      .logged event (t.visible around) :: shown t around rest
    else shown t around rest
  | entry :: rest => shown t (after around entry) rest

/-! ### Lines of the program itself -/

/-- Without its log lines a log is what the program prints, whatever is let through. -/
theorem filter_isOwn_shown (t : Threshold) (around : List Span) (journal : Journal) :
    (shown t around journal).filter Line.isOwn = journal.notes.map Line.own := by
  induction journal generalizing around with
  | nil => rfl
  | cons entry rest ih =>
    cases entry with
    | note text => exact congrArg (Line.own text :: ·) (ih around)
    | entered span => exact ih _
    | left span => exact ih _
    | event event =>
      rw [shown]
      split
      · exact ih around
      · exact ih around

theorem shown_silent (around : List Span) (journal : Journal) :
    shown .silent around journal = journal.notes.map Line.own := by
  induction journal generalizing around with
  | nil => rfl
  | cons entry rest ih =>
    cases entry with
    | note text => exact congrArg (Line.own text :: ·) (ih around)
    | entered span => exact ih _
    | left span => exact ih _
    | event event => exact ih around

/-! ### Thinning a log -/

/-- Each event fits in the spans around it. -/
def Uniform (around : List Span) (journal : Journal) : Prop :=
  ∀ place ∈ located around journal, place.1.FitsIn place.2

/-- Under a threshold that enables no more of its events, a journal loses the lines of those that
are not enabled, and keeps the others as they are. -/
theorem shown_eq_filter (uniform : Uniform around journal)
    (fewer : ∀ event ∈ events journal,
      t.enables event.target event.level → u.enables event.target event.level) :
    shown t around journal = (shown u around journal).filter (Line.stays t.enables) := by
  -- The bounds of spans leave no line, but the rest of the journal is located behind them.
  induction journal generalizing around with
  | nil => rfl
  | cons entry rest ih =>
    cases entry with
    | entered span => exact ih uniform fewer
    | left span => exact ih uniform fewer
    | note text =>
      have rest_eq : shown t around rest =
          (shown u around rest).filter (Line.stays t.enables) := ih uniform fewer
      simp only [shown, List.filter_cons, Line.stays, if_true, rest_eq]
    | event event =>
      obtain ⟨fits, uniform_rest⟩ := List.forall_mem_cons.mp uniform
      obtain ⟨here, fewer_rest⟩ := List.forall_mem_cons.mp fewer
      have rest_eq : shown t around rest =
          (shown u around rest).filter (Line.stays t.enables) := ih uniform_rest fewer_rest
      simp only [shown]
      by_cases enabled : t.enables event.target event.level
      · have enabled' := here enabled
        rw [if_pos enabled, if_pos enabled', List.filter_cons_of_pos (by exact enabled), rest_eq,
          Threshold.visible_of_fitsIn fits enabled, Threshold.visible_of_fitsIn fits enabled']
      · rw [if_neg enabled, rest_eq]
        split
        · rw [List.filter_cons_of_neg (by exact enabled)]
        · rfl

end Journal

end Switchboard
