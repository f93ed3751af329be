import Switchboard.Log.Filter
import Switchboard.Text.Quoted

/-!
Log lines: a journal as the lines that a program prints.

A note is a line of its own. An event is a line if the filter shows it: its level,
the spans open around it that the filter shows, its target, its message and its
fields. `lines_none` says that without a filter only the notes are left.
-/

namespace Switchboard

/-- The datum as it is logged. -/
def Datum.logged : Datum → String
  | .name text => text
  | .quotable text => Text.quoted text
  | .count n => toString n

/-- The names of spans, outermost first, each with a colon, and a blank after all. -/
def Span.heading : List Span → String
  | [] => ""
  | spans => String.join (spans.map fun span => span.name ++ ":") ++ " "

/-- An event as a line; spans are given innermost first. -/
def Event.line (event : Event) (spans : List Span) : String :=
  event.level.name ++ " " ++ Span.heading spans.reverse ++ event.target ++ ": " ++ event.message
    ++ String.join (event.fields.map fun field => " " ++ field.1 ++ "=" ++ field.2.logged)

namespace Journal

/-- The lines of a journal that starts inside some spans, innermost first. -/
def linesFrom (filter : Option Filter) (around : List Span) : Journal → List String
  | [] => []
  | .note text :: rest => text :: linesFrom filter around rest
  | .event event :: rest =>
    match filter with
    | some f =>
      if f.showsEvent around event then
        event.line (f.visible around) :: linesFrom filter around rest
      else linesFrom filter around rest
    | none => linesFrom filter around rest
  | entry :: rest => linesFrom filter (after around entry) rest

/-- The lines of a whole journal. -/
def lines (filter : Option Filter) (journal : Journal) : List String :=
  linesFrom filter [] journal

theorem linesFrom_none (around : List Span) (journal : Journal) :
    linesFrom none around journal = journal.notes := by
  induction journal generalizing around with
  | nil => rfl
  | cons entry rest ih => cases entry <;> simp_all [linesFrom, notes]

theorem lines_none (journal : Journal) : lines none journal = journal.notes :=
  linesFrom_none [] journal

end Journal

end Switchboard
