/-!
The journal of a run: what it leaves behind besides its result, in order.

A journal holds events, the bounds of spans and notes. Events and spans are what
the library reports about its own steps; a note is whatever a caller's function
leaves, such as its own name or a line that it prints. Which spans are open at an
event is not written at the event but read off the bounds before it (`openSpans`,
`located`). A journal is `Balanced` when it closes the spans that it opens.
-/

namespace Switchboard

/-! ### Events -/

/-- Levels of detail, the most urgent first. -/
inductive Level where
  | error
  | warn
  | info
  | debug
  | trace
deriving DecidableEq, Repr

namespace Level

/-- Number of levels up to this one; a larger rank means more detail. -/
def rank : Level → Nat
  | error => 1
  | warn => 2
  | info => 3
  | debug => 4
  | trace => 5

def name : Level → String
  | error => "ERROR"
  | warn => "WARN"
  | info => "INFO"
  | debug => "DEBUG"
  | trace => "TRACE"

end Level

/-- The datum of an event's field. -/
inductive Datum where
  /-- A name to be written as it is. -/
  | name (text : String)
  /-- A text to be written in quotes where a line is logged. -/
  | quotable (text : String)
  | count (n : Nat)
deriving DecidableEq, Repr

/-- The datum as bare text. -/
def Datum.text : Datum → String
  | name text => text
  | quotable text => text
  | count n => toString n

/-- A report with a level, the part that makes it, a message and fields. -/
structure Event where
  level : Level
  target : String
  message : String
  fields : List (String × Datum)
deriving DecidableEq, Repr

/-- The event has a field of this name; the message counts as one. -/
def Event.carries (event : Event) (name : String) : Bool :=
  name == "message" || event.fields.any (·.1 == name)

/-- A stretch of a run with a name. -/
structure Span where
  name : String
  level : Level
  target : String
deriving DecidableEq, Repr

/-! ### Journals -/

/-- An entry of a journal. -/
inductive Entry where
  | entered (span : Span)
  | left (span : Span)
  | event (event : Event)
  | note (text : String)
deriving DecidableEq, Repr

abbrev Journal := List Entry

namespace Journal

/-- The spans open after an entry, innermost first. -/
def after (around : List Span) : Entry → List Span
  | .entered span => span :: around
  | .left _ => around.tail
  | .event _ | .note _ => around

/-- The spans open after a journal, innermost first, starting from those given. -/
def openSpans (around : List Span) (journal : Journal) : List Span :=
  journal.foldl after around

/-- Each event with the spans open around it, innermost first. -/
def located (around : List Span) : Journal → List (Event × List Span)
  | [] => []
  | .event event :: rest => (event, around) :: located around rest
  | entry :: rest => located (after around entry) rest

/-- The notes in order. -/
def notes (journal : Journal) : List String :=
  journal.filterMap fun
    | .note text => some text
    | _ => none

/-- The events in order. -/
def events (journal : Journal) : List Event :=
  journal.filterMap fun
    | .event event => some event
    | _ => none

/-! ### Journals one after the other -/

@[simp] theorem openSpans_nil (around : List Span) : openSpans around [] = around := rfl

theorem openSpans_append (around : List Span) (j k : Journal) :
    openSpans around (j ++ k) = openSpans (openSpans around j) k := by
  simp [openSpans, List.foldl_append]

@[simp] theorem notes_append (j k : Journal) : notes (j ++ k) = notes j ++ notes k := by
  simp [notes]

@[simp] theorem events_append (j k : Journal) : events (j ++ k) = events j ++ events k := by
  simp [events]

theorem located_append (around : List Span) (j k : Journal) :
    located around (j ++ k) = located around j ++ located (openSpans around j) k := by
  induction j generalizing around with
  | nil => rfl
  | cons entry rest ih =>
    cases entry <;> simp [located, ih, openSpans, after]

/-! ### Balanced journals -/

/-- The spans open afterwards are those open before. -/
def Balanced (journal : Journal) : Prop :=
  ∀ around, openSpans around journal = around

theorem balanced_nil : Balanced [] := fun _ => rfl

theorem balanced_event (event : Event) : Balanced [.event event] := fun _ => rfl

theorem balanced_note (text : String) : Balanced [.note text] := fun _ => rfl

theorem Balanced.append {j k : Journal} (hj : Balanced j) (hk : Balanced k) :
    Balanced (j ++ k) := by
  intro around
  rw [openSpans_append, hj, hk]

/-- A balanced journal between the bounds of a span is balanced. -/
theorem Balanced.wrap {journal : Journal} (balanced : Balanced journal) (span : Span) :
    Balanced (.entered span :: journal ++ [.left span]) := by
  intro around
  change openSpans (span :: around) (journal ++ [.left span]) = around
  rw [openSpans_append, balanced]
  rfl

end Journal

end Switchboard
