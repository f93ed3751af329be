import Switchboard.Dispatch.Route
import Switchboard.Fault

/-!
Handlers written as data.

A handling is an expression that gives a text for a record. It can dispatch the
same record again through handlers of its own, and it can panic. `Handling.eval`
is its meaning; the parts of a joined text are evaluated from left to right.
-/

namespace Switchboard

/-- An expression for the text that a handler gives for a record. -/
inductive Handling where
  /-- A fixed text. -/
  | const (text : String)
  /-- The string in a field, or the fallback where there is none. -/
  | getStr (field fallback : String)
  /-- The text of a field, empty where the field is absent. -/
  | textOf (field : String)
  /-- The integer in a field, or the fallback where there is none. -/
  | getInt (field fallback : String)
  /-- The record's tag. -/
  | tag
  /-- The number of fields. -/
  | count
  /-- The names of the fields, with commas between. -/
  | keys
  /-- The texts of the parts, with a separator between. -/
  | join (separator : String) (parts : List Handling)
  /-- What handlers of its own say to the record, or their fault after an exclamation mark. -/
  | reroute (cases : List (String × Handling))
  | panic (text : String)

namespace Handling

mutual

/-- The text for a record. -/
def eval : Handling → Record → Run String
  | .const text, _ => return text
  | .getStr field fallback, r => return (r.getStr? field).getD fallback
  | .textOf field, r => return ((r.get? field).map Value.text).getD ""
  | .getInt field fallback, r =>
    return ((r.getInt? field).map fun n => toString n.toInt).getD fallback
  | .tag, r => return r.tag
  | .count, r => return toString r.size
  | .keys, r => return ",".intercalate r.fields.names
  | .join separator parts, r => return separator.intercalate (← evalAll parts r)
  | .reroute cases, r => do
    match ← route (Handlers.ofHistory (handlersOf cases)) r with
    | .ok text => return text
    | .error fault => return "!" ++ fault.message
  | .panic text, _ => Run.panic text

/-- The texts of the parts, in order. -/
def evalAll : List Handling → Record → Run (List String)
  | [], _ => return []
  | part :: rest, r => return (← part.eval r) :: (← evalAll rest r)

/-- Each case as a handler for its tag. -/
def handlersOf : List (String × Handling) → List (String × Handler Record String)
  | [] => []
  | (variant, handling) :: rest => (variant, handling.eval) :: handlersOf rest

end

end Handling

end Switchboard
