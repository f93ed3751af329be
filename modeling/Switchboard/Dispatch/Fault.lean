import Switchboard.Outline
import Switchboard.Text.Listed

/-!
Why a value found no handler, or a table could not be sealed.
-/

namespace Switchboard

/-- A tag or several without a handler. -/
inductive DispatchFault where
  /-- No handler is registered for the tag. -/
  | unhandled (tag : String)
  /-- The tags without a handler, as often as they were asked for. -/
  | uncovered (missing : List String)
deriving DecidableEq, Repr

namespace DispatchFault

def message : DispatchFault → String
  | unhandled tag => "unhandled variant `" ++ tag ++ "`"
  | uncovered missing => "non-exhaustive handler table: missing " ++ Text.listed missing

def outline : DispatchFault → Outline
  | unhandled tag => .struct "UnhandledVariant" [("tag", .text tag)]
  | uncovered missing => .struct "NonExhaustive" [("missing", .names missing)]

end DispatchFault

end Switchboard
