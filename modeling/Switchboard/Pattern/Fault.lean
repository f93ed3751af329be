import Switchboard.Outline
import Switchboard.Text.Listed

/-!
Why patterns and results could not be combined.
-/

namespace Switchboard

/-- Names on one side that the other side lacks. -/
inductive PatternFault where
  /-- Patterns without a result function. -/
  | unanswered (missing : List String)
  /-- Result functions without a pattern. -/
  | unmatched (unknown : List String)
deriving DecidableEq, Repr

namespace PatternFault

def message : PatternFault → String
  | unanswered missing => "incomplete result mapping: no result for " ++ Text.listed missing
  | unmatched unknown => "result mapping names unknown patterns: " ++ Text.listed unknown

def outline : PatternFault → Outline
  | unanswered missing => .struct "IncompleteResultMapping" [("missing", .names missing)]
  | unmatched unknown => .struct "UnknownResultNames" [("unknown", .names unknown)]

end PatternFault

end Switchboard
