import Switchboard.Dispatch.Fault
import Switchboard.Pattern.Fault
import Switchboard.Record.Fault

/-!
All faults of the library in one type. A fault has the message of the part that
it comes from.
-/

namespace Switchboard

/-- A fault with the part of the library that it comes from. -/
inductive Fault where
  | dispatch (fault : DispatchFault)
  | record (fault : RecordFault)
  | pattern (fault : PatternFault)
deriving DecidableEq, Repr

namespace Fault

def message : Fault → String
  | dispatch fault => fault.message
  | record fault => fault.message
  | pattern fault => fault.message

/-- The outline of the part's own fault. -/
def innerOutline : Fault → Outline
  | dispatch fault => fault.outline
  | record fault => fault.outline
  | pattern fault => fault.outline

/-- The part that the fault comes from, as it is shown. -/
def partName : Fault → String
  | dispatch _ => "Union"
  | record _ => "Record"
  | pattern _ => "Pattern"

def outline (fault : Fault) : Outline :=
  .tuple fault.partName [fault.innerOutline]

end Fault

end Switchboard
