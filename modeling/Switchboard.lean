import Switchboard.Text.Listed
import Switchboard.Text.Quoted
import Switchboard.Decimal.Written
import Switchboard.Value
import Switchboard.Roster
import Switchboard.Run
import Switchboard.Record.Shape
import Switchboard.Dispatch.Route
import Switchboard.Pattern.Matcher
import Switchboard.Fault
import Switchboard.Script.Extraction
import Switchboard.Script.Handling
import Switchboard.Script.Rendering
import Switchboard.Session.Patterns
import Switchboard.Session.Records
import Switchboard.Session.Tables
import Switchboard.Main
import Switchboard.Text.Alphanumeric
import Switchboard.Text.Expression
import Switchboard.Proofs.Pattern.Search
import Switchboard.Proofs.Pattern.ShortCircuit
import Switchboard.Proofs.Pattern.Combination
import Switchboard.Proofs.Pattern.FirstMatch
import Switchboard.Proofs.Pattern.Winner
import Switchboard.Proofs.Dispatch.Channels
import Switchboard.Proofs.Record.Assembly
import Switchboard.Proofs.Record.OrderedMap
import Switchboard.Proofs.Dispatch.Coverage
import Switchboard.Proofs.Pattern.Redeclaration
import Switchboard.Proofs.Pattern.Fallback
import Switchboard.Proofs.Pattern.Precedence
import Switchboard.Proofs.Pattern.Registration
import Switchboard.Proofs.Dispatch.Nesting
import Switchboard.Proofs.Directory
import Switchboard.Proofs.Message
import Switchboard.Proofs.Dispatch.Layers
import Switchboard.Proofs.Log.Plain
import Switchboard.Proofs.Log.Thinning
import Switchboard.Proofs.Log.Targets
import Switchboard.Proofs.Log.Steady
import Switchboard.Proofs.Log.Demonstration
import Switchboard.Proofs.Record.Verdict
import Switchboard.Proofs.Pattern.Mismatch
import Switchboard.Proofs.Dispatch.Sealing
import Switchboard.Proofs.Record.Rebuilding
import Switchboard.Proofs.Record.Arguments
import Switchboard.Proofs.Dispatch.Repair
import Switchboard.Proofs.Pattern.Repair
import Switchboard.Proofs.Record.Completion
import Switchboard.Proofs.Record.Equality
import Switchboard.Proofs.Text.Delimited
import Switchboard.Proofs.Outline.Legible
import Switchboard.Proofs.Outline.Tables
