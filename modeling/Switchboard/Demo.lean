import Switchboard.Dispatch.Route
import Switchboard.Fault
import Switchboard.Log.Line
import Switchboard.Pattern.Matcher
import Switchboard.Record.Shape

/-!
A demonstration of the library.

It dispatches values that may be absent and records of two shapes through sealed
tables, and then classifies a few integers by patterns. What it prints are the
notes in its journal; a filter adds log lines between them.
-/

namespace Switchboard.Demo

/-! ### The program -/

/-- A part of the program, which a fault ends. -/
abbrev Part := ExceptT Fault Run

def dispatching {A : Type} (run : Run (Except DispatchFault A)) : Part A :=
  ExceptT.mk ((·.mapError .dispatch) <$> run)

def building {A : Type} (run : Run (Except RecordFault A)) : Part A :=
  ExceptT.mk ((·.mapError .record) <$> run)

def combining {A : Type} (run : Run (Except PatternFault A)) : Part A :=
  ExceptT.mk ((·.mapError .pattern) <$> run)

def print (line : String) : Part Unit :=
  ExceptT.lift (Run.note line)

instance {A : Type} : Declaring (Option A) where
  tag
    | some _ => "Some"
    | none => "None"
  declared := ["Some", "None"]

/-- For each text that may be absent the text, or a word for its absence. -/
def optionHandlers : Handlers (Option String) String :=
  .ofHistory [("Some", fun text => return text.getD ""), ("None", fun _ => return "Empty")]

def fooShape : Shape where
  tag := "Foo"
  declarations := [
    ⟨"name", .required⟩, ⟨"colour", .defaulted (.str "Red")⟩, ⟨"size", .optional⟩]

def barShape : Shape where
  tag := "Bar"
  declarations := [⟨"label", .required⟩]

/-- The text of a field, empty where the field is absent. -/
def fieldText (r : Record) (name : String) : String :=
  ((r.get? name).map Value.text).getD ""

/-- For each record a label. -/
def labelHandlers : Handlers Record String :=
  .ofHistory [
    ("Foo", fun r => return fieldText r "colour" ++ " " ++ fieldText r "name"),
    ("Bar", fun r => return (r.getStr? "label").getD "")]

def integerPatterns : Patterns Int64 Int64 :=
  .ofHistory [
    ("isEven", .predicate id fun n => return n.toInt.tmod 2 = 0),
    ("isPositive", .predicate id fun n => return 0 < n.toInt)]

def integerResults : Results Int64 String :=
  .ofHistory [("isEven", fun _ => return "even"), ("isPositive", fun _ => return "positive")]

def showOptions : Part Unit := do
  let options ← dispatching optionHandlers.sealDeclared
  print (← dispatching (options.dispatch (some "text")))
  print (← dispatching (options.dispatch none))

def showLabels : Part Unit := do
  let foo ← building (fooShape.build [("name", .str "Foo")])
  let bar ← building (barShape.build [("label", .str "Bar")])
  let labels ← dispatching (labelHandlers.sealFor [fooShape.tag, barShape.tag])
  print (← dispatching (labels.dispatch foo))
  print (← dispatching (labels.dispatch bar))

/-- Print an integer with its class. -/
def classify (matcher : Matcher Int64 Int64 String) (n : Int64) : Part Unit := do
  let found ← ExceptT.lift (matcher.answer n)
  print (toString n.toInt ++ ": " ++ found.getD "no match")

def showClasses : Part Unit := do
  let pending : Pending Int64 Int64 := ⟨integerPatterns⟩
  let matcher ← combining (pending.withResults integerResults)
  classify matcher 4
  classify matcher 3
  classify matcher (-4)
  classify matcher (-3)

/-- The whole demonstration. -/
def program : Part Unit := do
  showOptions
  showLabels
  showClasses

/-! ### Its output -/

/-- What a process that runs the program leaves. -/
structure Output where
  exitCode : Nat
  lines : List String
deriving DecidableEq, Repr

/-- The output with log lines as the filter has them, or without any. -/
def outputUnder (filter : Option Filter) : Output where
  exitCode :=
    match program.run.outcome with
    | .returned (.ok _) => 0
    | .returned (.error _) => 1
    | .panicked _ => 101
  lines := program.run.journal.lines filter

/-- The output under a filter given as text; without one nothing is logged. A text that cannot be
cut into directives stops the program before its start. -/
def output : Option String → Output
  | none => outputUnder none
  | some text =>
    match Filter.parse text with
    | some filter => outputUnder (some filter)
    | none => ⟨101, []⟩

end Switchboard.Demo
