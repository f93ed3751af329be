import Switchboard.Run
import Switchboard.Value

/-!
Tests on values written as data.

A condition holds or fails of a value, or panics. Conjunctions and disjunctions
are evaluated from left to right and no further than needed.
-/

namespace Switchboard

/-- An expression for a test. -/
inductive Condition where
  | always
  | never
  /-- An integer whose remainder, with the sign of the integer, is the given one. -/
  | remainder (modulus rest : Int)
  /-- A number greater than another of the same type. -/
  | greaterThan (bound : Value)
  /-- A number smaller than another of the same type. -/
  | lessThan (bound : Value)
  | equals (value : Value)
  /-- A string with the given beginning. -/
  | startsWith (beginning : String)
  | hasType (name : String)
  | not (condition : Condition)
  | all (conditions : List Condition)
  | any (conditions : List Condition)
  | panic (text : String)

/-- The first number is smaller. Values that are no numbers of one type are not in order. -/
def Value.lt : Value → Value → Bool
  | .int a, .int b => a.toInt < b.toInt
  | .float a, .float b => a.lt b
  | _, _ => false

/-- The division leaves the given remainder. Nothing can be divided by zero. -/
def leavesRemainder (n modulus rest : Int) : Bool :=
  modulus ≠ 0 && n.tmod modulus = rest

/-- What follows the beginning in a string that has it. -/
def stripBeginning (beginning text : String) : Option String :=
  (beginning.toList.isPrefixOf? text.toList).map String.ofList

namespace Condition

mutual

/-- Whether the condition holds of a value. -/
def eval : Condition → Value → Run Bool
  | .always, _ => return true
  | .never, _ => return false
  | .remainder modulus rest, v =>
    return (v.int?.map fun n => leavesRemainder n.toInt modulus rest).getD false
  | .greaterThan bound, v => return bound.lt v
  | .lessThan bound, v => return v.lt bound
  | .equals value, v => return v == value
  | .startsWith beginning, v =>
    return (v.str?.bind (stripBeginning beginning)).isSome
  | .hasType name, v => return v.typeName = name
  | .not condition, v => return !(← condition.eval v)
  | .all conditions, v => evalAll conditions v
  | .any conditions, v => evalAny conditions v
  | .panic text, _ => Run.panic text

/-- All conditions hold; the first that fails ends the evaluation. -/
def evalAll : List Condition → Value → Run Bool
  | [], _ => return true
  | condition :: rest, v => do
    if ← condition.eval v then evalAll rest v else return false

/-- Some condition holds; the first that does ends the evaluation. -/
def evalAny : List Condition → Value → Run Bool
  | [], _ => return false
  | condition :: rest, v => do
    if ← condition.eval v then return true else evalAny rest v

end

end Condition

end Switchboard
