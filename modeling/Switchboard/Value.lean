import Switchboard.Decimal.Written
import Switchboard.Outline

/-!
Field values: strings, 64-bit integers, floating-point numbers and booleans.

`Value.text` is the plain text of a value, `Value.outline` shows its type as
well. `==` asks for the same type and equal contents, where numbers with a
fraction compare as numbers; it fails to be reflexive exactly at NaN
(`Value.beq_self_iff`).
-/

namespace Switchboard

/-- A value of a field. -/
inductive Value where
  | str (text : String)
  | int (n : Int64)
  | float (x : Binary64)
  | bool (b : Bool)
deriving DecidableEq, Repr, Inhabited

namespace Value

/-! ### Parts -/

/-- The characters of a string value. -/
def str? : Value → Option String
  | str text => some text
  | _ => none

/-- The number of an integer value. -/
def int? : Value → Option Int64
  | int n => some n
  | _ => none

def typeName : Value → String
  | str _ => "str"
  | int _ => "int"
  | float _ => "float"
  | bool _ => "bool"

/-- The value is a floating-point number that is none. -/
def isNaN : Value → Bool
  | float x => x.isNaN
  | _ => false

/-! ### Texts -/

/-- The plain text: a string as it is, a number in its shortest form without exponent. -/
def text : Value → String
  | str s => s
  | int n => toString n.toInt
  | float x => x.write .plain
  | bool b => toString b

instance : ToString Value := ⟨text⟩

/-- The constructor and its contents; a number with a fraction keeps one place at least. -/
def outline : Value → Outline
  | str s => .tuple "Str" [.text s]
  | int n => .tuple "Int" [.leaf (toString n.toInt)]
  | float x => .tuple "Float" [.leaf (x.write .marked)]
  | bool b => .tuple "Bool" [.leaf (toString b)]

/-! ### Equality -/

/-- Same type and equal contents. -/
def equal : Value → Value → Bool
  | str a, str b => a = b
  | int a, int b => a = b
  | float a, float b => a == b
  | bool a, bool b => a = b
  | _, _ => false

instance : BEq Value := ⟨equal⟩

theorem beq_self_iff {v : Value} : v == v ↔ v.isNaN = false := by
  change v.equal v ↔ _
  cases v <;> simp [equal, isNaN, Binary64.beq_self_iff]

theorem beq_comm (a b : Value) : (a == b) = (b == a) := by
  change a.equal b = b.equal a
  cases a <;> cases b <;> simp [equal, Binary64.beq_comm, eq_comm]

theorem beq_trans {a b c : Value} (ab : a == b) (bc : b == c) : a == c := by
  change a.equal c
  change a.equal b at ab
  change b.equal c at bc
  cases a <;> cases b <;> cases c <;> simp_all [equal]
  exact Binary64.beq_trans ab bc

end Value

end Switchboard
