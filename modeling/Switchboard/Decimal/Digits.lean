/-!
Numbers spelled with decimal digits.

Only the ASCII digits count, there has to be one at least, and leading zeros
change nothing. A sign is read where the function says so. `isNumeral` holds of the
texts of all numbers, those with a point or an exponent and those that are no finite
number included.
-/

namespace Switchboard

/-- The number that decimal digits spell; there has to be one at least. -/
def natOfDigits? (digits : List Char) : Option Nat :=
  if digits ≠ [] ∧ digits.all Char.isDigit then
    some (digits.foldl (fun n c => 10 * n + (c.toNat - '0'.toNat)) 0)
  else none

/-- The number spelled by digits after at most one plus sign. -/
def natOfNumeral? : List Char → Option Nat
  | '+' :: digits => natOfDigits? digits
  | digits => natOfDigits? digits

/-- The integer spelled by digits after at most one sign. -/
def intOfNumeral? : List Char → Option Int
  | '-' :: digits => (natOfDigits? digits).map fun n => -Int.ofNat n
  | numeral => (natOfNumeral? numeral).map Int.ofNat

/-- The text is empty or a power of ten to multiply with. -/
def isExponent : List Char → Bool
  | [] => true
  | c :: rest => (c == 'e' || c == 'E') && (intOfNumeral? rest).isSome

/-- The text spells a number without a sign: digits with at most one point among them or next to
them, and maybe an exponent; or infinity, or no number at all. -/
def isUnsignedNumeral (cs : List Char) : Bool :=
  let whole := cs.takeWhile Char.isDigit
  let fraction :=
    match cs.dropWhile Char.isDigit with
    | '.' :: rest => rest
    | _ => []
  let ending :=
    match cs.dropWhile Char.isDigit with
    | '.' :: rest => rest.dropWhile Char.isDigit
    | rest => rest
  (!whole.isEmpty || !(fraction.takeWhile Char.isDigit).isEmpty) && isExponent ending
    || cs.map Char.toLower ∈ ["inf".toList, "infinity".toList, "nan".toList]

/-- The text spells a number, with at most one sign in front. -/
def isNumeral : List Char → Bool
  | '+' :: rest | '-' :: rest => isUnsignedNumeral rest
  | cs => isUnsignedNumeral cs

end Switchboard
