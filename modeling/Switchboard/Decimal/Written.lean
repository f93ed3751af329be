import Switchboard.Decimal.Shortest

/-!
Written forms of binary numbers.

A `NumberStyle` fixes what the digits leave open: what follows a whole number
and which positions of the point are written without an exponent. Two styles
are in use. `NumberStyle.plain` never has an exponent and writes a whole number
without a point; `NumberStyle.marked` keeps one place after the point, so that no
number looks like an integer, and turns to an exponent below `10^-4` and from
`10^16` on.
-/

namespace Switchboard

/-- The choices in writing a number. -/
structure NumberStyle where
  /-- What follows the digits of a whole number. -/
  wholeMark : String
  /-- The positions of the point that need no exponent. -/
  positional : Int → Bool

namespace NumberStyle

/-- Digits only, however many zeros that takes. -/
def plain : NumberStyle := ⟨"", fun _ => true⟩

/-- A whole number keeps one place, and numbers far from one have an exponent. -/
def marked : NumberStyle := ⟨".0", fun point => -4 < point && point ≤ 16⟩

end NumberStyle

/-! ### Decimals -/

/-- Without an exponent, filled up with zeros next to the point. -/
def Decimal.positional (d : Decimal) (wholeMark : String) : String :=
  let zeros := fun count : Int => String.ofList (List.replicate count.toNat '0')
  if d.point ≤ 0 then
    "0." ++ zeros (-d.point) ++ String.ofList d.digits
  else if d.digits.length ≤ d.point then
    String.ofList d.digits ++ zeros (d.point - d.digits.length) ++ wholeMark
  else
    String.ofList (d.digits.take d.point.toNat) ++ "."
      ++ String.ofList (d.digits.drop d.point.toNat)

/-- One digit before the point, then the exponent of ten. -/
def Decimal.scientific (d : Decimal) : String :=
  let rest := d.digits.drop 1
  String.ofList (d.digits.take 1) ++ (if rest.isEmpty then "" else "." ++ String.ofList rest)
    ++ "e" ++ toString (d.point - 1)

/-! ### Numbers -/

/-- The written form of a magnitude that is not NaN. -/
def Binary64.writeMagnitude (style : NumberStyle) (x : Binary64) : String :=
  if x.isInfinite then "inf"
  else if x.isZero then "0" ++ style.wholeMark
  else if style.positional x.shortest.point then x.shortest.positional style.wholeMark
  else x.shortest.scientific

/-- The written form: `NaN` has no sign, every other number keeps its own, zero included. -/
def Binary64.write (style : NumberStyle) (x : Binary64) : String :=
  if x.isNaN then "NaN"
  else (if x.isNegative then "-" else "") ++ x.writeMagnitude style

end Switchboard
