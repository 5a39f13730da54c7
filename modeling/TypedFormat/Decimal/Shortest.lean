import TypedFormat.Decimal.Binary

/-!
# The shortest decimal that reads back

The reals that round to a floating-point number form an interval around it, whose ends belong to it exactly when the
number's last bit is zero. Among the decimals in the interval those with the fewest digits are candidates, and of them
the nearest is chosen; of two that are equally near the greater. All arithmetic is on integers: magnitudes are counted
in quarters of the last place, so the ends of the interval are integers.

A number is written with its shortest digits and without an exponent, however many zeros that takes; a whole number has
no point. The sign of zero is written, that of what is no number is not.
-/

namespace TypedFormat.Decimal

/-- The decimal `digits · 10^exponent`. -/
structure Digits where
  digits : Nat
  exponent : Int
  deriving DecidableEq, Repr

/-- The number of decimal digits of a number; zero has none. -/
def digitCount (n : Nat) : Nat := if n = 0 then 0 else (Nat.toDigits 10 n).length

namespace Magnitude

/-- The magnitude in quarters of its last place. -/
def quarters (x : Magnitude) : Nat := 4 * x.m

/-- The lower end of the interval in quarters: half way to the next smaller number. -/
def lowerQuarters (x : Magnitude) : Nat := x.quarters - if x.narrow then 1 else 2

/-- The upper end of the interval in quarters: half way to the next greater number. -/
def upperQuarters (x : Magnitude) : Nat := x.quarters + 2

/-- A quarter of the last place as a fraction. -/
def quarter (x : Magnitude) : Nat × Nat :=
  let e := x.q - 2
  if 0 ≤ e then (Nat.pow 2 e.toNat, 1) else (1, Nat.pow 2 (-e).toNat)

/-- The least `k` with the magnitude below `10^k`. -/
def scale (x : Magnitude) : Int :=
  let (num, den) := x.quarter
  let num := x.quarters * num
  if den ≤ num then digitCount (num / den) else 1 - (digitCount ((den - 1) / num) : Int)

/-- The points `d` and `d + 1` of the grid `10^exponent` on both sides of the magnitude, of which those in the interval
are kept and the nearest is taken. -/
def nearestOnGrid? (x : Magnitude) (exponent : Int) : Option Digits :=
  let (num, den) := x.quarter
  -- a quarter is `num / step` of a grid point
  let num := if exponent < 0 then num * Nat.pow 10 (-exponent).toNat else num
  let step := if 0 ≤ exponent then den * Nat.pow 10 exponent.toNat else den
  let value := x.quarters * num
  let below := value / step * step
  let above := below + step
  let inside (p : Nat) : Bool :=
    if x.m % 2 = 0 then x.lowerQuarters * num ≤ p && p ≤ x.upperQuarters * num
    else x.lowerQuarters * num < p && p < x.upperQuarters * num
  let low := inside below && 0 < below
  let high := inside above
  if high && (!low || above - value ≤ value - below) then some ⟨above / step, exponent⟩
  else if low then some ⟨below / step, exponent⟩
  else none

/-- The most digits that are tried. Seventeen are enough for 64 bits. -/
def mostDigits : Nat := 20

/-- The shortest decimal that rounds to the magnitude, the nearest one of that length. -/
def shortest (x : Magnitude) : Digits :=
  ((List.range (mostDigits + 1)).findSome? fun (n : Nat) => x.nearestOnGrid? (x.scale - n)).getD ⟨0, 0⟩

end Magnitude

/-! ## Positional notation -/

/-- The decimal in positional notation. -/
def Digits.text (d : Digits) : String :=
  let ds := Nat.toDigits 10 d.digits
  let places := (-d.exponent).toNat
  String.ofList <|
    if 0 ≤ d.exponent then ds ++ List.replicate d.exponent.toNat '0'
    else if places < ds.length then ds.take (ds.length - places) ++ '.' :: ds.drop (ds.length - places)
    else '0' :: '.' :: List.replicate (places - ds.length) '0' ++ ds

/-- The text of a decoded number. -/
def Decoded.text : Decoded → String
  | .nan => "NaN"
  | .infinite negative => if negative then "-inf" else "inf"
  | .finite negative x =>
    (if negative then "-" else "") ++ if x.m = 0 then "0" else x.shortest.text

/-- The text of a number of 64 bits. -/
def ofBits64 (bits : UInt64) : String := (BinaryFormat.double.decode bits.toNat).text

/-- The text of a number of 32 bits. -/
def ofBits32 (bits : UInt32) : String := (BinaryFormat.single.decode bits.toNat).text

end TypedFormat.Decimal
