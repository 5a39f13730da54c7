/-!
# Binary floating-point numbers

A floating-point number of a binary interchange format is decoded from its bits: a finite one is `m · 2^q`, with a
sign.
-/

namespace TypedFormat.Decimal

/-- The widths of the fraction and of the exponent, in bits. The sign is the bit above them. -/
structure BinaryFormat where
  fractionBits : Nat
  exponentBits : Nat
  deriving DecidableEq, Repr

namespace BinaryFormat

/-- Numbers of 64 bits. -/
def double : BinaryFormat := ⟨52, 11⟩

/-- Numbers of 32 bits. -/
def single : BinaryFormat := ⟨23, 8⟩

end BinaryFormat

/-- The magnitude `m · 2^q` of a finite number. It is `narrow` when the next smaller number is only half as far away as
the next greater one. -/
structure Magnitude where
  m : Nat
  q : Int
  narrow : Bool
  deriving DecidableEq, Repr

/-- What the bits of a floating-point number say. -/
inductive Decoded where
  | nan
  | infinite (negative : Bool)
  | finite (negative : Bool) (magnitude : Magnitude)
  deriving DecidableEq, Repr

namespace BinaryFormat

/-- The exponent of the last place of the numbers with the least exponent. -/
def leastExponent (f : BinaryFormat) : Int := 2 - (Nat.pow 2 (f.exponentBits - 1) : Nat) - f.fractionBits

/-- The number that the bits stand for. With the greatest exponent it is an infinity or no number; with the least
exponent the leading bit is not implied. -/
def decode (f : BinaryFormat) (bits : Nat) : Decoded :=
  let implied := Nat.pow 2 f.fractionBits
  let exponents := Nat.pow 2 f.exponentBits
  let fraction := bits % implied
  let exponent := bits / implied % exponents
  let negative := bits / implied / exponents % 2 == 1
  if exponent + 1 = exponents then
    if fraction = 0 then .infinite negative else .nan
  else if exponent = 0 then .finite negative ⟨fraction, f.leastExponent, false⟩
  else .finite negative ⟨implied + fraction, f.leastExponent + (exponent - 1), fraction == 0 && 1 < exponent⟩

end BinaryFormat

end TypedFormat.Decimal
