/-!
# Doubles as exact numbers

A finite double is a natural number times a power of two, with a sign.  All questions about its
decimal text are questions about that number, and are answered in whole numbers.
-/

namespace FencedCode.Decimal

/-- The number `significand · 2 ^ exponent`, with a sign. -/
structure Dyadic where
  /-- Whether the sign is a minus. -/
  negative : Bool
  significand : Nat
  exponent : Int
deriving DecidableEq, Repr

namespace Dyadic

/-- The number that a double stands for, if it is finite. -/
def ofFloat? (value : Float) : Option Dyadic :=
  let bits := value.toBits.toNat
  let fraction : Nat := bits % Nat.pow 2 52
  let scale : Nat := bits / Nat.pow 2 52 % Nat.pow 2 11
  let negative := bits / Nat.pow 2 63 == 1
  if scale = 2047 then none
  else if scale = 0 then some { negative, significand := fraction, exponent := -1074 }
  else some { negative, significand := Nat.pow 2 52 + fraction, exponent := (scale : Int) - 1075 }

/-- The number as a quotient, without its sign. -/
def quotient (value : Dyadic) : Nat × Nat :=
  (value.significand * Nat.pow 2 value.exponent.toNat, Nat.pow 2 (-value.exponent).toNat)

/-- The number without its fraction. -/
def truncate (value : Dyadic) : Int :=
  let (numerator, denominator) := value.quotient
  let whole : Int := (numerator / denominator : Nat)
  if value.negative then -whole else whole

/-- The double nearest to a whole number. -/
def floatOfInt (value : Int) : Float :=
  let size := Float.ofScientific value.natAbs false 0
  if value < 0 then -size else size

/-- The double of a number that is one. -/
def toFloat (value : Dyadic) : Float :=
  let excess := value.significand.log2 - 52
  let size :=
    (value.significand >>> excess).toUInt64.toFloat.scaleB (value.exponent + excess)
  if value.negative then -size else size

/-- The remainder of a division that is rounded toward zero, with the sign of the dividend. -/
def remainder (dividend divisor : Dyadic) : Float :=
  let exponent := min dividend.exponent divisor.exponent
  let scaled (value : Dyadic) : Nat := value.significand * Nat.pow 2 (value.exponent - exponent).toNat
  toFloat { dividend with significand := scaled dividend % scaled divisor, exponent }

end Dyadic

/-- The whole number that a finite double has before its point. -/
def truncate? (value : Float) : Option Int := (Dyadic.ofFloat? value).map Dyadic.truncate

/-- The double of a run of decimal digits and a power of ten. -/
def floatOfDigits (digits : List Char) (exponent : Int) : Float :=
  let significant := digits.dropWhile (· == '0')
  let value := significant.foldl (fun value digit => value * 10 + (digit.toNat - 48)) 0
  let magnitude : Int := significant.length + exponent
  if significant.isEmpty || magnitude < -400 then 0
  else if magnitude > 400 then 1.0 / 0.0
  else .ofScientific value (exponent < 0) exponent.natAbs

end FencedCode.Decimal
