import FencedCode.Decimal.Dyadic

/-!
# The fewest digits that read back

Among the decimals that round to a given double, those with the fewest digits are taken, and of
these the one nearest to the double.  The decimals with a given number of digits form a grid; if any
of its points rounds to the double, one of the two neighbours of the double on the grid does.
-/

namespace FencedCode.Decimal

/-- The decimal `0.d₁d₂…dₙ · 10 ^ point`, where the digits of `digits` are d₁, …, dₙ. -/
structure Digits where
  /-- The digits as a number. -/
  digits : Nat
  /-- How many digits there are. -/
  count : Nat
  /-- How many of them stand before the point. -/
  point : Int
deriving DecidableEq, Repr

namespace Digits

/-- The digits as characters, from the left. -/
def chars (decimal : Digits) : List Char :=
  let written := (toString decimal.digits).toList
  List.replicate (decimal.count - written.length) '0' ++ written

end Digits

/-- The numbers that round to a double: the double itself and the ends, all over one denominator. -/
structure Interval where
  low : Nat
  value : Nat
  high : Nat
  denominator : Nat
  /-- Whether the ends round to the double too. -/
  closed : Bool
deriving Repr

namespace Interval

/-- The numbers that round to a positive double.  Just above a power of two the gap to the next
smaller double is half as wide. -/
def ofDyadic (value : Dyadic) : Interval :=
  let half := if value.significand = Nat.pow 2 52 ∧ value.exponent > -1074 then 1 else 2
  let scale := Nat.pow 2 value.exponent.toNat
  { low := (4 * value.significand - half) * scale
    value := 4 * value.significand * scale
    high := (4 * value.significand + 2) * scale
    denominator := 4 * Nat.pow 2 (-value.exponent).toNat
    closed := value.significand % 2 == 0 }

/-- The interval multiplied by a power of ten. -/
def scale (interval : Interval) (power : Int) : Interval :=
  let up := Nat.pow 10 power.toNat
  { interval with
    low := interval.low * up, value := interval.value * up, high := interval.high * up
    denominator := interval.denominator * Nat.pow 10 (-power).toNat }

/-- Whether a whole number rounds to the double. -/
def contains (interval : Interval) (point : Nat) : Bool :=
  let scaled := point * interval.denominator
  if interval.closed then interval.low ≤ scaled && scaled ≤ interval.high
  else interval.low < scaled && scaled < interval.high

/-- The point of the grid of whole numbers that stands for the double, if one does. -/
def nearest? (interval : Interval) : Option Nat :=
  let below := interval.value / interval.denominator
  let above := below + 1
  match interval.contains below, interval.contains above with
  | true, false => some below
  | false, true => some above
  | false, false => none
  | true, true =>
    let under := interval.value - below * interval.denominator
    let excess := above * interval.denominator - interval.value
    some (if under < excess || (under == excess && below % 2 == 0) then below else above)

end Interval

/-- How many digits a number has before its point; for one below 1, minus the number of zeros right
behind the point. -/
def pointOf (numerator denominator : Nat) : Int :=
  let whole := numerator / denominator
  let inverse := denominator / numerator
  let places : Int := (toString inverse).length
  if whole ≠ 0 then (toString whole).length
  else if inverse * numerator = denominator ∧ inverse = Nat.pow 10 (places - 1).toNat then 2 - places
  else 1 - places

/-- The shortest decimal of at least `count` digits, tried up to `count + limit`. -/
def shortestFrom (interval : Interval) (point : Int) (count : Nat) : (limit : Nat) → Digits
  | 0 => { digits := interval.value / interval.denominator, count, point }
  | limit + 1 =>
    match (interval.scale (count - point)).nearest? with
    | some digits =>
      if digits = Nat.pow 10 count then { digits := 1, count := 1, point := point + 1 }
      else { digits, count, point }
    | none => shortestFrom interval point (count + 1) limit

/-- The shortest decimal of a double other than zero. -/
def shortest (value : Dyadic) : Digits :=
  let interval := Interval.ofDyadic value
  shortestFrom interval (pointOf interval.value interval.denominator) 1 17

end FencedCode.Decimal
