import FencedCode.Script.Builtin.Object

/-!
# Functions of mathematics

All arguments are converted to numbers first, in order.  Whole numbers are rounded toward plus
infinity where two are equally near.
-/

namespace FencedCode.Script

open Text

/-! ### Functions on numbers -/

/-- A number without its fraction. -/
def truncated (value : Float) : Float := if value < 0 then value.ceil else value.floor

/-- The nearest whole number, and of two the greater one; zeros keep the sign of the number. -/
def rounded (value : Float) : Float :=
  if !value.isFinite || value.abs ≥ 4503599627370496 then value
  else if value < 0 && -0.5 ≤ value then -0.0
  else
    let below := value.floor
    if value - below ≥ 0.5 then below + 1 else below

/-- Whether a number is a zero with a minus. -/
def isMinusZero (value : Float) : Bool := value == 0 && value.toBits != 0

/-- The greater of two numbers; none if one of them is none. -/
def greater (left right : Float) : Float :=
  if left.isNaN || right.isNaN then Numeral.notNumber
  else if left < right || (left == right && isMinusZero left) then right
  else left

/-- The lesser of two numbers; none if one of them is none. -/
def lesser (left right : Float) : Float :=
  if left.isNaN || right.isNaN then Numeral.notNumber
  else if right < left || (left == right && isMinusZero right) then right
  else left

/-- The length of the diagonal over some sides. -/
def diagonal (sides : List Float) : Float :=
  if sides.any (·.isInf) then 1.0 / 0.0
  else if sides.any (·.isNaN) then Numeral.notNumber
  else
    let longest := sides.foldl (fun longest side => greater longest side.abs) 0
    if longest == 0 then 0
    else
      -- The sum keeps what each addition loses.
      let (sum, _) := sides.foldl
        (fun ((sum, lost) : Float × Float) side =>
          let scaled := side / longest
          let summand := scaled * scaled - lost
          let next := sum + summand
          (next, (next - sum) - summand))
        (0, 0)
      sum.sqrt * longest

/-- The sign of a number. -/
def signOf (value : Float) : Float := if value > 0 then 1 else if value < 0 then -1 else value

/-- The number of leading zeros of a word of 32 bits. -/
def leadingZeros (word : Nat) : Nat := if word = 0 then 32 else 31 - word.log2

/-- The exponential function less one, without loss near zero. -/
def expLessOne (value : Float) : Float :=
  if value.abs < 1e-5 then value + value * value / 2 + value * value * value / 6
  else value.exp - 1

/-- The logarithm of a number and one, without loss near zero. -/
def logOnePlus (value : Float) : Float :=
  if value.abs < 1e-5 then value - value * value / 2 + value * value * value / 3
  else (1 + value).log

/-- A function of one number. -/
def mathOfOne : MathFunction → Option (Float → Float)
  | .abs => some Float.abs
  | .acos => some Float.acos
  | .acosh => some Float.acosh
  | .asin => some Float.asin
  | .asinh => some Float.asinh
  | .atan => some Float.atan
  | .atanh => some Float.atanh
  | .cbrt => some Float.cbrt
  | .ceil => some Float.ceil
  | .cos => some Float.cos
  | .cosh => some Float.cosh
  | .exp => some Float.exp
  | .expm1 => some expLessOne
  | .floor => some Float.floor
  | .fround => some fun value => value.toFloat32.toFloat
  | .log => some Float.log
  | .log10 => some Float.log10
  | .log1p => some logOnePlus
  | .log2 => some Float.log2
  | .round => some rounded
  | .sign => some signOf
  | .sin => some Float.sin
  | .sinh => some Float.sinh
  | .sqrt => some Float.sqrt
  | .tan => some Float.tan
  | .tanh => some Float.tanh
  | .trunc => some truncated
  | _ => none

namespace Run

/-- Calls a function of `Math`. -/
def callMath (function : MathFunction) (arguments : List Value) : Run Value := do
  match mathOfOne function with
  | some function => return .number (function (← toNumber (argument arguments 0)))
  | none =>
  match function with
  | .max => return .number ((← arguments.mapM toNumber).foldl greater (-1.0 / 0.0))
  | .min => return .number ((← arguments.mapM toNumber).foldl lesser (1.0 / 0.0))
  | .hypot => return .number (diagonal (← arguments.mapM toNumber))
  -- A run depends on nothing but its source, so that this number is always the same.
  | .random => return .number 0.5
  | .clz32 => return .ofNat (leadingZeros (lowBits 32 (← toNumber (argument arguments 0))))
  | _ =>
    let left ← toNumber (argument arguments 0)
    let right ← toNumber (argument arguments 1)
    match function with
    | .atan2 => return .number (Float.atan2 left right)
    | .imul =>
      return .ofInt (asSigned 32 (lowBits 32 left * lowBits 32 right % UInt32.size))
    | .pow => return .number (Arithmetic.power left right)
    | _ => return .undefined

end Run

end FencedCode.Script
