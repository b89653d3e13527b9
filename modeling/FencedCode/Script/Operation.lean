import FencedCode.Script.Convert

/-!
# Operators

What the operators between values compute.  Numbers are doubles; the operators on bits take the low
32 bits of a number.  Big numbers are whole numbers without a bound, and are never mixed with others.
-/

namespace FencedCode.Script

open Text

/-! ### Doubles -/

namespace Arithmetic

/-- The remainder of a division that is rounded toward zero. -/
def remainder (left right : Float) : Float :=
  match Decimal.Dyadic.ofFloat? left, Decimal.Dyadic.ofFloat? right with
  | some dividend, some divisor =>
    if divisor.significand = 0 then Numeral.notNumber
    else if dividend.significand = 0 then left
    else dividend.remainder divisor
  | some _, none => if right.isNaN then right else left
  | none, _ => Numeral.notNumber

/-- A power by repeated squaring. -/
def powerBySquaring : (limit : Nat) → (base : Float) → (exponent : Nat) → (result : Float) → Float
  | 0, _, _, result => result
  | limit + 1, base, exponent, result =>
    let result := if exponent % 2 = 1 then result * base else result
    if exponent < 2 then result else powerBySquaring limit (base * base) (exponent / 2) result

/-- Whether a number is whole and fits into 32 bits with a sign. -/
def isSmallWhole (number : Float) : Bool :=
  number.abs ≤ 2147483647 && number.floor == number

/-- A power.  One to the power of infinity is no number. -/
def power (base exponent : Float) : Float :=
  if exponent.isNaN || (base.abs == 1 && exponent.abs == 1.0 / 0.0) then Numeral.notNumber
  else if isSmallWhole base && isSmallWhole exponent then
    let size := exponent.abs.toUInt64.toNat
    let result := powerBySquaring 64 base size 1
    if exponent < 0 then 1 / result else result
  else base.pow exponent

/-- A shift of 32 bits to the left. -/
def shiftLeft (left right : Float) : Value :=
  .ofInt (Run.asSigned 32
    ((Run.lowBits 32 left * Nat.pow 2 (Run.lowBits 32 right % 32)) % UInt32.size))

/-- A shift of 32 bits to the right that keeps the sign. -/
def shiftRight (left right : Float) : Value :=
  .ofInt (Run.asSigned 32 (Run.lowBits 32 left) >>> (Run.lowBits 32 right % 32))

/-- A shift of 32 bits to the right that fills up with zeros. -/
def shiftRightZero (left right : Float) : Value :=
  .ofNat (Run.lowBits 32 left >>> (Run.lowBits 32 right % 32))

/-- An operation on 32 bits. -/
def bitwise (op : Nat → Nat → Nat) (left right : Float) : Value :=
  .ofInt (Run.asSigned 32 (op (Run.lowBits 32 left) (Run.lowBits 32 right)))

/-- An operation on whole numbers without a bound, bit by bit. -/
def bitwiseWhole (op : Nat → Nat → Nat) (left right : Int) : Int :=
  let bits := max left.natAbs.log2 right.natAbs.log2 + 2
  let low (value : Int) : Nat := (value % Nat.pow 2 bits).toNat
  Run.asSigned bits (op (low left) (low right))

end Arithmetic

namespace Run

open Arithmetic

def numberOperation (op : BinaryOp) (left right : Float) : Value :=
  match op with
  | .subtract => .number (left - right)
  | .multiply => .number (left * right)
  | .divide => .number (left / right)
  | .remainder => .number (remainder left right)
  | .power => .number (power left right)
  | .shiftLeft => shiftLeft left right
  | .shiftRight => shiftRight left right
  | .shiftRightZero => shiftRightZero left right
  | .bitAnd => bitwise (· &&& ·) left right
  | .bitOr => bitwise (· ||| ·) left right
  | .bitXor => bitwise (· ^^^ ·) left right
  | _ => .number (left + right)

/-- An operator on big numbers. -/
def bigintOperation (op : BinaryOp) (left right : Int) : Run Value := do
  match op with
  | .subtract => return .bigint (left - right)
  | .multiply => return .bigint (left * right)
  | .divide =>
    if right == 0 then throwRange "BigInt division by zero"
    return .bigint (left.tdiv right)
  | .remainder =>
    if right == 0 then throwRange "BigInt division by zero"
    return .bigint (left.tmod right)
  | .power =>
    if right < 0 then throwRange "BigInt negative exponent"
    return .bigint (left.pow right.toNat)
  | .shiftLeft =>
    return .bigint (if right < 0 then left >>> (-right).toNat else left <<< right.toNat)
  | .shiftRight =>
    return .bigint (if right < 0 then left <<< (-right).toNat else left >>> right.toNat)
  | .shiftRightZero => throwType "BigInts have no unsigned right shift, use >> instead"
  | .bitAnd => return .bigint (bitwiseWhole (· &&& ·) left right)
  | .bitOr => return .bigint (bitwiseWhole (· ||| ·) left right)
  | .bitXor => return .bigint (bitwiseWhole (· ^^^ ·) left right)
  | _ => return .bigint (left + right)

/-- An operator on numbers of either sort. -/
def arithmetic (op : BinaryOp) (left right : Value) : Run Value := do
  let left ← toNumeric left
  let right ← toNumeric right
  match left, right with
  | .inl left, .inl right => return numberOperation op left right
  | .inr left, .inr right => bigintOperation op left right
  | _, _ => throwType "cannot mix BigInt and other types, use explicit conversions"

/-- The sum of numbers, or one text after the other. -/
def add (left right : Value) : Run Value := do
  let left ← toPrimitive left
  let right ← toPrimitive right
  match left, right with
  | .string left, right => return .string (left ++ (← primitiveToText right))
  | left, .string right => return .string ((← primitiveToText left) ++ right)
  | left, right => arithmetic .add left right

/-- Whether the first value is less than the second, which is converted after it. -/
def lessThan (left right : Value) : Run (Option Bool) := do
  let left ← toPrimitive left .number
  let right ← toPrimitive right .number
  primitiveLess left right

/-- Whether the second value is less than the first, which is converted before it. -/
def greaterThan (left right : Value) : Run (Option Bool) := do
  let left ← toPrimitive left .number
  let right ← toPrimitive right .number
  primitiveLess right left

/-- Whether an object is among the parents of another. -/
def isAbove (prototype : Ref) : (limit : Nat) → Ref → Run Bool
  | 0, _ => return false
  | limit + 1, ref => do
    match ← parentOf ref with
    | some parent => if parent == prototype then return true else isAbove prototype limit parent
    | none => return false

/-- The function behind those that only bind arguments to it. -/
def behindBound : (limit : Nat) → Ref → Run Ref
  | 0, ref => return ref
  | limit + 1, ref => do
    match ← kindOf ref with
    | .bound target .. => behindBound limit target
    | _ => return ref

/-- Whether a value was made by a function. -/
def isInstance (value : Value) (constructor : Ref) : Run Bool := do
  let constructor ← behindBound proxyLimit constructor
  match value with
  | .object ref =>
    match ← getProperty constructor "prototype" with
    | .object prototype => isAbove prototype (← chainLimit) ref
    | _ => throwType "function has non-object prototype in instanceof check"
  | _ => return false

/-- Whether a value is an instance in the sense of another. -/
def instanceOf (value target : Value) : Run Bool := do
  match target with
  | .object ref =>
    match ← getMethod target Symbol.hasInstance with
    | some method => return (← call method target [value]).isTrue
    | none =>
      if !(← isCallable target) then
        throwType "right-hand side of 'instanceof' is not callable"
      isInstance value ref
  | _ =>
    throwType ("right-hand side of 'instanceof' should be an object, got \x60" ++ (← typeName target)
      ++ "\x60")

/-- An operator between two values. -/
def binary (op : BinaryOp) (left right : Value) : Run Value := do
  match op with
  | .add => add left right
  | .less => return .boolean ((← lessThan left right) == some true)
  | .greater => return .boolean ((← greaterThan left right) == some true)
  | .lessEqual => return .boolean ((← greaterThan left right) == some false)
  | .greaterEqual => return .boolean ((← lessThan left right) == some false)
  | .looselyEqual => return .boolean (← looselyEqual left right)
  | .looselyUnequal => return .boolean !(← looselyEqual left right)
  | .strictlyEqual => return .boolean (left.strictlyEqual right)
  | .strictlyUnequal => return .boolean !(left.strictlyEqual right)
  | .isIn =>
    match right with
    | .object ref => return .boolean (← hasProperty ref (← toKey left))
    | _ =>
      throwType ("right-hand side of 'in' should be an object, got \x60" ++ (← typeName right)
        ++ "\x60")
  | .isInstance => return .boolean (← instanceOf left right)
  | op => arithmetic op left right

/-- An operator in front of a value. -/
def unary (op : UnaryOp) (value : Value) : Run Value := do
  match op with
  | .negate =>
    match ← toNumeric value with
    | .inl value => return .number (-value)
    | .inr value => return .bigint (-value)
  | .toNumber => return .number (← toNumber value)
  | .not => return .boolean !value.isTrue
  | .complement =>
    match ← toNumeric value with
    | .inl value => return .ofInt (-(asSigned 32 (lowBits 32 value)) - 1)
    | .inr value => return .bigint (-value - 1)
  | .typeOf => return .string (← typeName value)
  | .discard => return .undefined

/-- A value one greater or one less. -/
def step (increment : Bool) (value : Float ⊕ Int) : Value :=
  match value with
  | .inl value => .number (if increment then value + 1 else value - 1)
  | .inr value => .bigint (if increment then value + 1 else value - 1)

end Run

end FencedCode.Script
