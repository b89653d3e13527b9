import FencedCode.Script.Access
import FencedCode.Script.Numeral

/-!
# Conversions

How values of one type become values of another, when values are equal, and which comes first.
An object becomes primitive by its own methods, so that a conversion can run any code.
-/

namespace FencedCode.Script

open Text

namespace Value

/-- Whether a value counts as true. -/
def isTrue : Value → Bool
  | undefined | null => false
  | boolean value => value
  | number value => !(value == 0 || value.isNaN)
  | bigint value => value != 0
  | string text => !text.isEmpty
  | symbol _ | object _ => true

end Value

/-- Which primitive value is preferred of an object. -/
inductive Preference where
  | none
  | number
  | text

namespace Run

/-- Makes an object primitive by its methods, in the order of their preference. -/
def objectToPrimitive (ref : Ref) (preference : Preference) : Run Value := do
  let names : List PropertyKey := match preference with
    | .text => ["toString", "valueOf"]
    | _ => ["valueOf", "toString"]
  for name in names do
    let method ← getProperty ref name
    if ← isCallable method then
      match ← call method (.object ref) [] with
      | .object _ => pure ()
      | value => return value
  throwType "cannot convert object to primitive value"

/-- A primitive value for a value. -/
def toPrimitive (value : Value) (preference : Preference := .none) : Run Value := do
  match value with
  | .object ref =>
    match ← getMethod value Symbol.toPrimitive with
    | some method =>
      let hint : Value := match preference with
        | .none => "default"
        | .number => "number"
        | .text => "string"
      match ← call method value [hint] with
      | .object _ => throwType "Symbol.toPrimitive cannot return an object"
      | result => return result
    | none => objectToPrimitive ref preference
  | value => return value

/-- The number of a primitive value. -/
def primitiveToNumber : Value → Run Float
  | .undefined => return Numeral.notNumber
  | .null => return 0
  | .boolean value => return if value then 1 else 0
  | .number value => return value
  | .string text => return Numeral.numberOf text
  | .symbol _ => throwType "argument must not be a symbol"
  | .bigint _ => throwType "argument must not be a bigint"
  | .object _ => return Numeral.notNumber

/-- The number of a value. -/
def toNumber (value : Value) : Run Float := do primitiveToNumber (← toPrimitive value .number)

/-- The number of a value, or its big number. -/
def toNumeric (value : Value) : Run (Float ⊕ Int) := do
  match ← toPrimitive value .number with
  | .bigint value => return .inr value
  | value => return .inl (← primitiveToNumber value)

/-- The text of a primitive value. -/
def primitiveToText : Value → Run Units
  | .undefined => return "undefined"
  | .null => return "null"
  | .boolean value => return if value then "true" else "false"
  | .number value => return (Decimal.naturalText value : String)
  | .bigint value => return (toString value : String)
  | .string text => return text
  | .symbol _ => throwType "cannot convert Symbol to string"
  | .object _ => return .empty

/-- The text of a value. -/
def toText (value : Value) : Run Units := do primitiveToText (← toPrimitive value .text)

/-- The key that a value names. -/
def toKey (value : Value) : Run PropertyKey := do
  match ← toPrimitive value .text with
  | .symbol symbol => return .symbol symbol
  | .number number =>
    match Decimal.truncate? number with
    | some whole =>
      if 0 ≤ whole && whole < (UInt32.size - 1 : Nat) && Decimal.Dyadic.floatOfInt whole == number then
        return .index whole.toNat
      else return .ofText (Decimal.naturalText number : String)
    | none => return .ofText (Decimal.naturalText number : String)
  | value => return .ofText (← primitiveToText value)

/-- The object of a value. -/
def toObject (value : Value) : Run Ref := do
  match value with
  | .object ref => return ref
  | .undefined | .null => throwMissing
  | value => allocate { kind := .wrapper value, parent := prototypeOf? value }

/-- A number without its fraction, where what is no number counts as zero; infinities stay. -/
def toIntegerOrInfinity (value : Value) : Run Float := do
  let number ← toNumber value
  return if number.isNaN then 0
    else if number < 0 then number.ceil + 0 else number.floor

/-- A whole number between bounds, the nearest of them for one that lies outside. -/
def clampWhole (number : Float) (low high : Int) : Int :=
  if number.isNaN then max low (min high 0)
  else
    match Decimal.truncate? number with
    | some whole => max low (min high whole)
    | none => if number < 0 then low else high

/-- The whole number of a value, kept between bounds. -/
def toWhole (value : Value) (low high : Int) : Run Int := do
  return clampWhole (← toIntegerOrInfinity value) low high

/-- A distance that no list reaches. -/
def farthest : Int := Int64.maxValue.toInt

/-- The place that a value names in a list of a length, counted from the end if it is negative. -/
def toPlace (value : Value) (length : Nat) (default : Nat) : Run Nat := do
  match value with
  | .undefined => return default
  | value =>
    let whole ← toWhole value (-farthest) farthest
    return if whole < 0 then (length + whole).toNat else min whole.toNat length

/-- The low bits of a number, as a natural number below `2 ^ bits`. -/
def lowBits (bits : Nat) (number : Float) : Nat :=
  match Decimal.truncate? number with
  | some whole => (whole % (Nat.pow 2 bits : Int)).toNat
  | none => 0

/-- A natural number below `2 ^ bits` as one with a sign. -/
def asSigned (bits : Nat) (value : Nat) : Int :=
  if value < Nat.pow 2 (bits - 1) then value else (value : Int) - Nat.pow 2 bits

/-- The greatest length of a list. -/
def greatestLength : Nat := Nat.pow 2 53 - 1

/-- The length of an object. -/
def lengthOf (ref : Ref) : Run Nat := do
  match ← kindOf ref with
  | .array length _ => return length
  | _ => return (← toWhole (← getProperty ref "length") 0 greatestLength).toNat

/-- The big number of a value. -/
def toBigint (value : Value) : Run Int := do
  match ← toPrimitive value .number with
  | .bigint value => return value
  | .boolean value => return if value then 1 else 0
  | .string text =>
    match Numeral.bigintOf? text with
    | some value => return value
    | none =>
      throwNew .syntaxError ("cannot convert string '" ++ text.display ++ "' to bigint primitive")
  | _ => throwType "cannot convert value to bigint"

/-! ### Types and equality -/

/-- The name of the type of a value. -/
def typeName (value : Value) : Run String := do
  match value with
  | .undefined => return "undefined"
  | .null => return "object"
  | .boolean _ => return "boolean"
  | .number _ => return "number"
  | .bigint _ => return "bigint"
  | .string _ => return "string"
  | .symbol _ => return "symbol"
  | .object _ => return if ← isCallable value then "function" else "object"

/-- Whether a big number equals a number. -/
def bigintEquals (value : Int) (number : Float) : Bool :=
  match Decimal.Dyadic.ofFloat? number with
  | some exact =>
    let (numerator, denominator) := exact.quotient
    numerator % denominator == 0 && exact.truncate == value
  | none => false

/-- Whether primitive values are equal after conversion. -/
def primitivesEqual (left right : Value) : Bool :=
  match left, right with
  | .undefined, .null | .null, .undefined => true
  | .boolean value, .number number | .number number, .boolean value =>
    number == if value then 1 else 0
  | .boolean value, .string text | .string text, .boolean value =>
    Numeral.numberOf text == if value then 1 else 0
  | .number number, .string text | .string text, .number number => Numeral.numberOf text == number
  | .bigint value, .number number | .number number, .bigint value => bigintEquals value number
  | .bigint value, .string text | .string text, .bigint value =>
    Numeral.bigintOf? text == some value
  | .bigint value, .boolean flag | .boolean flag, .bigint value => value == if flag then 1 else 0
  | left, right => Value.strictlyEqual left right

/-- Whether values are equal after conversion. -/
def looselyEqual (left right : Value) : Run Bool := do
  match left, right with
  | .object left, .object right => return left == right
  | .object _, other => return !other.isMissing && primitivesEqual (← toPrimitive left) other
  | other, .object _ => return !other.isMissing && primitivesEqual other (← toPrimitive right)
  | left, right => return primitivesEqual left right

/-- Whether the first of two primitive values is less than the second; none if one of them is no
number. -/
def primitiveLess (left right : Value) : Run (Option Bool) := do
  match left, right with
  | .string left, .string right => return some (left.lt right)
  | .bigint left, .bigint right => return some (left < right)
  | .bigint left, .string right => return (Numeral.bigintOf? right).map (left < ·)
  | .string left, .bigint right => return (Numeral.bigintOf? left).map (· < right)
  | left, right =>
    let asNumber : Value → Run (Float ⊕ Int)
      | .bigint value => return .inr value
      | value => return .inl (← primitiveToNumber value)
    match ← asNumber left, ← asNumber right with
    | .inl left, .inl right => return if left.isNaN || right.isNaN then none else some (left < right)
    | .inl left, .inr right =>
      match Decimal.Dyadic.ofFloat? left with
      | some exact => return some (exact.truncate < right
          || (exact.truncate == right && exact.negative && !bigintEquals right left))
      | none => return if left.isNaN then none else some (left < 0)
    | .inr left, .inl right =>
      match Decimal.Dyadic.ofFloat? right with
      | some exact => return some (left < exact.truncate
          || (exact.truncate == left && !exact.negative && !bigintEquals left right))
      | none => return if right.isNaN then none else some (0 < right)
    | .inr left, .inr right => return some (left < right)

/-! ### Going through values -/

/-- Starts to go through the values of an object. -/
def openSource (value : Value) : Run Source := do
  let method ← match value with
    | .undefined | .null => pure none
    | value => getMethod value Symbol.iterator
  match method with
  | some method =>
    let iterator ← call method value []
    match iterator with
    | .object _ => return { iterator, next := ← getMember iterator "next" }
    | _ => throwType "returned iterator is not an object"
  | none => throwType ("value with type \x60" ++ (← typeName value) ++ "\x60 is not iterable")

/-- The next value, if there is one; else the result. -/
def advance (source : Source) (sent : List Value := []) : Run (Value ⊕ Value) := do
  let step ← call source.next source.iterator sent
  match step with
  | .object ref =>
    if (← getProperty ref "done").isTrue then return .inr (← getProperty ref "value")
    return .inl (← getProperty ref "value")
  | _ => throwType "next value should be an object"

/-- Tells an iterator that no more values are wanted. -/
def closeSource (source : Source) : Run Unit := do
  match ← getMethod source.iterator "return" with
  | some method =>
    let _ ← call method source.iterator []
  | none => return

/-- Tells an iterator so because a value was thrown, which is thrown again in any case. -/
def closeAfterThrow {α : Type} (source : Source) (thrown : Value) : Run α := do
  catchThrown (closeSource source) fun _ => return
  throwValue thrown

/-- Goes through the values of an object with a state, until the step says that it is done. -/
def foldValues {σ : Type} (iterable : Value) (start : σ) (step : σ → Value → Run (σ × Bool)) :
    Run σ := do
  let source ← openSource iterable
  loop start fun state => do
    match ← advance source with
    | .inr _ => return .inr state
    | .inl value =>
      let (next, isDone) ← catchThrown (step state value) (closeAfterThrow source)
      if isDone then
        closeSource source
        return .inr next
      return .inl next

/-- All values of an object. -/
def valuesOf (iterable : Value) : Run (List Value) := do
  let values ← foldValues iterable (#[] : Array Value) fun values value =>
    return (values.push value, false)
  return values.toList

/-- The elements of an object with a length. -/
def elementsOf (value : Value) : Run (List Value) := do
  match value with
  | .object ref =>
    let length ← lengthOf ref
    (List.range length).mapM fun place => getProperty ref (.ofNat place)
  | _ => throwType "not an object"

end Run

end FencedCode.Script
