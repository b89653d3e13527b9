import FencedCode.Script.Builtin.Object

/-!
# Functions on numbers and other primitive values

Numbers of both kinds, truth values and symbols.  Each has a constructor that converts a value, and
functions on the values, which work on the objects for them as well.
-/

namespace FencedCode.Script

open Text

namespace Run

/-! ### The values that objects stand for -/

/-- The primitive value of an object for one, or the value itself. -/
def unwrapped (this : Value) : Run Value := do
  match this with
  | .object ref =>
    match ← kindOf ref with
    | .wrapper value => return value
    | _ => return this
  | value => return value

/-- Makes an object for a primitive value. -/
def makeWrapper (value : Value) (newTarget : Ref) (default : Ref) : Run Value := do
  let parent ← prototypeFor newTarget default
  return .object (← allocate { kind := .wrapper value, parent := some parent })

/-- The number on which a function of all numbers works. -/
def thisNumber (this : Value) : Run Float := do
  match ← unwrapped this with
  | .number value => return value
  | _ => throwType "'this' is not a number"

/-- The big number on which a function of all big numbers works. -/
def thisBigint (this : Value) : Run Int := do
  match ← unwrapped this with
  | .bigint value => return value
  | _ => throwType "'this' is not a BigInt"

/-- The truth value on which a function of all truth values works. -/
def thisBoolean (this : Value) : Run Bool := do
  match ← unwrapped this with
  | .boolean value => return value
  | _ => throwType "'this' is not a boolean"

/-- The symbol on which a function of all symbols works. -/
def thisSymbol (this : Value) : Run Symbol := do
  match ← unwrapped this with
  | .symbol value => return value
  | _ => throwType "'this' is not a Symbol"

/-! ### Numbers -/

/-- A count of digits between bounds. -/
def digitCount (value : Value) (low : Nat) (message : String) : Run Nat := do
  let count ← toIntegerOrInfinity value
  match Decimal.truncate? count with
  | some count => if (low : Int) ≤ count && count ≤ 100 then return count.toNat else throwRange message
  | none => throwRange message

/-- The base in which a number is written. -/
def toBase (value : Value) : Run Nat := do
  if value.isUndefined then return 10
  let base ← toWhole value 0 100
  if base < 2 || 36 < base then
    throwRange "radix must be an integer at least 2 and no greater than 36"
  return base.toNat

/-- The number that a constructor makes of a value. -/
def constructedNumber (arguments : List Value) : Run Float := do
  match arguments with
  | [] => return 0
  | value :: _ =>
    match ← toNumeric value with
    | .inl value => return value
    | .inr value => return Decimal.Dyadic.floatOfInt value

/-- Makes a number, or an object for one. -/
def constructNumber (arguments : List Value) (newTarget : Option Ref) : Run Value := do
  let value := Value.number (← constructedNumber arguments)
  match newTarget with
  | some newTarget => makeWrapper value newTarget Intrinsic.numberPrototype
  | none => return value

/-- Whether a number is whole. -/
def isWhole (number : Float) : Bool := number.isFinite && number.floor == number

/-- The greatest whole number below which all are told apart. -/
def greatestSafe : Float := 9007199254740991

/-- Calls a function of `Number` or of all numbers. -/
def callNumber (function : NumberFunction) (this : Value) (arguments : List Value) : Run Value := do
  let first := argument arguments 0
  let test (holds : Float → Bool) : Value := match first with
    | .number value => .boolean (holds value)
    | _ => .boolean false
  match function with
  | .construct => constructNumber arguments none
  | .isFinite => return test (·.isFinite)
  | .isInteger => return test isWhole
  | .isNaN => return test (·.isNaN)
  | .isSafeInteger => return test fun value => isWhole value && value.abs ≤ greatestSafe
  | .globalIsFinite => return .boolean (← toNumber first).isFinite
  | .globalIsNaN => return .boolean (← toNumber first).isNaN
  | .parseFloat => return .number (Numeral.floatPrefix (← toText first))
  | .parseInt =>
    let text ← toText first
    let base := asSigned 32 (lowBits 32 (← toNumber (argument arguments 1)))
    return .number (Numeral.intPrefix text base)
  | .toExponential =>
    let value ← thisNumber this
    let count ← toIntegerOrInfinity first
    if !value.isFinite then return (Decimal.naturalText value : String)
    let places ← digitCount (.number count) 0 "toExponential() argument must be between 0 and 100"
    return (Decimal.exponentialText value (if first.isUndefined then none else some places) : String)
  | .toFixed =>
    let value ← thisNumber this
    let places ← digitCount first 0 "toFixed() digits argument must be between 0 and 100"
    return (Decimal.fixedText value places : String)
  | .toPrecision =>
    let value ← thisNumber this
    if first.isUndefined then return (Decimal.naturalText value : String)
    let count ← toIntegerOrInfinity first
    if !value.isFinite then return (Decimal.naturalText value : String)
    let count ← digitCount (.number count) 1
      "precision must be an integer at least 1 and no greater than 100"
    return (Decimal.precisionText value count : String)
  | .toLocaleString => return (Decimal.naturalText (← thisNumber this) : String)
  | .toString =>
    let value ← thisNumber this
    let base ← toBase first
    return if base = 10 then (Decimal.naturalText value : String)
      else (Decimal.radixText base value : String)
  | .valueOf => return .number (← thisNumber this)

/-! ### Truth values, symbols and big numbers -/

/-- Makes a truth value, or an object for one. -/
def constructBoolean (arguments : List Value) (newTarget : Option Ref) : Run Value := do
  let value := Value.boolean (argument arguments 0).isTrue
  match newTarget with
  | some newTarget => makeWrapper value newTarget Intrinsic.booleanPrototype
  | none => return value

/-- The symbol that is shared under a name. -/
def sharedSymbol (name : Units) : Run Symbol := do
  match (← get).sharedSymbols.lookup name with
  | some symbol => return symbol
  | none =>
    let symbol ← newSymbol (some name)
    modify fun machine => { machine with sharedSymbols := (name, symbol) :: machine.sharedSymbols }
    return symbol

/-- The text of a symbol. -/
def symbolText (symbol : Symbol) : Units :=
  ("Symbol(" : Units) ++ symbol.description.getD .empty ++ ")"

/-- The big number of a value; a number has to be whole. -/
def constructBigint (value : Value) : Run Value := do
  match ← toPrimitive value .number with
  | .number number =>
    match Decimal.truncate? number with
    | some whole =>
      if isWhole number then return .bigint whole
      throwRange ("cannot convert " ++ Decimal.naturalText number ++ " to a BigInt")
    | none => throwRange ("cannot convert " ++ Decimal.naturalText number ++ " to a BigInt")
  | value => return .bigint (← toBigint value)

/-- Calls a function of truth values, symbols or big numbers. -/
def callPrimitive (function : PrimitiveFunction) (this : Value) (arguments : List Value) :
    Run Value := do
  let first := argument arguments 0
  let second := argument arguments 1
  match function with
  | .constructBoolean => constructBoolean arguments none
  | .booleanToString => return if ← thisBoolean this then "true" else "false"
  | .booleanValueOf => return .boolean (← thisBoolean this)
  | .constructSymbol =>
    let description ← if first.isUndefined then pure none else some <$> toText first
    return .symbol (← newSymbol description)
  | .symbolFor => return .symbol (← sharedSymbol (← toText first))
  | .symbolKeyFor =>
    match first with
    | .symbol symbol =>
      let shared := (← get).sharedSymbols.find? (·.2 == symbol)
      return (shared.map fun (name, _) => Value.string name).getD .undefined
    | _ => throwType "Symbol.keyFor: argument is not a symbol"
  | .symbolToString => return .string (symbolText (← thisSymbol this))
  | .symbolValueOf | .symbolToPrimitive => return .symbol (← thisSymbol this)
  | .symbolDescription =>
    return ((← thisSymbol this).description.map Value.string).getD .undefined
  | .constructBigInt => constructBigint first
  | .bigintToString =>
    let value ← thisBigint this
    return (Decimal.intText (← toBase first) value : String)
  | .bigintValueOf => return .bigint (← thisBigint this)
  | .bigintAsInt =>
    let bits := (← toWhole first 0 1048576).toNat
    return .bigint ((← toBigint second).bmod (Nat.pow 2 bits))
  | .bigintAsUint =>
    let bits := (← toWhole first 0 1048576).toNat
    return .bigint ((← toBigint second) % (Nat.pow 2 bits : Int))

end Run

end FencedCode.Script
