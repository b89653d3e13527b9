import FencedCode.Script.Builtin.Object

/-!
# What is there before a run

The parents of all values, and the global object with the built-in functions.  The parents lie at
places that are known in advance; everything else is reached from the global object.
-/

namespace FencedCode.Script

open Text

namespace Run

/-! ### Defining built-in functions -/

/-- Gives an object a property that is not listed. -/
def defineValue (ref : Ref) (key : PropertyKey) (value : Value) : Run Unit :=
  putProperty ref key (.unlisted value)

/-- Gives an object a built-in function. -/
def defineFunction (ref : Ref) (key : PropertyKey) (function : Native) (name : String)
    (length : Nat) : Run Unit := do
  defineValue ref key (.object (← makeNative function name length))

/-- Gives an object the functions of a family. -/
def defineFamily {α : Type} (ref : Ref) (native : α → Native) (family : List (α × String × Nat)) :
    Run Unit :=
  family.forM fun (function, name, length) => defineFunction ref name (native function) name length

/-- Gives an object a property that is computed. -/
def defineGetter (ref : Ref) (name : String) (getter : Native) (setter : Option Native := none) :
    Run Unit := do
  let getter ← makeNative getter ("get " ++ name) 0
  let setter ← setter.mapM fun setter => makeNative setter ("set " ++ name) 1
  putProperty ref name { content := .accessor (some getter) setter, enumerable := false }

/-- Gives an object another key for a property that it has. -/
def defineAgain (ref : Ref) (key other : PropertyKey) : Run Unit := do
  match ← own? ref key with
  | some property => putProperty ref other property
  | none => return

/-- Gives an object the name under which it is shown. -/
def defineTag (ref : Ref) (name : String) : Run Unit :=
  putProperty ref Symbol.toStringTag (.readOnly name)

/-- Binds a function together with the parent of what it makes. -/
def linkConstructor (constructor : Ref) (name : String) (prototype : Ref) : Run Unit := do
  putProperty constructor "prototype" (.fixed (.object prototype))
  defineValue prototype "constructor" (.object constructor)
  defineValue Intrinsic.globalObject name (.object constructor)

def defineConstructor (function : Native) (name : String) (length : Nat) (prototype : Ref) :
    Run Ref := do
  let constructor ← makeNative function name length
  linkConstructor constructor name prototype
  return constructor

/-- Makes a global object that only holds functions. -/
def defineNamespace (name : String) (isTagged : Bool := true) : Run Ref := do
  let ref ← makeObject
  defineValue Intrinsic.globalObject name (.object ref)
  if isTagged then defineTag ref name
  return ref

/-! ### The families -/

/-- The parents, in the order of their places. -/
def intrinsics : List Object :=
  let plain : Object := { parent := some Intrinsic.objectPrototype }
  let error (kind : ErrorKind) : Object :=
    if kind = .error then plain else { parent := some (Intrinsic.errorPrototype .error) }
  [{ parent := none },
   { plain with kind := .native (.function .empty) },
   plain,
   { plain with kind := .array 0 true },
   { plain with kind := .wrapper (.string .empty) },
   { plain with kind := .wrapper (.number 0) },
   { plain with kind := .wrapper (.boolean false) },
   plain, plain, plain,
   { parent := some Intrinsic.iteratorPrototype },
   plain, plain]
    ++ ErrorKind.all.map error
    ++ [plain, plain, plain, plain,
      { kind := .native (.error .error), parent := some Intrinsic.functionPrototype }]

/-- Defines what concerns objects and functions. -/
def defineObjects : Run Unit := do
  let object ← defineConstructor (.object .construct) "Object" 1 Intrinsic.objectPrototype
  defineFamily object .object ObjectFunction.own
  defineFamily Intrinsic.objectPrototype .object ObjectFunction.shared
  defineGetter Intrinsic.objectPrototype "__proto__" (.object .getProto) (some (.object .setProto))
  let function ← defineConstructor (.function .construct) "Function" 1 Intrinsic.functionPrototype
  putProperty function "length" (.readOnly (.number 1))
  putProperty Intrinsic.functionPrototype "length" (.readOnly (.number 0))
  putProperty Intrinsic.functionPrototype "name" (.readOnly "")
  defineFamily Intrinsic.functionPrototype .function FunctionFunction.shared
  let hasInstance ← makeNative (.function .hasInstance) "[Symbol.hasInstance]" 1
  putProperty Intrinsic.functionPrototype Symbol.hasInstance (.fixed (.object hasInstance))
  let reflect ← defineNamespace "Reflect"
  defineFamily reflect .reflect ReflectFunction.own
  let proxy ← makeNative .proxy "Proxy" 2
  defineValue Intrinsic.globalObject "Proxy" (.object proxy)

def defineErrors : Run Unit := do
  for kind in ErrorKind.all do
    let prototype := Intrinsic.errorPrototype kind
    let constructor ← if kind = .error then do
        let ref := Intrinsic.errorConstructor
        putProperty ref "length" (.readOnly (.number 1))
        putProperty ref "name" (.readOnly kind.name)
        pure ref
      else do
        let ref ← makeNative (.error kind) kind.name 1
        change ref fun object => { object with parent := some Intrinsic.errorConstructor }
        pure ref
    linkConstructor constructor kind.name prototype
    defineValue prototype "name" kind.name
    defineValue prototype "message" ""
  defineFunction (Intrinsic.errorPrototype .error) "toString" .errorToString "toString" 0

/-- Defines what concerns lists and iterators. -/
def defineLists : Run Unit := do
  let array ← defineConstructor (.array .construct) "Array" 1 Intrinsic.arrayPrototype
  defineFamily array .array ArrayFunction.own
  defineFamily Intrinsic.arrayPrototype .array ArrayFunction.shared
  defineAgain Intrinsic.arrayPrototype "values" Symbol.iterator
  let iterators := Intrinsic.iteratorPrototype
  defineFunction iterators Symbol.iterator (.iterator .itself) "[Symbol.iterator]" 0
  defineFunction iterators "next" (.iterator .next) "next" 0
  let generators := Intrinsic.generatorPrototype
  defineFunction generators "next" (.iterator .generatorNext) "next" 1
  defineFunction generators "return" (.iterator .generatorReturn) "return" 1
  defineFunction generators "throw" (.iterator .generatorThrow) "throw" 1
  defineTag generators "Generator"

/-- Defines what concerns texts and expressions. -/
def defineTexts : Run Unit := do
  let string ← defineConstructor (.string .construct) "String" 1 Intrinsic.stringPrototype
  defineFamily string .string StringFunction.own
  defineFamily Intrinsic.stringPrototype .string StringFunction.shared
  defineAgain Intrinsic.stringPrototype "trimStart" "trimLeft"
  defineAgain Intrinsic.stringPrototype "trimEnd" "trimRight"
  defineFunction Intrinsic.stringPrototype Symbol.iterator (.string .iterator) "[Symbol.iterator]" 0
  let _ ← defineConstructor (.regexp .construct) "RegExp" 2 Intrinsic.regexpPrototype
  defineFamily Intrinsic.regexpPrototype .regexp RegexpFunction.shared
  RegexpFunction.getters.forM fun (function, name) =>
    defineGetter Intrinsic.regexpPrototype name (.regexp function)
  let addresses : List (AddressFunction × String × Nat) :=
    [(.decodeAll, "decodeURI", 1), (.decodePart, "decodeURIComponent", 1),
     (.encodeAll, "encodeURI", 1), (.encodePart, "encodeURIComponent", 1)]
  defineFamily Intrinsic.globalObject .address addresses

/-- The numbers that have names in `Number`. -/
def namedNumbers : List (String × Float) :=
  [("EPSILON", 2.220446049250313e-16), ("MAX_SAFE_INTEGER", 9007199254740991),
   ("MAX_VALUE", 1.7976931348623157e308), ("MIN_SAFE_INTEGER", -9007199254740991),
   ("MIN_VALUE", 5e-324), ("NaN", Numeral.notNumber), ("NEGATIVE_INFINITY", -1.0 / 0.0),
   ("POSITIVE_INFINITY", 1.0 / 0.0)]

/-- The numbers that have names in `Math`. -/
def mathConstants : List (String × Float) :=
  [("E", 2.718281828459045), ("LN10", 2.302585092994046), ("LN2", 0.6931471805599453),
   ("LOG10E", 0.4342944819032518), ("LOG2E", 1.4426950408889634), ("PI", 3.141592653589793),
   ("SQRT1_2", 0.7071067811865476), ("SQRT2", 1.4142135623730951)]

/-- Defines what concerns numbers and other primitive values. -/
def definePrimitives : Run Unit := do
  let global := Intrinsic.globalObject
  let number ← defineConstructor (.number .construct) "Number" 1 Intrinsic.numberPrototype
  defineFamily number .number NumberFunction.own
  defineFamily Intrinsic.numberPrototype .number NumberFunction.shared
  namedNumbers.forM fun (name, value) => putProperty number name (.fixed (.number value))
  let globals : List (NumberFunction × String × Nat) :=
    [(.parseFloat, "parseFloat", 1), (.parseInt, "parseInt", 2), (.globalIsFinite, "isFinite", 1),
     (.globalIsNaN, "isNaN", 1)]
  defineFamily global .number globals
  for name in (["parseFloat", "parseInt"] : List String) do
    defineValue number name (← getProperty global name)
  let _ ← defineConstructor (.primitive .constructBoolean) "Boolean" 1 Intrinsic.booleanPrototype
  let booleans : List (PrimitiveFunction × String × Nat) :=
    [(.booleanToString, "toString", 0), (.booleanValueOf, "valueOf", 0)]
  defineFamily Intrinsic.booleanPrototype .primitive booleans
  let bigint ← defineConstructor (.primitive .constructBigInt) "BigInt" 1 Intrinsic.bigintPrototype
  let bigintOwn : List (PrimitiveFunction × String × Nat) :=
    [(.bigintAsInt, "asIntN", 2), (.bigintAsUint, "asUintN", 2)]
  defineFamily bigint .primitive bigintOwn
  let bigints : List (PrimitiveFunction × String × Nat) :=
    [(.bigintToString, "toLocaleString", 0), (.bigintToString, "toString", 0),
     (.bigintValueOf, "valueOf", 0)]
  defineFamily Intrinsic.bigintPrototype .primitive bigints
  defineTag Intrinsic.bigintPrototype "BigInt"
  let math ← defineNamespace "Math"
  defineFamily math .math MathFunction.own
  mathConstants.forM fun (name, value) => putProperty math name (.fixed (.number value))

def defineSymbols : Run Unit := do
  let prototype := Intrinsic.symbolPrototype
  let symbol ← defineConstructor (.primitive .constructSymbol) "Symbol" 0 prototype
  let own : List (PrimitiveFunction × String × Nat) :=
    [(.symbolFor, "for", 1), (.symbolKeyFor, "keyFor", 1)]
  defineFamily symbol .primitive own
  Symbol.wellKnowns.forM fun (name, held) => putProperty symbol name (.fixed (.symbol held))
  let shared : List (PrimitiveFunction × String × Nat) :=
    [(.symbolToString, "toString", 0), (.symbolValueOf, "valueOf", 0)]
  defineFamily prototype .primitive shared
  defineGetter prototype "description" (.primitive .symbolDescription)
  let toPrimitive ← makeNative (.primitive .symbolToPrimitive) "[Symbol.toPrimitive]" 1
  putProperty prototype Symbol.toPrimitive (.readOnly (.object toPrimitive))
  defineTag prototype "Symbol"

/-- Defines what concerns collections and promises. -/
def defineCollections : Run Unit := do
  for kind in ([.map, .set, .weakMap, .weakSet] : List CollectionKind) do
    let prototype := Intrinsic.collectionPrototype kind
    let constructor ← defineConstructor (.collection kind .construct) kind.name 0 prototype
    defineFamily prototype (.collection kind) (CollectionFunction.shared kind)
    defineTag prototype kind.name
    match kind with
    | .map =>
      defineFunction constructor "groupBy" (.collection kind .groupBy) "groupBy" 2
      defineAgain prototype "entries" Symbol.iterator
      defineGetter prototype "size" (.collection kind .size)
    | .set =>
      defineAgain prototype "values" "keys"
      defineAgain prototype "values" Symbol.iterator
      defineGetter prototype "size" (.collection kind .size)
    | _ => pure ()
  let prototype := Intrinsic.promisePrototype
  let promise ← defineConstructor (.promise .construct) "Promise" 1 prototype
  defineFamily promise .promise PromiseFunction.own
  defineFamily prototype .promise PromiseFunction.shared
  defineTag prototype "Promise"

/-- Puts everything into an empty store. -/
def setUp : Run Unit := do
  modify fun machine => { machine with objects := intrinsics.toArray }
  let global := Intrinsic.globalObject
  defineValue global "globalThis" (.object global)
  putProperty global "NaN" (.fixed (.number Numeral.notNumber))
  putProperty global "Infinity" (.fixed (.number (1.0 / 0.0)))
  putProperty global "undefined" (.fixed .undefined)
  defineObjects
  defineErrors
  defineLists
  defineTexts
  definePrimitives
  defineSymbols
  defineCollections
  let json ← defineNamespace "JSON"
  defineFunction json "parse" .jsonParse "parse" 2
  defineFunction json "stringify" .jsonStringify "stringify" 3

/-- Makes the object with the methods of the console. -/
def makeConsole : Run Value := do
  let ref ← makeObject
  console.forM fun (name, method) => defineFunction ref name (.console method) name 0
  return .object ref

end Run

end FencedCode.Script
