import FencedCode.Execution.Console
import FencedCode.Script.Value

/-!
# Built-in functions

The functions that scripts find without declaring them, by family.  A family lists its functions with
their names and the number of arguments that they announce.
-/

namespace FencedCode.Script

/-- Functions of `Object` and of all objects. -/
inductive ObjectFunction where
  | construct | assign | create | defineProperties | defineProperty | entries | freeze
  | fromEntries | getOwnPropertyDescriptor | getOwnPropertyDescriptors | getOwnPropertyNames
  | getOwnPropertySymbols | getPrototypeOf | groupBy | hasOwn | is | isExtensible | isFrozen
  | isSealed | keys | preventExtensions | closeOff | setPrototypeOf | values
  | hasOwnProperty | isPrototypeOf | propertyIsEnumerable | toLocaleString | toString | valueOf
  | getProto | setProto

/-- Functions of `Function` and of all functions. -/
inductive FunctionFunction where
  | construct | empty | apply | bind | call | toString | hasInstance

/-- The errors of the language. -/
inductive ErrorKind where
  | error | typeError | rangeError | syntaxError | referenceError | evalError | uriError
deriving DecidableEq

/-- Functions of `Array` and of all arrays. -/
inductive ArrayFunction where
  | construct | isArray | of | fromValues
  | elementAt | concat | copyWithin | entries | every | fill | filter | find | findIndex | findLast
  | findLastIndex | flat | flatMap | forEach | includes | indexOf | join | keys | lastIndexOf | map
  | pop | push | reduce | reduceRight | reverse | shift | slice | some | sort | splice
  | toLocaleString | toReversed | toSorted | toSpliced | toString | unshift | values | replaceAt

/-- Functions of `String` and of all texts. -/
inductive StringFunction where
  | construct | fromCharCode | fromCodePoint | raw
  | elementAt | charAt | charCodeAt | codePointAt | concat | endsWith | includes | indexOf | isWellFormed
  | lastIndexOf | localeCompare | matchFirst | matchAll | normalize | padEnd | padStart | repeated
  | replace | replaceAll | search | slice | split | startsWith | substr | substring
  | toLocaleLowerCase | toLocaleUpperCase | toLowerCase | toString | toUpperCase | toWellFormed
  | trim | trimEnd | trimStart | valueOf | iterator

/-- Functions of `Number` and of all numbers. -/
inductive NumberFunction where
  | construct | isFinite | isInteger | isNaN | isSafeInteger | parseFloat | parseInt
  | globalIsFinite | globalIsNaN
  | toExponential | toFixed | toLocaleString | toPrecision | toString | valueOf

/-- Functions of `Boolean`, `Symbol` and `BigInt` and their values. -/
inductive PrimitiveFunction where
  | constructBoolean | booleanToString | booleanValueOf
  | constructSymbol | symbolFor | symbolKeyFor | symbolToString | symbolValueOf | symbolDescription
  | symbolToPrimitive
  | constructBigInt | bigintToString | bigintValueOf | bigintAsInt | bigintAsUint

inductive MathFunction where
  | abs | acos | acosh | asin | asinh | atan | atan2 | atanh | cbrt | ceil | clz32 | cos | cosh
  | exp | expm1 | floor | fround | hypot | imul | log | log10 | log1p | log2 | max | min | pow
  | random | round | sign | sin | sinh | sqrt | tan | tanh | trunc

inductive ReflectFunction where
  | apply | construct | defineProperty | deleteProperty | get | getOwnPropertyDescriptor
  | getPrototypeOf | has | isExtensible | ownKeys | preventExtensions | set | setPrototypeOf

inductive CollectionKind where
  | map | set | weakMap | weakSet
deriving DecidableEq

inductive CollectionFunction where
  | construct | groupBy | add | clear | delete | entries | forEach | get | has | keys | set | size
  | values

/-- Functions of `Promise` and of all promises. -/
inductive PromiseFunction where
  | construct | resolve | reject | all | allSettled | any | race
  | whenSettled | whenRejected | whenDone

/-- Functions of `RegExp` and of all regular expressions. -/
inductive RegexpFunction where
  | construct | exec | test | toString | source | flags
  | dotAll | global | hasIndices | ignoreCase | multiline | sticky | unicode

/-- Functions of generators and of the iterators of built-in objects. -/
inductive IteratorFunction where
  | itself | next | generatorNext | generatorReturn | generatorThrow

/-- Functions on the text of addresses. -/
inductive AddressFunction where
  | decodeAll | decodePart | encodeAll | encodePart

inductive Native where
  | object (function : ObjectFunction)
  | function (function : FunctionFunction)
  | error (kind : ErrorKind)
  | errorToString
  | array (function : ArrayFunction)
  | string (function : StringFunction)
  | number (function : NumberFunction)
  | primitive (function : PrimitiveFunction)
  | math (function : MathFunction)
  | jsonParse
  | jsonStringify
  | reflect (function : ReflectFunction)
  | collection (kind : CollectionKind) (function : CollectionFunction)
  | promise (function : PromiseFunction)
  | settle (promise : Ref) (fulfils : Bool)
  | regexp (function : RegexpFunction)
  | iterator (function : IteratorFunction)
  | proxy
  | address (function : AddressFunction)
  | console (method : ConsoleMethod)

namespace ErrorKind

def all : List ErrorKind :=
  [error, typeError, rangeError, syntaxError, referenceError, evalError, uriError]

/-- The name of a kind. -/
def name : ErrorKind → String
  | error => "Error"
  | typeError => "TypeError"
  | rangeError => "RangeError"
  | syntaxError => "SyntaxError"
  | referenceError => "ReferenceError"
  | evalError => "EvalError"
  | uriError => "URIError"

end ErrorKind

/-! ### Names and lengths -/

namespace ObjectFunction

def own : List (ObjectFunction × String × Nat) :=
  [(assign, "assign", 2), (create, "create", 2), (defineProperties, "defineProperties", 2),
   (defineProperty, "defineProperty", 3), (entries, "entries", 1), (freeze, "freeze", 1),
   (fromEntries, "fromEntries", 1), (getOwnPropertyDescriptor, "getOwnPropertyDescriptor", 2),
   (getOwnPropertyDescriptors, "getOwnPropertyDescriptors", 1),
   (getOwnPropertyNames, "getOwnPropertyNames", 1),
   (getOwnPropertySymbols, "getOwnPropertySymbols", 1), (getPrototypeOf, "getPrototypeOf", 1),
   (groupBy, "groupBy", 2), (hasOwn, "hasOwn", 2), (is, "is", 2),
   (isExtensible, "isExtensible", 1), (isFrozen, "isFrozen", 1), (isSealed, "isSealed", 1),
   (keys, "keys", 1), (preventExtensions, "preventExtensions", 1), (closeOff, "seal", 1),
   (setPrototypeOf, "setPrototypeOf", 2), (values, "values", 1)]

/-- The functions of all objects. -/
def shared : List (ObjectFunction × String × Nat) :=
  [(hasOwnProperty, "hasOwnProperty", 1), (isPrototypeOf, "isPrototypeOf", 1),
   (propertyIsEnumerable, "propertyIsEnumerable", 1), (toLocaleString, "toLocaleString", 0),
   (toString, "toString", 0), (valueOf, "valueOf", 0)]

end ObjectFunction

namespace FunctionFunction

/-- The functions of all functions. -/
def shared : List (FunctionFunction × String × Nat) :=
  [(apply, "apply", 2), (bind, "bind", 1), (call, "call", 1), (toString, "toString", 0)]

end FunctionFunction

namespace ArrayFunction

def own : List (ArrayFunction × String × Nat) :=
  [(isArray, "isArray", 1), (of, "of", 0), (fromValues, "from", 1)]

/-- The functions of all arrays. -/
def shared : List (ArrayFunction × String × Nat) :=
  [(elementAt, "at", 1), (concat, "concat", 1), (copyWithin, "copyWithin", 2), (entries, "entries", 0),
   (every, "every", 1), (fill, "fill", 1), (filter, "filter", 1), (find, "find", 1),
   (findIndex, "findIndex", 1), (findLast, "findLast", 1), (findLastIndex, "findLastIndex", 1),
   (flat, "flat", 0), (flatMap, "flatMap", 1), (forEach, "forEach", 1), (includes, "includes", 1),
   (indexOf, "indexOf", 1), (join, "join", 1), (keys, "keys", 0), (lastIndexOf, "lastIndexOf", 1),
   (map, "map", 1), (pop, "pop", 0), (push, "push", 1), (reduce, "reduce", 1),
   (reduceRight, "reduceRight", 1), (reverse, "reverse", 0), (shift, "shift", 0),
   (slice, "slice", 2), (some, "some", 1), (sort, "sort", 1), (splice, "splice", 2),
   (toLocaleString, "toLocaleString", 0), (toReversed, "toReversed", 0), (toSorted, "toSorted", 1),
   (toSpliced, "toSpliced", 2), (toString, "toString", 0), (unshift, "unshift", 1),
   (values, "values", 0), (replaceAt, "with", 2)]

end ArrayFunction

namespace StringFunction

def own : List (StringFunction × String × Nat) :=
  [(fromCharCode, "fromCharCode", 1), (fromCodePoint, "fromCodePoint", 1), (raw, "raw", 1)]

/-- The functions of all texts. -/
def shared : List (StringFunction × String × Nat) :=
  [(elementAt, "at", 1), (charAt, "charAt", 1), (charCodeAt, "charCodeAt", 1),
   (codePointAt, "codePointAt", 1), (concat, "concat", 1), (endsWith, "endsWith", 1),
   (includes, "includes", 1), (indexOf, "indexOf", 1), (isWellFormed, "isWellFormed", 0),
   (lastIndexOf, "lastIndexOf", 1), (localeCompare, "localeCompare", 1), (matchFirst, "match", 1),
   (matchAll, "matchAll", 1), (normalize, "normalize", 0), (padEnd, "padEnd", 1),
   (padStart, "padStart", 1), (repeated, "repeat", 1), (replace, "replace", 2),
   (replaceAll, "replaceAll", 2), (search, "search", 1), (slice, "slice", 2), (split, "split", 2),
   (startsWith, "startsWith", 1), (substr, "substr", 2), (substring, "substring", 2),
   (toLocaleLowerCase, "toLocaleLowerCase", 0), (toLocaleUpperCase, "toLocaleUpperCase", 0),
   (toLowerCase, "toLowerCase", 0), (toString, "toString", 0), (toUpperCase, "toUpperCase", 0),
   (toWellFormed, "toWellFormed", 0), (trim, "trim", 0), (trimEnd, "trimEnd", 0),
   (trimStart, "trimStart", 0), (valueOf, "valueOf", 0)]

end StringFunction

namespace NumberFunction

def own : List (NumberFunction × String × Nat) :=
  [(isFinite, "isFinite", 1), (isInteger, "isInteger", 1), (isNaN, "isNaN", 1),
   (isSafeInteger, "isSafeInteger", 1)]

/-- The functions of all numbers. -/
def shared : List (NumberFunction × String × Nat) :=
  [(toExponential, "toExponential", 1), (toFixed, "toFixed", 1),
   (toLocaleString, "toLocaleString", 0), (toPrecision, "toPrecision", 1),
   (toString, "toString", 1), (valueOf, "valueOf", 0)]

end NumberFunction

namespace MathFunction

def own : List (MathFunction × String × Nat) :=
  [(abs, "abs", 1), (acos, "acos", 1), (acosh, "acosh", 1), (asin, "asin", 1), (asinh, "asinh", 1),
   (atan, "atan", 1), (atan2, "atan2", 2), (atanh, "atanh", 1), (cbrt, "cbrt", 1),
   (ceil, "ceil", 1), (clz32, "clz32", 1), (cos, "cos", 1), (cosh, "cosh", 1), (exp, "exp", 1),
   (expm1, "expm1", 1), (floor, "floor", 1), (fround, "fround", 1), (hypot, "hypot", 2),
   (imul, "imul", 2), (log, "log", 1), (log10, "log10", 1), (log1p, "log1p", 1), (log2, "log2", 1),
   (max, "max", 2), (min, "min", 2), (pow, "pow", 2), (random, "random", 0), (round, "round", 1),
   (sign, "sign", 1), (sin, "sin", 1), (sinh, "sinh", 1), (sqrt, "sqrt", 1), (tan, "tan", 1),
   (tanh, "tanh", 1), (trunc, "trunc", 1)]

end MathFunction

namespace ReflectFunction

def own : List (ReflectFunction × String × Nat) :=
  [(apply, "apply", 3), (construct, "construct", 2), (defineProperty, "defineProperty", 3),
   (deleteProperty, "deleteProperty", 2), (get, "get", 2),
   (getOwnPropertyDescriptor, "getOwnPropertyDescriptor", 2), (getPrototypeOf, "getPrototypeOf", 1),
   (has, "has", 2), (isExtensible, "isExtensible", 1), (ownKeys, "ownKeys", 1),
   (preventExtensions, "preventExtensions", 1), (set, "set", 3),
   (setPrototypeOf, "setPrototypeOf", 2)]

end ReflectFunction

namespace CollectionFunction

/-- The functions of all collections of a kind; the size is a getter. -/
def shared : CollectionKind → List (CollectionFunction × String × Nat)
  | .map =>
    [(clear, "clear", 0), (delete, "delete", 1), (entries, "entries", 0), (forEach, "forEach", 1),
     (get, "get", 1), (has, "has", 1), (keys, "keys", 0), (set, "set", 2), (values, "values", 0)]
  | .set =>
    [(add, "add", 1), (clear, "clear", 0), (delete, "delete", 1), (entries, "entries", 0),
     (forEach, "forEach", 1), (has, "has", 1), (values, "values", 0)]
  | .weakMap => [(delete, "delete", 1), (get, "get", 1), (has, "has", 1), (set, "set", 2)]
  | .weakSet => [(add, "add", 1), (delete, "delete", 1), (has, "has", 1)]

end CollectionFunction

namespace PromiseFunction

def own : List (PromiseFunction × String × Nat) :=
  [(all, "all", 1), (allSettled, "allSettled", 1), (any, "any", 1), (race, "race", 1),
   (reject, "reject", 1), (resolve, "resolve", 1)]

/-- The functions of all promises. -/
def shared : List (PromiseFunction × String × Nat) :=
  [(whenRejected, "catch", 1), (whenDone, "finally", 1), (whenSettled, "then", 2)]

end PromiseFunction

namespace RegexpFunction

/-- The functions of all regular expressions. -/
def shared : List (RegexpFunction × String × Nat) :=
  [(exec, "exec", 1), (test, "test", 1), (toString, "toString", 0)]

/-- The getters of all regular expressions. -/
def getters : List (RegexpFunction × String) :=
  [(dotAll, "dotAll"), (flags, "flags"), (global, "global"), (hasIndices, "hasIndices"),
   (ignoreCase, "ignoreCase"), (multiline, "multiline"), (source, "source"), (sticky, "sticky"),
   (unicode, "unicode")]

end RegexpFunction

namespace CollectionKind

/-- The name of a kind. -/
def name : CollectionKind → String
  | map => "Map"
  | set => "Set"
  | weakMap => "WeakMap"
  | weakSet => "WeakSet"

end CollectionKind

end FencedCode.Script
