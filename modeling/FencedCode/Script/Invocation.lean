import FencedCode.Script.Builtin.Address
import FencedCode.Script.Builtin.Collection
import FencedCode.Script.Builtin.Console
import FencedCode.Script.Builtin.Json
import FencedCode.Script.Builtin.Math
import FencedCode.Script.Builtin.Number
import FencedCode.Script.Builtin.String

/-!
# Calling values

What a call of a value does, and what `new` makes with it: a function of the code runs, a built-in
one is looked up in its family, a bound one calls its target, and a proxy asks its handler first.
-/

namespace FencedCode.Script

namespace Run

/-- Makes an object that stands in front of another. -/
def constructProxy (target handler : Value) : Run Value := do
  match target, handler with
  | .object target, .object handler =>
    return .object (← allocate { kind := .proxy target handler, parent := none })
  | _, _ => throwType "Proxy constructor called on non-object"

def callNative (function : Native) (this : Value) (arguments : List Value) : Run Value := do
  let first := argument arguments 0
  let second := argument arguments 1
  match function with
  | .object function => callObject function this arguments
  | .function function => callFunction function this arguments
  | .error kind => constructError kind arguments none
  | .errorToString => return .string (← errorText this)
  | .array function => callArray function this arguments
  | .string function => callString function this arguments
  | .number function => callNumber function this arguments
  | .primitive function => callPrimitive function this arguments
  | .math function => callMath function arguments
  | .jsonParse => parseJson first second
  | .jsonStringify => stringify first second (argument arguments 2)
  | .reflect function => callReflect function arguments
  | .collection kind function => callCollection kind function this arguments
  | .promise function => callPromise function this arguments
  | .settle promise fulfils =>
    settleBy promise fulfils first
    return .undefined
  | .regexp function => callRegexp function this arguments none
  | .iterator function => callIterator function this arguments
  | .proxy => throwType "calling a builtin Proxy constructor without new is forbidden"
  | .address function => callAddress function arguments
  | .console method => callConsole method arguments

/-- Makes an object with a built-in function. -/
def constructNative (callee : Ref) (function : Native) (arguments : List Value) (newTarget : Ref) :
    Run Value := do
  let first := argument arguments 0
  match function with
  | .object .construct =>
    if newTarget = callee then callObject .construct .undefined arguments
    else
      let parent ← prototypeFor newTarget Intrinsic.objectPrototype
      return .object (← allocate { parent := some parent })
  | .function .construct => compileFunction arguments
  | .error kind => constructError kind arguments (some newTarget)
  | .array .construct => constructArray arguments (some newTarget)
  | .string .construct => constructText arguments (some newTarget)
  | .number .construct => constructNumber arguments (some newTarget)
  | .primitive .constructBoolean => constructBoolean arguments (some newTarget)
  | .collection kind .construct => constructCollection kind first newTarget
  | .promise .construct => constructPromise first newTarget
  | .regexp .construct => callRegexp .construct .undefined arguments (some newTarget)
  | .proxy => constructProxy first (argument arguments 1)
  | _ => throwType "not a constructor"

def callValue (callee this : Value) (arguments : List Value) : Run Value := do
  match callee with
  | .object ref =>
    match ← kindOf ref with
    | .closure closure => callClosure ref closure this arguments
    | .native function => callNative function this arguments
    | .bound target this held => call (.object target) this (held ++ arguments)
    | .proxy target handler =>
      match ← getProperty handler "apply" with
      | .undefined => call (.object target) this arguments
      | trap => call trap (.object handler) [.object target, this, ← makeArray arguments]
    | _ => throwType "not a callable function"
  | _ => throwType "not a callable function"

/-- Makes an object with a constructor, for the constructor that `new` was applied to. -/
def constructValue (callee : Ref) (arguments : List Value) (newTarget : Ref) : Run Value := do
  match ← kindOf callee with
  | .closure closure => constructClosure callee closure arguments newTarget
  | .native function => constructNative callee function arguments newTarget
  | .bound target _ held =>
    construct target (held ++ arguments) (if newTarget = callee then target else newTarget)
  | .proxy target handler =>
    match ← getProperty handler "construct" with
    | .undefined => construct target arguments (if newTarget = callee then target else newTarget)
    | trap =>
      let made ← call trap (.object handler)
        [.object target, ← makeArray arguments, .object newTarget]
      match made with
      | .object _ => return made
      | _ => throwType "Proxy trap constructor returned non-object value"
  | _ => throwType "not a constructor"

end Run

end FencedCode.Script
