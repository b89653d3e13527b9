import FencedCode.Script.Builtin.Object
import FencedCode.Script.Parser.Statement

/-!
# Functions on functions, errors and promises

How functions are called and bound by others, how they are shown, how errors are made and shown, and
how promises are made.  Nothing ever wakes what waits for a promise, so that a promise is no more than
an object that is shown.
-/

namespace FencedCode.Script

open Text

namespace Run

/-! ### Functions -/

/-- The text of a function.  It shows the name and not the code. -/
def functionText (this : Value) : Run Units := do
  let shown (name : Units) : Units := ("function " : Units) ++ name ++ "() { [native code] }"
  match this with
  | .object ref =>
    match ← kindOf ref with
    | .closure closure => return shown (← functionAt closure.function).name
    | .native _ =>
      match ← getProperty ref "name" with
      | .string name => return shown name
      | _ => return shown .empty
    | .bound .. => return shown .empty
    | _ =>
      if ← isCallable this then return shown .empty
      throwType "this is not a function"
  | _ => throwType "this is not a function"

/-- Makes a function that calls another with a fixed value and arguments in front. -/
def bindFunction (this : Value) (arguments : List Value) : Run Value := do
  match this with
  | .object target =>
    if !(← isCallable this) then throwType "cannot bind \x60this\x60 without a \x60[[Call]]\x60 internal method"
    let bound := arguments.tail
    let length ← match ← getProperty target "length" with
      | .number length => pure length
      | _ => pure 0
    let name : Units ← match ← getProperty target "name" with
      | .string name => pure name
      | _ => pure .empty
    let left := length - (Decimal.Dyadic.floatOfInt bound.length)
    let properties : Properties := {}
    return .object (← allocate
      { kind := .bound target (argument arguments 0) bound, parent := ← parentOf target
        properties := (properties.put "length" (.readOnly (.number (max 0 left)))).put "name"
          (.readOnly (.string (("bound " : Units) ++ name))) })
  | _ => throwType "cannot bind \x60this\x60 without a \x60[[Call]]\x60 internal method"

/-- Makes a function of the texts of its parameters and its body. -/
def compileFunction (arguments : List Value) : Run Value := do
  let texts ← arguments.mapM toText
  let parameters := ",".intercalate (texts.dropLast.map Units.display)
  let body := (texts.getLast?.map Units.display).getD ""
  let text := "return function anonymous(" ++ parameters ++ "\n) \x7b\n" ++ body ++ "\n\x7d"
  let code := (← get).code
  match Code.parseBody? [] code text with
  | some code =>
    modify ({ · with code })
    let wrapper : FunctionNode := code.functions.back?.getD default
    match wrapper.body with
    | [.return (some (.function index))] =>
      let ref ← makeClosure index []
      return .object ref
    | _ => throwNew .syntaxError "invalid function"
  | none => throwNew .syntaxError "invalid function"

/-- Calls a function of `Function` or of all functions. -/
def callFunction (function : FunctionFunction) (this : Value) (arguments : List Value) :
    Run Value := do
  match function with
  | .construct => compileFunction arguments
  | .empty => return .undefined
  | .apply =>
    if !(← isCallable this) then throwType "not a callable function"
    let values := argument arguments 1
    call this (argument arguments 0) (← if values.isMissing then pure [] else elementsOf values)
  | .bind => bindFunction this arguments
  | .call =>
    if !(← isCallable this) then throwType "not a callable function"
    call this (argument arguments 0) arguments.tail
  | .toString => return .string (← functionText this)
  | .hasInstance =>
    match this with
    | .object ref =>
      if ← isCallable this then return .boolean (← isInstance (argument arguments 0) ref)
      return .boolean false
    | _ => return .boolean false

/-! ### Errors -/

/-- Makes an error with a message and a cause. -/
def constructError (kind : ErrorKind) (arguments : List Value) (newTarget : Option Ref) :
    Run Value := do
  let default := Intrinsic.errorPrototype kind
  let parent ← match newTarget with
    | some newTarget => prototypeFor newTarget default
    | none => pure default
  let ref ← allocate { kind := .error, parent := some parent }
  match argument arguments 0 with
  | .undefined => pure ()
  | message => putProperty ref "message" (.unlisted (.string (← toText message)))
  match argument arguments 1 with
  | .object options =>
    if ← hasProperty options "cause" then
      putProperty ref "cause" (.unlisted (← getProperty options "cause"))
  | _ => pure ()
  return .object ref

/-- The text of an error: its name and its message, as far as they are there. -/
def errorText (this : Value) : Run Units := do
  match this with
  | .object ref =>
    let name : Units ← match ← getProperty ref "name" with
      | .undefined => pure "Error"
      | name => toText name
    let message : Units ← match ← getProperty ref "message" with
      | .undefined => pure .empty
      | message => toText message
    if name.isEmpty then return message
    if message.isEmpty then return name
    return name ++ ": " ++ message
  | _ => throwType "'this' is not an Object"

/-! ### Promises -/

/-- The promise at a place, if there is one. -/
def promiseState? (value : Value) : Run (Option PromiseState) := do
  match value with
  | .object ref =>
    match ← kindOf ref with
    | .promise state => return some state
    | _ => return none
  | _ => return none

/-- Settles a promise that is open. -/
def settlePromise (ref : Ref) (state : PromiseState) : Run Unit := do
  match ← kindOf ref with
  | .promise .pending => change ref fun object => { object with kind := .promise state }
  | _ => return

/-- Makes a promise and lets a function settle it. -/
def constructPromise (executor : Value) (newTarget : Ref) : Run Value := do
  if !(← isCallable executor) then throwType "Promise executor is not callable"
  let parent ← prototypeFor newTarget Intrinsic.promisePrototype
  let ref ← allocate { kind := .promise .pending, parent := some parent }
  let fulfil ← makeNative (.settle ref true) "" 1
  let reject ← makeNative (.settle ref false) "" 1
  catchThrown
    (do let _ ← call executor .undefined [.object fulfil, .object reject])
    fun reason => settlePromise ref (.rejected reason)
  return .object ref

/-- Settles a promise by a value.  One that can be waited for leaves it open. -/
def settleBy (ref : Ref) (fulfils : Bool) (value : Value) : Run Unit := do
  let canWait ← match value with
    | .object object => isCallable (← getProperty object "then")
    | _ => pure false
  if !fulfils then settlePromise ref (.rejected value)
  else if !canWait then settlePromise ref (.fulfilled value)

/-- Calls a function of `Promise` or of all promises. -/
def callPromise (function : PromiseFunction) (this : Value) (arguments : List Value) :
    Run Value := do
  let first := argument arguments 0
  match function with
  | .construct => throwType "promise NewTarget cannot be undefined"
  | .resolve =>
    if (← promiseState? first).isSome then return first
    makePromise (.fulfilled first)
  | .reject => makePromise (.rejected first)
  | .all | .allSettled | .any | .race =>
    let _ ← valuesOf first
    makePromise .pending
  | .whenSettled | .whenRejected | .whenDone =>
    if (← promiseState? this).isNone then throwType "this is not a promise"
    makePromise .pending

end Run

end FencedCode.Script
