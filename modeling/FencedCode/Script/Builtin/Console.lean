import FencedCode.Script.Inspection

/-!
# The console

A method of the console is handed values.  What comes of turning each into text, with the calls of
the console that are made meanwhile, is all that is kept of it.  An object that is no function is
asked for structured text.  The function for that is looked up in the global object at each call, so
that a script can put another in its place.
-/

namespace FencedCode.Script

open Text

namespace Run

/-- Runs a part, and gives the calls of the console that it makes along with its result.  They are
not calls of the part that it belongs to. -/
def withCalls {α : Type} (part : Run α) : Run (List ConsoleCall × α) := do
  let earlier := (← get).calls
  modify ({ · with calls := [] })
  let result ← part
  let during := (← get).calls.reverse
  modify ({ · with calls := earlier })
  return (during, result)

/-- The own text of a value, or the form for debugging if it throws. -/
def textOrDebug (value : Value) : Run (Except String String) :=
  tryCatch (do return .ok (← toText value).display) fun _ => do return .error (← inspect value)

/-- Asks a value for its own text. -/
def askOwnText (value : Value) : Run OwnText := do
  match ← withCalls (textOrDebug value) with
  | (during, .ok text) => return .given during text
  | (during, .error debug) => return .thrown during debug

/-- The structured text of a value, if there is a function for it that gives a text. -/
def structuredText? (value : Value) : Run (Option String) := do
  let json ← getProperty Intrinsic.globalObject "JSON"
  match json with
  | .object ref =>
    let write ← getProperty ref "stringify"
    if !(← isCallable write) then return none
    match ← call write json [value, .null, .number 2] with
    | .string text => return some text.display
    | _ => return none
  | _ => return none

/-- Asks an object for structured text, and for its own text if it throws. -/
def askStructuredText (value : Value) : Run StructuredText := do
  match ← withCalls (tryCatch (some <$> structuredText? value) fun _ => return none) with
  | (during, some text) => return .given during text
  | (during, none) => return .thrown during (← askOwnText value)

/-- What the console gets to know of a value. -/
def captureArgument (value : Value) : Run Argument := do
  match value with
  | .object _ =>
    if ← isCallable value then return .function (← askOwnText value)
    else return .object (← askStructuredText value)
  | _ => return .primitive (← askOwnText value)

/-- Adds a call of the console. -/
def recordCall (call : ConsoleCall) : Run Unit :=
  modify fun machine => { machine with calls := call :: machine.calls }

/-- Calls a method of the console.  One that clears the log does not look at its arguments. -/
def callConsole (method : ConsoleMethod) (arguments : List Value) : Run Value := do
  let captured ← match method with
    | .write _ => arguments.mapM captureArgument
    | .clear => pure []
  recordCall (.call method.name captured)
  return .undefined

end Run

end FencedCode.Script
