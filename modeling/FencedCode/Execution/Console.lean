import FencedCode.Execution.Behaviour
import FencedCode.Execution.Log

/-!
# The console

The object that a script gets as its console has one method for each level and one that clears the
log.  All of them work on one log.  A method of a level turns its arguments into text one by one and
then writes an entry; what they call meanwhile is written before it.  It throws nothing: where an
argument throws, another text stands in.
-/

namespace FencedCode

/-- What a method of the console does. -/
inductive ConsoleMethod where
  | write (level : LogLevel)
  | clear
deriving DecidableEq, Repr

namespace ConsoleMethod

def all : List ConsoleMethod := LogLevel.all.map .write ++ [.clear]

/-- The name under which the console has the method. -/
def name : ConsoleMethod → String
  | write level => level.name
  | clear => "clear"

end ConsoleMethod

/-- The console: its methods under their names. -/
def console : List (String × ConsoleMethod) :=
  ConsoleMethod.all.map fun method => (method.name, method)

namespace Log

mutual

/-- The log after a call.  What is no method of the console does nothing to it. -/
def record (log : Log) : ConsoleCall → Log
  | .call method arguments =>
    match console.lookup method with
    | some (.write level) =>
      let (log, values) := captureAll log arguments
      log.push { level, values }
    | some .clear => log.clear
    | none => log

/-- The log after some calls. -/
def recordAll (log : Log) : List ConsoleCall → Log
  | [] => log
  | call :: rest => recordAll (record log call) rest

/-- The log after an argument has been turned into text, and that text. -/
def capture (log : Log) : Argument → Log × LogValue
  | .primitive own | .function own =>
    let (log, text) := display log own
    (log, { sort := .scalar, text })
  | .object (.given during text) =>
    (recordAll log during, { sort := .structured, text := text.getD "" })
  | .object (.thrown during own) =>
    let (log, text) := display (recordAll log during) own
    (log, { sort := .bare, text })

/-- The same for several arguments in a row. -/
def captureAll (log : Log) : List Argument → Log × List LogValue
  | [] => (log, [])
  | argument :: rest =>
    let (log, value) := capture log argument
    let (log, values) := captureAll log rest
    (log, value :: values)

/-- The log after a value has been asked for its own text, and the text that is shown for it. -/
def display (log : Log) : OwnText → Log × String
  | .given during text => (recordAll log during, text)
  | .thrown during debug => (recordAll log during, debug)

end

end Log

end FencedCode
