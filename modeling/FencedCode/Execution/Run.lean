import FencedCode.Execution.Console
import FencedCode.Registry
import FencedCode.TypeErasure

/-!
# Running a block

A block runs if its alias names a runnable language.  What is run is the source, without its types
if the language has them.  The outcome is always a list of entries: those that the log holds in the
end, and then the failure if there was one; a run that leaves nothing behind says so.

The definitions here take the engine as a parameter, since they hold for any.
-/

namespace FencedCode

/-- Gives every source a behaviour. -/
abbrev Engine := String → Behaviour

namespace Language

/-- The source that an engine gets for a block. -/
def executableSource (language : Language) (source : String) : String :=
  if language.stripsTypes then eraseTypes source else source

end Language

namespace Behaviour

/-- The entry of a run that has left no other. -/
def nothingWritten : LogEntry := .message .info "✓ Code executed successfully (no output)"

/-- The entries that a behaviour leaves behind. -/
def entries (behaviour : Behaviour) : List LogEntry :=
  let written := (Log.recordAll {} behaviour.calls).entries
  match behaviour.ending with
  | .failed message => written ++ [.message .error message]
  | .returned => if written.isEmpty then [nothingWritten] else written

end Behaviour

namespace Registry

/-- The runnable language of an alias. -/
def resolveRunnable? (registry : Registry) (name : String) : Option Language :=
  (registry.resolve? name).filter (·.runnable)

/-- The entry for a block that cannot be run. -/
def notRunnable (name : String) : LogEntry :=
  .message .error ("Language '" ++ name ++ "' cannot be run")

/-- Runs a block with an engine. -/
def executeWith (engine : Engine) (registry : Registry) (source name : String) : List LogEntry :=
  match registry.resolveRunnable? name with
  | some language => (engine (language.executableSource source)).entries
  | none => [notRunnable name]

end Registry

end FencedCode
