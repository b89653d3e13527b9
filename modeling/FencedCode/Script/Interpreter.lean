import FencedCode.Script.Execute
import FencedCode.Script.Evaluate
import FencedCode.Script.Invocation
import FencedCode.Script.Realm
import FencedCode.Execution.Run

/-!
# Running scripts

The parts of the semantics put together.  The entry points at a depth run on those of the depth below,
and at depth zero a run is cut short; a script that is not nested too deeply never gets there.

A script is the body of a function with the console as its only parameter.  Nothing that it leaves
waiting is ever taken up again.
-/

namespace FencedCode.Script

open Text

namespace Semantics

/-- The entry points at a depth. -/
def upTo : (depth : Nat) → Semantics
  | 0 =>
    { evaluate := fun _ _ => throw .exhausted
      execute := fun _ _ _ => throw .exhausted
      call := fun _ _ _ => throw .exhausted
      construct := fun _ _ _ => throw .exhausted }
  | depth + 1 =>
    let below := upTo depth
    { evaluate := fun context expr => Run.evaluateForm context expr below
      execute := fun context labels statement => Run.executeForm context labels statement below
      call := fun callee this arguments => Run.callValue callee this arguments below
      construct := fun callee arguments newTarget =>
        Run.constructValue callee arguments newTarget below }

end Semantics

/-- How deeply a run can be nested. -/
def depthLimit : Nat := 8000

/-- What is reported of a text that is no script. -/
def malformed : String := "SyntaxError: the source is not a script"

/-- What is reported of a run that is nested too deeply. -/
def tooDeep : String := "RuntimeLimit: exceeded maximum number of recursive calls"

namespace Run

/-- Calls the function that is last in the code with the console. -/
def runLast : Run Unit := do
  setUp
  let console ← makeConsole
  let function ← makeClosure ((← get).code.functions.size - 1) []
  let _ ← call (.object function) .undefined [console]

/-- Runs the script, and gives the text of what it throws. -/
def runReporting : Run Ending := do
  tryCatch (do
      runLast
      return .returned)
    fun
      | .thrown value => return .failed (← describe value)
      | .waiting => return .returned
      | .exhausted => return .failed tooDeep

end Run

/-- The behaviour that a run has shown when it is over. -/
def shownBy : EStateM.Result Interrupt Machine Ending → Behaviour
  | .ok ending machine => { calls := machine.calls.reverse, ending }
  | .error _ machine => { calls := machine.calls.reverse, ending := .failed tooDeep }

/-- The behaviour of code whose last function is the script. -/
def behaviourOf (semantics : Semantics) (code : Code) : Behaviour :=
  shownBy ((Run.runReporting semantics).run { code })

/-- The behaviour of a script. -/
def run : Engine := fun source =>
  match Code.parseBody? ["console"] {} source with
  | some code => behaviourOf (Semantics.upTo depthLimit) code
  | none => { ending := .failed malformed }

end FencedCode.Script
