/-!
# Behaviours

All that a run of a script leaves behind is the calls it makes to its console and the way it ends.
The arguments of a call are known by what comes of them when they are turned into text.  That may run
code of the script, and such code may call the console itself, so that calls form trees.
-/

namespace FencedCode

mutual

/-- A call that a script makes to a method of its console. -/
inductive ConsoleCall where
  | call (method : String) (arguments : List Argument)

/-- A value that a script hands to its console. -/
inductive Argument where
  | primitive (own : OwnText)
  | function (own : OwnText)
  /-- Any other object.  It is asked for structured text first. -/
  | object (structured : StructuredText)

/-- What comes of asking a value for its own text. -/
inductive OwnText where
  | given (during : List ConsoleCall) (text : String)
  /-- The value throws when it is asked, and a form for debugging is shown in place of the text. -/
  | thrown (during : List ConsoleCall) (debug : String)

/-- What comes of asking an object for structured text. -/
inductive StructuredText where
  /-- The object may have no such text without throwing anything. -/
  | given (during : List ConsoleCall) (text : Option String)
  /-- The object throws when it is asked.  It is asked for its own text then. -/
  | thrown (during : List ConsoleCall) (own : OwnText)

end

inductive Ending where
  /-- The script came to its end. -/
  | returned
  /-- The script threw a value, or it is no script at all. -/
  | failed (message : String)
deriving DecidableEq, Repr

/-- What a run of a script does. -/
structure Behaviour where
  /-- The calls in order.  Those made while a thrown value is turned into its message come last. -/
  calls : List ConsoleCall := []
  ending : Ending := .returned

end FencedCode
