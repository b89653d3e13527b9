import FencedCode.Script.Convert

/-!
# Names

A name stands for what the innermost scope that binds it says, and otherwise for a property of the
global object.  A name that a block declares further down is bound but has no value yet.
-/

namespace FencedCode.Script

open Text

namespace Run

/-- The binding of a name, with its scope. -/
def findBinding? (name : String) : List ScopeRef → Run (Option (ScopeRef × Binding))
  | [] => return none
  | ref :: outer => do
    match (← fetchScope ref).bindings.lookup name with
    | some binding => return some (ref, binding)
    | none => findBinding? name outer

/-- Replaces the binding of a name in a list of them, or adds one. -/
def putBinding (name : String) (binding : Binding) :
    List (String × Binding) → List (String × Binding)
  | [] => [(name, binding)]
  | (other, held) :: rest =>
    if other == name then (name, binding) :: rest
    else (other, held) :: putBinding name binding rest

/-- Binds a name in a scope. -/
def bind (ref : ScopeRef) (name : String) (binding : Binding) : Run Unit :=
  changeScope ref fun scope => { scope with bindings := putBinding name binding scope.bindings }

/-- Throws because a name has no value yet. -/
def throwUninitialized {α : Type} : Run α :=
  throwNew .referenceError "access of uninitialized binding"

/-- Throws because nothing has a name. -/
def throwUndeclared {α : Type} (name : String) : Run α :=
  throwNew .referenceError (name ++ " is not defined")

/-- The value of a name, if it stands for anything. -/
def readName? (context : Context) (name : String) : Run (Option Value) := do
  match ← findBinding? name context.scopes with
  | some (_, binding) =>
    match binding.value with
    | some value => return some value
    | none => throwUninitialized
  | none =>
    if ← hasProperty Intrinsic.globalObject name then
      return some (← getProperty Intrinsic.globalObject name)
    return none

/-- The value of a name. -/
def readName (context : Context) (name : String) : Run Value := do
  match ← readName? context name with
  | some value => return value
  | none => throwUndeclared name

/-- Assigns a value to a name. -/
def writeName (context : Context) (name : String) (value : Value) : Run Unit := do
  match ← findBinding? name context.scopes with
  | some (ref, binding) =>
    match binding.value, binding.kind with
    | none, _ => throwUninitialized
    | some _, .variable => bind ref name { binding with value := some value }
    | some _, .constant => throwType ("cannot mutate an immutable binding '" ++ name ++ "'")
    | some _, .ownName =>
      if context.strict then throwType ("cannot mutate an immutable binding '" ++ name ++ "'")
  | none =>
    if context.strict && !(← hasProperty Intrinsic.globalObject name) then throwUndeclared name
    setMember (.object Intrinsic.globalObject) name value context.strict

/-- Gives a name of the innermost scope its first value. -/
def bindFirst (context : Context) (kind : BindingKind) (name : String) (value : Value) :
    Run Unit := do
  match context.scopes.head? with
  | some ref => bind ref name { value := some value, kind }
  | none => return

/-- A context with a new scope inside. -/
def enter (context : Context) (bindings : List (String × Binding)) : Run Context := do
  let ref ← allocateScope { bindings }
  return { context with scopes := ref :: context.scopes }

/-- The call in whose function a statement is run, with its scope. -/
def findActivation? : List ScopeRef → Run (Option (ScopeRef × Activation))
  | [] => return none
  | ref :: outer => do
    match (← fetchScope ref).activation with
    | some activation => return some (ref, activation)
    | none => findActivation? outer

def readThis (context : Context) : Run Value := do
  match ← findActivation? context.scopes with
  | some (_, { this := some value, .. }) => return value
  | some (_, { this := none, .. }) =>
    throwNew .referenceError "Must call super constructor before accessing 'this'"
  | none => return .undefined

/-- The object whose properties `super` stands for. -/
def superObject (context : Context) : Run (Option Ref) := do
  match ← findActivation? context.scopes with
  | some (_, activation) =>
    match ← kindOf activation.callee with
    | .closure closure =>
      match closure.home with
      | some home => parentOf home
      | none => return none
    | _ => return none
  | none => return none

end Run

end FencedCode.Script
