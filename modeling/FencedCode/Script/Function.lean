import FencedCode.Script.Names
import FencedCode.Script.Operation

/-!
# Functions

How functions are made and called.  A call binds the parameters and everything the body declares in
a new scope, and then runs the body: at once, up to its first wait, or on demand.
-/

namespace FencedCode.Script

open Text

namespace Run

/-! ### Making functions -/

/-- The properties of a function: its length, its name, and the parent of what it makes. -/
def functionProperties (node : FunctionNode) : Properties :=
  let properties : Properties := {}
  (properties.put "length" (.readOnly (.ofNat node.length))).put "name" (.readOnly node.name)

/-- Makes a function of the code. -/
def makeClosure (index : Nat) (scopes : List ScopeRef) (home : Option Ref := none) : Run Ref := do
  let node ← functionAt index
  let own ← if node.namesItself then some <$> allocateScope {} else pure none
  let scopes := own.toList ++ scopes
  let ref ← allocate
    { kind := .closure { function := index, scopes, home }
      parent := some Intrinsic.functionPrototype, properties := functionProperties node }
  match own with
  | some scope => bind scope node.name { value := some (.object ref), kind := .ownName }
  | none => pure ()
  match node.role, node.mode with
  | .ordinary, .direct =>
    let prototype ← makeObject
    putProperty prototype "constructor" (.unlisted (.object ref))
    putProperty ref "prototype"
      { content := .data (.object prototype) true, enumerable := false, configurable := false }
  | _, .generator =>
    let prototype ← allocate { parent := some Intrinsic.generatorPrototype }
    putProperty ref "prototype"
      { content := .data (.object prototype) true, enumerable := false, configurable := false }
  | _, _ => pure ()
  return ref

/-- Gives a function a name, in front of which a word may stand. -/
def setFunctionName (ref : Ref) (key : PropertyKey) (mark : String := "") : Run Unit := do
  let name : Units := match key with
    | .symbol symbol =>
      match symbol.description with
      | some text => ("[" : Units) ++ text ++ "]"
      | none => .empty
    | .hidden name => ("#" ++ name : String)
    | key => key.toUnits
  let name := if mark.isEmpty then name else (mark ++ " " : String) ++ name
  putProperty ref "name" (.readOnly (.string name))

/-- Binds what a block declares in the innermost scope. -/
def declareBlock (context : Context) (declared : Declared) : Run Unit := do
  match context.scopes.head? with
  | none => return
  | some scope =>
    let bindings := declared.names.map fun (name, kind) =>
      let kind : BindingKind := match kind with
        | .variable => .variable
        | .constant => .constant
      (name, ({ value := none, kind } : Binding))
    changeScope scope fun scope => { scope with bindings := bindings ++ scope.bindings }
    for (name, index) in declared.functions do
      let ref ← makeClosure index context.scopes
      bind scope name { value := some (.object ref) }

/-- Runs statements one after the other, up to one that does not complete normally. -/
def executeAll (context : Context) : List Statement → Run Completion
  | [] => return .normal
  | statement :: rest => do
    match ← execute context statement with
    | .normal => executeAll context rest
    | completion => return completion

/-- Runs statements in a block of their own. -/
def executeBlock (context : Context) (statements : List Statement)
    (bindings : List (String × Binding) := []) : Run Completion := do
  let declared := Statement.declared statements
  if declared.names.isEmpty && declared.functions.isEmpty && bindings.isEmpty then
    executeAll context statements
  else
    let inner ← enter context bindings
    declareBlock inner declared
    executeAll inner statements

/-! ### Binding parameters -/

inductive BindMode where
  /-- It assigns to names that exist. -/
  | assign
  /-- It gives names of the innermost scope their first value. -/
  | first (kind : BindingKind)

/-- The name of a property in an expression. -/
def evaluateKey (context : Context) : Key → Run PropertyKey
  | .fixed text => return .ofText text
  | .computed expr => do toKey (← evaluate context expr)
  | .hidden name => return .hidden name

/-- Assigns a value to a hidden member. -/
def setHidden (base : Value) (name : String) (value : Value) : Run Unit := do
  match base with
  | .object ref =>
    match ← own? ref (.hidden name) with
    | some { content := .data _ true, .. } => putProperty ref (.hidden name) (.plain value)
    | some { content := .accessor _ (some setter), .. } =>
      let _ ← call (.object setter) base [value]
    | some _ => throwType "cannot assign to a private method"
    | none => throwType ("private member '#" ++ name ++ "' is not defined")
  | _ => throwType "cannot set a private member of a value that is no object"

/-- Assigns a value to the place that an expression names. -/
def assignPlace (context : Context) (target : Expr) (value : Run Value) : Run Value := do
  match target with
  | .name name =>
    let value ← value
    writeName context name value
    return value
  | .member base (.hidden name) =>
    let object ← evaluate context base
    let value ← value
    setHidden object name value
    return value
  | .member base key =>
    let object ← evaluate context base
    match key with
    | .computed expr =>
      let key ← evaluate context expr
      let value ← value
      if object.isMissing then throwMissing
      setMember object (← toKey key) value context.strict
      return value
    | key =>
      let key ← evaluateKey context key
      let value ← value
      setMember object key value context.strict
      return value
  | .superMember key =>
    let key ← evaluateKey context key
    let value ← value
    setMember (← readThis context) key value context.strict
    return value
  | _ => throwNew .syntaxError "invalid assignment target"

/-- A value, or a default in the place of a missing one. -/
def orDefault (context : Context) (value : Value) (default : Expr) : Run Value :=
  match value with
  | .undefined => evaluate context default
  | value => return value

/-- Takes the next value of an iterator; none behind the last one. -/
def nextOf (source : Source) (isDone : Bool) : Run (Option Value) := do
  if isDone then return none
  match ← advance source with
  | .inl value => return some value
  | .inr _ => return none

/-- The next element for an array pattern: a missing value where there is none. -/
def elementOf (next : Option Value) : Value := next.getD .undefined

/-- Gives a value to a pattern, with a limit to the depth of the pattern. -/
def bindPattern : (limit : Nat) → Context → BindMode → Pattern → Value → Run Unit
  | 0, _, _, _, _ => throw .exhausted
  | limit + 1, context, mode, pattern, value => do
    match pattern with
    | .hole => return
    | .name name =>
      match mode with
      | .assign => writeName context name value
      | .first kind => bindFirst context kind name value
    | .place target =>
      let _ ← assignPlace context target (return value)
    | .orElse target default =>
      bindPattern limit context mode target (← orDefault context value default)
    | .field _ target | .rest target => bindPattern limit context mode target value
    | .array elements =>
      let source ← openSource value
      let isDone ← catchThrown
        (elements.foldlM
          (fun isDone element => do
            match element with
            | .rest target =>
              let values ← loop (#[] : Array Value) fun values => do
                match ← nextOf source isDone with
                | some next => return .inl (values.push next)
                | none => return .inr values
              bindPattern limit context mode target (← makeArray values.toList)
              return true
            | element =>
              let next ← nextOf source isDone
              bindPattern limit context mode element (elementOf next)
              return isDone || next.isNone)
          false)
        (closeAfterThrow source)
      if !isDone then closeSource source
    | .object fields =>
      requirePresent value
      let _ ← fields.foldlM
        (fun seen field => do
          match field with
          | .field key target =>
            let key ← evaluateKey context key
            bindPattern limit context mode target (← getMember value key)
            return key :: seen
          | .rest target =>
            let ref ← makeObject
            copyProperties ref value seen
            bindPattern limit context mode target (.object ref)
            return seen
          | _ => return seen)
        ([] : List PropertyKey)

/-- How deeply patterns can be nested. -/
def patternLimit : Nat := 2000

/-- Gives arguments to parameters in order. -/
def bindParameters (context : Context) : List Pattern → List Value → Run Unit
  | [], _ => return
  | .rest target :: _, values => do
    bindPattern patternLimit context (.first .variable) target (← makeArray values)
  | parameter :: rest, values => do
    bindPattern patternLimit context (.first .variable) parameter (values.headD .undefined)
    bindParameters context rest values.tail

/-- The object that holds the arguments of a call. -/
def makeArguments (values : List Value) : Run Value := do
  let properties : Properties := {}
  let properties := values.foldl
    (fun (place, properties) value =>
      (place + 1, properties.put (.index place) (Property.plain value)))
    ((0, properties) : Nat × Properties)
  let ref ← allocate
    { kind := .arguments, parent := some Intrinsic.objectPrototype
      properties := properties.2.put "length" (.unlisted (.ofNat values.length)) }
  putProperty ref Symbol.iterator
    (.unlisted (← getProperty Intrinsic.arrayPrototype "values"))
  return .object ref

/-! ### Calls -/

/-- The value of `this` for a function that is not strict: an object in any case. -/
def looseThis (this : Value) : Run Value := do
  if this.isMissing then return .object Intrinsic.globalObject
  return .object (← toObject this)

/-- Opens the scope of a call and binds the parameters and what the body declares. -/
def enterFunction (node : FunctionNode) (closure : Closure) (activation : Option Activation)
    (arguments : List Value) : Run Context := do
  let scope ← allocateScope { activation }
  let context : Context :=
    { scopes := scope :: closure.scopes, locals := scope, strict := node.strict }
  if node.usesArguments && !node.parameterNames.contains "arguments" then
    bind scope "arguments" { value := some (← makeArguments arguments) }
  let isSimple := node.parameters.all fun | .name _ => true | _ => false
  if !isSimple then
    node.parameterNames.forM fun name => bind scope name { value := none }
  bindParameters context node.parameters arguments
  let held := (← fetchScope scope).bindings
  let fresh := node.locals.filter fun name => (held.lookup name).isNone
  changeScope scope fun scope =>
    { scope with
      bindings := scope.bindings ++ fresh.map fun name => (name, { value := some .undefined }) }
  declareBlock context (Statement.declared node.body)
  return context

/-- The value that a body returns. -/
def resultOf : Completion → Value
  | .returned value => value
  | _ => .undefined

def makePromise (state : PromiseState) : Run Value := do
  return .object (← allocate
    { kind := .promise state, parent := some Intrinsic.promisePrototype })

/-- A promise for the value of a part of a run; it stays open if the part waits. -/
def promiseOf (part : Run Value) : Run Value := do
  let state ← tryCatch (PromiseState.fulfilled <$> part) fun
    | .thrown reason => return .rejected reason
    | .waiting => return .pending
    | .exhausted => throw .exhausted
  makePromise state

/-- The parent of what a function makes. -/
def prototypeFor (constructor : Ref) (default : Ref) : Run Ref := do
  match ← getProperty constructor "prototype" with
  | .object prototype => return prototype
  | _ => return default

/-- Runs the body of a function in the scope of a call. -/
def runBody (callee : Ref) (node : FunctionNode) (enter : Run Context) : Run Value := do
  match node.mode with
  | .direct =>
    let context ← enter
    return resultOf (← executeAll context node.body)
  | .async =>
    promiseOf do
      let context ← enter
      return resultOf (← executeAll context node.body)
  | .generator =>
    let context ← enter
    let parent ← prototypeFor callee Intrinsic.generatorPrototype
    return .object (← allocate
      { kind := .generator (.stopped [.statements node.body context] none), parent := some parent })

/-- Calls a function of the code. -/
def callClosure (callee : Ref) (closure : Closure) (this : Value) (arguments : List Value) :
    Run Value := do
  let node ← functionAt closure.function
  match node.role with
  | .baseConstructor | .derivedConstructor =>
    throwType "class constructor cannot be invoked without 'new'"
  | .arrow => runBody callee node (enterFunction node closure none arguments)
  | _ =>
    let this ← if node.strict then pure this else looseThis this
    let activation : Activation := { this := some this, callee, newTarget := none }
    runBody callee node (enterFunction node closure (some activation) arguments)

/-- Gives an object the fields of a class. -/
def makeFields (object : Ref) (fields : List Field) : Run Unit := do
  for field in fields do
    match field.method with
    | some method => putProperty object field.key method
    | none =>
      let value ← match field.value with
        | some function => call (.object function) (.object object) []
        | none => pure .undefined
      match field.key with
      | .hidden _ => putProperty object field.key (.plain value)
      | key => createProperty object key value

/-- Makes an object with a function of the code. -/
def constructClosure (callee : Ref) (closure : Closure) (arguments : List Value) (newTarget : Ref) :
    Run Value := do
  let node ← functionAt closure.function
  let isDerived := node.role == .derivedConstructor
  let made ← if isDerived then pure none
    else
      let parent ← prototypeFor newTarget Intrinsic.objectPrototype
      let ref ← allocate { parent := some parent }
      makeFields ref closure.fields
      pure (some (Value.object ref))
  let activation : Activation := { this := made, callee, newTarget := some newTarget }
  let context ← enterFunction node closure (some activation) arguments
  match resultOf (← executeAll context node.body), made with
  | .object ref, _ => return .object ref
  | _, some value => return value
  | .undefined, none => readThis context
  | _, none => throwType "derived constructor can only return an object or undefined"

/-- Whether a value can be used with `new`. -/
def isConstructor (value : Value) : Run Bool := do
  match value with
  | .object ref =>
    match ← kindOf (← behindBound proxyLimit (← behindProxies proxyLimit ref)) with
    | .closure closure =>
      let node ← functionAt closure.function
      match node.role with
      | .ordinary => return node.mode == .direct
      | .baseConstructor | .derivedConstructor => return true
      | _ => return false
    | .native function =>
      match function with
      | .object .construct | .function .construct | .error _ | .array .construct
      | .string .construct | .number .construct | .primitive .constructBoolean
      | .collection _ .construct | .promise .construct | .regexp .construct | .proxy => return true
      | _ => return false
    | _ => return false
  | _ => return false

end Run

end FencedCode.Script
