import FencedCode.Script.Evaluate

/-!
# Running statements

The completion of each form of statement.  A loop consumes the jumps that are meant for it: those
without a label, and those to continue at one of its own labels.
-/

namespace FencedCode.Script

open Text

namespace Run

/-- How names of a declaration may be assigned. -/
def bindingKind : NameKind → BindingKind
  | .variable => .variable
  | .constant => .constant

/-- Gives the targets of a declaration their values.  A declaration by `var` without a value leaves
the name as it is. -/
def declareAll (context : Context) (mode : BindMode) (declarations : List Declaration) :
    Run Unit := do
  for declaration in declarations do
    match declaration.value, mode with
    | some expr, _ =>
      bindPattern patternLimit context mode declaration.target (← evaluate context expr)
    | none, .assign => pure ()
    | none, mode => bindPattern patternLimit context mode declaration.target .undefined

/-- Gives a function of a block to the variable of its name. -/
def shareFunction (context : Context) (name : String) : Run Unit := do
  match context.scopes.head? with
  | some scope =>
    if scope == context.locals then return
    match (← fetchScope scope).bindings.lookup name with
    | some { value := some value, .. } =>
      if ((← fetchScope context.locals).bindings.lookup name).isSome then
        bind context.locals name { value := some value }
    | _ => return
  | none => return

/-! ### Loops -/

/-- What a loop does behind a round. -/
inductive AfterRound where
  | goOn
  | stop (completion : Completion)

/-- What a loop with some labels does behind a round that completes in a way. -/
def afterRound (labels : List String) : Completion → AfterRound
  | .normal | .continued none => .goOn
  | .continued (some label) =>
    if labels.contains label then .goOn else .stop (.continued (some label))
  | .broken none => .stop .normal
  | completion => .stop completion

/-- A loop with its condition in front. -/
def executeWhile (context : Context) (labels : List String) (condition : Expr) (body : Statement) :
    Run Completion :=
  loop () fun _ => do
    if !(← evaluate context condition).isTrue then return .inr .normal
    match afterRound labels (← execute context body) with
    | .goOn => return .inl ()
    | .stop completion => return .inr completion

/-- A loop with its condition behind. -/
def executeDoWhile (context : Context) (labels : List String) (body : Statement)
    (condition : Expr) : Run Completion :=
  loop () fun _ => do
    match afterRound labels (← execute context body) with
    | .goOn =>
      if (← evaluate context condition).isTrue then return .inl ()
      return .inr .normal
    | .stop completion => return .inr completion

/-- A context in which the names of the innermost scope are bound anew to their values. -/
def renewScope (context : Context) (names : List String) : Run Context := do
  match context.scopes with
  | scope :: outer =>
    if names.isEmpty then return context
    let fresh ← allocateScope (← fetchScope scope)
    return { context with scopes := fresh :: outer }
  | [] => return context

/-- The names that the start of a loop binds for each round. -/
def namesOfStart : Statement → List (String × NameKind)
  | .declare kind names _ => names.map (·, kind)
  | _ => []

/-- Opens the scope of a counting loop and runs its start; the names to renew for each round. -/
def startLoop (context : Context) (start : Statement) : Run (Context × List String) := do
  let names := namesOfStart start
  let inner ← if names.isEmpty then pure context
    else enter context (names.map fun (name, kind) =>
      (name, { value := none, kind := bindingKind kind }))
  let _ ← execute inner start
  let renewed := (names.filter fun (_, kind) => kind == .variable).map (·.1)
  return (← renewScope inner renewed, renewed)

/-- Whether a loop goes on; one without a condition does. -/
def holds (context : Context) (condition : Option Expr) : Run Bool := do
  match condition with
  | some condition => return (← evaluate context condition).isTrue
  | none => return true

def executeFor (context : Context) (labels : List String) (start : Statement)
    (condition update : Option Expr) (body : Statement) : Run Completion := do
  let (context, names) ← startLoop context start
  loop context fun context => do
    if !(← holds context condition) then return .inr .normal
    match afterRound labels (← execute context body) with
    | .goOn =>
      let context ← renewScope context names
      match update with
      | some update =>
        let _ ← evaluate context update
      | none => pure ()
      return .inl context
    | .stop completion => return .inr completion

/-- The keys of an object and its parents that a loop goes through. -/
def keysFrom : (limit : Nat) → Ref → List PropertyKey → Run (List PropertyKey)
  | 0, _, _ => return []
  | limit + 1, ref, seen => do
    let keys := (← ownKeys ref).filter fun key => key.isText && !seen.contains key
    let listed ← keys.filterM fun key => return (← own? ref key).any (·.enumerable)
    match ← parentOf ref with
    | some parent => return listed ++ (← keysFrom limit parent (seen ++ keys))
    | none => return listed

/-- The keys that a loop over a value goes through. -/
def loopKeys (value : Value) : Run (List Value) := do
  if value.isMissing then return []
  let ref ← toObject value
  return (← keysFrom (← chainLimit) ref []).map (·.toValue)

/-- The context in which the source of a loop is evaluated: the names of the loop have no value. -/
def headContext (context : Context) (head : LoopHead) : Run Context := do
  match head with
  | .declare _ names _ => enter context (names.map fun name => (name, { value := none }))
  | _ => return context

/-- Binds the next key or value, and gives the context of the round. -/
def bindHead (context : Context) (head : LoopHead) (value : Value) : Run Context := do
  match head with
  | .declareVar target | .assign target =>
    bindPattern patternLimit context .assign target value
    return context
  | .declare kind names target =>
    let inner ← enter context (names.map fun name => (name, { value := none }))
    bindPattern patternLimit inner (.first (bindingKind kind)) target value
    return inner

def executeForIn (context : Context) (labels : List String) (head : LoopHead) (source : Expr)
    (body : Statement) : Run Completion := do
  let object ← evaluate (← headContext context head) source
  loop (← loopKeys object) fun keys => do
    match keys with
    | [] => return .inr .normal
    | key :: rest =>
      let isThere ← match object with
        | .object ref => hasProperty ref (← toKey key)
        | _ => pure true
      if !isThere then return .inl rest
      let round ← bindHead context head key
      match afterRound labels (← execute round body) with
      | .goOn => return .inl rest
      | .stop completion => return .inr completion

def executeForOf (context : Context) (labels : List String) (head : LoopHead) (source : Expr)
    (body : Statement) : Run Completion := do
  let iterable ← evaluate (← headContext context head) source
  let source ← openSource iterable
  loop () fun _ => do
    match ← advance source with
    | .inr _ => return .inr .normal
    | .inl value =>
      let round : Run Completion := do
        execute (← bindHead context head value) body
      let completion ← catchThrown round (closeAfterThrow source)
      match afterRound labels completion with
      | .goOn => return .inl ()
      | .stop completion =>
        closeSource source
        return .inr completion

/-! ### Choices -/

/-- The statements from the case on that a value chooses. -/
def casesFrom (context : Context) (subject : Value) : List Case → Run (Option (List Case))
  | [] => return none
  | .mk (some test) body :: rest => do
    if subject.strictlyEqual (← evaluate context test) then return some (.mk (some test) body :: rest)
    casesFrom context subject rest
  | .mk none _ :: rest => casesFrom context subject rest

/-- The statements of cases, one after the other. -/
def bodiesOf (cases : List Case) : List Statement := cases.flatMap fun ⟨_, body⟩ => body

/-- The statements that a switch runs, with the context of its block. -/
def chooseCase (context : Context) (subject : Expr) (cases : List Case) :
    Run (Context × List Statement) := do
  let subject ← evaluate context subject
  let inner ← enter context []
  declareBlock inner (Statement.declared (bodiesOf cases))
  match ← casesFrom inner subject cases with
  | some chosen => return (inner, bodiesOf chosen)
  | none => return (inner, bodiesOf (cases.dropWhile fun ⟨test, _⟩ => test.isSome))

/-- Runs a handler on a thrown value. -/
def executeHandler (context : Context) (handler : Handler) (value : Value) : Run Completion := do
  let ⟨parameter, names, body⟩ := handler
  let inner ← enter context (names.map fun name => (name, { value := none }))
  match parameter with
  | some target => bindPattern patternLimit inner (.first .variable) target value
  | none => pure ()
  executeBlock inner body

/-- A body with a handler and a finalizer, which decides how the statement ends unless it completes
normally. -/
def executeTry (context : Context) (body : List Statement) (handler : Option Handler)
    (finalizer : List Statement) : Run Completion := do
  let first ← outcome (executeBlock context body)
  let second ← match first, handler with
    | .thrown value, some handler => outcome (executeHandler context handler value)
    | first, _ => pure first
  match ← executeBlock context finalizer with
  | .normal => settle second
  | completion => return completion

/-- The completion of a statement, from those of its parts. -/
def executeForm (context : Context) (labels : List String) (statement : Statement) :
    Run Completion := do
  match statement with
  | .empty | .function .. => return .normal
  | .expression expr =>
    let _ ← evaluate context expr
    return .normal
  | .declareVar declarations =>
    declareAll context .assign declarations
    return .normal
  | .declare kind _ declarations =>
    declareAll context (.first (bindingKind kind)) declarations
    return .normal
  | .class name index =>
    bindFirst context .variable name (← evaluate context (.class index))
    return .normal
  | .share name =>
    shareFunction context name
    return .normal
  | .return value =>
    match value with
    | some expr => return .returned (← evaluate context expr)
    | none => return .returned .undefined
  | .throw value => throwValue (← evaluate context value)
  | .break label => return .broken label
  | .continue label => return .continued label
  | .block statements => executeBlock context statements
  | .branch condition yes no =>
    if (← evaluate context condition).isTrue then execute context yes else execute context no
  | .while condition body => executeWhile context labels condition body
  | .doWhile body condition => executeDoWhile context labels body condition
  | .for start condition update body => executeFor context labels start condition update body
  | .forIn head source body => executeForIn context labels head source body
  | .forOf head source body => executeForOf context labels head source body
  | .switch subject cases =>
    let (inner, statements) ← chooseCase context subject cases
    match ← executeAll inner statements with
    | .broken none => return .normal
    | completion => return completion
  | .labelled label body =>
    match ← execute context body (label :: labels) with
    | .broken (some target) => return if target == label then .normal else .broken (some target)
    | completion => return completion
  | .try body handler finalizer => executeTry context body handler finalizer
  | .resumable statement => execute context statement labels
  | .yield .. | .yieldAll .. => return .normal

end Run

end FencedCode.Script
