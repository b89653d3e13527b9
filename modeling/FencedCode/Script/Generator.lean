import FencedCode.Script.Execute

/-!
# Generators

A generator runs its body from one yield to the next.  Between them, what is still to be done is kept
as a list of frames, the innermost first.  Only statements in which the generator can stop are taken
apart into frames; all others are run as usual.

Each step looks at the innermost frame and at how the statement inside it has ended.
-/

namespace FencedCode.Script

open Text

/-- What a generator is resumed with. -/
inductive Resumption where
  | next (value : Value)
  | throw (value : Value)
  | return (value : Value)

/-- The result of a step of a generator. -/
inductive Stride where
  /-- Goes on with frames, inside which a statement has ended in a way. -/
  | on (frames : List Frame) (outcome : Outcome)
  /-- Stops and hands out a value; the name is bound to what it is resumed with. -/
  | stop (frames : List Frame) (value : Value) (resumed : Option (String × Context))
  /-- Is at its end, with a result. -/
  | finish (outcome : Outcome)

namespace Run

/-- A statement that has completed normally. -/
def passed : Outcome := .completed .normal

/-- Tests a loop, and enters its body if it goes on. -/
def testLoop (condition update : Option Expr) (body : Statement) (names : List String)
    (context : Context) (labels : List String) (frames : List Frame) : Run Stride := do
  if ← holds context condition then
    return .on (.statements [body] context :: .loop condition update body names context labels
      :: frames) passed
  return .on frames passed

/-- Enters a statement in which the generator can stop. -/
def enterStatement (context : Context) (labels : List String) (statement : Statement)
    (frames : List Frame) : Run Stride := do
  match statement with
  | .block statements =>
    let inner ← enter context []
    declareBlock inner (Statement.declared statements)
    return .on (.statements statements inner :: frames) passed
  | .branch condition yes no =>
    let chosen := if (← evaluate context condition).isTrue then yes else no
    return .on (.statements [chosen] context :: frames) passed
  | .while condition body => testLoop (some condition) none body [] context labels frames
  | .doWhile body condition =>
    return .on (.statements [body] context :: .loop (some condition) none body [] context labels
      :: frames) passed
  | .for start condition update body =>
    let (inner, names) ← startLoop context start
    testLoop condition update body names inner labels frames
  | .forIn head source body =>
    let object ← evaluate (← headContext context head) source
    return .on (.each head (.keys (← loopKeys object)) body context labels :: frames) passed
  | .forOf head source body =>
    let iterable ← evaluate (← headContext context head) source
    return .on (.each head (.values (← openSource iterable)) body context labels :: frames) passed
  | .switch subject cases =>
    let (inner, statements) ← chooseCase context subject cases
    return .on (.statements statements inner :: .breakable [] :: frames) passed
  | .labelled label body =>
    enterStatement context (label :: labels) body (.breakable [label] :: frames)
  | .resumable statement => enterStatement context labels statement frames
  | .try body handler finalizer =>
    let inner ← enter context []
    declareBlock inner (Statement.declared body)
    return .on (.statements body inner :: .guarded handler finalizer context :: frames) passed
  | statement =>
    return .on frames (.completed (← execute context statement labels))

/-- Runs the next statement of a block. -/
def strideStatements (context : Context) (frames : List Frame) : List Statement → Run Stride
  | [] => return .on frames passed
  | statement :: rest => do
    let frames := Frame.statements rest context :: frames
    match statement with
    | .yield name value => return .stop frames (← evaluate context value) (some (name, context))
    | .yieldAll name value =>
      let source ← openSource (← evaluate context value)
      return .on (.delegate source name context :: frames) passed
    | .resumable statement => enterStatement context [] statement frames
    | statement => return .on frames (.completed (← execute context statement))

/-- Goes on with a loop over keys or values. -/
def strideEach (head : LoopHead) (series : Series) (body : Statement) (context : Context)
    (labels : List String) (frames : List Frame) : Run Stride := do
  let round (value : Value) (series : Series) : Run Stride := do
    let inner ← bindHead context head value
    return .on (.statements [body] inner :: .each head series body context labels :: frames) passed
  match series with
  | .keys [] => return .on frames passed
  | .keys (key :: rest) => round key (.keys rest)
  | .values source =>
    match ← advance source with
    | .inr _ => return .on frames passed
    | .inl value => catchThrown (round value (.values source)) (closeAfterThrow source)

/-- Ends a loop over keys or values early. -/
def endEach (series : Series) (frames : List Frame) (outcome : Outcome) : Run Stride := do
  match series, outcome with
  | .values source, .thrown value => closeAfterThrow source value
  | .values source, outcome =>
    closeSource source
    return .on frames outcome
  | .keys _, outcome => return .on frames outcome

/-- Hands on what the generator is resumed with to the iterator whose values it hands out. -/
def strideDelegate (source : Source) (name : String) (context : Context) (frames : List Frame)
    (resumption : Resumption) : Run Stride := do
  let finish (value : Value) : Run Stride := do
    writeName context name value
    return .on frames passed
  let hold (value : Value) : Stride :=
    .stop (.delegate source name context :: frames) value none
  let proceed (method : Value) (sent : Value) : Run (Value ⊕ Value) :=
    advance { source with next := method } [sent]
  match resumption with
  | .next value =>
    match ← proceed source.next value with
    | .inl value => return hold value
    | .inr value => finish value
  | .throw value =>
    match ← getMethod source.iterator "throw" with
    | some method =>
      match ← proceed method value with
      | .inl value => return hold value
      | .inr value => finish value
    | none =>
      closeSource source
      throwType "iterator does not have a throw method"
  | .return value =>
    match ← getMethod source.iterator "return" with
    | some method =>
      match ← proceed method value with
      | .inl value => return hold value
      | .inr value => return .on frames (.completed (.returned value))
    | none => return .on frames (.completed (.returned value))

/-- What a way of ending inside a delegation resumes the iterator with. -/
def resumptionOf : Outcome → Resumption
  | .thrown value => .throw value
  | .completed (.returned value) => .return value
  | .completed _ => .next .undefined

/-- Goes on with the innermost frame, inside which a statement has ended in a way. -/
def strideFrame (frames : List Frame) (outcome : Outcome) : Run Stride := do
  match frames, outcome with
  | [], .completed (.returned value) => return .finish (.completed (.returned value))
  | [], .completed _ => return .finish (.completed (.returned .undefined))
  | [], .thrown value => return .finish (.thrown value)
  | .statements rest context :: frames, .completed .normal => strideStatements context frames rest
  | .statements .. :: frames, outcome => return .on frames outcome
  | .loop condition update body names context labels :: frames, .completed completion =>
    match afterRound labels completion with
    | .goOn =>
      let context ← renewScope context names
      match update with
      | some update =>
        let _ ← evaluate context update
      | none => pure ()
      testLoop condition update body names context labels frames
    | .stop completion => return .on frames (.completed completion)
  | .loop .. :: frames, outcome => return .on frames outcome
  | .each head series body context labels :: frames, .completed completion =>
    match afterRound labels completion with
    | .goOn => strideEach head series body context labels frames
    | .stop completion => endEach series frames (.completed completion)
  | .each _ series _ _ _ :: frames, outcome => endEach series frames outcome
  | .breakable [] :: frames, .completed (.broken none) => return .on frames passed
  | .breakable labels :: frames, .completed (.broken (some label)) =>
    return .on frames (if labels.contains label then passed else .completed (.broken (some label)))
  | .breakable _ :: frames, outcome => return .on frames outcome
  | .guarded (some handler) finalizer context :: frames, .thrown value =>
    let ⟨parameter, names, body⟩ := handler
    let frames := Frame.guarded none finalizer context :: frames
    let inner ← enter context (names.map fun name => (name, { value := none }))
    match parameter with
    | some target => bindPattern patternLimit inner (.first .variable) target value
    | none => pure ()
    let inner ← enter inner []
    declareBlock inner (Statement.declared body)
    return .on (.statements body inner :: frames) passed
  | .guarded _ finalizer context :: frames, outcome =>
    let inner ← enter context []
    declareBlock inner (Statement.declared finalizer)
    return .on (.statements finalizer inner :: .finalizing outcome :: frames) passed
  | .finalizing held :: frames, .completed .normal => return .on frames held
  | .finalizing _ :: frames, outcome => return .on frames outcome
  | .delegate source name context :: frames, outcome =>
    strideDelegate source name context frames (resumptionOf outcome)

/-- The frames behind the innermost one, for a step that throws. -/
def behind : List Frame → List Frame
  | .guarded (some _) finalizer context :: frames => .guarded none finalizer context :: frames
  | _ :: frames => frames
  | [] => []

/-- The result of an iterator: a value, and whether it is at its end. -/
def makeResult (value : Value) (done : Bool) : Run Value := do
  let properties : Properties := {}
  return .object (← allocate
    { parent := some Intrinsic.objectPrototype
      properties := (properties.put "value" (.plain value)).put "done" (.plain (.boolean done)) })

/-- Sets where a generator stands. -/
def setGenerator (ref : Ref) (state : GeneratorState) : Run Unit :=
  change ref fun object => { object with kind := .generator state }

/-- Runs a generator up to its next yield or its end. -/
def runGenerator (ref : Ref) (start : Stride) : Run Value := do
  loop start fun stride => do
    match stride with
    | .on frames outcome =>
      let next ← catchThrown (strideFrame frames outcome) fun value =>
        return .on (behind frames) (.thrown value)
      return .inl next
    | .stop frames value resumed =>
      setGenerator ref (.stopped frames resumed)
      return .inr (← makeResult value false)
    | .finish outcome =>
      setGenerator ref .finished
      match outcome with
      | .completed completion => return .inr (← makeResult (resultOf completion) true)
      | .thrown value => throwValue value

def resumeGenerator (ref : Ref) (resumption : Resumption) : Run Value := do
  match ← kindOf ref with
  | .generator .running => throwType "Generator is already executing"
  | .generator .finished =>
    match resumption with
    | .next _ => makeResult .undefined true
    | .throw value => throwValue value
    | .return value => makeResult value true
  | .generator (.stopped frames resumed) =>
    setGenerator ref .running
    match resumption, resumed, frames with
    | .next value, none, .delegate source name context :: outer =>
      let stride ← catchThrown (strideDelegate source name context outer (.next value)) fun value =>
        return .on outer (.thrown value)
      runGenerator ref stride
    | .next value, some (name, context), frames =>
      writeName context name value
      runGenerator ref (.on frames passed)
    | .next _, none, frames => runGenerator ref (.on frames passed)
    | .throw value, _, frames => runGenerator ref (.on frames (.thrown value))
    | .return value, _, frames => runGenerator ref (.on frames (.completed (.returned value)))
  | _ => throwType "generator method called on incompatible receiver"

end Run

end FencedCode.Script
