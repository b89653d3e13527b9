import FencedCode.Script.Parser.Expression

/-!
# Reading statements

A statement in a generator that hands out values in the middle of an expression is preceded by
statements that hand them out.  One that holds further statements in which the generator can stop is
marked, since it has to be run step by step.
-/

namespace FencedCode.Script

open Text

namespace Grammar

open FencedCode.Script.Parser

variable (grammar : Grammar)

/-! ### Yields -/

/-- Takes the yields read since the statement began. -/
def takeYields : Parser (List Statement) := do
  let yields := (← around).yields
  changeAround fun around => { around with yields := [] }
  return yields

/-- Refuses a part that hands out values. -/
def withoutYields {α : Type} (part : Parser α) : Parser α := do
  let before := (← around).yieldCount
  let value ← part
  require ((← around).yieldCount == before)
  return value

/-- Reads a statement, puts its yields in front, and marks it if it holds others. -/
def withYields (part : Parser (List Statement × Statement)) : Parser (List Statement) := do
  let outer ← takeYields
  let before := (← around).yieldCount
  let (yields, statement) ← part
  let own ← takeYields
  let count := (← around).yieldCount - before
  changeAround fun around => { around with yields := outer }
  let statement := if count > yields.length + own.length then .resumable statement else statement
  return yields ++ own ++ [statement]

/-- A statement that hands out values only in its own expressions. -/
def simple (part : Parser Statement) : Parser (List Statement) :=
  withYields do return ([], ← part)

def asOne : List Statement → Statement
  | [statement] => statement
  | statements =>
    let holdsYield := statements.any fun
      | .yield .. | .yieldAll .. | .resumable _ => true
      | _ => false
    if holdsYield then .resumable (.block statements) else .block statements

/-! ### Declarations -/

/-- Targets with their values, separated by commas. -/
def declarations (needsValue : Bool) : Parser (List Declaration) := do
  let one : Parser Declaration := do
    let target ← grammar.pattern true
    let value ← if ← acceptMark "=" then some <$> grammar.namedValue target else pure none
    let isPattern := match target with
      | .name _ => false
      | _ => true
    require (value.isSome || !(needsValue || isPattern))
    return { target, value }
  loop
    (fun declarations => do
      if ← acceptMark "," then return some (declarations ++ [← one])
      return none)
    [← one]

/-- Notes names of a `let` or `const`. -/
def bindLexical (names : List String) : Parser Unit := do
  require !(names.contains "let")
  names.forM declareLexical

/-- The kind of names that a word declares, if it declares any here. -/
def declaredKind? : Parser (Option NameKind) := do
  match ← peekWord with
  | "const" => return some .constant
  | "let" =>
    let before ← get
    expectWord "let"
    let word ← peekWord
    let mark ← peekMark
    set before
    let isName := !word.isEmpty && !(["in", "of", "instanceof"].contains word)
      && !(Lexeme.keywords.contains word)
    return if isName || mark == "[" || mark == "\x7b" || (← around).strict then some .variable
      else none
  | _ => return none

/-- A declaration behind its first word, without the end of the statement. -/
def lexicalDeclaration (kind : NameKind) : Parser Statement := do
  let (declarations, names) ← withBound (grammar.declarations (kind == .constant))
  bindLexical names
  return .declare kind names declarations

/-- A declaration behind the word `var`, without the end of the statement. -/
def varDeclaration : Parser Statement := do
  let (declarations, names) ← withBound (grammar.declarations false)
  names.forM declareVariable
  return .declareVar declarations

/-- A function declaration behind the word `function`. -/
def functionDeclaration (isAsync : Bool) : Parser (List Statement) := do
  let mode ← modeOf isAsync (← acceptMark "*")
  let name ← targetName
  if (← around).blocks.length == 1 then
    declareVariable name
    return [.function name (← grammar.functionRest { name, mode })]
  let isShared ← canShare name
  declareFunction name
  let index ← grammar.functionRest { name, mode }
  if isShared && mode == .direct then
    changeAround fun around =>
      { around with
        blocks := around.blocks.dropLast ++ (around.blocks.getLast?.map fun block =>
          { block with locals := name :: block.locals }).toList }
    return [.function name index, .share name]
  return [.function name index]

/-- A class declaration behind the word `class`. -/
def classDeclaration : Parser Statement := do
  let name ← targetName
  declareLexical name
  return .class name (← grammar.classRest name)

/-! ### Compound statements -/

/-- Statements in braces, with the opening brace already consumed. -/
def blockRest (parameters : List String := []) : Parser (List Statement) :=
  inBlock (grammar.statements false) parameters

def block (parameters : List String := []) : Parser (List Statement) := do
  expectMark "\x7b"
  grammar.blockRest parameters

/-- A statement where no declaration may stand. -/
def substatement : Parser Statement := do
  require ((← peekWord) != "class")
  require (← declaredKind?).isNone
  if (← peekWord) == "function" then
    require !(← around).strict
    return .block (← inBlock grammar.statement)
  if (← peekWord) == "async" then
    let before ← get
    expectWord "async"
    require ((← afterNewLine) || (← peekWord) != "function")
    set before
  return asOne (← grammar.statement)

def parenthesized : Parser Expr := do
  expectMark "("
  let value ← withIn true grammar.expression
  expectMark ")"
  return value

/-- A choice between two statements. -/
def ifStatement : Parser (List Statement) := withYields do
  let condition ← grammar.parenthesized
  let yields ← takeYields
  let yes ← grammar.substatement
  let no ← if ← acceptWord "else" then grammar.substatement else pure .empty
  return (yields, .branch condition yes no)

/-- A loop with its condition in front. -/
def whileStatement : Parser (List Statement) := withYields do
  let condition ← withoutYields grammar.parenthesized
  return ([], .while condition (← inLoop grammar.substatement))

/-- A loop with its condition behind. -/
def doStatement : Parser (List Statement) := withYields do
  let body ← inLoop grammar.substatement
  expectWord "while"
  let condition ← withoutYields grammar.parenthesized
  let _ ← acceptMark ";"
  return ([], .doWhile body condition)

/-- What follows the head of a loop over keys or values. -/
def eachRest (head : LoopHead) : Parser (List Statement × Statement) := do
  if ← acceptWord "of" then
    let source ← withIn true grammar.assignment
    let yields ← takeYields
    expectMark ")"
    return (yields, .forOf head source (← inLoop grammar.substatement))
  expectWord "in"
  let source ← withIn true grammar.expression
  let yields ← takeYields
  expectMark ")"
  return (yields, .forIn head source (← inLoop grammar.substatement))

/-- What follows the start of a counting loop. -/
def countRest (start : Statement) : Parser (List Statement × Statement) := do
  let yields ← takeYields
  expectMark ";"
  let optionalExpression (closing : String) : Parser (Option Expr) := do
    if ← acceptMark closing then return none
    let value ← withoutYields (withIn true grammar.expression)
    expectMark closing
    return some value
  let condition ← optionalExpression ";"
  let update ← optionalExpression ")"
  return (yields, .for start condition update (← inLoop grammar.substatement))

/-- Whether a word follows that makes the loop one over keys or values. -/
def atEach : Parser Bool := do
  let word ← peekWord
  return word == "of" || word == "in"

/-- A loop that declares names. -/
def declaringLoop (declare : Parser Statement) (head : List String → Pattern → Parser LoopHead) :
    Parser (List Statement × Statement) := do
  let before ← get
  let each : Parser (Pattern × List String) := do
    let bound ← withBound (grammar.pattern true)
    require (← atEach)
    return bound
  match ← optional each with
  | some (target, names) => grammar.eachRest (← head names target)
  | none =>
    set before
    grammar.countRest (← withIn false declare)

/-- A loop over keys or values, or one that counts. -/
def forStatement : Parser (List Statement) := withYields <| inBlock do
  expectMark "("
  if (← peekMark) == ";" then return ← grammar.countRest .empty
  if ← acceptWord "var" then
    return ← grammar.declaringLoop grammar.varDeclaration fun names target => do
      names.forM declareVariable
      return .declareVar target
  match ← declaredKind? with
  | some kind =>
    let _ ← lexeme Lexeme.word
    grammar.declaringLoop (grammar.lexicalDeclaration kind) fun names target => do
      bindLexical names
      return .declare kind names target
  | none =>
    let each : Parser Pattern := do
      let target ← withIn false (grammar.pattern false)
      require (← atEach)
      return target
    match ← optional each with
    | some target => grammar.eachRest (.assign target)
    | none =>
      let start ← withIn false grammar.expression
      grammar.countRest (.expression start)

def switchStatement : Parser (List Statement) := withYields do
  let subject ← grammar.parenthesized
  let yields ← takeYields
  let before := (← around).inSwitch
  changeAround fun around => { around with inSwitch := true }
  expectMark "\x7b"
  let caseBody : Parser (List Statement) :=
    loop
      (fun statements => do
        if (← peekMark) == "\x7d" || ["case", "default"].contains (← peekWord) then return none
        return some (statements ++ (← grammar.statement)))
      []
  let cases ← inBlock <| loop
    (fun cases => do
      if ← acceptWord "case" then
        let test ← withoutYields (withIn true grammar.expression)
        expectMark ":"
        return some (cases ++ [Case.mk (some test) (← caseBody)])
      if ← acceptWord "default" then
        require (cases.all fun ⟨test, _⟩ => test.isSome)
        expectMark ":"
        return some (cases ++ [Case.mk none (← caseBody)])
      return none)
    []
  expectMark "\x7d"
  changeAround fun around => { around with inSwitch := before }
  return (yields, .switch subject cases)

/-- A body with a handler or a finalizer. -/
def tryStatement : Parser (List Statement) := withYields do
  let body ← grammar.block
  let handler ← if ← acceptWord "catch" then
      let (parameter, names) ← if ← acceptMark "(" then
          let (target, names) ← withBound (grammar.pattern true)
          require !(repeats names)
          expectMark ")"
          pure (some target, names)
        else pure (none, [])
      pure (some (Handler.mk parameter names (← grammar.block names)))
    else pure none
  let hasFinalizer ← acceptWord "finally"
  require (hasFinalizer || handler.isSome)
  let finalizer ← if hasFinalizer then grammar.block else pure []
  return ([], .try body handler finalizer)

/-- A jump to a label or out of the innermost loop. -/
def jump (isContinue : Bool) : Parser Statement := do
  let word ← peekWord
  let hasLabel := !word.isEmpty && !(← afterNewLine)
  let label ← if hasLabel then some <$> name else pure none
  endStatement
  let around ← around
  match label with
  | some label =>
    match around.labels.lookup label with
    | some marksLoop => require (marksLoop || !isContinue)
    | none => refuse
  | none => require (around.inLoop || (around.inSwitch && !isContinue))
  return if isContinue then .continue label else .break label

/-- Whether a loop follows, possibly behind further labels. -/
def loopFollows : (limit : Nat) → Parser Bool
  | 0 => return false
  | limit + 1 => do
    let word ← peekWord
    if ["for", "while", "do"].contains word then return true
    if word.isEmpty || Lexeme.keywords.contains word then return false
    let before ← get
    let _ ← lexeme Lexeme.word
    let isLabel ← acceptMark ":"
    let follows ← if isLabel then loopFollows limit else pure false
    set before
    return follows

/-- A statement behind its label. -/
def labelledStatement (label : String) : Parser (List Statement) := withYields do
  let around ← around
  require (around.labels.lookup label).isNone
  let marksLoop ← loopFollows (← get).rest.length
  changeAround fun around => { around with labels := (label, marksLoop) :: around.labels }
  let body ← if (← peekWord) == "function" then
      require !around.strict
      asOne <$> grammar.statement
    else grammar.substatement
  changeAround fun now => { now with labels := around.labels }
  return ([], .labelled label body)

/-- An expression as a statement. -/
def expressionStatement : Parser Statement := do
  let value ← grammar.expression
  endStatement
  return .expression value

/-- A statement that starts with a word, if it does. -/
def wordStatement? (word : String) : Parser (Option (List Statement)) := do
  let reading {α : Type} (part : Parser α) : Parser (Option α) := do
    let _ ← lexeme Lexeme.word
    some <$> part
  match word with
  | "var" => reading <| simple do
    let statement ← grammar.varDeclaration
    endStatement
    return statement
  | "function" => reading (grammar.functionDeclaration false)
  | "class" => reading (simple grammar.classDeclaration)
  | "if" => reading grammar.ifStatement
  | "while" => reading grammar.whileStatement
  | "do" => reading grammar.doStatement
  | "for" => reading grammar.forStatement
  | "switch" => reading grammar.switchStatement
  | "try" => reading grammar.tryStatement
  | "break" => reading (simple (jump false))
  | "continue" => reading (simple (jump true))
  | "return" => reading <| simple do
    let ends := [";", "\x7d"].contains (← peekMark) || (← atEnd) || (← afterNewLine)
    let value ← if ends then pure none else some <$> grammar.expression
    endStatement
    return .return value
  | "throw" => reading <| simple do
    require !(← afterNewLine)
    let value ← grammar.expression
    endStatement
    return .throw value
  | "debugger" => reading <| simple do
    endStatement
    return .empty
  | "import" | "export" | "with" | "enum" => refuse
  | _ => return none

def anyStatement : Parser (List Statement) := do
  if ← acceptMark ";" then return [.empty]
  if ← acceptMark "\x7b" then
    return ← withYields do return ([], .block (← grammar.blockRest))
  let word ← peekWord
  if word.isEmpty then return ← simple grammar.expressionStatement
  match ← declaredKind? with
  | some kind =>
    let _ ← lexeme Lexeme.word
    return ← simple do
      let statement ← grammar.lexicalDeclaration kind
      endStatement
      return statement
  | none => pure ()
  match ← grammar.wordStatement? word with
  | some statements => return statements
  | none => pure ()
  let before ← get
  if word == "async" then
    expectWord "async"
    if !(← afterNewLine) && (← acceptWord "function") then
      return ← grammar.functionDeclaration true
    set before
  if !isReserved (← around) word then
    let label ← name
    if ← acceptMark ":" then return ← grammar.labelledStatement label
    set before
  simple grammar.expressionStatement

/-- The rules with at most `depth` levels of nesting. -/
def upTo : (depth : Nat) → Grammar
  | 0 =>
    { assignment := refuse, unary := refuse, leftHandSide := refuse, pattern := fun _ => refuse
      statement := refuse }
  | depth + 1 =>
    let inner := upTo depth
    { assignment := inner.assignmentExpression
      unary := inner.unaryExpression
      leftHandSide := inner.leftHandSideExpression
      pattern := inner.anyPattern
      statement := inner.anyStatement }

/-- How deeply a script may be nested. -/
def nestingLimit : Nat := 2000

/-- The rules of the language. -/
def full : Grammar := upTo nestingLimit

end Grammar

namespace Code

/-- The body of a function of some parameters, as the last function of the code. -/
def parseBody? (parameters : List String) (code : Code) (text : String) : Option Code := do
  let form : FunctionForm := { name := "anonymous" }
  let body : Parser Nat := do
    let (body, inner) ← Parser.inFunction (Grammar.startFunction form {}) do
      Grammar.bindParameters parameters
      Parser.skipGap
      Grammar.full.functionBody (parameters.map .name) true
    Grammar.finishFunction form (parameters.map .name) parameters body inner
  let (_, reading) ← body.run { rest := text.toList, code }
  return reading.code

end Code

end FencedCode.Script
