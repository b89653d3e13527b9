import FencedCode.Script.Parser.Function
import FencedCode.Script.Regexp

/-!
# Reading expressions

Operators are read by precedence.  Where the text could go on in two ways, arrow functions before
parentheses and targets before literals, the first is tried and the second taken if it is refused.
-/

namespace FencedCode.Script

open Text

namespace Grammar

open FencedCode.Script.Parser

variable (grammar : Grammar)

/-! ### Literals -/

/-- The elements of an array literal or the arguments of a call. -/
def element : Parser Element := do
  if ← acceptMark "..." then return .spread (← grammar.assignment)
  return .single (← grammar.assignment)

/-- Arguments up to the closing parenthesis. -/
def arguments : Parser (List Element) := withIn true (commaList ")" grammar.element)

/-- The elements of an array literal up to the closing bracket. -/
def arrayLiteral : Parser Expr := withIn true do
  let (elements, _) ← loop
    (fun (elements, ended) => do
      if ended then return none
      if ← acceptMark "]" then return some (elements, true)
      if ← acceptMark "," then return some (elements ++ [Element.hole], false)
      let next ← grammar.element
      if !(← acceptMark ",") then
        expectMark "]"
        return some (elements ++ [next], true)
      return some (elements ++ [next], false))
    (([], false) : List Element × Bool)
  return .array elements

/-- A part of an object literal. -/
def objectMember : Parser Member := do
  if ← acceptMark "..." then return .spread (← grammar.assignment)
  let before ← get
  let modifiers ← Grammar.modifiers
  let key ← grammar.propertyKey
  if (← peekMark) == "(" then
    return .accessor modifiers.role key (← grammar.method key modifiers)
  require !modifiers.isMarked
  if ← acceptMark ":" then
    let value ← grammar.assignment
    match key with
    | .fixed text =>
      if text == ("__proto__" : Units) then return .prototype value
      nameAfter (nameOfKey key) value
    | _ => pure ()
    return .property key value
  set before
  let word ← name
  return .property (.fixed word) (.name word)

/-- An object literal behind the opening brace. -/
def objectLiteral : Parser Expr := withIn true do
  let members ← commaList "\x7d" grammar.objectMember
  require ((members.filter fun | .prototype _ => true | _ => false).length ≤ 1)
  return .object members

/-- The stretches of a template with the values between them. -/
def templateParts : Parser (List Lexeme.Stretch × List Expr) := withIn true do
  let _ ← raw (Scanner.expect "\x60")
  let first ← raw Lexeme.stretch
  let (stretches, values, _) ← loop
    (fun (stretches, values, ended) => do
      if ended then return none
      skipGap
      let value ← grammar.expression
      let _ ← raw (Scanner.expect "\x7d")
      let next ← raw Lexeme.stretch
      return some (stretches ++ [next], values ++ [value], next.isLast))
    (([first], [], first.isLast) : List Lexeme.Stretch × List Expr × Bool)
  skipGap
  return (stretches, values)

def template : Parser Expr := do
  let (stretches, values) ← grammar.templateParts
  let cooked : Option (List Units) := stretches.mapM fun stretch => stretch.cooked
  match cooked with
  | some texts => return .template texts values
  | none => refuse

/-! ### Primary expressions -/

/-- A class expression behind the word `class`. -/
def classExpression : Parser Expr := do
  let word ← peekWord
  let name ← if word.isEmpty || word == "extends" then pure "" else targetName
  return .class (← grammar.classRest name)

/-- An expression that starts with a word. -/
def wordExpression : Parser Expr := do
  match ← peekWord with
  | "function" =>
    expectWord "function"
    grammar.functionExpression false
  | "class" =>
    expectWord "class"
    grammar.classExpression
  | "this" =>
    expectWord "this"
    return .this
  | "null" =>
    expectWord "null"
    return .null
  | "true" =>
    expectWord "true"
    return .boolean true
  | "false" =>
    expectWord "false"
    return .boolean false
  | "async" =>
    let before ← get
    expectWord "async"
    if !(← afterNewLine) && (← acceptWord "function") then grammar.functionExpression true
    else
      set before
      return .name (← name)
  | _ => return .name (← name)

def primary : Parser Expr := do
  match ← peekChar? with
  | none => refuse
  | some '(' =>
    expectMark "("
    let inner ← withIn true grammar.expression
    expectMark ")"
    return inner
  | some '[' =>
    expectMark "["
    grammar.arrayLiteral
  | some '\x7b' =>
    expectMark "\x7b"
    grammar.objectLiteral
  | some '\x60' => grammar.template
  | some '"' | some '\x27' => return .string (← lexeme (Lexeme.text (← around).strict))
  | some '/' =>
    let (source, flags) ← lexeme Lexeme.regexp
    require (Regexp.parse? source flags).isSome
    return .regexp source flags
  | some char =>
    if char.isDigit || char == '.' then lexeme (Lexeme.number (← around).strict)
    else grammar.wordExpression

/-! ### Members and calls -/

/-- The name behind a point. -/
def dottedKey : Parser Key := do
  if (← peekChar?) == some '#' then
    let _ ← raw (Scanner.expect "#")
    return .hidden (← lexeme Lexeme.word)
  return .fixed (← lexeme Lexeme.word)

def bracketKey : Parser Key := do
  let key ← withIn true grammar.expression
  expectMark "]"
  return match key with
    | .string text => .fixed text
    | key => .computed key

/-- A member or a template behind an expression. -/
def memberAfter? (base : Expr) : Parser (Option Expr) := do
  if ← acceptMark "." then return some (.member base (← dottedKey))
  if ← acceptMark "[" then return some (.member base (← grammar.bracketKey))
  if (← peekChar?) == some '\x60' then
    let (stretches, values) ← grammar.templateParts
    return some (.tagged base (stretches.map (·.cooked)) (stretches.map (·.written)) values)
  return none

/-- The steps of a chain behind its first optional one. -/
def chainLinks : Parser (List Link) :=
  loop
    (fun links => do
      if ← acceptMark "?." then
        if ← acceptMark "(" then return some (links ++ [.call true (← grammar.arguments)])
        if ← acceptMark "[" then return some (links ++ [.member true (← grammar.bracketKey)])
        require ((← peekChar?) != some '\x60')
        return some (links ++ [.member true (← dottedKey)])
      if links.isEmpty then return none
      if ← acceptMark "." then return some (links ++ [.member false (← dottedKey)])
      if ← acceptMark "[" then return some (links ++ [.member false (← grammar.bracketKey)])
      if ← acceptMark "(" then return some (links ++ [.call false (← grammar.arguments)])
      require ((← peekChar?) != some '\x60')
      return none)
    []

/-- What can follow the word `super`. -/
def superExpression : Parser Expr := do
  let around ← around
  if ← acceptMark "." then
    require around.hasSuper
    return .superMember (← dottedKey)
  if ← acceptMark "[" then
    require around.hasSuper
    return .superMember (← grammar.bracketKey)
  require around.callsSuper
  expectMark "("
  return .superCall (← grammar.arguments)

/-- What can follow the word `new`, with a limit to how often the word can be repeated. -/
def newExpression : (limit : Nat) → Parser Expr
  | 0 => refuse
  | limit + 1 => do
    if ← acceptMark "." then
      expectWord "target"
      return .newTarget
    let base ← if ← acceptWord "new" then newExpression limit
      else if ← acceptWord "super" then
        let base ← grammar.superExpression
        match base with
        | .superCall _ => refuse
        | _ => pure base
      else grammar.primary
    let callee ← loop grammar.memberAfter? base
    require ((← peekMark) != "?.")
    let arguments ← if ← acceptMark "(" then grammar.arguments else pure []
    return .construct callee arguments

/-- An expression with the members and calls behind it. -/
def leftHandSideExpression : Parser Expr := do
  let base ← if ← acceptWord "new" then grammar.newExpression (← get).rest.length
    else if ← acceptWord "super" then grammar.superExpression
    else grammar.primary
  let base ← loop
    (fun base => do
      match ← grammar.memberAfter? base with
      | some next => return some next
      | none =>
        if ← acceptMark "(" then return some (.call base (← grammar.arguments))
        return none)
    base
  let links ← grammar.chainLinks
  return if links.isEmpty then base else .chain base links

/-! ### Targets -/

/-- An expression as a target. -/
def target? (around : Surroundings) : Expr → Option Pattern
  | .name name =>
    if around.strict && (name == "eval" || name == "arguments") then none else some (.name name)
  | expr@(.member ..) => some (.place expr)
  | expr@(.superMember _) => some (.place expr)
  | _ => none

/-- A target that is no pattern. -/
def plainTarget (isDeclared : Bool) : Parser Pattern := do
  if isDeclared then
    let name ← targetName
    modify fun reading => { reading with bound := name :: reading.bound }
    return .name name
  match target? (← around) (← grammar.leftHandSide) with
  | some target => return target
  | none => refuse

/-- A target inside a pattern, with an optional default. -/
def targetElement (isDeclared : Bool) : Parser Pattern := do
  let target ← grammar.pattern isDeclared
  if ← acceptMark "=" then
    let value ← withIn true grammar.assignment
    match target with
    | .name name => nameAfter name value
    | _ => pure ()
    return .orElse target value
  return target

/-- The targets of an array pattern, up to the closing bracket. -/
def arrayPattern (isDeclared : Bool) : Parser Pattern := do
  let (elements, _) ← loop
    (fun (elements, ended) => do
      if ended then return none
      if ← acceptMark "]" then return some (elements, true)
      if ← acceptMark "," then return some (elements ++ [Pattern.hole], false)
      if ← acceptMark "..." then
        let rest ← grammar.pattern isDeclared
        expectMark "]"
        return some (elements ++ [.rest rest], true)
      let next ← grammar.targetElement isDeclared
      if !(← acceptMark ",") then
        expectMark "]"
        return some (elements ++ [next], true)
      return some (elements ++ [next], false))
    (([], false) : List Pattern × Bool)
  return .array elements

/-- A field of an object pattern. -/
def patternField (isDeclared : Bool) : Parser Pattern := do
  if ← acceptMark "..." then
    let rest ← grammar.pattern isDeclared
    require ((← peekMark) == "\x7d")
    return .rest rest
  let before ← get
  let key ← grammar.propertyKey
  if ← acceptMark ":" then return .field key (← grammar.targetElement isDeclared)
  set before
  let name ← targetName
  if isDeclared then modify fun reading => { reading with bound := name :: reading.bound }
  if ← acceptMark "=" then
    let value ← withIn true grammar.assignment
    nameAfter name value
    return .field (.fixed name) (.orElse (.name name) value)
  return .field (.fixed name) (.name name)

def anyPattern (isDeclared : Bool) : Parser Pattern := do
  let before ← get
  let isPattern : Parser Pattern := do
    if ← acceptMark "[" then grammar.arrayPattern isDeclared
    else
      expectMark "\x7b"
      return .object (← commaList "\x7d" (grammar.patternField isDeclared))
  match ← peekMark with
  | "[" | "\x7b" =>
    match ← optional isPattern with
    | some pattern =>
      if isDeclared || !([".", "(", "?."].contains (← peekMark)) then return pattern
      set before
      grammar.plainTarget isDeclared
    | none =>
      require !isDeclared
      grammar.plainTarget isDeclared
  | _ => grammar.plainTarget isDeclared

/-! ### Operators -/

/-- The operators in front of an operand. -/
def unaryMarks : List (String × UnaryOp) :=
  [("-", .negate), ("+", .toNumber), ("!", .not), ("~", .complement)]

/-- The words in front of an operand. -/
def unaryWords : List (String × UnaryOp) := [("typeof", .typeOf), ("void", .discard)]

/-- Refuses an operand with an operator in front as a base of a power. -/
def noPower (value : Expr) : Parser Expr := do
  require ((← peekMark) != "**")
  return value

/-- A target that is changed in place. -/
def changedTarget (target : Expr) : Parser Expr := do
  require (target? (← around) target).isSome
  return target

/-- An operand with operators in front of it or a step behind it. -/
def unaryExpression : Parser Expr := do
  for (mark, op) in unaryMarks do
    if ← acceptMark mark then return ← noPower (.unary op (← grammar.unary))
  for (word, op) in unaryWords do
    if ← acceptWord word then return ← noPower (.unary op (← grammar.unary))
  if ← acceptWord "delete" then
    let operand ← grammar.unary
    match operand with
    | .name _ => require !(← around).strict
    | _ => pure ()
    return ← noPower (.delete operand)
  if (← around).mode == .async then
    if ← acceptWord "await" then return ← noPower (.await (← grammar.unary))
  for (mark, increment) in [("++", true), ("--", false)] do
    if ← acceptMark mark then
      return .update (← changedTarget (← grammar.unary)) increment true
  let operand ← grammar.leftHandSide
  if !(← afterNewLine) then
    for (mark, increment) in [("++", true), ("--", false)] do
      if ← acceptMark mark then return .update (← changedTarget operand) increment false
  return operand

/-- What an operator between two operands builds. -/
inductive InfixOp where
  | both (op : BinaryOp)
  | logical (op : LogicalOp)
deriving DecidableEq

/-- The operators between two operands with their precedence. -/
def infixMarks : List (String × Nat × InfixOp) :=
  [("??", 1, .logical .coalesce), ("||", 2, .logical .or), ("&&", 3, .logical .and),
   ("|", 4, .both .bitOr), ("^", 5, .both .bitXor), ("&", 6, .both .bitAnd),
   ("==", 7, .both .looselyEqual), ("!=", 7, .both .looselyUnequal),
   ("===", 7, .both .strictlyEqual), ("!==", 7, .both .strictlyUnequal),
   ("<", 8, .both .less), (">", 8, .both .greater), ("<=", 8, .both .lessEqual),
   (">=", 8, .both .greaterEqual),
   ("<<", 9, .both .shiftLeft), (">>", 9, .both .shiftRight), (">>>", 9, .both .shiftRightZero),
   ("+", 10, .both .add), ("-", 10, .both .subtract),
   ("*", 11, .both .multiply), ("/", 11, .both .divide), ("%", 11, .both .remainder),
   ("**", 12, .both .power)]

/-- The next operator between two operands, with its text and its precedence. -/
def peekInfix? : Parser (Option (String × Nat × InfixOp)) := do
  let mark ← peekMark
  if mark.isEmpty then
    match ← peekWord with
    | "instanceof" => return some ("instanceof", 8, .both .isInstance)
    | "in" => return if (← get).noIn then none else some ("in", 8, .both .isIn)
    | _ => return none
  else return infixMarks.find? (·.1 == mark)

/-- Which of the operators that must not be mixed stands at the top of an operand without
parentheses. -/
inductive Mixing where
  | none
  | coalesce
  | andOr
deriving DecidableEq

/-- The mixing of an operator. -/
def mixingOf : InfixOp → Mixing
  | .logical .coalesce => .coalesce
  | .logical _ => .andOr
  | .both _ => .none

/-- The first operand of an expression. -/
def firstOperand : Parser Expr := do
  if (← peekChar?) == some '#' then
    let _ ← raw (Scanner.expect "#")
    let name ← lexeme Lexeme.word
    require !(← get).noIn
    expectWord "in"
    return .hasHidden name (← grammar.unary)
  grammar.unaryExpression

/-- Operands with operators of at least a given precedence between them. -/
def infixExpression : (limit : Nat) → (least : Nat) → Parser (Expr × Mixing)
  | 0, _ => refuse
  | limit + 1, least => do
    loop
      (fun (left, mixing) => do
        match ← peekInfix? with
        | some (text, precedence, op) =>
          if precedence < least then return none
          let accepted ← if text == "in" || text == "instanceof" then acceptWord text
            else acceptMark text
          require accepted
          let bound := if op == .both .power then precedence else precedence + 1
          let (right, inner) ← infixExpression limit bound
          let own := mixingOf op
          require (own == .none ||
            [mixing, inner].all fun other => other == .none || other == own)
          let value := match op with
            | .both op => Expr.binary op left right
            | .logical op => .logical op left right
          return some (value, own)
        | none => return none)
      (← grammar.firstOperand, .none)

/-- An expression with a choice between two. -/
def conditional : Parser Expr := do
  let (condition, _) ← grammar.infixExpression (← get).rest.length 0
  if ← acceptMark "?" then
    let yes ← withIn true grammar.assignment
    expectMark ":"
    return .conditional condition yes (← grammar.assignment)
  return condition

/-! ### Assignments -/

/-- The operators that combine the old value of a target with another. -/
def assignmentMarks : List (String × BinaryOp) :=
  [("+=", .add), ("-=", .subtract), ("*=", .multiply), ("/=", .divide), ("%=", .remainder),
   ("**=", .power), ("<<=", .shiftLeft), (">>=", .shiftRight), (">>>=", .shiftRightZero),
   ("&=", .bitAnd), ("|=", .bitOr), ("^=", .bitXor)]

/-- The operators that assign only if the old value asks for it. -/
def unlessMarks : List (String × LogicalOp) :=
  [("&&=", .and), ("||=", .or), ("??=", .coalesce)]

/-- A value assigned to a target that may be a name, after which it is called. -/
def namedValue (target : Pattern) : Parser Expr := do
  let value ← grammar.assignment
  match target with
  | .name name => nameAfter name value
  | _ => pure ()
  return value

/-- An assignment to a pattern. -/
def patternAssignment : Parser Expr := do
  let target ← grammar.pattern false
  match target with
  | .array _ | .object _ =>
    expectMark "="
    return .assign target (← grammar.assignment)
  | _ => refuse

/-- An expression that is no pattern, with the assignment that may follow it. -/
def plainAssignment : Parser Expr := do
  let left ← grammar.conditional
  let mark ← peekMark
  if mark == "=" then
    match target? (← around) left with
    | some target =>
      expectMark "="
      return .assign target (← grammar.namedValue target)
    | none => refuse
  match assignmentMarks.lookup mark with
  | some op =>
    let target ← changedTarget left
    expectMark mark
    return .assignWith op target (← grammar.assignment)
  | none =>
    match unlessMarks.lookup mark with
    | some op =>
      match target? (← around) left with
      | some target =>
        expectMark mark
        return .assignUnless op left (← grammar.namedValue target)
      | none => refuse
    | none => return left

/-- A value handed out of a generator.  The statement around it first hands out the value, and then
goes on with what it is resumed with. -/
def yieldExpression : Parser Expr := do
  expectWord "yield"
  let hasNewLine ← afterNewLine
  let isAll ← if hasNewLine then pure false else acceptMark "*"
  let ends := [")", "]", "\x7d", ",", ";", ":"].contains (← peekMark) || (← atEnd)
  let value ← if !isAll && (hasNewLine || ends) then pure Expr.undefined else grammar.assignment
  let around ← around
  let name := "yield " ++ toString around.yieldCount
  let statement : Statement := if isAll then .yieldAll name value else .yield name value
  changeAround fun around =>
    { around with yields := around.yields ++ [statement], yieldCount := around.yieldCount + 1 }
  return .name name

/-- A function with an arrow, if one comes next. -/
def arrowFunction : Parser Expr := do
  let before ← get
  let asynchronous : Parser Expr := do
    expectWord "async"
    require !(← afterNewLine)
    grammar.arrow .async
  match ← optional asynchronous with
  | some value => return value
  | none =>
    set before
    grammar.arrow .direct

def assignmentExpression : Parser Expr := do
  let mark ← peekMark
  let word ← peekWord
  if word == "yield" && (← around).mode == .generator then return ← grammar.yieldExpression
  if mark == "(" || !word.isEmpty then
    match ← optional grammar.arrowFunction with
    | some value => return value
    | none => pure ()
  if mark == "[" || mark == "\x7b" then
    match ← optional grammar.patternAssignment with
    | some value => return value
    | none => pure ()
  grammar.plainAssignment

end Grammar

end FencedCode.Script
