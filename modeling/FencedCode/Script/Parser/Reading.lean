import FencedCode.Script.Lexeme

/-!
# The state of reading a script

What is left of the text, the code read so far, and what the place permits: which names the blocks
around it bind, which labels are in force, and which words are operators there.  Everything that a
script must not do for its text alone is refused here, before any of it runs.
-/

namespace FencedCode.Script

open Text

/-- The names that a block binds. -/
structure BlockNames where
  /-- The names that no other declaration may repeat. -/
  lexical : List String := []
  /-- The functions of a block, which may be repeated among themselves. -/
  functions : List String := []
  /-- The names of `var` declarations in the block or below. -/
  locals : List String := []
  /-- The names that are bound in front of the block: parameters. -/
  parameters : List String := []
deriving Inhabited

/-- What a place in a function body permits. -/
structure Surroundings where
  /-- Whether strict mode is on. -/
  strict : Bool := false
  /-- How the function is run. -/
  mode : FunctionMode := .direct
  hasSuper : Bool := false
  /-- Whether `super` can be called. -/
  callsSuper : Bool := false
  /-- The labels in force, and whether each marks a loop. -/
  labels : List (String × Bool) := []
  /-- Whether the place is in a loop. -/
  inLoop : Bool := false
  /-- Whether the place is in a switch. -/
  inSwitch : Bool := false
  /-- The blocks around the place, from the inside. -/
  blocks : List BlockNames := [{}]
  /-- Whether `arguments` has been mentioned. -/
  usesArguments : Bool := false
  /-- The yields read since the statement began. -/
  yields : List Statement := []
  /-- The number of yields read so far. -/
  yieldCount : Nat := 0
deriving Inhabited

structure Reading where
  rest : List Char
  /-- Whether a line ended in front of them. -/
  newLine : Bool := false
  /-- The code read so far. -/
  code : Code := {}
  around : Surroundings := {}
  /-- Whether `in` is no operator. -/
  noIn : Bool := false
  /-- The names bound by the patterns read so far. -/
  bound : List String := []
deriving Inhabited

/-- Reads a part of a script, or refuses it. -/
abbrev Parser := StateT Reading Option

namespace Parser

def refuse {α : Type} : Parser α := fun _ => none

/-- Refuses unless a condition holds. -/
def require (condition : Bool) : Parser Unit := if condition then pure () else refuse

def around : Parser Surroundings := return (← get).around

/-- Changes what the place permits. -/
def changeAround (change : Surroundings → Surroundings) : Parser Unit :=
  modify fun reading => { reading with around := change reading.around }

/-- Passes over blanks and comments. -/
def skipGap : Parser Unit := do
  let reading ← get
  match Lexeme.skipGap .blanks false reading.rest with
  | some (rest, newLine) => set { reading with rest, newLine }
  | none => refuse

/-- Reads a smallest part, without the blanks behind it. -/
def raw {α : Type} (scanner : Scanner α) : Parser α := fun reading =>
  (scanner.run reading.rest).map fun (value, rest) => (value, { reading with rest })

/-- Reads a smallest part and the blanks behind it. -/
def lexeme {α : Type} (scanner : Scanner α) : Parser α := do
  let value ← raw scanner
  skipGap
  return value

def peekChar? : Parser (Option Char) := return (← get).rest.head?

/-- Whether the text has been read to its end. -/
def atEnd : Parser Bool := return (← get).rest.isEmpty

/-- Whether a line ended in front of the next part. -/
def afterNewLine : Parser Bool := return (← get).newLine

/-- The next punctuator, or the empty text. -/
def peekMark : Parser String := return Lexeme.punctuator (← get).rest

/-- Consumes a punctuator if it comes next. -/
def acceptMark (mark : String) : Parser Bool := do
  if (← peekMark) == mark then
    modify fun reading => { reading with rest := reading.rest.drop mark.length }
    skipGap
    return true
  return false

def expectMark (mark : String) : Parser Unit := do require (← acceptMark mark)

/-- The next word, or the empty text. -/
def peekWord : Parser String := do
  match Lexeme.word.run (← get).rest with
  | some (word, _) => return word
  | none => return ""

/-- Consumes a word if it comes next. -/
def acceptWord (word : String) : Parser Bool := do
  if word.toList.isPrefixOf (← get).rest && (← peekWord) == word then
    let _ ← lexeme Lexeme.word
    return true
  return false

def expectWord (word : String) : Parser Unit := do require (← acceptWord word)

/-- Whether a word cannot be a name here. -/
def isReserved (around : Surroundings) (word : String) : Bool :=
  Lexeme.keywords.contains word
    || (around.strict && Lexeme.strictKeywords.contains word)
    || (around.mode == .generator && word == "yield")
    || (around.mode == .async && word == "await")

def name : Parser String := do
  let word ← lexeme Lexeme.word
  require !(isReserved (← around) word)
  if word == "arguments" then changeAround fun around => { around with usesArguments := true }
  return word

/-- A name that is bound or assigned. -/
def targetName : Parser String := do
  let word ← name
  require !((← around).strict && (word == "eval" || word == "arguments"))
  return word

/-- The end of a statement: a semicolon, or a place where it may be left out. -/
def endStatement : Parser Unit := do
  if ← acceptMark ";" then return
  require ((← peekMark) == "\x7d" || (← atEnd) || (← afterNewLine))

/-- Repeats a part while it yields something new, at most as often as there are characters. -/
def loop {α : Type} (step : α → Parser (Option α)) (start : α) : Parser α := do
  go ((← get).rest.length + 1) start
where
  /-- Repeats the part at most `limit` times. -/
  go : Nat → α → Parser α
    | 0, state => return state
    | limit + 1, state => do
      match ← step state with
      | some next => go limit next
      | none => return state

/-- Parts separated by commas up to a closing mark; a comma may stand in front of the mark. -/
def commaList {α : Type} (closing : String) (part : Parser α) : Parser (List α) := do
  let parts ← loop
    (fun (parts, isOver) => do
      if isOver then return none
      if ← acceptMark closing then return some (parts, true)
      let next ← part
      let hasComma ← acceptMark ","
      if !hasComma then
        expectMark closing
        return some (next :: parts, true)
      return some (next :: parts, false))
    (([], false) : List α × Bool)
  require parts.2
  return parts.1.reverse

/-- Reads a part where `in` is an operator, or is none. -/
def withIn {α : Type} (isOperator : Bool) (part : Parser α) : Parser α := do
  let before := (← get).noIn
  modify fun reading => { reading with noIn := !isOperator }
  let value ← part
  modify fun reading => { reading with noIn := before }
  return value

/-! ### Names and blocks -/

/-- Notes a name that a `let`, `const` or `class` binds in the innermost block. -/
def declareLexical (name : String) : Parser Unit := do
  match (← around).blocks with
  | block :: outer =>
    require !(block.lexical.contains name || block.functions.contains name
      || block.locals.contains name || block.parameters.contains name)
    let block := { block with lexical := name :: block.lexical }
    changeAround fun around => { around with blocks := block :: outer }
  | [] => refuse

/-- Notes a function that a block below the top of a function body declares. -/
def declareFunction (name : String) : Parser Unit := do
  let around ← around
  match around.blocks with
  | block :: outer =>
    require !(block.lexical.contains name || block.locals.contains name
      || (around.strict && block.functions.contains name))
    let block := { block with functions := name :: block.functions }
    changeAround fun around => { around with blocks := block :: outer }
  | [] => refuse

/-- Notes a name that a `var` binds in all blocks up to the function. -/
def declareVariable (name : String) : Parser Unit := do
  let blocks := (← around).blocks
  require !(blocks.any fun block => block.lexical.contains name || block.functions.contains name)
  changeAround fun around =>
    { around with
      blocks := blocks.map fun block => { block with locals := name :: block.locals } }

/-- Whether a name of an inner block can also be bound in the function as by `var`. -/
def canShare (name : String) : Parser Bool := do
  let around ← around
  return !around.strict && !(around.blocks.tail.any fun block =>
    block.lexical.contains name || block.functions.contains name || block.parameters.contains name)

/-- Reads a part in a block of its own. -/
def inBlock {α : Type} (part : Parser α) (parameters : List String := []) : Parser α := do
  changeAround fun around => { around with blocks := { parameters } :: around.blocks }
  let value ← part
  changeAround fun around => { around with blocks := around.blocks.tail }
  return value

/-- Reads a part as a body of a loop. -/
def inLoop {α : Type} (part : Parser α) : Parser α := do
  let before := (← around).inLoop
  changeAround fun around => { around with inLoop := true }
  let value ← part
  changeAround fun around => { around with inLoop := before }
  return value

/-- Reads a part, and returns what it binds too. -/
def withBound {α : Type} (part : Parser α) : Parser (α × List String) := do
  let before := (← get).bound
  modify fun reading => { reading with bound := [] }
  let value ← part
  let bound := (← get).bound.reverse
  modify fun reading => { reading with bound := before }
  return (value, bound)

/-! ### Code -/

/-- Adds a function to the code and returns its place. -/
def addFunction (node : FunctionNode) : Parser Nat := do
  let code := (← get).code
  modify fun reading => { reading with code := { code with functions := code.functions.push node } }
  return code.functions.size

/-- Adds a class to the code and returns its place. -/
def addClass (node : ClassNode) : Parser Nat := do
  let code := (← get).code
  modify fun reading => { reading with code := { code with classes := code.classes.push node } }
  return code.classes.size

/-- Gives a function without a name one. -/
def nameFunction (name : String) (index : Nat) : Parser Unit :=
  modify fun reading =>
    { reading with
      code.functions := reading.code.functions.modify index fun node =>
        if node.name.isEmpty then { node with name } else node }

/-- Gives a function or class without a name the name of the place that it is put into. -/
def nameAfter (name : String) (value : Expr) : Parser Unit := do
  match value with
  | .function index => nameFunction name index
  | .class index =>
    let code := (← get).code
    match code.classes[index]? with
    | some node =>
      if node.name.isEmpty then
        modify fun reading =>
          { reading with code.classes := code.classes.modify index ({ · with name }) }
        nameFunction name node.constructor
    | none => return
  | _ => return

end Parser

/-- The rules of the grammar that refer to one another. -/
structure Grammar where
  assignment : Parser Expr
  /-- An operand with the operators in front of it. -/
  unary : Parser Expr
  /-- An operand without operators, with its members and calls. -/
  leftHandSide : Parser Expr
  /-- A target of a declaration, or else of an assignment. -/
  pattern : (isDeclared : Bool) → Parser Pattern
  /-- A statement or declaration, with the yields that precede it. -/
  statement : Parser (List Statement)

namespace Grammar

/-- Expressions with commas between them. -/
def expression (grammar : Grammar) : Parser Expr := do
  Parser.loop
    (fun first => do
      if ← Parser.acceptMark "," then return some (.sequence first (← grammar.assignment))
      return none)
    (← grammar.assignment)

end Grammar

end FencedCode.Script
