import FencedCode.Decimal.Notation
import FencedCode.Script.Parser.Reading

/-!
# Reading functions and classes

A function body is read in surroundings of its own: labels, loops and names around it do not reach
into it.  What it declares is noted with it.
-/

namespace FencedCode.Script

open Text

namespace Parser

/-- Reads a part in the surroundings of a new function. -/
def inFunction {α : Type} (start : Surroundings → Surroundings) (part : Parser α) :
    Parser (α × Surroundings) := do
  let outer ← around
  let noIn := (← get).noIn
  modify fun reading =>
    { reading with
      around := start { strict := outer.strict }
      noIn := false }
  let value ← part
  let inner ← around
  modify fun reading => { reading with around := outer, noIn }
  return (value, inner)

end Parser

/-- What a function is read as. -/
structure FunctionForm where
  name : String := ""
  /-- Whether the name is bound inside the function. -/
  namesItself : Bool := false
  /-- What it is called as. -/
  role : FunctionRole := .ordinary
  /-- How its body is run. -/
  mode : FunctionMode := .direct

namespace Grammar

open FencedCode.Script.Parser

variable (grammar : Grammar)

/-- A parameter: a target with an optional default. -/
def parameter : Parser Pattern := do
  let target ← grammar.pattern true
  if ← acceptMark "=" then
    let value ← withIn true grammar.assignment
    match target with
    | .name name => nameAfter name value
    | _ => pure ()
    return .orElse target value
  return target

/-- Parameters up to the closing parenthesis. -/
def parameters : Parser (List Pattern) := do
  let parameters ← commaList ")" do
    if ← acceptMark "..." then return .rest (← grammar.pattern true)
    grammar.parameter
  require (parameters.dropLast.all fun | .rest _ => false | _ => true)
  return parameters

/-- The number of parameters in front of the first with a default. -/
def requiredCount (parameters : List Pattern) : Nat :=
  (parameters.takeWhile fun | .orElse .. | .rest _ => false | _ => true).length

/-- Whether every parameter is a name. -/
def isSimple (parameters : List Pattern) : Bool := parameters.all fun | .name _ => true | _ => false

/-- Statements up to the closing brace, or up to the end of the text. -/
def statements (untilEnd : Bool) : Parser (List Statement) := do
  let isOver : Parser Bool := if untilEnd then atEnd else acceptMark "\x7d"
  let (read, _) ← loop
    (fun (read, ended) => do
      if ended then return none
      if ← isOver then return some (read, true)
      return some (read ++ (← grammar.statement), false))
    (([], false) : List Statement × Bool)
  return read

/-- Whether a body starts by switching strict mode on. -/
def startsStrict : Parser Bool := do
  let before ← get
  let (isStrict, _) ← loop
    (fun (found, ended) => do
      if ended then return none
      let start := (← get).rest
      match ← optional (do let _ ← lexeme (Lexeme.text false); endStatement) with
      | some () =>
        let written := start.take (start.length - (← get).rest.length)
        let text := String.ofList (written.take 12)
        let strict := "\x22use strict\x22"
        return some (found || text == strict || text == "'use strict'", false)
      | none => return some (found, true))
    (false, false)
  set before
  return isStrict

/-- A body with the opening brace already consumed, or one that is the whole text. -/
def functionBody (parameters : List Pattern) (untilEnd : Bool) : Parser (List Statement) := do
  if ← startsStrict then
    require (isSimple parameters)
    changeAround fun around => { around with strict := true }
  grammar.statements untilEnd

def repeats : List String → Bool
  | [] => false
  | name :: rest => rest.contains name || repeats rest

/-- Adds a function whose parts have been read. -/
def finishFunction (form : FunctionForm) (parameters : List Pattern) (names : List String)
    (body : List Statement) (inner : Surroundings) : Parser Nat := do
  require !(repeats names
    && (inner.strict || form.role == .arrow || form.role == .method || !isSimple parameters))
  let locals := match inner.blocks.getLast? with
    | some block => block.locals.eraseDups.reverse
    | none => []
  let temporaries := (List.range inner.yieldCount).map fun index => "yield " ++ toString index
  addFunction
    { name := form.name, namesItself := form.namesItself, role := form.role, mode := form.mode
      strict := inner.strict, parameters, length := requiredCount parameters, parameterNames := names
      usesArguments := inner.usesArguments && form.role != .arrow
      locals := locals ++ temporaries, body }

/-- The surroundings at the start of a function. -/
def startFunction (form : FunctionForm) (outer : Surroundings) (fresh : Surroundings) :
    Surroundings :=
  let isMethod := form.role == .method || form.role == .baseConstructor
    || form.role == .derivedConstructor
  { fresh with
    mode := form.mode
    strict := fresh.strict || form.role == .baseConstructor || form.role == .derivedConstructor
    hasSuper := isMethod || (form.role == .arrow && outer.hasSuper)
    callsSuper := form.role == .derivedConstructor || (form.role == .arrow && outer.callsSuper) }

/-- Sets the names of the parameters for the block of the body. -/
def bindParameters (names : List String) : Parser Unit :=
  changeAround fun around => { around with blocks := [{ parameters := names }] }

/-- The parameters and the body of a function. -/
def functionRest (form : FunctionForm) : Parser Nat := do
  let outer ← around
  let ((parameters, names, body), inner) ← inFunction (startFunction form outer) do
    expectMark "("
    let (parameters, names) ← withBound grammar.parameters
    bindParameters names
    expectMark "\x7b"
    return (parameters, names, ← grammar.functionBody parameters false)
  finishFunction form parameters names body inner

/-- The arrow and what follows it. -/
def arrowBody (parameters : List Pattern) : Parser (List Statement) := do
  require !(← afterNewLine)
  expectMark "=>"
  if ← acceptMark "\x7b" then grammar.functionBody parameters false
  else return [.return (some (← grammar.assignment))]

/-- A function written with an arrow.  It shares `arguments` with the function around it. -/
def arrow (mode : FunctionMode) : Parser Expr := do
  let form : FunctionForm := { role := .arrow, mode }
  let outer ← around
  let noIn := (← get).noIn
  let ((parameters, names, body), inner) ← inFunction (startFunction form outer) do
    let (parameters, names) ← withBound do
      if ← acceptMark "(" then grammar.parameters
      else
        let name ← targetName
        modify fun reading => { reading with bound := name :: reading.bound }
        return [.name name]
    bindParameters names
    modify fun reading => { reading with noIn }
    return (parameters, names, ← grammar.arrowBody parameters)
  if inner.usesArguments then changeAround fun around => { around with usesArguments := true }
  return .function (← finishFunction form parameters names body inner)

/-- The mode of a function in front of which `async` and an asterisk may have stood.  A function
with both is refused. -/
def modeOf (isAsync isGenerator : Bool) : Parser FunctionMode := do
  require !(isAsync && isGenerator)
  return if isAsync then .async else if isGenerator then .generator else .direct

/-- A function expression behind the word `function`. -/
def functionExpression (isAsync : Bool) : Parser Expr := do
  let mode ← modeOf isAsync (← acceptMark "*")
  let name ← if (← peekMark) == "(" then pure "" else targetName
  return .function (← grammar.functionRest { name, namesItself := !name.isEmpty, mode })

/-- The text of a number as the name of a property. -/
def numberKey : Expr → Units
  | .number value => Decimal.naturalText value
  | .bigint value => toString value
  | _ => ""

/-- The name of a property, and its text if that is fixed. -/
def propertyKey : Parser Key := do
  match ← peekChar? with
  | some '[' =>
    expectMark "["
    let key ← withIn true grammar.assignment
    expectMark "]"
    return .computed key
  | some '#' =>
    let _ ← raw (Scanner.expect "#")
    return .hidden (← lexeme Lexeme.word)
  | some '"' | some '\x27' => return .fixed (← lexeme (Lexeme.text (← around).strict))
  | some char =>
    if char.isDigit || char == '.' then
      return .fixed (numberKey (← lexeme (Lexeme.number (← around).strict)))
    else return .fixed (← lexeme Lexeme.word)
  | none => refuse

/-- The name that a function gets from the name of its property. -/
def nameOfKey : Key → String
  | .fixed text => text.display
  | .hidden name => "#" ++ name
  | .computed _ => ""

/-- Whether the word just read is the name of a property and not a modifier. -/
def endsKey : Parser Bool := do
  return ["(", ",", "\x7d", ":", "=", ";"].contains (← peekMark) || (← atEnd)

/-- What stands in front of the name of a method. -/
structure Modifiers where
  /-- Whether it is a method, a getter or a setter. -/
  role : MemberRole := .method
  mode : FunctionMode := .direct
  isMarked : Bool := false

/-- The words and marks in front of the name of a method. -/
def modifiers : Parser Modifiers := do
  if ← acceptMark "*" then return { mode := .generator, isMarked := true }
  let before ← get
  for (word, modifier) in
      [("get", ({ role := .getter, isMarked := true } : Modifiers)),
        ("set", { role := .setter, isMarked := true }),
        ("async", { mode := .async, isMarked := true })] do
    if ← acceptWord word then
      if (← endsKey) || (word == "async" && (← afterNewLine)) then
        set before
        return {}
      if word == "async" && (← acceptMark "*") then refuse
      return modifier
  return {}

/-- A method behind its name. -/
def method (key : Key) (modifiers : Modifiers) (role : FunctionRole := .method) : Parser Nat := do
  let index ← grammar.functionRest { name := nameOfKey key, role, mode := modifiers.mode }
  match (← get).code.functions[index]? with
  | some node =>
    match modifiers.role with
    | .method => pure ()
    | .getter => require node.parameters.isEmpty
    | .setter =>
      require (node.parameters.length == 1
        && node.parameters.all fun | .rest _ => false | _ => true)
  | none => refuse
  return index

/-- A part of a class that is run as a method without parameters. -/
def hiddenMethod (name : String) (body : Parser (List Statement)) : Parser Nat := do
  let form : FunctionForm := { name, role := .method }
  let outer ← around
  let (body, inner) ← inFunction (startFunction form outer) body
  require !inner.usesArguments
  finishFunction form [] [] body inner

/-- A member of a class: the constructor, or another one. -/
def classMember (isDerived : Bool) : Parser (Nat ⊕ ClassMember) := do
  let before ← get
  let onClass ← if ← acceptWord "static" then
      if ← endsKey then
        set before
        pure false
      else pure true
    else pure false
  if onClass && (← acceptMark "\x7b") then
    return .inr (.initializer (← hiddenMethod "" (grammar.statements false)))
  let modifiers ← Grammar.modifiers
  let key ← grammar.propertyKey
  let isConstructor := match key with
    | .fixed text => !onClass && text == ("constructor" : Units)
    | .hidden name => name == "constructor"
    | .computed _ => false
  if (← peekMark) == "(" then
    if isConstructor then
      require !modifiers.isMarked
      let role := if isDerived then .derivedConstructor else .baseConstructor
      return .inl (← grammar.method (.fixed "") {} role)
    return .inr (.accessor onClass modifiers.role key (← grammar.method key modifiers))
  require !(modifiers.isMarked || isConstructor)
  let value ← if ← acceptMark "=" then
      let index ← hiddenMethod (nameOfKey key) do
        let value ← grammar.assignment
        nameAfter (nameOfKey key) value
        return [.return (some value)]
      pure (some index)
    else pure none
  endStatement
  return .inr (.field onClass key value)

/-- The constructor of a class that writes none. -/
def defaultConstructor (isDerived : Bool) : FunctionNode :=
  { name := "", namesItself := false, mode := .direct, strict := true, length := 0
    usesArguments := false, locals := []
    role := if isDerived then .derivedConstructor else .baseConstructor
    parameters := if isDerived then [.rest (.name "args")] else []
    parameterNames := if isDerived then ["args"] else []
    body := if isDerived then [.expression (.superCall [.spread (.name "args")])] else [] }

/-- What follows the name of a class.  A class is in strict mode. -/
def classRest (name : String) : Parser Nat := do
  let wasStrict := (← around).strict
  changeAround fun around => { around with strict := true }
  let parent ← if ← acceptWord "extends" then some <$> grammar.leftHandSide else pure none
  expectMark "\x7b"
  let (constructor, members, _) ← loop
    (fun (constructor, members, ended) => do
      if ended then return none
      if ← acceptMark "\x7d" then return some (constructor, members, true)
      if ← acceptMark ";" then return some (constructor, members, false)
      match ← grammar.classMember parent.isSome with
      | .inl index =>
        require (constructor == none)
        return some (some index, members, false)
      | .inr member => return some (constructor, members ++ [member], false))
    ((none, [], false) : Option Nat × List ClassMember × Bool)
  let constructor ← match constructor with
    | some index => pure index
    | none => addFunction (defaultConstructor parent.isSome)
  if !name.isEmpty then nameFunction name constructor
  changeAround fun around => { around with strict := wasStrict }
  addClass { name, namesItself := !name.isEmpty, parent, constructor, members }

end Grammar

end FencedCode.Script
