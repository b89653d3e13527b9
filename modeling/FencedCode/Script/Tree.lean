import FencedCode.Text.Units

/-!
# Scripts as trees

The statements and expressions of a script, in the shape in which they are evaluated.  Function
bodies carry the names they declare, so that evaluation never has to search a body for them.
-/

namespace FencedCode.Script

open Text

/-- Operators in front of an operand. -/
inductive UnaryOp where
  | negate
  | toNumber
  | not
  | complement
  | typeOf
  | discard
deriving DecidableEq, Repr

/-- Operators between two operands that are both evaluated. -/
inductive BinaryOp where
  | add
  | subtract
  | multiply
  | divide
  | remainder
  | power
  | shiftLeft
  | shiftRight
  | shiftRightZero
  | bitAnd
  | bitOr
  | bitXor
  | less
  | greater
  | lessEqual
  | greaterEqual
  | looselyEqual
  | looselyUnequal
  | strictlyEqual
  | strictlyUnequal
  | isIn
  | isInstance
deriving DecidableEq, Repr

/-- Operators that evaluate their right operand only if the left one does not decide. -/
inductive LogicalOp where
  | and
  | or
  | coalesce
deriving DecidableEq, Repr

/-- What a function is called as. -/
inductive FunctionRole where
  /-- A function with a `this` of its own, which can also construct. -/
  | ordinary
  /-- A function without a `this` of its own. -/
  | arrow
  /-- A method or accessor, which cannot construct. -/
  | method
  /-- The constructor of a class that extends none. -/
  | baseConstructor
  /-- The constructor of a class that extends another. -/
  | derivedConstructor
deriving DecidableEq, Repr, Inhabited

/-- How a function body is run. -/
inductive FunctionMode where
  | direct
  /-- Up to the first wait; the rest is never run. -/
  | async
  /-- From one yield to the next, on demand. -/
  | generator
deriving DecidableEq, Repr, Inhabited

/-- What is defined in an object literal or a class body. -/
inductive MemberRole where
  | method
  | getter
  | setter
deriving DecidableEq, Repr

/-- How a name of a block may be used. -/
inductive NameKind where
  /-- The name can be assigned. -/
  | variable
  /-- The name keeps its first value. -/
  | constant
deriving DecidableEq, Repr

mutual

inductive Expr where
  | undefined
  | null
  | boolean (value : Bool)
  | number (value : Float)
  | bigint (value : Int)
  | string (text : Units)
  | regexp (source flags : Units)
  /-- Texts with values between them; there is one text more. -/
  | template (texts : List Units) (values : List Expr)
  /-- A call with the texts of a template, read and as written, and the values between them. -/
  | tagged (tag : Expr) (texts : List (Option Units)) (written : List Units) (values : List Expr)
  | name (name : String)
  | this
  | newTarget
  | array (elements : List Element)
  | object (members : List Member)
  /-- A function, by its place in the code. -/
  | function (index : Nat)
  /-- A class, by its place in the code. -/
  | class (index : Nat)
  | unary (op : UnaryOp) (operand : Expr)
  | delete (operand : Expr)
  | binary (op : BinaryOp) (left right : Expr)
  | logical (op : LogicalOp) (left right : Expr)
  | conditional (condition yes no : Expr)
  | sequence (first second : Expr)
  /-- Adds one to a target or subtracts one; the value is the new one or the old one. -/
  | update (target : Expr) (increment givesNew : Bool)
  | assign (target : Pattern) (value : Expr)
  | assignWith (op : BinaryOp) (target value : Expr)
  | assignUnless (op : LogicalOp) (target value : Expr)
  | member (base : Expr) (key : Key)
  | superMember (key : Key)
  | call (callee : Expr) (arguments : List Element)
  | superCall (arguments : List Element)
  | construct (callee : Expr) (arguments : List Element)
  /-- Members and calls that end at the first missing base that is marked as optional. -/
  | chain (base : Expr) (links : List Link)
  | hasHidden (name : String) (base : Expr)
  | await (operand : Expr)

/-- The name of a property. -/
inductive Key where
  | fixed (text : Units)
  | computed (expr : Expr)
  /-- A name that only the class itself can use. -/
  | hidden (name : String)

/-- An element of an array literal, or an argument. -/
inductive Element where
  | hole
  | single (expr : Expr)
  | spread (expr : Expr)

/-- A step of a chain. -/
inductive Link where
  | member (isOptional : Bool) (key : Key)
  | call (isOptional : Bool) (arguments : List Element)

/-- A part of an object literal. -/
inductive Member where
  | property (key : Key) (value : Expr)
  | prototype (value : Expr)
  | accessor (role : MemberRole) (key : Key) (function : Nat)
  | spread (value : Expr)

/-- A target of an assignment or a declaration. -/
inductive Pattern where
  | hole
  | name (name : String)
  | place (target : Expr)
  | orElse (target : Pattern) (value : Expr)
  | array (elements : List Pattern)
  | object (fields : List Pattern)
  /-- A part of an object pattern. -/
  | field (key : Key) (target : Pattern)
  /-- What takes all that is left. -/
  | rest (target : Pattern)

end

instance : Inhabited Expr := ⟨.undefined⟩

/-- A target with its first value. -/
structure Declaration where
  target : Pattern
  value : Option Expr

/-- What a loop over keys or values binds in each round. -/
inductive LoopHead where
  | declareVar (target : Pattern)
  | declare (kind : NameKind) (names : List String) (target : Pattern)
  | assign (target : Pattern)

mutual

inductive Statement where
  | empty
  | expression (expr : Expr)
  | declareVar (declarations : List Declaration)
  | declare (kind : NameKind) (names : List String) (declarations : List Declaration)
  | function (name : String) (index : Nat)
  | class (name : String) (index : Nat)
  /-- Gives the function of a block to the variable of its name. -/
  | share (name : String)
  | return (value : Option Expr)
  | throw (value : Expr)
  | break (label : Option String)
  | continue (label : Option String)
  | block (statements : List Statement)
  | branch (condition : Expr) (yes no : Statement)
  | while (condition : Expr) (body : Statement)
  | doWhile (body : Statement) (condition : Expr)
  | for (start : Statement) (condition update : Option Expr) (body : Statement)
  | forIn (head : LoopHead) (source : Expr) (body : Statement)
  | forOf (head : LoopHead) (source : Expr) (body : Statement)
  | switch (subject : Expr) (cases : List Case)
  | labelled (label : String) (body : Statement)
  /-- Runs a body, a handler if the body throws, and in any case a finalizer. -/
  | try (body : List Statement) (handler : Option Handler) (finalizer : List Statement)
  /-- Hands a value out of a generator and binds the value that it is resumed with. -/
  | yield (name : String) (value : Expr)
  /-- Hands out the values of another iterable and binds its result. -/
  | yieldAll (name : String) (value : Expr)
  /-- A statement in which a generator can stop. -/
  | resumable (statement : Statement)

/-- A case of a switch; the default case has no test. -/
inductive Case where
  | mk (test : Option Expr) (body : List Statement)

/-- What handles a thrown value. -/
inductive Handler where
  | mk (parameter : Option Pattern) (names : List String) (body : List Statement)

end

instance : Inhabited Statement := ⟨.empty⟩

structure FunctionNode where
  /-- The name it is written with or gets from its place. -/
  name : String
  /-- Whether the name is bound inside the function. -/
  namesItself : Bool
  /-- What it is called as. -/
  role : FunctionRole
  /-- How its body is run. -/
  mode : FunctionMode
  /-- Whether it is in strict mode. -/
  strict : Bool
  parameters : List Pattern
  /-- The number of parameters in front of the first with a default. -/
  length : Nat
  /-- The names that the parameters bind. -/
  parameterNames : List String
  /-- Whether the body mentions `arguments`. -/
  usesArguments : Bool
  /-- The names that `var` and function declarations bind in the body. -/
  locals : List String
  body : List Statement
deriving Inhabited

/-- A member of a class other than its constructor. -/
inductive ClassMember where
  | accessor (onClass : Bool) (role : MemberRole) (key : Key) (function : Nat)
  | field (onClass : Bool) (key : Key) (function : Option Nat)
  | initializer (function : Nat)

structure ClassNode where
  /-- The name it is written with or gets from its place. -/
  name : String
  /-- Whether the name is bound inside the class. -/
  namesItself : Bool
  parent : Option Expr
  constructor : Nat
  /-- Its other members in order. -/
  members : List ClassMember
deriving Inhabited

/-- The functions and classes of scripts, in the order in which they are read. -/
structure Code where
  functions : Array FunctionNode := #[]
  classes : Array ClassNode := #[]
deriving Inhabited

/-- The names that a block binds before it runs. -/
structure Declared where
  /-- The names that cannot be used before their declaration. -/
  names : List (String × NameKind) := []
  /-- The functions, which can be used from the start. -/
  functions : List (String × Nat) := []

namespace Statement

/-- Adds what a statement declares for its block. -/
def declaring (declared : Declared) : Statement → Declared
  | .declare kind names _ => { declared with names := declared.names ++ names.map (·, kind) }
  | .class name _ => { declared with names := declared.names ++ [(name, .variable)] }
  | .function name index => { declared with functions := declared.functions ++ [(name, index)] }
  | .labelled _ (.function name index) =>
    { declared with functions := declared.functions ++ [(name, index)] }
  | _ => declared

/-- What a list of statements declares for its block. -/
def declared (statements : List Statement) : Declared := statements.foldl declaring {}

end Statement

end FencedCode.Script
