import FencedCode.Execution.Behaviour
import FencedCode.Script.Store

/-!
# The state of a run

A run works on a machine: the code, the store, and the calls of the console made so far.  It ends
early if a value is thrown, if it has to wait for something that will never happen, or if it is
nested too deeply.

The parts of the semantics refer to one another.  They do so through a record of entry points that a
run carries along: the entry points at one depth run on those of the depth below, so that every
definition ends.
-/

namespace FencedCode.Script

open Text

/-- The state of a run. -/
structure Machine where
  /-- The code of all functions. -/
  code : Code := {}
  objects : Array Object := #[]
  scopes : Array Scope := #[]
  /-- The number of the next symbol. -/
  nextSymbol : Nat := 16
  /-- The symbols that are shared by name. -/
  sharedSymbols : List (Units × Symbol) := []
  /-- The arrays whose elements are being joined to a text. -/
  joining : List Ref := []
  /-- The calls of the console, the last one first. -/
  calls : List ConsoleCall := []
deriving Inhabited

/-- Why a run is cut short. -/
inductive Interrupt where
  | thrown (value : Value)
  /-- The function waits, and nothing will wake it. -/
  | waiting
  /-- The calls are nested too deeply. -/
  | exhausted

/-- A step of a run that refers to nothing but the machine. -/
abbrev Step := EStateM Interrupt Machine

/-- The entry points of the semantics. -/
structure Semantics where
  /-- The value of an expression. -/
  evaluate : Context → Expr → Step Value
  /-- The completion of a statement with its labels. -/
  execute : Context → List String → Statement → Step Completion
  /-- The result of a call of a value with a value for `this` and arguments. -/
  call : Value → Value → List Value → Step Value
  /-- The object that a constructor makes, for the constructor that `new` was applied to. -/
  construct : Ref → List Value → Ref → Step Value

/-- A part of a run. -/
abbrev Run := ReaderT Semantics Step

namespace Run

/-- The value of an expression. -/
def evaluate (context : Context) (expr : Expr) : Run Value := fun semantics =>
  semantics.evaluate context expr

/-- The completion of a statement. -/
def execute (context : Context) (statement : Statement) (labels : List String := []) :
    Run Completion := fun semantics => semantics.execute context labels statement

def call (callee this : Value) (arguments : List Value) : Run Value := fun semantics =>
  semantics.call callee this arguments

/-- Makes an object with a constructor. -/
def construct (callee : Ref) (arguments : List Value) (newTarget : Ref) : Run Value :=
  fun semantics => semantics.construct callee arguments newTarget

def throwValue {α : Type} (value : Value) : Run α := throw (.thrown value)

/-- Runs a part, and handles the value that it throws. -/
def catchThrown {α : Type} (part : Run α) (handle : Value → Run α) : Run α :=
  tryCatch part fun
    | .thrown value => handle value
    | other => throw other

/-- The outcome of a part that completes or throws. -/
def outcome (part : Run Completion) : Run Outcome :=
  catchThrown (.completed <$> part) fun value => return .thrown value

/-- Makes an outcome take effect. -/
def settle : Outcome → Run Completion
  | .completed completion => return completion
  | .thrown value => throwValue value

/-- Repeats a step until it gives a result, at most `limit` times. -/
def repeatUpTo {σ α : Type} (step : σ → Run (σ ⊕ α)) : (limit : Nat) → σ → Run α
  | 0, _ => throw .exhausted
  | limit + 1, state => do
    match ← step state with
    | .inl next => repeatUpTo step limit next
    | .inr result => return result

/-- How often a loop can be repeated. -/
def loopLimit : Nat := Nat.pow 2 40

/-- Repeats a step until it gives a result. -/
def loop {σ α : Type} (start : σ) (step : σ → Run (σ ⊕ α)) : Run α := repeatUpTo step loopLimit start

/-! ### Objects -/

/-- Puts an object into the store. -/
def allocate (object : Object) : Run Ref :=
  modifyGet fun machine =>
    (machine.objects.size, { machine with objects := machine.objects.push object })

/-- The object at a place. -/
def fetch (ref : Ref) : Run Object := return (← get).objects.getD ref default

/-- Replaces the object at a place. -/
def store (ref : Ref) (object : Object) : Run Unit :=
  modify fun machine => { machine with objects := machine.objects.setIfInBounds ref object }

/-- Changes the object at a place. -/
def change (ref : Ref) (update : Object → Object) : Run Unit :=
  modify fun machine => { machine with objects := machine.objects.modify ref update }

/-- What the object at a place is besides its properties. -/
def kindOf (ref : Ref) : Run ObjectKind := return (← fetch ref).kind

/-- Gives the object at a place a property, whatever it was before. -/
def putProperty (ref : Ref) (key : PropertyKey) (property : Property) : Run Unit :=
  change ref fun object => { object with properties := object.properties.put key property }

/-! ### Scopes -/

/-- Puts a scope into the store. -/
def allocateScope (scope : Scope) : Run ScopeRef :=
  modifyGet fun machine =>
    (machine.scopes.size, { machine with scopes := machine.scopes.push scope })

/-- The scope at a place. -/
def fetchScope (ref : ScopeRef) : Run Scope := return (← get).scopes.getD ref default

/-- Changes the scope at a place. -/
def changeScope (ref : ScopeRef) (update : Scope → Scope) : Run Unit :=
  modify fun machine => { machine with scopes := machine.scopes.modify ref update }

/-- The function at a place of the code. -/
def functionAt (index : Nat) : Run FunctionNode := return (← get).code.functions.getD index default

/-! ### Symbols -/

def newSymbol (description : Option Units) : Run Symbol :=
  modifyGet fun machine =>
    (⟨machine.nextSymbol, description⟩, { machine with nextSymbol := machine.nextSymbol + 1 })

end Run

/-! ### The objects that are always there -/

namespace Intrinsic

/-- The parent of all objects. -/
def objectPrototype : Ref := 0

/-- The parent of all functions. -/
def functionPrototype : Ref := 1

/-- The object that holds the global names. -/
def globalObject : Ref := 2

def arrayPrototype : Ref := 3

/-- The parent of text objects. -/
def stringPrototype : Ref := 4

/-- The parent of number objects. -/
def numberPrototype : Ref := 5

/-- The parent of truth value objects. -/
def booleanPrototype : Ref := 6

/-- The parent of symbol objects. -/
def symbolPrototype : Ref := 7

/-- The parent of big number objects. -/
def bigintPrototype : Ref := 8

/-- The parent of iterators of built-in objects. -/
def iteratorPrototype : Ref := 9

def generatorPrototype : Ref := 10

def promisePrototype : Ref := 11

/-- The parent of regular expressions. -/
def regexpPrototype : Ref := 12

/-- The parent of errors of a kind. -/
def errorPrototype : ErrorKind → Ref
  | .error => 13
  | .typeError => 14
  | .rangeError => 15
  | .syntaxError => 16
  | .referenceError => 17
  | .evalError => 18
  | .uriError => 19

/-- The parent of collections of a kind. -/
def collectionPrototype : CollectionKind → Ref
  | .map => 20
  | .set => 21
  | .weakMap => 22
  | .weakSet => 23

/-- The parents of errors that are not errors in general. -/
def errorConstructor : Ref := 24

end Intrinsic

namespace Run

/-- Makes an error of a kind. -/
def makeError (kind : ErrorKind) (message : String) : Run Value := do
  let properties : Properties := {}
  let ref ← allocate
    { kind := .error, parent := some (Intrinsic.errorPrototype kind)
      properties := properties.put "message" (.unlisted message) }
  return .object ref

/-- Throws an error of a kind. -/
def throwNew {α : Type} (kind : ErrorKind) (message : String) : Run α := do
  throwValue (← makeError kind message)

/-- Throws an error about the type of a value. -/
def throwType {α : Type} (message : String) : Run α := throwNew .typeError message

/-- Throws an error about the range of a number. -/
def throwRange {α : Type} (message : String) : Run α := throwNew .rangeError message

/-- Makes an object without properties. -/
def makeObject : Run Ref := allocate { parent := some Intrinsic.objectPrototype }

/-- Makes an array of values. -/
def makeArray (values : List Value) : Run Value := do
  let indexed := values.foldl
    (fun (place, indexed) value => (place + 1, indexed.insert place (Property.plain value)))
    ((0, {}) : Nat × Std.TreeMap Nat Property)
  let ref ← allocate
    { kind := .array values.length true, parent := some Intrinsic.arrayPrototype
      properties := { indexed := indexed.2 } }
  return .object ref

def makeNative (function : Native) (name : String) (length : Nat) : Run Ref := do
  let properties : Properties := {}
  allocate
    { kind := .native function, parent := some Intrinsic.functionPrototype
      properties := (properties.put "length" (.readOnly (.ofNat length))).put "name"
        (.readOnly name) }

end Run

end FencedCode.Script
