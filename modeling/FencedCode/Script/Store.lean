import FencedCode.Script.Native
import FencedCode.Script.Tree
import Std.Data.TreeMap

/-!
# Objects and scopes

Everything that a script can change lies in one store: its objects and the scopes that bind its
names.  Values and functions refer to both by place.  What a generator has still to do is kept as
data too, so that it can be taken up at any later time.
-/

namespace FencedCode.Script

open Text

/-! ### Scopes -/

/-- The place of a scope in the store. -/
abbrev ScopeRef := Nat

/-- How a name may be assigned. -/
inductive BindingKind where
  | variable
  | constant
  /-- The name of a function inside it, which keeps its value silently. -/
  | ownName
deriving DecidableEq, Repr

/-- What a name stands for. -/
structure Binding where
  /-- The value, unless the declaration has not been reached. -/
  value : Option Value
  /-- How the name may be assigned. -/
  kind : BindingKind := .variable

/-- What a call of a function sets for its body. -/
structure Activation where
  /-- The value of `this`, unless a constructor has not called the one above it yet. -/
  this : Option Value
  callee : Ref
  /-- The function that `new` was applied to. -/
  newTarget : Option Ref

/-- The names that a block or a call binds. -/
structure Scope where
  bindings : List (String × Binding) := []
  /-- The call, if the scope is one of a function. -/
  activation : Option Activation := none

instance : Inhabited Scope := ⟨{}⟩

/-- Where a statement is run. -/
structure Context where
  /-- The scopes, from the inside. -/
  scopes : List ScopeRef
  /-- The scope of the function. -/
  locals : ScopeRef
  /-- Whether strict mode is on. -/
  strict : Bool
deriving Inhabited

/-! ### Completions -/

inductive Completion where
  | normal
  | returned (value : Value)
  | broken (label : Option String)
  | continued (label : Option String)
deriving Inhabited

/-- How a statement ends that may throw. -/
inductive Outcome where
  | completed (completion : Completion)
  | thrown (value : Value)

/-! ### Generators and iterators -/

/-- An object that hands out values, with its function that hands out the next. -/
structure Source where
  iterator : Value
  next : Value

/-- The values over which a loop runs that a generator has entered. -/
inductive Series where
  /-- The keys of an object that are left. -/
  | keys (rest : List Value)
  /-- The values of an iterator. -/
  | values (source : Source)

/-- What remains to be done around the place where a generator has stopped. -/
inductive Frame where
  /-- The statements that follow in a block. -/
  | statements (rest : List Statement) (context : Context)
  /-- A loop with a condition, to be tested next. -/
  | loop (condition update : Option Expr) (body : Statement) (names : List String)
      (context : Context) (labels : List String)
  /-- A loop over keys or values. -/
  | each (head : LoopHead) (series : Series) (body : Statement) (context : Context)
      (labels : List String)
  /-- A statement with a label, or a switch, which has none. -/
  | breakable (labels : List String)
  /-- The body of a statement with a handler. -/
  | guarded (handler : Option Handler) (finalizer : List Statement) (context : Context)
  /-- A finalizer, behind which the given outcome takes effect. -/
  | finalizing (outcome : Outcome)
  /-- Values of another iterator that are handed out one by one. -/
  | delegate (source : Source) (name : String) (context : Context)

inductive GeneratorState where
  /-- It has stopped; the name is to be bound to the value that it is resumed with. -/
  | stopped (frames : List Frame) (resumed : Option (String × Context))
  | running
  | finished

/-- What an iterator of a built-in object hands out. -/
inductive EntryKind where
  | keys
  | values
  | entries
deriving DecidableEq

/-- Where an iterator of a built-in object stands. -/
inductive IteratorState where
  | list (target : Value) (next : Nat) (kind : EntryKind)
  | codePoints (rest : List Nat)
  | collection (target : Ref) (next : Nat) (kind : EntryKind)
  | given (rest : List Value)
  | finished

inductive PromiseState where
  | pending
  | fulfilled (value : Value)
  | rejected (reason : Value)

/-! ### Objects -/

inductive Content where
  | data (value : Value) (writable : Bool)
  | accessor (getter setter : Option Ref)
deriving Inhabited

structure Property where
  content : Content
  enumerable : Bool := true
  /-- Whether it can be removed and redefined. -/
  configurable : Bool := true
deriving Inhabited

namespace Property

/-- A property as an assignment makes it. -/
def plain (value : Value) : Property := { content := .data value true }

/-- A property that is not listed. -/
def unlisted (value : Value) : Property := { content := .data value true, enumerable := false }

/-- A property that is neither listed nor changed. -/
def fixed (value : Value) : Property :=
  { content := .data value false, enumerable := false, configurable := false }

/-- A property that can be redefined but not assigned, and is not listed. -/
def readOnly (value : Value) : Property :=
  { content := .data value false, enumerable := false }

/-- The value of a property that holds one. -/
def value? (property : Property) : Option Value :=
  match property.content with
  | .data value _ => some value
  | .accessor .. => none

end Property

/-- Properties, those with indices in ascending order and the others in the order in which they
were made. -/
structure Properties where
  indexed : Std.TreeMap Nat Property := {}
  named : Array (PropertyKey × Property) := #[]

namespace Properties

/-- The property of a key. -/
def get? (properties : Properties) : PropertyKey → Option Property
  | .index place => properties.indexed.get? place
  | key => (properties.named.find? (·.1 == key)).map (·.2)

/-- Gives a key a property, in its place if it has one already. -/
def put (properties : Properties) (key : PropertyKey) (property : Property) : Properties :=
  match key with
  | .index place => { properties with indexed := properties.indexed.insert place property }
  | key =>
    match properties.named.findIdx? (·.1 == key) with
    | some place =>
      { properties with named := properties.named.setIfInBounds place (key, property) }
    | none => { properties with named := properties.named.push (key, property) }

/-- Takes the property of a key away. -/
def erase (properties : Properties) (key : PropertyKey) : Properties :=
  match key with
  | .index place => { properties with indexed := properties.indexed.erase place }
  | key => { properties with named := properties.named.filter (·.1 != key) }

/-- The keys: indices, texts, and then symbols. -/
def keys (properties : Properties) : List PropertyKey :=
  let names := properties.named.toList.map (·.1)
  properties.indexed.keys.map .index ++ names.filter (·.isText) ++ names.filter (·.isSymbol)

end Properties

/-- A member that a class gives to each of its instances. -/
structure Field where
  key : PropertyKey
  value : Option Ref
  /-- What the member is, if it is a hidden method or accessor. -/
  method : Option Property := none

/-- A function with the scopes in which it was made. -/
structure Closure where
  /-- The place of the function in the code. -/
  function : Nat
  scopes : List ScopeRef
  /-- The object whose parent `super` stands for. -/
  home : Option Ref := none
  /-- What a class gives to its instances. -/
  fields : List Field := []

/-- What an object is besides its properties. -/
inductive ObjectKind where
  | ordinary
  | array (length : Nat) (writable : Bool)
  | arguments
  | closure (closure : Closure)
  | native (function : Native)
  | bound (target : Ref) (this : Value) (arguments : List Value)
  /-- A primitive value as an object. -/
  | wrapper (value : Value)
  | error
  | regexp (source flags : Units)
  | collection (kind : CollectionKind) (entries : Array (Option (Value × Value)))
  | promise (state : PromiseState)
  | generator (state : GeneratorState)
  | iterator (state : IteratorState)
  | proxy (target handler : Ref)

structure Object where
  kind : ObjectKind := .ordinary
  /-- The object that it takes further properties from. -/
  parent : Option Ref
  /-- Whether it can get new properties. -/
  extensible : Bool := true
  properties : Properties := {}

instance : Inhabited Object := ⟨{ parent := none }⟩

end FencedCode.Script
