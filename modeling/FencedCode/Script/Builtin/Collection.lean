import FencedCode.Script.Builtin.Array
import FencedCode.Script.Generator

/-!
# Functions on collections and iterators

A collection keeps its entries in the order in which their keys came.  An entry that is removed leaves
its place empty, so that an iterator that stands at a later place is not moved.  Zeros with different
signs are the same key.
-/

namespace FencedCode.Script

open Text

/-- The entries of a collection. -/
abbrev Entries := Array (Option (Value × Value))

namespace Entries

/-- The place of a key. -/
def place? (entries : Entries) (key : Value) : Option Nat :=
  entries.findIdx? fun entry => entry.any fun (other, _) => Value.same false other key

/-- The value of a key. -/
def get? (entries : Entries) (key : Value) : Option Value := do
  let place ← place? entries key
  let (_, value) ← (← entries[place]?)
  return value

/-- Gives a key a value. -/
def put (entries : Entries) (key value : Value) : Entries :=
  match place? entries key with
  | some place => entries.modify place (·.map fun (key, _) => (key, value))
  | none =>
    let key := match key with
      | .number number => .number (if number == 0 then 0 else number)
      | key => key
    entries.push (some (key, value))

def erase (entries : Entries) (key : Value) : Entries :=
  match place? entries key with
  | some place => entries.setIfInBounds place none
  | none => entries

/-- The entries that are there, in order. -/
def present (entries : Entries) : List (Value × Value) := entries.toList.filterMap id

/-- The next entry from a place on, with the place behind it. -/
def nextFrom? (entries : Entries) (place : Nat) : Option ((Value × Value) × Nat) :=
  ((entries.toList.drop place).zipIdx place).findSome? fun (entry, place) =>
    entry.map fun entry => (entry, place + 1)

end Entries

namespace CollectionKind

/-- Whether a collection gives its keys values. -/
def hasValues : CollectionKind → Bool
  | map | weakMap => true
  | set | weakSet => false

/-- Whether a collection holds only objects. -/
def holdsObjects : CollectionKind → Bool
  | weakMap | weakSet => true
  | map | set => false

end CollectionKind

namespace Run

/-! ### Collections -/

/-- The entries of a collection of a kind. -/
def entriesOf (kind : CollectionKind) (this : Value) : Run (Ref × Entries) := do
  match this with
  | .object ref =>
    match ← kindOf ref with
    | .collection held entries =>
      if held = kind then return (ref, entries)
      throwType ("'this' is not a " ++ kind.name)
    | _ => throwType ("'this' is not a " ++ kind.name)
  | _ => throwType ("'this' is not a " ++ kind.name)

/-- Replaces the entries of a collection. -/
def setEntries (ref : Ref) (kind : CollectionKind) (entries : Entries) : Run Unit :=
  change ref fun object => { object with kind := .collection kind entries }

/-- Throws if a collection cannot hold a key. -/
def requireKey (kind : CollectionKind) (key : Value) : Run Unit := do
  match key with
  | .object _ | .symbol _ => return
  | _ => if kind.holdsObjects then throwType ("invalid value used in " ++ kind.name)

/-- Makes a collection of the values of an iterable, by its own function for a new entry. -/
def constructCollection (kind : CollectionKind) (items : Value) (newTarget : Ref) : Run Value := do
  let parent ← prototypeFor newTarget (Intrinsic.collectionPrototype kind)
  let made := Value.object (← allocate { kind := .collection kind #[], parent := some parent })
  if items.isMissing then return made
  let insert ← getMember made (if kind.hasValues then "set" else "add")
  requireCallable insert
  foldValues items () fun _ item => do
    let arguments ← if kind.hasValues then
        match item with
        | .object pair => pure [← getProperty pair (.index 0), ← getProperty pair (.index 1)]
        | _ => throwType "cannot get key and value from primitive item of \x60iterable\x60"
      else pure [item]
    let _ ← call insert made arguments
    return ((), false)
  return made

/-- Calls a function with each entry, also with those that come while it runs. -/
def forEachEntry (kind : CollectionKind) (this callback receiver : Value) : Run Unit := do
  requireCallable callback
  loop 0 fun place => do
    let (_, entries) ← entriesOf kind this
    match entries.nextFrom? place with
    | some ((key, value), next) =>
      let _ ← call callback receiver [value, key, this]
      return .inl next
    | none => return .inr ()

/-- Calls a function of a collection. -/
def callCollection (kind : CollectionKind) (function : CollectionFunction) (this : Value)
    (arguments : List Value) : Run Value := do
  let first := argument arguments 0
  let second := argument arguments 1
  match function with
  | .construct =>
    throwType ("calling a builtin " ++ kind.name ++ " constructor without new is forbidden")
  | .groupBy =>
    requirePresent first
    requireCallable second
    let (_, groups) ← foldValues first ((0, #[]) : Nat × Entries) fun (place, groups) value => do
      let key ← call second .undefined [value, .ofNat place]
      match groups.get? key with
      | some (.object list) => placeProperty list (.ofNat (← lengthOf list)) (.plain value)
      | _ => pure ()
      let groups ← if (groups.place? key).isSome then pure groups
        else pure (groups.put key (← makeArray [value]))
      return ((place + 1, groups), false)
    return .object (← allocate
      { kind := .collection .map groups, parent := some (Intrinsic.collectionPrototype .map) })
  | _ =>
  let (ref, entries) ← entriesOf kind this
  match function with
  | .add =>
    requireKey kind first
    setEntries ref kind (entries.put first first)
    return this
  | .set =>
    requireKey kind first
    setEntries ref kind (entries.put first second)
    return this
  | .clear =>
    setEntries ref kind (entries.map fun _ => none)
    return .undefined
  | .delete =>
    setEntries ref kind (entries.erase first)
    return .boolean (entries.place? first).isSome
  | .entries => makeIterator (.collection ref 0 .entries)
  | .keys => makeIterator (.collection ref 0 .keys)
  | .values => makeIterator (.collection ref 0 .values)
  | .forEach =>
    forEachEntry kind this first second
    return .undefined
  | .get => return (entries.get? first).getD .undefined
  | .has => return .boolean (entries.place? first).isSome
  | .size => return .ofNat entries.present.length
  | .construct | .groupBy => return .undefined

/-! ### Iterators -/

/-- What an iterator hands out for an entry. -/
def entryValue (kind : EntryKind) (key value : Value) : Run Value := do
  match kind with
  | .keys => return key
  | .values => return value
  | .entries => makeArray [key, value]

/-- What an iterator hands out next, and where it stands then. -/
def nextEntry? : IteratorState → Run (Option (Value × IteratorState))
  | .list target next kind => do
    let ref ← toObject target
    if (← lengthOf ref) ≤ next then return none
    let value ← entryValue kind (.ofNat next) (← elementAt ref next)
    return some (value, .list target (next + 1) kind)
  | .codePoints [] => return none
  | .codePoints (code :: rest) =>
    return some (.string (Units.ofCodePoints [code]), .codePoints rest)
  | .collection target next kind => do
    match ← kindOf target with
    | .collection _ entries =>
      match Entries.nextFrom? entries next with
      | some ((key, value), next) =>
        return some (← entryValue kind key value, .collection target next kind)
      | none => return none
    | _ => return none
  | .given [] => return none
  | .given (value :: rest) => return some (value, .given rest)
  | .finished => return none

/-- Calls a function of iterators or generators. -/
def callIterator (function : IteratorFunction) (this : Value) (arguments : List Value) :
    Run Value := do
  let first := argument arguments 0
  match this with
  | .object ref =>
    match function with
    | .itself => return this
    | .next =>
      match ← kindOf ref with
      | .iterator state =>
        match ← nextEntry? state with
        | some (value, state) =>
          change ref fun object => { object with kind := .iterator state }
          makeResult value false
        | none =>
          change ref fun object => { object with kind := .iterator .finished }
          makeResult .undefined true
      | _ => throwType "'this' is not an iterator"
    | .generatorNext => resumeGenerator ref (.next first)
    | .generatorReturn => resumeGenerator ref (.return first)
    | .generatorThrow => resumeGenerator ref (.throw first)
  | _ =>
    match function with
    | .itself => return this
    | _ => throwType "'this' is not an iterator"

end Run

end FencedCode.Script
