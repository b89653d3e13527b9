import FencedCode.Script.Builtin.Function

/-!
# Functions on arrays

The functions work on any object with a length.  What is missing at an index is passed over by most
of them.  Sorting keeps the order of elements that are equal.
-/

namespace FencedCode.Script

open Text

namespace Run

/-! ### Going through elements -/

/-- The element at a place. -/
def elementAt (ref : Ref) (place : Nat) : Run Value := getProperty ref (.ofNat place)

/-- The element at a place, if there is one. -/
def elementAt? (ref : Ref) (place : Nat) : Run (Option Value) := do
  if ← hasProperty ref (.ofNat place) then return some (← elementAt ref place)
  return none

/-- Sets the element at a place. -/
def setElement (ref : Ref) (place : Nat) (value : Value) : Run Unit :=
  putValue ref (.ofNat place) value

/-- Sets or removes the element at a place. -/
def setElement? (ref : Ref) (place : Nat) (value : Option Value) : Run Unit := do
  match value with
  | some value => setElement ref place value
  | none =>
    if !(← deleteProperty ref (.ofNat place)) then throwType "Cannot delete property"

/-- Sets the length of an object. -/
def putLength (ref : Ref) (length : Nat) : Run Unit := putValue ref "length" (.ofNat length)

/-- Throws unless a value can be called. -/
def requireCallable (callback : Value) : Run Unit := do
  if !(← isCallable callback) then throwType "not a callable function"

/-- Goes through elements with a state, until the step says that it is done. -/
def foldElements {σ : Type} (places : List Nat) (start : σ) (step : σ → Nat → Run (σ × Bool)) :
    Run σ := do
  let (state, _) ← places.foldlM
    (fun (state, isDone) place => do
      if isDone then return (state, true)
      step state place)
    (start, false)
  return state

/-- Calls a function on an element with its place and the object. -/
def callOn (callback receiver : Value) (ref : Ref) (place : Nat) (value : Value) : Run Value :=
  call callback receiver [value, .ofNat place, .object ref]

/-- The first place with an element that a function accepts, with the element. -/
def findElement? (ref : Ref) (places : List Nat) (callback receiver : Value) :
    Run (Option (Nat × Value)) := do
  requireCallable callback
  foldElements places none fun found place => do
    let value ← elementAt ref place
    if (← callOn callback receiver ref place value).isTrue then return (some (place, value), true)
    return (found, false)

/-! ### Making arrays -/

/-- Makes an array of elements, some of which may be missing. -/
def makeSparse (values : List (Option Value)) : Run Value := do
  let indexed := values.foldl
    (fun (place, indexed) value =>
      (place + 1, match value with
        | some value => indexed.insert place (Property.plain value)
        | none => indexed))
    ((0, {}) : Nat × Std.TreeMap Nat Property)
  return .object (← allocate
    { kind := .array values.length true, parent := some Intrinsic.arrayPrototype
      properties := { indexed := indexed.2 } })

/-- The elements of an object between two places, some of which may be missing. -/
def sparseElements (ref : Ref) (start stop : Nat) : Run (List (Option Value)) :=
  (List.range (stop - start)).mapM fun offset => elementAt? ref (start + offset)

/-- All elements of an object. -/
def allElements (ref : Ref) : Run (List Value) := elementsOf (.object ref)

/-- The elements of lists that are nested up to a depth, as those of one list. -/
def flattened : (depth : Nat) → List (Option Value) → Run (List Value)
  | _, [] => return []
  | depth, none :: rest => flattened depth rest
  | 0, some value :: rest => do
    return value :: (← flattened 0 rest)
  | depth + 1, some value :: rest => do
    if ← isArray value then
      match value with
      | .object ref =>
        let inner ← sparseElements ref 0 (← lengthOf ref)
        return (← flattened depth inner) ++ (← flattened (depth + 1) rest)
      | _ => return []
    return value :: (← flattened (depth + 1) rest)

/-- Makes an array of a class that a constructor stands for: a plain array unless it is another. -/
def constructList (constructor : Value) (values : List Value) : Run Value := do
  let isPlain ← match constructor with
    | .object ref =>
      match ← kindOf ref with
      | .native (.array .construct) => pure true
      | _ => pure false
    | _ => pure true
  if isPlain || !(← isConstructor constructor) then return ← makeArray values
  match constructor with
  | .object ref =>
    let made ← construct ref [] ref
    match made with
    | .object list =>
      let _ ← values.foldlM (fun place value => do
        createProperty list (.ofNat place) value
        return place + 1) 0
      putLength list values.length
    | _ => pure ()
    return made
  | _ => makeArray values

/-- Makes an array as its constructor does. -/
def constructArray (arguments : List Value) (newTarget : Option Ref) : Run Value := do
  let parent ← match newTarget with
    | some newTarget => prototypeFor newTarget Intrinsic.arrayPrototype
    | none => pure Intrinsic.arrayPrototype
  let made ← match arguments with
    | [.number length] =>
      match lengthOf? (.number length) with
      | some length =>
        pure (Value.object (← allocate
          { kind := .array length true, parent := some Intrinsic.arrayPrototype }))
      | none => throwRange "invalid array length"
    | arguments => makeArray arguments
  match made with
  | .object ref => change ref fun object => { object with parent := some parent }
  | _ => pure ()
  return made

/-- The values that an array is made from: those of an iterable, or the elements of an object. -/
def sourceValues (items : Value) : Run (List Value) := do
  requirePresent items
  match ← getMethod items Symbol.iterator with
  | some _ => valuesOf items
  | none => allElements (← toObject items)

/-! ### Sorting -/

/-- Merges two lists in order, of which the first is preferred. -/
def mergeOrdered (precedes : Value → Value → Run Bool) :
    (limit : Nat) → List Value → List Value → Run (List Value)
  | 0, left, right => return left ++ right
  | _, [], right => return right
  | _, left, [] => return left
  | limit + 1, first :: left, second :: right => do
    if ← precedes second first then
      return second :: (← mergeOrdered precedes limit (first :: left) right)
    return first :: (← mergeOrdered precedes limit left (second :: right))

/-- Sorts a list by merging its halves. -/
def sortOrdered (precedes : Value → Value → Run Bool) :
    (limit : Nat) → List Value → Run (List Value)
  | 0, values => return values
  | _, [] => return []
  | _, [value] => return [value]
  | limit + 1, values => do
    let half := values.length / 2
    let left ← sortOrdered precedes limit (values.take half)
    let right ← sortOrdered precedes limit (values.drop half)
    mergeOrdered precedes values.length left right

/-- Whether a value comes before another, in the order of a function or of their texts. -/
def comesBefore (compare : Value) (left right : Value) : Run Bool := do
  if compare.isUndefined then
    let left ← toText left
    let right ← toText right
    return left.lt right
  let order ← toNumber (← call compare .undefined [left, right])
  return order < 0

/-- Sorts values; missing ones go to the end. -/
def sortValues (compare : Value) (values : List Value) : Run (List Value) := do
  let (missing, present) := values.partition (·.isUndefined)
  let sorted ← sortOrdered (comesBefore compare) present.length present
  return sorted ++ missing

/-- Throws unless a value can order others. -/
def requireOrder (compare : Value) : Run Unit := do
  if !compare.isUndefined && !(← isCallable compare) then
    throwType "The comparison function must be either a function or undefined"

/-! ### Texts -/

/-- Runs a part that gives a text of the elements of an object.  Inside itself the object has the
empty text. -/
def withoutCycle (ref : Ref) (part : Run Units) : Run Units := do
  let outer := (← get).joining
  if outer.contains ref then return .empty
  modify ({ · with joining := ref :: outer })
  try part
  finally modify ({ · with joining := outer })

/-- The elements of an object as one text. -/
def joinElements (ref : Ref) (separator : Units) : Run Units := withoutCycle ref do
  let length ← lengthOf ref
  let texts ← (List.range length).mapM fun place => do
    let value ← elementAt ref place
    if value.isMissing then return Units.empty
    toText value
  return Units.join separator texts

/-- Makes an iterator of a built-in object. -/
def makeIterator (state : IteratorState) : Run Value := do
  return .object (← allocate
    { kind := .iterator state, parent := some Intrinsic.iteratorPrototype })

/-- Sets a range of places to values, the others moved as far as needed: the elements removed. -/
def spliceElements (ref : Ref) (start count : Nat) (items : List Value) : Run (List (Option Value)) := do
  let length ← lengthOf ref
  let removed ← sparseElements ref start (start + count)
  let tail ← sparseElements ref (start + count) length
  let stop := start + items.length + tail.length
  let _ ← (items.map some ++ tail).foldlM (fun place value => do
    setElement? ref place value
    return place + 1) start
  for offset in (List.range (length - stop)).reverse do
    setElement? ref (stop + offset) none
  putLength ref stop
  return removed

/-- The start and the number of elements that are replaced. -/
def spliceRange (arguments : List Value) (length : Nat) : Run (Nat × Nat) := do
  let start ← toPlace (argument arguments 0) length 0
  let count ← match arguments.length with
    | 0 => pure 0
    | 1 => pure (length - start)
    | _ => do pure (← toWhole (argument arguments 1) 0 (length - start : Nat)).toNat
  return (start, count)

/-- Folds elements by a function. -/
def reduceElements (ref : Ref) (places : List Nat) (arguments : List Value) : Run Value := do
  let callback := argument arguments 0
  requireCallable callback
  let start : Option Value := arguments[1]?
  let result ← places.foldlM
    (fun held place => do
      match ← elementAt? ref place, held with
      | none, held => return held
      | some value, none => return some value
      | some value, some held =>
        return some (← call callback .undefined [held, value, .ofNat place, .object ref]))
    start
  match result with
  | some value => return value
  | none => throwType "Array.prototype.reduce: called on an empty array and with no initial value"

/-- Calls a function of `Array` or of all arrays. -/
def callArray (function : ArrayFunction) (this : Value) (arguments : List Value) : Run Value := do
  let first := argument arguments 0
  let second := argument arguments 1
  match function with
  | .construct => constructArray arguments none
  | .isArray => return .boolean (← isArray first)
  | .of => constructList this arguments
  | .fromValues =>
    if !second.isUndefined then requireCallable second
    let values ← sourceValues first
    let values ← if second.isUndefined then pure values
      else
        let (_, mapped) ← values.foldlM
          (fun (place, mapped) value => do
            return (place + 1,
              mapped.push (← call second (argument arguments 2) [value, .ofNat place])))
          ((0, #[]) : Nat × Array Value)
        pure mapped.toList
    constructList this values
  | _ =>
  let ref ← toObject this
  let length ← lengthOf ref
  let places := List.range length
  match function with
  | .elementAt =>
    let place ← toWhole first (-farthest) farthest
    let place := if place < 0 then place + length else place
    if 0 ≤ place && place < length then elementAt ref place.toNat else return .undefined
  | .concat =>
    let pieces ← (Value.object ref :: arguments).mapM fun item => do
      match item with
      | .object part =>
        let spreads ← match ← getProperty part Symbol.isConcatSpreadable with
          | .undefined => isArray item
          | flag => pure flag.isTrue
        if spreads then sparseElements part 0 (← lengthOf part) else return [some item]
      | item => return [some item]
    makeSparse pieces.flatten
  | .copyWithin =>
    let target ← toPlace first length 0
    let start ← toPlace second length 0
    let stop ← toPlace (argument arguments 2) length length
    let copied ← sparseElements ref start (min stop (start + (length - target)))
    let _ ← copied.foldlM (fun place value => do
      setElement? ref place value
      return place + 1) target
    return .object ref
  | .entries => makeIterator (.list (.object ref) 0 .entries)
  | .keys => makeIterator (.list (.object ref) 0 .keys)
  | .values => makeIterator (.list (.object ref) 0 .values)
  | .every =>
    requireCallable first
    return .boolean (← foldElements places true fun _ place => do
      match ← elementAt? ref place with
      | some value =>
        let holds := (← callOn first second ref place value).isTrue
        return (holds, !holds)
      | none => return (true, false))
  | .some =>
    requireCallable first
    return .boolean (← foldElements places false fun _ place => do
      match ← elementAt? ref place with
      | some value =>
        let holds := (← callOn first second ref place value).isTrue
        return (holds, holds)
      | none => return (false, false))
  | .fill =>
    let start ← toPlace second length 0
    let stop ← toPlace (argument arguments 2) length length
    for offset in List.range (stop - start) do setElement ref (start + offset) first
    return .object ref
  | .filter =>
    requireCallable first
    let kept ← foldElements places (#[] : Array Value) fun kept place => do
      match ← elementAt? ref place with
      | some value =>
        if (← callOn first second ref place value).isTrue then return (kept.push value, false)
        return (kept, false)
      | none => return (kept, false)
    makeArray kept.toList
  | .find => return ((← findElement? ref places first second).map (·.2)).getD .undefined
  | .findLast => return ((← findElement? ref places.reverse first second).map (·.2)).getD .undefined
  | .findIndex =>
    return ((← findElement? ref places first second).map (Value.ofNat ·.1)).getD (.number (-1))
  | .findLastIndex =>
    return ((← findElement? ref places.reverse first second).map (Value.ofNat ·.1)).getD (.number (-1))
  | .flat =>
    let depth ← if first.isUndefined then pure 1 else toWhole first 0 1000
    makeArray (← flattened depth.toNat (← sparseElements ref 0 length))
  | .flatMap =>
    requireCallable first
    let mapped ← foldElements places (#[] : Array (Option Value)) fun mapped place => do
      match ← elementAt? ref place with
      | some value => return (mapped.push (some (← callOn first second ref place value)), false)
      | none => return (mapped, false)
    makeArray (← flattened 1 mapped.toList)
  | .forEach =>
    requireCallable first
    foldElements places () fun _ place => do
      match ← elementAt? ref place with
      | some value =>
        let _ ← callOn first second ref place value
        return ((), false)
      | none => return ((), false)
    return .undefined
  | .includes =>
    let start ← toPlace second length 0
    return .boolean (← foldElements (places.drop start) false fun _ place => do
      let found := Value.same false (← elementAt ref place) first
      return (found, found))
  | .indexOf =>
    let start ← toPlace second length 0
    foldElements (places.drop start) (.number (-1)) fun found place => do
      match ← elementAt? ref place with
      | some value =>
        if value.strictlyEqual first then return (.ofNat place, true)
        return (found, false)
      | none => return (found, false)
  | .lastIndexOf =>
    let last ← if arguments.length < 2 then pure ((length : Int) - 1)
      else
        let whole ← toWhole second (-farthest) farthest
        pure (if whole < 0 then length + whole else min whole ((length : Int) - 1))
    foldElements (List.range (last + 1).toNat).reverse (.number (-1)) fun found place => do
      match ← elementAt? ref place with
      | some value =>
        if value.strictlyEqual first then return (.ofNat place, true)
        return (found, false)
      | none => return (found, false)
  | .join =>
    let separator ← if first.isUndefined then pure (Units.ofString ",") else toText first
    return .string (← joinElements ref separator)
  | .map =>
    requireCallable first
    let mapped ← places.mapM fun place => do
      match ← elementAt? ref place with
      | some value => return some (← callOn first second ref place value)
      | none => return none
    makeSparse mapped
  | .pop =>
    if length = 0 then
      putLength ref 0
      return .undefined
    let value ← elementAt ref (length - 1)
    setElement? ref (length - 1) none
    putLength ref (length - 1)
    return value
  | .push =>
    let _ ← arguments.foldlM (fun place value => do
      setElement ref place value
      return place + 1) length
    putLength ref (length + arguments.length)
    return .ofNat (length + arguments.length)
  | .reduce => reduceElements ref places arguments
  | .reduceRight => reduceElements ref places.reverse arguments
  | .reverse =>
    let elements ← sparseElements ref 0 length
    let _ ← elements.reverse.foldlM (fun place value => do
      setElement? ref place value
      return place + 1) 0
    return .object ref
  | .shift =>
    match ← sparseElements ref 0 length with
    | [] =>
      putLength ref 0
      return .undefined
    | first :: rest =>
      let _ ← rest.foldlM (fun place value => do
        setElement? ref place value
        return place + 1) 0
      setElement? ref (length - 1) none
      putLength ref (length - 1)
      return first.getD .undefined
  | .slice =>
    let start ← toPlace first length 0
    let stop ← toPlace second length length
    makeSparse (← sparseElements ref start stop)
  | .sort =>
    requireOrder first
    let elements := (← sparseElements ref 0 length).filterMap id
    let sorted ← sortValues first elements
    let _ ← sorted.foldlM (fun place value => do
      setElement ref place value
      return place + 1) 0
    for offset in List.range (length - sorted.length) do
      setElement? ref (sorted.length + offset) none
    return .object ref
  | .splice =>
    let (start, count) ← spliceRange arguments length
    makeSparse (← spliceElements ref start count (arguments.drop 2))
  | .toLocaleString =>
    return .string (← withoutCycle ref do
      let texts ← places.mapM fun place => do
        let value ← elementAt ref place
        if value.isMissing then return Units.empty
        toText (← callMethod value "toLocaleString" [])
      return Units.join "," texts)
  | .toReversed => makeArray (← allElements ref).reverse
  | .toSorted =>
    requireOrder first
    makeArray (← sortValues first (← allElements ref))
  | .toSpliced =>
    let (start, count) ← spliceRange arguments length
    let elements ← allElements ref
    makeArray (elements.take start ++ arguments.drop 2 ++ elements.drop (start + count))
  | .toString =>
    let join ← getProperty ref "join"
    if ← isCallable join then call join (.object ref) []
    else return .string (← objectText (.object ref))
  | .unshift =>
    let elements ← sparseElements ref 0 length
    if !arguments.isEmpty then
      let _ ← (arguments.map some ++ elements).foldlM (fun place value => do
        setElement? ref place value
        return place + 1) 0
    putLength ref (length + arguments.length)
    return .ofNat (length + arguments.length)
  | .replaceAt =>
    let place ← toWhole first (-farthest) farthest
    let place := if place < 0 then place + length else place
    if place < 0 || (length : Int) ≤ place then throwRange "invalid index for array"
    makeArray ((← allElements ref).set place.toNat second)
  | .construct | .isArray | .of | .fromValues => return .undefined

end Run

end FencedCode.Script
