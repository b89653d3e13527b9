import FencedCode.Script.Machine

/-!
# Access to objects

How properties are found, assigned, defined, removed and listed.  A property that an object does not
have itself is looked for in its parents; accessors are called.  Arrays keep their length above all
their indices, text objects show their units, and proxies ask their handlers first.
-/

namespace FencedCode.Script

open Text

namespace Run

/-! ### Own properties -/

/-- The object behind proxies, with a limit to their number. -/
def behindProxies : (limit : Nat) → Ref → Run Ref
  | 0, ref => return ref
  | limit + 1, ref => do
    match ← kindOf ref with
    | .proxy target _ => behindProxies limit target
    | _ => return ref

/-- How many proxies can stand in front of one another. -/
def proxyLimit : Nat := 64

/-- The property of a key that an object has besides those it stores. -/
def exoticProperty? (object : Object) (key : PropertyKey) : Option Property :=
  match object.kind, key with
  | .array length writable, .text name =>
    if name == ("length" : Units) then
      some { content := .data (.ofNat length) writable, enumerable := false, configurable := false }
    else none
  | .wrapper (.string text), .text name =>
    if name == ("length" : Units) then some (.fixed (.ofNat text.size)) else none
  | .wrapper (.string text), .index place =>
    if place < text.size then
      some { content := .data (.string (text.slice place (place + 1))) false, configurable := false }
    else none
  | _, _ => none

/-- The property that an object itself has for a key. -/
def ownOf? (object : Object) (key : PropertyKey) : Option Property :=
  (exoticProperty? object key).or (object.properties.get? key)

/-- The property that the object at a place itself has for a key. -/
def own? (ref : Ref) (key : PropertyKey) : Run (Option Property) := do
  return ownOf? (← fetch (← behindProxies proxyLimit ref)) key

/-- The keys of the properties that an object itself has. -/
def keysOf (object : Object) : List PropertyKey :=
  match object.kind with
  | .array .. =>
    let keys := object.properties.keys
    keys.takeWhile (fun | .index _ => true | _ => false) ++ [.text "length"]
      ++ keys.dropWhile (fun | .index _ => true | _ => false)
  | .wrapper (.string text) =>
    (List.range text.size).map .index ++ object.properties.keys ++ [.text "length"]
  | _ => object.properties.keys

/-! ### Reading -/

/-- The value of a property for a receiver. -/
def readProperty (property : Property) (receiver : Value) : Run Value := do
  match property.content with
  | .data value _ => return value
  | .accessor (some getter) _ => call (.object getter) receiver []
  | .accessor none _ => return .undefined

/-- The value of a key, looked for in an object and its parents. -/
def getFrom : (limit : Nat) → Ref → PropertyKey → Value → Run Value
  | 0, _, _, _ => return .undefined
  | limit + 1, ref, key, receiver => do
    let object ← fetch ref
    match object.kind with
    | .proxy target handler =>
      match ← getFrom limit handler "get" (.object handler) with
      | .undefined => getFrom limit target key receiver
      | trap => call trap (.object handler) [.object target, key.toValue, receiver]
    | _ =>
      match ownOf? object key with
      | some property => readProperty property receiver
      | none =>
        match object.parent with
        | some parent => getFrom limit parent key receiver
        | none => return .undefined

/-- How many objects can be asked for one property. -/
def chainLimit : Run Nat := return (← get).objects.size + proxyLimit

/-- The value of a key of an object. -/
def getProperty (ref : Ref) (key : PropertyKey) : Run Value := do
  getFrom (← chainLimit) ref key (.object ref)

/-- The object from which a primitive value takes its properties. -/
def prototypeOf? : Value → Option Ref
  | .object ref => some ref
  | .string _ => some Intrinsic.stringPrototype
  | .number _ => some Intrinsic.numberPrototype
  | .boolean _ => some Intrinsic.booleanPrototype
  | .symbol _ => some Intrinsic.symbolPrototype
  | .bigint _ => some Intrinsic.bigintPrototype
  | .undefined | .null => none

/-- Throws because a missing value was used as an object. -/
def throwMissing {α : Type} : Run α := throwType "cannot convert 'null' or 'undefined' to object"

/-- Throws because a missing value was taken apart. -/
def requirePresent (value : Value) : Run Unit := do
  if value.isMissing then throwType "cannot convert null or undefined to Object"

/-- The value of a key of any value. -/
def getMember (base : Value) (key : PropertyKey) : Run Value := do
  let exotic : Option Property := match base with
    | .string _ => exoticProperty? { kind := .wrapper base, parent := none } key
    | _ => none
  match exotic, prototypeOf? base with
  | some property, _ => readProperty property base
  | none, some ref => getFrom (← chainLimit) ref key base
  | none, none => throwMissing

/-- Whether a value can be called. -/
def isCallable (value : Value) : Run Bool := do
  match value with
  | .object ref =>
    match ← kindOf (← behindProxies proxyLimit ref) with
    | .closure _ | .native _ | .bound .. => return true
    | _ => return false
  | _ => return false

/-- The function that a value has for a key, if it has one. -/
def getMethod (base : Value) (key : PropertyKey) : Run (Option Value) := do
  let method ← getMember base key
  if method.isMissing then return none
  if !(← isCallable method) then throwType "not a callable function"
  return some method

/-- Calls the function that a value has for a key. -/
def callMethod (base : Value) (key : PropertyKey) (arguments : List Value) : Run Value := do
  call (← getMember base key) base arguments

/-- The parent of an object. -/
def parentOf (ref : Ref) : Run (Option Ref) := do
  return (← fetch (← behindProxies proxyLimit ref)).parent

/-- Whether an object or one of its parents has a key. -/
def hasFrom : (limit : Nat) → Ref → PropertyKey → Run Bool
  | 0, _, _ => return false
  | limit + 1, ref, key => do
    let object ← fetch ref
    match object.kind with
    | .proxy target handler =>
      match ← getProperty handler "has" with
      | .undefined => hasFrom limit target key
      | trap =>
        match ← call trap (.object handler) [.object target, key.toValue] with
        | .undefined | .null | .boolean false => return false
        | _ => return true
    | _ =>
      if (ownOf? object key).isSome then return true
      match object.parent with
      | some parent => hasFrom limit parent key
      | none => return false

/-- Whether an object or one of its parents has a key. -/
def hasProperty (ref : Ref) (key : PropertyKey) : Run Bool := do hasFrom (← chainLimit) ref key

/-! ### Writing -/

/-- Removes the indices of an array from a length on, the last one first, up to one that cannot be
removed; the length that results. -/
def cutIndices (properties : Properties) (length : Nat) : Properties × Nat :=
  let beyond := properties.indexed.keys.filter (length ≤ ·)
  let kept? := beyond.reverse.find? fun place =>
    (properties.indexed.get? place).any fun property => !property.configurable
  let reached := match kept? with
    | some kept => kept + 1
    | none => length
  let erase := fun (properties : Properties) place => properties.erase (.index place)
  ((beyond.filter (reached ≤ ·)).foldl erase properties, reached)

/-- Sets the length of an array. -/
def setLength (ref : Ref) (length : Nat) : Run Bool := do
  let object ← fetch ref
  match object.kind with
  | .array old writable =>
    if length == old then return true
    if !writable then return false
    if old < length then
      store ref { object with kind := .array length writable }
      return true
    let (properties, reached) := cutIndices object.properties length
    store ref { object with kind := .array reached writable, properties }
    return reached == length
  | _ => return false

/-- Makes a property, or gives one a new content, without regard to what it was. -/
def placeProperty (ref : Ref) (key : PropertyKey) (property : Property) : Run Unit :=
  change ref fun object =>
    let object := { object with properties := object.properties.put key property }
    match object.kind, key with
    | .array length writable, .index place =>
      if length ≤ place then { object with kind := .array (place + 1) writable } else object
    | _, _ => object

/-- Whether an object can get a property for a key. -/
def canAdd (object : Object) (key : PropertyKey) : Bool :=
  object.extensible &&
    match object.kind, key with
    | .array length writable, .index place => writable || place < length
    | _, _ => true

/-- The length that a value gives to an array. -/
def lengthOf? (value : Value) : Option Nat :=
  match value with
  | .number number =>
    match Decimal.truncate? number with
    | some whole =>
      if 0 ≤ whole ∧ whole < UInt32.size ∧ Decimal.Dyadic.floatOfInt whole == number then
        some whole.toNat
      else none
    | none => none
  | _ => none

/-- Gives an object itself a value for a key. -/
def assignOwn (ref : Ref) (key : PropertyKey) (value : Value) : Run Bool := do
  let ref ← behindProxies proxyLimit ref
  let object ← fetch ref
  match object.kind, key with
  | .array .., .text name =>
    if name == ("length" : Units) then
      match lengthOf? value with
      | some length => return ← setLength ref length
      | none => throwRange "invalid array length"
  | _, _ => pure ()
  match ownOf? object key with
  | some property =>
    match property.content with
    | .data _ true =>
      putProperty ref key { property with content := .data value true }
      return true
    | _ => return false
  | none =>
    if !canAdd object key then return false
    placeProperty ref key (.plain value)
    return true

/-- Assigns a value to a key, as far as the object and its parents permit. -/
def setFrom : (limit : Nat) → Ref → PropertyKey → Value → Value → Run Bool
  | 0, _, _, _, _ => return false
  | limit + 1, ref, key, value, receiver => do
    let object ← fetch ref
    let assign : Run Bool := match receiver with
      | .object target => assignOwn target key value
      | _ => return false
    match object.kind with
    | .proxy target handler =>
      match ← getProperty handler "set" with
      | .undefined => setFrom limit target key value receiver
      | trap =>
        match ← call trap (.object handler) [.object target, key.toValue, value, receiver] with
        | .undefined | .null | .boolean false => return false
        | _ => return true
    | _ =>
      match ownOf? object key with
      | some property =>
        match property.content with
        | .data _ writable => if writable then assign else return false
        | .accessor _ (some setter) =>
          let _ ← call (.object setter) receiver [value]
          return true
        | .accessor _ none => return false
      | none =>
        match object.parent with
        | some parent => setFrom limit parent key value receiver
        | none => assign

/-- Assigns a value to a key of any value.  In strict mode it throws if that is not possible. -/
def setMember (base : Value) (key : PropertyKey) (value : Value) (strict : Bool) : Run Unit := do
  match prototypeOf? base with
  | none => throwMissing
  | some ref =>
    let done ← setFrom (← chainLimit) ref key value base
    if !done && strict then
      throwType ("cannot set non-writable property: " ++ key.toUnits.display)

/-- Assigns a value to a key of an object, and throws if that is not possible. -/
def putValue (ref : Ref) (key : PropertyKey) (value : Value) : Run Unit :=
  setMember (.object ref) key value true

/-! ### Defining -/

/-- A property that is partly given. -/
structure Descriptor where
  value : Option Value := none
  /-- Whether the value can be assigned. -/
  writable : Option Bool := none
  getter : Option (Option Ref) := none
  setter : Option (Option Ref) := none
  enumerable : Option Bool := none
  /-- Whether it can be removed and redefined. -/
  configurable : Option Bool := none

namespace Descriptor

/-- Whether an accessor is described. -/
def isAccessor (descriptor : Descriptor) : Bool :=
  descriptor.getter.isSome || descriptor.setter.isSome

/-- Whether a value is described. -/
def isData (descriptor : Descriptor) : Bool :=
  descriptor.value.isSome || descriptor.writable.isSome

/-- The property that a description makes where there is none. -/
def create (descriptor : Descriptor) : Property :=
  { content :=
      if descriptor.isAccessor then
        .accessor (descriptor.getter.getD none) (descriptor.setter.getD none)
      else .data (descriptor.value.getD .undefined) (descriptor.writable.getD false)
    enumerable := descriptor.enumerable.getD false
    configurable := descriptor.configurable.getD false }

/-- The property that a description makes of another. -/
def update (descriptor : Descriptor) (property : Property) : Property :=
  { content :=
      match property.content with
      | .data value writable =>
        if descriptor.isAccessor then
          .accessor (descriptor.getter.getD none) (descriptor.setter.getD none)
        else .data (descriptor.value.getD value) (descriptor.writable.getD writable)
      | .accessor getter setter =>
        if descriptor.isData then
          .data (descriptor.value.getD .undefined) (descriptor.writable.getD false)
        else .accessor (descriptor.getter.getD getter) (descriptor.setter.getD setter)
    enumerable := descriptor.enumerable.getD property.enumerable
    configurable := descriptor.configurable.getD property.configurable }

/-- Whether a property that cannot be redefined permits a description. -/
def agrees (descriptor : Descriptor) (property : Property) : Bool :=
  descriptor.configurable != some true
    && descriptor.enumerable.all (· == property.enumerable)
    && match property.content with
      | .data value writable =>
        !descriptor.isAccessor
          && (writable || (descriptor.writable != some true
            && descriptor.value.all (Value.same true value)))
      | .accessor getter setter =>
        !descriptor.isData && descriptor.getter.all (· == getter)
          && descriptor.setter.all (· == setter)

end Descriptor

/-- Defines the length of an array. -/
def defineLength (ref : Ref) (descriptor : Descriptor) : Run Bool := do
  let object ← fetch ref
  match object.kind with
  | .array _ writable =>
    if descriptor.isAccessor || descriptor.configurable == some true
        || descriptor.enumerable == some true then return false
    if !writable && descriptor.writable == some true then return false
    let done ← match descriptor.value with
      | some value =>
        match lengthOf? value with
        | some length => setLength ref length
        | none => throwRange "invalid array length"
      | none => pure true
    if descriptor.writable == some false then
      change ref fun object =>
        match object.kind with
        | .array length _ => { object with kind := .array length false }
        | _ => object
    return done
  | _ => return false

/-- Defines a property of an object. -/
def define (ref : Ref) (key : PropertyKey) (descriptor : Descriptor) : Run Bool := do
  let ref ← behindProxies proxyLimit ref
  let object ← fetch ref
  match object.kind, key with
  | .array .., .text name =>
    if name == ("length" : Units) then return ← defineLength ref descriptor
  | _, _ => pure ()
  match ownOf? object key with
  | some property =>
    if !property.configurable && !descriptor.agrees property then return false
    if (exoticProperty? object key).isNone then
      putProperty ref key (descriptor.update property)
    return true
  | none =>
    if !canAdd object key then return false
    placeProperty ref key descriptor.create
    return true

/-- Defines a property of an object, and throws if that is not possible. -/
def defineOrThrow (ref : Ref) (key : PropertyKey) (descriptor : Descriptor) : Run Unit := do
  if !(← define ref key descriptor) then
    throwType ("cannot redefine property: " ++ key.toUnits.display)

/-- Gives an object a property as a literal does. -/
def createProperty (ref : Ref) (key : PropertyKey) (value : Value) : Run Unit := do
  let _ ← define ref key
    { value := some value, writable := some true, enumerable := some true
      configurable := some true }

/-! ### Removing and listing -/

/-- Removes a property of an object, unless it cannot be removed. -/
def deleteProperty (ref : Ref) (key : PropertyKey) : Run Bool := do
  match ← kindOf ref with
  | .proxy target handler =>
    match ← getProperty handler "deleteProperty" with
    | .undefined => pure ()
    | trap =>
      match ← call trap (.object handler) [.object target, key.toValue] with
      | .undefined | .null | .boolean false => return false
      | _ => return true
  | _ => pure ()
  let ref ← behindProxies proxyLimit ref
  match ownOf? (← fetch ref) key with
  | some property =>
    if !property.configurable then return false
    change ref fun object => { object with properties := object.properties.erase key }
    return true
  | none => return true

/-- Whether an object is an array, possibly behind proxies. -/
def isArray (value : Value) : Run Bool := do
  match value with
  | .object ref =>
    match ← kindOf (← behindProxies proxyLimit ref) with
    | .array .. => return true
    | _ => return false
  | _ => return false

/-- The keys of the properties that an object itself has. -/
def ownKeys (ref : Ref) : Run (List PropertyKey) := do
  match ← kindOf ref with
  | .proxy target handler =>
    match ← getProperty handler "ownKeys" with
    | .undefined => return keysOf (← fetch (← behindProxies proxyLimit target))
    | trap =>
      let result ← call trap (.object handler) [.object target]
      match result with
      | .object list =>
        let object ← fetch list
        return object.properties.indexed.values.filterMap fun property =>
          match property.value? with
          | some (.string text) => some (.ofText text)
          | some (.symbol symbol) => some (.symbol symbol)
          | _ => none
      | _ => throwType "not an object"
  | _ => return keysOf (← fetch ref)

/-- The texts among the keys of an object whose properties are listed. -/
def listedKeys (ref : Ref) : Run (List PropertyKey) := do
  (← ownKeys ref).filterM fun key => do
    if !key.isText then return false
    return (← own? ref key).any (·.enumerable)

/-- Copies the listed properties of a value to an object. -/
def copyProperties (ref : Ref) (source : Value) (without : List PropertyKey) : Run Unit := do
  let copy (key : PropertyKey) (value : Value) : Run Unit := do
    if !without.contains key then createProperty ref key value
  match source with
  | .object origin =>
    for key in ← ownKeys origin do
      if (← own? origin key).any (·.enumerable) then
        if !without.contains key then copy key (← getProperty origin key)
  | .string text =>
    for place in List.range text.size do
      copy (.index place) (.string (text.slice place (place + 1)))
  | _ => return

end Run

end FencedCode.Script
