import FencedCode.Script.Function

/-!
# Functions on objects

What `Object` and `Reflect` offer, and what every object has from its topmost parent.
-/

namespace FencedCode.Script

open Text

namespace Run

/-- The argument at a place; a missing one has no value. -/
def argument (arguments : List Value) (place : Nat) : Value := arguments.getD place .undefined

/-! ### Descriptions of properties -/

/-- The function of a description, if it names one. -/
def describedFunction (value : Value) : Run (Option Ref) := do
  match value with
  | .undefined => return none
  | .object ref =>
    if ← isCallable value then return some ref
    throwType "accessor must be a function"
  | _ => throwType "accessor must be a function"

/-- The description of a property that an object gives. -/
def toDescriptor (value : Value) : Run Descriptor := do
  match value with
  | .object ref =>
    let field (name : String) : Run (Option Value) := do
      if ← hasProperty ref name then return some (← getProperty ref name)
      return none
    let flag (name : String) : Run (Option Bool) := do
      return (← field name).map (·.isTrue)
    let enumerable ← flag "enumerable"
    let configurable ← flag "configurable"
    let held ← field "value"
    let writable ← flag "writable"
    let getter ← (← field "get").mapM describedFunction
    let setter ← (← field "set").mapM describedFunction
    let descriptor : Descriptor := { value := held, writable, getter, setter, enumerable, configurable }
    if descriptor.isAccessor && descriptor.isData then
      throwType "property descriptor cannot have both accessors and a value"
    return descriptor
  | _ => throwType "property descriptor must be an object"

/-- The object that describes a property. -/
def ofProperty (property : Property) : Run Value := do
  let optional (ref : Option Ref) : Value := (ref.map Value.object).getD .undefined
  let fields : List (PropertyKey × Value) := match property.content with
    | .data value writable => [("value", value), ("writable", .boolean writable)]
    | .accessor getter setter => [("get", optional getter), ("set", optional setter)]
  let flags : List (PropertyKey × Value) :=
    [("enumerable", .boolean property.enumerable),
     ("configurable", .boolean property.configurable)]
  let ref ← makeObject
  for (key, value) in fields ++ flags do createProperty ref key value
  return .object ref

/-- Defines the properties that an object describes. -/
def defineAll (ref : Ref) (descriptions : Value) : Run Unit := do
  let source ← toObject descriptions
  let described ← ((← ownKeys source).filterM fun key => return (← own? source key).any (·.enumerable))
  let descriptors ← described.mapM fun key => do
    return (key, ← toDescriptor (← getProperty source key))
  for (key, descriptor) in descriptors do defineOrThrow ref key descriptor

/-! ### Integrity -/

/-- Forbids to add properties to an object. -/
def preventExtensions (ref : Ref) : Run Unit := do
  change (← behindProxies proxyLimit ref) fun object => { object with extensible := false }

/-- Forbids to add and remove properties, and to assign them if the object is frozen. -/
def closeObject (ref : Ref) (frozen : Bool) : Run Unit := do
  preventExtensions ref
  for key in ← ownKeys ref do
    match ← own? ref key with
    | some { content := .data .., .. } =>
      let _ ← define ref key
        { configurable := some false, writable := if frozen then some false else none }
    | _ =>
      let _ ← define ref key { configurable := some false }

/-- Whether an object is closed, or even frozen. -/
def isClosed (ref : Ref) (frozen : Bool) : Run Bool := do
  if (← fetch (← behindProxies proxyLimit ref)).extensible then return false
  (← ownKeys ref).allM fun key => do
    match ← own? ref key with
    | some property =>
      return !property.configurable && !(frozen && match property.content with
        | .data _ writable => writable
        | .accessor .. => false)
    | none => return true

/-- Sets the parent of an object, unless that makes a circle or the object is closed. -/
def setParent (ref : Ref) (parent : Option Ref) : Run Bool := do
  let ref ← behindProxies proxyLimit ref
  let object ← fetch ref
  if object.parent == parent then return true
  if !object.extensible then return false
  match parent with
  | some parent =>
    if parent == ref || (← isAbove ref (← chainLimit) parent) then return false
  | none => pure ()
  change ref fun object => { object with parent }
  return true

/-- The parent that a value stands for. -/
def toParent (value : Value) : Run (Option Ref) := do
  match value with
  | .object ref => return some ref
  | .null => return none
  | _ => throwType "prototype must be an object or null"

/-! ### Functions -/

/-- The keys of an object as values. -/
def listKeys (value : Value) : Run (List Value) := do
  return (← listedKeys (← toObject value)).map (·.toValue)

/-- The listed properties of an object as pairs. -/
def listEntries (value : Value) : Run (List (PropertyKey × Value)) := do
  let ref ← toObject value
  (← listedKeys ref).mapM fun key => return (key, ← getProperty ref key)

/-- The name of what an object is, as its text shows it. -/
def builtinTag (ref : Ref) : Run String := do
  if ← isArray (.object ref) then return "Array"
  if ← isCallable (.object ref) then return "Function"
  match ← kindOf ref with
  | .error => return "Error"
  | .wrapper (.boolean _) => return "Boolean"
  | .wrapper (.number _) => return "Number"
  | .wrapper (.string _) => return "String"
  | .arguments => return "Arguments"
  | .regexp .. => return "RegExp"
  | _ => return "Object"

/-- The text of an object that has none of its own. -/
def objectText (this : Value) : Run Units := do
  match this with
  | .undefined => return "[object Undefined]"
  | .null => return "[object Null]"
  | this =>
    let ref ← toObject this
    let tag : Units ← match ← getProperty ref Symbol.toStringTag with
      | .string tag => pure tag
      | _ => do pure (Units.ofString (← builtinTag ref))
    return ("[object " : Units) ++ tag ++ "]"

/-- Groups values by the keys that a function gives them, in the order of the first of each. -/
def groupValues {κ : Type} [BEq κ] (items : Value) (keyOf : Value → Nat → Run κ) :
    Run (List (κ × List Value)) := do
  let (_, groups) ← foldValues items ((0, []) : Nat × List (κ × List Value))
    fun (place, groups) value => do
      let key ← keyOf value place
      let groups := if groups.any (·.1 == key) then
          groups.map fun (other, held) =>
            if other == key then (other, held ++ [value]) else (other, held)
        else groups ++ [(key, [value])]
      return ((place + 1, groups), false)
  return groups

/-- Calls a function of `Object` or of all objects. -/
def callObject (function : ObjectFunction) (this : Value) (arguments : List Value) : Run Value := do
  let first := argument arguments 0
  let second := argument arguments 1
  match function with
  | .construct =>
    if first.isMissing then return .object (← makeObject)
    return .object (← toObject first)
  | .assign =>
    let target ← toObject first
    for source in arguments.tail do
      match source with
      | .object origin =>
        for key in ← ownKeys origin do
          if (← own? origin key).any (·.enumerable) then
            putValue target key (← getProperty origin key)
      | .string text =>
        for place in List.range text.size do
          putValue target (.index place) (.string (text.slice place (place + 1)))
      | _ => pure ()
    return .object target
  | .create =>
    match first with
    | .object _ | .null =>
      let ref ← allocate { parent := first.ref? }
      if !second.isUndefined then defineAll ref second
      return .object ref
    | _ => throwType "Object prototype may only be an Object or null"
  | .defineProperties =>
    match first with
    | .object ref =>
      defineAll ref second
      return first
    | _ => throwType "Expected an object"
  | .defineProperty =>
    match first with
    | .object ref =>
      let key ← toKey second
      defineOrThrow ref key (← toDescriptor (argument arguments 2))
      return first
    | _ => throwType "Object.defineProperty called on non-object"
  | .entries =>
    makeArray (← (← listEntries first).mapM fun (key, value) => makeArray [key.toValue, value])
  | .values => makeArray ((← listEntries first).map (·.2))
  | .keys => makeArray (← listKeys first)
  | .freeze | .closeOff =>
    match first with
    | .object ref => closeObject ref (match function with | .freeze => true | _ => false)
    | _ => pure ()
    return first
  | .isFrozen | .isSealed =>
    match first with
    | .object ref => return .boolean (← isClosed ref (match function with | .isFrozen => true | _ => false))
    | _ => return .boolean true
  | .preventExtensions =>
    match first with
    | .object ref => preventExtensions ref
    | _ => pure ()
    return first
  | .isExtensible =>
    match first with
    | .object ref => return .boolean (← fetch (← behindProxies proxyLimit ref)).extensible
    | _ => return .boolean false
  | .fromEntries =>
    requirePresent first
    let ref ← makeObject
    foldValues first () fun _ entry => do
      match entry with
      | .object pair =>
        let key ← toKey (← getProperty pair (.index 0))
        createProperty ref key (← getProperty pair (.index 1))
        return ((), false)
      | _ => throwType "cannot get key and value from primitive item of \x60iterable\x60"
    return .object ref
  | .getOwnPropertyDescriptor =>
    let ref ← toObject first
    match ← own? ref (← toKey second) with
    | some property => ofProperty property
    | none => return .undefined
  | .getOwnPropertyDescriptors =>
    let ref ← toObject first
    let result ← makeObject
    for key in ← ownKeys ref do
      match ← own? ref key with
      | some property => createProperty result key (← ofProperty property)
      | none => pure ()
    return .object result
  | .getOwnPropertyNames =>
    makeArray (((← ownKeys (← toObject first)).filter (·.isText)).map (·.toValue))
  | .getOwnPropertySymbols =>
    makeArray (((← ownKeys (← toObject first)).filter (·.isSymbol)).map (·.toValue))
  | .getPrototypeOf =>
    return ((← parentOf (← toObject first)).map Value.object).getD .null
  | .setPrototypeOf =>
    requirePresent first
    let parent ← toParent second
    match first with
    | .object ref =>
      if !(← setParent ref parent) then throwType "can't set prototype of this object"
    | _ => pure ()
    return first
  | .groupBy =>
    requirePresent first
    let groups ← groupValues first fun value place => do
      toKey (← call second .undefined [value, .ofNat place])
    let ref ← allocate { parent := none }
    for (key, values) in groups do createProperty ref key (← makeArray values)
    return .object ref
  | .hasOwn =>
    let ref ← toObject first
    return .boolean (← own? ref (← toKey second)).isSome
  | .is => return .boolean (Value.same true first second)
  | .hasOwnProperty =>
    let key ← toKey first
    return .boolean (← own? (← toObject this) key).isSome
  | .isPrototypeOf =>
    match first with
    | .object ref => return .boolean (← isAbove (← toObject this) (← chainLimit) ref)
    | _ => return .boolean false
  | .propertyIsEnumerable =>
    let key ← toKey first
    return .boolean ((← own? (← toObject this) key).any (·.enumerable))
  | .toLocaleString => callMethod this "toString" []
  | .toString => return .string (← objectText this)
  | .valueOf => return .object (← toObject this)
  | .getProto => return ((← parentOf (← toObject this)).map Value.object).getD .null
  | .setProto =>
    match this, first with
    | .object ref, .object _ | .object ref, .null =>
      if !(← setParent ref first.ref?) then throwType "can't set prototype of this object"
    | _, _ => pure ()
    return .undefined

/-- The object that a function of `Reflect` works on. -/
def reflected (value : Value) : Run Ref := do
  match value with
  | .object ref => return ref
  | _ => throwType "target must be an object"

/-- Calls a function of `Reflect`. -/
def callReflect (function : ReflectFunction) (arguments : List Value) : Run Value := do
  let ref ← reflected (argument arguments 0)
  let second := argument arguments 1
  let third := argument arguments 2
  match function with
  | .apply => call (.object ref) second (← elementsOf third)
  | .construct =>
    let newTarget := if arguments.length < 3 then .object ref else third
    if !(← isConstructor (.object ref)) then throwType "target must be a constructor"
    match newTarget with
    | .object target =>
      if !(← isConstructor newTarget) then throwType "newTarget must be a constructor"
      construct ref (← elementsOf second) target
    | _ => throwType "newTarget must be a constructor"
  | .defineProperty =>
    let key ← toKey second
    return .boolean (← define ref key (← toDescriptor third))
  | .deleteProperty => return .boolean (← deleteProperty ref (← toKey second))
  | .get =>
    let receiver := if arguments.length < 3 then .object ref else third
    getFrom (← chainLimit) ref (← toKey second) receiver
  | .set =>
    let receiver := if arguments.length < 4 then .object ref else argument arguments 3
    return .boolean (← setFrom (← chainLimit) ref (← toKey second) third receiver)
  | .getOwnPropertyDescriptor =>
    match ← own? ref (← toKey second) with
    | some property => ofProperty property
    | none => return .undefined
  | .getPrototypeOf => return ((← parentOf ref).map Value.object).getD .null
  | .setPrototypeOf => return .boolean (← setParent ref (← toParent second))
  | .has => return .boolean (← hasProperty ref (← toKey second))
  | .isExtensible => return .boolean (← fetch (← behindProxies proxyLimit ref)).extensible
  | .preventExtensions =>
    preventExtensions ref
    return .boolean true
  | .ownKeys => makeArray ((← ownKeys ref).map (·.toValue))

end Run

end FencedCode.Script
