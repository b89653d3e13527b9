import FencedCode.Script.Function

/-!
# Evaluating expressions

The value of each form of expression, given the values of its parts.  Operands are evaluated from the
left, and a call evaluates its callee together with the value that it is called on.
-/

namespace FencedCode.Script

open Text

namespace Run

/-- The values of arguments or elements. -/
def evaluateElements (context : Context) (elements : List Element) : Run (List Value) := do
  let values ← elements.foldlM
    (fun values element => do
      match element with
      | .hole => return values.push .undefined
      | .single expr => return values.push (← evaluate context expr)
      | .spread expr => return values ++ (← valuesOf (← evaluate context expr)).toArray)
    (#[] : Array Value)
  return values.toList

/-- An array literal; what is left out makes no element. -/
def evaluateArray (context : Context) (elements : List Element) : Run Value := do
  let (length, indexed) ← elements.foldlM
    (fun (length, indexed) element => do
      let add := fun ((length, indexed) : Nat × Std.TreeMap Nat Property) value =>
        (length + 1, indexed.insert length (Property.plain value))
      match element with
      | .hole => return (length + 1, indexed)
      | .single expr => return add (length, indexed) (← evaluate context expr)
      | .spread expr => return (← valuesOf (← evaluate context expr)).foldl add (length, indexed))
    ((0, {}) : Nat × Std.TreeMap Nat Property)
  return .object (← allocate
    { kind := .array length true, parent := some Intrinsic.arrayPrototype, properties := { indexed } })

/-! ### Members -/

/-- The value of a hidden member. -/
def getHidden (base : Value) (name : String) : Run Value := do
  match base with
  | .object ref =>
    match ← own? ref (.hidden name) with
    | some property => readProperty property base
    | none => throwType ("private member '#" ++ name ++ "' is not defined")
  | _ => throwType ("private member '#" ++ name ++ "' is not defined")

/-- The member of a value for a key of an expression. -/
def evaluateMember (context : Context) (base : Value) (key : Key) : Run Value := do
  match key with
  | .hidden name => getHidden base name
  | .fixed text => getMember base (.ofText text)
  | .computed expr =>
    let key ← evaluate context expr
    if base.isMissing then throwMissing
    getMember base (← toKey key)

/-- The member that `super` has for a key. -/
def evaluateSuper (context : Context) (key : Key) : Run Value := do
  let key ← evaluateKey context key
  let this ← readThis context
  match ← superObject context with
  | some ref => getFrom (← chainLimit) ref key this
  | none => throwMissing

/-- A step of a chain: the next value with what it is called on, unless the chain ends. -/
def followLink (context : Context) (value this : Value) (link : Link) :
    Run (Option (Value × Value)) := do
  match link with
  | .member isOptional key =>
    if isOptional && value.isMissing then return none
    return some (← evaluateMember context value key, value)
  | .call isOptional arguments =>
    if isOptional && value.isMissing then return none
    return some (← call value this (← evaluateElements context arguments), .undefined)

/-- Follows the steps of a chain. -/
def followChain (context : Context) (value this : Value) : List Link → Run (Value × Value)
  | [] => return (value, this)
  | link :: rest => do
    match ← followLink context value this link with
    | some (value, this) => followChain context value this rest
    | none => return (.undefined, .undefined)

/-- A callee with the value that it is called on. -/
def evaluateCallee (context : Context) (callee : Expr) : Run (Value × Value) := do
  match callee with
  | .member base key =>
    let base ← evaluate context base
    return (← evaluateMember context base key, base)
  | .superMember key => return (← evaluateSuper context key, ← readThis context)
  | .chain base links =>
    match base with
    | .member inner key =>
      let inner ← evaluate context inner
      followChain context (← evaluateMember context inner key) inner links
    | base => followChain context (← evaluate context base) .undefined links
  | callee => return (← evaluate context callee, .undefined)

/-! ### Objects -/

/-- The property that an accessor makes together with one that is there. -/
def accessorProperty (role : MemberRole) (function : Ref) (held : Option Property)
    (enumerable : Bool) : Property :=
  let (getter, setter) := match held with
    | some { content := .accessor getter setter, .. } => (getter, setter)
    | _ => (none, none)
  match role with
  | .getter => { content := .accessor (some function) setter, enumerable }
  | .setter => { content := .accessor getter (some function), enumerable }
  | .method => { content := .data (.object function) true, enumerable }

/-- The word in front of the name of an accessor. -/
def roleMark : MemberRole → String
  | .getter => "get"
  | .setter => "set"
  | .method => ""

/-- Gives an object a method or an accessor. -/
def defineMethod (ref : Ref) (role : MemberRole) (key : PropertyKey) (function : Ref)
    (enumerable : Bool) : Run Unit := do
  setFunctionName function key (roleMark role)
  let object ← fetch ref
  if ((ownOf? object key).all (·.configurable)) then
    placeProperty ref key (accessorProperty role function (ownOf? object key) enumerable)
  else throwType ("cannot redefine property: " ++ key.toUnits.display)

/-- Names a function without a name after a computed key. -/
def nameComputed (key : Key) (found : PropertyKey) (expr : Expr) (value : Value) : Run Unit := do
  match key, expr, value with
  | .computed _, .function index, .object ref =>
    if (← functionAt index).name.isEmpty then setFunctionName ref found
  | _, _, _ => return

/-- Adds a part of an object literal. -/
def addMember (context : Context) (ref : Ref) (member : Member) : Run Unit := do
  match member with
  | .property key expr =>
    let found ← evaluateKey context key
    let value ← evaluate context expr
    nameComputed key found expr value
    createProperty ref found value
  | .prototype expr =>
    match ← evaluate context expr with
    | .object parent => change ref fun object => { object with parent := some parent }
    | .null => change ref fun object => { object with parent := none }
    | _ => return
  | .accessor role key index =>
    let key ← evaluateKey context key
    let function ← makeClosure index context.scopes (some ref)
    defineMethod ref role key function true
  | .spread expr => copyProperties ref (← evaluate context expr) []

/-! ### Classes -/

/-- The parent of what a class makes, and the parent of the class itself. -/
def evaluateHeritage (context : Context) (parent : Option Expr) : Run (Option Ref × Ref) := do
  match parent with
  | none => return (some Intrinsic.objectPrototype, Intrinsic.functionPrototype)
  | some expr =>
    match ← evaluate context expr with
    | .null => return (none, Intrinsic.functionPrototype)
    | .object ref =>
      if !(← isConstructor (.object ref)) then throwType "superclass must be a constructor"
      match ← getProperty ref "prototype" with
      | .object prototype => return (some prototype, ref)
      | .null => return (none, ref)
      | _ => throwType "superclass prototype must be an object or null"
    | _ => throwType "superclass must be a constructor"

/-- Something that a class does to itself after its methods are defined. -/
inductive ClassStep where
  | field (key : PropertyKey) (value : Option Ref)
  | initializer (function : Ref)

/-- What the members of a class add up to. -/
structure ClassParts where
  /-- What is given to instances. -/
  fields : List Field := []
  /-- What is done to the class itself. -/
  steps : List ClassStep := []

/-- Adds a member of a class. -/
def addClassMember (context : Context) (constructor prototype : Ref) (parts : ClassParts)
    (member : ClassMember) : Run ClassParts := do
  let homeOf := fun onClass => if onClass then constructor else prototype
  match member with
  | .accessor onClass role key index =>
    let key ← evaluateKey context key
    let home := homeOf onClass
    let function ← makeClosure index context.scopes (some home)
    match key with
    | .hidden _ =>
      setFunctionName function key (roleMark role)
      if onClass then
        let held ← own? constructor key
        let property := accessorProperty role function held false
        putProperty constructor key (match role with
          | .method => .fixed (.object function)
          | _ => property)
        return parts
      let held := (parts.fields.find? (·.key == key)).bind (·.method)
      let property := match role with
        | .method => Property.fixed (.object function)
        | _ => accessorProperty role function held false
      let others := parts.fields.filter (·.key != key)
      let before := others.filter (·.method.isSome)
      let after := others.filter (·.method.isNone)
      return { parts with fields := before ++ { key, value := none, method := some property } :: after }
    | key =>
      defineMethod home role key function false
      return parts
  | .field onClass key index =>
    let key ← evaluateKey context key
    let value ← index.mapM fun index => makeClosure index context.scopes (some (homeOf onClass))
    if onClass then return { parts with steps := parts.steps ++ [.field key value] }
    return { parts with fields := parts.fields ++ [{ key, value }] }
  | .initializer index =>
    let function ← makeClosure index context.scopes (some constructor)
    return { parts with steps := parts.steps ++ [.initializer function] }

def evaluateClass (context : Context) (node : ClassNode) : Run Value := do
  let context ← enter { context with strict := true }
    (if node.namesItself then [(node.name, { value := none, kind := .constant })] else [])
  let (parent, above) ← evaluateHeritage context node.parent
  let prototype ← allocate { parent }
  let constructor ← makeClosure node.constructor context.scopes (some prototype)
  change constructor fun object => { object with parent := some above }
  putProperty constructor "prototype" (.fixed (.object prototype))
  putProperty prototype "constructor" (.unlisted (.object constructor))
  let parts ← node.members.foldlM (addClassMember context constructor prototype) {}
  change constructor fun object =>
    match object.kind with
    | .closure closure => { object with kind := .closure { closure with fields := parts.fields } }
    | _ => object
  if node.namesItself then bindFirst context .constant node.name (.object constructor)
  for step in parts.steps do
    match step with
    | .field key value => makeFields constructor [{ key, value }]
    | .initializer function =>
      let _ ← call (.object function) (.object constructor) []
  return .object constructor

/-- Calls the constructor above the one that is running. -/
def evaluateSuperCall (context : Context) (arguments : List Element) : Run Value := do
  match ← findActivation? context.scopes with
  | some (scope, activation) =>
    let parent ← parentOf activation.callee
    let values ← evaluateElements context arguments
    match parent with
    | some parent =>
      if !(← isConstructor (.object parent)) then throwType "super constructor object is not constructor"
      let made ← construct parent values (activation.newTarget.getD activation.callee)
      match (← fetchScope scope).activation with
      | some now =>
        if now.this.isSome then throwNew .referenceError "this already initialized"
        changeScope scope fun scope => { scope with activation := some { now with this := some made } }
      | none => pure ()
      match made, ← kindOf activation.callee with
      | .object ref, .closure closure => makeFields ref closure.fields
      | _, _ => pure ()
      return made
    | none => throwType "super constructor object is not constructor"
  | none => throwNew .syntaxError "unexpected super"

/-! ### Templates -/

/-- The object that a tag gets for the texts of a template. -/
def makeTemplate (texts : List (Option Units)) (written : List Units) : Run Value := do
  let frozen (values : List Value) : Run Ref := do
    let array ← makeArray values
    match array with
    | .object ref =>
      change ref fun object =>
        { object with
          kind := .array values.length false, extensible := false
          properties.indexed := object.properties.indexed.map fun _ property =>
            { property with
              content := .data (property.value?.getD .undefined) false, configurable := false } }
      return ref
    | _ => makeObject
  let raw ← frozen (written.map .string)
  let template ← frozen (texts.map fun text => (text.map Value.string).getD .undefined)
  putProperty template "raw" (.fixed (.object raw))
  return .object template

/-- A template as a text. -/
def evaluateTemplate (context : Context) (texts : List Units) (values : List Expr) : Run Units := do
  let written ← values.mapM fun value => do toText (← evaluate context value)
  let pieces := texts.tail.zip written
  return pieces.foldl (fun joined (text, value) => joined ++ value ++ text) (texts.headD .empty)

/-! ### Changes in place -/

/-- Reads a target, computes its new value, and assigns it unless there is none.  The parts of the
target are evaluated once. -/
def modifyPlace {α : Type} (context : Context) (target : Expr)
    (compute : Value → Run (Option Value × α)) : Run α := do
  match target with
  | .name name =>
    let (value, result) ← compute (← readName context name)
    match value with
    | some value => writeName context name value
    | none => pure ()
    return result
  | .member base (.hidden name) =>
    let object ← evaluate context base
    let (value, result) ← compute (← getHidden object name)
    match value with
    | some value => setHidden object name value
    | none => pure ()
    return result
  | .member base key =>
    let object ← evaluate context base
    let key ← evaluateKey context key
    let (value, result) ← compute (← getMember object key)
    match value with
    | some value => setMember object key value context.strict
    | none => pure ()
    return result
  | .superMember key =>
    let key ← evaluateKey context key
    let this ← readThis context
    let old ← match ← superObject context with
      | some ref => getFrom (← chainLimit) ref key this
      | none => throwMissing
    let (value, result) ← compute old
    match value with
    | some value => setMember this key value context.strict
    | none => pure ()
    return result
  | _ => throwNew .syntaxError "invalid assignment target"

/-- Whether a logical operator is decided by its left operand. -/
def isDecided (op : LogicalOp) (value : Value) : Bool :=
  match op with
  | .and => !value.isTrue
  | .or => value.isTrue
  | .coalesce => !value.isMissing

/-- Removes what an expression names. -/
def evaluateDelete (context : Context) (operand : Expr) : Run Value := do
  let remove (base : Value) (key : PropertyKey) : Run Value := do
    let ref ← toObject base
    let done ← deleteProperty ref key
    if !done && context.strict then throwType "Cannot delete property"
    return .boolean done
  match operand with
  | .member base key =>
    let base ← evaluate context base
    remove base (← evaluateKey context key)
  | .name name =>
    match ← findBinding? name context.scopes with
    | some _ => return .boolean false
    | none => return .boolean (← deleteProperty Intrinsic.globalObject name)
  | .chain base links =>
    match links.getLast? with
    | some (.member isOptional key) =>
      let (value, _) ← evaluateCallee context (.chain base links.dropLast)
      if value.isMissing && (isOptional || links.length > 1) then return .boolean true
      remove value (← evaluateKey context key)
    | _ =>
      let _ ← evaluate context operand
      return .boolean true
  | operand =>
    let _ ← evaluate context operand
    return .boolean true

/-- The value of an expression, from the values of its parts. -/
def evaluateForm (context : Context) (expr : Expr) : Run Value := do
  match expr with
  | .undefined => return .undefined
  | .null => return .null
  | .boolean value => return .boolean value
  | .number value => return .number value
  | .bigint value => return .bigint value
  | .string text => return .string text
  | .regexp source flags =>
    let properties : Properties := {}
    return .object (← allocate
      { kind := .regexp source flags, parent := some Intrinsic.regexpPrototype
        properties := properties.put "lastIndex"
          { content := .data (.number 0) true, enumerable := false, configurable := false } })
  | .template texts values => return .string (← evaluateTemplate context texts values)
  | .tagged tag texts written values =>
    let (callee, this) ← evaluateCallee context tag
    let template ← makeTemplate texts written
    let values ← values.mapM (evaluate context)
    call callee this (template :: values)
  | .name name => readName context name
  | .this => readThis context
  | .newTarget =>
    match ← findActivation? context.scopes with
    | some (_, { newTarget := some ref, .. }) => return .object ref
    | _ => return .undefined
  | .array elements => evaluateArray context elements
  | .object members =>
    let ref ← makeObject
    members.forM (addMember context ref)
    return .object ref
  | .function index => return .object (← makeClosure index context.scopes)
  | .class index => evaluateClass context ((← get).code.classes.getD index default)
  | .unary .typeOf (.name name) =>
    match ← readName? context name with
    | some value => return .string (← typeName value)
    | none => return .string "undefined"
  | .unary op operand => unary op (← evaluate context operand)
  | .delete operand => evaluateDelete context operand
  | .binary op left right =>
    let left ← evaluate context left
    let right ← evaluate context right
    binary op left right
  | .logical op left right =>
    let left ← evaluate context left
    if isDecided op left then return left
    evaluate context right
  | .conditional condition yes no =>
    if (← evaluate context condition).isTrue then evaluate context yes else evaluate context no
  | .sequence first second =>
    let _ ← evaluate context first
    evaluate context second
  | .update target increment givesNew =>
    modifyPlace context target fun old => do
      let old ← toNumeric old
      let new := step increment old
      let result := match old with
        | .inl value => Value.number value
        | .inr value => .bigint value
      return (some new, if givesNew then new else result)
  | .assign target value =>
    match target with
    | .name name =>
      let value ← evaluate context value
      writeName context name value
      return value
    | .place place => assignPlace context place (evaluate context value)
    | target =>
      let value ← evaluate context value
      bindPattern patternLimit context .assign target value
      return value
  | .assignWith op target value =>
    modifyPlace context target fun old => do
      let new ← binary op old (← evaluate context value)
      return (some new, new)
  | .assignUnless op target value =>
    modifyPlace context target fun old => do
      if isDecided op old then return (none, old)
      let new ← evaluate context value
      return (some new, new)
  | .member base key =>
    let base ← evaluate context base
    evaluateMember context base key
  | .superMember key => evaluateSuper context key
  | .call callee arguments =>
    let (callee, this) ← evaluateCallee context callee
    let values ← evaluateElements context arguments
    call callee this values
  | .superCall arguments => evaluateSuperCall context arguments
  | .construct callee arguments =>
    let callee ← evaluate context callee
    let values ← evaluateElements context arguments
    match callee with
    | .object ref =>
      if !(← isConstructor callee) then throwType "not a constructor"
      construct ref values ref
    | _ => throwType "not a constructor"
  | .chain _ _ => return (← evaluateCallee context expr).1
  | .hasHidden name base =>
    match ← evaluate context base with
    | .object ref => return .boolean (← own? ref (.hidden name)).isSome
    | _ => throwType "right-hand side of 'in' should be an object"
  | .await operand =>
    let _ ← evaluate context operand
    throw .waiting

end Run

end FencedCode.Script
