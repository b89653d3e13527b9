import FencedCode.Script.Builtin.Object
import FencedCode.Script.Json

/-!
# Reading and writing structured values

An object takes part in how it is written: its method `toJSON` may put another value in its place, and
so may a function that is given for the purpose.  An object inside itself cannot be written.
-/

namespace FencedCode.Script

open Text

structure JsonLayout where
  /-- The function that replaces values. -/
  replacer : Option Value := none
  /-- The only keys of objects that are written. -/
  chosen : Option (List PropertyKey) := none
  /-- What lines are indented by. -/
  indent : Units := .empty

namespace Run

/-! ### Reading -/

/-- The objects for a structured value. -/
def ofJson : Json → Run Value
  | .null => return .null
  | .boolean value => return .boolean value
  | .number value => return .number value
  | .string text => return .string text
  | .array elements => do makeArray (← elements.attach.mapM fun ⟨element, _⟩ => ofJson element)
  | .object members => do
    let ref ← makeObject
    for ⟨member, _⟩ in members.attach do
      createProperty ref (.ofText member.1) (← ofJson member.2)
    return .object ref
termination_by value => sizeOf value
decreasing_by
  · rename_i contained
    have := List.sizeOf_lt_of_mem contained
    simp only [Json.array.sizeOf_spec]
    omega
  · rename_i contained
    have := List.sizeOf_lt_of_mem contained
    have : sizeOf member = 1 + sizeOf member.1 + sizeOf member.2 := rfl
    simp only [Json.object.sizeOf_spec]
    omega

/-- Lets a function replace the values inside a property, and then its own. -/
def revive (reviver : Value) : (limit : Nat) → (holder : Ref) → PropertyKey → Run Value
  | 0, _, _ => throw .exhausted
  | limit + 1, holder, key => do
    let value ← getProperty holder key
    match value with
    | .object ref =>
      let keys ← if ← isArray value then pure ((List.range (← lengthOf ref)).map .ofNat)
        else listedKeys ref
      for inner in keys do
        match ← revive reviver limit ref inner with
        | .undefined =>
          let _ ← deleteProperty ref inner
        | replaced => createProperty ref inner replaced
    | _ => pure ()
    call reviver (.object holder) [key.toValue, value]

/-- Makes an object that holds a value under the empty key. -/
def holderOf (value : Value) : Run Ref := do
  let ref ← makeObject
  createProperty ref "" value
  return ref

def parseJson (text reviver : Value) : Run Value := do
  match Json.parse? (← toText text) with
  | none => throwNew .syntaxError "invalid JSON"
  | some json =>
    let value ← ofJson json
    if ← isCallable reviver then revive reviver Json.depthLimit (← holderOf value) ""
    else return value

/-! ### Writing -/

/-- The value that is written in the place of a value. -/
def replacedValue (layout : JsonLayout) (holder : Ref) (key : PropertyKey) (value : Value) :
    Run Value := do
  let method ← match value with
    | .object _ | .bigint _ => getMember value "toJSON"
    | _ => pure .undefined
  let value ← if ← isCallable method then call method value [key.toValue] else pure value
  let value ← match layout.replacer with
    | some replacer => call replacer (.object holder) [key.toValue, value]
    | none => pure value
  match value with
  | .object ref =>
    match ← kindOf ref with
    | .wrapper (.number _) => return .number (← toNumber value)
    | .wrapper (.string _) => return .string (← toText value)
    | .wrapper (.boolean flag) => return .boolean flag
    | .wrapper (.bigint whole) => return .bigint whole
    | _ => return value
  | _ => return value

/-- Parts between brackets, on lines of their own if lines are indented. -/
def bracketed (layout : JsonLayout) (indent : Units) (opening closing : Units)
    (parts : List Units) : Units :=
  if parts.isEmpty then opening ++ closing
  else if layout.indent.isEmpty then opening ++ Units.join "," parts ++ closing
  else
    let inner := ("\n" : Units) ++ indent ++ layout.indent
    opening ++ inner ++ Units.join (("," : Units) ++ inner) parts ++ "\n" ++ indent ++ closing

/-- The text of a property inside the objects `outer`, unless its value has none. -/
def writeJson (layout : JsonLayout) :
    (limit : Nat) → (outer : List Ref) → (indent : Units) → (holder : Ref) → PropertyKey →
      Run (Option Units)
  | 0, _, _, _, _ => throw .exhausted
  | limit + 1, outer, indent, holder, key => do
    match ← replacedValue layout holder key (← getProperty holder key) with
    | .null => return some "null"
    | .boolean value => return some (if value then "true" else "false")
    | .string text => return some (Json.quote text)
    | .number value =>
      return some (if value.isFinite then (Decimal.naturalText value : String) else "null")
    | .bigint _ => throwType "cannot serialize bigint to JSON"
    | .undefined | .symbol _ => return none
    | .object ref =>
      if ← isCallable (.object ref) then return none
      if outer.contains ref then throwType "cyclic object value"
      let write := writeJson layout limit (ref :: outer) (indent ++ layout.indent) ref
      if ← isArray (.object ref) then
        let parts ← (List.range (← lengthOf ref)).mapM fun place => do
          return (← write (.ofNat place)).getD "null"
        return some (bracketed layout indent "[" "]" parts)
      let keys ← match layout.chosen with
        | some keys => pure keys
        | none => listedKeys ref
      let colon : Units := if layout.indent.isEmpty then ":" else ": "
      let parts ← keys.filterMapM fun key => do
        return (← write key).map fun text => Json.quote key.toUnits ++ colon ++ text
      return some (bracketed layout indent "\x7b" "\x7d" parts)

/-- The key that an element of a list of keys names, if it names one. -/
def chosenKey? (value : Value) : Run (Option PropertyKey) := do
  match value with
  | .string _ | .number _ => return some (.ofText (← toText value))
  | .object ref =>
    match ← kindOf ref with
    | .wrapper (.string _) | .wrapper (.number _) => return some (.ofText (← toText value))
    | _ => return none
  | _ => return none

/-- What lines are indented by, as a value says. -/
def indentOf (value : Value) : Run Units := do
  let value ← match value with
    | .object ref =>
      match ← kindOf ref with
      | .wrapper (.number _) => .number <$> toNumber value
      | .wrapper (.string _) => .string <$> toText value
      | _ => pure value
    | value => pure value
  match value with
  | .number number => return Units.replicate (clampWhole number 0 10).toNat " "
  | .string text => return text.slice 0 10
  | _ => return .empty

/-- How values are written, as two values say. -/
def layoutOf (replacer indent : Value) : Run JsonLayout := do
  let indent ← indentOf indent
  if ← isCallable replacer then return { replacer := some replacer, indent }
  if ← isArray replacer then
    let keys ← (← elementsOf replacer).filterMapM chosenKey?
    return { chosen := some keys.eraseDups, indent }
  return { indent }

/-- The text of a value, unless it has none. -/
def stringify (value replacer indent : Value) : Run Value := do
  let layout ← layoutOf replacer indent
  let text ← writeJson layout Json.depthLimit [] .empty (← holderOf value) ""
  return (text.map Value.string).getD .undefined

end Run

end FencedCode.Script
