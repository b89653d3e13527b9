import FencedCode.Script.Builtin.Object

/-!
# Objects without a text

An object that has no text of its own is shown by its properties, one to a line, all of them and
without calling accessors.  An object inside itself is only marked.
-/

namespace FencedCode.Script

open Text

namespace Run

/-- The value that an object has for a key, looked for in it and its parents without calling
anything. -/
def heldValue? : (limit : Nat) → Ref → PropertyKey → Run (Option Value)
  | 0, _, _ => return none
  | limit + 1, ref, key => do
    let object ← fetch ref
    match ownOf? object key with
    | some property => return property.value?
    | none =>
      match object.parent with
      | some parent => heldValue? limit parent key
      | none => return none

/-- The name of the constructor of an object, if it has one. -/
def constructorName? (ref : Ref) : Run (Option Units) := do
  let limit ← chainLimit
  match ← heldValue? limit ref "constructor" with
  | some (.object constructor) =>
    match ← heldValue? limit constructor "name" with
    | some (.string name) => return some name
    | _ => return none
  | _ => return none

/-- A key as it is shown. -/
def shownKey : PropertyKey → String
  | .symbol symbol => "Symbol(" ++ (symbol.description.getD .empty).display ++ ")"
  | key => key.toUnits.display

/-- A primitive value as it is shown. -/
def shownPrimitive : Value → String
  | .undefined => "undefined"
  | .null => "null"
  | .boolean value => if value then "true" else "false"
  | .number value =>
    if value == 0 && value.toBits != 0 then "-0" else Decimal.naturalText value
  | .bigint value => toString value ++ "n"
  | .string text => "\"" ++ text.display ++ "\""
  | .symbol symbol => shownKey (.symbol symbol)
  | .object _ => ""

/-- What an accessor is shown as. -/
def shownAccessor (getter setter : Option Ref) : String :=
  match getter, setter with
  | some _, some _ => "Getter & Setter"
  | some _, none => "Getter"
  | none, some _ => "Setter"
  | none, none => "No Getter/Setter"

def blanks (count : Nat) : String := .ofList (List.replicate count ' ')

/-- The text of an error: its name and its message, as far as they are there. -/
def shownError (ref : Ref) : Run String := do
  let limit ← chainLimit
  let held (key : PropertyKey) : Run String := do
    match ← heldValue? limit ref key with
    | some (.string text) => return text.display
    | _ => return ""
  let parts := [← held "name", ← held "message"].filter (· != "")
  return ": ".intercalate parts

/-- A value as it is shown inside the objects `outer`, its lines indented. -/
def inspectInside : (limit : Nat) → (outer : List Ref) → (indent : Nat) → Value → Run String
  | 0, _, _, _ => return "[Nested]"
  | limit + 1, outer, indent, .object ref => do
    if outer.contains ref then return "[Cycle]"
    let object ← fetch ref
    match object.kind with
    | .array length _ => return "Array(" ++ toString length ++ ")"
    | _ => pure ()
    let label := match (← constructorName? ref).map Units.display with
      | some name => if name == "Object" then "" else name ++ " "
      | none => ""
    let shown (key : PropertyKey) : Run (Option String) := do
      match key, object.properties.get? key with
      | .hidden _, _ | _, none => return none
      | key, some property =>
        let text ← match property.content with
          | .data value _ => inspectInside limit (ref :: outer) (indent + 4) value
          | .accessor getter setter => pure (shownAccessor getter setter)
        return some (blanks indent ++ shownKey key ++ ": " ++ text)
    let lines ← object.properties.keys.filterMapM shown
    return label ++ "\x7b\n" ++ ",\n".intercalate lines ++ "\n" ++ blanks (indent - 4) ++ "\x7d"
  | _, _, _, value => return shownPrimitive value

/-- How deeply objects are shown. -/
def inspectionLimit : Nat := 1000

/-- A value as it is shown if it has no text.  An array shows its elements, and an error what it
says. -/
def inspect (value : Value) : Run String := do
  let part (value : Value) : Run String := inspectInside inspectionLimit [] 4 value
  match value with
  | .object ref =>
    let object ← fetch ref
    match object.kind with
    | .error => shownError ref
    | .array length _ =>
      let elements ← (List.range length).mapM fun place =>
        match (object.properties.get? (.ofNat place)).bind Property.value? with
        | some value => part value
        | none => return "<empty>"
      return if elements.isEmpty then "[]" else "[ " ++ ", ".intercalate elements ++ " ]"
    | _ => part value
  | value => part value

/-- The text of a value, or what is shown in its place. -/
def describe (value : Value) : Run String :=
  tryCatch (Units.display <$> toText value) fun _ => inspect value

end Run

end FencedCode.Script
