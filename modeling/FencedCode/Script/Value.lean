import FencedCode.Decimal.Notation
import FencedCode.Text.Units

/-!
# Values of scripts

A value is a primitive one, or the place of an object in the store.  Properties are found by keys.
Keys that are written as array indices are told apart, since they come first and in ascending order
wherever keys are listed.
-/

namespace FencedCode.Script

open Text

/-- The place of an object in the store. -/
abbrev Ref := Nat

/-- A key that differs from all others, with a text to show. -/
structure Symbol where
  id : Nat
  description : Option Units
deriving Repr, Inhabited

namespace Symbol

instance : BEq Symbol := ⟨fun left right => left.id == right.id⟩

/-- A symbol that the language itself looks for. -/
def wellKnown (id : Nat) (name : String) : Symbol := ⟨id, some ("Symbol." ++ name : String)⟩

/-- Finds how to go through the values of an object. -/
def iterator : Symbol := wellKnown 0 "iterator"

/-- Finds how to wait for the values of an object. -/
def asyncIterator : Symbol := wellKnown 1 "asyncIterator"

/-- Finds how to tell whether a value is an instance. -/
def hasInstance : Symbol := wellKnown 2 "hasInstance"

/-- Finds how to turn an object into a primitive value. -/
def toPrimitive : Symbol := wellKnown 3 "toPrimitive"

/-- Finds the name under which an object is shown. -/
def toStringTag : Symbol := wellKnown 4 "toStringTag"

/-- Finds whether an object is spread when lists are joined. -/
def isConcatSpreadable : Symbol := wellKnown 5 "isConcatSpreadable"

/-- Finds how derived lists are made. -/
def species : Symbol := wellKnown 6 "species"

/-- The symbols of the language, with their names. -/
def wellKnowns : List (String × Symbol) :=
  [("iterator", iterator), ("asyncIterator", asyncIterator), ("hasInstance", hasInstance),
   ("toPrimitive", toPrimitive), ("toStringTag", toStringTag),
   ("isConcatSpreadable", isConcatSpreadable), ("species", species)]

end Symbol

inductive Value where
  | undefined
  | null
  | boolean (value : Bool)
  | number (value : Float)
  | bigint (value : Int)
  | string (text : Units)
  | symbol (symbol : Symbol)
  | object (ref : Ref)
deriving Repr, Inhabited

namespace Value

instance : Coe String Value := ⟨fun text => .string text⟩

/-- A natural number as a value. -/
def ofNat (value : Nat) : Value := .number (Decimal.Dyadic.floatOfInt value)

/-- A whole number as a value. -/
def ofInt (value : Int) : Value := .number (Decimal.Dyadic.floatOfInt value)

/-- The object of a value. -/
def ref? : Value → Option Ref
  | object ref => some ref
  | _ => none

/-- Whether a value is missing. -/
def isMissing : Value → Bool
  | undefined | null => true
  | _ => false

/-- Whether there is no value. -/
def isUndefined : Value → Bool
  | undefined => true
  | _ => false

/-- Whether values are equal without conversion. -/
def strictlyEqual : Value → Value → Bool
  | undefined, undefined | null, null => true
  | boolean left, boolean right => left == right
  | number left, number right => left == right
  | bigint left, bigint right => left == right
  | string left, string right => left == right
  | symbol left, symbol right => left == right
  | object left, object right => left == right
  | _, _ => false

/-- Whether values are the same; what is no number is the same as itself, and zeros may differ. -/
def same (apartZeros : Bool) : Value → Value → Bool
  | number left, number right =>
    if left.isNaN then right.isNaN
    else left == right && (!apartZeros || left.toBits == right.toBits)
  | left, right => strictlyEqual left right

end Value

/-- A key of a property. -/
inductive PropertyKey where
  | index (place : Nat)
  | text (text : Units)
  | symbol (symbol : Symbol)
  /-- A key that only a class itself can use. -/
  | hidden (name : String)
deriving Repr, BEq, Inhabited

namespace PropertyKey

/-- The number that a text writes, if it is an array index in its only spelling. -/
def indexOf? (text : Units) : Option Nat :=
  let codes := text.codes.toList
  if codes.isEmpty || codes.length > 10 || !codes.all (fun code => 48 ≤ code && code ≤ 57) then none
  else if codes.length > 1 && codes.head? == some 48 then none
  else
    let value := codes.foldl (fun value code => value * 10 + (code.toNat - 48)) 0
    if value < UInt32.size - 1 then some value else none

/-- The key of a text. -/
def ofText (text : Units) : PropertyKey :=
  match indexOf? text with
  | some place => .index place
  | none => .text text

instance : Coe String PropertyKey := ⟨fun text => ofText text⟩

/-- The key of a symbol. -/
instance : Coe Symbol PropertyKey := ⟨.symbol⟩

/-- The key of a place. -/
def ofNat (place : Nat) : PropertyKey :=
  if place < UInt32.size - 1 then .index place else .text (toString place : String)

/-- A key as a value. -/
def toValue : PropertyKey → Value
  | .index place => .string (toString place : String)
  | .text units => .string units
  | .symbol key => .symbol key
  | .hidden name => .string name

/-- A key as a text to show. -/
def toUnits : PropertyKey → Units
  | .index place => (toString place : String)
  | .text units => units
  | .symbol key => key.description.getD .empty
  | .hidden name => name

/-- Whether a key is a text. -/
def isText : PropertyKey → Bool
  | .index _ | .text _ => true
  | _ => false

/-- Whether a key is a symbol. -/
def isSymbol : PropertyKey → Bool
  | .symbol _ => true
  | _ => false

end PropertyKey

end FencedCode.Script
