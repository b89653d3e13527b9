import FencedCode.Script.Builtin.Object
import FencedCode.Script.Json

/-!
# Texts in addresses

What cannot stand in an address is written by the bytes of its UTF-8 form, each as a percent sign and
two digits of base sixteen.  A whole address keeps the marks that divide it into parts.
-/

namespace FencedCode.Script

open Text

namespace Address

/-- The characters that are kept in a part of an address. -/
def isKeptInPart (char : Char) : Bool := char.isAlphanum || "-_.!~*\x27()".toList.contains char

/-- The characters that divide an address into parts. -/
def isDivider (char : Char) : Bool := ";/?:@&=+$,#".toList.contains char

/-- The bytes of a character in UTF-8. -/
def bytesOf (char : Char) : List Nat := (String.singleton char).toUTF8.toList.map UInt8.toNat

/-- The digits of a byte in base sixteen, behind a percent sign. -/
def escapeByte (byte : Nat) : List Char := '%' :: (Units.hexDigits true byte).drop 2

/-- A text with the characters escaped that are not kept; none if half of a pair stands alone. -/
def encode? (keeps : Char → Bool) (text : Units) : Option Units := do
  let written ← text.codePoints.mapM fun code =>
    if code.isValidChar then
      let char := Char.ofNat code
      some (if keeps char then [char] else (bytesOf char).flatMap escapeByte)
    else none
  return Units.ofChars written.flatten

/-- The byte that the front of some units writes, and the rest. -/
def readByte? : List UInt16 → Option (UInt8 × List UInt16)
  | percent :: first :: second :: rest =>
    if percent == Json.unit '%' then do
      let high ← Json.hexValue? first
      let low ← Json.hexValue? second
      return ((high * 16 + low).toUInt8, rest)
    else none
  | _ => none

/-- The number of bytes that a character takes whose first byte is given. -/
def byteCount? (byte : UInt8) : Option Nat :=
  if byte < 0x80 then some 1
  else if 0xC2 ≤ byte && byte < 0xE0 then some 2
  else if 0xE0 ≤ byte && byte < 0xF0 then some 3
  else if 0xF0 ≤ byte && byte < 0xF5 then some 4
  else none

/-- A number of bytes that the front of some units writes, and the rest. -/
def readBytes? : (count : Nat) → List UInt16 → Option (List UInt8 × List UInt16)
  | 0, rest => some ([], rest)
  | count + 1, rest => do
    let (byte, rest) ← readByte? rest
    let (bytes, rest) ← readBytes? count rest
    return (byte :: bytes, rest)

/-- Units with what is escaped in them decoded, apart from characters that are kept escaped. -/
def decodeUnits? (keeps : Char → Bool) : (limit : Nat) → List UInt16 → Option (List UInt16)
  | 0, _ => some []
  | _, [] => some []
  | limit + 1, first :: rest =>
    if first == Json.unit '%' then do
      let (byte, _) ← readByte? (first :: rest)
      let count ← byteCount? byte
      let (bytes, after) ← readBytes? count (first :: rest)
      let text ← String.fromUTF8? ⟨bytes.toArray⟩
      let chars := text.toList
      let decoded := if chars.any keeps then (first :: rest).take (3 * count)
        else (Units.ofChars chars).codes.toList
      return decoded ++ (← decodeUnits? keeps limit after)
    else do
      return first :: (← decodeUnits? keeps limit rest)

/-- A text with what is escaped in it decoded. -/
def decode? (keeps : Char → Bool) (text : Units) : Option Units := do
  let codes ← decodeUnits? keeps (text.size + 1) text.codes.toList
  return ⟨codes.toArray⟩

end Address

namespace Run

/-- Calls a function on the text of addresses. -/
def callAddress (function : AddressFunction) (arguments : List Value) : Run Value := do
  let text ← toText (argument arguments 0)
  let result := match function with
    | .decodeAll => Address.decode? Address.isDivider text
    | .decodePart => Address.decode? (fun _ => false) text
    | .encodeAll =>
      Address.encode? (fun char => Address.isKeptInPart char || Address.isDivider char) text
    | .encodePart => Address.encode? Address.isKeptInPart text
  match result with
  | some text => return .string text
  | none => throwNew .uriError "malformed URI sequence"

end Run

end FencedCode.Script
