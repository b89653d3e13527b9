/-!
# Texts of 16-bit units

A script counts and cuts its texts in units of sixteen bits.  A character beyond the first 65536
takes two units, a pair; since a script may cut between them, a unit of a pair can stand alone.
-/

namespace FencedCode.Text

/-- A text as units of sixteen bits. -/
structure Units where
  codes : Array UInt16
deriving DecidableEq, Repr, Inhabited

namespace Units

/-- Whether a unit is the first half of a pair. -/
def isHighHalf (code : UInt16) : Bool := 0xD800 ≤ code && code < 0xDC00

/-- Whether a unit is the second half of a pair. -/
def isLowHalf (code : UInt16) : Bool := 0xDC00 ≤ code && code < 0xE000

/-- The units of a code point. -/
def ofCodePoint (code : Nat) : List UInt16 :=
  if code < 0x10000 then [.ofNat code]
  else [.ofNat (0xD800 + (code - 0x10000) / 0x400), .ofNat (0xDC00 + (code - 0x10000) % 0x400)]

/-- The units of some code points. -/
def ofCodePoints (codes : List Nat) : Units := ⟨(codes.flatMap ofCodePoint).toArray⟩

/-- The units of some characters. -/
def ofChars (chars : List Char) : Units := ofCodePoints (chars.map Char.toNat)

/-- The units of a text. -/
def ofString (text : String) : Units := ofChars text.toList

instance : Coe String Units := ⟨ofString⟩

instance : Append Units := ⟨fun left right => ⟨left.codes ++ right.codes⟩⟩

def empty : Units := ⟨#[]⟩

def size (text : Units) : Nat := text.codes.size

/-- Whether there are no units. -/
def isEmpty (text : Units) : Bool := text.codes.isEmpty

/-- The text of one unit. -/
def single (code : UInt16) : Units := ⟨#[code]⟩

/-- The units from `start` to before `stop`. -/
def slice (text : Units) (start stop : Nat) : Units := ⟨text.codes.extract start stop⟩

/-- The units of texts, one after the other. -/
def concat (texts : List Units) : Units := texts.foldl (· ++ ·) empty

/-- The texts with another text between them. -/
def join (separator : Units) : List Units → Units
  | [] => empty
  | first :: rest => rest.foldl (fun joined text => joined ++ separator ++ text) first

/-- The text a number of times over. -/
def replicate (count : Nat) (text : Units) : Units := concat (List.replicate count text)

/-- The code points of units; a half of a pair that stands alone counts as a code point. -/
def codePointsOf : List UInt16 → List Nat
  | [] => []
  | [code] => [code.toNat]
  | high :: low :: rest =>
    if isHighHalf high && isLowHalf low then
      (0x10000 + (high.toNat - 0xD800) * 0x400 + (low.toNat - 0xDC00)) :: codePointsOf rest
    else high.toNat :: codePointsOf (low :: rest)

/-- The code points of a text. -/
def codePoints (text : Units) : List Nat := codePointsOf text.codes.toList

/-- The digits of a unit in base sixteen, with capital letters or small ones. -/
def hexDigits (capital : Bool) (code : Nat) : List Char :=
  [code / 4096, code / 256 % 16, code / 16 % 16, code % 16].map fun digit =>
    if digit < 10 then .ofNat (48 + digit) else .ofNat ((if capital then 55 else 87) + digit)

/-- The text as characters; a half of a pair that stands alone is written as an escape. -/
def display (text : Units) : String :=
  .ofList <| text.codePoints.flatMap fun code =>
    if code.isValidChar then [.ofNat code] else '\\' :: 'u' :: hexDigits true code

/-- The text as characters, each half of a pair that stands alone replaced. -/
def toChars (text : Units) : List Char :=
  text.codePoints.map fun code => if code.isValidChar then .ofNat code else '\ufffd'

/-- Whether a text continues with another at a place. -/
def hasAt (text part : Units) (place : Nat) : Bool :=
  place + part.size ≤ text.size && (text.slice place (place + part.size)) == part

/-- The first place from `place` on where a part occurs, among the next `limit`. -/
def find?From (text part : Units) (place : Nat) : (limit : Nat) → Option Nat
  | 0 => none
  | limit + 1 => if text.hasAt part place then some place else find?From text part (place + 1) limit

/-- The first place from `place` on where a part occurs. -/
def indexOf? (text part : Units) (place : Nat) : Option Nat :=
  text.find?From part place (text.size + 1 - place)

/-- The last place, not after `place`, where a part occurs. -/
def lastIndexOf? (text part : Units) : (place : Nat) → Option Nat
  | 0 => if text.hasAt part 0 then some 0 else none
  | place + 1 => if text.hasAt part (place + 1) then some (place + 1) else lastIndexOf? text part place

/-- Whether a list of units comes before another in the order of a dictionary. -/
def precedes : List UInt16 → List UInt16 → Bool
  | _, [] => false
  | [], _ :: _ => true
  | first :: rest, other :: others => first < other || (first == other && precedes rest others)

/-- Whether a text comes before another in the order of its units. -/
def lt (left right : Units) : Bool := precedes left.codes.toList right.codes.toList

end Units

end FencedCode.Text
