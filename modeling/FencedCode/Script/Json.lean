import FencedCode.Decimal.Dyadic
import FencedCode.Text.Units

/-!
# Structured values as text

The text form of numbers, texts, lists and objects that programs exchange.  Texts are read and written
in units, since a script may cut a pair of them.
-/

namespace FencedCode.Script

open Text

inductive Json where
  | null
  | boolean (value : Bool)
  | number (value : Float)
  | string (text : Units)
  | array (elements : List Json)
  | object (members : List (Units × Json))
deriving Inhabited

namespace Json

/-! ### Reading -/

/-- Consumes units, or refuses them. -/
abbrev Reader := StateT (List UInt16) Option

def refuse {α : Type} : Reader α := fun _ => none

/-- The unit of a character. -/
def unit (char : Char) : UInt16 := .ofNat char.toNat

def next : Reader UInt16
  | first :: rest => some (first, rest)
  | [] => none

/-- Consumes a character if it comes next. -/
def accept (char : Char) : Reader Bool := fun rest =>
  match rest with
  | first :: others => if first == unit char then some (true, others) else some (false, rest)
  | [] => some (false, rest)

def expect (char : Char) : Reader Unit := do
  if !(← accept char) then refuse

def expectWord (word : String) : Reader Unit := word.toList.forM expect

def skipBlanks : Reader Unit := fun rest =>
  some ((), rest.dropWhile fun code => [9, 10, 13, 32].contains code)

def digits : Reader (List Char) := fun rest =>
  let isDigit (code : UInt16) := unit '0' ≤ code && code ≤ unit '9'
  some ((rest.takeWhile isDigit).map fun code => .ofNat code.toNat, rest.dropWhile isDigit)

/-- The value of a unit as a digit of base sixteen. -/
def hexValue? (code : UInt16) : Option UInt16 :=
  if unit '0' ≤ code && code ≤ unit '9' then some (code - unit '0')
  else if unit 'a' ≤ code && code ≤ unit 'f' then some (code - unit 'a' + 10)
  else if unit 'A' ≤ code && code ≤ unit 'F' then some (code - unit 'A' + 10)
  else none

/-- Consumes a digit of base sixteen. -/
def hexDigit : Reader UInt16 := do
  match hexValue? (← next) with
  | some value => return value
  | none => refuse

/-- The unit that is written by a backslash and what follows. -/
def escaped : Reader UInt16 := do
  let mark ← next
  match Char.ofNat mark.toNat with
  | '"' | '\\' | '/' => return mark
  | 'b' => return 8
  | 'f' => return 12
  | 'n' => return 10
  | 'r' => return 13
  | 't' => return 9
  | 'u' =>
    let first ← hexDigit
    let second ← hexDigit
    let third ← hexDigit
    let fourth ← hexDigit
    return ((first * 16 + second) * 16 + third) * 16 + fourth
  | _ => refuse

/-- The units of a text up to its closing mark. -/
def readUnits : (limit : Nat) → Array UInt16 → Reader Units
  | 0, _ => refuse
  | limit + 1, read => do
    let code ← next
    if code == unit '"' then return ⟨read⟩
    if code == unit '\\' then return ← readUnits limit (read.push (← escaped))
    if code < 32 then refuse
    readUnits limit (read.push code)

/-- A text behind its opening mark. -/
def readText : Reader Units := fun rest => readUnits (rest.length + 1) #[] rest

def readNumber : Reader Float := do
  let negative ← accept '-'
  let whole ← digits
  if whole.isEmpty || (whole.length > 1 && whole.head? == some '0') then refuse
  let places ← if ← accept '.' then digits else pure ['0']
  if places.isEmpty then refuse
  let small ← accept 'e'
  let marked ← if small then pure true else accept 'E'
  let power ← if marked then do
      let minus ← accept '-'
      let _ ← if minus then pure false else accept '+'
      let written ← digits
      if written.isEmpty then refuse
      let size : Int := written.foldl (fun value digit => value * 10 + (digit.toNat - 48 : Nat)) 0
      pure (if minus then -size else size)
    else pure 0
  let value := Decimal.floatOfDigits (whole ++ places) (power - places.length)
  return if negative then -value else value

/-- Parts with commas between them, up to a closing mark. -/
def readParts {α : Type} (closing : Char) (part : Reader α) :
    (limit : Nat) → Array α → Reader (List α)
  | 0, _ => refuse
  | limit + 1, read => do
    let read := read.push (← part)
    skipBlanks
    if ← accept ',' then readParts closing part limit read
    else
      expect closing
      return read.toList

/-- Parts with commas between them, of which there may be none. -/
def readList {α : Type} (closing : Char) (part : Reader α) : Reader (List α) := do
  skipBlanks
  if ← accept closing then return []
  fun rest => readParts closing part (rest.length + 1) #[] rest

/-- A value, nested up to a depth. -/
def readValue : (depth : Nat) → Reader Json
  | 0 => refuse
  | depth + 1 => do
    skipBlanks
    match (← get).head?.map fun code => Char.ofNat code.toNat with
    | some 'n' =>
      expectWord "null"
      return .null
    | some 't' =>
      expectWord "true"
      return .boolean true
    | some 'f' =>
      expectWord "false"
      return .boolean false
    | some '"' =>
      expect '"'
      return .string (← readText)
    | some '[' =>
      expect '['
      return .array (← readList ']' (readValue depth))
    | some '\x7b' =>
      expect '\x7b'
      let member : Reader (Units × Json) := do
        skipBlanks
        expect '"'
        let key ← readText
        skipBlanks
        expect ':'
        return (key, ← readValue depth)
      return .object (← readList '\x7d' member)
    | _ => return .number (← readNumber)

/-- How deeply values can be nested. -/
def depthLimit : Nat := 2000

/-- The value of a whole text. -/
def parse? (text : Units) : Option Json := do
  let (value, rest) ← (readValue depthLimit).run text.codes.toList
  let ((), rest) ← skipBlanks rest
  if rest.isEmpty then some value else none

/-! ### Writing -/

/-- The code point of a text as it is written between the marks of a text. -/
def escapeCode (code : Nat) : List Nat :=
  let short (char : Char) : List Nat := ['\\', char].map Char.toNat
  match code with
  | 8 => short 'b'
  | 9 => short 't'
  | 10 => short 'n'
  | 12 => short 'f'
  | 13 => short 'r'
  | 34 => short '"'
  | 92 => short '\\'
  | code =>
    if code < 32 || !code.isValidChar then
      ('\\' :: 'u' :: Units.hexDigits false code).map Char.toNat
    else [code]

/-- A text between its marks. -/
def quote (text : Units) : Units :=
  ("\"" : Units) ++ Units.ofCodePoints (text.codePoints.flatMap escapeCode) ++ "\""

end Json

end FencedCode.Script
