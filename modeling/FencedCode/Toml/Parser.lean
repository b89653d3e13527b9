import FencedCode.Text.Scanner
import FencedCode.Toml.Value

/-!
# The written form of settings documents

A document is a sequence of lines: headers `[a.b]` and `[[a.b]]`, assignments `a.b = value`, comments
and blank lines.  Each line is applied to the table read so far, so that a document is refused at
the first line that repeats or contradicts an earlier one.
-/

namespace FencedCode.Toml

open Text

namespace Scan

open Scanner

/-! ### Blanks and comments -/

/-- Whether a character is a blank within a line. -/
def isBlank (char : Char) : Bool := char == ' ' || char == '\t'

/-- Whether a character may stand in a comment or a quoted text: all but control characters. -/
def isPrintable (char : Char) : Bool := char == '\t' || (' ' ≤ char && char != '\x7f')

def blanks : Scanner Unit := do let _ ← takeWhile isBlank

/-- The end of a line. -/
def lineEnd : Scanner Unit := expect "\n" <|> expect "\r\n"

/-- A comment, up to the end of its line. -/
def comment : Scanner Unit := do
  expect "#"
  let _ ← takeWhile isPrintable

/-- What may follow on a line that is complete. -/
def lineRest : Scanner Unit := do
  blanks
  let _ ← optional comment
  lineEnd <|> finish

/-- Passes over blanks, line ends and comments. -/
def gap : Scanner Unit := do
  let _ ← many ((do let _ ← takeSome isBlank) <|> lineEnd <|> comment)

/-! ### Texts -/

/-- The character of a number of hexadecimal digits. -/
def codePoint (digits : Nat) : Scanner Char := do
  let written ← takeExactly (fun char => (hexDigit? char).isSome) digits
  let code := hexValue written
  if code.isValidChar then return .ofNat code else refuse

/-- What a backslash stands for together with what follows it. -/
def escape : Scanner Char := do
  expect "\\"
  match ← satisfy fun _ => true with
  | 'b' => return '\x08'
  | 't' => return '\t'
  | 'n' => return '\n'
  | 'f' => return '\x0c'
  | 'r' => return '\r'
  | '"' => return '"'
  | '\\' => return '\\'
  | 'u' => codePoint 4
  | 'U' => codePoint 8
  | _ => refuse

/-- A character that stands for itself between quotes. -/
def plainChar (escapes : Bool) (quote : Char) : Scanner Char :=
  satisfy fun char => isPrintable char && char != quote && !(escapes && char == '\\')

/-- A text between quotes on one line. -/
def lineText (escapes : Bool) (quote : Char) : Scanner String := do
  expect (.singleton quote)
  let chars ← many (plainChar escapes quote <|> if escapes then escape else refuse)
  expect (.singleton quote)
  return .ofList chars

/-- A backslash at the end of a line, with the blanks and line ends behind it. -/
def joinedLines : Scanner Unit := do
  expect "\\"
  blanks
  lineEnd
  let _ ← many ((do let _ ← takeSome isBlank) <|> lineEnd)

/-- The quotes at the front of a text, one or two of them, if no third follows. -/
def innerQuotes (quote : Char) : Scanner (List Char) := do
  let quotes ← takeSome (· == quote)
  require (quotes.length < 3)
  return quotes

/-- Three quotes, which end the text, with up to two more in front that belong to it. -/
def closingQuotes (quote : Char) : Scanner (List Char) := do
  let count := ((← get).takeWhile (· == quote)).length
  require (3 ≤ count)
  let own := min (count - 3) 2
  modify (·.drop (own + 3))
  return .replicate own quote

/-- A text between triple quotes.  A line end right behind the opening quotes is no part of it. -/
def blockText (escapes : Bool) (quote : Char) : Scanner String := do
  expect (.ofList [quote, quote, quote])
  let _ ← optional lineEnd
  let pieces ← many <|
    (do return [← plainChar escapes quote])
      <|> (if escapes then (do joinedLines; return []) <|> (do return [← escape]) else refuse)
      <|> (do lineEnd; return ['\n'])
      <|> innerQuotes quote
  return .ofList (pieces.flatten ++ (← closingQuotes quote))

/-- A text in any notation. -/
def anyText : Scanner String :=
  blockText true '"' <|> lineText true '"' <|> blockText false '\x27' <|> lineText false '\x27'

/-! ### Keys -/

/-- Whether a character may stand in a key without quotes. -/
def isKeyChar (char : Char) : Bool := char.isAlphanum || char == '_' || char == '-'

/-- One part of a key. -/
def keyPart : Scanner String := do
  blanks
  let part ← lineText true '"' <|> lineText false '\x27' <|> (.ofList <$> takeSome isKeyChar)
  blanks
  return part

/-- How deeply values and keys may be nested. -/
def nestingLimit : Nat := 79

/-- A key: its parts up to the last, and the last. -/
def key : Scanner (List String × String) := do
  let parts ← separated (expect ".") keyPart
  require (parts.length ≤ nestingLimit)
  match parts.getLast? with
  | some last => return (parts.dropLast, last)
  | none => refuse

/-! ### Numbers and moments -/

/-- Digits with single underscores between them. -/
def digitRun (isDigit : Char → Bool) : Scanner (List Char) := do
  let first ← satisfy isDigit
  let rest ← many ((do expect "_"; satisfy isDigit) <|> satisfy isDigit)
  return first :: rest

def sign : Scanner (Option Char) := optional (satisfy fun char => char == '+' || char == '-')

/-- The digits of a decimal number, which starts with zero only if it has no other digit. -/
def wholeDigits : Scanner (List Char) := do
  if (← peek?) == some '0' then
    expect "0"
    return ['0']
  else digitRun Char.isDigit

def valueOf (base : Nat) (digits : List Char) : Nat :=
  digits.foldl (fun value digit => value * base + (hexDigit? digit).getD 0) 0

/-- An integer of 64 bits. -/
def inRange (value : Int) : Scanner Value := do
  require (Int64.minValue.toInt ≤ value && value ≤ Int64.maxValue.toInt)
  return .integer value

/-- An integer in a base that is a power of two. -/
def integerIn (mark : String) (base : Nat) : Scanner Value := do
  expect mark
  let digits ← digitRun fun char => (hexDigit? char).any (· < base)
  inRange (valueOf base digits)

def decimalInteger : Scanner Value := do
  let negative := (← sign) == some '-'
  let value : Int := valueOf 10 (← wholeDigits)
  inRange (if negative then -value else value)

/-- Whether the number `digits · 10 ^ exponent` is too large for a double. -/
def overflows (digits : List Char) (exponent : Int) : Bool :=
  let significant := digits.dropWhile (· == '0')
  let bound : Nat := (Nat.pow 2 54 - 1) * Nat.pow 2 970
  let magnitude : Int := significant.length + exponent
  if significant.isEmpty || magnitude < 300 then false
  else if magnitude > 320 then true
  else if exponent < 0 then bound * Nat.pow 10 exponent.natAbs ≤ valueOf 10 significant
  else bound ≤ valueOf 10 significant * Nat.pow 10 exponent.natAbs

/-- The exponent of a number. -/
def exponentPart : Scanner Int := do
  let _ ← satisfy fun char => char == 'e' || char == 'E'
  let negative := (← sign) == some '-'
  let value : Int := valueOf 10 (← digitRun Char.isDigit)
  return if negative then -value else value

/-- A number with a fraction or an exponent.  One that is too large is refused, unless it is
negative. -/
def decimalFloat : Scanner Value := do
  let start ← get
  let negative := (← sign) == some '-'
  let whole ← wholeDigits
  let fraction ← optional (do expect "."; digitRun Char.isDigit)
  let exponent ← optional exponentPart
  require (fraction.isSome || exponent.isSome)
  let places := fraction.getD []
  require (negative || !overflows (whole ++ places) (exponent.getD 0 - places.length))
  return .float (.ofList (start.take (start.length - (← get).length)))

def specialFloat : Scanner Value := do
  let _ ← sign
  (do expect "inf"; return .float "inf") <|> (do expect "nan"; return .float "nan")

/-- A number of two digits in a range. -/
def twoDigits (low high : Nat) : Scanner Nat := do
  let value := valueOf 10 (← takeExactly Char.isDigit 2)
  require (low ≤ value && value ≤ high)
  return value

/-- The number of days of a month. -/
def daysOf (year month : Nat) : Nat :=
  if month = 2 then
    if year % 4 = 0 ∧ (year % 100 ≠ 0 ∨ year % 400 = 0) then 29 else 28
  else if month ∈ [4, 6, 9, 11] then 30
  else 31

/-- A day of the calendar. -/
def date : Scanner Unit := do
  let year := valueOf 10 (← takeExactly Char.isDigit 4)
  expect "-"
  let month ← twoDigits 1 12
  expect "-"
  let _ ← twoDigits 1 (daysOf year month)

def time : Scanner Unit := do
  let _ ← twoDigits 0 23
  expect ":"
  let _ ← twoDigits 0 59
  expect ":"
  let _ ← twoDigits 0 60
  let _ ← optional (do expect "."; takeSome Char.isDigit)

/-- The distance of a clock from universal time. -/
def zone : Scanner Unit :=
  (do let _ ← satisfy fun char => char == 'Z' || char == 'z') <|> do
    let _ ← satisfy fun char => char == '+' || char == '-'
    let _ ← twoDigits 0 23
    expect ":"
    let _ ← twoDigits 0 59

/-- A day, a time, or both. -/
def moment : Scanner Value := do
  let start ← get
  (do
    date
    let _ ← optional do
      let _ ← satisfy fun char => char == 'T' || char == 't' || char == ' '
      time
      optional zone) <|> time
  return .moment (.ofList (start.take (start.length - (← get).length)))

/-! ### Values -/

/-- The table of the pairs of a literal. -/
def literalTable (pairs : List ((List String × String) × Value)) : Option Value :=
  pairs.foldlM
    (fun held pair =>
      match held with
      | .table origin entries => Value.assign? pair.1.1 pair.1.2 pair.2 origin entries
      | _ => none)
    (.table .inline [])

/-- A value with at most `depth` further levels in it. -/
def value : (depth : Nat) → Scanner Value
  | 0 => scalar
  | depth + 1 => scalar <|> array (value depth) <|> table (value depth)
where
  scalar : Scanner Value :=
    (.string <$> anyText)
      <|> moment <|> decimalFloat <|> specialFloat
      <|> integerIn "0x" 16 <|> integerIn "0o" 8 <|> integerIn "0b" 2 <|> decimalInteger
      <|> (do expect "true"; return .boolean true) <|> (do expect "false"; return .boolean false)
  /-- Values in brackets, on any number of lines. -/
  array (element : Scanner Value) : Scanner Value := do
    expect "["
    let elements ← separated (expect ",") (do gap; let value ← element; gap; return value)
    if !elements.isEmpty then
      let _ ← accept ","
    gap
    expect "]"
    return .array elements false
  /-- Keys and values in braces, on one line. -/
  table (element : Scanner Value) : Scanner Value := do
    expect "\x7b"
    let pairs ← separated (expect ",") do
      let name ← key
      expect "="
      blanks
      let value ← element
      blanks
      return (name, value)
    blanks
    expect "\x7d"
    match literalTable pairs with
    | some value => return value
    | none => refuse

end Scan

/-- A line that says something. -/
inductive Line where
  | table (path : List String) (key : String)
  /-- Opens a further table of an array. -/
  | element (path : List String) (key : String)
  /-- Gives a key of the open table a value. -/
  | assignment (path : List String) (key : String) (value : Value)
deriving Repr

namespace Line

open Scanner Scan

def scan : Scanner Line := do
  if ← accept "[[" then
    let (path, last) ← key
    expect "]]"
    lineRest
    return .element path last
  else if ← accept "[" then
    let (path, last) ← key
    expect "]"
    lineRest
    return .table path last
  else
    let (path, last) ← key
    expect "="
    blanks
    let value ← value nestingLimit
    lineRest
    return .assignment path last value

/-- Reads a line that says nothing. -/
def scanEmpty : Scanner Unit := (do comment; lineEnd <|> finish) <|> lineEnd

end Line

/-- The document read so far, and where assignments go. -/
structure Draft where
  /-- The entries of the document. -/
  entries : Entries := []
  /-- The path to the open table. -/
  path : List String := []
deriving Repr

namespace Draft

/-- Applies a change to the table at the end of a path. -/
def change? (draft : Draft) (path : List String) (change : Origin → Entries → Option Value) :
    Option Entries :=
  match Value.changeAt? false change path .header draft.entries with
  | some (.table _ entries) => some entries
  | _ => none

def extend? (draft : Draft) : Line → Option Draft
  | .table path key =>
    (draft.change? path (Value.openTable? key)).map fun entries => { entries, path := path ++ [key] }
  | .element path key =>
    (draft.change? path (Value.openElement? key)).map fun entries =>
      { entries, path := path ++ [key] }
  | .assignment path key value =>
    (draft.change? draft.path (Value.assign? path key value)).map fun entries =>
      { draft with entries }

end Draft

/-- The entries of a document. -/
def parse? (text : String) : Option Entries := do
  let document : Scanner (List (Option Line)) := do
    let _ ← Scanner.accept "\ufeff"
    Scan.blanks
    Scanner.many do
      let line ← (do Line.scanEmpty; return none) <|> (some <$> Line.scan)
      Scan.blanks
      return line
  let lines ← document.readAll? text
  let draft ← (lines.filterMap id).foldlM Draft.extend? {}
  return draft.entries

end FencedCode.Toml
