import FencedCode.Decimal.Dyadic
import FencedCode.Script.Tree
import FencedCode.Text.Category
import FencedCode.Text.Scanner

/-!
# The smallest parts of scripts

Blanks, comments, names, punctuators and literals.  What a slash or a closing brace begins depends on
the place, so that the parser asks for the part that it expects; nothing is cut into parts
beforehand.
-/

namespace FencedCode.Script.Lexeme

open Text Text.Scanner

/-! ### Blanks and comments -/

/-- Whether a character ends a line. -/
def isLineEnd (char : Char) : Bool :=
  char == '\n' || char == '\r' || char == '\u2028' || char == '\u2029'

/-- Whether a character is a blank within a line. -/
def isBlank (char : Char) : Bool :=
  char == '\t' || char == '\x0b' || char == '\x0c' || char == '\ufeff'
    || hasCategory [.spaceSeparator] char.toNat

/-- What is being passed over. -/
inductive Gap where
  | blanks
  | lineComment
  | blockComment
deriving DecidableEq, Repr

/-- The text behind blanks and comments, and whether a line ended there.  A comment that is not
closed is refused. -/
def skipGap : Gap → Bool → List Char → Option (List Char × Bool)
  | .blanks, ended, '/' :: '/' :: rest => skipGap .lineComment ended rest
  | .blanks, ended, '/' :: '*' :: rest => skipGap .blockComment ended rest
  | .blanks, ended, char :: rest =>
    if isLineEnd char then skipGap .blanks true rest
    else if isBlank char then skipGap .blanks ended rest
    else some (char :: rest, ended)
  | .lineComment, ended, char :: rest =>
    if isLineEnd char then skipGap .blanks true rest else skipGap .lineComment ended rest
  | .blockComment, ended, '*' :: '/' :: rest => skipGap .blanks ended rest
  | .blockComment, ended, char :: rest => skipGap .blockComment (ended || isLineEnd char) rest
  | .blockComment, _, [] => none
  | _, ended, [] => some ([], ended)

/-! ### Names -/

/-- Whether a name can start with a character. -/
def startsName (char : Char) : Bool :=
  if char.toNat < 128 then char.isAlpha || char == '$' || char == '_'
  else hasCategory [.uppercaseLetter, .lowercaseLetter, .titlecaseLetter, .modifierLetter,
    .otherLetter, .letterNumber] char.toNat

/-- Whether a name can go on with a character. -/
def continuesName (char : Char) : Bool :=
  if char.toNat < 128 then char.isAlphanum || char == '$' || char == '_'
  else startsName char || char == '\u200c' || char == '\u200d'
    || hasCategory [.nonspacingMark, .spacingMark, .decimalNumber, .connectorPunctuation] char.toNat

/-- The code point of hexadecimal digits in braces, or of four such digits. -/
def unicodeDigits : Scanner Nat := do
  let isHex := fun char => (hexDigit? char).isSome
  if ← accept "\x7b" then
    let code := hexValue (← takeSome isHex)
    expect "\x7d"
    require (code < 0x110000)
    return code
  else return hexValue (← takeExactly isHex 4)

/-- A character of a name, which may be written as an escape. -/
def nameChar (belongs : Char → Bool) : Scanner Char :=
  satisfy belongs <|> do
    expect "\\u"
    let char := Char.ofNat (← unicodeDigits)
    require (belongs char)
    return char

/-- A name or a keyword. -/
def word : Scanner String := do
  let first ← nameChar startsName
  let rest ← many (nameChar continuesName)
  return .ofList (first :: rest)

/-- The words that are no names. -/
def keywords : List String :=
  ["break", "case", "catch", "class", "const", "continue", "debugger", "default", "delete", "do",
   "else", "enum", "export", "extends", "false", "finally", "for", "function", "if", "import", "in",
   "instanceof", "new", "null", "return", "super", "switch", "this", "throw", "true", "try",
   "typeof", "var", "void", "while", "with"]

/-- The words that are no names in strict mode. -/
def strictKeywords : List String :=
  ["implements", "interface", "let", "package", "private", "protected", "public", "static", "yield"]

/-! ### Punctuators -/

/-- The punctuators, a longer one in front of those that it starts with. -/
def punctuators : List (List Char) :=
  [">>>=", "...", "===", "!==", "**=", "<<=", ">>=", ">>>", "&&=", "||=", "??=",
   "=>", "==", "!=", "<=", ">=", "&&", "||", "??", "?.", "++", "--", "+=", "-=", "*=", "/=", "%=",
   "&=", "|=", "^=", "<<", ">>", "**",
   "\x7b", "\x7d", "(", ")", "[", "]", ";", ",", "<", ">", "+", "-", "*", "/", "%", "&", "|", "^",
   "!", "~", "?", ":", "=", ".", "#", "@"].map String.toList

/-- The punctuator at the front of a text, or the empty text.  A question mark with a point and a
digit behind it is a question mark. -/
def punctuator (chars : List Char) : String :=
  match chars with
  | '?' :: '.' :: digit :: _ => if digit.isDigit then "?" else "?."
  | _ =>
    match punctuators.find? (·.isPrefixOf chars) with
    | some found => .ofList found
    | none => ""

/-! ### Numbers -/

/-- Digits with single underscores between them. -/
def digits (isDigit : Char → Bool) : Scanner (List Char) := do
  let first ← satisfy isDigit
  let rest ← many ((do expect "_"; satisfy isDigit) <|> satisfy isDigit)
  return first :: rest

/-- The value of digits in a base. -/
def valueOf (base : Nat) (digits : List Char) : Nat :=
  digits.foldl (fun value digit => value * base + (hexDigit? digit).getD 0) 0

/-- A whole number, which is big if an `n` follows. -/
def wholeNumber (value : Nat) : Scanner Expr := do
  if ← accept "n" then return .bigint value
  else return .number (Decimal.Dyadic.floatOfInt value)

/-- A number in a base that is a power of two. -/
def basedNumber : Scanner Expr := do
  expect "0"
  let base ← match ← satisfy fun _ => true with
    | 'x' | 'X' => pure 16
    | 'o' | 'O' => pure 8
    | 'b' | 'B' => pure 2
    | _ => refuse
  wholeNumber (valueOf base (← digits fun char => (hexDigit? char).any (· < base)))

/-- A number that starts with a superfluous zero: octal unless a greater digit occurs. -/
def legacyNumber : Scanner Expr := do
  expect "0"
  let written ← takeSome Char.isDigit
  let base := if written.all (· < '8') then 8 else 10
  return .number (Decimal.Dyadic.floatOfInt (valueOf base written))

/-- The exponent of a number. -/
def exponent : Scanner Int := do
  let _ ← satisfy fun char => char == 'e' || char == 'E'
  let mark ← optional (satisfy fun char => char == '+' || char == '-')
  let value : Int := valueOf 10 (← digits Char.isDigit)
  return if mark == some '-' then -value else value

/-- A number in decimal notation. -/
def decimalNumber : Scanner Expr := do
  let whole ← optional (digits Char.isDigit)
  let hasPoint ← accept "."
  let places ← if hasPoint then optional (digits Char.isDigit) else pure none
  require (whole.isSome || places.isSome)
  let power ← optional exponent
  let digits := whole.getD []
  require (digits.length ≤ 1 || digits.head? != some '0')
  if !hasPoint && power.isNone then
    if ← accept "n" then return .bigint (valueOf 10 digits)
  let fraction := places.getD []
  return .number (Decimal.floatOfDigits (digits ++ fraction) (power.getD 0 - fraction.length))

/-- A number.  No name and no digit may follow it directly. -/
def number (strict : Bool) : Scanner Expr := do
  let value ← basedNumber <|> (if strict then refuse else legacyNumber) <|> decimalNumber
  let next ← peek?
  require !(next.any fun char => startsName char || char.isDigit || char == '\\')
  return value

/-! ### Texts -/

/-- Up to three octal digits, as many as keep the value below 256. -/
def octalEscape : Scanner Nat := do
  let isOctal := fun (char : Char) => '0' ≤ char && char ≤ '7'
  let first ← satisfy isOctal
  let second ← optional (satisfy isOctal)
  let third ← if second.isSome && first ≤ '3' then optional (satisfy isOctal) else pure none
  return valueOf 8 (first :: (second.toList ++ third.toList))

/-- The code points of what follows a backslash.  A line end stands for nothing. -/
def escape (allowsOctal : Bool) : Scanner (List Nat) := do
  let octal : Scanner (List Nat) := do
    require allowsOctal
    return [← octalEscape]
  let zero : Scanner (List Nat) := do
    expect "0"
    require !((← peek?).any Char.isDigit)
    return [0]
  let other : Scanner (List Nat) := do
    match ← satisfy fun _ => true with
    | 'n' => return [10]
    | 't' => return [9]
    | 'r' => return [13]
    | 'b' => return [8]
    | 'v' => return [11]
    | 'f' => return [12]
    | 'x' => return [hexValue (← takeExactly (fun char => (hexDigit? char).isSome) 2)]
    | 'u' => return [← unicodeDigits]
    | '\r' =>
      let _ ← accept "\n"
      return []
    | char =>
      require (allowsOctal || !char.isDigit)
      return if isLineEnd char then [] else [char.toNat]
  zero <|> octal <|> other

def text (strict : Bool) : Scanner Units := do
  let quote ← satisfy fun char => char == '"' || char == '\x27'
  let pieces ← many <|
    (do let char ← satisfy fun char => char != quote && char != '\\' && char != '\n' && char != '\r'
        return [char.toNat])
      <|> (do expect "\\"; escape (!strict))
  expect (.singleton quote)
  return .ofCodePoints pieces.flatten

/-- A stretch of a template: what it stands for, unless an escape in it stands for nothing; how it
is written; and whether the template ends behind it. -/
structure Stretch where
  cooked : Option Units
  written : Units
  /-- Whether the template ends behind it. -/
  isLast : Bool

/-- A piece of a template: what it stands for and how it is written. -/
def templatePiece : Scanner (Option (List Nat) × List Char) :=
  (do
    let _ ← optional (expect "\r")
    expect "\n"
    return (some [10], ['\n']))
  <|> (do
    expect "\r"
    return (some [10], ['\n']))
  <|> (do
    expect "\\"
    let before ← get
    match ← optional (escape false) with
    | some codes =>
      let written := before.take (before.length - (← get).length)
      return (some codes, '\\' :: (String.ofList written |>.replace "\r\n" "\n"
        |>.replace "\r" "\n").toList)
    | none =>
      let char ← satisfy fun _ => true
      return (none, ['\\', char]))
  <|> (do
    require !("$\x7b".toList.isPrefixOf (← get))
    let char ← satisfy (· != '\x60')
    return (some [char.toNat], [char]))

/-- The template up to the next value in it or to its end. -/
def stretch : Scanner Stretch := do
  let pieces ← many templatePiece
  let isLast ← accept "\x60"
  if !isLast then expect "$\x7b"
  let cooked : Option (List (List Nat)) := pieces.mapM fun piece => piece.1
  return { cooked := cooked.map fun codes => .ofCodePoints codes.flatten
           written := .ofChars (pieces.flatMap (·.2)), isLast }

/-- A part of a pattern between slashes: a class in brackets, an escape, or a character. -/
def patternPiece : Scanner (List Char) :=
  (do
    expect "\\"
    return ['\\', ← satisfy (!isLineEnd ·)])
  <|> (do
    expect "["
    let inner ← many <|
      (do expect "\\"; return ['\\', ← satisfy (!isLineEnd ·)])
        <|> (do return [← satisfy fun char => char != ']' && char != '\\' && !isLineEnd char])
    expect "]"
    return '[' :: inner.flatten ++ [']'])
  <|> (do return [← satisfy fun char => char != '/' && char != '[' && char != '\\' && !isLineEnd char])

/-- A pattern between slashes, with its flags. -/
def regexp : Scanner (Units × Units) := do
  expect "/"
  require ((← peek?) != some '*')
  let pieces ← many patternPiece
  require !pieces.isEmpty
  expect "/"
  let flags ← takeWhile continuesName
  return (.ofChars pieces.flatten, .ofChars flags)

end FencedCode.Script.Lexeme
