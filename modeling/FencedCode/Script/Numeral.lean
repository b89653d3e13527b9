import FencedCode.Script.Lexeme

/-!
# Numbers from texts

How a whole text is read as a number, and how a number is read off the front of a text.
-/

namespace FencedCode.Script.Numeral

open Text Text.Scanner

/-- Whether a character is passed over at both ends of a numeral. -/
def isOuterBlank (char : Char) : Bool := Lexeme.isBlank char || Lexeme.isLineEnd char

/-- A text without the blanks at its start. -/
def trimStart (chars : List Char) : List Char := chars.dropWhile isOuterBlank

/-- A text without the blanks at its end. -/
def trimEnd (chars : List Char) : List Char := (chars.reverse.dropWhile isOuterBlank).reverse

def notNumber : Float := 0.0 / 0.0

/-- A sign, as whether it is a minus. -/
def sign : Scanner Bool := do
  if ← accept "-" then return true
  let _ ← accept "+"
  return false

/-- A value with a sign. -/
def signed (negative : Bool) (value : Float) : Float := if negative then -value else value

/-- A number in decimal notation, or infinity. -/
def decimal : Scanner Float := do
  let negative ← sign
  if ← accept "Infinity" then return signed negative (1.0 / 0.0)
  let whole ← takeWhile Char.isDigit
  let places ← if ← accept "." then takeWhile Char.isDigit else pure []
  require !(whole.isEmpty && places.isEmpty)
  let exponent : Scanner Int := do
    let _ ← satisfy fun char => char == 'e' || char == 'E'
    let negative ← sign
    let value : Int := Lexeme.valueOf 10 (← takeSome Char.isDigit)
    return if negative then -value else value
  let power ← optional exponent
  return signed negative
    (Decimal.floatOfDigits (whole ++ places) (power.getD 0 - places.length))

/-- The value of a character as a digit of a base up to 36. -/
def digitValue? (char : Char) : Option Nat :=
  if char.isDigit then some (char.toNat - 48)
  else if 'a' ≤ char ∧ char ≤ 'z' then some (char.toNat - 87)
  else if 'A' ≤ char ∧ char ≤ 'Z' then some (char.toNat - 55)
  else none

/-- The value of digits of a base. -/
def valueIn (base : Nat) (digits : List Char) : Nat :=
  digits.foldl (fun value digit => value * base + (digitValue? digit).getD 0) 0

/-- Whether a character is a digit of a base. -/
def isDigitOf (base : Nat) (char : Char) : Bool := (digitValue? char).any (· < base)

/-- A natural number in a base that is a power of two, behind its mark. -/
def based : Scanner Nat := do
  expect "0"
  let base ← match ← satisfy fun _ => true with
    | 'x' | 'X' => pure 16
    | 'o' | 'O' => pure 8
    | 'b' | 'B' => pure 2
    | _ => refuse
  return valueIn base (← takeSome (isDigitOf base))

/-- The number that a whole text writes; the empty text writes zero. -/
def numberOf (text : Units) : Float :=
  let chars := trimEnd (trimStart text.toChars)
  if chars.isEmpty then 0
  else
    let whole : Scanner Float := (Decimal.Dyadic.floatOfInt ∘ Int.ofNat) <$> based <|> decimal
    (whole.readAll? (.ofList chars)).getD notNumber

/-- The number at the front of a text. -/
def floatPrefix (text : Units) : Float :=
  match decimal.run (trimStart text.toChars) with
  | some (value, _) => value
  | none => notNumber

/-- The whole number at the front of a text in a base; base zero stands for ten, or for sixteen if
the text says so. -/
def intPrefix (text : Units) (base : Int) : Float :=
  let chars := trimStart text.toChars
  let (negative, chars) := match chars with
    | '-' :: rest => (true, rest)
    | '+' :: rest => (false, rest)
    | chars => (false, chars)
  let (base, chars) := match chars with
    | '0' :: 'x' :: rest | '0' :: 'X' :: rest =>
      if base == 0 || base == 16 then (16, rest) else (base, chars)
    | chars => (if base == 0 then 10 else base, chars)
  if base < 2 || 36 < base then notNumber
  else
    let digits := chars.takeWhile (isDigitOf base.toNat)
    if digits.isEmpty then notNumber
    else signed negative (Decimal.Dyadic.floatOfInt (valueIn base.toNat digits))

/-- The big number that a whole text writes. -/
def bigintOf? (text : Units) : Option Int :=
  let chars := trimEnd (trimStart text.toChars)
  if chars.isEmpty then some 0
  else
    let decimal : Scanner Int := do
      let negative ← sign
      let value : Int := valueIn 10 (← takeSome Char.isDigit)
      return if negative then -value else value
    ((Int.ofNat <$> based) <|> decimal : Scanner Int).readAll? (.ofList chars)

end FencedCode.Script.Numeral
