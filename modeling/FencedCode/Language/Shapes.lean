import FencedCode.Language.Basic
import FencedCode.Pattern.Shapes

/-!
# Shapes of tokens

The literals, comments and words that many languages have in common.
-/

namespace FencedCode

namespace Shape

open Pattern

def letters : CharSet := .union (.range 'a' 'z') (.range 'A' 'Z')

def digits : CharSet := .range '0' '9'

/-- White space of any kind. -/
def blanks : Pattern := plus (one (.named .blank))

/-- A comment from an opening text to the end of the line. -/
def lineComment (opening : String) : Pattern := seq (text opening) (star dotChar)

/-- Anything between an opening text and the first closing text behind it. -/
def delimited (opening closing : String) : Pattern :=
  sequenceOf [text opening, lazyStar anyChar, text closing]

/-- A text in quotes, in which a backslash takes away the meaning of the next character of its
line. -/
def quoted (quote : Char) : Pattern :=
  let mark := one (.single quote)
  let plain := one (.complement (.ofList [quote, '\\']))
  let escaped := seq (one (.single '\\')) dotChar
  sequenceOf [mark, star (alt plain escaped), mark]

/-- A text in quotes without escapes. -/
def verbatim (quote : Char) : Pattern :=
  let mark := one (.single quote)
  sequenceOf [mark, star (one (.complement (.single quote))), mark]

/-- A word: a character of a first set, then characters of another. -/
def wordOf (first later : CharSet) : Pattern := seq (one first) (star (one later))

/-- Letters, digits and the underscore, with no digit at the start. -/
def identifier : Pattern :=
  wordOf (.union letters (.single '_')) (.union (.union letters digits) (.single '_'))

/-- Digits with an optional point and digits behind it. -/
def decimal : Pattern :=
  sequenceOf [plus (one digits), optional (one (.single '.')), star (one digits)]

def exponent : Pattern :=
  sequenceOf [one (.single 'e'), optional (oneOf "+-"), plus (one digits)]

/-- A pattern between two edges of ASCII words. -/
def standalone (body : Pattern) : Pattern := sequenceOf [asciiEdge, body, asciiEdge]

/-- Numbers in the bases sixteen, two and eight, and decimal numbers in a given form. -/
def basedNumber (decimalForm : Pattern) : Pattern :=
  let hexDigits := CharSet.union digits (.union (.range 'a' 'f') (.range 'A' 'F'))
  choiceOf [seq (text "0x") (plus (one hexDigits)), seq (text "0b") (plus (oneOf "01")),
    seq (text "0o") (plus (one (.range '0' '7'))), decimalForm]

end Shape

end FencedCode
