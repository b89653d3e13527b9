import FencedCode.Text.Trim

/-!
# Fenced blocks

The stored form of a block: three backticks and the name of its language on a first line, the
text of the block, and three backticks on a last line.  Reading accepts any text; one that is not
fenced is a block without a language.
-/

namespace FencedCode

open Text

/-- A block: the name of its language, possibly empty, and its text. -/
structure Fence where
  /-- The name of the language as it is written. -/
  name : String
  /-- The text of the block. -/
  body : String
deriving DecidableEq, Repr

namespace Fence

/-- The mark that opens and closes a block. -/
def mark : List Char := ['\x60', '\x60', '\x60']

/-- Whether a text is meant as a fenced block. -/
def isFenced (raw : String) : Bool := mark.isPrefixOf raw.toList

/-- The name of the language: the word characters right behind the opening mark. -/
def nameOf (raw : List Char) : List Char :=
  if mark.isPrefixOf raw then (raw.drop mark.length).takeWhile isAsciiWord else []

/-- The characters behind the first line feed; none if there is no line feed. -/
def afterFirstLine (raw : List Char) : List Char := (raw.dropWhile (· != '\n')).drop 1

/-- The characters without one closing mark at the end. -/
def dropClosing (chars : List Char) : List Char :=
  if mark.isSuffixOf chars then chars.take (chars.length - mark.length) else chars

/-- The text of the block: what follows the first line, without the closing mark and without white
space at either end. -/
def bodyOf (raw : List Char) : List Char := trim (dropClosing (trimEnd (afterFirstLine raw)))

def parse (raw : String) : Fence where
  name := .ofList (nameOf raw.toList)
  body := .ofList (bodyOf raw.toList)

/-- The stored form of a block. -/
def serialize (fence : Fence) : String :=
  "\x60\x60\x60" ++ fence.name ++ "\n" ++ fence.body ++ "\n\x60\x60\x60"

end Fence

end FencedCode
