import FencedCode.Text.Classes

/-!
# Trimming

Removing white space at the ends of a text.
-/

namespace FencedCode.Text

/-- The characters without white space at the start. -/
def trimStart (chars : List Char) : List Char := chars.dropWhile isBlank

/-- The characters without white space at the end. -/
def trimEnd (chars : List Char) : List Char := (chars.reverse.dropWhile isBlank).reverse

/-- The characters without white space at either end. -/
def trim (chars : List Char) : List Char := trimEnd (trimStart chars)

/-- A text without white space at either end. -/
def trimText (text : String) : String := .ofList (trim text.toList)

end FencedCode.Text
