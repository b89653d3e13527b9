import FencedCode.Pattern.Cursor
import FencedCode.Text.Classes

/-!
# Assertions

Conditions on a place that consume nothing: ends of the text, ends of lines and edges of words.
Each looks at most at one character before the place and at one after it.
-/

namespace FencedCode

open Text

/-- A condition on the two neighbours of a place with respect to words. -/
inductive WordEdge where
  /-- Exactly one neighbour is a word character. -/
  | boundary
  /-- Both neighbours are word characters, or neither is. -/
  | noBoundary
  | opening
  | closing
  /-- No word character stands before. -/
  | halfOpening
  | halfClosing
deriving DecidableEq, Repr

namespace WordEdge

/-- Whether the condition holds, given whether a word character stands before and after. -/
def holds (edge : WordEdge) (before after : Bool) : Bool :=
  match edge with
  | boundary => before != after
  | noBoundary => before == after
  | opening => !before && after
  | closing => before && !after
  | halfOpening => !before
  | halfClosing => !after

end WordEdge

/-- A condition on a place. -/
inductive Assertion where
  /-- The start of the text. -/
  | textStart
  /-- The end of the text. -/
  | textEnd
  /-- The start of a line; lines end in a line feed. -/
  | lineStart
  /-- The end of a line; lines end in a line feed. -/
  | lineEnd
  /-- The start of a line; lines end in a line feed, a carriage return or both. -/
  | anyLineStart
  /-- The end of a line; lines end in a line feed, a carriage return or both. -/
  | anyLineEnd
  /-- An edge of a word; with `ascii`, of a word of ASCII characters. -/
  | word (edge : WordEdge) (ascii : Bool)
deriving DecidableEq, Repr

namespace Assertion

/-- Whether the condition holds between the characters before and after a place. -/
def holdsBetween (assertion : Assertion) (before after : Option Char) : Bool :=
  match assertion with
  | textStart => before.isNone
  | textEnd => after.isNone
  | lineStart => before.all (· == '\n')
  | lineEnd => after.all (· == '\n')
  | anyLineStart => before.all fun char => char == '\n' || (char == '\r' && after != some '\n')
  | anyLineEnd => after.all fun char => char == '\r' || (char == '\n' && before != some '\r')
  | word edge ascii =>
    let inWord := if ascii then isAsciiWord else isWord
    edge.holds (before.any inWord) (after.any inWord)

/-- Whether the condition holds at a place. -/
def holds (assertion : Assertion) (cursor : Cursor) : Bool :=
  assertion.holdsBetween cursor.before cursor.after.head?

end Assertion

end FencedCode
