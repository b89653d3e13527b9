import FencedCode.Pattern.Basic

/-!
# Building patterns

Names for the shapes from which rule tables are put together: given texts, sets of characters,
repetitions and choices.
-/

namespace FencedCode

namespace Pattern

/-- One character of a list. -/
def oneOf (chars : String) : Pattern := one (.ofList chars.toList)

/-- One character that is not in a list. -/
def noneOf (chars : String) : Pattern := one (.complement (.ofList chars.toList))

def anyChar : Pattern := one (.named .any)

/-- Any character but a line feed. -/
def dotChar : Pattern := noneOf "\n"

def text (chars : String) : Pattern := literal chars.toList

/-- Patterns one after the other. -/
def sequenceOf : List Pattern → Pattern
  | [] => empty
  | first :: rest => rest.foldl seq first

/-- One of several patterns; an earlier one is preferred. -/
def choiceOf : List Pattern → Pattern
  | [] => one .empty
  | first :: rest => rest.foldl alt first

/-- As many rounds as possible. -/
def star (body : Pattern) : Pattern := repeated body 0 none true

/-- As many rounds as possible, at least one. -/
def plus (body : Pattern) : Pattern := repeated body 1 none true

/-- As few rounds as possible. -/
def lazyStar (body : Pattern) : Pattern := repeated body 0 none false

def optional (body : Pattern) : Pattern := repeated body 0 (some 1) true

/-- An edge of a word of ASCII characters. -/
def asciiEdge : Pattern := assert (.word .boundary true)

end Pattern

end FencedCode
