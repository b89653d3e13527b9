import FencedCode.Text.CharTable

/-!
# Scanners

A scanner reads a value off the front of a text and leaves the rest, or refuses.  A scanner that
refuses consumes nothing, so that `first <|> second` tries both at the same place.  Repetition is
bounded by the length of the text, which suffices for every scanner that consumes something.
-/

namespace FencedCode.Text

/-- Reads a value off the front of a text. -/
abbrev Scanner := StateT (List Char) Option

namespace Scanner

def refuse {α : Type} : Scanner α := fun _ => none

/-- Refuses unless a condition holds. -/
def require (condition : Bool) : Scanner Unit := if condition then pure () else refuse

/-- The next character, without consuming it. -/
def peek? : Scanner (Option Char) := return (← get).head?

/-- Consumes the next character if it satisfies a condition, and refuses otherwise. -/
def satisfy (condition : Char → Bool) : Scanner Char := do
  let char :: rest := (← get) | refuse
  require (condition char)
  set rest
  return char

/-- Consumes a given text, and refuses anything else. -/
def expect (text : String) : Scanner Unit := do
  require (text.toList.isPrefixOf (← get))
  modify (·.drop text.length)

/-- Consumes a given text if it comes next, and says whether it did. -/
def accept (text : String) : Scanner Bool := do
  if text.toList.isPrefixOf (← get) then
    modify (·.drop text.length)
    return true
  return false

/-- Consumes the characters up to the first that does not satisfy a condition. -/
def takeWhile (condition : Char → Bool) : Scanner (List Char) :=
  modifyGet fun chars => (chars.takeWhile condition, chars.dropWhile condition)

/-- Consumes one or more characters that satisfy a condition. -/
def takeSome (condition : Char → Bool) : Scanner (List Char) := do
  let chars ← takeWhile condition
  require !chars.isEmpty
  return chars

/-- Consumes a number of characters that satisfy a condition. -/
def takeExactly (condition : Char → Bool) (count : Nat) : Scanner (List Char) := do
  let chars := (← get).take count
  require (chars.length == count && chars.all condition)
  modify (·.drop count)
  return chars

/-- Refuses unless the text has been read to its end. -/
def finish : Scanner Unit := do require (← get).isEmpty

/-- Reads parts, at most `limit` of them, up to the first that is refused. -/
def manyUpTo {α : Type} (part : Scanner α) : Nat → Scanner (List α)
  | 0 => pure []
  | limit + 1 => do
    match ← optional part with
    | some value => return value :: (← manyUpTo part limit)
    | none => return []

/-- Reads parts up to the first that is refused.  Each of them has to consume something. -/
def many {α : Type} (part : Scanner α) : Scanner (List α) := do manyUpTo part (← get).length

/-- Reads parts with a separator between them. -/
def separated {α : Type} (separator : Scanner Unit) (part : Scanner α) : Scanner (List α) := do
  match ← optional part with
  | some first => return first :: (← many (do separator; part))
  | none => return []

/-- What a scanner reads off a whole text. -/
def readAll? {α : Type} (scanner : Scanner α) (text : String) : Option α :=
  (StateT.run (do let value ← scanner; finish; return value) text.toList).map (·.1)

end Scanner

end FencedCode.Text
