import FencedCode.Text.Classes
import FencedCode.Text.LetterCase

/-!
# Sets of characters

What a class such as `[a-z&&[^aeiou]]` denotes.  A set is kept as it is written, from ranges and
named properties by union, intersection and complement, and is asked character by character.
-/

namespace FencedCode

open Text

/-- A named set of characters. -/
inductive CharProperty where
  | any
  | blank
  | decimal
  | word
  | alphabetic
  /-- Characters of one of the general categories. -/
  | category (categories : List Category)
  /-- Characters that a table lists. -/
  | listed (table : CharTable)
deriving DecidableEq, Repr

namespace CharProperty

/-- Whether a character has the property. -/
def holds (property : CharProperty) (char : Char) : Bool :=
  match property with
  | any => true
  | blank => isBlank char
  | decimal => isDecimal char
  | word => isWord char
  | alphabetic => isAlphabetic char
  | category categories => hasCategory categories char.toNat
  | listed table => table.contains char.toNat

end CharProperty

inductive CharSet where
  | empty
  /-- The characters from `first` to `last`. -/
  | range (first last : Char)
  /-- The characters that have a property. -/
  | named (property : CharProperty)
  /-- The characters of either set. -/
  | union (left right : CharSet)
  /-- The characters of both sets. -/
  | inter (left right : CharSet)
  | complement (set : CharSet)
  /-- The characters that are equal up to case to one of the set. -/
  | anyCase (set : CharSet)
  /-- The same for the case of ASCII letters alone. -/
  | anyAsciiCase (set : CharSet)
deriving DecidableEq, Repr

namespace CharSet

/-- Whether a character belongs to the set. -/
def contains : CharSet → Char → Bool
  | empty, _ => false
  | range first last, char => first ≤ char && char ≤ last
  | named property, char => property.holds char
  | union left right, char => left.contains char || right.contains char
  | inter left right, char => left.contains char && right.contains char
  | complement set, char => !set.contains char
  | anyCase set, char => (caseVariants char).any set.contains
  | anyAsciiCase set, char => set.contains char.toLower || set.contains char.toUpper

/-- The set of one character. -/
def single (char : Char) : CharSet := range char char

/-- The set of the characters of a list. -/
def ofList (chars : List Char) : CharSet := chars.foldr (fun char set => union (single char) set) empty

/-- The characters of `left` that `right` does not have. -/
def diff (left right : CharSet) : CharSet := inter left (complement right)

/-- The characters of exactly one of the sets. -/
def symmDiff (left right : CharSet) : CharSet := union (diff left right) (diff right left)

@[simp] theorem contains_single {char other : Char} :
    (single char).contains other = decide (char = other) := by
  simp only [single, contains, ← Bool.decide_and]
  have order : (char ≤ other ∧ other ≤ char) ↔ char = other :=
    ⟨fun both => Char.le_antisymm both.1 both.2, fun same => by subst same; simp⟩
  simp [order]

@[simp] theorem contains_ofList (chars : List Char) (char : Char) :
    (ofList chars).contains char = chars.contains char := by
  induction chars with
  | nil => rfl
  | cons first chars ih =>
      have split : (ofList (first :: chars)).contains char =
          (decide (first = char) || (ofList chars).contains char) := by
        rw [← contains_single]
        rfl
      rw [split, ih, List.contains_cons, Bool.beq_comm]
      rfl

/-- Whether the set keeps to ASCII, as far as the characters of one byte can show it. -/
def isAscii (set : CharSet) : Bool :=
  (List.range 128).all fun code => !set.contains (.ofNat (128 + code))

end CharSet

end FencedCode
