/-!
# Cursors

A cursor is a place in a text.  It holds the character before the place, if there is one, and the
characters still to come.  Nothing else about the text can influence a match, so a match found at
one cursor is found at every equal cursor, whatever text surrounds it.

A list of distinct cursors, in the order in which they were found, is kept as a `Found`.
-/

namespace FencedCode

/-- A place in a text: the character before it and the characters after it. -/
structure Cursor where
  /-- The character just before the place; `none` at the start of the text. -/
  before : Option Char
  /-- The characters still to come. -/
  after : List Char
  /-- How many characters are still to come. -/
  size : Nat := after.length
  /-- The stored number is the true one. -/
  size_eq : size = after.length := by rfl
deriving DecidableEq, Repr

namespace Cursor

/-- The place before the first character of a text. -/
def start (text : List Char) : Cursor where
  before := none
  after := text

/-- The next character and the place after it. -/
def next? (cursor : Cursor) : Option (Char × Cursor) :=
  match h : cursor.after with
  | [] => none
  | char :: rest => some (char,
      { before := some char, after := rest, size := cursor.size - 1,
        size_eq := by rw [cursor.size_eq, h]; rfl })

@[simp] theorem start_after (text : List Char) : (start text).after = text := rfl

@[simp] theorem start_before (text : List Char) : (start text).before = none := rfl

/-- Two cursors with the same neighbours are the same cursor. -/
theorem ext_of_before_after {left right : Cursor} (sameBefore : left.before = right.before)
    (sameAfter : left.after = right.after) : left = right := by
  cases left with
  | mk leftBefore leftAfter leftSize leftEq =>
    cases right with
    | mk rightBefore rightAfter rightSize rightEq =>
      simp only at sameBefore sameAfter
      subst sameBefore sameAfter
      simp [leftEq, rightEq]

theorem next?_eq_none_iff {cursor : Cursor} : cursor.next? = none ↔ cursor.after = [] := by
  unfold next?
  split <;> simp_all

theorem next?_eq_some_iff {cursor following : Cursor} {char : Char} :
    cursor.next? = some (char, following) ↔
      cursor.after = char :: following.after ∧ following.before = some char := by
  unfold next?
  split
  · next h => simp [h]
  · next head rest h =>
    constructor
    · intro equation
      cases equation
      exact ⟨h, rfl⟩
    · rintro ⟨equation, isBefore⟩
      rw [h] at equation
      cases equation
      exact congrArg some (Prod.ext rfl (ext_of_before_after isBefore.symm rfl))

theorem size_next {cursor following : Cursor} {char : Char}
    (step : cursor.next? = some (char, following)) : following.size + 1 = cursor.size := by
  have parts := (next?_eq_some_iff.mp step).1
  rw [cursor.size_eq, following.size_eq, parts, List.length_cons]

/-- The characters from `cursor` up to a later place of the same text. -/
def charsTo (cursor later : Cursor) : List Char := cursor.after.take (cursor.size - later.size)

end Cursor

/-- Distinct places of one text, the latest find first.  The places still to come tell two places
of one text apart, so a bit for each of these numbers says which have been found. -/
structure Found where
  cursors : List Cursor := []
  /-- One bit for each number of characters to come. -/
  seen : Nat := 0
deriving Repr

namespace Found

/-- Whether a place is among those found. -/
def contains (found : Found) (cursor : Cursor) : Bool := found.seen.testBit cursor.size

/-- Adds a place, unless it is among those found. -/
def add (found : Found) (cursor : Cursor) : Found :=
  if found.contains cursor then found
  else { cursors := cursor :: found.cursors, seen := found.seen ||| (1 <<< cursor.size) }

/-- The places in the order in which they were found. -/
def toList (found : Found) : List Cursor := found.cursors.reverse

end Found

end FencedCode
