import FencedCode.Text.Classes

/-!
# Lines

A text as lines and the ends between them.  A line ends in a line feed, a carriage return or both;
what stands behind the last end is a line as well, which nothing ends.  Every text is made of lines
in one way, as long as no line holds an end of its own and no two ends are taken for one.
-/

namespace FencedCode.Text

/-- The characters that end lines, alone or together. -/
def isLineEnd (char : Char) : Bool := char == '\n' || char == '\r'

theorem isBlank_of_isLineEnd {char : Char} (ends : isLineEnd char) : isBlank char := by
  rw [isLineEnd, Bool.or_eq_true, beq_iff_eq, beq_iff_eq] at ends
  rcases ends with rfl | rfl <;> decide

/-- What ends a line. -/
inductive LineEnd where
  | lineFeed
  | carriageReturn
  | both
deriving DecidableEq, Repr

namespace LineEnd

def chars : LineEnd → List Char
  | lineFeed => ['\n']
  | carriageReturn => ['\r']
  | both => ['\r', '\n']

theorem all_isLineEnd (ending : LineEnd) : ending.chars.all isLineEnd := by
  cases ending <;> rfl

theorem all_isBlank (ending : LineEnd) : ending.chars.all isBlank :=
  List.all_eq_true.mpr fun char member =>
    isBlank_of_isLineEnd (List.all_eq_true.mp ending.all_isLineEnd char member)

theorem countP_pos (ending : LineEnd) : 0 < ending.chars.countP isLineEnd := by
  cases ending <;> decide

/-- What comes behind an unbroken line starts with its end. -/
theorem isLineEnd_head (ending : LineEnd) (text : List Char) :
    ∀ char ∈ (ending.chars ++ text).head?, isLineEnd char := by
  cases ending <;> rintro char ⟨⟩ <;> rfl

end LineEnd

/-- A text as lines, each but the last with what ends it. -/
inductive Lines where
  | last (line : List Char)
  | more (line : List Char) (ending : LineEnd) (rest : Lines)
deriving DecidableEq, Repr

namespace Lines

/-- The lines with a character in front of the first. -/
def prepend (char : Char) : Lines → Lines
  | last line => last (char :: line)
  | more line ending rest => more (char :: line) ending rest

/-- The lines of a text. -/
def ofChars : List Char → Lines
  | [] => last []
  | '\r' :: '\n' :: rest => more [] .both (ofChars rest)
  | '\r' :: rest => more [] .carriageReturn (ofChars rest)
  | '\n' :: rest => more [] .lineFeed (ofChars rest)
  | char :: rest => (ofChars rest).prepend char

/-- The text of lines. -/
def chars : Lines → List Char
  | last line => line
  | more line ending rest => line ++ (ending.chars ++ rest.chars)

/-- The lines that have an end. -/
def ended : Lines → List (List Char)
  | last _ => []
  | more line _ rest => line :: rest.ended

@[simp] theorem chars_prepend (char : Char) (lines : Lines) :
    (lines.prepend char).chars = char :: lines.chars := by
  cases lines <;> rfl

theorem chars_ofChars (text : List Char) : (ofChars text).chars = text := by
  fun_induction ofChars text with
  | case1 => rfl
  | case2 rest ih | case3 rest _ ih | case4 rest ih => simp [chars, LineEnd.chars, ih]
  | case5 char rest _ _ _ ih => rw [chars_prepend, ih]

/-! ### Lines that can be told apart -/

/-- No character of a line ends it. -/
def Unbroken (line : List Char) : Prop := ∀ char ∈ line, ¬isLineEnd char

/-- No line holds an end of its own, and no line feed follows a carriage return that ends a line
alone. -/
def Proper : Lines → Prop
  | last line => Unbroken line
  | more line ending rest =>
    Unbroken line ∧ (ending = .carriageReturn → rest.chars.head? ≠ some '\n') ∧ rest.Proper

theorem Proper.prepend {char : Char} {lines : Lines} (proper : lines.Proper)
    (noEnd : ¬isLineEnd char) : (lines.prepend char).Proper := by
  cases lines with
  | last line => exact List.forall_mem_cons.mpr ⟨noEnd, proper⟩
  | more line ending rest =>
      exact ⟨List.forall_mem_cons.mpr ⟨noEnd, proper.1⟩, proper.2⟩

theorem proper_ofChars (text : List Char) : (ofChars text).Proper := by
  fun_induction ofChars text with
  | case1 => exact List.forall_mem_nil _
  | case2 rest ih | case4 rest ih => exact ⟨List.forall_mem_nil _, nofun, ih⟩
  | case3 rest notBoth ih =>
      refine ⟨List.forall_mem_nil _, fun _ lineFeed => ?_, ih⟩
      rw [chars_ofChars] at lineFeed
      obtain ⟨behind, rfl⟩ := List.head?_eq_some_iff.mp lineFeed
      exact notBoth behind rfl
  | case5 char rest _ noReturn noFeed ih =>
      apply ih.prepend
      rw [isLineEnd, Bool.or_eq_true, beq_iff_eq, beq_iff_eq]
      rintro (rfl | rfl)
      · exact noFeed rfl
      · exact noReturn rfl

theorem ofChars_cons {char : Char} (noEnd : ¬isLineEnd char) (text : List Char) :
    ofChars (char :: text) = (ofChars text).prepend char := by
  rw [isLineEnd, Bool.or_eq_true, beq_iff_eq, beq_iff_eq, not_or] at noEnd
  rw [ofChars]
  · rintro _ rfl
    exact absurd rfl noEnd.2
  · exact noEnd.2
  · exact noEnd.1

theorem ofChars_end {ending : LineEnd} {text : List Char}
    (apart : ending = .carriageReturn → text.head? ≠ some '\n') :
    ofChars (ending.chars ++ text) = more [] ending (ofChars text) := by
  cases ending with
  | lineFeed | both => simp [LineEnd.chars, ofChars]
  | carriageReturn =>
      show ofChars ('\r' :: text) = _
      rw [ofChars]
      rintro behind rfl
      exact absurd rfl (apart rfl)

theorem ofChars_line {line : List Char} (unbroken : Unbroken line) : ofChars line = last line := by
  induction line with
  | nil => rfl
  | cons char line ih =>
      obtain ⟨noEnd, others⟩ := List.forall_mem_cons.mp unbroken
      rw [ofChars_cons noEnd, ih others, prepend]

theorem ofChars_line_append {line text : List Char} {ending : LineEnd} (unbroken : Unbroken line)
    (apart : ending = .carriageReturn → text.head? ≠ some '\n') :
    ofChars (line ++ (ending.chars ++ text)) = more line ending (ofChars text) := by
  induction line with
  | nil => exact ofChars_end apart
  | cons char line ih =>
      obtain ⟨noEnd, others⟩ := List.forall_mem_cons.mp unbroken
      rw [List.cons_append, ofChars_cons noEnd, ih others, prepend]

theorem Proper.ofChars_chars {lines : Lines} (proper : lines.Proper) :
    ofChars lines.chars = lines := by
  induction lines with
  | last line => exact ofChars_line proper
  | more line ending rest ih =>
      obtain ⟨unbroken, apart, properRest⟩ := proper
      rw [chars, ofChars_line_append unbroken apart, ih properRest]

/-- A text splits into given lines exactly if it is their text and they can be told apart in it. -/
theorem ofChars_eq_iff {text : List Char} {lines : Lines} :
    ofChars text = lines ↔ text = lines.chars ∧ lines.Proper := by
  constructor
  · rintro rfl
    exact ⟨(chars_ofChars text).symm, proper_ofChars text⟩
  · rintro ⟨rfl, proper⟩
    exact proper.ofChars_chars

/-! ### Ends that are taken for one -/

/-- The first line satisfies a condition and ends in a line feed alone. -/
def FirstEndsInFeed (condition : List Char → Prop) : Lines → Prop
  | last _ => False
  | more line ending _ => ending = .lineFeed ∧ condition line

/-- A line that satisfies a condition is all that keeps a carriage return and a line feed apart. -/
def KeptApartBy (condition : List Char → Prop) : Lines → Prop
  | last _ => False
  | more _ ending rest =>
    (ending = .carriageReturn ∧ rest.FirstEndsInFeed condition) ∨ rest.KeptApartBy condition

variable {condition : List Char → Prop} [DecidablePred condition]

instance : DecidablePred (FirstEndsInFeed condition)
  | last _ => inferInstanceAs (Decidable False)
  | more line ending _ => inferInstanceAs (Decidable (ending = .lineFeed ∧ condition line))

instance decidableKeptApartBy : DecidablePred (KeptApartBy condition)
  | last _ => inferInstanceAs (Decidable False)
  | more _ ending rest =>
    have := decidableKeptApartBy rest
    inferInstanceAs (Decidable
      ((ending = .carriageReturn ∧ rest.FirstEndsInFeed condition) ∨ rest.KeptApartBy condition))

/-- Lines of which those that satisfy a condition are left empty. -/
def emptied (condition : List Char → Prop) [DecidablePred condition] : Lines → Lines
  | last line => last (if condition line then [] else line)
  | more line ending rest =>
    more (if condition line then [] else line) ending (rest.emptied condition)

theorem Unbroken.countP_eq_zero {line : List Char} (unbroken : Unbroken line) :
    line.countP isLineEnd = 0 := List.countP_eq_zero.mpr unbroken

theorem Unbroken.emptied {line : List Char} (unbroken : Unbroken line) :
    Unbroken (if condition line then [] else line) := by
  split
  · exact List.forall_mem_nil _
  · exact unbroken

/-- All ends stay where lines are emptied. -/
theorem countP_chars_emptied {lines : Lines} (proper : lines.Proper) :
    (lines.emptied condition).chars.countP isLineEnd = lines.chars.countP isLineEnd := by
  induction lines with
  | last line =>
      exact (Unbroken.emptied proper).countP_eq_zero.trans (Unbroken.countP_eq_zero proper).symm
  | more line ending rest ih =>
      obtain ⟨unbroken, _, properRest⟩ := proper
      rw [Lines.emptied, chars, chars, List.countP_append, List.countP_append, List.countP_append,
        List.countP_append, unbroken.emptied.countP_eq_zero, unbroken.countP_eq_zero, ih properRest]

theorem head?_chars_emptied_iff {lines : Lines} (proper : lines.Proper)
    (noFeed : lines.chars.head? ≠ some '\n') :
    (lines.emptied condition).chars.head? = some '\n' ↔ lines.FirstEndsInFeed condition := by
  cases lines with
  | last line =>
      refine iff_of_false ?_ id
      rw [emptied, chars]
      split
      · nofun
      · exact noFeed
  | more line ending rest =>
      rw [emptied, chars, FirstEndsInFeed]
      split
      · next holds => cases ending <;> simp [LineEnd.chars, holds]
      · next fails =>
        refine iff_of_false ?_ fun both => fails both.2
        rw [chars] at noFeed
        cases line with
        | nil => cases ending <;> exact noFeed
        | cons char line => exact noFeed

/-- Where lines are emptied, the others can be told apart as long as no two ends come together. -/
theorem proper_emptied_iff {lines : Lines} (proper : lines.Proper) :
    (lines.emptied condition).Proper ↔ ¬lines.KeptApartBy condition := by
  induction lines with
  | last line => exact iff_of_true (Unbroken.emptied proper) id
  | more line ending rest ih =>
      obtain ⟨unbroken, apart, properRest⟩ := proper
      have others : (rest.emptied condition).Proper ↔ ¬rest.KeptApartBy condition := ih properRest
      rw [Lines.emptied, Proper, KeptApartBy, not_or, not_and, others,
        and_iff_right unbroken.emptied]
      apply and_congr_left'
      apply forall_congr'
      intro isReturn
      rw [ne_eq, head?_chars_emptied_iff properRest (apart isReturn)]

end Lines

end FencedCode.Text
