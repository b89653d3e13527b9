import FencedCode.Text.Trim

/-!
# What trimming leaves

A text is white space, a part without white space at its ends, and white space again.  The part
in the middle is determined by the text, and trimming finds it.
-/

namespace FencedCode.Text

/-- What is left of some characters without the white space at both ends. -/
structure Trimmed (chars kept : List Char) : Prop where
  around : ∃ front back, chars = front ++ (kept ++ back) ∧
    (∀ char ∈ front, isBlank char) ∧ ∀ char ∈ back, isBlank char
  starts : ∀ char, kept.head? = some char → ¬isBlank char
  ends : ∀ char, kept.getLast? = some char → ¬isBlank char

/-! ### One end -/

theorem trimStart_append_of_blank {front : List Char} (blank : ∀ char ∈ front, isBlank char)
    (chars : List Char) : trimStart (front ++ chars) = trimStart chars :=
  List.dropWhile_append_of_pos blank

theorem trimStart_eq_self {chars : List Char}
    (starts : ∀ char, chars.head? = some char → ¬isBlank char) : trimStart chars = chars := by
  cases chars with
  | nil => rfl
  | cons char chars => exact List.dropWhile_cons_of_neg (starts char rfl)

/-- White space in front, and then a start that is none. -/
theorem exists_trimStart (chars : List Char) :
    (∃ front, chars = front ++ trimStart chars ∧ ∀ char ∈ front, isBlank char) ∧
      ∀ char, (trimStart chars).head? = some char → ¬isBlank char := by
  refine ⟨⟨chars.takeWhile isBlank, List.takeWhile_append_dropWhile.symm, ?_⟩, ?_⟩
  · intro char member
    exact List.all_eq_true.mp List.all_takeWhile char member
  · intro char isFirst
    have stopped := List.head?_dropWhile_not isBlank chars
    rw [trimStart] at isFirst
    rw [isFirst] at stopped
    simpa using stopped

theorem trimEnd_eq_reverse (chars : List Char) :
    trimEnd chars = (trimStart chars.reverse).reverse := rfl

theorem trimEnd_append_of_blank {back : List Char} (blank : ∀ char ∈ back, isBlank char)
    (chars : List Char) : trimEnd (chars ++ back) = trimEnd chars := by
  have blankBack : ∀ char ∈ back.reverse, isBlank char := by
    intro char member
    exact blank char (List.mem_reverse.mp member)
  rw [trimEnd_eq_reverse, List.reverse_append, trimStart_append_of_blank blankBack,
    trimEnd_eq_reverse]

theorem trimEnd_eq_self {chars : List Char}
    (ends : ∀ char, chars.getLast? = some char → ¬isBlank char) : trimEnd chars = chars := by
  rw [trimEnd_eq_reverse, trimStart_eq_self, List.reverse_reverse]
  intro char isLast
  rw [List.head?_reverse] at isLast
  exact ends char isLast

theorem exists_trimEnd (chars : List Char) :
    (∃ back, chars = trimEnd chars ++ back ∧ ∀ char ∈ back, isBlank char) ∧
      ∀ char, (trimEnd chars).getLast? = some char → ¬isBlank char := by
  obtain ⟨⟨front, split, blank⟩, starts⟩ := exists_trimStart chars.reverse
  refine ⟨⟨front.reverse, ?_, ?_⟩, ?_⟩
  · rw [trimEnd_eq_reverse, ← List.reverse_append, ← split, List.reverse_reverse]
  · intro char member
    exact blank char (List.mem_reverse.mp member)
  · intro char isLast
    rw [trimEnd_eq_reverse, List.getLast?_reverse] at isLast
    exact starts char isLast

/-! ### Both ends -/

/-- Trimming finds the part in the middle. -/
theorem trimmed_trim (chars : List Char) : Trimmed chars (trim chars) := by
  obtain ⟨⟨front, split, blankFront⟩, starts⟩ := exists_trimStart chars
  obtain ⟨⟨back, splitBack, blankBack⟩, ends⟩ := exists_trimEnd (trimStart chars)
  refine ⟨⟨front, back, ?_, blankFront, blankBack⟩, ?_, ends⟩
  · rw [trim, ← splitBack, ← split]
  · intro char isFirst
    apply starts
    rw [splitBack, List.head?_append]
    rw [trim] at isFirst
    rw [isFirst, Option.some_or]

theorem Trimmed.trim_eq {chars kept : List Char} (trimmed : Trimmed chars kept) :
    trim chars = kept := by
  obtain ⟨⟨front, back, rfl, blankFront, blankBack⟩, starts, ends⟩ := trimmed
  rw [trim, trimStart_append_of_blank blankFront]
  cases kept with
  | nil =>
      have gone : trimStart back = [] := by
        have dropped := trimStart_append_of_blank blankBack []
        rwa [List.append_nil] at dropped
      rw [List.nil_append, gone]
      rfl
  | cons char kept =>
      have stays : trimStart (char :: kept ++ back) = char :: kept ++ back :=
        trimStart_eq_self starts
      rw [stays, trimEnd_append_of_blank blankBack, trimEnd_eq_self ends]

/-- A trimmed text has nothing left to trim. -/
theorem trim_trim (chars : List Char) : trim (trim chars) = trim chars := by
  obtain ⟨_, starts, ends⟩ := trimmed_trim chars
  refine Trimmed.trim_eq ⟨⟨[], [], ?_, ?_, ?_⟩, starts, ends⟩
  · rw [List.append_nil, List.nil_append]
  · exact List.forall_mem_nil _
  · exact List.forall_mem_nil _

/-- White space behind a text is trimmed with it. -/
theorem trim_append_of_blank {back : List Char} (blank : ∀ char ∈ back, isBlank char)
    (chars : List Char) : trim (chars ++ back) = trim chars := by
  obtain ⟨⟨front, behind, split, blankFront, blankBehind⟩, starts, ends⟩ := trimmed_trim chars
  refine Trimmed.trim_eq ⟨⟨front, behind ++ back, ?_, blankFront, ?_⟩, starts, ends⟩
  · have whole := congrArg (· ++ back) split
    simpa only [List.append_assoc] using whole
  · exact List.forall_mem_append.mpr ⟨blankBehind, blank⟩

/-- A text that starts with no white space starts with the same character when it is trimmed. -/
theorem head?_trim_cons {char : Char} (shown : ¬isBlank char) (chars : List Char) :
    (trim (char :: chars)).head? = some char := by
  obtain ⟨⟨front, back, split, blankFront, blankBack⟩, _, _⟩ := trimmed_trim (char :: chars)
  cases front with
  | cons blank front =>
      obtain ⟨rfl, _⟩ := List.cons.inj split
      exact absurd (blankFront char List.mem_cons_self) shown
  | nil =>
      cases kept : trim (char :: chars) with
      | nil =>
          have inBack : char ∈ back := by
            rw [kept, List.nil_append, List.nil_append] at split
            exact split ▸ List.mem_cons_self
          exact absurd (blankBack char inBack) shown
      | cons first others =>
          rw [kept] at split
          rw [List.head?_cons, (List.cons.inj split).1]

theorem toList_trimText (text : String) : (trimText text).toList = trim text.toList := by
  rw [trimText, String.toList_ofList]

/-- White space in front of a text is trimmed with it. -/
theorem trim_append_of_blank_front {front : List Char} (blank : ∀ char ∈ front, isBlank char)
    (chars : List Char) : trim (front ++ chars) = trim chars := by
  rw [trim, trimStart_append_of_blank blank, trim]

theorem trim_trimEnd (chars : List Char) : trim (trimEnd chars) = trim chars := by
  obtain ⟨⟨back, split, blank⟩, _⟩ := exists_trimEnd chars
  calc trim (trimEnd chars)
    _ = trim (trimEnd chars ++ back) := (trim_append_of_blank blank _).symm
    _ = trim chars := by rw [← split]

/-- The end of a text is trimmed as it is trimmed alone. -/
theorem trimEnd_suffix {chars other : List Char} (suffix : chars <:+ other) :
    trimEnd chars <:+ trimEnd other := by
  obtain ⟨front, rfl⟩ := suffix
  obtain ⟨⟨back, split, blank⟩, ends⟩ := exists_trimEnd chars
  cases last : (trimEnd chars).getLast? with
  | none =>
      rw [List.getLast?_eq_none_iff.mp last]
      exact List.nil_suffix
  | some char =>
      have whole : trimEnd (front ++ chars) = front ++ trimEnd chars := by
        calc trimEnd (front ++ chars)
          _ = trimEnd (front ++ trimEnd chars ++ back) := by rw [List.append_assoc, ← split]
          _ = trimEnd (front ++ trimEnd chars) := trimEnd_append_of_blank blank _
          _ = front ++ trimEnd chars := by
              apply trimEnd_eq_self
              rw [List.getLast?_append, last, Option.some_or, ← last]
              exact ends
      rw [whole]
      exact List.suffix_append ..

/-- Trimming keeps all characters but white space. -/
theorem countP_trim (chars : List Char) :
    (trim chars).countP (!isBlank ·) = chars.countP (!isBlank ·) := by
  obtain ⟨⟨front, back, split, blankFront, blankBack⟩, _, _⟩ := trimmed_trim chars
  have nothing : ∀ blanks : List Char, (∀ char ∈ blanks, isBlank char) →
      blanks.countP (!isBlank ·) = 0 := by
    intro blanks blank
    rw [List.countP_eq_zero]
    intro char member
    simp [blank char member]
  have counted := congrArg (List.countP (!isBlank ·)) split
  rw [List.countP_append, List.countP_append, nothing front blankFront,
    nothing back blankBack] at counted
  omega

/-- Trimming loses nothing by a beginning of the text exactly if that is white space. -/
theorem trim_append_eq_iff {front chars : List Char} :
    trim (front ++ chars) = trim chars ↔ ∀ char ∈ front, isBlank char := by
  constructor
  · intro same
    have counted := congrArg (List.countP (!isBlank ·)) same
    rw [countP_trim, countP_trim, List.countP_append] at counted
    have noneShown : front.countP (!isBlank ·) = 0 := by omega
    simpa [List.countP_eq_zero] using noneShown
  · intro blank
    exact trim_append_of_blank_front blank chars

end FencedCode.Text
