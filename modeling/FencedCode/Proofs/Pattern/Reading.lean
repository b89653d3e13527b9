import FencedCode.Pattern.Cursor

/-!
# Reading from place to place

A place is reached from another of the same text by reading characters.  The characters read decide
the place, and they are the characters between the two.
-/

namespace FencedCode

namespace Cursor

/-- `cursor.Reads chars later`: reading `chars` from `cursor` on leads to `later`. -/
inductive Reads : Cursor → List Char → Cursor → Prop where
  | stay (cursor : Cursor) : Reads cursor [] cursor
  | step {cursor following later : Cursor} {char : Char} {chars : List Char}
      (first : cursor.next? = some (char, following)) (rest : Reads following chars later) :
      Reads cursor (char :: chars) later

namespace Reads

variable {cursor middle later other : Cursor} {chars more : List Char}

/-- The characters read are those that no longer come. -/
theorem after_eq (reads : cursor.Reads chars later) : cursor.after = chars ++ later.after := by
  induction reads with
  | stay => rfl
  | step first _ ih =>
      rw [(next?_eq_some_iff.mp first).1, ih]
      rfl

/-- Each character read is one that no longer comes. -/
theorem size_eq (reads : cursor.Reads chars later) :
    cursor.size = chars.length + later.size := by
  rw [cursor.size_eq, later.size_eq, reads.after_eq, List.length_append]

/-- The character before a place is the last one read. -/
theorem before_eq (reads : cursor.Reads chars later) :
    later.before = chars.getLast?.or cursor.before := by
  induction reads with
  | stay => rfl
  | @step cursor following later char chars first _ ih =>
      rw [ih, (next?_eq_some_iff.mp first).2, List.getLast?_cons]
      cases chars.getLast? <;> rfl

theorem trans (reads : cursor.Reads chars middle) (readsMore : middle.Reads more later) :
    cursor.Reads (chars ++ more) later := by
  induction reads with
  | stay => exact readsMore
  | step first _ ih => exact .step first (ih readsMore)

/-- Reading some characters and then others passes the place between them. -/
theorem exists_between (reads : cursor.Reads (chars ++ more) later) :
    ∃ middle, cursor.Reads chars middle ∧ middle.Reads more later := by
  induction chars generalizing cursor with
  | nil => exact ⟨cursor, .stay cursor, reads⟩
  | cons char chars ih =>
      cases reads with
      | step first rest =>
          obtain ⟨middle, readsChars, readsMore⟩ := ih rest
          exact ⟨middle, .step first readsChars, readsMore⟩

/-- What has been read decides where one is. -/
theorem unique (left : cursor.Reads chars later) (right : cursor.Reads chars other) :
    later = other := by
  apply ext_of_before_after
  · rw [left.before_eq, right.before_eq]
  · exact List.append_cancel_left (left.after_eq.symm.trans right.after_eq)

/-- The characters between two places are those read from one to the other. -/
theorem charsTo_eq (reads : cursor.Reads chars later) : cursor.charsTo later = chars := by
  rw [charsTo, reads.size_eq, reads.after_eq, Nat.add_sub_cancel]
  exact List.take_left

end Reads

/-- The character that is read is the first of those to come. -/
theorem head?_after_of_next? {cursor next : Cursor} {char : Char}
    (read : cursor.next? = some (char, next)) : cursor.after.head? = some char := by
  rw [(next?_eq_some_iff.mp read).1, List.head?_cons]

/-- A character to come can be read. -/
theorem exists_next {cursor : Cursor} {char : Char} {rest : List Char}
    (toCome : cursor.after = char :: rest) :
    ∃ next, cursor.next? = some (char, next) ∧ next.before = some char ∧ next.after = rest := by
  cases read : cursor.next? with
  | none => simp [next?_eq_none_iff.mp read] at toCome
  | some pair =>
      obtain ⟨found, next⟩ := pair
      obtain ⟨parts, isBefore⟩ := next?_eq_some_iff.mp read
      rw [parts, List.cons.injEq] at toCome
      obtain ⟨rfl, nextAfter⟩ := toCome
      exact ⟨next, rfl, isBefore, nextAfter⟩

/-- All characters to come can be read. -/
theorem exists_reads {cursor : Cursor} {chars rest : List Char}
    (toCome : cursor.after = chars ++ rest) :
    ∃ later, cursor.Reads chars later ∧ later.after = rest := by
  induction chars generalizing cursor with
  | nil => exact ⟨cursor, .stay cursor, toCome⟩
  | cons char chars ih =>
      obtain ⟨following, step, _, followingAfter⟩ := exists_next toCome
      obtain ⟨later, reads, laterAfter⟩ := ih followingAfter
      exact ⟨later, .step step reads, laterAfter⟩

/-- Characters can be read as long as they satisfy a condition. -/
theorem exists_reads_while (cursor : Cursor) (condition : Char → Bool) :
    ∃ chars stop, cursor.Reads chars stop ∧ (∀ char ∈ chars, condition char) ∧
      stop.after = cursor.after.dropWhile condition ∧
      ∀ char ∈ stop.after.head?, ¬condition char := by
  have split : cursor.after = cursor.after.takeWhile condition ++ cursor.after.dropWhile condition :=
    List.takeWhile_append_dropWhile.symm
  obtain ⟨stop, reads, stopAfter⟩ := exists_reads split
  refine ⟨_, stop, reads, List.all_eq_true.mp List.all_takeWhile, stopAfter, ?_⟩
  intro char isFirst
  have stopped := List.head?_dropWhile_not condition cursor.after
  rw [← stopAfter, isFirst] at stopped
  simpa using stopped

/-- Some characters lead from `cursor` to `later`. -/
def Reaches (cursor later : Cursor) : Prop := ∃ chars, cursor.Reads chars later

theorem Reaches.refl (cursor : Cursor) : cursor.Reaches cursor := ⟨[], .stay cursor⟩

theorem Reaches.trans {cursor middle later : Cursor} (first : cursor.Reaches middle)
    (second : middle.Reaches later) : cursor.Reaches later := by
  obtain ⟨chars, reads⟩ := first
  obtain ⟨more, readsMore⟩ := second
  exact ⟨chars ++ more, reads.trans readsMore⟩

end Cursor

end FencedCode
