import FencedCode.Language.Offset
import FencedCode.Proofs.Pattern.Matching

/-!
# Byte offsets of places

The offset of a place is the size of the characters that have been read to get there.  An offset
that splits a character is no place, so a rule is only ever tried between characters, and its match
ends between characters.
-/

namespace FencedCode

/-! ### Sizes -/

@[simp] theorem byteSize_append (front rest : List Char) :
    byteSize (front ++ rest) = byteSize front + byteSize rest := by
  induction front with
  | nil => simp [byteSize]
  | cons char front ih => simp only [List.cons_append, byteSize, ih, Nat.add_assoc]

theorem utf8ByteSize_ofList (chars : List Char) :
    (String.ofList chars).utf8ByteSize = byteSize chars := by
  induction chars with
  | nil => rfl
  | cons char chars ih =>
      have split :
          String.ofList (char :: chars) = String.singleton char ++ String.ofList chars := by
        simp
      rw [split, String.utf8ByteSize_append, String.utf8ByteSize_singleton, ih, byteSize]

/-- The size of a text is that of its characters. -/
theorem byteSize_toList (text : String) : byteSize text.toList = text.utf8ByteSize := by
  rw [← utf8ByteSize_ofList, String.ofList_toList]

theorem byteSize_eq_zero_iff {chars : List Char} : byteSize chars = 0 ↔ chars = [] := by
  cases chars with
  | nil => simp [byteSize]
  | cons char chars =>
      have := char.utf8Size_pos
      simp only [byteSize, reduceCtorEq, iff_false]
      omega

/-- Two beginnings of one text that have the same size are the same. -/
theorem eq_of_byteSize_eq {left right leftRest rightRest : List Char}
    (sameText : left ++ leftRest = right ++ rightRest) (sameSize : byteSize left = byteSize right) :
    left = right := by
  induction left generalizing right with
  | nil => exact (byteSize_eq_zero_iff.mp sameSize.symm).symm
  | cons char left ih =>
      cases right with
      | nil => exact byteSize_eq_zero_iff.mp sameSize
      | cons other right =>
          simp only [List.cons_append, List.cons.injEq] at sameText
          obtain ⟨rfl, sameRest⟩ := sameText
          simp only [byteSize, Nat.add_left_cancel_iff] at sameSize
          rw [ih sameRest sameSize]

/-! ### Places -/

namespace Cursor

/-- Skipping the bytes of some characters is reading the characters. -/
theorem Reads.skipBytes?_eq {cursor later : Cursor} {chars : List Char}
    (reads : cursor.Reads chars later) : cursor.skipBytes? (byteSize chars) = some later := by
  induction reads with
  | stay cursor =>
      rw [skipBytes?]
      rfl
  | @step cursor following later char chars first _ ih =>
      have positive := char.utf8Size_pos
      rw [skipBytes?, byteSize, if_neg (by omega)]
      split
      · next ended => rw [ended] at first; cases first
      · next found next same =>
        rw [same] at first
        cases first
        rw [if_pos (by omega), Nat.add_sub_cancel_left]
        exact ih

/-- An offset that is a place is the size of the characters before the place. -/
theorem exists_reads_of_skipBytes? {cursor later : Cursor} {offset : Nat}
    (skipped : cursor.skipBytes? offset = some later) :
    ∃ chars, cursor.Reads chars later ∧ byteSize chars = offset := by
  fun_induction skipBytes? cursor offset with
  | case1 =>
      cases skipped
      exact ⟨[], .stay _, rfl⟩
  | case2 => cases skipped
  | case3 cursor offset nonzero char following step fits ih =>
      obtain ⟨chars, reads, size⟩ := ih skipped
      refine ⟨char :: chars, .step step reads, ?_⟩
      rw [byteSize, size]
      omega
  | case4 => cases skipped

end Cursor

/-! ### Matches -/

namespace Rule

/-- A rule tried behind some characters of a text: its match is that of its pattern there. -/
theorem matchAt?_eq_some_iff {rule : Rule} {text : String} {front : List Char} {cursor : Cursor}
    (reads : (Cursor.start text.toList).Reads front cursor) {stop : Nat} :
    rule.matchAt? text (byteSize front) = some stop ↔
      ∃ chars later, rule.pattern.matchEnd? cursor = some later ∧ cursor.Reads chars later ∧
        stop = byteSize front + byteSize chars := by
  rw [matchAt?, reads.skipBytes?_eq]
  constructor
  · intro matched
    obtain ⟨later, found, size⟩ : ∃ later, rule.pattern.matchEnd? cursor = some later ∧
        byteSize front + byteSize (cursor.charsTo later) = stop := by
      simpa [Option.bind_eq_some_iff] using matched
    obtain ⟨chars, _, readsMatch⟩ := Pattern.exists_reads_of_matchEnd? found
    rw [readsMatch.charsTo_eq] at size
    exact ⟨chars, later, found, readsMatch, size.symm⟩
  · rintro ⟨chars, later, found, readsMatch, rfl⟩
    simp [found, readsMatch.charsTo_eq]

/-- A rule does not match behind some characters where its pattern does not. -/
theorem matchAt?_eq_none_iff {rule : Rule} {text : String} {front : List Char} {cursor : Cursor}
    (reads : (Cursor.start text.toList).Reads front cursor) :
    rule.matchAt? text (byteSize front) = none ↔ rule.pattern.matchEnd? cursor = none := by
  rw [matchAt?, reads.skipBytes?_eq]
  cases found : rule.pattern.matchEnd? cursor with
  | none => simp [found]
  | some later => simp [found]

end Rule

end FencedCode
