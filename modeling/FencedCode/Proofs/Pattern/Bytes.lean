import FencedCode.Language.Slices
import FencedCode.Proofs.Language.Offset
import FencedCode.Proofs.Pattern.Completeness

/-!
# Matches of bytes

What a match of a pattern is can be said of the bytes of a text alone.  Such a match can start
between any two of them, in the middle of a character as well, and it moves on where the bytes to
come spell a character of a set.  What an assertion says in the middle of a character is left open,
as edges of ASCII words can be seen there.

UTF-8 keeps such a match in step with the characters.  From between two of them it leads to between
two of them, and in the middle of one it stays where it is.
-/

namespace FencedCode

open Cursor

/-! ### Boundaries -/

/-- The character that the bytes from an offset on spell. -/
def charAt? (text : String) (offset : Nat) : Option Char := text.toByteArray.utf8DecodeChar? offset

namespace Cursor

/-- The place at an offset of a text, if it is a boundary. -/
def at? (text : String) (offset : Nat) : Option Cursor := (start text.toList).skipBytes? offset

/-- The offset of a place of a text. -/
def offsetIn (text : String) (cursor : Cursor) : Nat :=
  text.utf8ByteSize - byteSize cursor.after

variable {text : String} {cursor next : Cursor} {front : List Char} {offset : Nat} {char : Char}

theorem Reads.byteSize_add_byteSize (reads : (start text.toList).Reads front cursor) :
    byteSize front + byteSize cursor.after = text.utf8ByteSize := by
  rw [← byteSize_append, ← byteSize_toList]
  exact congrArg byteSize reads.after_eq.symm

theorem Reads.offsetIn_eq (reads : (start text.toList).Reads front cursor) :
    cursor.offsetIn text = byteSize front := by
  rw [offsetIn, ← reads.byteSize_add_byteSize, Nat.add_sub_cancel]

theorem at?_eq_some_iff :
    at? text offset = some cursor ↔
      (start text.toList).Reaches cursor ∧ cursor.offsetIn text = offset := by
  constructor
  · intro isPlace
    obtain ⟨front, reads, size⟩ := exists_reads_of_skipBytes? isPlace
    exact ⟨⟨front, reads⟩, reads.offsetIn_eq.trans size⟩
  · rintro ⟨⟨front, reads⟩, rfl⟩
    rw [reads.offsetIn_eq, at?, reads.skipBytes?_eq]

/-- The boundaries are the offsets of the places. -/
theorem isBoundary_iff_exists_at? :
    IsBoundary text offset ↔ ∃ cursor, at? text offset = some cursor := by
  rw [IsBoundary, String.Pos.Raw.isValid_iff_exists_append]
  constructor
  · rintro ⟨front, rest, rfl, isEnd⟩
    have toCome : (start (front ++ rest).toList).after = front.toList ++ rest.toList :=
      String.toList_append
    obtain ⟨cursor, reads, _⟩ := exists_reads toCome
    have same : byteSize front.toList = offset := by
      rw [byteSize_toList]
      exact (congrArg String.Pos.Raw.byteIdx isEnd).symm
    exact ⟨cursor, at?_eq_some_iff.mpr ⟨⟨_, reads⟩, reads.offsetIn_eq.trans same⟩⟩
  · rintro ⟨cursor, isPlace⟩
    obtain ⟨⟨front, reads⟩, rfl⟩ := at?_eq_some_iff.mp isPlace
    refine ⟨.ofList front, .ofList cursor.after, ?_, ?_⟩
    · rw [← String.toList_inj]
      simpa using reads.after_eq
    · rw [reads.offsetIn_eq, ← utf8ByteSize_ofList]
      rfl

theorem isBoundary_of_at? (isPlace : at? text offset = some cursor) : IsBoundary text offset :=
  isBoundary_iff_exists_at?.mpr ⟨cursor, isPlace⟩

theorem le_utf8ByteSize_of_at? (isPlace : at? text offset = some cursor) :
    offset ≤ text.utf8ByteSize := by
  obtain ⟨_, rfl⟩ := at?_eq_some_iff.mp isPlace
  exact Nat.sub_le ..

/-- Going on from a place to another one moves the offset by the size of what is read. -/
theorem Reads.offsetIn_of_reaches {chars : List Char} (reached : (start text.toList).Reaches cursor)
    (reads : cursor.Reads chars next) :
    next.offsetIn text = cursor.offsetIn text + byteSize chars := by
  obtain ⟨front, readsFront⟩ := reached
  rw [readsFront.offsetIn_eq, (readsFront.trans reads).offsetIn_eq, byteSize_append]

/-- Going on moves the offset if there is something to read. -/
theorem offsetIn_lt_iff (reached : (start text.toList).Reaches cursor)
    (onward : cursor.Reaches next) :
    cursor.offsetIn text < next.offsetIn text ↔ next.size < cursor.size := by
  obtain ⟨chars, reads⟩ := onward
  rw [reads.offsetIn_of_reaches reached, reads.size_eq]
  cases chars with
  | nil => simp [byteSize]
  | cons char chars =>
      have := char.utf8Size_pos
      simp only [byteSize, List.length_cons]
      omega

/-- At a place the bytes to come spell the next character. -/
theorem charAt?_offsetIn (reached : (start text.toList).Reaches cursor) :
    charAt? text (cursor.offsetIn text) = cursor.after.head? := by
  obtain ⟨front, reads⟩ := reached
  have bytes : text.toByteArray = front.utf8Encode ++ cursor.after.utf8Encode := by
    rw [← List.utf8Encode_append, ← String.utf8Encode_toList]
    exact congrArg List.utf8Encode reads.after_eq
  have sizes : ∀ chars : List Char, chars.utf8Encode.size = byteSize chars := by
    intro chars
    rw [← String.toByteArray_ofList, String.size_toByteArray, utf8ByteSize_ofList]
  have behind : (text.toByteArray.extract (byteSize front) text.toByteArray.size) =
      cursor.after.utf8Encode := by
    rw [bytes]
    apply ByteArray.extract_append_eq_right
    · exact (sizes front).symm
    · exact ByteArray.size_append
  rw [charAt?, reads.offsetIn_eq, ByteArray.utf8DecodeChar?_eq_utf8DecodeChar?_extract, behind]
  cases cursor.after with
  | nil => rfl
  | cons char rest => exact List.utf8DecodeChar?_utf8Encode_cons

/-- In the middle of a character the bytes to come spell none. -/
theorem charAt?_eq_none_of_not_isBoundary (splits : ¬IsBoundary text offset) :
    charAt? text offset = none := by
  rw [← Option.not_isSome_iff_eq_none]
  intro isChar
  exact splits (String.Pos.Raw.isValid_iff_isSome_utf8DecodeChar?.mpr (.inr isChar))

end Cursor

/-- A character that the bytes from an offset on spell stands between two boundaries. -/
theorem exists_next?_of_charAt? {text : String} {offset : Nat} {char : Char}
    (isChar : charAt? text offset = some char) :
    ∃ cursor next, at? text offset = some cursor ∧ cursor.next? = some (char, next) ∧
      at? text (offset + char.utf8Size) = some next := by
  have isBoundary : IsBoundary text offset :=
    String.Pos.Raw.isValid_iff_isSome_utf8DecodeChar?.mpr (.inr (Option.isSome_of_eq_some isChar))
  obtain ⟨cursor, isPlace⟩ := isBoundary_iff_exists_at?.mp isBoundary
  obtain ⟨reached, rfl⟩ := at?_eq_some_iff.mp isPlace
  rw [charAt?_offsetIn reached, List.head?_eq_some_iff] at isChar
  obtain ⟨rest, isNext⟩ := isChar
  have toCome : cursor.after = [char] ++ rest := isNext
  obtain ⟨next, reads, _⟩ := exists_reads toCome
  refine ⟨cursor, next, isPlace, ?_, ?_⟩
  · cases reads with
    | step first rest =>
        cases rest
        exact first
  · refine at?_eq_some_iff.mpr ⟨reached.trans ⟨_, reads⟩, ?_⟩
    rw [reads.offsetIn_of_reaches reached, byteSize, byteSize, Nat.add_zero]

/-! ### Matches -/

/-- Whether an assertion holds at an offset.  In the middle of a character `inside` says so. -/
def Assertion.holdsAt (inside : Assertion → Nat → Bool) (text : String) (assertion : Assertion)
    (offset : Nat) : Bool :=
  match Cursor.at? text offset with
  | some cursor => assertion.holds cursor
  | none => inside assertion offset

namespace Pattern

/-- `pattern.Spans inside text offset stop`: the bytes between the offsets are a match. -/
def Spans (inside : Assertion → Nat → Bool) (text : String) : Pattern → Nat → Nat → Prop
  | empty, offset, stop => stop = offset
  | one set, offset, stop =>
    ∃ char, charAt? text offset = some char ∧ set.contains char ∧ stop = offset + char.utf8Size
  | assert assertion, offset, stop => assertion.holdsAt inside text offset ∧ stop = offset
  | seq first second, offset, stop =>
    ∃ middle, first.Spans inside text offset middle ∧ second.Spans inside text middle stop
  | alt first second, offset, stop =>
    first.Spans inside text offset stop ∨ second.Spans inside text offset stop
  | repeated body least most _, offset, stop =>
    ∃ count, least ≤ count ∧ (∀ bound ∈ most, count ≤ max least bound) ∧
      Rounds (body.Spans inside text) count offset stop

variable {inside : Assertion → Nat → Bool} {text : String} {pattern : Pattern} {offset stop : Nat}

/-- In the middle of a character an assertion may hold, but nothing is read. -/
example : (assert (.word .noBoundary true)).Spans (fun _ _ => true) "é1" 1 1 :=
  ⟨by decide +kernel, rfl⟩

/-- What each of some steps keeps is kept by all of them. -/
theorem Rounds.keeps {Place : Type} {step : Place → Place → Prop} {property : Place → Prop}
    {count : Nat} {place last : Place} (rounds : Rounds step count place last)
    (each : ∀ place next, step place next → property place → property next)
    (holds : property place) : property last := by
  induction count generalizing place with
  | zero =>
      cases rounds
      exact holds
  | succ count ih =>
      obtain ⟨next, first, rest⟩ := rounds
      exact ih rest (each place next first holds)

/-- From a boundary a match leads to a boundary. -/
theorem Spans.isBoundary (spans : pattern.Spans inside text offset stop)
    (isBoundary : IsBoundary text offset) : IsBoundary text stop := by
  induction pattern generalizing offset stop with
  | empty =>
      cases spans
      exact isBoundary
  | one set =>
      obtain ⟨char, isChar, _, rfl⟩ := spans
      obtain ⟨_, _, _, _, isNext⟩ := exists_next?_of_charAt? isChar
      exact isBoundary_of_at? isNext
  | assert assertion =>
      obtain ⟨_, rfl⟩ := spans
      exact isBoundary
  | seq first second firstIH secondIH =>
      obtain ⟨middle, firstSpans, secondSpans⟩ := spans
      exact secondIH secondSpans (firstIH firstSpans isBoundary)
  | alt first second firstIH secondIH =>
      cases spans with
      | inl firstSpans => exact firstIH firstSpans isBoundary
      | inr secondSpans => exact secondIH secondSpans isBoundary
  | repeated body least most greedy ih =>
      obtain ⟨count, _, _, rounds⟩ := spans
      exact rounds.keeps (fun _ _ => ih) isBoundary

/-- In the middle of a character a match stays where it is. -/
theorem Spans.eq_of_not_isBoundary (spans : pattern.Spans inside text offset stop)
    (splits : ¬IsBoundary text offset) : stop = offset := by
  induction pattern generalizing offset stop with
  | empty => exact spans
  | one set =>
      obtain ⟨char, isChar, _⟩ := spans
      rw [charAt?_eq_none_of_not_isBoundary splits] at isChar
      cases isChar
  | assert assertion => exact spans.2
  | seq first second firstIH secondIH =>
      obtain ⟨middle, firstSpans, secondSpans⟩ := spans
      cases firstIH firstSpans splits
      exact secondIH secondSpans splits
  | alt first second firstIH secondIH =>
      cases spans with
      | inl firstSpans => exact firstIH firstSpans splits
      | inr secondSpans => exact secondIH secondSpans splits
  | repeated body least most greedy ih =>
      obtain ⟨count, _, _, rounds⟩ := spans
      have here : offset = stop := by
        apply rounds.keeps _ rfl
        rintro place next spans rfl
        exact (ih spans splits).symm
      exact here.symm

/-! ### Matches between places -/

/-- Steps between places are steps between the offsets of the places. -/
theorem Rounds.offsets {step : Cursor → Cursor → Prop} {byteStep : Nat → Nat → Prop} {count : Nat}
    {cursor later : Cursor} (rounds : Rounds step count cursor later)
    (reached : (start text.toList).Reaches cursor)
    (each : ∀ cursor next, (start text.toList).Reaches cursor → step cursor next →
      (start text.toList).Reaches next ∧ byteStep (cursor.offsetIn text) (next.offsetIn text)) :
    Rounds byteStep count (cursor.offsetIn text) (later.offsetIn text) := by
  induction count generalizing cursor with
  | zero =>
      cases rounds
      rfl
  | succ count ih =>
      obtain ⟨next, first, rest⟩ := rounds
      obtain ⟨reachedNext, byteFirst⟩ := each cursor next reached first
      exact ⟨next.offsetIn text, byteFirst, ih rest reachedNext⟩

/-- A match between two places is one of the bytes between them. -/
theorem Matches.spans {cursor later : Cursor} (isMatch : pattern.Matches cursor later)
    (inside : Assertion → Nat → Bool) (reached : (start text.toList).Reaches cursor) :
    pattern.Spans inside text (cursor.offsetIn text) (later.offsetIn text) := by
  induction pattern generalizing cursor later with
  | empty =>
      cases isMatch
      rfl
  | one set =>
      obtain ⟨char, read, contains⟩ := isMatch
      refine ⟨char, ?_, contains, ?_⟩
      · rw [charAt?_offsetIn reached, head?_after_of_next? read]
      · exact Reads.offsetIn_of_reaches reached (.step read (.stay later))
  | assert assertion =>
      obtain ⟨holds, rfl⟩ := isMatch
      have isPlace : at? text (later.offsetIn text) = some later :=
        at?_eq_some_iff.mpr ⟨reached, rfl⟩
      exact ⟨by rw [Assertion.holdsAt, isPlace]; exact holds, rfl⟩
  | seq first second firstIH secondIH =>
      obtain ⟨middle, firstMatch, secondMatch⟩ := isMatch
      exact ⟨middle.offsetIn text, firstIH firstMatch reached,
        secondIH secondMatch (reached.trans firstMatch.reaches)⟩
  | alt first second firstIH secondIH =>
      exact isMatch.imp (firstIH · reached) (secondIH · reached)
  | repeated body least most greedy ih =>
      obtain ⟨count, atLeast, atMost, rounds⟩ := isMatch
      refine ⟨count, atLeast, atMost, rounds.offsets reached ?_⟩
      intro cursor next reached roundMatch
      exact ⟨reached.trans roundMatch.reaches, ih roundMatch reached⟩

end Pattern

end FencedCode
