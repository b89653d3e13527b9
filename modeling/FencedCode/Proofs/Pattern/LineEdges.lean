import FencedCode.Proofs.Pattern.Reading
import FencedCode.Pattern.Assertion
import FencedCode.Pattern.CharSet
import FencedCode.Proofs.Text.Lines

/-!
# Edges of lines

Where lines start and end, for patterns that take a line feed, a carriage return and both of them
for the end of a line.
-/

namespace FencedCode

open Text

variable {line : List Char} {place stop : Cursor}

/-- The characters that do not end a line. -/
def CharSet.inLine : CharSet := .complement (.ofList ['\r', '\n'])

theorem CharSet.contains_inLine_iff {char : Char} : inLine.contains char ↔ ¬isLineEnd char := by
  rw [inLine, contains, contains_ofList, isLineEnd]
  simp [and_comm]

/-- One can read on to the end of a line. -/
theorem Cursor.exists_reads_line (place : Cursor) :
    ∃ line stop, place.Reads line stop ∧ Lines.Unbroken line ∧
      stop.after = place.after.dropWhile (!isLineEnd ·) ∧
      ∀ char ∈ stop.after.head?, isLineEnd char := by
  obtain ⟨line, stop, reads, noEnds, stopAfter, ended⟩ := place.exists_reads_while (!isLineEnd ·)
  refine ⟨line, stop, reads, ?_, stopAfter, by simpa using ended⟩
  intro char member
  simpa using noEnds char member

namespace Assertion

theorem isLineEnd_of_anyLineStart (starts : anyLineStart.holds place) :
    ∀ char ∈ place.before, isLineEnd char := by
  intro char isBefore
  rw [holds, holdsBetween, Option.all_eq_true] at starts
  have ends := starts char isBefore
  rw [Bool.or_eq_true, Bool.and_eq_true] at ends
  rw [isLineEnd, Bool.or_eq_true]
  exact ends.imp_right And.left

/-- Behind an end a line starts. -/
theorem anyLineStart_behind_end {ending : LineEnd} (reads : place.Reads ending.chars stop)
    (apart : ending = .carriageReturn → stop.after.head? ≠ some '\n') :
    anyLineStart.holds stop := by
  have isBefore : stop.before = ending.chars.getLast? := by
    rw [reads.before_eq]
    cases ending <;> rfl
  rw [holds, holdsBetween, isBefore]
  cases ending with
  | lineFeed | both => rfl
  | carriageReturn => simpa [LineEnd.chars] using apart rfl

/-- Behind characters of a line the line ends, if no others of them come. -/
theorem anyLineEnd_behind_line (reads : place.Reads line stop) (unbroken : Lines.Unbroken line)
    (ended : ∀ char ∈ stop.after.head?, isLineEnd char) (notAlone : line = [] → stop.after = []) :
    anyLineEnd.holds stop := by
  have noReturn : ∀ char ∈ stop.after.head?, stop.before ≠ some '\r' := by
    intro char isFirst isReturn
    cases last : line.getLast? with
    | none => simp [notAlone (List.getLast?_eq_none_iff.mp last)] at isFirst
    | some other =>
        rw [reads.before_eq, last, Option.some_or] at isReturn
        cases isReturn
        exact unbroken '\r' (List.mem_of_getLast? last) (by decide)
  rw [holds, holdsBetween, Option.all_eq_true]
  intro char isFirst
  have isEnd := ended char isFirst
  rw [isLineEnd, Bool.or_comm, Bool.or_eq_true] at isEnd
  rw [bne_iff_ne.mpr (noReturn char isFirst), Bool.and_true, Bool.or_eq_true]
  exact isEnd

end Assertion

end FencedCode
