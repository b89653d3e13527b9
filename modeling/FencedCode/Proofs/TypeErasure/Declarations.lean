import FencedCode.Proofs.Pattern.FirstCharacter
import FencedCode.Proofs.Pattern.LineEdges
import FencedCode.Proofs.Pattern.Preference
import FencedCode.Proofs.TypeErasure.Untyped
import Mathlib.Data.List.TakeWhile

/-!
# Lines that declare types

The last pass takes a declaration away up to the end of its line.  It does not see where the line
ends, though, as long as nothing but white space comes behind the word of the declaration: ends of
lines are white space, too.  So a declaration that breaks off behind its word goes on in the next
line that is not blank, and takes that line and the ends before it away.
-/

namespace FencedCode

namespace TypeErasure

open Pattern Text

/-! ### What happens to each line -/

/-- The words that start a declaration. -/
def declarationWords : List (List Char) := ["interface".toList, "type".toList]

/-- A line starts with the word of a declaration and white space. -/
def Declares (line : List Char) : Prop :=
  ∃ word ∈ declarationWords, word <+: line ∧ (line.drop word.length).head?.any isBlank

instance : DecidablePred Declares := fun line =>
  inferInstanceAs (Decidable (∃ word ∈ declarationWords,
    word <+: line ∧ (line.drop word.length).head?.any isBlank))

/-- A line starts with the word of a declaration and holds nothing but white space behind it. -/
def BreaksOff (line : List Char) : Prop :=
  ∃ word ∈ declarationWords, word <+: line ∧ (line.drop word.length).all isBlank

instance : DecidablePred BreaksOff := fun line =>
  inferInstanceAs (Decidable (∃ word ∈ declarationWords,
    word <+: line ∧ (line.drop word.length).all isBlank))

/-- Lines without their declarations, given whether a declaration has broken off before them.  Where
one breaks off, or goes on over a blank line, the line is taken away with its end. -/
def withoutDeclarations (inside : Bool) : Lines → Lines
  | .last line => .last (if inside ∨ Declares line then [] else line)
  | .more line ending rest =>
    if inside && line.all isBlank || !inside && decide (BreaksOff line) then
      withoutDeclarations true rest
    else
      .more (if inside ∨ Declares line then [] else line) ending (withoutDeclarations false rest)

/-- What is left of lines behind white space and the line that ends it. -/
def behindBlanks : Lines → Lines
  | .last _ => .last []
  | .more line ending rest => if line.all isBlank then behindBlanks rest else .more [] ending rest

/-- The same for a text. -/
def behindDeclaration (chars : List Char) : List Char :=
  (chars.dropWhile isBlank).dropWhile fun char => !isLineEnd char

variable {line word rest chars : List Char} {place next stop : Cursor} {lines : Lines}

theorem declares_iff : Declares line ↔
    ∃ word ∈ declarationWords, ∃ blank behind, line = word ++ blank :: behind ∧ isBlank blank := by
  constructor
  · rintro ⟨word, isWord, ⟨behind, rfl⟩, isBlank⟩
    rw [List.drop_left] at isBlank
    obtain ⟨blank, first, isBlank⟩ := (Option.any_eq_true ..).mp isBlank
    obtain ⟨rest, rfl⟩ := List.head?_eq_some_iff.mp first
    exact ⟨word, isWord, blank, rest, rfl, isBlank⟩
  · rintro ⟨word, isWord, blank, behind, rfl, isBlank⟩
    refine ⟨word, isWord, List.prefix_append .., ?_⟩
    rw [List.drop_left]
    exact isBlank

/-- A line does not start with both words. -/
theorem eq_of_begins {other : List Char} (isWord : word ∈ declarationWords)
    (otherWord : other ∈ declarationWords) (starts : word <+: line) (otherStarts : other <+: line) :
    word = other := by
  have apart : ∀ word ∈ declarationWords, ∀ other ∈ declarationWords, word <+: other →
      word = other := by decide
  rcases List.prefix_or_prefix_of_prefix starts otherStarts with begins | begins
  · exact apart word isWord other otherWord begins
  · exact (apart other otherWord word isWord begins).symm

theorem breaksOff_append_iff (isWord : word ∈ declarationWords) :
    BreaksOff (word ++ rest) ↔ rest.all isBlank := by
  have starts : word <+: word ++ rest := List.prefix_append ..
  constructor
  · rintro ⟨other, otherWord, otherStarts, blank⟩
    cases eq_of_begins isWord otherWord starts otherStarts
    rwa [List.drop_left] at blank
  · intro blank
    refine ⟨word, isWord, starts, ?_⟩
    rwa [List.drop_left]

/-- Behind the word of a declaration all is as inside of it. -/
theorem withoutDeclarations_append {ending : LineEnd} {lines : Lines}
    (isWord : word ∈ declarationWords) (blank : ∀ char ∈ rest.head?, isBlank char) :
    withoutDeclarations false (.more (word ++ rest) ending lines) =
      withoutDeclarations true (.more rest ending lines) := by
  rw [withoutDeclarations, withoutDeclarations]
  by_cases allBlank : rest.all isBlank
  · simp [breaksOff_append_iff isWord, allBlank]
  · have declares : Declares (word ++ rest) := by
      cases rest with
      | nil => exact absurd rfl allBlank
      | cons char rest => exact declares_iff.mpr ⟨word, isWord, char, rest, rfl, blank char rfl⟩
    simp [breaksOff_append_iff isWord, allBlank, declares]

theorem behindDeclaration_append_of_blank (blank : line.all isBlank) (rest : List Char) :
    behindDeclaration (line ++ rest) = behindDeclaration rest := by
  rw [behindDeclaration, List.dropWhile_append_of_pos (List.all_eq_true.mp blank),
    behindDeclaration]

/-- A line with something to show in it is passed up to its end. -/
theorem behindDeclaration_append_of_shown (unbroken : Lines.Unbroken line)
    (shown : ¬line.all isBlank) (ended : ∀ char ∈ rest.head?, isLineEnd char) :
    behindDeclaration (line ++ rest) = rest := by
  have goesOn : (line.dropWhile isBlank).isEmpty = false := by
    rw [List.isEmpty_eq_false_iff]
    intro isEmpty
    exact shown (List.all_eq_true.mpr (List.dropWhile_eq_nil_iff.mp isEmpty))
  have passed : ∀ char ∈ line.dropWhile isBlank, (!isLineEnd char) = true := by
    intro char member
    simpa using unbroken char ((List.dropWhile_sublist _).subset member)
  rw [behindDeclaration, List.dropWhile_append, goesOn, if_neg Bool.false_ne_true,
    List.dropWhile_append_of_pos passed]
  cases rest with
  | nil => rfl
  | cons char rest =>
      apply List.dropWhile_cons_of_neg
      simp [ended char rfl]

theorem chars_behindBlanks (proper : lines.Proper) :
    (behindBlanks lines).chars = behindDeclaration lines.chars := by
  induction lines with
  | last line =>
      rw [behindBlanks, Lines.chars, Lines.chars, ← List.append_nil line]
      by_cases blank : line.all isBlank
      · exact (behindDeclaration_append_of_blank blank []).symm
      · exact (behindDeclaration_append_of_shown proper blank (by simp)).symm
  | more line ending rest ih =>
      obtain ⟨unbroken, _, properRest⟩ := proper
      rw [behindBlanks, Lines.chars]
      by_cases blank : line.all isBlank
      · -- What ends a blank line is white space as well.
        rw [if_pos blank, ih properRest, behindDeclaration_append_of_blank blank,
          behindDeclaration_append_of_blank ending.all_isBlank]
      · have ended := ending.isLineEnd_head rest.chars
        rw [if_neg blank, behindDeclaration_append_of_shown unbroken blank ended]
        rfl

/-! ### Where the last pass finds something -/

theorem matchEnd?_eq_none_of_line (toCome : place.after = line ++ rest)
    (ended : ∀ char ∈ rest.head?, isLineEnd char) (noDeclaration : ¬Declares line)
    (noBreak : rest ≠ [] → ¬BreaksOff line) :
    declarationPass.pattern.matchEnd? place = none := by
  apply matchEnd?_eq_none_of_not_matches
  intro stop isMatch
  obtain ⟨_, word, blank, behind, either, placeAfter, isBlank⟩ := exists_word_of_matches isMatch
  have isWord : word ∈ declarationWords := by simpa [declarationWords] using either
  have wordEnds : rest = blank :: behind → line ≠ word := by
    rintro isRest rfl
    apply noBreak (isRest ▸ List.cons_ne_nil blank behind)
    exact List.append_nil line ▸ (breaksOff_append_iff isWord).mpr rfl
  rcases List.append_eq_append_iff.mp (toCome.symm.trans placeAfter) with
    ⟨more, wordSplit, restSplit⟩ | ⟨more, lineSplit, behindSplit⟩
  · cases more with
    | nil => exact wordEnds restSplit ((List.append_nil line) ▸ wordSplit).symm
    | cons char more =>
        -- The word would go on over the end of the line.
        have noEnds : ∀ word ∈ declarationWords, word.all (!isLineEnd ·) := by decide
        have isEnd : isLineEnd char := ended char (by rw [restSplit]; rfl)
        have noEnd := List.all_eq_true.mp (noEnds word isWord) char (by simp [wordSplit])
        simp [isEnd] at noEnd
  · cases more with
    | nil => exact wordEnds behindSplit.symm (lineSplit.trans (List.append_nil word))
    | cons char more =>
        cases behindSplit
        exact noDeclaration (declares_iff.mpr ⟨word, isWord, blank, more, lineSplit, isBlank⟩)

theorem matchEnd?_eq_none_in_line {char : Char} (isBefore : place.before = some char)
    (noEnd : ¬isLineEnd char) : declarationPass.pattern.matchEnd? place = none := by
  apply matchEnd?_eq_none_of_not_matches
  intro stop isMatch
  have holds := (exists_word_of_matches isMatch).1
  rw [isLineEnd, Bool.or_eq_true, beq_iff_eq, beq_iff_eq, not_or] at noEnd
  simp [Assertion.holds, Assertion.holdsBetween, isBefore, noEnd] at holds

theorem matchEnd?_eq_none_at_end {char : Char} (first : place.after.head? = some char)
    (isEnd : isLineEnd char) : declarationPass.pattern.matchEnd? place = none := by
  apply matchEnd?_eq_none_of_not_canStartWith first
  rw [isLineEnd, Bool.or_eq_true, beq_iff_eq, beq_iff_eq] at isEnd
  rcases isEnd with rfl | rfl <;> decide

/-- At the start of a line a declaration is taken away up to the end of the first line with
something else than white space behind the word. -/
theorem exists_eraseFrom_eq (starts : Assertion.anyLineStart.holds place)
    (isWord : word ∈ declarationWords) (toCome : place.after = word ++ lines.chars)
    (blank : lines.chars.head?.any isBlank) (proper : lines.Proper) :
    ∃ stop, declarationPass.eraseFrom place = declarationPass.eraseFrom stop ∧
      stop.after = (behindBlanks lines).chars := by
  obtain ⟨behindWord, readsWord, behindWordAfter⟩ := Cursor.exists_reads toCome
  obtain ⟨blanks, start, readsBlanks, allBlank, startAfter, noBlank⟩ :=
    behindWord.exists_reads_while isBlank
  obtain ⟨line, stop, readsLine, unbroken, stopAfter, ended⟩ := start.exists_reads_line
  have endsLine : Assertion.anyLineEnd.holds stop := by
    apply Assertion.anyLineEnd_behind_line readsLine unbroken ended
    -- Behind the white space there is none, so no end comes right behind it.
    rintro rfl
    cases readsLine
    rw [← List.head?_eq_none_iff, Option.eq_none_iff_forall_not_mem]
    intro char isFirst
    exact noBlank char isFirst (isBlank_of_isLineEnd (ended char isFirst))
  have prefersWord : (alt (text "interface") (text "type")).Prefers place behindWord := by
    simp only [declarationWords, List.mem_cons, List.not_mem_nil, or_false] at isWord
    rcases isWord with rfl | rfl
    · exact (prefers_literal readsWord).alt_left
    · have first : place.after.head? = some 't' := by
        rw [toCome]
        rfl
      exact (prefers_literal readsWord).alt_right (ends_literal_eq_nil first (by decide))
  have prefersBlanks : (plus (one (.named .blank))).Prefers behindWord start := by
    refine prefers_plus_one readsBlanks ?_ allBlank noBlank
    rintro rfl
    cases readsBlanks
    obtain ⟨char, isFirst, isBlank⟩ := (Option.any_eq_true ..).mp blank
    exact noBlank char (behindWordAfter ▸ isFirst) isBlank
  have prefersLine : (star (one .inLine)).Prefers start stop := by
    apply prefers_star_one readsLine
    · intro char member
      exact CharSet.contains_inLine_iff.mpr (unbroken char member)
    · intro char isFirst contains
      exact CharSet.contains_inLine_iff.mp contains (ended char isFirst)
  have prefers : declarationPass.pattern.Prefers place stop :=
    ((((prefers_assert starts).seq prefersWord).seq prefersBlanks).seq prefersLine).seq
      (prefers_assert endsLine)
  have shorter : stop.size < place.size := by
    have size := ((readsWord.trans readsBlanks).trans readsLine).size_eq
    have notEmpty : ∀ word ∈ declarationWords, 0 < word.length := by decide
    have positive := notEmpty word isWord
    simp only [List.length_append] at size
    omega
  refine ⟨stop, ?_, ?_⟩
  · rw [Pass.eraseFrom_of_matchEnd? (prefers.matchEnd?_eq shorter)]
    rfl
  · rw [chars_behindBlanks proper, stopAfter, startAfter, behindWordAfter, behindDeclaration]

/-! ### The text behind the last pass -/

/-- A line is copied if nothing is found where it starts. -/
theorem eraseFrom_of_reads_line (missing : declarationPass.pattern.matchEnd? place = none)
    (reads : place.Reads line stop) (unbroken : Lines.Unbroken line) :
    declarationPass.eraseFrom place = line ++ declarationPass.eraseFrom stop := by
  induction reads with
  | stay place => rfl
  | step read rest ih =>
      obtain ⟨noEnd, others⟩ := List.forall_mem_cons.mp unbroken
      have isBefore := (Cursor.next?_eq_some_iff.mp read).2
      rw [Pass.eraseFrom_of_next? missing read,
        ih (matchEnd?_eq_none_in_line isBefore noEnd) others, List.cons_append]

theorem eraseFrom_of_reads_end (reads : place.Reads chars stop) (ends : chars.all isLineEnd) :
    declarationPass.eraseFrom place = chars ++ declarationPass.eraseFrom stop := by
  induction reads with
  | stay place => rfl
  | step read rest ih =>
      obtain ⟨isEnd, others⟩ := Bool.and_eq_true_iff.mp ends
      have missing := matchEnd?_eq_none_at_end (Cursor.head?_after_of_next? read) isEnd
      rw [Pass.eraseFrom_of_next? missing read, ih others, List.cons_append]

/-- An end is copied, and what comes behind it starts a line. -/
theorem eraseFrom_of_end {ending : LineEnd} {erased : List Char}
    (toCome : place.after = ending.chars ++ rest)
    (apart : ending = .carriageReturn → rest.head? ≠ some '\n')
    (goesOn : ∀ next : Cursor, Assertion.anyLineStart.holds next → next.after = rest →
      declarationPass.eraseFrom next = erased) :
    declarationPass.eraseFrom place = ending.chars ++ erased := by
  obtain ⟨next, reads, nextAfter⟩ := Cursor.exists_reads toCome
  have starts := Assertion.anyLineStart_behind_end reads (nextAfter ▸ apart)
  rw [eraseFrom_of_reads_end reads ending.all_isLineEnd, goesOn next starts nextAfter]

theorem eraseFrom_of_after_eq_nil (ended : place.after = []) :
    declarationPass.eraseFrom place = [] :=
  List.sublist_nil.mp (ended ▸ declarationPass.eraseFrom_sublist place)

/-- The lines from a place on are left without their declarations if the place starts a line. -/
def ErasedOutside (lines : Lines) : Prop :=
  ∀ place : Cursor, Assertion.anyLineStart.holds place → place.after = lines.chars →
    declarationPass.eraseFrom place = (withoutDeclarations false lines).chars

/-- The same holds behind a declaration that goes on over the blanks at the front of the lines. -/
def ErasedInside (lines : Lines) : Prop :=
  ∀ place : Cursor, place.after = (behindBlanks lines).chars →
    declarationPass.eraseFrom place = (withoutDeclarations true lines).chars

theorem erasedInside_last (line : List Char) : ErasedInside (.last line) :=
  fun _ ended => eraseFrom_of_after_eq_nil ended

theorem erasedOutside_last (proper : (Lines.last line).Proper) : ErasedOutside (.last line) := by
  intro place starts toCome
  simp only [withoutDeclarations, Bool.false_eq_true, false_or, Lines.chars]
  split
  · next declares =>
    obtain ⟨word, isWord, blank, behind, rfl, isBlank⟩ := declares_iff.mp declares
    have properBehind : (Lines.last (blank :: behind)).Proper :=
      fun char member => proper char (List.mem_append_right word member)
    obtain ⟨stop, same, ended⟩ :=
      @exists_eraseFrom_eq word place (.last (blank :: behind)) starts isWord toCome isBlank
        properBehind
    rw [same, eraseFrom_of_after_eq_nil ended]
  · next noDeclaration =>
    have toCome : place.after = line ++ [] := toCome.trans (List.append_nil line).symm
    obtain ⟨stop, reads, ended⟩ := Cursor.exists_reads toCome
    have missing := matchEnd?_eq_none_of_line toCome (by simp) noDeclaration (absurd rfl)
    rw [eraseFrom_of_reads_line missing reads proper, eraseFrom_of_after_eq_nil ended,
      List.append_nil]

section More

variable {ending : LineEnd} {rest : Lines} (proper : (Lines.more line ending rest).Proper)
variable (outside : ErasedOutside rest) (inside : ErasedInside rest)
include proper outside

/-- A line without a declaration is copied with its end. -/
theorem erasedOutside_of_no_word (noDeclaration : ¬Declares line) (noBreak : ¬BreaksOff line) :
    ErasedOutside (.more line ending rest) := by
  intro place _ toCome
  obtain ⟨stop, reads, stopAfter⟩ := Cursor.exists_reads toCome
  have missing := matchEnd?_eq_none_of_line toCome (ending.isLineEnd_head _) noDeclaration
    fun _ => noBreak
  rw [eraseFrom_of_reads_line missing reads proper.1, eraseFrom_of_end stopAfter proper.2.1 outside]
  simp [withoutDeclarations, noBreak, noDeclaration, Lines.chars]

include inside

theorem erasedInside_more : ErasedInside (.more line ending rest) := by
  intro place toCome
  by_cases blank : line.all isBlank
  · rw [behindBlanks, if_pos blank] at toCome
    rw [inside place toCome]
    simp [withoutDeclarations, blank]
  · rw [behindBlanks, if_neg blank] at toCome
    rw [eraseFrom_of_end toCome proper.2.1 outside]
    simp [withoutDeclarations, blank, Lines.chars]

/-- Where the word of a declaration comes first, and white space behind it, which may be the end of
the line, a declaration is found. -/
theorem erasedOutside_of_word {behind : List Char} (isWord : word ∈ declarationWords)
    (split : line = word ++ behind) (blank : ∀ char ∈ behind.head?, isBlank char) :
    ErasedOutside (.more line ending rest) := by
  intro place starts toCome
  subst split
  obtain ⟨unbroken, apart, properRest⟩ := proper
  have properBehind : (Lines.more behind ending rest).Proper :=
    ⟨fun char member => unbroken char (List.mem_append_right word member), apart, properRest⟩
  have blankFirst : (Lines.more behind ending rest).chars.head?.any isBlank := by
    cases behind with
    | nil => cases ending <;> rfl
    | cons char behind => exact blank char rfl
  obtain ⟨stop, same, stopAfter⟩ := exists_eraseFrom_eq starts isWord
    (toCome.trans (List.append_assoc ..)) blankFirst properBehind
  rw [same, erasedInside_more properBehind outside inside stop stopAfter,
    withoutDeclarations_append isWord blank]

theorem erasedOutside_more : ErasedOutside (.more line ending rest) := by
  by_cases declares : Declares line
  · obtain ⟨word, isWord, char, behind, split, isBlank⟩ := declares_iff.mp declares
    refine erasedOutside_of_word proper outside inside isWord split ?_
    rintro _ ⟨⟩
    exact isBlank
  · by_cases breaks : BreaksOff line
    · obtain ⟨word, isWord, ⟨behind, split⟩, blank⟩ := breaks
      refine erasedOutside_of_word proper outside inside isWord split.symm ?_
      intro char isFirst
      rw [← split, List.drop_left] at blank
      exact List.all_eq_true.mp blank char (List.mem_of_head? isFirst)
    · exact erasedOutside_of_no_word proper outside declares breaks

end More

theorem erased_of_proper (proper : lines.Proper) : ErasedOutside lines ∧ ErasedInside lines := by
  induction lines with
  | last line => exact ⟨erasedOutside_last proper, erasedInside_last line⟩
  | more line ending rest ih =>
      obtain ⟨outside, inside⟩ := ih proper.2.2
      exact ⟨erasedOutside_more proper outside inside, erasedInside_more proper outside inside⟩

theorem erase_declarationPass_eq (chars : List Char) :
    declarationPass.erase chars = (withoutDeclarations false (.ofChars chars)).chars := by
  obtain ⟨outside, _⟩ := erased_of_proper (Lines.proper_ofChars chars)
  exact outside (.start chars) rfl (Lines.chars_ofChars chars).symm

/-! ### Line by line -/

theorem withoutDeclarations_eq_emptied (whole : ∀ line ∈ lines.ended, ¬BreaksOff line) :
    withoutDeclarations false lines = lines.emptied Declares := by
  induction lines with
  | last line => simp [withoutDeclarations, Lines.emptied]
  | more line ending rest ih =>
      obtain ⟨noBreak, others⟩ := List.forall_mem_cons.mp whole
      simp [withoutDeclarations, Lines.emptied, noBreak, ih others]

theorem withoutDeclarations_sublist (inside : Bool) (lines : Lines) :
    (withoutDeclarations inside lines).chars.Sublist lines.chars := by
  have shorter : ∀ (inside : Bool) (line : List Char),
      (if inside ∨ Declares line then [] else line).Sublist line := by
    intro inside line
    split
    · exact List.nil_sublist line
    · exact List.Sublist.refl line
  induction lines generalizing inside with
  | last line => exact shorter inside line
  | more line ending rest ih =>
      rw [withoutDeclarations, Lines.chars]
      split
      · exact ((ih true).trans (List.sublist_append_right ..)).trans (List.sublist_append_right ..)
      · exact (shorter inside line).append ((List.Sublist.refl _).append (ih false))

/-- A declaration that breaks off loses the end of its line. -/
theorem not_breaksOff_of_countP_eq (proper : lines.Proper)
    (same : (withoutDeclarations false lines).chars.countP isLineEnd =
      lines.chars.countP isLineEnd) : ∀ line ∈ lines.ended, ¬BreaksOff line := by
  induction lines with
  | last line => exact List.forall_mem_nil _
  | more line ending rest ih =>
      obtain ⟨unbroken, _, properRest⟩ := proper
      have emptied : Lines.Unbroken (if Declares line then [] else line) := unbroken.emptied
      have stays := (withoutDeclarations_sublist true rest).countP_le (p := isLineEnd)
      have lost := ending.countP_pos
      rw [Lines.chars, List.countP_append, List.countP_append, unbroken.countP_eq_zero,
        withoutDeclarations] at same
      by_cases breaks : BreaksOff line
      · simp only [breaks, Bool.not_false, decide_true, Bool.and_self, Bool.or_true, if_true]
          at same
        omega
      · simp only [breaks, Bool.false_and, decide_false, Bool.and_false, Bool.or_self,
          Bool.false_eq_true, if_false, false_or, Lines.chars, List.countP_append,
          emptied.countP_eq_zero] at same
        exact List.forall_mem_cons.mpr ⟨breaks, ih properRest (by omega)⟩

theorem chars_withoutDeclarations_eq_iff (proper : lines.Proper) :
    (withoutDeclarations false lines).chars = (lines.emptied Declares).chars ↔
      ∀ line ∈ lines.ended, ¬BreaksOff line := by
  constructor
  · intro same
    apply not_breaksOff_of_countP_eq proper
    rw [same, Lines.countP_chars_emptied proper]
  · intro whole
    rw [withoutDeclarations_eq_emptied whole]

/-! ### All passes -/

theorem not_hasCast_of_no_as (noCast : ¬"as".toList <:+: chars) : ¬HasCast chars := by
  rintro ⟨front, blank, back, rfl, _⟩
  exact noCast ⟨front, blank :: back, by simp⟩

/-- In a text in which only the last pass can find anything, lines that declare types are left
empty, and all others are kept, as long as no declaration breaks off behind its word.  One that does
goes on over its end, the blank lines behind it and the first line that is not blank.  Where all
lines stay, the text that is left splits into them unless an empty one has come between a carriage
return and a line feed. -/
theorem eraseTypes_empties_declarations {source : String} (noColon : ':' ∉ source.toList)
    (noAngle : '<' ∉ source.toList) (noCast : ¬"as".toList <:+: source.toList) :
    let lines := Lines.ofChars source.toList
    (eraseTypes source).toList = (withoutDeclarations false lines).chars ∧
      ((eraseTypes source).toList = (lines.emptied Declares).chars ↔
        ∀ line ∈ lines.ended, ¬BreaksOff line) ∧
      (Lines.ofChars (eraseTypes source).toList = lines.emptied Declares ↔
        (∀ line ∈ lines.ended, ¬BreaksOff line) ∧ ¬lines.KeptApartBy Declares) := by
  intro lines
  have proper : lines.Proper := Lines.proper_ofChars source.toList
  have erased : (eraseTypes source).toList = (withoutDeclarations false lines).chars := by
    rw [eraseTypes, String.toList_ofList, eraseChars, opens_colonPass.erase_eq_self noColon,
      erase_castPass_eq_self (not_hasCast_of_no_as noCast),
      opens_callPass.erase_eq_self noAngle, erase_declarationPass_eq]
  have lineByLine : (eraseTypes source).toList = (lines.emptied Declares).chars ↔
      ∀ line ∈ lines.ended, ¬BreaksOff line := by
    rw [erased, chars_withoutDeclarations_eq_iff proper]
  refine ⟨erased, lineByLine, ?_⟩
  rw [Lines.ofChars_eq_iff, lineByLine, Lines.proper_emptied_iff proper]

/-- Two declarations with ends of both kinds, and the word of a declaration alone at the end of the
text. -/
theorem eraseTypes_empties_declarations_of_two :
    let source := "interface P \x7b x \x7d\r\ntype Id = number\nlog(type)\rtype"
    let lines := Lines.ofChars source.toList
    ':' ∉ source.toList ∧ '<' ∉ source.toList ∧ ¬"as".toList <:+: source.toList ∧
      (∀ line ∈ lines.ended, ¬BreaksOff line) ∧ ¬lines.KeptApartBy Declares ∧
      eraseTypes source = "\r\n\nlog(type)\rtype" ∧
      Lines.ofChars (eraseTypes source).toList = lines.emptied Declares := by
  intro source lines
  have noColon : ':' ∉ source.toList := by decide
  have noAngle : '<' ∉ source.toList := by decide
  have noS : 's' ∉ source.toList := by decide
  have noCast : ¬"as".toList <:+: source.toList := fun cast => noS (cast.subset (by decide))
  have whole : ∀ line ∈ lines.ended, ¬BreaksOff line := by decide
  have apart : ¬lines.KeptApartBy Declares := by decide
  obtain ⟨erased, _, splits⟩ := eraseTypes_empties_declarations noColon noAngle noCast
  refine ⟨noColon, noAngle, noCast, whole, apart, ?_, splits.mpr ⟨whole, apart⟩⟩
  rw [← String.toList_inj, erased]
  decide

/-- A declaration that breaks off at the end of its line takes the next line away. -/
theorem eraseTypes_takes_next_line :
    let source := "type\nf()"
    let lines := Lines.ofChars source.toList
    ':' ∉ source.toList ∧ '<' ∉ source.toList ∧ ¬"as".toList <:+: source.toList ∧
      lines = .more "type".toList .lineFeed (.last "f()".toList) ∧
      lines.emptied Declares = lines ∧ eraseTypes source = "" ∧
      Lines.ofChars (eraseTypes source).toList ≠ lines.emptied Declares := by
  intro source lines
  have noColon : ':' ∉ source.toList := by decide
  have noAngle : '<' ∉ source.toList := by decide
  have noS : 's' ∉ source.toList := by decide
  have noCast : ¬"as".toList <:+: source.toList := fun cast => noS (cast.subset (by decide))
  have erased : eraseTypes source = "" := by decide +kernel
  refine ⟨noColon, noAngle, noCast, by decide, by decide, erased, ?_⟩
  rw [erased]
  decide

end TypeErasure

end FencedCode
