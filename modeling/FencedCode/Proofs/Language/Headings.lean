import FencedCode.Language.Documents
import FencedCode.Proofs.Language.Tokens
import FencedCode.Proofs.Pattern.Backtracking
import FencedCode.Proofs.Pattern.LineEdges
import Mathlib.Data.List.TakeWhile

/-!
# Headings

A heading starts a line with its marks.  Behind them it takes all the white space it can, and then
the rest of a line, which must not be empty.  White space may hold ends of lines, so a heading with
nothing to say in its own line takes a later one.
-/

namespace FencedCode

namespace Language

open Pattern Text

/-- The marks in front of a heading. -/
def headingMarks : Pattern := repeated (text "#") 1 (some 6) true

def headingRule : Rule where
  kind := .heading
  pattern := sequenceOf [assert .anyLineStart, headingMarks, Shape.blanks, plus (one .inLine),
    assert .anyLineEnd]

/-- What is left of a line, if that is anything. -/
def restOfLine : Cursor → Option Cursor :=
  (plus (one .inLine)).search ((assert .anyLineEnd).search some)

/-- Nothing but white space stands in the first of some lines, and something in a later one. -/
def LeavesLine : Lines → Prop
  | .last _ => False
  | .more line _ rest => line.all isBlank ∧ ∃ char ∈ rest.chars, ¬isLineEnd char

instance : DecidablePred LeavesLine
  | .last _ => inferInstanceAs (Decidable False)
  | .more line _ rest =>
    have := List.decidableBEx (¬isLineEnd ·) rest.chars
    inferInstanceAs (Decidable (line.all isBlank ∧ ∃ char ∈ rest.chars, ¬isLineEnd char))

theorem eq_headingRule : ∀ rule ∈ markdown.rules, rule.kind = .heading → rule = headingRule := by
  decide

variable {place behind stop : Cursor} {chars covered : List Char} {char : Char} {lines : Lines}

theorem isSome_restOfLine (first : place.after.head? = some char) (noEnd : ¬isLineEnd char) :
    (restOfLine place).isSome := by
  obtain ⟨line, stop, reads, unbroken, _, ended⟩ := place.exists_reads_line
  have notEmpty : line ≠ [] := by
    rintro rfl
    cases reads
    exact noEnd (ended char first)
  have endsLine : Assertion.anyLineEnd.holds stop :=
    Assertion.anyLineEnd_behind_line reads unbroken ended fun isEmpty => absurd isEmpty notEmpty
  have prefers : (plus (one .inLine)).Prefers place stop := by
    apply prefers_plus_one reads notEmpty
    · intro char member
      exact CharSet.contains_inLine_iff.mpr (unbroken char member)
    · intro char isFirst contains
      exact CharSet.contains_inLine_iff.mp contains (ended char isFirst)
  rw [restOfLine, prefers.search_eq_some ((prefers_assert endsLine).search_eq_some rfl)]
  rfl

theorem exists_line_of_restOfLine (found : restOfLine place = some stop) :
    ∃ line, line ≠ [] ∧ place.Reads line stop ∧ Lines.Unbroken line := by
  obtain ⟨last, isLine, ended⟩ := exists_of_search_eq_some found
  obtain ⟨_, ⟨_, rfl⟩, ⟨⟩⟩ := exists_of_search_eq_some ended
  have consumes : (plus (one .inLine)).Consumes :=
    (consumes_one .inLine).repeated Nat.one_pos none true
  have only : (plus (one .inLine)).ConsumesOnly (¬isLineEnd ·) :=
    fun _ => CharSet.contains_inLine_iff.mp
  exact consumes.exists_reads only isLine

/-- A heading starts a line, and behind its marks the search goes on for white space and the rest
of a line. -/
theorem exists_behind_marks (found : headingRule.pattern.matchEnd? place = some stop) :
    Assertion.anyLineStart.holds place ∧ ∃ marks behind, place.Reads marks behind ∧
      (∀ char ∈ marks, char = '#') ∧ Shape.blanks.search restOfLine behind = some stop := by
  rw [matchEnd?_eq_search] at found
  have searched := (Option.filter_eq_some_iff.mp found).1
  rw [headingRule, sequenceOf, List.foldl_cons, List.foldl_cons, List.foldl_cons, List.foldl_cons,
    List.foldl_nil, search_seq, search_seq, search_seq, search_seq] at searched
  obtain ⟨_, ⟨starts, rfl⟩, fromStart⟩ := exists_of_search_eq_some searched
  obtain ⟨behind, isMatch, behindMarks⟩ := exists_of_search_eq_some fromStart
  have onlyMarks : headingMarks.ConsumesOnly (· = '#') := by
    apply consumesOnly_literal
    simp
  obtain ⟨marks, reads, areMarks⟩ := isMatch.exists_reads onlyMarks
  exact ⟨starts, marks, behind, reads, areMarks, behindMarks⟩

/-- What is taken behind the marks is white space and a line, neither of them empty. -/
theorem exists_blanks_and_line (found : Shape.blanks.search restOfLine behind = some stop) :
    ∃ blanks line, behind.Reads (blanks ++ line) stop ∧ blanks ≠ [] ∧ blanks.all isBlank ∧
      line ≠ [] ∧ Lines.Unbroken line := by
  obtain ⟨middle, isBlanks, ended⟩ := exists_of_search_eq_some found
  have consumes : Shape.blanks.Consumes :=
    (consumes_one (.named .blank)).repeated Nat.one_pos none true
  have only : Shape.blanks.ConsumesOnly (isBlank · = true) := fun _ isBlank => isBlank
  obtain ⟨blanks, someBlanks, readsBlanks, areBlank⟩ := consumes.exists_reads only isBlanks
  obtain ⟨line, someLine, readsLine, unbroken⟩ := exists_line_of_restOfLine ended
  exact ⟨blanks, line, readsBlanks.trans readsLine, someBlanks, List.all_eq_true.mpr areBlank,
    someLine, unbroken⟩

/-- All marks are taken, since white space comes behind those that are. -/
theorem after_eq_dropWhile {marks : List Char} (reads : place.Reads marks behind)
    (areMarks : ∀ char ∈ marks, char = '#')
    (found : Shape.blanks.search restOfLine behind = some stop) :
    behind.after = place.after.dropWhile (· == '#') := by
  obtain ⟨blanks, _, readsParts, someBlanks, areBlank, _, _⟩ := exists_blanks_and_line found
  obtain ⟨blank, others, rfl⟩ := List.exists_cons_of_ne_nil someBlanks
  have noMark : (blank == '#') = false := by
    rw [beq_eq_false_iff_ne]
    rintro rfl
    simp [show isBlank '#' = false by decide] at areBlank
  rw [reads.after_eq, List.dropWhile_append_of_pos (by simpa using areMarks), readsParts.after_eq,
    List.cons_append, List.cons_append, List.dropWhile_cons_of_neg (by simp [noMark])]

/-- Where something comes in a later line, the white space is taken up to that line or further. -/
theorem exists_end_of_leavesLine (leaves : LeavesLine lines) (toCome : behind.after = lines.chars)
    (found : Shape.blanks.search restOfLine behind = some stop)
    (reads : behind.Reads covered stop) : ∃ char ∈ covered, isLineEnd char := by
  cases lines with
  | last line => exact leaves.elim
  | more line ending rest =>
      obtain ⟨blank, char, member, noEnd⟩ := leaves
      obtain ⟨behindLine, readsLine, behindLineAfter⟩ := Cursor.exists_reads toCome
      obtain ⟨behindEnd, readsEnd, behindEndAfter⟩ := Cursor.exists_reads behindLineAfter
      obtain ⟨ends, start, readsEnds, areEnds, startAfter, goesOn⟩ :=
        behindEnd.exists_reads_while isLineEnd
      have isSome : (restOfLine start).isSome := by
        cases first : start.after.head? with
        | some char => exact isSome_restOfLine first (goesOn char first)
        | none =>
            rw [List.head?_eq_none_iff, startAfter, behindEndAfter, List.dropWhile_eq_nil_iff]
              at first
            exact absurd (first char member) noEnd
      have areBlank : ∀ char ∈ line ++ (ending.chars ++ ends),
          (CharSet.named .blank).contains char := by
        rw [List.forall_mem_append, List.forall_mem_append]
        refine ⟨List.all_eq_true.mp blank, List.all_eq_true.mp ending.all_isBlank, ?_⟩
        exact fun char member => isBlank_of_isLineEnd (areEnds char member)
      have notEmpty : line ++ (ending.chars ++ ends) ≠ [] := by
        cases ending <;> simp [LineEnd.chars]
      have readsBlanks := readsLine.trans (readsEnd.trans readsEnds)
      obtain ⟨later, ⟨more, readsMore⟩, same⟩ :=
        exists_further_of_search_plus_one readsBlanks notEmpty areBlank isSome
      obtain ⟨last, _, readsLast, _⟩ := exists_line_of_restOfLine (same.symm.trans found)
      obtain ⟨char, isEnd, ends⟩ := List.countP_pos_iff.mp ending.countP_pos
      refine ⟨char, ?_, ends⟩
      rw [← reads.charsTo_eq, ((readsBlanks.trans readsMore).trans readsLast).charsTo_eq]
      simp [isEnd]

/-- An end among what is taken is in the white space, so the line that is taken is a later one. -/
theorem leavesLine_of_exists_end (proper : lines.Proper) (toCome : behind.after = lines.chars)
    (found : Shape.blanks.search restOfLine behind = some stop) (reads : behind.Reads covered stop)
    (ends : ∃ char ∈ covered, isLineEnd char) : LeavesLine lines := by
  obtain ⟨blanks, later, readsParts, _, areBlank, notEmpty, unbroken⟩ :=
    exists_blanks_and_line found
  obtain ⟨char, member, isEnd⟩ := ends
  have inBlanks : char ∈ blanks := by
    rw [← reads.charsTo_eq, readsParts.charsTo_eq, List.mem_append] at member
    exact member.resolve_right fun inLine => unbroken char inLine isEnd
  have toCome : lines.chars = blanks ++ (later ++ stop.after) := by
    rw [← toCome, readsParts.after_eq, List.append_assoc]
  cases lines with
  | last line =>
      refine absurd isEnd (proper char ?_)
      have isLine : line = blanks ++ (later ++ stop.after) := toCome
      rw [isLine]
      exact List.mem_append_left _ inBlanks
  | more line ending rest =>
      rcases List.append_eq_append_iff.mp toCome with
        ⟨more, blanksSplit, behindLine⟩ | ⟨more, lineSplit, _⟩
      · refine ⟨?_, ?_⟩
        · rw [blanksSplit, List.all_append, Bool.and_eq_true] at areBlank
          exact areBlank.1
        · obtain ⟨char, isLater⟩ := List.exists_mem_of_ne_nil later notEmpty
          have comes : char ∈ ending.chars ++ rest.chars := by
            rw [behindLine]
            simp [isLater]
          have noEnd := unbroken char isLater
          refine ⟨char, (List.mem_append.mp comes).resolve_left fun inEnding => noEnd ?_, noEnd⟩
          exact List.all_eq_true.mp ending.all_isLineEnd char inEnding
      · refine absurd isEnd (proper.1 char ?_)
        rw [lineSplit]
        exact List.mem_append_left _ inBlanks

/-- What a heading covers, told from the text at the place where it starts. -/
theorem inLine_iff_of_heading (found : headingRule.pattern.matchEnd? place = some stop)
    (reads : place.Reads covered stop) :
    (∀ char ∈ covered, ¬isLineEnd char) ↔
      ¬LeavesLine (Lines.ofChars (place.after.dropWhile (· == '#'))) := by
  obtain ⟨_, marks, behind, readsMarks, areMarks, searched⟩ := exists_behind_marks found
  obtain ⟨blanks, line, readsParts, _⟩ := exists_blanks_and_line searched
  rw [← after_eq_dropWhile readsMarks areMarks searched, ← reads.charsTo_eq,
    (readsMarks.trans readsParts).charsTo_eq, List.forall_mem_append, and_iff_right,
    ← not_iff_not, not_not]
  · have proper : (Lines.ofChars behind.after).Proper := Lines.proper_ofChars behind.after
    have comes : behind.after = (Lines.ofChars behind.after).chars :=
      (Lines.chars_ofChars behind.after).symm
    constructor
    · intro crosses
      apply leavesLine_of_exists_end proper comes searched readsParts
      simpa using crosses
    · intro leaves
      have ends := exists_end_of_leavesLine leaves comes searched readsParts
      simpa using ends
  · intro char isMark
    rw [areMarks char isMark]
    decide

/-- A heading starts a line.  It stays in that line unless nothing but white space stands there
behind the marks and something in a later line. -/
theorem markdown_heading_in_line_iff {text : String} {token : Token} {earlier later : List Token}
    (split : markdown.tokens text = earlier ++ token :: later)
    (isHeading : token.kind = some .heading) :
    let behindMarks := (token.text ++ Token.joined later).toList.dropWhile (· == '#')
    (∀ char ∈ (Token.joined earlier).toList.getLast?, isLineEnd char) ∧
      ((∀ char ∈ token.text.toList, ¬isLineEnd char) ↔
        ¬LeavesLine (Lines.ofChars behindMarks)) := by
  intro behindMarks
  obtain ⟨place, reads, fromPlace⟩ := exists_reads_of_tokensFrom_eq_append split
  have toCome : place.after = (token.text ++ Token.joined later).toList := by
    rw [String.toList_append, ← Token.toList_joined_cons, fromPlace, toList_joined_tokensFrom]
  rcases tokensFrom_eq_cons fromPlace.symm with
    ⟨rule, stop, decided, rfl, _⟩ | ⟨_, char, _, _, rfl, _⟩
  · obtain ⟨_, _, declared, _, found⟩ := firstMatch?_eq_some_iff.mp decided
    have isRule : rule = headingRule := by
      apply eq_headingRule rule
      · simp [declared]
      · exact Option.some.inj isHeading
    subst isRule
    obtain ⟨covered, _, readsToken⟩ := exists_reads_of_matchEnd? found
    have isText : (markdown.tokenOf headingRule place stop).text.toList = covered := by
      rw [tokenOf, readsToken.charsTo_eq, String.toList_ofList]
    have inLine := inLine_iff_of_heading found readsToken
    rw [toCome] at inLine
    refine ⟨?_, isText ▸ inLine⟩
    intro char isLast
    apply Assertion.isLineEnd_of_anyLineStart (exists_behind_marks found).1 char
    rw [reads.before_eq, isLast]
    rfl
  · cases isHeading

/-- A heading with a line before it and another behind it. -/
theorem markdown_heading_in_line_between_two :
    let tokens := markdown.tokens "x\n## a b\r\n\ny"
    let heading : Token := { kind := some .heading, text := "## a b", tokenClass := some .heading }
    tokens = tokens.take 2 ++ heading :: tokens.drop 3 ∧ heading.kind = some .heading ∧
      Token.joined (tokens.take 2) = "x\n" ∧ ∀ char ∈ heading.text.toList, ¬isLineEnd char := by
  intro tokens heading
  have split : tokens = tokens.take 2 ++ heading :: tokens.drop 3 := by decide +kernel
  obtain ⟨_, inLine⟩ := markdown_heading_in_line_iff split rfl
  refine ⟨split, rfl, by decide +kernel, inLine.mpr ?_⟩
  decide +kernel

/-- A mark alone in its line makes the next line a heading. -/
theorem markdown_heading_leaves_line :
    let heading : Token := { kind := some .heading, text := "#\nfoo", tokenClass := some .heading }
    markdown.tokens "#\nfoo" = [heading] ∧ '\n' ∈ heading.text.toList := by
  decide +kernel

end Language

end FencedCode
