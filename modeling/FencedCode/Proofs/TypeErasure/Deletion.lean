import FencedCode.Proofs.Pattern.Matching
import FencedCode.TypeErasure

/-!
# What erasing types takes away

Every pass gives a part of its text: it deletes, and what stays keeps its order.  The first three
passes delete nothing but the characters of types, with the signs and the white space around them,
so that numbers, quotes, parentheses and braces all stay.  Only a line that declares a type can lose
more.
-/

namespace FencedCode

namespace TypeErasure

open Pattern

/-! ### One pass -/

namespace Pass

variable {pass : Pass}

theorem eraseFrom_of_matchEnd? {cursor stop : Cursor}
    (found : pass.pattern.matchEnd? cursor = some stop) :
    pass.eraseFrom cursor = pass.keep (cursor.charsTo stop) ++ pass.eraseFrom stop := by
  rw [eraseFrom]
  split
  · next other isEnd =>
    cases found.symm.trans isEnd
    rfl
  · next missing => exact absurd (found.symm.trans missing) (Option.some_ne_none stop)

theorem eraseFrom_of_next? {cursor next : Cursor} {char : Char}
    (missing : pass.pattern.matchEnd? cursor = none) (read : cursor.next? = some (char, next)) :
    pass.eraseFrom cursor = char :: pass.eraseFrom next := by
  rw [eraseFrom]
  split
  · next stop found => exact absurd (found.symm.trans missing) (Option.some_ne_none stop)
  · split
    · next step =>
      cases read.symm.trans step
      rfl
    · next ended => exact absurd (read.symm.trans ended) (Option.some_ne_none _)

/-- A relation between the text after a pass and the text before it holds if it holds of what stays
of each match and is kept by characters that no match covers. -/
theorem eraseFrom_related (related : List Char → List Char → Prop) (pass : Pass) (cursor : Cursor)
    (atEnd : related [] [])
    (passedOver : ∀ char erased chars, related erased chars →
      related (char :: erased) (char :: chars))
    (matched : ∀ place stop chars erased rest, cursor.Reaches place →
      pass.pattern.Matches place stop → place.Reads chars stop → related erased rest →
        related (pass.keep chars ++ erased) (chars ++ rest)) :
    related (pass.eraseFrom cursor) cursor.after := by
  fun_induction eraseFrom pass cursor with
  | case1 cursor stop found ih =>
      obtain ⟨chars, _, reads⟩ := exists_reads_of_matchEnd? found
      rw [reads.charsTo_eq, reads.after_eq]
      refine matched cursor stop chars _ _ (.refl cursor) (matches_of_matchEnd? found) reads (ih ?_)
      intro place laterStop laterChars erased rest reached
      exact matched place laterStop laterChars erased rest (.trans ⟨chars, reads⟩ reached)
  | case2 cursor missing char next step ih =>
      rw [(Cursor.next?_eq_some_iff.mp step).1]
      refine passedOver char _ _ (ih ?_)
      intro place stop chars erased rest reached
      exact matched place stop chars erased rest (.trans ⟨[char], .step step (.stay next)⟩ reached)
  | case3 cursor missing ended =>
      rw [Cursor.next?_eq_none_iff.mp ended]
      exact atEnd

theorem keep_sublist (pass : Pass) (chars : List Char) : (pass.keep chars).Sublist chars := by
  rw [keep]
  split
  · exact List.drop_sublist ..
  · exact List.nil_sublist chars

/-- A pass only deletes. -/
theorem eraseFrom_sublist (pass : Pass) (cursor : Cursor) :
    (pass.eraseFrom cursor).Sublist cursor.after := by
  refine eraseFrom_related List.Sublist pass cursor .slnil ?_ ?_
  · intro char erased rest sublist
    exact sublist.cons_cons char
  · intro place stop found erased rest _ _ _ sublist
    exact (pass.keep_sublist found).append sublist

theorem erase_sublist (pass : Pass) (chars : List Char) : (pass.erase chars).Sublist chars :=
  pass.eraseFrom_sublist (.start chars)

/-- A pass that finds nothing changes nothing. -/
theorem erase_eq_self {chars : List Char}
    (noMatch : ∀ place stop, (Cursor.start chars).Reaches place →
      ¬pass.pattern.Matches place stop) : pass.erase chars = chars := by
  refine eraseFrom_related Eq pass (.start chars) rfl ?_ ?_
  · rintro char erased rest rfl
    rfl
  · intro place stop found erased rest reached isMatch
    exact absurd isMatch (noMatch place stop reached)

/-- What stays of every match of a pass has the same characters of some kind as the match. -/
def KeepsAll (pass : Pass) (kind : Char → Bool) : Prop :=
  ∀ place stop chars, pass.pattern.Matches place stop → place.Reads chars stop →
    (pass.keep chars).filter kind = chars.filter kind

theorem KeepsAll.filter_erase {kind : Char → Bool} (keepsAll : pass.KeepsAll kind)
    (chars : List Char) : (pass.erase chars).filter kind = chars.filter kind := by
  refine eraseFrom_related (fun erased rest => erased.filter kind = rest.filter kind) pass
    (.start chars) rfl ?_ ?_
  · intro char erased rest same
    rw [List.filter_cons, List.filter_cons, same]
  · intro place stop found erased rest _ isMatch reads same
    rw [List.filter_append, List.filter_append, keepsAll place stop found isMatch reads, same]

/-- A pass that takes whole matches away keeps what its pattern cannot consume. -/
theorem keepsAll_of_consumesOnly {kind : Char → Bool} (takesLast : pass.keepsLast = false)
    (consumes : pass.pattern.ConsumesOnly fun char => kind char = false) : pass.KeepsAll kind := by
  intro place stop chars isMatch reads
  obtain ⟨consumed, readsConsumed, others⟩ := isMatch.exists_reads consumes
  have same : chars = consumed := by rw [← reads.charsTo_eq, readsConsumed.charsTo_eq]
  have gone : chars.filter kind = [] := by
    rw [same, List.filter_eq_nil_iff]
    intro char member
    rw [others char member]
    exact Bool.false_ne_true
  rw [keep, takesLast, gone]
  rfl

theorem keep_append_singleton (keepsLast : pass.keepsLast = true) (front : List Char)
    (last : Char) : pass.keep (front ++ [last]) = [last] := by
  rw [keep, if_pos keepsLast, List.length_append, List.length_singleton, Nat.add_sub_cancel,
    List.drop_left]

/-- Such a pass goes on behind the last character of what it finds. -/
theorem eraseFrom_of_found (keepsLast : pass.keepsLast = true) {cursor stop : Cursor} {last : Char}
    (found : pass.pattern.matchEnd? cursor = some stop) (isBefore : stop.before = some last) :
    pass.eraseFrom cursor = [last] ++ pass.eraseFrom stop := by
  obtain ⟨chars, readsSome, reads⟩ := exists_reads_of_matchEnd? found
  obtain ⟨front, char, rfl⟩ := (List.eq_nil_or_concat chars).resolve_left readsSome
  rw [List.concat_eq_append] at reads
  rw [reads.before_eq, List.getLast?_concat, Option.some_or] at isBefore
  cases isBefore
  rw [eraseFrom_of_matchEnd? found, reads.charsTo_eq, keep_append_singleton keepsLast]

/-- A pass that leaves the last character keeps what its pattern cannot consume in front of it. -/
theorem keepsAll_of_seq {kind : Char → Bool} {front last : Pattern}
    (shape : pass.pattern = seq front last) (keepsLast : pass.keepsLast = true)
    (consumes : front.ConsumesOnly fun char => kind char = false)
    (single : ∀ cursor stop, last.Matches cursor stop → ∃ char, cursor.Reads [char] stop) :
    pass.KeepsAll kind := by
  intro place stop chars isMatch reads
  rw [shape] at isMatch
  obtain ⟨middle, frontMatch, lastMatch⟩ := isMatch
  obtain ⟨consumed, readsConsumed, others⟩ := frontMatch.exists_reads consumes
  obtain ⟨char, readsLast⟩ := single middle stop lastMatch
  have same : chars = consumed ++ [char] := by
    rw [← reads.charsTo_eq, (readsConsumed.trans readsLast).charsTo_eq]
  have gone : consumed.filter kind = [] := by
    rw [List.filter_eq_nil_iff]
    intro other member
    rw [others other member]
    exact Bool.false_ne_true
  rw [same, keep_append_singleton keepsLast, List.filter_append, gone, List.nil_append]

end Pass

/-! ### The characters of types -/

/-- The characters of types: ASCII letters, signs, and white space. -/
def isTypeLike (char : Char) : Bool :=
  char.isAlpha || ['<', '>', '[', ']', '|', '&', ',', ':'].contains char || Text.isBlank char

/-- The characters that no type holds. -/
def isOutside (char : Char) : Bool := !isTypeLike char

theorem contains_letters (char : Char) :
    (CharSet.union (.range 'A' 'Z') (.range 'a' 'z')).contains char = char.isAlpha := by
  calc (CharSet.union (.range 'A' 'Z') (.range 'a' 'z')).contains char
      = (decide ('A' ≤ char) && decide (char ≤ 'Z') ||
          decide ('a' ≤ char) && decide (char ≤ 'z')) := rfl
    _ = (decide ('A' ≤ char ∧ char ≤ 'Z') ||
          decide ('a' ≤ char) && decide (char ≤ 'z')) := by rw [Bool.decide_and]
    _ = char.isAlpha := rfl

theorem contains_typeChars (char : Char) :
    typeChars.contains char =
      (char.isAlpha || ['<', '>', '[', ']', '|', '&'].contains char) := by
  rw [typeChars, CharSet.contains, contains_letters, CharSet.contains_ofList]

theorem contains_spacedTypeChars (char : Char) :
    spacedTypeChars.contains char =
      (typeChars.contains char || (decide (',' = char) || Text.isBlank char)) := by
  rw [spacedTypeChars, CharSet.contains, CharSet.contains, CharSet.contains_single]
  rfl

theorem isOutside_eq_false_of_spacedTypeChars {char : Char}
    (isType : spacedTypeChars.contains char) : isOutside char = false := by
  rw [contains_spacedTypeChars, contains_typeChars] at isType
  simp only [isOutside, isTypeLike, Bool.not_eq_false', Bool.or_eq_true, List.contains_iff_mem,
    List.mem_cons, List.not_mem_nil, or_false, decide_eq_true_eq] at isType ⊢
  grind

theorem isOutside_eq_false_of_typeChars {char : Char} (isType : typeChars.contains char) :
    isOutside char = false := by
  apply isOutside_eq_false_of_spacedTypeChars
  rw [contains_spacedTypeChars, isType, Bool.true_or]

theorem isOutside_eq_false_of_blank {char : Char}
    (blank : (CharSet.named .blank).contains char) : isOutside char = false := by
  have isBlank : Text.isBlank char = true := blank
  apply isOutside_eq_false_of_spacedTypeChars
  rw [contains_spacedTypeChars, isBlank, Bool.or_true, Bool.or_true]

theorem consumesOnly_literal_of_typeLike {chars : List Char} (typeLike : chars.all isTypeLike) :
    (literal chars).ConsumesOnly fun char => isOutside char = false := by
  apply consumesOnly_literal
  intro char member
  rw [isOutside, List.all_eq_true.mp typeLike char member, Bool.not_true]

/-! ### The first three passes -/

theorem keepsAll_colonPass : colonPass.KeepsAll isOutside := by
  refine Pass.keepsAll_of_seq rfl rfl ⟨⟨?_, ?_⟩, ?_⟩ ?_
  · exact consumesOnly_literal_of_typeLike (by decide)
  · exact fun _ => isOutside_eq_false_of_blank
  · exact fun _ => isOutside_eq_false_of_spacedTypeChars
  · rintro cursor stop ⟨char, step, _⟩
    exact ⟨char, .step step (.stay stop)⟩

theorem keepsAll_castPass : castPass.KeepsAll isOutside := by
  refine Pass.keepsAll_of_consumesOnly rfl ⟨⟨⟨trivial, ?_⟩, ?_⟩, ?_⟩
  · exact consumesOnly_literal_of_typeLike (by decide)
  · exact fun _ => isOutside_eq_false_of_blank
  · exact fun _ => isOutside_eq_false_of_typeChars

theorem keepsAll_callPass : callPass.KeepsAll isOutside := by
  refine Pass.keepsAll_of_seq rfl rfl ⟨⟨?_, ?_⟩, ?_⟩ ?_
  · exact consumesOnly_literal_of_typeLike (by decide)
  · exact fun _ => isOutside_eq_false_of_spacedTypeChars
  · exact consumesOnly_literal_of_typeLike (by decide)
  · intro cursor stop isMatch
    exact ⟨'(', isMatch.reads_literal⟩

/-- The text after the first three passes. -/
def eraseInline (chars : List Char) : List Char :=
  callPass.erase (castPass.erase (colonPass.erase chars))

theorem eraseInline_sublist (chars : List Char) : (eraseInline chars).Sublist chars :=
  (callPass.erase_sublist _).trans ((castPass.erase_sublist _).trans (colonPass.erase_sublist _))

/-! ### Declarations -/

/-- A line starts between two parts of a text.  Lines end in a line feed, a carriage return or
both. -/
def LineStartsBetween (front back : List Char) : Prop :=
  front = [] ∨ front.getLast? = some '\n' ∨ (front.getLast? = some '\r' ∧ back.head? ≠ some '\n')

/-- Some line of a text starts with `interface` or `type` and white space, which may be the end of
the line itself. -/
def HasDeclaration (chars : List Char) : Prop :=
  ∃ front word blank back, chars = front ++ (word ++ blank :: back) ∧
    LineStartsBetween front (word ++ blank :: back) ∧
    (word = "interface".toList ∨ word = "type".toList) ∧ Text.isBlank blank

theorem lineStartsBetween_of_holds {place : Cursor} {front : List Char}
    (isBefore : place.before = front.getLast?) (holds : Assertion.anyLineStart.holds place) :
    LineStartsBetween front place.after := by
  rw [Assertion.holds, Assertion.holdsBetween, isBefore] at holds
  cases last : front.getLast? with
  | none => exact .inl (List.getLast?_eq_none_iff.mp last)
  | some char =>
      rw [last, Option.all_some, Bool.or_eq_true, Bool.and_eq_true, beq_iff_eq, beq_iff_eq,
        bne_iff_ne] at holds
      rcases holds with rfl | ⟨rfl, noLineFeed⟩
      · exact .inr (.inl last)
      · exact .inr (.inr ⟨last, noLineFeed⟩)

/-- A pattern for white space reads some of it. -/
theorem exists_blank_of_matches {place stop : Cursor}
    (isMatch : (plus (one (.named .blank))).Matches place stop) :
    ∃ blank back, place.after = blank :: back ∧ Text.isBlank blank := by
  obtain ⟨count, atLeast, _, rounds⟩ := isMatch
  obtain ⟨rest, rfl⟩ := Nat.exists_eq_add_of_le' atLeast
  obtain ⟨next, ⟨blank, step, isBlank⟩, _⟩ := rounds
  exact ⟨blank, next.after, (Cursor.next?_eq_some_iff.mp step).1, isBlank⟩

/-- The last pass finds something only at the start of a line, where a word of a declaration comes
before white space. -/
theorem exists_word_of_matches {place stop : Cursor}
    (isMatch : declarationPass.pattern.Matches place stop) :
    Assertion.anyLineStart.holds place ∧ ∃ word blank behind,
      (word = "interface".toList ∨ word = "type".toList) ∧
        place.after = word ++ blank :: behind ∧ Text.isBlank blank := by
  obtain ⟨_, ⟨_, ⟨behindWord, ⟨start, ⟨holds, rfl⟩, isWord⟩, blanks⟩, _⟩, _⟩ := isMatch
  obtain ⟨word, readsWord, either⟩ : ∃ word, start.Reads word behindWord ∧
      (word = "interface".toList ∨ word = "type".toList) := by
    cases isWord with
    | inl isInterface => exact ⟨_, isInterface.reads_literal, .inl rfl⟩
    | inr isType => exact ⟨_, isType.reads_literal, .inr rfl⟩
  obtain ⟨blank, behind, behindAfter, isBlank⟩ := exists_blank_of_matches blanks
  exact ⟨holds, word, blank, behind, either, by rw [readsWord.after_eq, behindAfter], isBlank⟩

/-- Where the last pass finds something there is a declaration. -/
theorem hasDeclaration_of_matches {chars : List Char} {place stop : Cursor}
    (reached : (Cursor.start chars).Reaches place)
    (isMatch : declarationPass.pattern.Matches place stop) : HasDeclaration chars := by
  obtain ⟨holds, word, blank, behind, isWord, placeAfter, isBlank⟩ := exists_word_of_matches isMatch
  obtain ⟨front, readsFront⟩ := reached
  have isBefore : place.before = front.getLast? := by
    rw [readsFront.before_eq, Cursor.start_before, Option.or_none]
  refine ⟨front, word, blank, behind, ?_, ?_, isWord, isBlank⟩
  · rw [← placeAfter, ← readsFront.after_eq]
    rfl
  · rw [← placeAfter]
    exact lineStartsBetween_of_holds isBefore holds

theorem erase_declarationPass_eq_self {chars : List Char} (noDeclaration : ¬HasDeclaration chars) :
    declarationPass.erase chars = chars := by
  apply Pass.erase_eq_self
  intro place stop reached isMatch
  exact noDeclaration (hasDeclaration_of_matches reached isMatch)

/-- In a text without declarations all passes delete nothing but the characters of types. -/
theorem filter_eraseChars {chars : List Char}
    (noDeclaration : ¬HasDeclaration (eraseInline chars)) :
    (eraseChars chars).filter isOutside = chars.filter isOutside := by
  have lastPass : eraseChars chars = eraseInline chars :=
    erase_declarationPass_eq_self noDeclaration
  calc (eraseChars chars).filter isOutside
      = (callPass.erase (castPass.erase (colonPass.erase chars))).filter isOutside := by
        rw [lastPass, eraseInline]
    _ = (castPass.erase (colonPass.erase chars)).filter isOutside :=
        keepsAll_callPass.filter_erase _
    _ = (colonPass.erase chars).filter isOutside := keepsAll_castPass.filter_erase _
    _ = chars.filter isOutside := keepsAll_colonPass.filter_erase _

/-- Erasing types gives a part of the text, and none of the first three passes deletes a character
that no type holds, such as a digit, a quote, a parenthesis or a brace.  Where the text that they
leave has no declaration, no such character is deleted at all. -/
theorem eraseTypes_deletes (source : String) :
    (eraseTypes source).toList.Sublist source.toList ∧
    (eraseTypes source).length ≤ source.length ∧
    (∀ pass ∈ [colonPass, castPass, callPass], ∀ chars : List Char,
      (pass.erase chars).filter isOutside = chars.filter isOutside) ∧
    (∀ char ∈ "0123456789\"\x27\x60()\x7b\x7d=;._$".toList, isOutside char) ∧
    (¬HasDeclaration (eraseInline source.toList) →
      (eraseTypes source).toList.filter isOutside = source.toList.filter isOutside) := by
  have sublist : (eraseTypes source).toList.Sublist source.toList := by
    rw [eraseTypes, String.toList_ofList]
    exact (declarationPass.erase_sublist _).trans (eraseInline_sublist source.toList)
  refine ⟨sublist, ?_, ?_, List.all_eq_true.mp (by decide), ?_⟩
  · rw [← String.length_toList, ← String.length_toList]
    exact sublist.length_le
  · simp only [List.forall_mem_cons]
    exact ⟨keepsAll_colonPass.filter_erase, keepsAll_castPass.filter_erase,
      keepsAll_callPass.filter_erase, List.forall_mem_nil _⟩
  · intro noDeclaration
    rw [eraseTypes, String.toList_ofList]
    exact filter_eraseChars noDeclaration

/-- A variable with a type. -/
theorem eraseTypes_deletes_of_variable :
    ¬HasDeclaration (eraseInline "let n: number[] = [1];".toList) ∧
      (eraseTypes "let n: number[] = [1];").toList.filter isOutside =
        "let n: number[] = [1];".toList.filter isOutside := by
  have noDeclaration : ¬HasDeclaration (eraseInline "let n: number[] = [1];".toList) := by
    rintro ⟨front, word, blank, back, split, _, isWord, _⟩
    have within : ∀ char ∈ word, char ∈ "let n: number[] = [1];".toList := by
      intro char member
      apply (eraseInline_sublist _).subset
      rw [split]
      exact List.mem_append_right _ (List.mem_append_left _ member)
    rcases isWord with rfl | rfl
    · exact absurd (within 'f' (by decide)) (by decide)
    · exact absurd (within 'y' (by decide)) (by decide)
  exact ⟨noDeclaration, (eraseTypes_deletes "let n: number[] = [1];").2.2.2.2 noDeclaration⟩

end TypeErasure

end FencedCode
