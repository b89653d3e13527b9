import FencedCode.Proofs.Language.Segmentation
import FencedCode.Proofs.Pattern.Preference
import FencedCode.Registry

/-!
# Words and white space are taken whole

A rule that reads characters of a set as long as they come stops only where another character comes.
Where all rules of one kind read the same set, two tokens of this kind cannot stand side by side: the
second would have to start with a character at which the first did not stop.  So whatever led to a
word, the character behind it tells whether it is called.
-/

namespace FencedCode

/-! ### Patterns that stop only at another character -/

namespace Pattern

variable {first later set : CharSet} {place start stop : Cursor} {chars : List Char} {char : Char}

/-- A match starts with a character of a set and stops only where none of the set comes. -/
def TakesWhole (pattern : Pattern) (set : CharSet) : Prop :=
  ∀ place stop, pattern.matchEnd? place = some stop →
    (∃ char ∈ place.after.head?, set.contains char) ∧
      ∀ char ∈ stop.after.head?, ¬set.contains char

theorem takesWhole_wordOf (within : ∀ char, first.contains char → later.contains char) :
    (Shape.wordOf first later).TakesWhole later := by
  intro place stop found
  obtain ⟨middle, ⟨char, read, isFirst⟩, _⟩ := matches_of_matchEnd? found
  obtain ⟨chars, last, reads, each, _, ended⟩ := middle.exists_reads_while later.contains
  have prefers : (Shape.wordOf first later).Prefers place last :=
    (prefers_one read isFirst).seq (prefers_star_one reads each ended)
  have shorter : last.size < place.size := by
    have := Cursor.size_next read
    have := reads.size_eq
    omega
  cases (prefers.matchEnd?_eq shorter).symm.trans found
  exact ⟨⟨char, Cursor.head?_after_of_next? read, within char isFirst⟩, ended⟩

theorem takesWhole_plus_one : (plus (one set)).TakesWhole set := by
  intro place stop found
  obtain ⟨count, atLeast, _, rounds⟩ := matches_of_matchEnd? found
  obtain ⟨more, rfl⟩ : ∃ more, count = more + 1 := ⟨count - 1, by omega⟩
  obtain ⟨middle, ⟨char, read, isFirst⟩, _⟩ := rounds
  obtain ⟨chars, last, reads, each, _, ended⟩ := middle.exists_reads_while set.contains
  have readsAll : place.Reads (char :: chars) last := .step read reads
  have prefers : (plus (one set)).Prefers place last :=
    prefers_plus_one readsAll nofun (List.forall_mem_cons.mpr ⟨isFirst, each⟩) ended
  have shorter : last.size < place.size := by
    have := readsAll.size_eq
    rw [List.length_cons] at this
    omega
  cases (prefers.matchEnd?_eq shorter).symm.trans found
  exact ⟨⟨char, Cursor.head?_after_of_next? read, isFirst⟩, ended⟩

/-- A word does not go on with a character that is not among those with which words go on. -/
theorem not_mem_ends_wordOf (reads : start.Reads (chars ++ [char]) stop) (notEmpty : chars ≠ [])
    (foreign : ¬later.contains char) : stop ∉ (Shape.wordOf first later).ends start := by
  intro member
  obtain ⟨middle, ⟨head, read, _⟩, rest⟩ := matches_of_mem_ends member
  have only : (star (one later)).ConsumesOnly (later.contains · = true) := fun _ isLater => isLater
  obtain ⟨others, readsOthers, each⟩ := rest.exists_reads only
  have readsWord : start.Reads (head :: others) stop := .step read readsOthers
  have same : chars ++ [char] = head :: others :=
    reads.charsTo_eq.symm.trans readsWord.charsTo_eq
  obtain ⟨front, tail, rfl⟩ := List.exists_cons_of_ne_nil notEmpty
  cases same
  exact foreign (each char (List.mem_append_right _ (List.mem_singleton_self char)))

end Pattern

/-- Where tokens cover something, the first character that they cover is that of the first token. -/
theorem Token.head?_joined {tokens : List Token} (nonempty : ∀ token ∈ tokens, token.text ≠ "") :
    (Token.joined tokens).toList.head? = tokens.head?.bind fun token => token.text.toList.head? := by
  cases tokens with
  | nil => rfl
  | cons token tokens =>
      have covered : token.text.toList ≠ [] := by
        simpa using nonempty token (List.mem_cons_self ..)
      obtain ⟨char, rest, split⟩ := List.exists_cons_of_ne_nil covered
      rw [toList_joined_cons, split]
      simp [split]

namespace Language

open Pattern Text

variable {language : Language} {token next : Token} {earlier later : List Token}
variable {kind : TokenKind} {set : CharSet} {place : Cursor} {char : Char}

/-! ### Tokens of one kind -/

/-- All rules of a kind read characters of one set as long as they come. -/
def ReadsWhole (language : Language) (kind : TokenKind) (set : CharSet) : Prop :=
  ∀ rule ∈ language.rules, rule.kind = kind → rule.pattern.TakesWhole set

namespace ReadsWhole

theorem starts_and_ends (whole : language.ReadsWhole kind set)
    (split : language.tokensFrom place = token :: later) (isKind : token.kind = some kind) :
    (∃ char ∈ place.after.head?, set.contains char) ∧
      ∀ char ∈ (Token.joined later).toList.head?, ¬set.contains char := by
  rcases tokensFrom_eq_cons split with ⟨rule, stop, decided, rfl, rfl⟩ | ⟨_, _, _, _, rfl, _⟩
  · obtain ⟨_, _, declared, _, found⟩ := firstMatch?_eq_some_iff.mp decided
    have listed : rule ∈ language.rules := by simp [declared]
    rw [toList_joined_tokensFrom]
    exact whole rule listed (Option.some.inj isKind) place stop found
  · cases isKind

/-- Two tokens of the kind cannot stand side by side. -/
theorem kind_ne (whole : language.ReadsWhole kind set)
    (split : language.tokensFrom place = token :: later) (isKind : token.kind = some kind)
    (isNext : next ∈ later.head?) : next.kind ≠ some kind := by
  intro nextIsKind
  obtain ⟨rest, rfl⟩ := List.head?_eq_some_iff.mp isNext
  obtain ⟨_, ended⟩ := whole.starts_and_ends split isKind
  obtain ⟨_, following, _, fromHere⟩ := reads_of_tokensFrom_eq_cons split
  obtain ⟨⟨char, isFirst, contains⟩, _⟩ := whole.starts_and_ends fromHere.symm nextIsKind
  rw [fromHere, toList_joined_tokensFrom] at ended
  exact ended char isFirst contains

end ReadsWhole

/-! ### The built-in languages -/

/-- The characters with which words start and those with which they go on, in the languages that have
words. -/
def wordSets : List (CharSet × CharSet) :=
  let ofScripts := CharSet.union Shape.letters (.ofList ['_', '$'])
  let ofShells := CharSet.union Shape.letters (.single '_')
  [(ofScripts, .union ofScripts Shape.digits),
   (ofShells, .union (.union Shape.letters Shape.digits) (.single '_')),
   (ofShells, .union (.union Shape.letters Shape.digits) (.ofList ['_', '-']))]

theorem wordSets_within :
    ∀ sets ∈ wordSets, ∀ char, sets.1.contains char → sets.2.contains char := by
  simp only [wordSets, List.forall_mem_cons, CharSet.contains, CharSet.contains_single,
    CharSet.contains_ofList]
  grind

theorem exists_wordSets : ∀ language ∈ builtinLanguages, ∃ sets ∈ wordSets,
    ∀ rule ∈ language.rules, rule.kind = .word → rule.pattern = Shape.wordOf sets.1 sets.2 := by
  decide

theorem eq_blanks : ∀ language ∈ builtinLanguages,
    ∀ rule ∈ language.rules, rule.kind = .whitespace → rule.pattern = Shape.blanks := by
  decide

theorem readsWhole_whitespace (isBuiltin : language ∈ builtinLanguages) :
    language.ReadsWhole .whitespace (.named .blank) := by
  intro rule listed isKind
  rw [eq_blanks language isBuiltin rule listed isKind]
  exact takesWhole_plus_one

/-! ### Called words -/

theorem wordClass?_eq_function_iff {word : String} {after : List Char} :
    language.wordClass? word after = some .function ↔
      ¬Lists language.keywords word ∧ ¬Lists language.builtins word ∧ after.head? = some '(' := by
  rw [wordClass?, Language.isKeyword, Language.isBuiltin, ← knowsWord_iff, ← knowsWord_iff]
  cases knowsWord language.keywords word <;> cases knowsWord language.builtins word <;>
    simp

theorem tokenClass_eq_function_iff (split : language.tokensFrom place = token :: later)
    (isWord : token.kind = some .word) :
    token.tokenClass = some .function ↔
      ¬Lists language.keywords token.text ∧ ¬Lists language.builtins token.text ∧
        ∃ next ∈ later.head?, next.text.toList.head? = some '(' := by
  rcases tokensFrom_eq_cons split with ⟨rule, stop, _, rfl, rfl⟩ | ⟨_, _, _, _, rfl, _⟩
  · have first : (Token.joined (language.tokensFrom stop)).toList.head? = _ :=
      Token.head?_joined fun token member => text_ne_empty_of_mem member
    rw [toList_joined_tokensFrom] at first
    have isClass : (language.tokenOf rule place stop).tokenClass =
        language.wordClass? (language.tokenOf rule place stop).text stop.after :=
      if_pos (Option.some.inj isWord)
    rw [isClass, wordClass?_eq_function_iff, first, Option.bind_eq_some_iff]
    rfl
  · cases isWord

/-! ### Whole tokens -/

/-- A word or white space goes on as far as it can, given the tokens behind it. -/
structure Whole (language : Language) (token : Token) (later : List Token) : Prop where
  apart : token.kind = some .word ∨ token.kind = some .whitespace →
    ∀ next ∈ later.head?, next.kind ≠ token.kind
  /-- With the character behind it a word is no longer read by a rule for words, wherever it
  stands. -/
  wordEnds : token.kind = some .word → ∀ char ∈ (Token.joined later).toList.head?,
    ∀ rule ∈ language.rules, rule.kind = .word →
      ∀ start stop, start.Reads (token.text.toList ++ [char]) stop → stop ∉ rule.pattern.ends start
  whitespaceEnds : token.kind = some .whitespace →
    ∀ char ∈ (Token.joined later).toList.head?, ¬isBlank char
  /-- The token behind a word tells whether it is called. -/
  called : token.kind = some .word →
    (token.tokenClass = some .function ↔
      ¬Lists language.keywords token.text ∧ ¬Lists language.builtins token.text ∧
        ∃ next ∈ later.head?, next.text.toList.head? = some '(')

/-- Words and white space of every text are taken whole in all built-in languages. -/
theorem words_and_whitespace_whole (isBuiltin : language ∈ builtinLanguages) {text : String}
    (split : language.tokens text = earlier ++ token :: later) : language.Whole token later := by
  obtain ⟨place, _, fromPlace⟩ := exists_reads_of_tokensFrom_eq_append split
  have whitespaceWhole := readsWhole_whitespace isBuiltin
  obtain ⟨sets, isSets, wordShape⟩ := exists_wordSets language isBuiltin
  have wordWhole : language.ReadsWhole .word sets.2 := by
    intro rule listed isKind
    rw [wordShape rule listed isKind]
    exact takesWhole_wordOf (wordSets_within sets isSets)
  refine ⟨?_, ?_, ?_, tokenClass_eq_function_iff fromPlace.symm⟩
  · rintro (isWord | isWhitespace) next isNext
    · rw [isWord]
      exact wordWhole.kind_ne fromPlace.symm isWord isNext
    · rw [isWhitespace]
      exact whitespaceWhole.kind_ne fromPlace.symm isWhitespace isNext
  · intro isWord char isFirst rule listed isKind start stop reads
    rw [wordShape rule listed isKind]
    have notEmpty : token.text.toList ≠ [] := by
      simpa using (reads_of_tokensFrom_eq_cons fromPlace.symm).1
    exact not_mem_ends_wordOf reads notEmpty
      ((wordWhole.starts_and_ends fromPlace.symm isWord).2 char isFirst)
  · intro isWhitespace char isFirst
    exact (whitespaceWhole.starts_and_ends fromPlace.symm isWhitespace).2 char isFirst

/-- A called word behind a number that is none, since letters come right behind it. -/
theorem words_and_whitespace_whole_behind_digits :
    let tokens := javaScript.tokens "12ab_1(x)"
    let token : Token := { kind := some .word, text := "ab_1", tokenClass := some .function }
    javaScript ∈ builtinLanguages ∧ tokens = tokens.take 2 ++ token :: tokens.drop 3 ∧
      javaScript.Whole token (tokens.drop 3) := by
  intro tokens token
  have isBuiltin : javaScript ∈ builtinLanguages := by decide
  have split : tokens = tokens.take 2 ++ token :: tokens.drop 3 := by decide +kernel
  exact ⟨isBuiltin, split, words_and_whitespace_whole isBuiltin split⟩

end Language

end FencedCode
