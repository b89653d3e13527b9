import FencedCode.Proofs.Json.Rules
import FencedCode.Proofs.Language.Tokens

/-!
# Documents as they are shown

A scan of a document shows its pieces one by one, blanks run by run, and leaves no character plain.
That holds of a document exactly if the powers of ten in its numbers are written with the small
letter: the scan gets from piece to piece up to a large letter, which no rule takes.
-/

namespace FencedCode.Json

open Pattern

/-! ### What tokens show -/

/-- The token of a piece. -/
def Piece.token (piece : Piece) : Token where
  kind := some piece.kind
  text := String.ofList piece.chars
  tokenClass := piece.kind.tokenClass?

variable {cursor stop : Cursor} {piece : Piece} {pieces run front back : List Piece}
variable {token : Token} {tokens : List Token} {chars more : List Char} {rule : Rule}

/-- A token shows one piece that is no blank, or some blanks together. -/
inductive Shows : Token → List Piece → Prop where
  | piece {piece : Piece} (noBlank : piece.kind ≠ .whitespace) : Shows piece.token [piece]
  | blanks {run : List Piece} (notEmpty : run ≠ []) (isBlank : Blank run) :
      Shows (Piece.token { kind := .whitespace, chars := textOf run }) run

/-- Tokens show all of some pieces in order, and each piece once. -/
inductive Recognises : List Token → List Piece → Prop where
  | nil : Recognises [] []
  | more {token : Token} {tokens : List Token} {run pieces : List Piece}
      (shows : Shows token run) (rest : Recognises tokens pieces) :
      Recognises (token :: tokens) (run ++ pieces)

theorem Recognises.kind_ne_none (recognises : Recognises tokens pieces) :
    ∀ token ∈ tokens, token.kind ≠ none := by
  induction recognises with
  | nil => exact List.forall_mem_nil _
  | more shows _ ih =>
      refine List.forall_mem_cons.mpr ⟨?_, ih⟩
      cases shows <;> simp [Piece.token]

/-- No power of ten is written with the large letter. -/
def SmallLetters (pieces : List Piece) : Prop := ∀ chars, Piece.number chars ∈ pieces → 'E' ∉ chars

theorem smallLetters_append :
    SmallLetters (front ++ back) ↔ SmallLetters front ∧ SmallLetters back := by
  simp only [SmallLetters, List.mem_append, or_imp, forall_and]

theorem Shows.smallLetters (shows : Shows token run) (small : SmallLetters [piece])
    (first : run.head? = some piece) : SmallLetters run := by
  cases shows with
  | piece =>
      cases first
      exact small
  | blanks _ isBlank =>
      intro chars member
      obtain ⟨_, _, same⟩ := isBlank _ member
      cases same

/-! ### The first token -/

theorem tokensFrom_of_prefers (earlier : List Rule) {later : List Rule}
    (declared : Language.json.rules = earlier ++ rule :: later)
    (skipped : ∀ other ∈ earlier, other.pattern.matchEnd? cursor = none)
    (prefers : rule.pattern.Prefers cursor stop) (reads : cursor.Reads chars stop)
    (notEmpty : chars ≠ []) (noWord : rule.kind ≠ .word) :
    Language.json.tokensFrom cursor =
      Piece.token { kind := rule.kind, chars } :: Language.json.tokensFrom stop := by
  have positive := List.length_pos_iff.mpr notEmpty
  have found := prefers.matchEnd?_eq (by rw [reads.size_eq]; omega)
  have first : Language.json.firstMatch? cursor = some (rule, stop) :=
    Language.firstMatch?_eq_some_iff.mpr ⟨earlier, later, declared, skipped, found⟩
  rw [Language.tokensFrom_of_match first, Language.tokenOf, reads.charsTo_eq, Language.classOf?,
    if_neg noWord]
  rfl

/-! ### Places between pieces -/

/-- The pieces are what comes at a place, where they may stand. -/
structure Stands (pieces : List Piece) (cursor : Cursor) : Prop where
  after_eq : cursor.after = textOf pieces
  spaced : Spaced pieces
  /-- A piece that separates nothing must itself be apart from what comes before. -/
  free : (∀ piece ∈ pieces.head?, piece.Separator) ∨ Free cursor

theorem Document.stands (document : Document pieces) :
    Stands pieces (.start (String.ofList (textOf pieces)).toList) where
  after_eq := by rw [Cursor.start_after, String.toList_ofList]
  spaced := document.spaced
  free := .inr rfl

theorem ended_of_separator (toCome : cursor.after = textOf pieces)
    (apart : ∀ next ∈ pieces.head?, next.Separator) : Ended cursor := by
  intro char isFirst
  rw [toCome] at isFirst
  cases pieces with
  | nil => cases isFirst
  | cons next pieces =>
      obtain ⟨separator, isSeparator, single⟩ := (apart next rfl).exists_char
      rw [textOf, List.flatMap_cons, single] at isFirst
      cases isFirst
      exact isSeparator

/-- Behind a piece that separates nothing there is a separator or nothing. -/
theorem Stands.beyond (stands : Stands (piece :: pieces) cursor)
    (noSeparator : ¬piece.Separator) :
    ∃ stop, cursor.Reads piece.chars stop ∧ Free cursor ∧ Ended stop ∧ Stands pieces stop := by
  obtain ⟨stop, reads, stopAfter⟩ := Cursor.exists_reads stands.after_eq
  have apart : (∀ next ∈ pieces.head?, next.Separator) ∧ Spaced pieces := by
    cases stands.spaced with
    | separator separates _ => exact absurd separates noSeparator
    | other _ apart spaced => exact ⟨apart, spaced⟩
  have free : Free cursor :=
    stands.free.resolve_left fun separators => noSeparator (separators piece rfl)
  exact ⟨stop, reads, free, ended_of_separator stopAfter apart.1, stopAfter, apart.2, .inl apart.1⟩

/-- Behind separators any piece may stand. -/
theorem Stands.beyond_separators (stands : Stands (run ++ pieces) cursor) (notEmpty : run ≠ [])
    (separators : ∀ piece ∈ run, piece.Separator) :
    ∃ stop, cursor.Reads (textOf run) stop ∧ Stands pieces stop := by
  have toCome : cursor.after = textOf run ++ textOf pieces := by
    rw [stands.after_eq, textOf, List.flatMap_append]
    rfl
  obtain ⟨stop, reads, stopAfter⟩ := Cursor.exists_reads toCome
  refine ⟨stop, reads, stopAfter, stands.spaced.behind, .inr ?_⟩
  obtain ⟨front, last, rfl⟩ := (List.eq_nil_or_concat run).resolve_left notEmpty
  obtain ⟨char, isSeparator, single⟩ := (separators last (by simp)).exists_char
  have noWords : ∀ char ∈ marks ++ blanks, Text.isAsciiWord char = false := by decide
  have isLast : (textOf (front.concat last)).getLast? = some char := by
    simp [textOf, single]
  rw [Free, reads.before_eq, isLast, Option.some_or, Option.any_some]
  exact noWords char isSeparator

/-! ### First characters -/

/-- The characters with which pieces of a kind begin. -/
def openings : TokenKind → List Char
  | .string => ['"']
  | .number => '-' :: decimalDigits
  | .keyword => ['t', 'f', 'n']
  | .punctuation => marks
  | .whitespace => blanks
  | _ => []

theorem Number.exists_first (number : Number chars) :
    ∃ first ∈ openings .number, chars.head? = some first := by
  obtain ⟨isSign, isWhole, _, _⟩ := number
  simp only [List.mem_cons, List.not_mem_nil, or_false] at isSign
  rcases isSign with rfl | rfl
  · cases isWhole with
    | zero => exact ⟨'0', by decide, rfl⟩
    | @other first _ _ digits =>
        have isDigit := digits first (List.mem_cons_self ..)
        exact ⟨first, List.mem_cons_of_mem _ isDigit, rfl⟩
  · exact ⟨'-', by decide, rfl⟩

theorem Piece.Lexical.exists_first (lexical : piece.Lexical) :
    ∃ first ∈ openings piece.kind, piece.chars.head? = some first := by
  cases lexical with
  | string => exact ⟨'"', List.mem_singleton_self _, rfl⟩
  | number isNumber => exact isNumber.exists_first
  | name isName =>
      simp only [names, List.mem_cons, List.not_mem_nil, or_false] at isName
      rcases isName with rfl | rfl | rfl <;> exact ⟨_, by decide, rfl⟩
  | mark isMark => exact ⟨_, isMark, rfl⟩
  | blank isBlank => exact ⟨_, isBlank, rfl⟩

theorem Piece.Lexical.chars_ne_nil (lexical : piece.Lexical) : piece.chars ≠ [] := by
  obtain ⟨first, _, isFirst⟩ := lexical.exists_first
  intro isEmpty
  simp [isEmpty] at isFirst

theorem Stands.exists_first (stands : Stands (piece :: pieces) cursor) :
    ∃ first ∈ openings piece.kind, cursor.after.head? = some first := by
  obtain ⟨first, isOpening, isFirst⟩ :=
    (stands.spaced.lexical piece (List.mem_cons_self ..)).exists_first
  refine ⟨first, isOpening, ?_⟩
  rw [stands.after_eq, textOf, List.flatMap_cons, List.head?_append, isFirst, Option.some_or]

/-! ### From piece to piece -/

theorem skipped_before_number {char : Char} (isOpening : char ∈ openings .number)
    (isFirst : cursor.after.head? = some char) :
    ∀ rule ∈ [stringRule], rule.pattern.matchEnd? cursor = none := by
  have foreign : ∀ char ∈ openings .number, '"' ≠ char := by decide
  exact List.forall_mem_singleton.mpr (string_skipped isFirst (foreign char isOpening))

theorem skipped_before_name {char : Char} (isOpening : char ∈ openings .keyword)
    (isFirst : cursor.after.head? = some char) :
    ∀ rule ∈ [stringRule, numberRule], rule.pattern.matchEnd? cursor = none := by
  have foreign : ∀ char ∈ openings .keyword, '"' ≠ char ∧ ¬Numeral char := by
    unfold Numeral
    decide
  obtain ⟨noQuote, noNumeral⟩ := foreign char isOpening
  have skipped := matchEnd?_eq_none_of_consumesOnly number_consumesOnly isFirst noNumeral
  simp [string_skipped isFirst noQuote, skipped]

theorem skipped_before_separator {char : Char} (isOpening : char ∈ marks ++ blanks)
    (isFirst : cursor.after.head? = some char) :
    ∀ rule ∈ [stringRule, numberRule, nameRule], rule.pattern.matchEnd? cursor = none := by
  have foreign : ∀ char ∈ marks ++ blanks,
      '"' ≠ char ∧ ¬Numeral char ∧ char ∉ names.flatten := by
    unfold Numeral
    decide
  obtain ⟨noQuote, noNumeral, noName⟩ := foreign char isOpening
  have skippedNumber := matchEnd?_eq_none_of_consumesOnly number_consumesOnly isFirst noNumeral
  have skippedName := matchEnd?_eq_none_of_consumesOnly name_consumesOnly isFirst noName
  simp [string_skipped isFirst noQuote, skippedNumber, skippedName]

theorem Stands.tokensFrom_piece (stands : Stands (piece :: pieces) cursor)
    (small : SmallLetters [piece]) (noBlank : piece.kind ≠ .whitespace) :
    ∃ stop, Language.json.tokensFrom cursor = piece.token :: Language.json.tokensFrom stop ∧
      Stands pieces stop := by
  obtain ⟨first, isOpening, isFirst⟩ := stands.exists_first
  have lexical := stands.spaced.lexical piece (List.mem_cons_self ..)
  have notEmpty := lexical.chars_ne_nil
  cases lexical with
  | string quotable =>
      obtain ⟨stop, reads, _, _, beyond⟩ := stands.beyond nofun
      have read := prefers_string quotable reads
      exact ⟨stop, tokensFrom_of_prefers [] rules_json nofun read reads notEmpty nofun, beyond⟩
  | number isNumber =>
      obtain ⟨stop, reads, free, ended, beyond⟩ := stands.beyond nofun
      have read := prefers_number isNumber (small _ (by simp)) reads free ended
      have skipped := skipped_before_number isOpening isFirst
      exact ⟨stop, tokensFrom_of_prefers _ rules_json skipped read reads notEmpty nofun, beyond⟩
  | name isName =>
      obtain ⟨stop, reads, free, ended, beyond⟩ := stands.beyond nofun
      have read := prefers_name isName reads free ended
      have skipped := skipped_before_name isOpening isFirst
      exact ⟨stop, tokensFrom_of_prefers _ rules_json skipped read reads notEmpty nofun, beyond⟩
  | @mark char isMark =>
      obtain ⟨stop, reads, beyond⟩ := @Stands.beyond_separators _ pieces [.mark char] stands nofun
        (List.forall_mem_singleton.mpr (.mark isMark))
      have read := prefers_mark isMark reads
      have skipped := skipped_before_separator (List.mem_append_left _ isOpening) isFirst
      exact ⟨stop, tokensFrom_of_prefers _ rules_json skipped read reads notEmpty nofun, beyond⟩
  | blank => exact absurd rfl noBlank

theorem Blank.mem_blanks (isBlank : Blank run) : ∀ char ∈ textOf run, char ∈ blanks := by
  intro char member
  obtain ⟨piece, isPiece, isChar⟩ := List.mem_flatMap.mp member
  obtain ⟨found, known, rfl⟩ := isBlank piece isPiece
  exact List.mem_singleton.mp isChar ▸ known

/-- Behind a run of blanks there is something else or nothing. -/
theorem Stands.no_blank_next (stands : Stands pieces cursor)
    (ended : ∀ next ∈ pieces.head?, next.kind ≠ .whitespace) :
    ∀ char ∈ cursor.after.head?, ¬(CharSet.named .blank).contains char = true := by
  intro char found
  cases pieces with
  | nil =>
      rw [stands.after_eq] at found
      cases found
  | cons next pieces =>
      have noBlanks : ∀ kind ∈ TokenKind.all, kind ≠ .whitespace →
          ∀ char ∈ openings kind, ¬(CharSet.named .blank).contains char = true := by decide
      obtain ⟨first, isOpening, isFirst⟩ := stands.exists_first
      cases isFirst.symm.trans found
      exact noBlanks next.kind next.kind.mem_all (ended next rfl) _ isOpening

theorem Stands.tokensFrom_blanks (stands : Stands (run ++ pieces) cursor) (notEmpty : run ≠ [])
    (isBlank : Blank run) (ended : ∀ next ∈ pieces.head?, next.kind ≠ .whitespace) :
    ∃ stop, Language.json.tokensFrom cursor =
        Piece.token { kind := .whitespace, chars := textOf run } ::
          Language.json.tokensFrom stop ∧
      Stands pieces stop := by
  obtain ⟨stop, reads, beyond⟩ := stands.beyond_separators notEmpty isBlank.separators
  obtain ⟨first, more, rfl⟩ := List.exists_cons_of_ne_nil notEmpty
  obtain ⟨char, known, rfl⟩ := isBlank first (List.mem_cons_self ..)
  have isFirst : cursor.after.head? = some char := by
    rw [stands.after_eq]
    rfl
  have charsNotEmpty : textOf (Piece.blank char :: more) ≠ [] := List.cons_ne_nil char (textOf more)
  have read := prefers_blanks charsNotEmpty isBlank.mem_blanks reads (beyond.no_blank_next ended)
  have skipped : ∀ rule ∈ [stringRule, numberRule, nameRule, markRule],
      rule.pattern.matchEnd? cursor = none := by
    have noMarks : ∀ char ∈ blanks, char ∉ marks := by decide
    have skippedMark := matchEnd?_eq_none_of_consumesOnly mark_consumesOnly isFirst
      (noMarks char known)
    have skippedOthers := skipped_before_separator (List.mem_append_right _ known) isFirst
    exact List.forall_mem_append.mpr
      ⟨skippedOthers, List.forall_mem_singleton.mpr skippedMark⟩
  exact ⟨stop, tokensFrom_of_prefers _ rules_json skipped read reads charsNotEmpty nofun, beyond⟩

theorem Piece.Lexical.exists_blank (lexical : piece.Lexical) (isBlank : piece.kind = .whitespace) :
    ∃ char ∈ blanks, piece = .blank char := by
  cases lexical with
  | blank known => exact ⟨_, known, rfl⟩
  | string | number | name | mark => cases isBlank

/-- The blanks at the front of some pieces. -/
theorem exists_run (lexical : ∀ piece ∈ pieces, piece.Lexical) :
    ∃ run rest, pieces = run ++ rest ∧ Blank run ∧
      ∀ next ∈ rest.head?, next.kind ≠ .whitespace := by
  induction pieces with
  | nil => exact ⟨[], [], rfl, List.forall_mem_nil _, nofun⟩
  | cons piece pieces ih =>
      obtain ⟨here, others⟩ := List.forall_mem_cons.mp lexical
      by_cases isBlank : piece.kind = .whitespace
      · obtain ⟨run, rest, rfl, blanks, ended⟩ := ih others
        have allBlank : Blank (piece :: run) :=
          List.forall_mem_cons.mpr ⟨here.exists_blank isBlank, blanks⟩
        exact ⟨piece :: run, rest, rfl, allBlank, ended⟩
      · refine ⟨[], piece :: pieces, rfl, List.forall_mem_nil _, ?_⟩
        intro next isFirst
        cases isFirst
        exact isBlank

/-- A scan gets on at a place where some pieces stand, unless the first of them is a number with a
large letter. -/
theorem Stands.step (stands : Stands (piece :: pieces) cursor) (small : SmallLetters [piece]) :
    ∃ token run rest stop, pieces = run ++ rest ∧ Shows token (piece :: run) ∧
      Language.json.tokensFrom cursor = token :: Language.json.tokensFrom stop ∧
      Stands rest stop := by
  by_cases isBlank : piece.kind = .whitespace
  · obtain ⟨here, others⟩ := List.forall_mem_cons.mp stands.spaced.lexical
    obtain ⟨run, rest, rfl, blanks, ended⟩ := exists_run others
    have allBlank : Blank (piece :: run) :=
      List.forall_mem_cons.mpr ⟨here.exists_blank isBlank, blanks⟩
    obtain ⟨stop, first, beyond⟩ :=
      @Stands.tokensFrom_blanks _ rest (piece :: run) stands nofun allBlank ended
    exact ⟨_, run, rest, stop, rfl, .blanks nofun allBlank, first, beyond⟩
  · obtain ⟨stop, first, beyond⟩ := stands.tokensFrom_piece small isBlank
    exact ⟨piece.token, [], pieces, stop, rfl, .piece isBlank, first, beyond⟩

/-! ### Large letters -/

/-- Outside of strings no rule takes a large letter. -/
theorem not_mem_of_firstMatch? (found : Language.json.firstMatch? cursor = some (rule, stop))
    (noString : stringRule.pattern.matchEnd? cursor = none) (reads : cursor.Reads chars stop) :
    'E' ∉ chars := by
  obtain ⟨earlier, later, declared, _, isMatch⟩ := Language.firstMatch?_eq_some_iff.mp found
  have member : rule ∈ stringRule :: [numberRule, nameRule, markRule, blankRule] := by
    rw [← rules_json, declared]
    exact List.mem_append_right _ (List.mem_cons_self ..)
  cases List.mem_cons.mp member with
  | inl isString =>
      rw [isString, noString] at isMatch
      cases isMatch
  | inr isOther =>
      obtain ⟨allowed, consumes, foreign⟩ := exists_consumesOnly isOther
      obtain ⟨covered, readsMatch, all⟩ := (matches_of_matchEnd? isMatch).exists_reads consumes
      rw [← reads.charsTo_eq, readsMatch.charsTo_eq]
      exact fun isLarge => foreign (all _ isLarge)

theorem string_skipped_before_large (noQuote : '"' ∉ chars)
    (toCome : cursor.after = chars ++ 'E' :: more) :
    stringRule.pattern.matchEnd? cursor = none := by
  cases chars with
  | nil =>
      have first : cursor.after.head? = some 'E' := by
        rw [toCome]
        rfl
      exact string_skipped first (by decide)
  | cons char chars =>
      have first : cursor.after.head? = some char := by
        rw [toCome]
        rfl
      exact string_skipped first (List.ne_of_not_mem_cons noQuote)

/-- What has been read without a large letter lies before the first one. -/
theorem exists_between_large {covered rest : List Char}
    (same : covered ++ rest = chars ++ 'E' :: more) (small : 'E' ∉ covered) :
    ∃ between, chars = covered ++ between ∧ rest = between ++ 'E' :: more := by
  rcases List.append_eq_append_iff.mp same with
    ⟨between, isChars, isRest⟩ | ⟨beyond, isCovered, isMore⟩
  · exact ⟨between, isChars, isRest⟩
  · cases beyond with
    | nil =>
        rw [List.append_nil] at isCovered
        exact ⟨[], by rw [isCovered, List.append_nil], isMore.symm⟩
    | cons char beyond =>
        cases isMore
        rw [isCovered] at small
        simp at small

/-- A large letter outside of strings is plain, or something before it is. -/
theorem exists_plain_of_large (noQuote : '"' ∉ chars)
    (toCome : cursor.after = chars ++ 'E' :: more) :
    ∃ token ∈ Language.json.tokensFrom cursor, token.kind = none := by
  -- The induction is on the tokens: one that has a kind ends before the letter.
  generalize split : Language.json.tokensFrom cursor = tokens
  induction tokens generalizing chars cursor with
  | nil =>
      rw [Language.tokensFrom_eq_nil_iff.mp split] at toCome
      simp at toCome
  | cons token tokens ih =>
      rcases Language.tokensFrom_eq_cons split with
        ⟨rule, stop, found, _, rest⟩ | ⟨_, char, _, _, rfl, _⟩
      · obtain ⟨covered, _, reads⟩ :=
          exists_reads_of_matchEnd? (Language.firstMatch?_eq_some found)
        have noString := string_skipped_before_large noQuote toCome
        have small := not_mem_of_firstMatch? found noString reads
        obtain ⟨between, rfl, stillToCome⟩ :=
          exists_between_large (reads.after_eq.symm.trans toCome) small
        rw [List.mem_append, not_or] at noQuote
        obtain ⟨plain, member, noKind⟩ := ih noQuote.2 stillToCome rest.symm
        exact ⟨plain, List.mem_cons_of_mem _ member, noKind⟩
      · exact ⟨.plain char, List.mem_cons_self .., rfl⟩

theorem Number.not_mem_quote (number : Number chars) : '"' ∉ chars := by
  intro isQuote
  have noQuote : '"' ∉ numberChars := by decide
  exact noQuote (number.forall_mem _ isQuote)

/-! ### Whole scans -/

/-- What a scan makes of some pieces: it shows them up to their end, or gets stuck at a number with
a large letter. -/
inductive Scan : List Token → List Piece → Prop where
  | ended : Scan [] []
  | shown {token : Token} {tokens : List Token} {run rest : List Piece}
      (shows : Shows token run) (small : SmallLetters run) (scan : Scan tokens rest) :
      Scan (token :: tokens) (run ++ rest)
  | stuck {chars : List Char} {tokens : List Token} {rest : List Piece} (large : 'E' ∈ chars)
      (plain : ∃ token ∈ tokens, token.kind = none) : Scan tokens (.number chars :: rest)

theorem Stands.scan (stands : Stands pieces cursor) :
    Scan (Language.json.tokensFrom cursor) pieces := by
  induction bound : pieces.length using Nat.strongRecOn generalizing pieces cursor with
  | ind length ih =>
  cases pieces with
  | nil =>
      rw [Language.tokensFrom_of_after_eq_nil stands.after_eq]
      exact .ended
  | cons piece pieces =>
      by_cases small : SmallLetters [piece]
      · obtain ⟨token, run, rest, stop, rfl, shows, first, beyond⟩ := stands.step small
        rw [first, ← List.cons_append]
        have shorter : rest.length < length := by
          rw [← bound, List.length_cons, List.length_append]
          omega
        exact .shown shows (shows.smallLetters small rfl) (ih rest.length shorter beyond rfl)
      · -- No quote comes before the letter, for it stands in the number that comes first.
        obtain ⟨chars, rfl, large⟩ : ∃ chars, piece = Piece.number chars ∧ 'E' ∈ chars := by
          simpa [SmallLetters, eq_comm] using small
        obtain ⟨front, back, rfl⟩ := List.append_of_mem large
        have toCome : cursor.after = front ++ 'E' :: (back ++ textOf pieces) := by
          rw [stands.after_eq]
          simp [textOf, Piece.number]
        have isNumber : Number (front ++ 'E' :: back) := by
          cases stands.spaced.lexical _ (List.mem_cons_self ..)
          assumption
        have noQuote := isNumber.not_mem_quote
        rw [List.mem_append, not_or] at noQuote
        exact .stuck large (exists_plain_of_large noQuote.1 toCome)

theorem Scan.recognises (scan : Scan tokens pieces) (small : SmallLetters pieces) :
    Recognises tokens pieces := by
  induction scan with
  | ended => exact .nil
  | shown shows _ _ ih => exact .more shows (ih (smallLetters_append.mp small).2)
  | stuck large _ => exact absurd large (small _ (List.mem_cons_self ..))

theorem Scan.exists_plain (scan : Scan tokens pieces) (large : ¬SmallLetters pieces) :
    ∃ token ∈ tokens, token.kind = none := by
  induction scan with
  | ended => exact absurd nofun large
  | shown _ small _ ih =>
      obtain ⟨plain, member, noKind⟩ := ih fun smallRest =>
        large (smallLetters_append.mpr ⟨small, smallRest⟩)
      exact ⟨plain, List.mem_cons_of_mem _ member, noKind⟩
  | stuck _ plain => exact plain

/-- A document is shown piece by piece, without a plain character, exactly if its powers of ten are
written with the small letter. -/
theorem recognises_tokens_iff (document : Document pieces) :
    let tokens := Language.json.tokens (String.ofList (textOf pieces))
    (Recognises tokens pieces ↔ SmallLetters pieces) ∧
      ((∀ token ∈ tokens, token.kind ≠ none) ↔ SmallLetters pieces) := by
  intro tokens
  have scan : Scan tokens pieces := document.stands.scan
  have small : (∀ token ∈ tokens, token.kind ≠ none) → SmallLetters pieces := by
    intro allKinds
    apply Classical.byContradiction
    intro large
    obtain ⟨plain, member, noKind⟩ := scan.exists_plain large
    exact allKinds plain member noKind
  constructor
  · exact ⟨fun recognises => small recognises.kind_ne_none, scan.recognises⟩
  · exact ⟨small, fun isSmall => (scan.recognises isSmall).kind_ne_none⟩

/-- An object with an escape, a small letter and two blanks in a row. -/
theorem recognises_tokens_iff_object :
    let pieces : List Piece :=
      [.mark '\x7b', .string ['k', '\\', 'n'], .mark ':', .mark '[',
       .number ['-', '0', '.', '5', 'e', '+', '2'], .mark ',', .blank '\n', .blank ' ',
       .name "null".toList, .mark ']', .mark '\x7d']
    let tokens := Language.json.tokens (String.ofList (textOf pieces))
    Document pieces ∧ SmallLetters pieces ∧ Recognises tokens pieces ∧
      ∀ token ∈ tokens, token.kind ≠ none := by
  intro pieces tokens
  have quotable : Quotable ['k', '\\', 'n'] :=
    .plain (by decide) (by decide) (.escape (by decide) .nil)
  have number : Number ['-', '0', '.', '5', 'e', '+', '2'] :=
    @Number.intro ['-'] ['0'] ['.', '5'] ['e', '+', '2'] (by decide) .zero
      (.some ⟨nofun, by decide⟩)
      (@Exponent.some 'e' ['+'] ['2'] (by decide) (by decide) ⟨nofun, by decide⟩)
  have comma : Mark ',' [.mark ',', .blank '\n', .blank ' '] :=
    @Mark.intro ',' [] [.blank '\n', .blank ' '] (List.forall_mem_nil _)
      (by simp [Blank, blanks, Piece.blank])
  have null : Derives .value [.name "null".toList] := .name (by simp [names])
  have items := Derives.moreValues (.number number) comma (.oneValue null)
  have array := Derives.array (.alone '[') items (.alone ']')
  have member := Derives.member quotable (.alone ':') array
  have object := Derives.object (.alone '\x7b') (.oneMember member) (.alone '\x7d')
  have document : Document pieces := object.document
  have small : SmallLetters pieces := by
    intro chars isNumber
    have only : chars = ['-', '0', '.', '5', 'e', '+', '2'] := by
      simpa [pieces, Piece.number, Piece.mark, Piece.string, Piece.blank, Piece.name] using isNumber
    rw [only]
    decide
  have shown := recognises_tokens_iff document
  exact ⟨document, small, shown.1.mpr small, shown.2.mpr small⟩

theorem large_letter_plain :
    let pieces : List Piece := [.mark '[', .number ['1', 'E', '5'], .mark ']']
    Document pieces ∧
      Language.json.tokens (String.ofList (textOf pieces)) =
        [(Piece.mark '[').token, .plain '1', .plain 'E', .plain '5', (Piece.mark ']').token] := by
  intro pieces
  have number : Number ['1', 'E', '5'] :=
    @Number.intro [] ['1'] [] ['E', '5'] (by decide) (.other (by decide) (by decide)) .none
      (@Exponent.some 'E' [] ['5'] (by decide) (by decide) ⟨nofun, by decide⟩)
  have array := Derives.array (.alone '[') (.oneValue (.number number)) (.alone ']')
  have document : Document pieces := array.document
  exact ⟨document, by decide +kernel⟩

end FencedCode.Json
