import FencedCode.Proofs.Language.Dialects
import FencedCode.Proofs.Pattern.Backtracking
import FencedCode.Proofs.Pattern.FirstCharacter
import FencedCode.Proofs.Pattern.Preference
import Mathlib.Data.List.TakeWhile

/-!
# Literals and comments of scripts

Strings and comments are found by patterns that may go back and try again.  What they find can be
told by a scanner that reads on once and never goes back: where it gets stuck in a string, no other
way to read the string works either.  No rule but the one for the literal gets a chance where a
literal starts.
-/

namespace FencedCode

/-! ### Scanners -/

namespace Text

/-- The rest of a text in quotes up to the quote that ends it.  A backslash is skipped together with
the character behind it, which must be there and not be a line feed. -/
def throughQuote? (quote : Char) : List Char → Option (List Char)
  | [] | ['\\'] => none
  | '\\' :: char :: rest =>
    if char = '\n' then none
    else (throughQuote? quote rest).map fun inside => '\\' :: char :: inside
  | char :: rest =>
    if char = quote then some [quote] else (throughQuote? quote rest).map (char :: ·)

/-- A text up to the end of the first occurrence of a mark. -/
def through? (mark : List Char) (chars : List Char) : Option (List Char) :=
  if mark <+: chars then some mark
  else
    match chars with
    | [] => none
    | char :: rest => (through? mark rest).map (char :: ·)

end Text

open Text

/-- `place.Scans scanned ended`: a scanner and a pattern agree from a place on.  Either the scanner
gives the characters up to the end that is found for the pattern, or both give nothing. -/
inductive Cursor.Scans (place : Cursor) : Option (List Char) → Option Cursor → Prop where
  | found {inside : List Char} {stop : Cursor} (reads : place.Reads inside stop) :
      Scans place (some inside) (some stop)
  | nothing : Scans place none none

/-- They agree one character before, if they both go on behind it. -/
theorem Cursor.Scans.cons {place next : Cursor} {char : Char} {scanned : Option (List Char)}
    {ended : Option Cursor} (scans : next.Scans scanned ended)
    (read : place.next? = some (char, next)) : place.Scans (scanned.map (char :: ·)) ended := by
  cases scans with
  | found reads => exact .found (.step read reads)
  | nothing => exact .nothing

namespace Pattern

variable {α : Type} {onward : Cursor → Option α} {pattern : Pattern}
variable {place middle next stop : Cursor} {quote char : Char}

theorem search_eq_none_of_not_canStartWith (noEmpty : pattern.canBeEmpty = false)
    (noStart : ∀ char ∈ place.after.head?, pattern.canStartWith char = false) :
    pattern.search onward place = none :=
  search_eq_none fun _ isMatch => absurd isMatch (not_matches_of_not_canStartWith noEmpty noStart)

/-- One character between quotes, or a backslash with the character behind it. -/
def quotable (quote : Char) : Pattern :=
  alt (one (.complement (.ofList [quote, '\\']))) (seq (one (.single '\\')) dotChar)

theorem consumes_quotable : (quotable quote).Consumes :=
  .alt (consumes_one _) (.seq (consumes_one _))

theorem search_quotable_of_plain (read : place.next? = some (char, next)) (noQuote : char ≠ quote)
    (noBackslash : char ≠ '\\') : (quotable quote).search onward place = onward next := by
  have contains : (CharSet.complement (.ofList [quote, '\\'])).contains char := by
    simp [CharSet.contains, noQuote, noBackslash]
  have noEscape : (seq (one (.single '\\')) dotChar).search onward place = none := by
    apply search_eq_none_of_not_canStartWith rfl
    rw [Cursor.head?_after_of_next? read]
    rintro other ⟨⟩
    simp [canStartWith, canBeEmpty, Ne.symm noBackslash]
  rw [quotable, search_alt, search_one_of_contains read contains, noEscape, Option.or_none]

theorem search_quotable_of_backslash (read : place.next? = some ('\\', middle)) :
    (quotable quote).search onward place = dotChar.search onward middle := by
  have noPlain : (one (.complement (.ofList [quote, '\\']))).search onward place = none := by
    apply search_eq_none_of_not_canStartWith rfl
    rw [Cursor.head?_after_of_next? read]
    rintro other ⟨⟩
    simp [canStartWith, CharSet.contains]
  rw [quotable, search_alt, noPlain, Option.none_or, search_seq,
    search_one_of_contains read (by decide)]

/-- At a quote that ends the text in quotes, and at the end of all text, nothing comes between the
quotes. -/
theorem search_quotable_eq_none (noBackslash : quote ≠ '\\')
    (ended : ∀ char ∈ place.after.head?, char = quote) :
    (quotable quote).search onward place = none := by
  apply search_eq_none_of_not_canStartWith rfl
  intro char isFirst
  cases ended char isFirst
  simp [quotable, canStartWith, canBeEmpty, CharSet.contains, Ne.symm noBackslash]

/-- The quote that ends the text, if it comes. -/
def endOfQuotes (quote : Char) : Cursor → Option Cursor := (one (.single quote)).search some

theorem endOfQuotes_eq_none (missing : quote ∉ place.after.head?) :
    endOfQuotes quote place = none := by
  apply search_one_eq_none
  intro char isFirst
  rw [CharSet.contains_single, decide_eq_true_eq]
  rintro rfl
  exact missing isFirst

/-- The rest of a text in quotes. -/
def restOfQuotes (quote : Char) : Cursor → Option Cursor :=
  (star (quotable quote)).search (endOfQuotes quote)

theorem restOfQuotes_of_plain (read : place.next? = some (char, next)) (noQuote : char ≠ quote)
    (noBackslash : char ≠ '\\') : restOfQuotes quote place = restOfQuotes quote next := by
  have goesOn : quote ∉ place.after.head? := by
    simpa [Cursor.head?_after_of_next? read] using noQuote
  rw [restOfQuotes, search_star consumes_quotable, search_quotable_of_plain read noQuote noBackslash,
    endOfQuotes_eq_none goesOn, Option.or_none]

theorem restOfQuotes_of_backslash (noBackslash : quote ≠ '\\')
    (read : place.next? = some ('\\', middle)) :
    restOfQuotes quote place = dotChar.search (restOfQuotes quote) middle := by
  have goesOn : quote ∉ place.after.head? := by
    simpa [Cursor.head?_after_of_next? read] using Ne.symm noBackslash
  rw [restOfQuotes, search_star consumes_quotable, search_quotable_of_backslash read,
    endOfQuotes_eq_none goesOn, Option.or_none]

theorem restOfQuotes_of_ended (noBackslash : quote ≠ '\\')
    (ended : ∀ char ∈ place.after.head?, char = quote) :
    restOfQuotes quote place = endOfQuotes quote place := by
  rw [restOfQuotes, search_star consumes_quotable, search_quotable_eq_none noBackslash ended,
    Option.none_or]

theorem search_dotChar_of_ne (read : place.next? = some (char, next)) (sameLine : char ≠ '\n') :
    dotChar.search onward place = onward next := by
  apply search_one_of_contains read
  simp [CharSet.contains, sameLine]

theorem search_dotChar_eq_none (ended : ∀ char ∈ place.after.head?, char = '\n') :
    dotChar.search onward place = none := by
  apply search_one_eq_none
  intro char isFirst
  simp [CharSet.contains, ended char isFirst]

/-- The rest of a text in quotes is found as a scanner finds it that never goes back. -/
theorem scans_restOfQuotes (noBackslash : quote ≠ '\\') {chars : List Char}
    (toCome : place.after = chars) :
    place.Scans (throughQuote? quote chars) (restOfQuotes quote place) := by
  fun_induction throughQuote? quote chars generalizing place with
  | case1 =>
      rw [restOfQuotes_of_ended noBackslash (by simp [toCome]),
        endOfQuotes_eq_none (by simp [toCome])]
      exact .nothing
  | case2 =>
      obtain ⟨middle, read, _, middleAfter⟩ := Cursor.exists_next toCome
      rw [restOfQuotes_of_backslash noBackslash read, search_dotChar_eq_none (by simp [middleAfter])]
      exact .nothing
  | case3 rest =>
      obtain ⟨middle, read, _, middleAfter⟩ := Cursor.exists_next toCome
      rw [restOfQuotes_of_backslash noBackslash read, search_dotChar_eq_none (by simp [middleAfter])]
      exact .nothing
  | case4 char rest sameLine ih =>
      obtain ⟨middle, read, _, middleAfter⟩ := Cursor.exists_next toCome
      obtain ⟨next, readEscaped, _, nextAfter⟩ := Cursor.exists_next middleAfter
      have scans := ((ih nextAfter).cons readEscaped).cons read
      rw [Option.map_map] at scans
      rw [restOfQuotes_of_backslash noBackslash read, search_dotChar_of_ne readEscaped sameLine]
      exact scans
  | case5 rest =>
      obtain ⟨next, read, _, _⟩ := Cursor.exists_next toCome
      have ended : ∀ char ∈ place.after.head?, char = quote := by simp [toCome]
      rw [restOfQuotes_of_ended noBackslash ended, endOfQuotes,
        search_one_of_contains read (by simp)]
      exact .found (.step read (.stay next))
  | case6 char rest notLast notFollowed noQuote ih =>
      obtain ⟨next, read, _, nextAfter⟩ := Cursor.exists_next toCome
      have plain : char ≠ '\\' := by
        rintro rfl
        cases rest with
        | nil => exact notLast rfl rfl
        | cons char rest => exact notFollowed char rest rfl rfl
      rw [restOfQuotes_of_plain read noQuote plain]
      exact (ih nextAfter).cons read

theorem consumes_literal {chars : List Char} (notEmpty : chars ≠ []) : (literal chars).Consumes := by
  obtain ⟨char, rest, rfl⟩ := List.exists_cons_of_ne_nil notEmpty
  exact .seq (consumes_one _)

/-- The rest of a text that goes on to a mark. -/
def restThrough (mark : List Char) : Cursor → Option Cursor :=
  (lazyStar anyChar).search ((literal mark).search some)

theorem search_literal_eq_none {mark : List Char} (missing : ¬mark <+: place.after) :
    (literal mark).search onward place = none := by
  apply search_eq_none
  intro stop isMatch
  exact absurd ⟨stop.after, isMatch.reads_literal.after_eq.symm⟩ missing

theorem restThrough_eq {mark : List Char} : restThrough mark place =
    ((literal mark).search some place).or (anyChar.search (restThrough mark) place) :=
  search_lazyStar (consumes_one _)

/-- The first mark is the one that ends the text. -/
theorem scans_restThrough {mark chars : List Char} (toCome : place.after = chars) :
    place.Scans (through? mark chars) (restThrough mark place) := by
  fun_induction through? mark chars generalizing place with
  | case1 chars comes =>
      obtain ⟨back, split⟩ := comes
      obtain ⟨behind, reads, _⟩ := Cursor.exists_reads (toCome.trans split.symm)
      rw [restThrough_eq, search_literal_of_reads reads, Option.some_or]
      exact .found reads
  | case2 missing =>
      rw [restThrough_eq, search_literal_eq_none (toCome ▸ missing), anyChar,
        search_one_eq_none (by simp [toCome])]
      exact .nothing
  | case3 char rest missing ih =>
      obtain ⟨next, read, _, nextAfter⟩ := Cursor.exists_next toCome
      rw [restThrough_eq, search_literal_eq_none (toCome ▸ missing), Option.none_or, anyChar,
        search_one_of_contains read rfl]
      exact (ih nextAfter).cons read

end Pattern

open Pattern

/-! ### Matches -/

section Matches

variable {place next : Cursor} {quote : Char}

theorem matchEnd?_quoted (read : place.next? = some (quote, next)) :
    (Shape.quoted quote).matchEnd? place = restOfQuotes quote next := by
  have consumes : (Shape.quoted quote).Consumes := .seq (.seq (consumes_one _))
  rw [consumes.matchEnd?_eq_search, Shape.quoted, sequenceOf, List.foldl_cons, List.foldl_cons,
    List.foldl_nil, search_seq, search_seq, search_one_of_contains read (by simp)]
  rfl

theorem matchEnd?_delimited {opening closing : String} (notEmpty : opening.toList ≠ [])
    (reads : place.Reads opening.toList next) :
    (Shape.delimited opening closing).matchEnd? place = restThrough closing.toList next := by
  have consumes : (Shape.delimited opening closing).Consumes :=
    .seq (.seq (consumes_literal notEmpty))
  rw [consumes.matchEnd?_eq_search, Shape.delimited, sequenceOf, List.foldl_cons, List.foldl_cons,
    List.foldl_nil, search_seq, search_seq, text, search_literal_of_reads reads]
  rfl

theorem exists_matchEnd?_lineComment {opening : String} (notEmpty : opening.toList ≠ [])
    (reads : place.Reads opening.toList next) :
    ∃ stop, (Shape.lineComment opening).matchEnd? place = some stop ∧
      next.Reads (next.after.takeWhile (· ≠ '\n')) stop := by
  have split : next.after = next.after.takeWhile (· ≠ '\n') ++ next.after.dropWhile (· ≠ '\n') :=
    List.takeWhile_append_dropWhile.symm
  obtain ⟨stop, readsLine, stopAfter⟩ := Cursor.exists_reads split
  refine ⟨stop, ?_, readsLine⟩
  have line : ∀ char ∈ next.after.takeWhile (· ≠ '\n'),
      (CharSet.complement (.ofList "\n".toList)).contains char := by
    intro char member
    simpa [CharSet.contains] using List.mem_takeWhile_imp member
  have ended : ∀ char ∈ stop.after.head?,
      ¬(CharSet.complement (.ofList "\n".toList)).contains char := by
    intro char isFirst
    have stopped := List.head?_dropWhile_not (· ≠ '\n') next.after
    rw [← stopAfter, isFirst] at stopped
    simpa [CharSet.contains] using stopped
  have prefers : (Shape.lineComment opening).Prefers place stop :=
    (prefers_literal reads).seq (prefers_star_one readsLine line ended)
  have shorter : stop.size < place.size := by
    have opens := reads.size_eq
    have goesOn := readsLine.size_eq
    have atLeastOne := List.length_pos_iff.mpr notEmpty
    omega
  exact prefers.matchEnd?_eq shorter

end Matches

/-! ### Tokens -/

/-- The token of a match, of a kind other than words. -/
def Token.ofKind (kind : TokenKind) (chars : List Char) : Token where
  kind := some kind
  text := .ofList chars
  tokenClass := kind.tokenClass?

namespace Language

variable {language : Language} {place next stop : Cursor} {token : Token} {later : List Token}
variable {rule : Rule} {char : Char}

/-- Where all other rules find nothing, one rule decides alone. -/
theorem firstMatch?_eq_of_others (member : rule ∈ language.rules)
    (others : ∀ other ∈ language.rules, other = rule ∨ other.pattern.matchEnd? place = none) :
    language.firstMatch? place =
      (rule.pattern.matchEnd? place).map fun stop => (rule, stop) := by
  cases decided : language.firstMatch? place with
  | none => rw [firstMatch?_eq_none_iff.mp decided rule member, Option.map_none]
  | some pair =>
      obtain ⟨earlier, behind, declared, _, found⟩ := firstMatch?_eq_some_iff.mp decided
      have isRule : pair.1 = rule := by
        have listed : pair.1 ∈ language.rules := by simp [declared]
        refine (others pair.1 listed).resolve_right fun missing => ?_
        rw [missing] at found
        cases found
      rw [← isRule, found, Option.map_some]

theorem tokensFrom_eq_ofKind_cons (found : language.firstMatch? place = some (rule, stop))
    (noWord : rule.kind ≠ .word) {chars : List Char} (reads : place.Reads chars stop) :
    language.tokensFrom place = .ofKind rule.kind chars :: language.tokensFrom stop := by
  rw [tokensFrom_of_match found, tokenOf, reads.charsTo_eq, classOf?, if_neg noWord, Token.ofKind]

theorem eq_ofKind_of_match (split : language.tokensFrom place = token :: later)
    (found : language.firstMatch? place = some (rule, stop)) (noWord : rule.kind ≠ .word)
    {chars : List Char} (reads : place.Reads chars stop) : token = .ofKind rule.kind chars := by
  rw [tokensFrom_eq_ofKind_cons found noWord reads, List.cons.injEq] at split
  exact split.1.symm

theorem eq_plain_of_no_match (split : language.tokensFrom place = token :: later)
    (missing : language.firstMatch? place = none) (read : place.next? = some (char, next)) :
    token = .plain char := by
  rw [tokensFrom_of_no_match missing read, List.cons.injEq] at split
  exact split.1.symm

/-! ### The rules for literals and comments -/

def lineCommentRule : Rule where
  kind := .comment
  pattern := Shape.lineComment "//"

def blockCommentRule : Rule where
  kind := .comment
  pattern := Shape.delimited "/*" "*/"

def stringRule (quote : Char) : Rule where
  kind := .string
  pattern := Shape.quoted quote

def regexRule : Rule where
  kind := .regex
  pattern :=
    let escaped := seq (one (.single '\\')) dotChar
    sequenceOf
      [text "/", alt (noneOf "\\/\n*") escaped, star (alt (noneOf "\\/\n") escaped), text "/",
       star (oneOf "gimsuy")]

/-- The quotes of scripts. -/
def quotes : List Char := ['"', '\'', '\x60']

/-- The languages for scripts. -/
def scripts : List Language := [javaScript, typeScript]

theorem forall_mem_quotes {property : Char → Prop} :
    (∀ quote ∈ quotes, property quote) ↔ property '"' ∧ property '\'' ∧ property '\x60' := by
  simp [quotes]

theorem rules_eq_of_mem_scripts : ∀ language ∈ scripts,
    language.rules = lineCommentRule :: blockCommentRule :: language.rules.drop 2 := by decide

theorem stringRule_mem_of_mem_scripts :
    ∀ language ∈ scripts, ∀ quote ∈ quotes, stringRule quote ∈ language.rules := by
  simp only [forall_mem_quotes]
  decide

/-- At a quote no rule but the one for strings in such quotes can match. -/
theorem not_canStartWith_quote : ∀ language ∈ scripts, ∀ quote ∈ quotes,
    ∀ rule ∈ language.rules, rule = stringRule quote ∨ rule.pattern.canStartWith quote = false := by
  simp only [forall_mem_quotes]
  decide

theorem mem_of_comment_or_regex : ∀ language ∈ scripts, ∀ rule ∈ language.rules,
    rule.kind = .comment ∨ rule.kind = .regex →
      rule ∈ [lineCommentRule, blockCommentRule, regexRule] := by decide

theorem quote_ne_backslash : ∀ quote ∈ quotes, quote ≠ '\\' :=
  forall_mem_quotes.mpr (by decide)

variable {behind : List Char}

/-! ### Strings -/

theorem firstMatch?_of_quote (script : language ∈ scripts) {quote : Char} (isQuote : quote ∈ quotes)
    (read : place.next? = some (quote, next)) :
    language.firstMatch? place =
      (restOfQuotes quote next).map fun stop => (stringRule quote, stop) := by
  rw [firstMatch?_eq_of_others (stringRule_mem_of_mem_scripts language script quote isQuote),
    stringRule, matchEnd?_quoted read]
  intro other member
  exact (not_canStartWith_quote language script quote isQuote other member).imp_right
    (matchEnd?_eq_none_of_not_canStartWith (Cursor.head?_after_of_next? read))

/-- The token at a quote is a string up to the quote that ends it, or the quote alone. -/
theorem eq_string_or_plain (script : language ∈ scripts) {quote : Char} (isQuote : quote ∈ quotes)
    (toCome : place.after = quote :: behind) (split : language.tokensFrom place = token :: later) :
    token = match throughQuote? quote behind with
      | some inside => .ofKind .string (quote :: inside)
      | none => .plain quote := by
  obtain ⟨next, read, _, nextAfter⟩ := Cursor.exists_next toCome
  have decided := firstMatch?_of_quote script isQuote read
  have scans := scans_restOfQuotes (quote_ne_backslash quote isQuote) nextAfter
  generalize throughQuote? quote behind = scanned at scans
  generalize restOfQuotes quote next = ended at scans decided
  cases scans with
  | found reads => exact eq_ofKind_of_match split decided nofun (.step read reads)
  | nothing => exact eq_plain_of_no_match split decided read

/-! ### Comments -/

/-- The token at two slashes is a comment up to the end of the line. -/
theorem eq_lineComment (script : language ∈ scripts) (toCome : place.after = '/' :: '/' :: behind)
    (split : language.tokensFrom place = token :: later) :
    token = .ofKind .comment ('/' :: '/' :: behind.takeWhile (· ≠ '\n')) := by
  have toCome : place.after = "//".toList ++ behind := toCome
  obtain ⟨next, reads, nextAfter⟩ := Cursor.exists_reads toCome
  obtain ⟨stop, found, readsLine⟩ := exists_matchEnd?_lineComment (by decide) reads
  have decided : language.firstMatch? place = some (lineCommentRule, stop) :=
    firstMatch?_eq_some_iff.mpr
      ⟨[], _, rules_eq_of_mem_scripts language script, List.forall_mem_nil _, found⟩
  rw [← nextAfter]
  exact eq_ofKind_of_match split decided nofun (reads.trans readsLine)

/-- Neither a comment to the end of the line nor a regular expression starts with a slash and an
asterisk. -/
theorem matchEnd?_eq_none_at_block (toCome : place.after = '/' :: '*' :: behind) :
    lineCommentRule.pattern.matchEnd? place = none ∧ regexRule.pattern.matchEnd? place = none := by
  constructor <;> apply matchEnd?_eq_none_of_not_matches
  · rintro stop ⟨_, slashes, _⟩
    rw [slashes.reads_literal.after_eq] at toCome
    cases toCome
  · rintro stop ⟨_, ⟨_, ⟨_, ⟨middle, slash, start⟩, _⟩, _⟩, _⟩
    rw [slash.reads_literal.after_eq] at toCome
    have middleAfter : middle.after = '*' :: behind := (List.cons.inj toCome).2
    refine not_matches_of_not_canStartWith rfl ?_ start
    rw [middleAfter]
    rintro char ⟨⟩
    decide

/-- The token at a slash and an asterisk is a comment up to the first asterisk and slash behind
them. -/
theorem eq_blockComment_or_other (script : language ∈ scripts)
    (toCome : place.after = '/' :: '*' :: behind)
    (split : language.tokensFrom place = token :: later) :
    match through? ['*', '/'] behind with
    | some inside => token = .ofKind .comment ('/' :: '*' :: inside)
    | none => token.kind ≠ some .comment ∧ token.kind ≠ some .regex := by
  obtain ⟨noLine, noRegex⟩ := matchEnd?_eq_none_at_block toCome
  have toCome : place.after = "/*".toList ++ behind := toCome
  obtain ⟨next, reads, nextAfter⟩ := Cursor.exists_reads toCome
  have block : blockCommentRule.pattern.matchEnd? place = restThrough ['*', '/'] next :=
    matchEnd?_delimited (by decide) reads
  have scans : next.Scans (through? ['*', '/'] behind) (restThrough ['*', '/'] next) :=
    scans_restThrough nextAfter
  generalize through? ['*', '/'] behind = scanned at scans
  generalize restThrough ['*', '/'] next = ended at scans block
  cases scans with
  | @found inside stop readsInside =>
      have decided : language.firstMatch? place = some (blockCommentRule, stop) :=
        firstMatch?_eq_some_iff.mpr ⟨[lineCommentRule], _, rules_eq_of_mem_scripts language script,
          List.forall_mem_singleton.mpr noLine, block⟩
      exact eq_ofKind_of_match split decided nofun (reads.trans readsInside)
  | nothing =>
      rcases tokensFrom_eq_cons split with ⟨rule, stop, decided, rfl, _⟩ | ⟨_, _, _, _, rfl, _⟩
      · obtain ⟨_, _, declared, _, found⟩ := firstMatch?_eq_some_iff.mp decided
        have listed : rule ∈ language.rules := by simp [declared]
        have missing : ∀ other ∈ [lineCommentRule, blockCommentRule, regexRule],
            other.pattern.matchEnd? place = none := by
          simp [noLine, block, noRegex]
        have others : ¬(rule.kind = .comment ∨ rule.kind = .regex) := by
          intro isKind
          have notFound := missing rule (mem_of_comment_or_regex language script rule listed isKind)
          cases found.symm.trans notFound
        exact ⟨fun isComment => others (.inl (Option.some.inj isComment)),
          fun isRegex => others (.inr (Option.some.inj isRegex))⟩
      · exact ⟨nofun, nofun⟩

/-- Literals and comments of scripts are scanned without going back, wherever a token starts.  A
quote opens a string that ends with the first quote behind it that no backslash takes away, unless a
backslash stands at the end of a line or of the text before it; without such an end the quote stands
alone.  Two slashes open a comment that goes on to the end of the line, a slash and an asterisk one
that goes on to the first asterisk and slash. -/
theorem literals_scanned (script : language ∈ scripts) {front rest : String}
    {earlier : List Token} (split : language.tokens (front ++ rest) = earlier ++ token :: later)
    (covers : Token.joined earlier = front) :
    (∀ quote ∈ quotes, ∀ behind, rest.toList = quote :: behind →
      token = match throughQuote? quote behind with
        | some inside => .ofKind .string (quote :: inside)
        | none => .plain quote) ∧
    (∀ behind, rest.toList = '/' :: '/' :: behind →
      token = .ofKind .comment ('/' :: '/' :: behind.takeWhile (· ≠ '\n'))) ∧
    ∀ behind, rest.toList = '/' :: '*' :: behind →
      match through? ['*', '/'] behind with
      | some inside => token = .ofKind .comment ('/' :: '*' :: inside)
      | none => token.kind ≠ some .comment ∧ token.kind ≠ some .regex := by
  obtain ⟨place, reads, isRest⟩ := exists_reads_of_tokensFrom_eq_append split
  have placeAfter : place.after = rest.toList := by
    have toCome := reads.after_eq
    rw [covers, Cursor.start_after, String.toList_append] at toCome
    exact (List.append_cancel_left toCome).symm
  refine ⟨?_, ?_, ?_⟩
  · intro quote isQuote behind opens
    exact eq_string_or_plain script isQuote (placeAfter.trans opens) isRest.symm
  · intro behind opens
    exact eq_lineComment script (placeAfter.trans opens) isRest.symm
  · intro behind opens
    exact eq_blockComment_or_other script (placeAfter.trans opens) isRest.symm

/-- A quote behind a backslash does not end the string, and slashes behind it open a comment. -/
theorem literals_scanned_behind_operator :
    let earlier : List Token :=
      [{ kind := some .word, text := "x", tokenClass := none }, .ofKind .operator ['=']]
    let token := Token.ofKind .string "'\\''".toList
    let later := [Token.ofKind .comment "//y".toList]
    javaScript ∈ scripts ∧ javaScript.tokens ("x=" ++ "'\\''//y") = earlier ++ token :: later ∧
      Token.joined earlier = "x=" ∧
      token = match throughQuote? '\'' "\\''//y".toList with
        | some inside => .ofKind .string ('\'' :: inside)
        | none => .plain '\'' := by
  intro earlier token later
  have script : javaScript ∈ scripts := by decide
  have split : javaScript.tokens ("x=" ++ "'\\''//y") = earlier ++ token :: later := by
    decide +kernel
  have covers : Token.joined earlier = "x=" := by decide
  exact ⟨script, split, covers,
    (literals_scanned script split covers).1 '\'' (by decide) "\\''//y".toList (by decide)⟩

end Language

end FencedCode
