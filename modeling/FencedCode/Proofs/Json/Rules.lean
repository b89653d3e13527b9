import FencedCode.Language.Documents
import FencedCode.Proofs.Json.Grammar
import FencedCode.Proofs.Pattern.Preference

/-!
# The rules for JSON

Each piece of a document is what the rule of its kind takes at the place where the piece starts.
Strings and single marks need nothing of their neighbours.  Numbers and names stand between edges of
words, so they need separators around them; and the rule for numbers knows the small letter of a
power of ten only.
-/

namespace FencedCode.Json

open Pattern

variable {cursor middle stop : Cursor} {chars : List Char} {char : Char}

def stringRule : Rule := { kind := .string, pattern := Shape.quoted '"' }

def numberRule : Rule where
  kind := .number
  pattern := sequenceOf
    [optional (text "-"), asciiEdge, Shape.decimal, optional Shape.exponent, asciiEdge]

def nameRule : Rule where
  kind := .keyword
  pattern := Shape.standalone (choiceOf [text "true", text "false", text "null"])

def markRule : Rule := { kind := .punctuation, pattern := oneOf "\x7b\x7d[]:," }

def blankRule : Rule := { kind := .whitespace, pattern := Shape.blanks }

theorem rules_json :
    Language.json.rules = [stringRule, numberRule, nameRule, markRule, blankRule] := rfl

/-! ### Neighbours -/

/-- No word character stands before a place. -/
def Free (cursor : Cursor) : Prop := cursor.before.any Text.isAsciiWord = false

/-- If anything comes at a place, it is a separator. -/
def Ended (cursor : Cursor) : Prop := ∀ char ∈ cursor.after.head?, char ∈ marks ++ blanks

theorem digits_contains (isDigit : char ∈ decimalDigits) : Shape.digits.contains char = true := by
  have contained : ∀ char ∈ decimalDigits, Shape.digits.contains char = true := by decide
  exact contained char isDigit

theorem isAsciiWord_of_isDigit (isDigit : char ∈ decimalDigits) :
    Text.isAsciiWord char = true := by
  have words : ∀ char ∈ decimalDigits, Text.isAsciiWord char = true := by decide
  exact words char isDigit

theorem Ended.not_digit (ended : Ended cursor) :
    ∀ char ∈ cursor.after.head?, ¬Shape.digits.contains char = true := by
  intro char isFirst
  have separators : ∀ char ∈ marks ++ blanks, ¬Shape.digits.contains char = true := by decide
  exact separators char (ended char isFirst)

theorem Ended.not_word (ended : Ended cursor) :
    cursor.after.head?.any Text.isAsciiWord = false := by
  have separators : ∀ char ∈ marks ++ blanks, Text.isAsciiWord char = false := by decide
  cases first : cursor.after.head? with
  | none => rfl
  | some char => exact separators char (ended char first)

/-- An edge of a word lies between a place before which there is no word character and a word
character. -/
theorem prefers_asciiEdge_before (free : Free cursor) (first : cursor.after.head? = some char)
    (word : Text.isAsciiWord char = true) : asciiEdge.Prefers cursor cursor := by
  apply prefers_assert
  simp only [Assertion.holds, Assertion.holdsBetween, if_true, WordEdge.holds, first]
  rw [Free] at free
  rw [free, Option.any_some, word]
  rfl

theorem prefers_asciiEdge_behind (last : cursor.before = some char)
    (word : Text.isAsciiWord char = true) (ended : Ended cursor) :
    asciiEdge.Prefers cursor cursor := by
  apply prefers_assert
  simp only [Assertion.holds, Assertion.holdsBetween, if_true, WordEdge.holds, last]
  rw [ended.not_word, Option.any_some, word]
  rfl

/-! ### Strings -/

theorem head?_of_reads_cons (reads : cursor.Reads (char :: chars) stop) :
    cursor.after.head? = some char := by
  rw [reads.after_eq]
  rfl

/-- A character that stands for itself between quotes. -/
def Plain (char : Char) : Prop := char ∉ ['"', '\\']

def insideOfString : Pattern :=
  alt (one (.complement (.ofList ['"', '\\']))) (seq (one (.single '\\')) dotChar)

theorem greedyRun_plain (reads : cursor.Reads chars middle) (plain : ∀ char ∈ chars, Plain char)
    (run : GreedyRun insideOfString.ends middle stop) :
    GreedyRun insideOfString.ends cursor stop := by
  induction reads with
  | stay cursor => exact run
  | @step cursor following later char chars read rest ih =>
      obtain ⟨here, others⟩ := List.forall_mem_cons.mp plain
      have size := Cursor.size_next read
      have contained : (CharSet.complement (.ofList ['"', '\\'])).contains char = true := by
        simpa [CharSet.contains, Plain] using here
      exact .more (prefers_one read contained).alt_left (by omega) (ih others run)

theorem plain_of_isHexDigit (isHexDigit : char ∈ hexDigits) : Plain char := by
  have plain : ∀ char ∈ hexDigits, char ∉ ['"', '\\'] := by decide
  exact plain char isHexDigit

theorem greedyRun_escaped (reads : cursor.Reads ['\\', char] middle) (sameLine : char ≠ '\n')
    (run : GreedyRun insideOfString.ends middle stop) :
    GreedyRun insideOfString.ends cursor stop := by
  cases reads with
  | @step _ following _ _ _ read rest =>
      cases rest with
      | step readEscaped rest =>
          cases rest
          have size := Cursor.size_next read
          have escapedSize := Cursor.size_next readEscaped
          have first : cursor.after.head? = some '\\' := Cursor.head?_after_of_next? read
          -- A backslash is never plain, so the other part of the choice decides.
          have notPlain : (one (.complement (.ofList ['"', '\\']))).ends cursor = [] :=
            ends_one_eq_nil_of_first first (by decide)
          have escaped : (CharSet.complement (.ofList "\n".toList)).contains char = true := by
            simpa [CharSet.contains] using sameLine
          have round : insideOfString.Prefers cursor middle :=
            ((prefers_one read (by decide)).seq (prefers_one readEscaped escaped)).alt_right
              notPlain
          exact .more round (by omega) run

/-- The rounds inside a string end at the closing quote, whatever is escaped before it. -/
theorem greedyRun_quotable (quotable : Quotable chars) (reads : cursor.Reads chars stop)
    (closing : stop.after.head? = some '"') : GreedyRun insideOfString.ends cursor stop := by
  induction quotable generalizing cursor with
  | nil =>
      cases reads
      apply GreedyRun.stop
      apply ends_alt_eq_nil
      · exact ends_one_eq_nil_of_first closing (by decide)
      · exact ends_seq_eq_nil (ends_one_eq_nil_of_first closing (by decide))
  | @plain char rest printable noMark _ ih =>
      obtain ⟨middle, readsChar, readsRest⟩ := @Cursor.Reads.exists_between _ _ [char] _ reads
      exact greedyRun_plain readsChar (List.forall_mem_singleton.mpr noMark) (ih readsRest)
  | @escape char rest isEscape _ ih =>
      obtain ⟨middle, readsEscape, readsRest⟩ :=
        @Cursor.Reads.exists_between _ _ ['\\', char] _ reads
      apply greedyRun_escaped readsEscape _ (ih readsRest)
      rintro rfl
      revert isEscape
      decide
  | @code digits rest four isDigits _ ih =>
      obtain ⟨middle, readsEscape, readsMore⟩ :=
        @Cursor.Reads.exists_between _ _ ['\\', 'u'] _ reads
      obtain ⟨behind, readsDigits, readsRest⟩ := readsMore.exists_between
      apply greedyRun_escaped readsEscape (by decide)
      apply greedyRun_plain readsDigits _ (ih readsRest)
      intro digit member
      exact plain_of_isHexDigit (isDigits digit member)

theorem prefers_string (quotable : Quotable chars)
    (reads : cursor.Reads (Piece.string chars).chars stop) :
    stringRule.pattern.Prefers cursor stop := by
  cases reads with
  | step readOpening rest =>
      obtain ⟨middle, readsInside, readsClosing⟩ := rest.exists_between
      have closing := head?_of_reads_cons readsClosing
      cases readsClosing with
      | step readClosing rest =>
          cases rest
          have opens : (one (.single '"')).Prefers cursor _ := prefers_one readOpening (by decide)
          have inside := prefers_star (greedyRun_quotable quotable readsInside closing)
          have closes : (one (.single '"')).Prefers middle _ := prefers_one readClosing (by decide)
          exact (opens.seq inside).seq closes

/-! ### Numbers -/

/-- A digit stands before a place. -/
def BehindDigit (cursor : Cursor) : Prop := ∃ digit ∈ decimalDigits, cursor.before = some digit

theorem Digits.behindDigit (digits : Digits chars) (reads : cursor.Reads chars stop) :
    BehindDigit stop := by
  obtain ⟨notEmpty, each⟩ := digits
  refine ⟨chars.getLast notEmpty, each _ (List.getLast_mem notEmpty), ?_⟩
  rw [reads.before_eq, List.getLast?_eq_some_getLast notEmpty, Option.some_or]

theorem Fraction.behindDigit (fraction : Fraction chars) (reads : cursor.Reads chars stop)
    (behind : BehindDigit cursor) : BehindDigit stop := by
  cases fraction with
  | none =>
      cases reads
      exact behind
  | some isDigits =>
      cases reads with
      | step _ rest => exact isDigits.behindDigit rest

theorem Exponent.behindDigit (exponent : Exponent chars) (reads : cursor.Reads chars stop)
    (behind : BehindDigit cursor) : BehindDigit stop := by
  cases exponent with
  | none =>
      cases reads
      exact behind
  | some _ _ isDigits =>
      cases reads with
      | step _ rest =>
          obtain ⟨_, _, readsDigits⟩ := rest.exists_between
          exact isDigits.behindDigit readsDigits

theorem prefers_digits (reads : cursor.Reads chars stop) (digits : Digits chars)
    (ended : ∀ char ∈ stop.after.head?, ¬Shape.digits.contains char = true) :
    (plus (one Shape.digits)).Prefers cursor stop := by
  apply prefers_plus_one reads digits.1 _ ended
  intro char member
  exact digits_contains (digits.2 char member)

theorem Digits.exists_first (digits : Digits chars) (reads : cursor.Reads chars stop) :
    ∃ first ∈ decimalDigits, cursor.after.head? = some first := by
  cases reads with
  | stay => exact absurd rfl digits.1
  | @step _ _ _ first _ read _ =>
      exact ⟨first, digits.2 first (List.mem_cons_self ..), Cursor.head?_after_of_next? read⟩

theorem eq_small_letter {letter : Char} (isLetter : letter ∈ ['e', 'E'])
    (small : 'E' ∉ letter :: chars) : letter = 'e' := by
  simp only [List.mem_cons, List.not_mem_nil, or_false] at isLetter
  apply isLetter.resolve_right
  rintro rfl
  exact small (List.mem_cons_self ..)

/-- What may come behind a fraction. -/
theorem Exponent.first_mem (exponent : Exponent chars) (small : 'E' ∉ chars)
    (reads : cursor.Reads chars stop) (ended : Ended stop) :
    ∀ char ∈ cursor.after.head?, char ∈ 'e' :: (marks ++ blanks) := by
  intro char isFirst
  cases exponent with
  | none =>
      cases reads
      exact List.mem_cons_of_mem _ (ended char isFirst)
  | some isLetter _ _ =>
      rw [head?_of_reads_cons reads] at isFirst
      cases isFirst
      exact eq_small_letter isLetter small ▸ List.mem_cons_self ..

theorem prefers_exponent (exponent : Exponent chars) (small : 'E' ∉ chars)
    (reads : cursor.Reads chars stop) (ended : Ended stop) :
    (optional Shape.exponent).Prefers cursor stop := by
  cases exponent with
  | none =>
      cases reads
      have noLetters : ∀ char ∈ marks ++ blanks, ¬(CharSet.single 'e').contains char = true := by
        decide
      apply prefers_optional_of_ends_eq_nil
      apply ends_seq_eq_nil
      apply ends_seq_eq_nil
      apply ends_one_eq_nil
      intro char isFirst
      exact noLetters char (ended char isFirst)
  | @some letter sign digits isLetter isSign isDigits =>
      cases eq_small_letter isLetter small
      cases reads with
      | @step _ behindLetter _ _ _ read rest =>
          obtain ⟨behindSign, readsSign, readsDigits⟩ := rest.exists_between
          have letterRead : (one (.single 'e')).Prefers cursor behindLetter :=
            prefers_one read (by decide)
          have signRead : (optional (oneOf "+-")).Prefers behindLetter behindSign := by
            have signs : ∀ sign ∈ [[], ['+'], ['-']], sign.length ≤ 1 ∧
                ∀ char ∈ sign, (CharSet.ofList "+-".toList).contains char = true := by decide
            obtain ⟨short, each⟩ := signs sign isSign
            apply prefers_optional_one readsSign short each
            intro _ char isFirst
            have noSigns : ∀ char ∈ decimalDigits,
                ¬(CharSet.ofList "+-".toList).contains char = true := by decide
            obtain ⟨first, isDigit, found⟩ := isDigits.exists_first readsDigits
            cases found.symm.trans isFirst
            exact noSigns _ isDigit
          have digitsRead := prefers_digits readsDigits isDigits ended.not_digit
          exact ((letterRead.seq signRead).seq digitsRead).optional

/-- A point with digits behind it, or nothing. -/
theorem prefers_fraction (fraction : Fraction chars) (reads : cursor.Reads chars stop)
    (ended : ∀ char ∈ stop.after.head?, char ≠ '.' ∧ ¬Shape.digits.contains char = true) :
    ∃ point, (optional (one (.single '.'))).Prefers cursor point ∧
      (star (one Shape.digits)).Prefers point stop := by
  have noDigit : ∀ char ∈ stop.after.head?, ¬Shape.digits.contains char = true :=
    fun char isFirst => (ended char isFirst).2
  cases fraction with
  | none =>
      cases reads
      refine ⟨cursor, ?_, prefers_star_one (.stay cursor) (List.forall_mem_nil _) noDigit⟩
      apply prefers_optional_of_ends_eq_nil
      apply ends_one_eq_nil
      intro char isFirst
      rw [CharSet.contains_single, decide_eq_true_eq]
      exact (ended char isFirst).1.symm
  | some isDigits =>
      cases reads with
      | @step _ point _ _ _ read rest =>
          refine ⟨point, (prefers_one read (by decide)).optional, prefers_star_one rest ?_ noDigit⟩
          intro char member
          exact digits_contains (isDigits.2 char member)

/-- The digits of a whole number end where its fraction starts. -/
theorem Fraction.no_digit (fraction : Fraction chars) (reads : cursor.Reads chars stop)
    (noDigit : ∀ char ∈ stop.after.head?, ¬Shape.digits.contains char = true) :
    ∀ char ∈ cursor.after.head?, ¬Shape.digits.contains char = true := by
  cases fraction with
  | none =>
      cases reads
      exact noDigit
  | some _ =>
      rw [head?_of_reads_cons reads]
      rintro _ ⟨⟩
      decide

/-- Digits and a fraction are read to their end. -/
theorem prefers_decimal {whole fraction : List Char} (isWhole : Digits whole)
    (isFraction : Fraction fraction) (reads : cursor.Reads (whole ++ fraction) stop)
    (ended : ∀ char ∈ stop.after.head?, char ≠ '.' ∧ ¬Shape.digits.contains char = true) :
    Shape.decimal.Prefers cursor stop := by
  obtain ⟨behindWhole, readsWhole, readsFraction⟩ := reads.exists_between
  have noDigit := isFraction.no_digit readsFraction fun char isFirst => (ended char isFirst).2
  obtain ⟨point, pointRead, digitsRead⟩ := prefers_fraction isFraction readsFraction ended
  exact ((prefers_digits readsWhole isWhole noDigit).seq pointRead).seq digitsRead

theorem behindDigit_of_decimal {whole fraction : List Char} (isWhole : Digits whole)
    (isFraction : Fraction fraction) (reads : cursor.Reads (whole ++ fraction) stop) :
    BehindDigit stop := by
  obtain ⟨_, readsWhole, readsFraction⟩ := reads.exists_between
  exact isFraction.behindDigit readsFraction (isWhole.behindDigit readsWhole)

/-- A minus before digits, or nothing.  Behind it the edge of a word is still to come. -/
theorem prefers_sign {sign : List Char} (isSign : sign ∈ [[], ['-']])
    (reads : cursor.Reads sign stop) (free : Free cursor) (first : stop.after.head? = some char)
    (isDigit : char ∈ decimalDigits) : (optional (text "-")).Prefers cursor stop ∧ Free stop := by
  simp only [List.mem_cons, List.not_mem_nil, or_false] at isSign
  cases isSign with
  | inl isNone =>
      subst isNone
      cases reads
      refine ⟨prefers_optional_of_ends_eq_nil (ends_literal_eq_nil first ?_), free⟩
      have noMinus : '-' ∉ decimalDigits := by decide
      rintro rfl
      exact noMinus isDigit
  | inr isMinus =>
      subst isMinus
      refine ⟨(prefers_literal reads).optional, ?_⟩
      rw [Free, reads.before_eq]
      rfl

/-- A number is read to its end if its power of ten, if any, is written with the small letter. -/
theorem prefers_number (number : Number chars) (small : 'E' ∉ chars)
    (reads : cursor.Reads chars stop) (free : Free cursor) (ended : Ended stop) :
    numberRule.pattern.Prefers cursor stop := by
  obtain ⟨isSign, isWhole, isFraction, isExponent⟩ := number
  simp only [List.mem_append, not_or] at small
  obtain ⟨behindSign, readsSign, readsRest⟩ := reads.exists_between
  rw [← List.append_assoc] at readsRest
  obtain ⟨behindDecimal, readsDecimal, readsExponent⟩ := readsRest.exists_between
  -- What may come behind each part belongs to no part before it, so none of them reads too far.
  have letterNext := isExponent.first_mem small.2.2.2 readsExponent ended
  have decimalRead : Shape.decimal.Prefers behindSign behindDecimal := by
    have others : ∀ char ∈ 'e' :: (marks ++ blanks),
        char ≠ '.' ∧ ¬Shape.digits.contains char = true := by decide
    apply prefers_decimal isWhole.digits isFraction readsDecimal
    intro char isFirst
    exact others char (letterNext char isFirst)
  obtain ⟨_, readsWhole, _⟩ := readsDecimal.exists_between
  obtain ⟨first, isDigit, found⟩ := isWhole.digits.exists_first readsWhole
  obtain ⟨signRead, freeBehind⟩ := prefers_sign isSign readsSign free found isDigit
  have edgeBefore := prefers_asciiEdge_before freeBehind found (isAsciiWord_of_isDigit isDigit)
  have exponentRead := prefers_exponent isExponent small.2.2.2 readsExponent ended
  have edgeBehind : asciiEdge.Prefers stop stop := by
    have behindDecimalDigit := behindDigit_of_decimal isWhole.digits isFraction readsDecimal
    obtain ⟨last, isDigit, isLast⟩ := isExponent.behindDigit readsExponent behindDecimalDigit
    exact prefers_asciiEdge_behind isLast (isAsciiWord_of_isDigit isDigit) ended
  exact (((signRead.seq edgeBefore).seq decimalRead).seq exponentRead).seq edgeBehind

/-! ### Names -/

/-- The three names begin differently. -/
theorem prefers_choice_of_names (isName : chars ∈ names) (reads : cursor.Reads chars stop) :
    (choiceOf [text "true", text "false", text "null"]).Prefers cursor stop := by
  have read : (literal chars).Prefers cursor stop := prefers_literal reads
  simp only [names, List.mem_cons, List.not_mem_nil, or_false] at isName
  rcases isName with rfl | rfl | rfl
  · exact read.alt_left.alt_left
  · have noTrue : (text "true").ends cursor = [] :=
      ends_literal_eq_nil (head?_of_reads_cons reads) (by decide)
    exact (read.alt_right noTrue).alt_left
  · have noTrue : (text "true").ends cursor = [] :=
      ends_literal_eq_nil (head?_of_reads_cons reads) (by decide)
    have noFalse : (text "false").ends cursor = [] :=
      ends_literal_eq_nil (head?_of_reads_cons reads) (by decide)
    exact read.alt_right (ends_alt_eq_nil noTrue noFalse)

theorem prefers_name (isName : chars ∈ names) (reads : cursor.Reads chars stop)
    (free : Free cursor) (ended : Ended stop) : nameRule.pattern.Prefers cursor stop := by
  have words : ∀ name ∈ names, ∃ first ∈ name.head?, ∃ last ∈ name.getLast?,
      Text.isAsciiWord first = true ∧ Text.isAsciiWord last = true := by
    intro name isName
    simp only [names, List.mem_cons, List.not_mem_nil, or_false] at isName
    rcases isName with rfl | rfl | rfl <;> exact ⟨_, rfl, _, rfl, rfl, rfl⟩
  obtain ⟨first, isFirst, last, isLast, firstWord, lastWord⟩ := words chars isName
  have edgeBefore : asciiEdge.Prefers cursor cursor := by
    apply prefers_asciiEdge_before free _ firstWord
    rw [reads.after_eq, List.head?_append, Option.mem_def.mp isFirst, Option.some_or]
  have edgeBehind : asciiEdge.Prefers stop stop := by
    apply prefers_asciiEdge_behind _ lastWord ended
    rw [reads.before_eq, Option.mem_def.mp isLast, Option.some_or]
  exact (edgeBefore.seq (prefers_choice_of_names isName reads)).seq edgeBehind

/-! ### Marks and blanks -/

theorem prefers_mark (isMark : char ∈ marks) (reads : cursor.Reads [char] stop) :
    markRule.pattern.Prefers cursor stop := by
  have contained : ∀ char ∈ marks, (CharSet.ofList "\x7b\x7d[]:,".toList).contains char = true := by
    decide
  cases reads with
  | step read rest =>
      cases rest
      exact prefers_one read (contained char isMark)

/-- Blanks up to something else are read together. -/
theorem prefers_blanks (notEmpty : chars ≠ []) (isBlank : ∀ char ∈ chars, char ∈ blanks)
    (reads : cursor.Reads chars stop)
    (ended : ∀ char ∈ stop.after.head?, ¬(CharSet.named .blank).contains char = true) :
    blankRule.pattern.Prefers cursor stop := by
  have contained : ∀ char ∈ blanks, (CharSet.named .blank).contains char = true := by
    decide
  apply prefers_plus_one reads notEmpty _ ended
  intro char member
  exact contained char (isBlank char member)

/-! ### Where a rule does not match -/

theorem string_skipped (first : cursor.after.head? = some char) (foreign : '"' ≠ char) :
    stringRule.pattern.matchEnd? cursor = none := by
  have noQuote : (one (.single '"')).ends cursor = [] :=
    ends_one_eq_nil_of_first first (by simpa using foreign)
  exact matchEnd?_eq_none_of_ends_eq_nil (ends_seq_eq_nil (ends_seq_eq_nil noQuote))

/-- A character that a number may have as the rule knows it. -/
def Numeral (char : Char) : Prop :=
  Shape.digits.contains char = true ∨ char ∈ ['-', '+', '.', 'e']

theorem number_consumesOnly : numberRule.pattern.ConsumesOnly Numeral := by
  have sign : (text "-").ConsumesOnly Numeral := consumesOnly_literal (by simp [Numeral])
  have digit : (one Shape.digits).ConsumesOnly Numeral := fun _ contained => .inl contained
  have point : (one (.single '.')).ConsumesOnly Numeral := by simp [ConsumesOnly, Numeral]
  have letter : (one (.single 'e')).ConsumesOnly Numeral := by simp [ConsumesOnly, Numeral]
  have signs : (oneOf "+-").ConsumesOnly Numeral := by simp [oneOf, ConsumesOnly, Numeral]
  exact ⟨⟨⟨⟨sign, trivial⟩, ⟨digit, point⟩, digit⟩, ⟨letter, signs⟩, digit⟩, trivial⟩

theorem name_consumesOnly : nameRule.pattern.ConsumesOnly (· ∈ names.flatten) := by
  have each : ∀ name ∈ names, (literal name).ConsumesOnly (· ∈ names.flatten) := by
    intro name isName
    apply consumesOnly_literal
    intro char member
    exact List.mem_flatten.mpr ⟨name, isName, member⟩
  have choice : (choiceOf [text "true", text "false", text "null"]).ConsumesOnly
      (· ∈ names.flatten) :=
    ⟨⟨each _ (by simp [names]), each _ (by simp [names])⟩, each _ (by simp [names])⟩
  exact ⟨⟨trivial, choice⟩, trivial⟩

theorem mark_consumesOnly : markRule.pattern.ConsumesOnly (· ∈ marks) := by
  intro char contained
  rw [CharSet.contains_ofList, List.contains_iff_mem] at contained
  exact contained

theorem blank_consumesOnly : blankRule.pattern.ConsumesOnly (Text.isBlank · = true) :=
  fun _ contained => contained

/-- Of all rules only the one for strings can take a large letter. -/
theorem exists_consumesOnly {rule : Rule}
    (member : rule ∈ [numberRule, nameRule, markRule, blankRule]) :
    ∃ allowed, rule.pattern.ConsumesOnly allowed ∧ ¬allowed 'E' := by
  simp only [List.mem_cons, List.not_mem_nil, or_false] at member
  rcases member with rfl | rfl | rfl | rfl
  · exact ⟨_, number_consumesOnly, by unfold Numeral; decide⟩
  · exact ⟨_, name_consumesOnly, by decide⟩
  · exact ⟨_, mark_consumesOnly, by decide⟩
  · exact ⟨_, blank_consumesOnly, by decide⟩

end FencedCode.Json
