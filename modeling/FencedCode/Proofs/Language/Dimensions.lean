import FencedCode.Proofs.Json.Rules
import FencedCode.Proofs.Language.Literals

/-!
# Dimensions

A number in a style sheet takes its unit with it if an edge of a word comes behind the unit.
Letters have one there, but a percent sign has none: the edge lies before the sign, so the search
gives the unit up again and the sign stands alone.
-/

namespace FencedCode

namespace Css

open Pattern Text
open scoped Json

/-- Digits, and perhaps a point with more digits behind it. -/
inductive Numeral : List Char → Prop where
  | intro {whole fraction : List Char} (isWhole : Json.Digits whole)
      (isFraction : Json.Fraction fraction) : Numeral (whole ++ fraction)

def units : List String := ["px", "em", "rem", "%", "vh", "vw", "deg", "s", "ms"]

def unitChoice : Pattern := choiceOf (units.map text)

def numberRule : Rule where
  kind := .number
  pattern := Shape.standalone (seq Shape.decimal (optional unitChoice))

theorem numberRule_mem : numberRule ∈ Language.css.rules := by decide

/-- No other rule finds anything at a digit. -/
theorem not_canStartWith_digit : ∀ digit ∈ Json.decimalDigits, ∀ rule ∈ Language.css.rules,
    rule = numberRule ∨ rule.pattern.canStartWith digit = false := by decide

/-- No rule finds anything at a percent sign. -/
theorem not_canStartWith_percent : ∀ rule ∈ Language.css.rules,
    rule.pattern.canStartWith '%' = false := by decide

/-- No unit begins with another. -/
theorem eq_of_begins : ∀ unit ∈ units, ∀ other ∈ units, unit.toList <+: other.toList →
    unit = other := by decide

variable {place middle stop : Cursor} {numeral : List Char} {unit : String}

/-- No unit goes on with the number, and all but the percent sign are words. -/
theorem exists_first_and_last (isUnit : unit ∈ units) :
    ∃ first ∈ unit.toList.head?, ∃ last ∈ unit.toList.getLast?,
      (first ≠ '.' ∧ ¬Shape.digits.contains first) ∧ isAsciiWord first = decide (unit ≠ "%") ∧
        isAsciiWord last = decide (unit ≠ "%") := by
  simp only [units, List.mem_cons, List.not_mem_nil, or_false] at isUnit
  rcases isUnit with rfl | rfl | rfl | rfl | rfl | rfl | rfl | rfl | rfl <;>
    exact ⟨_, rfl, _, rfl, by decide⟩

/-- Of the units only the one that comes can be read. -/
theorem matches_unitChoice_iff (isUnit : unit ∈ units) (reads : middle.Reads unit.toList stop)
    (other : Cursor) : unitChoice.Matches middle other ↔ other = stop := by
  rw [unitChoice, matches_choiceOf_iff]
  constructor
  · rintro ⟨_, member, isMatch⟩
    obtain ⟨otherUnit, otherIsUnit, rfl⟩ := List.mem_map.mp member
    have readsOther : middle.Reads otherUnit.toList other := isMatch.reads_literal
    have same : otherUnit = unit := by
      have comes : unit.toList <+: middle.after := ⟨stop.after, reads.after_eq.symm⟩
      have otherComes : otherUnit.toList <+: middle.after := ⟨other.after, readsOther.after_eq.symm⟩
      rcases List.prefix_or_prefix_of_prefix otherComes comes with begins | begins
      · exact eq_of_begins otherUnit otherIsUnit unit isUnit begins
      · exact (eq_of_begins unit isUnit otherUnit otherIsUnit begins).symm
    exact (same ▸ readsOther).unique reads
  · rintro rfl
    exact ⟨text unit, List.mem_map_of_mem isUnit, matches_literal_iff.mpr reads⟩

theorem search_asciiEdge {α : Type} {onward : Cursor → Option α} :
    asciiEdge.search onward place =
      if place.before.any isAsciiWord != place.after.head?.any isAsciiWord then onward place
      else none := search_assert

theorem consumes_number : numberRule.pattern.Consumes :=
  .seq (.seq_right (.seq (.seq (.seq ((consumes_one _).repeated Nat.one_pos none true)))))

/-- What is found of a number with its unit. -/
theorem matchEnd?_number (free : place.before.any isAsciiWord = false) (isNumeral : Numeral numeral)
    (isUnit : unit ∈ units) (readsNumeral : place.Reads numeral middle)
    (readsUnit : middle.Reads unit.toList stop) (ended : stop.after.head?.any isAsciiWord = false) :
    numberRule.pattern.matchEnd? place = some (if unit = "%" then middle else stop) := by
  obtain ⟨isWhole, isFraction⟩ := isNumeral
  obtain ⟨first, isFirst, last, isLast, noNumeral, firstWord, lastWord⟩ :=
    exists_first_and_last isUnit
  have unitFirst : middle.after.head? = some first := by
    rw [readsUnit.after_eq, List.head?_append, Option.mem_def.mp isFirst, Option.some_or]
  have unitLast : stop.before = some last := by
    rw [readsUnit.before_eq, Option.mem_def.mp isLast, Option.some_or]
  have decimalRead : Shape.decimal.Prefers place middle := by
    apply Json.prefers_decimal isWhole isFraction readsNumeral
    rw [unitFirst]
    rintro _ ⟨⟩
    exact noNumeral
  obtain ⟨_, readsWhole, _⟩ := readsNumeral.exists_between
  obtain ⟨digit, isDigit, digitFirst⟩ := isWhole.exists_first readsWhole
  obtain ⟨digitBefore, beforeIsDigit, isBefore⟩ :=
    Json.behindDigit_of_decimal isWhole isFraction readsNumeral
  have withUnit : asciiEdge.search some stop = if unit = "%" then none else some stop := by
    rw [search_asciiEdge, unitLast, Option.any_some, ended, lastWord]
    simp
  have withoutUnit : unit = "%" → asciiEdge.search some middle = some middle := by
    intro isPercent
    rw [search_asciiEdge, isBefore, unitFirst, Option.any_some, Option.any_some, firstWord,
      Json.isAsciiWord_of_isDigit beforeIsDigit]
    simp [isPercent]
  have behindDecimal : (optional unitChoice).search (asciiEdge.search some) middle =
      some (if unit = "%" then middle else stop) := by
    rw [search_optional, search_eq_of_matches_iff (matches_unitChoice_iff isUnit readsUnit),
      withUnit]
    split
    · next isPercent => exact withoutUnit isPercent
    · rfl
  rw [consumes_number.matchEnd?_eq_search, numberRule, Shape.standalone, sequenceOf,
    List.foldl_cons, List.foldl_cons, List.foldl_nil, search_seq, search_seq, search_asciiEdge, free,
    digitFirst, Option.any_some, Json.isAsciiWord_of_isDigit isDigit, search_seq,
    decimalRead.search_eq_some behindDecimal]
  rfl

/-- At a number with its unit the rule for numbers decides alone. -/
theorem firstMatch?_of_number (free : place.before.any isAsciiWord = false)
    (isNumeral : Numeral numeral) (isUnit : unit ∈ units)
    (readsNumeral : place.Reads numeral middle) (readsUnit : middle.Reads unit.toList stop)
    (ended : stop.after.head?.any isAsciiWord = false) :
    Language.css.firstMatch? place =
      some (numberRule, if unit = "%" then middle else stop) := by
  have found := matchEnd?_number free isNumeral isUnit readsNumeral readsUnit ended
  obtain ⟨isWhole, _⟩ := isNumeral
  obtain ⟨_, readsWhole, _⟩ := readsNumeral.exists_between
  obtain ⟨digit, isDigit, digitFirst⟩ := isWhole.exists_first readsWhole
  rw [Language.firstMatch?_eq_of_others numberRule_mem, found, Option.map_some]
  intro other member
  exact (not_canStartWith_digit digit isDigit other member).imp_right
    (matchEnd?_eq_none_of_not_canStartWith digitFirst)

/-- The tokens from a number with its unit on. -/
theorem tokensFrom_number (free : place.before.any isAsciiWord = false)
    (isNumeral : Numeral numeral) (isUnit : unit ∈ units)
    (readsNumeral : place.Reads numeral middle) (readsUnit : middle.Reads unit.toList stop)
    (ended : stop.after.head?.any isAsciiWord = false) :
    Language.css.tokensFrom place =
      if unit = "%" then .ofKind .number numeral :: .plain '%' :: Language.css.tokensFrom stop
      else .ofKind .number (numeral ++ unit.toList) :: Language.css.tokensFrom stop := by
  have decided := firstMatch?_of_number free isNumeral isUnit readsNumeral readsUnit ended
  by_cases isPercent : unit = "%"
  · subst isPercent
    rw [if_pos rfl] at decided ⊢
    cases readsUnit with
    | step read rest =>
      cases rest
      have missing : Language.css.firstMatch? middle = none := by
        refine Language.firstMatch?_eq_none_iff.mpr fun rule member => ?_
        exact matchEnd?_eq_none_of_not_canStartWith (Cursor.head?_after_of_next? read)
          (not_canStartWith_percent rule member)
      rw [Language.tokensFrom_eq_ofKind_cons decided nofun readsNumeral,
        Language.tokensFrom_of_no_match missing read]
      rfl
  · rw [if_neg isPercent] at decided ⊢
    exact Language.tokensFrom_eq_ofKind_cons decided nofun (readsNumeral.trans readsUnit)

/-- What may come behind a dimension. -/
def Separates (char : Char) : Prop := isBlank char ∨ char ∈ [';', ',', ')', '\x7d']

theorem not_isAsciiWord_of_separates {char : Char} (separates : Separates char) :
    isAsciiWord char = false := by
  rcases separates with blank | isMark
  · exact Bool.eq_false_iff.mpr (not_isAsciiWord_of_isBlank blank)
  · have noWords : ∀ char ∈ [';', ',', ')', '\x7d'], isAsciiWord char = false := by decide
    exact noWords char isMark

/-- A number with a unit is one token where no word goes on before it and something separates it
from what comes behind it, except that a percent sign stands alone behind its number. -/
theorem dimension_scanned {front numeral unit back : String} {earlier later : List Token}
    (isNumeral : Numeral numeral.toList) (isUnit : unit ∈ units)
    (free : ∀ char ∈ front.toList.getLast?, ¬isAsciiWord char)
    (ended : ∀ char ∈ back.toList.head?, Separates char)
    (split : Language.css.tokens (front ++ (numeral ++ unit ++ back)) = earlier ++ later)
    (covers : Token.joined earlier = front) :
    ((∃ behind, later = .ofKind .number (numeral ++ unit).toList :: behind) ↔ unit ≠ "%") ∧
      (unit = "%" →
        ∃ behind, later = .ofKind .number numeral.toList :: .plain '%' :: behind) := by
  obtain ⟨place, reads, fromPlace⟩ := Language.exists_reads_of_tokensFrom_eq_append split
  have toCome : place.after = numeral.toList ++ (unit.toList ++ back.toList) := by
    have whole := reads.after_eq
    rw [covers, Cursor.start_after, String.toList_append] at whole
    rw [← List.append_cancel_left whole, String.toList_append, String.toList_append,
      List.append_assoc]
  obtain ⟨middle, readsNumeral, middleAfter⟩ := Cursor.exists_reads toCome
  obtain ⟨stop, readsUnit, stopAfter⟩ := Cursor.exists_reads middleAfter
  have noWordBefore : place.before.any isAsciiWord = false := by
    rw [reads.before_eq, covers, Cursor.start, Option.or_none]
    cases last : front.toList.getLast? with
    | none => rfl
    | some char => exact Bool.eq_false_iff.mpr (free char last)
  have noWordBehind : stop.after.head?.any isAsciiWord = false := by
    rw [stopAfter]
    cases first : back.toList.head? with
    | none => rfl
    | some char => exact not_isAsciiWord_of_separates (ended char first)
  have scanned :=
    tokensFrom_number noWordBefore isNumeral isUnit readsNumeral readsUnit noWordBehind
  rw [fromPlace, scanned, String.toList_append]
  by_cases isPercent : unit = "%"
  · subst isPercent
    rw [if_pos rfl]
    refine ⟨iff_of_false ?_ fun noPercent => noPercent rfl, fun _ => ⟨_, rfl⟩⟩
    rintro ⟨behind, same⟩
    have sameText := congrArg (String.length ∘ Token.text) (List.cons.inj same).1
    simp [Token.ofKind] at sameText
  · rw [if_neg isPercent]
    exact ⟨iff_of_true ⟨_, rfl⟩ isPercent, fun percent => absurd percent isPercent⟩

/-- A length with a fraction, between a space and a semicolon. -/
theorem dimension_scanned_with_fraction :
    let tokens := Language.css.tokens ("a: " ++ ("1.5" ++ "em" ++ ";"))
    Numeral "1.5".toList ∧ "em" ∈ units ∧ (∀ char ∈ "a: ".toList.getLast?, ¬isAsciiWord char) ∧
      (∀ char ∈ ";".toList.head?, Separates char) ∧ tokens = tokens.take 3 ++ tokens.drop 3 ∧
      Token.joined (tokens.take 3) = "a: " ∧
      ∃ behind, tokens.drop 3 = .ofKind .number "1.5em".toList :: behind := by
  intro tokens
  have isNumeral : Numeral "1.5".toList := by
    have isWhole : Json.Digits ['1'] := ⟨nofun, by decide⟩
    have isFraction : Json.Fraction ['.', '5'] := .some ⟨nofun, by decide⟩
    exact .intro isWhole isFraction
  have isUnit : "em" ∈ units := by decide
  have free : ∀ char ∈ "a: ".toList.getLast?, ¬isAsciiWord char := by
    rintro _ ⟨⟩
    decide
  have ended : ∀ char ∈ ";".toList.head?, Separates char := by
    rintro _ ⟨⟩
    exact .inr (by decide)
  have split : tokens = tokens.take 3 ++ tokens.drop 3 := (List.take_append_drop 3 tokens).symm
  have covers : Token.joined (tokens.take 3) = "a: " := by decide +kernel
  exact ⟨isNumeral, isUnit, free, ended, split, covers,
    (dimension_scanned isNumeral isUnit free ended split covers).1.mpr (by decide)⟩

/-- A percentage falls apart. -/
theorem percentage_split :
    let tokens := Language.css.tokens ("" ++ ("50" ++ "%" ++ ""))
    Numeral "50".toList ∧ "%" ∈ units ∧
      tokens = [.ofKind .number "50".toList, .plain '%'] ∧
      tokens.head? ≠ some (.ofKind .number ("50" ++ "%").toList) := by
  intro tokens
  have isNumeral : Numeral "50".toList := by
    have isWhole : Json.Digits ['5', '0'] := ⟨nofun, by decide⟩
    exact .intro isWhole .none
  have split : tokens = [.ofKind .number "50".toList, .plain '%'] := by decide +kernel
  refine ⟨isNumeral, by decide, split, ?_⟩
  rw [split]
  decide

end Css

end FencedCode
