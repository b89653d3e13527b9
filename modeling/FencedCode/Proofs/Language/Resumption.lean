import FencedCode.Language.Shapes
import FencedCode.Proofs.Language.Segmentation

/-!
# Resuming a scan

A scan looks back by one character and no further, since no assertion does.  So it can be resumed
at any cut between two tokens by someone who knows the text behind the cut and the character before
it: whatever else stands before the cut, the tokens behind it are the same.

This holds for every engine that reads no character before the start of a search.
-/

namespace FencedCode

variable {search : Search} {language : Language} {front other rest later : String} {char : Char}
variable {token : Token} {tokens : List Token}

/-! ### The last character of a front -/

/-- Two texts that end in the same character. -/
def EndAlike (front other : String) : Prop :=
  ∃ char, front.toList.getLast? = some char ∧ other.toList.getLast? = some char

namespace EndAlike

theorem append (alike : EndAlike front other) (read : String) :
    EndAlike (front ++ read) (other ++ read) := by
  obtain ⟨char, last, otherLast⟩ := alike
  refine ⟨read.toList.getLast?.getD char, ?_, ?_⟩
  · rw [String.toList_append, List.getLast?_append, last]
    cases read.toList.getLast? <;> rfl
  · rw [String.toList_append, List.getLast?_append, otherLast]
    cases read.toList.getLast? <;> rfl

/-- No assertion looks further back than to the last character. -/
theorem holdsAmid_eq (alike : EndAlike front other) (assertion : Assertion) (toCome : String) :
    assertion.holdsAmid front toCome = assertion.holdsAmid other toCome := by
  obtain ⟨char, last, otherLast⟩ := alike
  rw [Assertion.holdsAmid, Assertion.holdsAmid, last, otherLast]

/-- Behind fronts that end alike a search finds an end as far away. -/
theorem exists_search_eq (alike : EndAlike front other) (onward : search.ReadsOnward)
    (pattern : Pattern) (rest : String) :
    ∃ size? : Option Nat,
      search pattern (front ++ rest) front.utf8ByteSize =
        size?.map (front.utf8ByteSize + ·) ∧
      search pattern (other ++ rest) other.utf8ByteSize =
        size?.map (other.utf8ByteSize + ·) :=
  onward pattern front other rest fun assertion read toCome _ =>
    (alike.append read).holdsAmid_eq assertion toCome

/-- So does a rule. -/
theorem exists_matchBytes_eq (alike : EndAlike front other) (onward : search.ReadsOnward)
    (rule : Rule) (rest : String) :
    ∃ size? : Option Nat,
      rule.matchBytes search (front ++ rest) front.utf8ByteSize =
        .ok (size?.map (front.utf8ByteSize + ·)) ∧
      rule.matchBytes search (other ++ rest) other.utf8ByteSize =
        .ok (size?.map (other.utf8ByteSize + ·)) := by
  obtain ⟨size?, found, otherFound⟩ := alike.exists_search_eq onward rule.pattern rest
  by_cases ended : rest = ""
  · subst ended
    refine ⟨none, ?_, ?_⟩ <;> simp [Rule.matchBytes]
  · have positive := mt String.utf8ByteSize_eq_zero_iff.mp ended
    have filtered : ∀ front : String, (size?.map (front.utf8ByteSize + ·)).filter
        (front.utf8ByteSize < ·) = (size?.filter (0 < ·)).map (front.utf8ByteSize + ·) := by
      intro front
      cases size? with
      | none => rfl
      | some size => by_cases onward : 0 < size <;> simp [Option.filter, onward]
    refine ⟨size?.filter (0 < ·), ?_, ?_⟩
    · rw [Rule.matchBytes_eq_ok (by rw [String.utf8ByteSize_append]; omega), found, filtered]
    · rw [Rule.matchBytes_eq_ok (by rw [String.utf8ByteSize_append]; omega), otherFound, filtered]

end EndAlike

namespace Language

/-! ### Tokens behind a cut -/

/-- What the rules decide does not depend on what stands before the last character. -/
theorem Decides.of_endAlike (alike : EndAlike front other) (onward : search.ReadsOnward)
    (decides : language.Decides search (front ++ rest) front.utf8ByteSize later token) :
    language.Decides search (other ++ rest) other.utf8ByteSize later token := by
  have unmatched : ∀ rule : Rule,
      rule.matchBytes search (front ++ rest) front.utf8ByteSize = .ok none →
        rule.matchBytes search (other ++ rest) other.utf8ByteSize = .ok none := by
    intro rule isNone
    obtain ⟨size?, found, otherFound⟩ := alike.exists_matchBytes_eq onward rule rest
    rw [found, Except.ok.injEq, Option.map_eq_none_iff] at isNone
    rw [otherFound, isNone, Option.map_none]
  cases decides with
  | @rule _ _ rule _ declared skipped matched kind classed =>
      refine .rule declared (fun other member => unmatched other (skipped other member)) ?_ kind
        classed
      obtain ⟨size?, found, otherFound⟩ := alike.exists_matchBytes_eq onward rule rest
      rw [found, Except.ok.injEq, Option.map_eq_some_iff] at matched
      obtain ⟨size, rfl, isSize⟩ := matched
      rw [otherFound, Option.map_some, Nat.add_left_cancel isSize]
  | noRule noMatch single kind noClass =>
      exact .noRule (fun rule member => unmatched rule (noMatch rule member)) single kind noClass

/-- Nor do the tokens from there on. -/
theorem SegmentsBehind.of_endAlike (alike : EndAlike front other) (onward : search.ReadsOnward)
    (segments : language.SegmentsBehind search front rest tokens) :
    language.SegmentsBehind search other rest tokens := by
  -- Behind the same token both fronts end alike again.
  induction tokens generalizing front other rest with
  | nil => exact segmentsBehind_nil_iff.mpr (segmentsBehind_nil_iff.mp segments)
  | cons token tokens ih =>
      obtain ⟨later, rfl, decides, behind⟩ := segmentsBehind_cons_iff.mp segments
      exact segmentsBehind_cons_iff.mpr ⟨later, rfl, decides.of_endAlike alike onward,
        ih (alike.append token.text) behind⟩

/-- The tokens behind a cut split the rest of the text. -/
theorem SegmentsBehind.of_append {earlier : List Token}
    (segments : language.SegmentsBehind search front rest (earlier ++ tokens)) :
    ∃ later, rest = Token.joined earlier ++ later ∧
      language.SegmentsBehind search (front ++ Token.joined earlier) later tokens := by
  induction earlier generalizing front rest with
  | nil =>
      refine ⟨rest, String.empty_append.symm, ?_⟩
      rwa [Token.joined_nil, String.append_empty]
  | cons token earlier ih =>
      obtain ⟨behindToken, rfl, _, behind⟩ := segmentsBehind_cons_iff.mp segments
      obtain ⟨later, rfl, rest⟩ := ih behind
      rw [Token.joined_cons]
      refine ⟨later, String.append_assoc.symm, ?_⟩
      rwa [← String.append_assoc]

variable {earlier later otherEarlier otherLater : List Token}

/-- The tokens behind a cut are those of a scan that starts there. -/
theorem segmentsBehind_of_tokenize
    (split : language.tokenize search (front ++ rest) = .ok (earlier ++ later))
    (covers : Token.joined earlier = front) :
    language.SegmentsBehind search front rest later := by
  obtain ⟨toCome, parts, behind⟩ :=
    (segments_iff_segmentsBehind.mp (tokenize_eq_ok_iff.mp split)).of_append
  rw [covers] at parts behind
  rw [String.empty_append] at behind
  rw [String.append_right_inj] at parts
  rwa [parts]

/-- Two texts end alike behind a cut in the tokens of each, and the character before the cut is the
same.  Then the tokens behind the cut are the same, whatever comes before that character. -/
theorem tokens_behind_cut_eq (onward : search.ReadsOnward)
    (last : front.toList.getLast? = some char) (otherLast : other.toList.getLast? = some char)
    (split : language.tokenize search (front ++ rest) = .ok (earlier ++ later))
    (covers : Token.joined earlier = front)
    (otherSplit : language.tokenize search (other ++ rest) = .ok (otherEarlier ++ otherLater))
    (otherCovers : Token.joined otherEarlier = other) :
    later = otherLater := by
  have behind : language.SegmentsBehind search other rest later :=
    (segmentsBehind_of_tokenize split covers).of_endAlike ⟨char, last, otherLast⟩ onward
  have otherBehind := segmentsBehind_of_tokenize otherSplit otherCovers
  rw [← tokenizeFrom_eq_ok_iff] at behind otherBehind
  rw [behind, Except.ok.injEq] at otherBehind
  exact otherBehind

/-- A number must have an edge of a word before it, which the blank before the cut decides. -/
theorem tokens_behind_cut_eq_behind_blank :
    let number := Shape.standalone (.plus (.one Shape.digits))
    let language : Language :=
      { name := "Numbers", rules := [{ kind := .number, pattern := number }] }
    let tokens := language.tokens ("ab " ++ "12")
    let otherTokens := language.tokens ("7 " ++ "12")
    Search.ReadsOnward Pattern.find? ∧
      "ab ".toList.getLast? = some ' ' ∧ "7 ".toList.getLast? = some ' ' ∧
      language.tokenize Pattern.find? ("ab " ++ "12") = .ok (tokens.take 3 ++ tokens.drop 3) ∧
      Token.joined (tokens.take 3) = "ab " ∧
      language.tokenize Pattern.find? ("7 " ++ "12") =
        .ok (otherTokens.take 2 ++ otherTokens.drop 2) ∧
      Token.joined (otherTokens.take 2) = "7 " ∧
      tokens.drop 3 = otherTokens.drop 2 := by
  intro number language tokens otherTokens
  have onward := Pattern.find?_readsOnward
  have last : "ab ".toList.getLast? = some ' ' := rfl
  have otherLast : "7 ".toList.getLast? = some ' ' := rfl
  have split : language.tokenize Pattern.find? ("ab " ++ "12") =
      .ok (tokens.take 3 ++ tokens.drop 3) := by
    rw [List.take_append_drop, tokenize_find?]
  have otherSplit : language.tokenize Pattern.find? ("7 " ++ "12") =
      .ok (otherTokens.take 2 ++ otherTokens.drop 2) := by
    rw [List.take_append_drop, tokenize_find?]
  have covers : Token.joined (tokens.take 3) = "ab " := by decide +kernel
  have otherCovers : Token.joined (otherTokens.take 2) = "7 " := by decide +kernel
  exact ⟨onward, last, otherLast, split, covers, otherSplit, otherCovers,
    tokens_behind_cut_eq onward last otherLast split covers otherSplit otherCovers⟩

end Language

end FencedCode
