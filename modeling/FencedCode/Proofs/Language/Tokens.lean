import FencedCode.Language.Tokens
import FencedCode.Proofs.Pattern.Matching

/-!
# What a token covers

Every token is read off the text at the place where it starts, and the tokens behind it are those
from the place where it ends.  So a list of tokens can be cut anywhere: the tokens behind the cut
depend on nothing but the place that the tokens before it lead to.
-/

namespace FencedCode

namespace Token

/-- The text of some tokens. -/
def joined (tokens : List Token) : String := String.join (tokens.map Token.text)

theorem joined_nil : joined [] = "" := rfl

@[simp] theorem toList_joined_nil : (joined []).toList = [] := rfl

@[simp] theorem toList_joined_cons (token : Token) (tokens : List Token) :
    (joined (token :: tokens)).toList = token.text.toList ++ (joined tokens).toList := by
  simp [joined]

theorem joined_cons (token : Token) (tokens : List Token) :
    joined (token :: tokens) = token.text ++ joined tokens := by
  rw [← String.toList_inj, toList_joined_cons, String.toList_append]

end Token

namespace Language

variable {language : Language} {cursor : Cursor}

/-! ### The rule that decides -/

theorem firstMatch?_eq_some_iff {rule : Rule} {stop : Cursor} :
    language.firstMatch? cursor = some (rule, stop) ↔
      ∃ earlier later, language.rules = earlier ++ rule :: later ∧
        (∀ other ∈ earlier, other.pattern.matchEnd? cursor = none) ∧
        rule.pattern.matchEnd? cursor = some stop := by
  rw [firstMatch?, List.findSome?_eq_some_iff]
  constructor
  · rintro ⟨earlier, first, later, declared, matched, skipped⟩
    obtain ⟨place, found, same⟩ := Option.map_eq_some_iff.mp matched
    cases same
    refine ⟨earlier, later, declared, ?_, found⟩
    intro other member
    exact Option.map_eq_none_iff.mp (skipped other member)
  · rintro ⟨earlier, later, declared, skipped, found⟩
    refine ⟨earlier, rule, later, declared, by simp [found], ?_⟩
    intro other member
    simp [skipped other member]

theorem firstMatch?_eq_none_iff :
    language.firstMatch? cursor = none ↔
      ∀ rule ∈ language.rules, rule.pattern.matchEnd? cursor = none := by
  simp [firstMatch?]

/-! ### The first token -/

theorem tokensFrom_of_match {rule : Rule} {stop : Cursor}
    (found : language.firstMatch? cursor = some (rule, stop)) :
    language.tokensFrom cursor =
      language.tokenOf rule cursor stop :: language.tokensFrom stop := by
  rw [tokensFrom]
  split
  · next rule' stop' found' =>
    rw [found] at found'
    cases found'
    rfl
  · next missing =>
    rw [found] at missing
    cases missing

theorem tokensFrom_of_no_match {char : Char} {following : Cursor}
    (missing : language.firstMatch? cursor = none)
    (step : cursor.next? = some (char, following)) :
    language.tokensFrom cursor = .plain char :: language.tokensFrom following := by
  rw [tokensFrom]
  split
  · next found =>
    rw [missing] at found
    cases found
  · split
    · next step' =>
      rw [step] at step'
      cases step'
      rfl
    · next ended =>
      rw [step] at ended
      cases ended

/-- At the end of the text there is nothing left to match. -/
theorem tokensFrom_of_after_eq_nil (ended : cursor.after = []) :
    language.tokensFrom cursor = [] := by
  have empty : cursor.size = 0 := by rw [cursor.size_eq, ended, List.length_nil]
  rw [tokensFrom]
  split
  · next found =>
    have := size_lt_of_firstMatch? found
    omega
  · split
    · next step =>
      rw [Cursor.next?_eq_none_iff.mpr ended] at step
      cases step
    · rfl

/-- A first token is the match of the rule that decides, or one character that no rule matches. -/
theorem tokensFrom_eq_cons {token : Token} {tokens : List Token}
    (split : language.tokensFrom cursor = token :: tokens) :
    (∃ rule stop, language.firstMatch? cursor = some (rule, stop) ∧
      token = language.tokenOf rule cursor stop ∧ tokens = language.tokensFrom stop) ∨
    (language.firstMatch? cursor = none ∧ ∃ char following,
      cursor.next? = some (char, following) ∧ token = .plain char ∧
      tokens = language.tokensFrom following) := by
  cases found : language.firstMatch? cursor with
  | some pair =>
      obtain ⟨rule, stop⟩ := pair
      rw [tokensFrom_of_match found, List.cons.injEq] at split
      exact .inl ⟨rule, stop, rfl, split.1.symm, split.2.symm⟩
  | none =>
      cases step : cursor.next? with
      | some pair =>
          obtain ⟨char, following⟩ := pair
          rw [tokensFrom_of_no_match found step, List.cons.injEq] at split
          exact .inr ⟨rfl, char, following, rfl, split.1.symm, split.2.symm⟩
      | none =>
          rw [tokensFrom_of_after_eq_nil (Cursor.next?_eq_none_iff.mp step)] at split
          cases split

/-- A first token covers some characters, and the other tokens start behind them. -/
theorem reads_of_tokensFrom_eq_cons {token : Token} {tokens : List Token}
    (split : language.tokensFrom cursor = token :: tokens) :
    token.text ≠ "" ∧ ∃ following, cursor.Reads token.text.toList following ∧
      tokens = language.tokensFrom following := by
  rcases tokensFrom_eq_cons split with
    ⟨rule, stop, found, rfl, rest⟩ | ⟨_, char, following, step, rfl, rest⟩
  · obtain ⟨chars, nonempty, reads⟩ :=
      Pattern.exists_reads_of_matchEnd? (firstMatch?_eq_some found)
    have text : (language.tokenOf rule cursor stop).text = String.ofList chars := by
      rw [tokenOf, reads.charsTo_eq]
    rw [text, String.toList_ofList]
    exact ⟨by simpa using nonempty, stop, reads, rest⟩
  · have text : (Token.plain char).text.toList = [char] :=
      String.toList_singleton char
    rw [text]
    exact ⟨by simp [Token.plain], following, .step step (.stay following), rest⟩

/-! ### Cutting a list of tokens -/

/-- The tokens behind a cut are those from the place where the tokens before it end. -/
theorem exists_reads_of_tokensFrom_eq_append {earlier later : List Token}
    (split : language.tokensFrom cursor = earlier ++ later) :
    ∃ place, cursor.Reads (Token.joined earlier).toList place ∧
      later = language.tokensFrom place := by
  induction earlier generalizing cursor with
  | nil => exact ⟨cursor, .stay cursor, split.symm⟩
  | cons token earlier ih =>
      obtain ⟨_, following, reads, rest⟩ := reads_of_tokensFrom_eq_cons split
      obtain ⟨place, readsMore, later⟩ := ih rest.symm
      rw [Token.toList_joined_cons]
      exact ⟨place, reads.trans readsMore, later⟩

/-- A list of tokens ends at the end of the text. -/
theorem tokensFrom_eq_nil_iff : language.tokensFrom cursor = [] ↔ cursor.after = [] := by
  constructor
  · intro empty
    cases step : cursor.next? with
    | none => exact Cursor.next?_eq_none_iff.mp step
    | some pair =>
        obtain ⟨char, following⟩ := pair
        cases found : language.firstMatch? cursor with
        | none => simp [tokensFrom_of_no_match found step] at empty
        | some pair => simp [tokensFrom_of_match found] at empty
  · exact tokensFrom_of_after_eq_nil

/-- Tokens lose nothing of the text and add nothing to it. -/
theorem toList_joined_tokensFrom :
    (Token.joined (language.tokensFrom cursor)).toList = cursor.after := by
  have split : language.tokensFrom cursor = language.tokensFrom cursor ++ [] := by simp
  obtain ⟨place, reads, rest⟩ := exists_reads_of_tokensFrom_eq_append split
  rw [reads.after_eq, tokensFrom_eq_nil_iff.mp rest.symm, List.append_nil]

theorem joined_tokens (text : String) : Token.joined (language.tokens text) = text := by
  rw [← String.toList_inj, tokens, toList_joined_tokensFrom, Cursor.start_after]

theorem text_ne_empty_of_mem {token : Token} (member : token ∈ language.tokensFrom cursor) :
    token.text ≠ "" := by
  obtain ⟨earlier, later, split⟩ := List.append_of_mem member
  obtain ⟨place, _, rest⟩ := exists_reads_of_tokensFrom_eq_append split
  exact (reads_of_tokensFrom_eq_cons rest.symm).1

end Language

/-- Tokens that all cover something are at most as many as the characters they cover. -/
theorem Token.length_le_length_joined {tokens : List Token}
    (nonempty : ∀ token ∈ tokens, token.text ≠ "") :
    tokens.length ≤ (joined tokens).toList.length := by
  induction tokens with
  | nil => exact Nat.le_refl 0
  | cons token tokens ih =>
      have covered := ih fun other member => nonempty other (List.mem_cons_of_mem _ member)
      have here : token.text.toList.length ≠ 0 := by
        simpa using nonempty token (List.mem_cons_self ..)
      rw [toList_joined_cons, List.length_append, List.length_cons]
      omega

end FencedCode
