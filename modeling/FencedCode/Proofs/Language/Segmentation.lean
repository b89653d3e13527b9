import FencedCode.Proofs.Language.Search
import FencedCode.Proofs.Language.Tokens

/-!
# First match wins

What it means for a list of tokens to split a text the way the rules of a language ask for, said
without scanning: at the byte where a token starts the first rule that matches decides its kind and
its end, and a character stands alone only where no rule matches.

Splitting the bytes of a text gives such a list whenever it gives one, and no other list will do.
That it gives one rests on the engine only in so far as matches have to end between characters.
-/

namespace FencedCode

namespace Language

variable {language : Language} {text : String}

/-! ### Classes -/

/-- A word is listed as it is written or in small letters. -/
def Lists (words : List String) (word : String) : Prop :=
  word ∈ words ∨ Text.lower word ∈ words

/-- The class of a match of some kind, given the text behind it.  Among words a keyword comes
first, then a name that the language provides, then a word right before a parenthesis. -/
inductive Classed (language : Language) (word after : String) :
    TokenKind → Option TokenClass → Prop where
  | keyword (isKeyword : Lists language.keywords word) :
      Classed language word after .word (some .keyword)
  | builtin (noKeyword : ¬Lists language.keywords word)
      (isBuiltin : Lists language.builtins word) :
      Classed language word after .word (some .builtin)
  | function (noKeyword : ¬Lists language.keywords word)
      (noBuiltin : ¬Lists language.builtins word) (isCalled : ['('] <+: after.toList) :
      Classed language word after .word (some .function)
  | plain (noKeyword : ¬Lists language.keywords word)
      (noBuiltin : ¬Lists language.builtins word) (notCalled : ¬['('] <+: after.toList) :
      Classed language word after .word none
  | other {kind : TokenKind} (noWord : kind ≠ .word) :
      Classed language word after kind kind.tokenClass?

theorem knowsWord_iff {words : List String} {word : String} :
    knowsWord words word = true ↔ Lists words word := by
  simp [knowsWord, Lists]

theorem singleton_prefix_iff {char : Char} {chars : List Char} :
    [char] <+: chars ↔ chars.head? = some char := by
  cases chars with
  | nil => simp
  | cons head tail =>
      rw [List.cons_prefix_cons, List.head?_cons, Option.some.injEq]
      simp only [List.nil_prefix, and_true]
      exact eq_comm

theorem classed_iff {word after : String} {kind : TokenKind} {tokenClass : Option TokenClass} :
    language.Classed word after kind tokenClass ↔
      tokenClass = language.classOf? kind word after.toList := by
  constructor
  · intro classed
    cases classed with
    | keyword isKeyword =>
        simp [classOf?, wordClass?, Language.isKeyword, knowsWord_iff, isKeyword]
    | builtin noKeyword isBuiltin =>
        simp [classOf?, wordClass?, Language.isKeyword, Language.isBuiltin, knowsWord_iff, noKeyword,
          isBuiltin]
    | function noKeyword noBuiltin isCalled =>
        simp [classOf?, wordClass?, Language.isKeyword, Language.isBuiltin, knowsWord_iff, noKeyword,
          noBuiltin, singleton_prefix_iff.mp isCalled]
    | plain noKeyword noBuiltin notCalled =>
        rw [singleton_prefix_iff] at notCalled
        simp [classOf?, wordClass?, Language.isKeyword, Language.isBuiltin, knowsWord_iff, noKeyword,
          noBuiltin, notCalled]
    | other noWord => rw [classOf?, if_neg noWord]
  · rintro rfl
    by_cases isWord : kind = .word
    · subst isWord
      rw [classOf?, if_pos rfl, wordClass?, Language.isKeyword, Language.isBuiltin]
      split
      · next isKeyword => exact .keyword (knowsWord_iff.mp isKeyword)
      · next noKeyword =>
        rw [knowsWord_iff] at noKeyword
        split
        · next isBuiltin => exact .builtin noKeyword (knowsWord_iff.mp isBuiltin)
        · next noBuiltin =>
          rw [knowsWord_iff] at noBuiltin
          split
          · next isCalled =>
            exact .function noKeyword noBuiltin (singleton_prefix_iff.mpr (beq_iff_eq.mp isCalled))
          · next notCalled =>
            refine .plain noKeyword noBuiltin fun isCalled => notCalled ?_
            exact beq_iff_eq.mpr (singleton_prefix_iff.mp isCalled)
    · rw [classOf?, if_neg isWord]
      exact .other isWord

end Language

/-! ### Slices -/

/-- A part of a text is the slice from its first byte to its last one. -/
theorem slice_append (front middle rest : String) :
    slice (front ++ (middle ++ rest)) front.utf8ByteSize
      (front.utf8ByteSize + middle.utf8ByteSize) = .ok middle := by
  have isFirst : IsBoundary (front ++ (middle ++ rest)) front.utf8ByteSize :=
    String.Pos.Raw.isValid_iff_exists_append.mpr ⟨front, middle ++ rest, rfl, rfl⟩
  have isLast : IsBoundary (front ++ (middle ++ rest))
      (front.utf8ByteSize + middle.utf8ByteSize) := by
    refine String.Pos.Raw.isValid_iff_exists_append.mpr ⟨front ++ middle, rest, ?_, ?_⟩
    · exact String.append_assoc.symm
    · rw [← String.utf8ByteSize_append]
      rfl
  rw [slice, dif_pos ⟨isFirst, isLast, Nat.le_add_right ..⟩, Except.ok.injEq,
    ← String.toByteArray_inj, String.toByteArray_extract, String.toByteArray_append,
    String.toByteArray_append]
  calc (front.toByteArray ++ (middle.toByteArray ++ rest.toByteArray)).extract
        (front.utf8ByteSize + 0) (front.utf8ByteSize + middle.utf8ByteSize)
    _ = (middle.toByteArray ++ rest.toByteArray).extract 0 middle.utf8ByteSize :=
        ByteArray.extract_append_size_add' String.size_toByteArray.symm
    _ = middle.toByteArray := ByteArray.extract_append_eq_left String.size_toByteArray.symm

/-- The slice up to the end of a text. -/
theorem slice_to_end (front rest : String) :
    slice (front ++ rest) front.utf8ByteSize (front ++ rest).utf8ByteSize = .ok rest := by
  have whole := slice_append front rest ""
  rwa [String.append_empty, ← String.utf8ByteSize_append] at whole

/-- A boundary cuts a text in two. -/
theorem isBoundary_iff_exists_append {offset : Nat} :
    IsBoundary text offset ↔
      ∃ front rest : String, text = front ++ rest ∧ front.utf8ByteSize = offset := by
  rw [IsBoundary, String.Pos.Raw.isValid_iff_exists_append]
  constructor
  · rintro ⟨front, rest, whole, isEnd⟩
    exact ⟨front, rest, whole, (congrArg String.Pos.Raw.byteIdx isEnd).symm⟩
  · rintro ⟨front, rest, whole, rfl⟩
    exact ⟨front, rest, whole, rfl⟩

/-- A boundary that is not before a cut of a text cuts the part behind it. -/
theorem exists_append_of_isBoundary {front rest : String} {stop : Nat}
    (isStop : IsBoundary (front ++ rest) stop) (onward : front.utf8ByteSize ≤ stop) :
    ∃ middle later : String, rest = middle ++ later ∧
      stop = front.utf8ByteSize + middle.utf8ByteSize := by
  obtain ⟨upTo, later, whole, rfl⟩ := isBoundary_iff_exists_append.mp isStop
  have parts := congrArg String.toList whole
  rw [String.toList_append, String.toList_append, List.append_eq_append_iff] at parts
  rcases parts with ⟨middle, isUpTo, isRest⟩ | ⟨middle, isFront, isLater⟩
  · refine ⟨.ofList middle, later, ?_, ?_⟩
    · rw [← String.toList_inj]
      simpa using isRest
    · rw [utf8ByteSize_ofList, ← byteSize_toList upTo, isUpTo, byteSize_append, byteSize_toList]
  · have sizes := congrArg byteSize isFront
    rw [byteSize_append, byteSize_toList, byteSize_toList] at sizes
    have nothing : middle = [] := byteSize_eq_zero_iff.mp (by omega)
    refine ⟨"", rest, String.empty_append.symm, ?_⟩
    rw [nothing, List.append_nil, String.toList_inj] at isFront
    rw [isFront]
    rfl

/-- What is sliced behind a cut of a text is a part of the text that follows the cut. -/
theorem slice_behind_eq_ok_iff {front rest part : String} {stop : Nat} :
    slice (front ++ rest) front.utf8ByteSize stop = .ok part ↔
      ∃ later, rest = part ++ later ∧ stop = front.utf8ByteSize + part.utf8ByteSize := by
  constructor
  · intro sliced
    have bounds := sliced
    rw [slice] at bounds
    split at bounds
    · next within =>
      obtain ⟨middle, later, rfl, rfl⟩ := exists_append_of_isBoundary within.2.1 within.2.2
      rw [slice_append, Except.ok.injEq] at sliced
      cases sliced
      exact ⟨later, rfl, rfl⟩
    · cases bounds
  · rintro ⟨later, rfl, rfl⟩
    exact slice_append ..

/-! ### The first match -/

namespace Rule

variable {search : Search} {text : String} {offset stop : Nat} {rules : List Rule}

/-- Matching a rule is without a fault at any offset. -/
theorem exists_matchBytes (search : Search) (rule : Rule) (text : String) (offset : Nat) :
    ∃ match?, rule.matchBytes search text offset = .ok match? := by
  by_cases before : offset < text.utf8ByteSize
  · exact ⟨_, matchBytes_eq_ok before⟩
  · exact ⟨none, by rw [matchBytes, if_pos (Nat.not_lt.mp before)]⟩

theorem exists_firstMatch (search : Search) (text : String) (offset : Nat) (rules : List Rule) :
    ∃ match?, firstMatch search text offset rules = .ok match? := by
  induction rules with
  | nil => exact ⟨none, rfl⟩
  | cons rule others ih =>
      obtain ⟨match?, matched⟩ := rule.exists_matchBytes search text offset
      rw [firstMatch, matched]
      cases match? with
      | none => exact ih
      | some stop => exact ⟨some (rule.kind, stop), rfl⟩

theorem firstMatch_eq_none_iff :
    firstMatch search text offset rules = .ok none ↔
      ∀ rule ∈ rules, rule.matchBytes search text offset = .ok none := by
  induction rules with
  | nil => simp [firstMatch]
  | cons rule others ih =>
      obtain ⟨match?, matched⟩ := rule.exists_matchBytes search text offset
      rw [firstMatch, matched, List.forall_mem_cons, matched]
      cases match? with
      | none => simpa [bind, Except.bind] using ih
      | some stop => simp [bind, Except.bind, pure, Except.pure]

theorem firstMatch_eq_some_iff {kind : TokenKind} :
    firstMatch search text offset rules = .ok (some (kind, stop)) ↔
      ∃ earlier rule later, rules = earlier ++ rule :: later ∧
        (∀ other ∈ earlier, other.matchBytes search text offset = .ok none) ∧
        rule.matchBytes search text offset = .ok (some stop) ∧ rule.kind = kind := by
  constructor
  · intro found
    induction rules with
    | nil => cases found
    | cons rule others ih =>
        obtain ⟨match?, matched, found⟩ := exists_ok_of_bind_eq_ok found
        cases match? with
        | none =>
            obtain ⟨earlier, first, later, rfl, skipped, isMatch⟩ := ih found
            exact ⟨rule :: earlier, first, later, rfl,
              List.forall_mem_cons.mpr ⟨matched, skipped⟩, isMatch⟩
        | some first =>
            cases found
            exact ⟨[], rule, others, rfl, List.forall_mem_nil _, matched, rfl⟩
  · rintro ⟨earlier, rule, later, rfl, skipped, matched, rfl⟩
    induction earlier with
    | nil =>
        rw [List.nil_append, firstMatch, matched]
        rfl
    | cons other earlier ih =>
        obtain ⟨here, others⟩ := List.forall_mem_cons.mp skipped
        rw [List.cons_append, firstMatch, here]
        exact ih others

end Rule

namespace Language

variable {search : Search} {language : Language} {text front rest later : String}
variable {token : Token} {tokens : List Token} {next : Nat}

/-! ### Tokens in place -/

/-- A token is what the rules of a language ask for at a byte of a text, given the text behind
the token. -/
inductive Decides (search : Search) (language : Language) (text : String) (offset : Nat)
    (after : String) : Token → Prop where
  /-- The first rule that matches gives the token its kind and its end. -/
  | rule {earlier later : List Rule} {rule : Rule} {token : Token}
      (declared : language.rules = earlier ++ rule :: later)
      (skipped : ∀ other ∈ earlier, other.matchBytes search text offset = .ok none)
      (matched : rule.matchBytes search text offset =
        .ok (some (offset + token.text.utf8ByteSize)))
      (kind : token.kind = some rule.kind)
      (classed : language.Classed token.text after rule.kind token.tokenClass) :
      Decides search language text offset after token
  /-- Where no rule matches, one character stands alone. -/
  | noRule {token : Token}
      (unmatched : ∀ rule ∈ language.rules, rule.matchBytes search text offset = .ok none)
      (single : token.text.length = 1) (kind : token.kind = none)
      (noClass : token.tokenClass = none) :
      Decides search language text offset after token

/-- A list of tokens splits a text as the rules of a language ask for. -/
structure Segments (search : Search) (language : Language) (text : String) (tokens : List Token) :
    Prop where
  /-- Nothing is lost and nothing is added. -/
  joined : Token.joined tokens = text
  nonempty : ∀ token ∈ tokens, token.text ≠ ""
  /-- There are at most as many tokens as characters. -/
  length_le : tokens.length ≤ text.length
  /-- At the byte where a token starts the rules decide for it. -/
  decided : ∀ earlier token later, tokens = earlier ++ token :: later →
    language.Decides search text (Token.joined earlier).utf8ByteSize (Token.joined later) token

theorem Decides.text_ne_empty {offset : Nat}
    (decides : language.Decides search text offset later token) : token.text ≠ "" := by
  intro empty
  cases decides with
  | rule declared skipped matched =>
      have onward := Rule.lt_of_matchBytes matched
      rw [empty] at onward
      exact Nat.lt_irrefl _ onward
  | noRule unmatched single =>
      rw [empty] at single
      cases single

/-! ### The next token -/

theorem classOfSlice_behind (language : Language) (front rest : String) (kind : TokenKind)
    (word : String) :
    language.classOfSlice (front ++ rest) kind word front.utf8ByteSize =
      .ok (language.classOf? kind word rest.toList) := by
  rw [classOfSlice, slice_to_end, classOf?]
  split <;> rfl

/-- What the rules decide behind a cut of a text is the token that comes next. -/
theorem nextToken_of_decides (decides :
    language.Decides search (front ++ (token.text ++ later)) front.utf8ByteSize later token) :
    language.nextToken search (front ++ (token.text ++ later)) front.utf8ByteSize =
      .ok (token, front.utf8ByteSize + token.text.utf8ByteSize) := by
  obtain ⟨kind, covered, tokenClass⟩ := token
  cases decides with
  | rule declared skipped matched sameKind classed =>
      have first := Rule.firstMatch_eq_some_iff.mpr ⟨_, _, _, declared, skipped, matched, rfl⟩
      have isClass := classOfSlice_behind language (front ++ covered) later
      rw [String.append_assoc, String.utf8ByteSize_append] at isClass
      rw [nextToken, first]
      simp only [bind, Except.bind, slice_append, isClass, ← classed_iff.mp classed, ← sameKind]
      rfl
  | noRule unmatched single noKind noClass =>
      have none := Rule.firstMatch_eq_none_iff.mpr unmatched
      obtain ⟨char, isSingle⟩ := List.length_eq_one_iff.mp (String.length_toList.trans single)
      have size : char.utf8Size = covered.utf8ByteSize := by
        rw [← byteSize_toList, isSingle]
        rfl
      have first : (covered ++ later).toList.head? = some char := by
        rw [String.toList_append, isSingle]
        rfl
      dsimp only at noKind noClass
      rw [nextToken, none]
      simp only [bind, Except.bind, slice_to_end, first, Option.map_some, Option.getD_some, size,
        slice_append, noKind, noClass]
      rfl

/-- The token that comes next behind a cut of a text is what the rules decide there. -/
theorem decides_of_nextToken (before : rest ≠ "")
    (found : language.nextToken search (front ++ rest) front.utf8ByteSize = .ok (token, next)) :
    ∃ later, rest = token.text ++ later ∧
      next = front.utf8ByteSize + token.text.utf8ByteSize ∧
      language.Decides search (front ++ rest) front.utf8ByteSize later token := by
  obtain ⟨match?, matched, found⟩ := exists_ok_of_bind_eq_ok found
  cases match? with
  | some pair =>
      obtain ⟨kind, stop⟩ := pair
      obtain ⟨word, sliced, found⟩ := exists_ok_of_bind_eq_ok found
      obtain ⟨tokenClass, isClass, found⟩ := exists_ok_of_bind_eq_ok found
      cases found
      obtain ⟨later, rfl, rfl⟩ := slice_behind_eq_ok_iff.mp sliced
      obtain ⟨earlier, rule, others, declared, skipped, isMatch, rfl⟩ :=
        Rule.firstMatch_eq_some_iff.mp matched
      refine ⟨later, rfl, rfl, .rule declared skipped isMatch rfl (classed_iff.mpr ?_)⟩
      have expected := classOfSlice_behind language (front ++ word) later rule.kind word
      rw [String.append_assoc, String.utf8ByteSize_append, isClass, Except.ok.injEq] at expected
      exact expected
  | none =>
      obtain ⟨toCome, sliced, found⟩ := exists_ok_of_bind_eq_ok found
      obtain ⟨covered, isCovered, found⟩ := exists_ok_of_bind_eq_ok found
      cases found
      rw [slice_to_end, Except.ok.injEq] at sliced
      subst sliced
      obtain ⟨later, rfl, size⟩ := slice_behind_eq_ok_iff.mp isCovered
      refine ⟨later, rfl, size, .noRule (Rule.firstMatch_eq_none_iff.mp matched) ?_ rfl rfl⟩
      -- What is sliced is as long as the first character, so it is this character.
      cases toCome : (covered ++ later).toList with
      | nil => exact absurd (String.toList_eq_nil_iff.mp toCome) before
      | cons char others =>
          rw [toCome, List.head?_cons, Option.map_some, Option.getD_some,
            Nat.add_left_cancel_iff] at size
          have sameSize : byteSize covered.toList = byteSize [char] := by
            rw [byteSize_toList, ← size]
            rfl
          rw [String.toList_append] at toCome
          have single : covered.toList = [char] := eq_of_byteSize_eq toCome sameSize
          rw [← String.length_toList, single, List.length_singleton]

/-- Before the end of a text the next token is found without a fault, if matches end between
characters. -/
theorem exists_nextToken (keeps : search.KeepsBoundaries) (language : Language)
    (before : rest ≠ "") :
    ∃ token next, language.nextToken search (front ++ rest) front.utf8ByteSize =
      .ok (token, next) := by
  have isHere : IsBoundary (front ++ rest) front.utf8ByteSize :=
    isBoundary_iff_exists_append.mpr ⟨front, rest, rfl, rfl⟩
  have within : front.utf8ByteSize < (front ++ rest).utf8ByteSize := by
    have := mt String.utf8ByteSize_eq_zero_iff.mp before
    rw [String.utf8ByteSize_append]
    omega
  obtain ⟨match?, matched⟩ := Rule.exists_firstMatch search (front ++ rest) front.utf8ByteSize
    language.rules
  rw [nextToken, matched]
  cases match? with
  | some pair =>
      obtain ⟨kind, stop⟩ := pair
      have onward := Rule.lt_of_firstMatch matched
      obtain ⟨_, rule, _, _, _, isMatch, rfl⟩ := Rule.firstMatch_eq_some_iff.mp matched
      rw [Rule.matchBytes_eq_ok within, Except.ok.injEq, Option.filter_eq_some_iff] at isMatch
      -- The word can only be sliced because the engine ends its match between characters.
      have isStop := keeps rule.pattern _ _ _ isMatch.1 isHere
      obtain ⟨word, later, rfl, rfl⟩ := exists_append_of_isBoundary isStop (Nat.le_of_lt onward)
      have isClass := classOfSlice_behind language (front ++ word) later
      rw [String.append_assoc, String.utf8ByteSize_append] at isClass
      simp only [bind, Except.bind, slice_append, isClass]
      exact ⟨_, _, rfl⟩
  | none =>
      cases toCome : rest.toList with
      | nil => exact absurd (String.toList_eq_nil_iff.mp toCome) before
      | cons char others =>
          have parts : rest = String.singleton char ++ String.ofList others := by
            rw [← String.toList_inj, toCome]
            simp
          have single := slice_append front (String.singleton char) (String.ofList others)
          rw [← parts, String.utf8ByteSize_singleton] at single
          simp only [bind, Except.bind, slice_to_end, toCome, List.head?_cons, Option.map_some,
            Option.getD_some, single]
          exact ⟨_, _, rfl⟩

/-! ### All tokens -/

theorem tokenizeFrom_of_lt {offset : Nat} (before : offset < text.utf8ByteSize) :
    language.tokenizeFrom search text offset =
      (language.nextToken search text offset).bind fun found =>
        (language.tokenizeFrom search text found.2).map (found.1 :: ·) := by
  rw [tokenizeFrom, if_pos before]
  split
  · next found => rw [found]; rfl
  · next found => rw [found]; rfl

theorem tokenizeFrom_of_le {offset : Nat} (ended : text.utf8ByteSize ≤ offset) :
    language.tokenizeFrom search text offset = .ok [] := by
  rw [tokenizeFrom, if_neg (Nat.not_lt.mpr ended)]

theorem tokenizeFrom_eq_cons_iff {offset : Nat} :
    language.tokenizeFrom search text offset = .ok (token :: tokens) ↔
      offset < text.utf8ByteSize ∧ ∃ next,
        language.nextToken search text offset = .ok (token, next) ∧
        language.tokenizeFrom search text next = .ok tokens := by
  constructor
  · intro result
    by_cases before : offset < text.utf8ByteSize
    · rw [tokenizeFrom_of_lt before] at result
      obtain ⟨⟨first, next⟩, found, result⟩ := exists_ok_of_bind_eq_ok result
      cases others : language.tokenizeFrom search text next with
      | error fault => simp [others, Except.map] at result
      | ok rest =>
          rw [others] at result
          cases result
          exact ⟨before, next, found, others⟩
    · rw [tokenizeFrom_of_le (Nat.not_lt.mp before)] at result
      cases result
  · rintro ⟨before, next, found, others⟩
    rw [tokenizeFrom_of_lt before, found, Except.bind, others]
    rfl

theorem tokenizeFrom_eq_nil_iff {offset : Nat} :
    language.tokenizeFrom search text offset = .ok [] ↔ text.utf8ByteSize ≤ offset := by
  refine ⟨fun result => ?_, tokenizeFrom_of_le⟩
  by_contra within
  rw [tokenizeFrom_of_lt (Nat.not_le.mp within)] at result
  obtain ⟨⟨first, next⟩, _, result⟩ := exists_ok_of_bind_eq_ok result
  cases others : language.tokenizeFrom search text next <;> simp [others, Except.map] at result

/-- Tokens cover the rest of a text behind some front, and the rules decide for each of them. -/
structure SegmentsBehind (search : Search) (language : Language) (front rest : String)
    (tokens : List Token) : Prop where
  joined : Token.joined tokens = rest
  decided : ∀ earlier token later, tokens = earlier ++ token :: later →
    language.Decides search (front ++ rest) (front ++ Token.joined earlier).utf8ByteSize
      (Token.joined later) token

theorem segmentsBehind_nil_iff : language.SegmentsBehind search front rest [] ↔ rest = "" := by
  constructor
  · exact fun segments => segments.joined.symm
  · rintro rfl
    exact ⟨rfl, fun earlier token later split => by simp at split⟩

theorem segmentsBehind_cons_iff :
    language.SegmentsBehind search front rest (token :: tokens) ↔ ∃ later,
      rest = token.text ++ later ∧
      language.Decides search (front ++ rest) front.utf8ByteSize later token ∧
      language.SegmentsBehind search (front ++ token.text) later tokens := by
  constructor
  · intro segments
    have parts : rest = token.text ++ Token.joined tokens := by
      rw [← segments.joined, ← String.toList_inj, Token.toList_joined_cons, String.toList_append]
    have here := segments.decided [] token tokens rfl
    rw [Token.joined_nil, String.append_empty] at here
    refine ⟨_, parts, here, rfl, ?_⟩
    intro earlier other later split
    have there := segments.decided (token :: earlier) other later (by rw [split, List.cons_append])
    rw [Token.joined_cons, ← String.append_assoc] at there
    rwa [String.append_assoc, ← parts]
  · rintro ⟨later, rfl, here, behind⟩
    refine ⟨by rw [Token.joined_cons, behind.joined], ?_⟩
    intro earlier other others split
    cases earlier with
    | nil =>
        cases split
        rw [Token.joined_nil, String.append_empty, behind.joined]
        exact here
    | cons first earlier =>
        rw [List.cons_append, List.cons.injEq] at split
        obtain ⟨rfl, split⟩ := split
        have there := behind.decided earlier other others split
        rwa [Token.joined_cons, ← String.append_assoc, ← String.append_assoc]

/-- Splitting the rest of a text gives a list of tokens if and only if it is one that the rules
ask for. -/
theorem tokenizeFrom_eq_ok_iff :
    language.tokenizeFrom search (front ++ rest) front.utf8ByteSize = .ok tokens ↔
      language.SegmentsBehind search front rest tokens := by
  -- Each token goes over from the rest to the front, so the induction is for any front.
  induction tokens generalizing front rest with
  | nil =>
      rw [tokenizeFrom_eq_nil_iff, segmentsBehind_nil_iff, String.utf8ByteSize_append,
        ← String.utf8ByteSize_eq_zero_iff]
      omega
  | cons token tokens ih =>
      rw [tokenizeFrom_eq_cons_iff, segmentsBehind_cons_iff]
      constructor
      · rintro ⟨before, next, found, others⟩
        have notEmpty : rest ≠ "" := by
          rintro rfl
          rw [String.append_empty] at before
          exact Nat.lt_irrefl _ before
        obtain ⟨later, rfl, rfl, decides⟩ := decides_of_nextToken notEmpty found
        refine ⟨later, rfl, decides, ih.mp ?_⟩
        rwa [String.append_assoc, String.utf8ByteSize_append]
      · rintro ⟨later, rfl, decides, behind⟩
        have positive := mt String.utf8ByteSize_eq_zero_iff.mp decides.text_ne_empty
        have others := ih.mpr behind
        rw [String.append_assoc, String.utf8ByteSize_append] at others
        refine ⟨?_, _, nextToken_of_decides decides, others⟩
        simp only [String.utf8ByteSize_append]
        omega

/-- Splitting the rest of a text is without a fault, if matches end between characters. -/
theorem exists_tokenizeFrom (keeps : search.KeepsBoundaries) (language : Language)
    (front rest : String) :
    ∃ tokens, language.tokenizeFrom search (front ++ rest) front.utf8ByteSize = .ok tokens := by
  -- No tokens are given here to go along, but each one that is found makes the rest shorter.
  induction size : rest.utf8ByteSize using Nat.strongRecOn generalizing front rest with
  | ind size ih =>
      by_cases ended : rest = ""
      · exact ⟨[], tokenizeFrom_eq_ok_iff.mpr (segmentsBehind_nil_iff.mpr ended)⟩
      · obtain ⟨token, next, found⟩ := exists_nextToken keeps language ended
        obtain ⟨later, rfl, _, decides⟩ := decides_of_nextToken ended found
        have positive := mt String.utf8ByteSize_eq_zero_iff.mp decides.text_ne_empty
        rw [String.utf8ByteSize_append] at size
        obtain ⟨tokens, others⟩ :=
          ih later.utf8ByteSize (by omega) (front ++ token.text) later rfl
        exact ⟨token :: tokens, tokenizeFrom_eq_ok_iff.mpr
          (segmentsBehind_cons_iff.mpr ⟨later, rfl, decides, tokenizeFrom_eq_ok_iff.mp others⟩)⟩

/-! ### The one list of tokens -/

theorem segments_iff_segmentsBehind :
    language.Segments search text tokens ↔ language.SegmentsBehind search "" text tokens := by
  constructor
  · intro segments
    refine ⟨segments.joined, ?_⟩
    simpa only [String.empty_append] using segments.decided
  · intro segments
    have decided := segments.decided
    simp only [String.empty_append] at decided
    have nonempty : ∀ token ∈ tokens, token.text ≠ "" := by
      intro token member
      obtain ⟨earlier, later, split⟩ := List.append_of_mem member
      exact (decided earlier token later split).text_ne_empty
    refine ⟨segments.joined, nonempty, ?_, decided⟩
    rw [← segments.joined, ← String.length_toList]
    exact Token.length_le_length_joined nonempty

/-- Splitting a text gives a list of tokens if and only if it is one that the rules ask for. -/
theorem tokenize_eq_ok_iff :
    language.tokenize search text = .ok tokens ↔ language.Segments search text tokens := by
  have fromStart : language.tokenizeFrom search ("" ++ text) "".utf8ByteSize = .ok tokens ↔
      language.SegmentsBehind search "" text tokens := tokenizeFrom_eq_ok_iff
  rwa [String.empty_append, ← segments_iff_segmentsBehind] at fromStart

/-- With any engine whose matches end between characters, splitting ends for every text with the
one list of tokens that splits it as the rules ask for. -/
theorem tokenize_segments_uniquely (keeps : search.KeepsBoundaries) (language : Language)
    (text : String) :
    ∃ tokens, language.tokenize search text = .ok tokens ∧
      ∀ others, language.Segments search text others ↔ others = tokens := by
  obtain ⟨tokens, split⟩ := exists_tokenizeFrom keeps language "" text
  rw [String.empty_append] at split
  refine ⟨tokens, split, fun others => ?_⟩
  rw [← tokenize_eq_ok_iff, tokenize, show (0 : Nat) = "".utf8ByteSize from rfl, split,
    Except.ok.injEq, eq_comm]

/-! ### The tokens of the library -/

/-- What the rules decide at a byte is the first token from there on. -/
theorem decides_of_tokensFrom_eq_cons {cursor : Cursor} {front : List Char}
    (reads : (Cursor.start text.toList).Reads front cursor)
    (split : language.tokensFrom cursor = token :: tokens) :
    language.Decides Pattern.find? text (byteSize front) (Token.joined tokens) token := by
  rcases tokensFrom_eq_cons split with
    ⟨rule, stop, found, rfl, rfl⟩ | ⟨missing, char, following, step, rfl, rfl⟩
  · obtain ⟨earlier, later, declared, skipped, matched⟩ := firstMatch?_eq_some_iff.mp found
    obtain ⟨chars, _, readsMatch⟩ := Pattern.exists_reads_of_matchEnd? matched
    have covered : (language.tokenOf rule cursor stop).text.toList = chars := by
      rw [tokenOf, String.toList_ofList, readsMatch.charsTo_eq]
    refine .rule declared ?_ ?_ rfl ?_
    · intro other member
      rw [Rule.matchBytes_find?, (Rule.matchAt?_eq_none_iff reads).mpr (skipped other member)]
    · rw [Rule.matchBytes_find?, ← byteSize_toList, covered, Except.ok.injEq]
      exact (Rule.matchAt?_eq_some_iff reads).mpr ⟨chars, stop, matched, readsMatch, rfl⟩
    · rw [classed_iff, toList_joined_tokensFrom]
      rfl
  · refine .noRule ?_ ?_ rfl rfl
    · intro rule member
      rw [Rule.matchBytes_find?, (Rule.matchAt?_eq_none_iff reads).mpr
        (firstMatch?_eq_none_iff.mp missing rule member)]
    · exact String.length_singleton

/-- The tokens of the library are those that its own search gives. -/
theorem tokenize_find? (language : Language) (text : String) :
    language.tokenize Pattern.find? text = .ok (language.tokens text) := by
  rw [tokenize_eq_ok_iff, segments_iff_segmentsBehind]
  refine ⟨joined_tokens text, ?_⟩
  intro earlier token later split
  obtain ⟨place, reads, rest⟩ := exists_reads_of_tokensFrom_eq_append split
  rw [String.empty_append, String.empty_append, ← byteSize_toList]
  exact decides_of_tokensFrom_eq_cons reads rest.symm

/-- The tokens of the library are the one list that splits a text as the rules ask for. -/
theorem segments_find?_iff :
    language.Segments Pattern.find? text tokens ↔ tokens = language.tokens text := by
  rw [← tokenize_eq_ok_iff, tokenize_find?, Except.ok.injEq, eq_comm]

/-- A rule that can match nothing leaves a character of two bytes to stand alone. -/
theorem tokenize_segments_uniquely_find? :
    let letters := Pattern.repeated (.one (.range 'a' 'z')) 0 none true
    let language : Language := { name := "Letters", rules := [{ kind := .word, pattern := letters }] }
    Search.KeepsBoundaries Pattern.find? ∧ ∃ tokens,
      (language.tokenize Pattern.find? "abéc" = .ok tokens ∧
        ∀ others, language.Segments Pattern.find? "abéc" others ↔ others = tokens) ∧
      tokens.map Token.text = ["ab", "é", "c"] := by
  intro letters language
  have keeps := Pattern.find?_sound.keepsBoundaries
  obtain ⟨tokens, split, only⟩ := tokenize_segments_uniquely keeps language "abéc"
  refine ⟨keeps, tokens, ⟨split, only⟩, ?_⟩
  rw [tokenize_find?, Except.ok.injEq] at split
  subst split
  decide +kernel

end Language

end FencedCode
