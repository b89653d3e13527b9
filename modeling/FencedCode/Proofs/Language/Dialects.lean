import FencedCode.Language.Programs
import FencedCode.Proofs.Language.Tokens
import FencedCode.Proofs.Pattern.Completeness
import Mathlib.Data.List.Forall2

/-!
# JavaScript and TypeScript split a text alike

The rules of the two languages differ in one place: TypeScript counts angle brackets as punctuation.
The rule for operators stands before the one for punctuation and matches wherever an angle bracket
comes, so the difference never shows.  What remains are the words that only TypeScript knows.
-/

namespace FencedCode

namespace Language

/-! ### Languages that decide alike -/

/-- The kind and the end of the match that decides at a place. -/
def decision? (language : Language) (cursor : Cursor) : Option (TokenKind × Cursor) :=
  (language.firstMatch? cursor).map fun found => (found.1.kind, found.2)

variable {left right : Language} {related : Token → Token → Prop}

/-- Two languages that decide alike everywhere split a text alike; their tokens differ at most in
the class of a match. -/
theorem forall₂_tokensFrom (alike : ∀ cursor, left.decision? cursor = right.decision? cursor)
    (matched : ∀ kind text after,
      related { kind := some kind, text, tokenClass := left.classOf? kind text after }
        { kind := some kind, text, tokenClass := right.classOf? kind text after })
    (plain : ∀ char, related (.plain char) (.plain char)) (cursor : Cursor) :
    List.Forall₂ related (left.tokensFrom cursor) (right.tokensFrom cursor) := by
  fun_induction tokensFrom left cursor with
  | case1 cursor rule stop found ih =>
      have here := alike cursor
      rw [decision?, decision?, found] at here
      obtain ⟨⟨other, _⟩, otherFound, same⟩ := Option.map_eq_some_iff.mp here.symm
      obtain ⟨sameKind, rfl⟩ := Prod.mk.inj same
      dsimp only at sameKind
      rw [tokensFrom_of_match otherFound, tokenOf, tokenOf, sameKind]
      exact .cons (matched rule.kind _ _) ih
  | case2 cursor missing char next step ih =>
      have here := alike cursor
      rw [decision?, decision?, missing] at here
      have otherMissing := Option.map_eq_none_iff.mp here.symm
      rw [tokensFrom_of_no_match otherMissing step]
      exact .cons (plain char) ih
  | case3 cursor missing ended =>
      rw [tokensFrom_of_after_eq_nil (Cursor.next?_eq_none_iff.mp ended)]
      exact .nil

/-! ### The rules of the brace languages -/

def operatorRule : Rule where
  kind := .operator
  pattern := .alt (.plus (.oneOf "+-*/%=<>!&|^~?:")) (.text "...")

def punctuationRule (chars : String) : Rule where
  kind := .punctuation
  pattern := .oneOf chars

theorem rules_javaScript : javaScript.rules = braceRules ++
    [punctuationRule "\x7b\x7d()[];,.", { kind := .whitespace, pattern := Shape.blanks }] := rfl

theorem rules_typeScript : typeScript.rules = braceRules ++
    [punctuationRule "\x7b\x7d()[];,.<>", { kind := .whitespace, pattern := Shape.blanks }] := rfl

theorem operatorRule_mem_braceRules : operatorRule ∈ braceRules := by
  simp [braceRules, operatorRule]

theorem kind_ne_punctuation_of_mem_braceRules :
    ∀ rule ∈ braceRules, rule.kind ≠ .punctuation := by
  simp [braceRules]

theorem consumes_operator : operatorRule.pattern.Consumes :=
  .alt (.repeated (Pattern.consumes_one _) Nat.one_pos _ _) (.seq (Pattern.consumes_one _))

variable {cursor next : Cursor} {char : Char}

/-- Wherever an angle bracket comes, the rule for operators matches. -/
theorem exists_matchEnd?_operator (step : cursor.next? = some (char, next))
    (angle : char ∈ ['<', '>']) :
    ∃ stop, operatorRule.pattern.matchEnd? cursor = some stop := by
  have isOperator : (CharSet.ofList "+-*/%=<>!&|^~?:".toList).contains char = true := by
    rw [CharSet.contains_ofList]
    simp only [List.mem_cons, List.not_mem_nil, or_false] at angle
    rcases angle with rfl | rfl <;> decide
  exact consumes_operator.exists_matchEnd?
    (.inl ⟨1, Nat.le_refl 1, nofun, next, ⟨char, step, isOperator⟩, rfl⟩)

/-- So none of the rules behind it is asked there. -/
theorem not_mem_angles_of_no_match (step : cursor.next? = some (char, next))
    (missing : ∀ rule ∈ braceRules, rule.pattern.matchEnd? cursor = none) : char ∉ ['<', '>'] := by
  intro angle
  obtain ⟨stop, found⟩ := exists_matchEnd?_operator step angle
  rw [missing operatorRule operatorRule_mem_braceRules] at found
  cases found

theorem matchEnd?_one_eq {set other : CharSet}
    (same : ∀ char next, cursor.next? = some (char, next) →
      set.contains char = other.contains char) :
    (Pattern.one set).matchEnd? cursor = (Pattern.one other).matchEnd? cursor := by
  rw [Pattern.matchEnd?, Pattern.matchEnd?, Pattern.ends, Pattern.ends]
  cases step : cursor.next? with
  | none => rfl
  | some pair =>
      obtain ⟨char, next⟩ := pair
      simp only [same char next step]

/-- Where no earlier rule matches, both rules for punctuation match alike. -/
theorem matchEnd?_punctuation_eq
    (missing : ∀ rule ∈ braceRules, rule.pattern.matchEnd? cursor = none) :
    (punctuationRule "\x7b\x7d()[];,.<>").pattern.matchEnd? cursor =
      (punctuationRule "\x7b\x7d()[];,.").pattern.matchEnd? cursor := by
  apply matchEnd?_one_eq
  intro char next step
  have noAngle := not_mem_angles_of_no_match step missing
  have more : "\x7b\x7d()[];,.<>".toList = "\x7b\x7d()[];,.".toList ++ ['<', '>'] := by decide
  rw [CharSet.contains_ofList, CharSet.contains_ofList, more, List.contains_append,
    List.contains_eq_mem char ['<', '>'], decide_eq_false noAngle, Bool.or_false]

theorem decision?_typeScript_eq (cursor : Cursor) :
    typeScript.decision? cursor = javaScript.decision? cursor := by
  rw [decision?, decision?, firstMatch?, firstMatch?, rules_javaScript, rules_typeScript,
    List.findSome?_append, List.findSome?_append]
  cases found : braceRules.findSome? fun rule =>
      (rule.pattern.matchEnd? cursor).map fun stop => (rule, stop) with
  | some pair => rfl
  | none =>
      have missing : ∀ rule ∈ braceRules, rule.pattern.matchEnd? cursor = none := by
        simpa using found
      simp only [Option.none_or, List.findSome?_cons, matchEnd?_punctuation_eq missing]
      cases (punctuationRule "\x7b\x7d()[];,.").pattern.matchEnd? cursor <;> rfl

/-- The rule that decides is one that both languages have in front, or none of these matches. -/
theorem mem_braceRules_of_firstMatch? {rule : Rule} {stop : Cursor}
    (found : typeScript.firstMatch? cursor = some (rule, stop)) :
    rule ∈ braceRules ∨ ∀ rule ∈ braceRules, rule.pattern.matchEnd? cursor = none := by
  rw [firstMatch?, rules_typeScript, List.findSome?_append] at found
  cases front : braceRules.findSome? fun rule =>
      (rule.pattern.matchEnd? cursor).map fun stop => (rule, stop) with
  | some pair =>
      rw [front, Option.some_or] at found
      cases found
      obtain ⟨candidate, member, matched⟩ := List.exists_of_findSome?_eq_some front
      obtain ⟨_, _, same⟩ := Option.map_eq_some_iff.mp matched
      cases same
      exact .inl member
  | none => exact .inr (by simpa using front)

/-! ### Words that only TypeScript knows -/

/-- A word that TypeScript lists and JavaScript does not. -/
def TypeOnly (word : String) : Prop :=
  (word ∈ typeScript.keywords ∨ word ∈ typeScript.builtins) ∧
    word ∉ javaScript.keywords ∧ word ∉ javaScript.builtins

theorem typeOnly_of_mem_typeKeywords {word : String} (member : word ∈ typeKeywords) :
    TypeOnly word := by
  have fresh : ∀ word ∈ typeKeywords, word ∉ scriptKeywords ∧ word ∉ scriptBuiltins := by
    decide +kernel
  exact ⟨.inl (List.mem_append_right _ member), fresh word member⟩

theorem typeOnly_of_mem_typeBuiltins {word : String} (member : word ∈ typeBuiltins) :
    TypeOnly word := by
  have fresh : ∀ word ∈ typeBuiltins, word ∉ scriptKeywords ∧ word ∉ scriptBuiltins := by
    decide +kernel
  exact ⟨.inr (List.mem_append_right _ member), fresh word member⟩

/-- Adding words changes nothing for a word that is not among them, however it is written. -/
theorem knowsWord_append_eq {words more : List String} {word : String}
    (fresh : word ∉ more) (lowerFresh : Text.lower word ∉ more) :
    knowsWord (words ++ more) word = knowsWord words word := by
  simp [knowsWord, fresh, lowerFresh]

theorem classOf?_typeScript_eq {kind : TokenKind} {word : String}
    (untyped : kind = .word → ¬TypeOnly word ∧ ¬TypeOnly (Text.lower word)) (after : List Char) :
    typeScript.classOf? kind word after = javaScript.classOf? kind word after := by
  rw [classOf?, classOf?]
  split
  · next isWord =>
    obtain ⟨here, lowerHere⟩ := untyped isWord
    have sameKeyword : typeScript.isKeyword word = javaScript.isKeyword word :=
      knowsWord_append_eq (here ∘ typeOnly_of_mem_typeKeywords)
        (lowerHere ∘ typeOnly_of_mem_typeKeywords)
    have sameBuiltin : typeScript.isBuiltin word = javaScript.isBuiltin word :=
      knowsWord_append_eq (here ∘ typeOnly_of_mem_typeBuiltins)
        (lowerHere ∘ typeOnly_of_mem_typeBuiltins)
    rw [wordClass?, wordClass?, sameKeyword, sameBuiltin]
  · rfl

/-! ### Tokens of both languages -/

/-- Two tokens are alike up to the class of a word that only TypeScript knows. -/
structure AlikeUpToTypes (typed untyped : Token) : Prop where
  kind : typed.kind = untyped.kind
  text : typed.text = untyped.text
  tokenClass : typed.tokenClass = untyped.tokenClass ∨
    untyped.kind = some .word ∧ (TypeOnly untyped.text ∨ TypeOnly (Text.lower untyped.text))

/-- A token of TypeScript's punctuation is no angle bracket. -/
theorem text_ne_angle_of_punctuation {token : Token}
    (member : token ∈ typeScript.tokensFrom cursor)
    (isPunctuation : token.kind = some .punctuation) :
    ∀ char ∈ ['<', '>'], token.text ≠ .singleton char := by
  intro char angle isAngle
  obtain ⟨earlier, later, split⟩ := List.append_of_mem member
  obtain ⟨place, _, rest⟩ := exists_reads_of_tokensFrom_eq_append split
  obtain ⟨_, following, reads, _⟩ := reads_of_tokensFrom_eq_cons rest.symm
  rw [isAngle, String.toList_singleton] at reads
  rcases tokensFrom_eq_cons rest.symm with ⟨rule, stop, found, rfl, _⟩ | ⟨_, _, _, _, rfl, _⟩
  · rcases mem_braceRules_of_firstMatch? found with isBraceRule | missing
    · exact kind_ne_punctuation_of_mem_braceRules rule isBraceRule (Option.some.inj isPunctuation)
    · cases reads with
      | step first _ => exact not_mem_angles_of_no_match first missing angle
  · cases isPunctuation

/-- TypeScript and JavaScript split every text into the same tokens, up to the classes of words that
only TypeScript knows.  What TypeScript adds to the punctuation is never found. -/
theorem typeScript_alike_javaScript (text : String) :
    List.Forall₂ AlikeUpToTypes (typeScript.tokens text) (javaScript.tokens text) ∧
      ∀ token ∈ typeScript.tokens text, token.kind = some .punctuation →
        token.text ≠ "<" ∧ token.text ≠ ">" := by
  constructor
  · apply forall₂_tokensFrom decision?_typeScript_eq
    · intro kind word after
      refine ⟨rfl, rfl, ?_⟩
      by_cases typed : kind = .word ∧ (TypeOnly word ∨ TypeOnly (Text.lower word))
      · exact .inr ⟨congrArg some typed.1, typed.2⟩
      · refine .inl (classOf?_typeScript_eq ?_ after)
        intro isWord
        exact not_or.mp fun listed => typed ⟨isWord, listed⟩
    · exact fun char => ⟨rfl, rfl, .inl rfl⟩
  · intro token member isPunctuation
    have noAngle := text_ne_angle_of_punctuation member isPunctuation
    exact ⟨noAngle '<' (by decide), noAngle '>' (by decide)⟩

end Language

end FencedCode
