import FencedCode.Proofs.Language.Tokens
import FencedCode.Proofs.Markup.Escaping
import FencedCode.Registry

/-!
# Markup can be read back

Whatever the texts of tokens hold, the tags of their markup are those that were written and no
others, so cutting the markup at its tags gives the tokens back.  Together with the tokens losing
nothing of a text, this gives back every highlighted text from its markup.
-/

namespace FencedCode

namespace Markup

/-! ### Written markup -/

theorem toList_escape (text : String) : (escape text).toList = text.toList.flatMap escapeChar := by
  rw [escape, String.toList_ofList]

theorem toList_ofTokens_cons (token : Token) (tokens : List Token) :
    (ofTokens (token :: tokens)).toList = (ofToken token).toList ++ (ofTokens tokens).toList := by
  simp [ofTokens]

theorem toList_ofToken_of_class {token : Token} {tokenClass : TokenClass}
    (classed : token.tokenClass = some tokenClass) :
    (ofToken token).toList =
      openTag tokenClass ++ (token.text.toList.flatMap escapeChar ++ closeTag) := by
  have written : ofToken token =
      "<span class=\"" ++ tokenClass.cssName ++ "\">" ++ escape token.text ++ "</span>" := by
    rw [ofToken, classed]
  rw [written, String.toList_append, String.toList_append, String.toList_append,
    String.toList_append, toList_escape, List.append_assoc, List.append_assoc, List.append_assoc,
    openTag, List.append_assoc, List.append_assoc]
  rfl

theorem toList_ofToken_of_plain {token : Token} (plain : token.tokenClass = none) :
    (ofToken token).toList = token.text.toList.flatMap escapeChar := by
  rw [ofToken, plain]
  exact toList_escape token.text

/-! ### Well-formed markup -/

theorem WellFormed.escaped {inSpan : Bool} {rest : List Char} (wellFormed : WellFormed inSpan rest)
    (chars : List Char) : WellFormed inSpan (chars.flatMap escapeChar ++ rest) := by
  induction chars with
  | nil => exact wellFormed
  | cons char chars ih =>
      rw [List.flatMap_cons, List.append_assoc]
      rcases escapeChar_cases char with ⟨_, entity, known, written⟩ | ⟨plain, written⟩
      · rw [written]
        exact .entity known ih
      · rw [written]
        exact .char plain ih

theorem wellFormed_ofTokens (tokens : List Token) : WellFormed false (ofTokens tokens).toList := by
  induction tokens with
  | nil => exact .done
  | cons token tokens ih =>
      rw [toList_ofTokens_cons]
      cases classed : token.tokenClass with
      | some tokenClass =>
          rw [toList_ofToken_of_class classed, List.append_assoc, List.append_assoc]
          exact .opening tokenClass (.escaped (.closing ih) token.text.toList)
      | none =>
          rw [toList_ofToken_of_plain classed]
          exact .escaped ih token.text.toList

/-! ### Tags found again -/

theorem tagAt?_closeTag (rest : List Char) : tagAt? (closeTag ++ rest) = some (none, rest) := by
  rw [tagAt?, if_pos (List.prefix_append ..), List.drop_left]

/-- A tag names one class: its name runs up to the quote that ends it. -/
theorem eq_of_openTag_begins {tokenClass other : TokenClass} {rest : List Char}
    (begins : openTag other <+: openTag tokenClass ++ rest) : other = tokenClass := by
  have name : ∀ (tokenClass : TokenClass) (behind : List Char),
      (tokenClass.cssName.toList ++ '"' :: behind).takeWhile (· != '"') =
        tokenClass.cssName.toList := by
    intro tokenClass behind
    rw [List.takeWhile_append_of_pos, List.takeWhile_cons_of_neg (by simp), List.append_nil]
    intro char member
    simp only [bne_iff_ne, ne_eq]
    rintro rfl
    exact tokenClass.quote_notMem_cssName member
  obtain ⟨behind, same⟩ := begins
  simp only [openTag, openBack_eq, List.append_assoc, List.append_cancel_left_eq,
    List.cons_append] at same
  have sameName : other.cssName = tokenClass.cssName := by
    have cut := congrArg (List.takeWhile (· != '"')) same
    rw [name, name] at cut
    exact String.toList_inj.mp cut
  have found := other.ofCssName?_cssName
  rw [sameName, tokenClass.ofCssName?_cssName] at found
  exact (Option.some.inj found).symm

theorem tagAt?_openTag (tokenClass : TokenClass) (rest : List Char) :
    tagAt? (openTag tokenClass ++ rest) = some (some tokenClass, rest) := by
  have noClosing : ¬closeTag <+: openTag tokenClass ++ rest := by
    intro begins
    rw [closeTag_eq, openTag_eq, List.cons_append, List.cons_prefix_cons] at begins
    exact absurd (List.cons_prefix_cons.mp begins.2).1 (by decide)
  have found : TokenClass.all.find? (fun other => openTag other <+: openTag tokenClass ++ rest) =
      some tokenClass := by
    cases search : TokenClass.all.find? fun other => openTag other <+: openTag tokenClass ++ rest with
    | none =>
        have missing := List.find?_eq_none.mp search tokenClass tokenClass.mem_all
        simp at missing
    | some other =>
        have begins : openTag other <+: openTag tokenClass ++ rest := by
          simpa using List.find?_some search
        rw [eq_of_openTag_begins begins]
  rw [tagAt?, if_neg noClosing, found, Option.map_some, List.drop_left]

theorem tagAt?_of_ne {char : Char} (noTag : char ≠ '<') (rest : List Char) :
    tagAt? (char :: rest) = none := by
  have noClosing : ¬closeTag <+: char :: rest := by
    intro begins
    rw [closeTag_eq, List.cons_prefix_cons] at begins
    exact noTag begins.1.symm
  rw [tagAt?, if_neg noClosing, Option.map_eq_none_iff, List.find?_eq_none]
  intro tokenClass _ begins
  simp only [openTag_eq, List.cons_prefix_cons, decide_eq_true_eq] at begins
  exact noTag begins.1.symm

theorem splitTags_nil : splitTags [] = ([], []) := by
  have noTag : tagAt? [] = none := by decide
  rw [splitTags]
  split
  · next tag =>
    rw [noTag] at tag
    cases tag
  · rfl

theorem splitTags_of_tag {markup behind : List Char} {current : Option TokenClass}
    (tag : tagAt? markup = some (current, behind)) :
    splitTags markup = ([], (current, (splitTags behind).1) :: (splitTags behind).2) := by
  rw [splitTags]
  split
  · next other =>
    rw [tag] at other
    cases other
    rfl
  · next noTag =>
    rw [tag] at noTag
    cases noTag

/-- No cut is made in a run without the character that starts a tag. -/
theorem splitTags_append {run : List Char} (noTag : '<' ∉ run) (rest : List Char) :
    splitTags (run ++ rest) = (run ++ (splitTags rest).1, (splitTags rest).2) := by
  induction run with
  | nil => rfl
  | cons char run ih =>
      rw [List.mem_cons, not_or] at noTag
      rw [List.cons_append, splitTags]
      split
      · next tag =>
        rw [tagAt?_of_ne (Ne.symm noTag.1)] at tag
        cases tag
      · dsimp only
        rw [ih noTag.2]
        rfl

/-- Cutting the markup of a token with a class finds the span. -/
theorem splitTags_span (tokenClass : TokenClass) (chars rest : List Char) :
    splitTags (openTag tokenClass ++ (chars.flatMap escapeChar ++ closeTag) ++ rest) =
      ([], (some tokenClass, chars.flatMap escapeChar) :: (none, (splitTags rest).1) ::
        (splitTags rest).2) := by
  rw [List.append_assoc, splitTags_of_tag (tagAt?_openTag tokenClass _), List.append_assoc,
    splitTags_append (lt_notMem_flatMap_escapeChar chars),
    splitTags_of_tag (tagAt?_closeTag rest), List.append_nil]

/-! ### Tokens found again -/

/-- The pieces of markup that has been cut. -/
def shown (cut : List (Option TokenClass × List Char)) : List Piece :=
  (cut.filter fun piece => piece.1.isSome || !piece.2.isEmpty).map fun piece =>
    (piece.1, .ofList (unescape piece.2))

theorem shown_cons_some (tokenClass : TokenClass) (chars : List Char)
    (cut : List (Option TokenClass × List Char)) :
    shown ((some tokenClass, chars.flatMap escapeChar) :: cut) =
      (some tokenClass, .ofList chars) :: shown cut := by
  simp [shown, unescape_flatMap_escapeChar]

theorem escaped_eq_nil_iff {chars : List Char} : chars.flatMap escapeChar = [] ↔ chars = [] := by
  constructor
  · intro empty
    have restored := unescape_flatMap_escapeChar chars
    rw [empty, ← List.flatMap_nil, unescape_flatMap_escapeChar] at restored
    exact restored.symm
  · rintro rfl
    rfl

theorem shown_cons_none (chars : List Char) (cut : List (Option TokenClass × List Char)) :
    shown ((none, chars.flatMap escapeChar) :: cut) =
      if chars = [] then shown cut else (none, .ofList chars) :: shown cut := by
  by_cases empty : chars = []
  · subst empty
    simp [shown]
  · have notEmpty : chars.flatMap escapeChar ≠ [] := fun gone => empty (escaped_eq_nil_iff.mp gone)
    rw [if_neg empty, shown, List.filter_cons_of_pos (by simpa using notEmpty), List.map_cons,
      unescape_flatMap_escapeChar]
    rfl

theorem shown_head? {cut : List (Option TokenClass × List Char)}
    (classed : ∀ first, cut.head? = some first → first.1.isSome) :
    ∀ first, (shown cut).head? = some first → first.1.isSome := by
  cases cut with
  | nil =>
      intro first isFirst
      cases isFirst
  | cons piece cut =>
      have isSome := classed piece rfl
      rw [shown, List.filter_cons_of_pos (by simp [isSome]), List.map_cons]
      intro first isFirst
      cases isFirst
      exact isSome

theorem prependPlain_of_head? {pieces : List Piece} (text : String)
    (classed : ∀ first, pieces.head? = some first → first.1.isSome) :
    prependPlain text pieces = if text.isEmpty then pieces else (none, text) :: pieces := by
  rw [prependPlain]
  intro first rest isFirst
  have isSome := classed (none, first) (by rw [isFirst]; rfl)
  cases isSome

/-- Cutting the markup of tokens gives their pieces: a leading text without class, which may be
empty, and then spans with the texts between them. -/
theorem splitTags_ofTokens (tokens : List Token) :
    ∃ (front : List Char) (behind : List (Option TokenClass × List Char)),
      splitTags (ofTokens tokens).toList = (front.flatMap escapeChar, behind) ∧
      (∀ first, behind.head? = some first → first.1.isSome) ∧
      piecesOf tokens = shown ((none, front.flatMap escapeChar) :: behind) := by
  induction tokens with
  | nil =>
      refine ⟨[], [], splitTags_nil, ?_, rfl⟩
      intro first isFirst
      cases isFirst
  | cons token tokens ih =>
      obtain ⟨front, behind, cut, classed, pieces⟩ := ih
      rw [toList_ofTokens_cons]
      cases isClassed : token.tokenClass with
      | some tokenClass =>
          rw [toList_ofToken_of_class isClassed, splitTags_span, cut, piecesOf, isClassed, pieces]
          refine ⟨[], _, rfl, ?_, ?_⟩
          · intro first isFirst
            cases isFirst
            rfl
          · rw [shown_cons_none [], if_pos rfl, shown_cons_some, String.ofList_toList]
      | none =>
          rw [toList_ofToken_of_plain isClassed, splitTags_append (lt_notMem_flatMap_escapeChar _),
            cut, piecesOf, isClassed, pieces]
          -- A text without class runs into the text before the next tag.
          refine ⟨token.text.toList ++ front, behind, by rw [List.flatMap_append], classed, ?_⟩
          rw [shown_cons_none, shown_cons_none]
          by_cases empty : front = []
          · subst empty
            rw [if_pos rfl, List.append_nil, prependPlain_of_head? _ (shown_head? classed),
              String.ofList_toList]
            simp only [String.isEmpty_iff, String.toList_eq_nil_iff]
          · rw [if_neg empty, if_neg fun gone => empty (List.append_eq_nil_iff.mp gone).2,
              prependPlain, String.ofList_append, String.ofList_toList]

theorem decode_ofTokens (tokens : List Token) : decode (ofTokens tokens) = piecesOf tokens := by
  obtain ⟨front, behind, cut, _, pieces⟩ := splitTags_ofTokens tokens
  rw [decode, cut, pieces]
  rfl

/-! ### Texts found again -/

theorem dropTags_ofTokens (tokens : List Token) :
    dropTags (ofTokens tokens).toList = (Token.joined tokens).toList.flatMap escapeChar := by
  induction tokens with
  | nil =>
      have empty : (ofTokens []).toList = [] := rfl
      rw [empty, dropTags, splitTags_nil]
      rfl
  | cons token tokens ih =>
      rw [toList_ofTokens_cons, Token.toList_joined_cons, List.flatMap_append, ← ih]
      cases classed : token.tokenClass with
      | some tokenClass =>
          rw [toList_ofToken_of_class classed, dropTags, splitTags_span]
          rfl
      | none =>
          rw [toList_ofToken_of_plain classed, dropTags,
            splitTags_append (lt_notMem_flatMap_escapeChar _), List.append_assoc]
          rfl

theorem plainText_ofTokens (tokens : List Token) :
    plainText (ofTokens tokens) = Token.joined tokens := by
  rw [plainText, dropTags_ofTokens, unescape_flatMap_escapeChar, String.ofList_toList]

/-- Tokens without classes are written as their text is. -/
theorem ofTokens_of_plain {tokens : List Token} (plain : ∀ token ∈ tokens, token.tokenClass = none) :
    ofTokens tokens = escape (Token.joined tokens) := by
  rw [← String.toList_inj, toList_escape]
  induction tokens with
  | nil => rfl
  | cons token tokens ih =>
      have rest := ih fun other member => plain other (List.mem_cons_of_mem _ member)
      rw [toList_ofTokens_cons, toList_ofToken_of_plain (plain token (List.mem_cons_self ..)), rest,
        Token.toList_joined_cons, List.flatMap_append]

theorem plainText_escape (text : String) : plainText (escape text) = text := by
  let token : Token := { kind := none, text, tokenClass := none }
  have joined : Token.joined [token] = text := by
    rw [← String.toList_inj, Token.toList_joined_cons, Token.toList_joined_nil, List.append_nil]
  have written : ofTokens [token] = escape text := by
    rw [ofTokens_of_plain (by simp [token]), joined]
  rw [← written, plainText_ofTokens, joined]

end Markup

/-- Where a language has no rules, no token has a class. -/
theorem Language.tokenClass_eq_none_of_no_rules {language : Language} {cursor : Cursor}
    (noRules : language.rules = []) {token : Token}
    (member : token ∈ language.tokensFrom cursor) : token.tokenClass = none := by
  obtain ⟨earlier, later, split⟩ := List.append_of_mem member
  obtain ⟨place, _, rest⟩ := exists_reads_of_tokensFrom_eq_append split
  have missing : language.firstMatch? place = none := by simp [firstMatch?, noRules]
  rcases tokensFrom_eq_cons rest.symm with ⟨rule, stop, found, _⟩ | ⟨_, char, _, _, rfl, _⟩
  · rw [missing] at found
    cases found
  · rfl

theorem Registry.plainText_highlight (registry : Registry) (text name : String) :
    Markup.plainText (registry.highlight text name) = text := by
  rw [highlight]
  split
  · split
    · exact Markup.plainText_escape text
    · rw [Markup.plainText_ofTokens, Language.joined_tokens]
  · exact Markup.plainText_escape text

/-- Markup is well formed whatever the texts hold, shows the tokens it was written for, and gives
every highlighted text back; a language without rules gives what escaping alone gives. -/
theorem Markup.faithful :
    (∀ tokens : List Token,
      WellFormed false (ofTokens tokens).toList ∧ decode (ofTokens tokens) = piecesOf tokens) ∧
    (∀ (registry : Registry) (text name : String),
      plainText (registry.highlight text name) = text) ∧
    (∀ (language : Language) (text : String), language.rules = [] →
      ofTokens (language.tokens text) = escape text) := by
  refine ⟨?_, Registry.plainText_highlight, ?_⟩
  · intro tokens
    exact ⟨wellFormed_ofTokens tokens, decode_ofTokens tokens⟩
  · intro language text noRules
    have plain : ∀ token ∈ language.tokens text, token.tokenClass = none := by
      intro token member
      exact Language.tokenClass_eq_none_of_no_rules noRules member
    rw [ofTokens_of_plain plain, Language.joined_tokens]

/-- A text that looks like a tag, in a language without rules. -/
theorem Markup.faithful_without_rules :
    ({ name := "Plain" } : Language).rules = [] ∧
      ofTokens (({ name := "Plain" } : Language).tokens "</span>&lt;") = escape "</span>&lt;" :=
  ⟨rfl, faithful.2.2 { name := "Plain" } "</span>&lt;" rfl⟩

end FencedCode
