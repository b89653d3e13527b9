import FencedCode.Proofs.Language.Segmentation

/-!
# Slicing between characters

A slice that does not start and end between characters is refused, and so is a search that starts
behind the end of a text.  Neither ever happens while a text is split, if the engine finds nothing
but matches.

The invariant is that an offset is a boundary: a match leads from one boundary to a later one, so
the next search can start there and is closer to the end of the text.
-/

namespace FencedCode

variable {search : Search} {language : Language} {text : String} {offset stop : Nat}

theorem IsBoundary.le_utf8ByteSize (isBoundary : IsBoundary text offset) :
    offset ≤ text.utf8ByteSize := by
  obtain ⟨front, rest, rfl, rfl⟩ := isBoundary_iff_exists_append.mp isBoundary
  rw [String.utf8ByteSize_append]
  exact Nat.le_add_right ..

/-! ### Matches -/

/-- What can be relied on when a text is sliced at the matches of a rule, at any offset. -/
structure Rule.SafeAt (search : Search) (rule : Rule) (text : String) (offset : Nat) : Prop where
  /-- Matching is never refused. -/
  returns : ∃ match?, rule.matchBytes search text offset = .ok match?
  /-- A match lies within the text and covers whole characters, at least one. -/
  whole : ∀ stop, rule.matchBytes search text offset = .ok (some stop) →
    IsBoundary text offset ∧ offset < text.utf8ByteSize ∧ offset < stop ∧
      stop ≤ text.utf8ByteSize ∧ IsBoundary text stop
  inMiddle : ¬IsBoundary text offset → rule.matchBytes search text offset = .ok none
  behind : text.utf8ByteSize ≤ offset → rule.matchBytes search text offset = .ok none

/-- A match that leads onward starts and ends between characters, as one that starts in the middle
of a character would have stayed there. -/
theorem Rule.whole_of_matchBytes (sound : search.Sound) {rule : Rule}
    (matched : rule.matchBytes search text offset = .ok (some stop)) :
    IsBoundary text offset ∧ offset < text.utf8ByteSize ∧ offset < stop ∧
      stop ≤ text.utf8ByteSize ∧ IsBoundary text stop := by
  have onward := lt_of_matchBytes matched
  have before : offset < text.utf8ByteSize := by
    by_contra ended
    rw [matchBytes, if_pos (Nat.not_lt.mp ended)] at matched
    cases matched
  rw [matchBytes_eq_ok before, Except.ok.injEq, Option.filter_eq_some_iff] at matched
  obtain ⟨inside, spans⟩ := sound rule.pattern text offset stop matched.1
  have isStart : IsBoundary text offset := by
    by_contra splits
    exact absurd (spans.eq_of_not_isBoundary splits) (Nat.ne_of_gt onward)
  have isStop := spans.isBoundary isStart
  exact ⟨isStart, before, onward, isStop.le_utf8ByteSize, isStop⟩

theorem Rule.safeAt (sound : search.Sound) (rule : Rule) (text : String) (offset : Nat) :
    rule.SafeAt search text offset where
  returns := rule.exists_matchBytes search text offset
  whole stop := whole_of_matchBytes sound
  inMiddle splits := by
    obtain ⟨match?, matched⟩ := rule.exists_matchBytes search text offset
    cases match? with
    | none => exact matched
    | some stop => exact absurd (whole_of_matchBytes sound matched).1 splits
  behind ended := by rw [matchBytes, if_pos ended]

/-! ### Tokens -/

namespace Language

/-- The offsets that splitting a text comes to. -/
inductive Visits (search : Search) (language : Language) (text : String) : Nat → Prop where
  | start : Visits search language text 0
  | next {offset next : Nat} {token : Token} (visits : Visits search language text offset)
      (before : offset < text.utf8ByteSize)
      (found : language.nextToken search text offset = .ok (token, next)) :
      Visits search language text next

/-- What can be relied on when a text is split. -/
structure SafeOn (search : Search) (language : Language) (text : String) : Prop where
  /-- No search and no slice is refused on the way. -/
  splits : ∃ tokens, language.tokenize search text = .ok tokens
  visited : ∀ offset, language.Visits search text offset → IsBoundary text offset
  /-- Before the end of the text the next token leads to a later boundary. -/
  advances : ∀ offset, language.Visits search text offset → offset < text.utf8ByteSize →
    ∃ token next, language.nextToken search text offset = .ok (token, next) ∧
      offset < next ∧ IsBoundary text next

/-- From a boundary the next token leads to a later one. -/
theorem exists_nextToken_of_isBoundary (keeps : search.KeepsBoundaries) (language : Language)
    (isBoundary : IsBoundary text offset) (before : offset < text.utf8ByteSize) :
    ∃ token next, language.nextToken search text offset = .ok (token, next) ∧
      offset < next ∧ IsBoundary text next := by
  obtain ⟨front, rest, rfl, rfl⟩ := isBoundary_iff_exists_append.mp isBoundary
  have notEmpty : rest ≠ "" := by
    rintro rfl
    rw [String.append_empty] at before
    exact Nat.lt_irrefl _ before
  obtain ⟨token, next, found⟩ := exists_nextToken keeps language notEmpty
  obtain ⟨later, rfl, rfl, _⟩ := decides_of_nextToken notEmpty found
  refine ⟨token, _, found, lt_of_nextToken found, isBoundary_iff_exists_append.mpr ?_⟩
  exact ⟨front ++ token.text, later, String.append_assoc.symm, String.utf8ByteSize_append⟩

theorem Visits.isBoundary (keeps : search.KeepsBoundaries)
    (visits : language.Visits search text offset) : IsBoundary text offset := by
  induction visits with
  | start => exact isBoundary_iff_exists_append.mpr ⟨"", text, String.empty_append.symm, rfl⟩
  | next visits before found ih =>
      obtain ⟨_, _, sameFound, _, isNext⟩ :=
        exists_nextToken_of_isBoundary keeps language ih before
      cases found.symm.trans sameFound
      exact isNext

theorem safeOn (keeps : search.KeepsBoundaries) (language : Language) (text : String) :
    language.SafeOn search text where
  splits := by
    have fromStart := exists_tokenizeFrom keeps language "" text
    rwa [String.empty_append] at fromStart
  visited _ visits := visits.isBoundary keeps
  advances _ visits before :=
    exists_nextToken_of_isBoundary keeps language (visits.isBoundary keeps) before

/-- With any engine that finds nothing but matches, rules can be matched at any offset of a text and
their matches can be sliced, so splitting the text is never refused a slice and always moves on. -/
theorem slices_at_boundaries (sound : search.Sound) (language : Language) (text : String) :
    (∀ (rule : Rule) (offset : Nat), rule.SafeAt search text offset) ∧
      language.SafeOn search text :=
  ⟨fun rule => rule.safeAt sound text, safeOn sound.keepsBoundaries language text⟩

/-- A rule may match nothing but an edge of an ASCII word.  In the middle of a character it matches
nothing at all. -/
theorem slices_at_boundaries_find? :
    let digits := Pattern.repeated (.one (.range '0' '9')) 0 none true
    let edge : Rule := { kind := .word, pattern := .seq (.assert (.word .noBoundary true)) digits }
    let language : Language := { name := "Edges", rules := [edge] }
    Search.Sound Pattern.find? ∧
      ((∀ (rule : Rule) (offset : Nat), rule.SafeAt Pattern.find? "é1" offset) ∧
        language.SafeOn Pattern.find? "é1") ∧
      edge.matchBytes Pattern.find? "é1" 1 = .ok none := by
  intro digits edge language
  have sound := Pattern.find?_sound
  have safe := slices_at_boundaries sound language "é1"
  exact ⟨sound, safe, (safe.1 edge 1).inMiddle (by decide +kernel)⟩

end Language

end FencedCode
