import FencedCode.Language.Offset

/-!
# Splitting the bytes of a text

Outside of the library a text is split by byte offsets: every rule is searched for at the offset,
and what the first one matches is sliced from the text.  A search that starts behind the end of the
text is refused, and so is a slice that does not start and end between characters.

How a pattern is searched for is left open, so that any engine can be put in its place.  The search
of the library itself lists the ends of a pattern and takes the first.
-/

namespace FencedCode

/-- A search for a pattern in a text that starts at an offset and is anchored there: the offset
where the match ends. -/
abbrev Search := Pattern → String → Nat → Option Nat

/-- The search of the library.  It starts between characters only. -/
def Pattern.find? (pattern : Pattern) (text : String) (offset : Nat) : Option Nat := do
  let cursor ← (Cursor.start text.toList).skipBytes? offset
  let stop ← (pattern.ends cursor).head?
  return offset + byteSize (cursor.charsTo stop)

/-! ### Slices -/

/-- Why work on the bytes of a text is given up. -/
inductive Fault where
  /-- A search starts behind the end of the text. -/
  | range
  /-- A slice starts or ends in the middle of a character, or ends before it starts. -/
  | slice
deriving DecidableEq, Repr

/-- Where two steps succeed in a row, each of them does. -/
theorem exists_ok_of_bind_eq_ok {α β : Type} {first : Except Fault α} {second : α → Except Fault β}
    {result : β} (succeeds : first >>= second = .ok result) :
    ∃ value, first = .ok value ∧ second value = .ok result := by
  cases first with
  | error fault => cases succeeds
  | ok value => exact ⟨value, rfl, succeeds⟩

/-- An offset between two characters of a text, or at one of its ends. -/
def IsBoundary (text : String) (offset : Nat) : Prop := String.Pos.Raw.IsValid text ⟨offset⟩

instance (text : String) (offset : Nat) : Decidable (IsBoundary text offset) :=
  inferInstanceAs (Decidable (String.Pos.Raw.IsValid text ⟨offset⟩))

/-- The bytes of a text between two offsets. -/
def slice (text : String) (first last : Nat) : Except Fault String :=
  if bounds : IsBoundary text first ∧ IsBoundary text last ∧ first ≤ last then
    .ok (text.extract ⟨⟨first⟩, bounds.1⟩ ⟨⟨last⟩, bounds.2.1⟩)
  else .error .slice

/-! ### Matches -/

/-- Starts a search, unless that is behind the end of the text. -/
def Search.startAt (search : Search) (pattern : Pattern) (text : String) (offset : Nat) :
    Except Fault (Option Nat) :=
  if offset ≤ text.utf8ByteSize then .ok (search pattern text offset) else .error .range

namespace Rule

/-- Where the match of a rule at an offset ends.  At the end of the text and behind it nothing is
searched for, and an empty match is none. -/
def matchBytes (search : Search) (rule : Rule) (text : String) (offset : Nat) :
    Except Fault (Option Nat) :=
  if text.utf8ByteSize ≤ offset then .ok none
  else do
    let stop ← search.startAt rule.pattern text offset
    return stop.filter (offset < ·)

theorem matchBytes_eq_ok {search : Search} {rule : Rule} {text : String} {offset : Nat}
    (before : offset < text.utf8ByteSize) : rule.matchBytes search text offset =
      .ok ((search rule.pattern text offset).filter (offset < ·)) := by
  rw [matchBytes, if_neg (Nat.not_le.mpr before), Search.startAt, if_pos (Nat.le_of_lt before)]
  rfl

/-- The kind of the first of some rules that matches at an offset, with the end of its match. -/
def firstMatch (search : Search) (text : String) (offset : Nat) :
    List Rule → Except Fault (Option (TokenKind × Nat))
  | [] => .ok none
  | rule :: others => do
    match ← rule.matchBytes search text offset with
    | some stop => return some (rule.kind, stop)
    | none => firstMatch search text offset others

variable {search : Search} {text : String} {offset stop : Nat}

/-- A match leads onward. -/
theorem lt_of_matchBytes {rule : Rule}
    (matched : rule.matchBytes search text offset = .ok (some stop)) : offset < stop := by
  by_cases before : offset < text.utf8ByteSize
  · rw [matchBytes_eq_ok before, Except.ok.injEq, Option.filter_eq_some_iff] at matched
    exact of_decide_eq_true matched.2
  · rw [matchBytes, if_pos (Nat.not_lt.mp before)] at matched
    cases matched

theorem lt_of_firstMatch {kind : TokenKind} {rules : List Rule}
    (found : firstMatch search text offset rules = .ok (some (kind, stop))) : offset < stop := by
  induction rules with
  | nil => cases found
  | cons rule others ih =>
      obtain ⟨match?, matched, found⟩ := exists_ok_of_bind_eq_ok found
      cases match? with
      | none => exact ih found
      | some first =>
          cases found
          exact lt_of_matchBytes matched

end Rule

/-! ### Tokens -/

namespace Language

/-- The class of a match that ends at an offset.  Only behind a word the text is looked at. -/
def classOfSlice (language : Language) (text : String) (kind : TokenKind) (word : String)
    (stop : Nat) : Except Fault (Option TokenClass) :=
  if kind = .word then do
    let rest ← slice text stop text.utf8ByteSize
    return language.wordClass? word rest.toList
  else return kind.tokenClass?

/-- The token that starts at an offset, with the offset behind it: what the first rule matches, or
one character if no rule does. -/
def nextToken (search : Search) (language : Language) (text : String) (offset : Nat) :
    Except Fault (Token × Nat) := do
  match ← Rule.firstMatch search text offset language.rules with
  | some (kind, stop) =>
    let word ← slice text offset stop
    let tokenClass ← language.classOfSlice text kind word stop
    return ({ kind := some kind, text := word, tokenClass }, stop)
  | none =>
    let rest ← slice text offset text.utf8ByteSize
    let size := (rest.toList.head?.map Char.utf8Size).getD 1
    let char ← slice text offset (offset + size)
    return ({ kind := none, text := char, tokenClass := none }, offset + size)

variable {search : Search} {language : Language} {text : String} {offset next : Nat}

/-- Behind a token is further on. -/
theorem lt_of_nextToken {token : Token}
    (found : language.nextToken search text offset = .ok (token, next)) : offset < next := by
  obtain ⟨match?, matched, found⟩ := exists_ok_of_bind_eq_ok found
  cases match? with
  | some pair =>
      obtain ⟨word, _, found⟩ := exists_ok_of_bind_eq_ok found
      obtain ⟨tokenClass, _, found⟩ := exists_ok_of_bind_eq_ok found
      cases found
      exact Rule.lt_of_firstMatch matched
  | none =>
      obtain ⟨rest, _, found⟩ := exists_ok_of_bind_eq_ok found
      obtain ⟨char, _, found⟩ := exists_ok_of_bind_eq_ok found
      cases found
      cases rest.toList.head? with
      | none => exact Nat.lt_succ_self offset
      | some char => exact Nat.lt_add_of_pos_right char.utf8Size_pos

/-- The tokens from an offset on. -/
def tokenizeFrom (search : Search) (language : Language) (text : String) (offset : Nat) :
    Except Fault (List Token) :=
  if offset < text.utf8ByteSize then
    match _found : language.nextToken search text offset with
    | .ok (token, next) => (language.tokenizeFrom search text next).map (token :: ·)
    | .error fault => .error fault
  else .ok []
termination_by text.utf8ByteSize - offset
decreasing_by have := lt_of_nextToken _found; omega

/-- The tokens of a text. -/
def tokenize (search : Search) (language : Language) (text : String) :
    Except Fault (List Token) :=
  language.tokenizeFrom search text 0

end Language

end FencedCode
