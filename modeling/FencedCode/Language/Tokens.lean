import FencedCode.Language.Basic

/-!
# Splitting a text into tokens

The text is read from left to right.  Where a rule matches, its match becomes a token; where none
does, one character becomes a token without kind and class.  Every token consumes a character, so
there are at most as many tokens as characters.
-/

namespace FencedCode

namespace Language

theorem firstMatch?_eq_some {language : Language} {cursor stop : Cursor} {rule : Rule}
    (found : language.firstMatch? cursor = some (rule, stop)) :
    rule.pattern.matchEnd? cursor = some stop := by
  obtain ⟨candidate, _, matched⟩ := List.exists_of_findSome?_eq_some found
  obtain ⟨place, isMatch, same⟩ := Option.map_eq_some_iff.mp matched
  cases same
  exact isMatch

theorem size_lt_of_firstMatch? {language : Language} {cursor stop : Cursor} {rule : Rule}
    (found : language.firstMatch? cursor = some (rule, stop)) : stop.size < cursor.size :=
  Pattern.size_lt_of_matchEnd? (firstMatch?_eq_some found)

/-- The token of a match. -/
def tokenOf (language : Language) (rule : Rule) (cursor stop : Cursor) : Token :=
  let text := String.ofList (cursor.charsTo stop)
  { kind := some rule.kind, text, tokenClass := language.classOf? rule.kind text stop.after }

/-- The tokens from a place on. -/
def tokensFrom (language : Language) (cursor : Cursor) : List Token :=
  match _found : language.firstMatch? cursor with
  | some (rule, stop) => language.tokenOf rule cursor stop :: language.tokensFrom stop
  | none =>
    match _step : cursor.next? with
    | some (char, next) => .plain char :: language.tokensFrom next
    | none => []
termination_by cursor.size
decreasing_by
  · exact size_lt_of_firstMatch? _found
  · have := Cursor.size_next _step; omega

/-- The tokens of a text. -/
def tokens (language : Language) (text : String) : List Token :=
  language.tokensFrom (.start text.toList)

end Language

end FencedCode
