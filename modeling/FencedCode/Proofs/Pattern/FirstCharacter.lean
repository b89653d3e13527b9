import FencedCode.Proofs.Pattern.Matching

/-!
# The first character of a match

Which characters a match can start with is read off the pattern.  Where another character comes, no
match is found, and a table of rules can be told apart at such a place by computation.
-/

namespace FencedCode

namespace Pattern

/-- Whether a match can be empty, as far as the shape of the pattern tells. -/
def canBeEmpty : Pattern → Bool
  | empty | assert _ => true
  | one _ => false
  | seq first second => first.canBeEmpty && second.canBeEmpty
  | alt first second => first.canBeEmpty || second.canBeEmpty
  | repeated body least _ _ => least == 0 || body.canBeEmpty

/-- Whether a match can start with a character, as far as the shape of the pattern tells. -/
def canStartWith (char : Char) : Pattern → Bool
  | empty | assert _ => false
  | one set => set.contains char
  | seq first second =>
    first.canStartWith char || first.canBeEmpty && second.canStartWith char
  | alt first second => first.canStartWith char || second.canStartWith char
  | repeated body .. => body.canStartWith char

/-- A match is empty or starts with the next character. -/
def EmptyOrStarts (pattern : Pattern) (cursor stop : Cursor) : Prop :=
  (pattern.canBeEmpty ∧ stop = cursor) ∨
    ∃ char, cursor.after.head? = some char ∧ pattern.canStartWith char

variable {pattern other : Pattern} {cursor stop : Cursor} {char : Char}

theorem EmptyOrStarts.mono (starts : pattern.EmptyOrStarts cursor stop)
    (isEmpty : pattern.canBeEmpty → other.canBeEmpty)
    (canStart : ∀ char, pattern.canStartWith char → other.canStartWith char) :
    other.EmptyOrStarts cursor stop := by
  rcases starts with ⟨patternEmpty, same⟩ | ⟨char, next, patternStarts⟩
  · exact .inl ⟨isEmpty patternEmpty, same⟩
  · exact .inr ⟨char, next, canStart char patternStarts⟩

/-- The first round that is not empty starts with the next character. -/
theorem Rounds.emptyOrStarts {step : Cursor → Cursor → Prop} {count : Nat}
    (rounds : Rounds step count cursor stop)
    (each : ∀ cursor next, step cursor next → pattern.EmptyOrStarts cursor next) :
    ((count = 0 ∨ pattern.canBeEmpty) ∧ stop = cursor) ∨
      ∃ char, cursor.after.head? = some char ∧ pattern.canStartWith char := by
  induction count generalizing cursor with
  | zero => exact .inl ⟨.inl rfl, rounds⟩
  | succ count ih =>
      obtain ⟨next, first, rest⟩ := rounds
      rcases each cursor next first with ⟨isEmpty, rfl⟩ | starts
      · exact (ih rest).imp_left fun ⟨_, same⟩ => ⟨.inr isEmpty, same⟩
      · exact .inr starts

theorem Matches.emptyOrStarts (isMatch : pattern.Matches cursor stop) :
    pattern.EmptyOrStarts cursor stop := by
  induction pattern generalizing cursor stop with
  | empty => exact .inl ⟨rfl, isMatch⟩
  | one set =>
      obtain ⟨char, step, contains⟩ := isMatch
      exact .inr ⟨char, Cursor.head?_after_of_next? step, contains⟩
  | assert assertion => exact .inl ⟨rfl, isMatch.2⟩
  | seq first second firstIH secondIH =>
      obtain ⟨middle, firstMatch, secondMatch⟩ := isMatch
      rcases firstIH firstMatch with ⟨firstEmpty, rfl⟩ | ⟨char, next, starts⟩
      · refine (secondIH secondMatch).mono ?_ ?_
        · simp [canBeEmpty, firstEmpty]
        · simp +contextual [canStartWith, firstEmpty]
      · exact .inr ⟨char, next, by rw [canStartWith, starts, Bool.true_or]⟩
  | alt first second firstIH secondIH =>
      cases isMatch with
      | inl firstMatch =>
          refine (firstIH firstMatch).mono ?_ ?_ <;> simp +contextual [canBeEmpty, canStartWith]
      | inr secondMatch =>
          refine (secondIH secondMatch).mono ?_ ?_ <;> simp +contextual [canBeEmpty, canStartWith]
  | repeated body least most greedy ih =>
      obtain ⟨count, atLeast, _, rounds⟩ := isMatch
      refine (rounds.emptyOrStarts fun _ _ => ih).imp_left fun ⟨isEmpty, same⟩ => ⟨?_, same⟩
      rw [canBeEmpty, Bool.or_eq_true, beq_iff_eq]
      refine isEmpty.imp_left fun noRounds => ?_
      rw [noRounds] at atLeast
      exact Nat.eq_zero_of_le_zero atLeast

/-- A pattern that cannot be empty matches only where a character comes with which it can start. -/
theorem not_matches_of_not_canStartWith (noEmpty : pattern.canBeEmpty = false)
    (noStart : ∀ char ∈ cursor.after.head?, pattern.canStartWith char = false) :
    ¬pattern.Matches cursor stop := by
  intro isMatch
  rcases isMatch.emptyOrStarts with ⟨isEmpty, _⟩ | ⟨char, next, starts⟩
  · exact absurd isEmpty (Bool.eq_false_iff.mp noEmpty)
  · exact absurd starts (Bool.eq_false_iff.mp (noStart char next))

/-- No match is found before a character with which none can start. -/
theorem matchEnd?_eq_none_of_not_canStartWith (first : cursor.after.head? = some char)
    (noStart : pattern.canStartWith char = false) : pattern.matchEnd? cursor = none := by
  cases found : pattern.matchEnd? cursor with
  | none => rfl
  | some stop =>
      rcases (matches_of_matchEnd? found).emptyOrStarts with ⟨_, rfl⟩ | ⟨other, next, starts⟩
      · exact absurd (size_lt_of_matchEnd? found) (Nat.lt_irrefl _)
      · cases first.symm.trans next
        exact absurd starts (Bool.eq_false_iff.mp noStart)

end Pattern

end FencedCode
