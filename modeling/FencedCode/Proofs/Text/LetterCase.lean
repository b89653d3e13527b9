import FencedCode.Text.LetterCase

/-!
# Small letters and the case of ASCII

A text in small letters is the same whichever of its ASCII letters are written as capitals.  This is
not a fact about single letters alone: how a capital sigma is mapped depends on the letters around
it, and it has to be seen that their case does not matter.  A text that has ASCII characters only is
mapped letter by letter.
-/

namespace FencedCode.Text

/-- The capitals among the ASCII characters. -/
def asciiCapitals : List Char := (List.range 26).map fun place => .ofNat ('A'.toNat + place)

theorem toLower_eq_self_or_mem (char : Char) : char.toLower = char ∨ char ∈ asciiCapitals := by
  by_cases capital : 'A'.toNat ≤ char.toNat ∧ char.toNat ≤ 'Z'.toNat
  · obtain ⟨from_A, to_Z⟩ := capital
    refine .inr (List.mem_map.mpr ⟨char.toNat - 'A'.toNat, ?_, ?_⟩)
    · rw [List.mem_range]
      have : 'A'.toNat + 26 = 'Z'.toNat + 1 := rfl
      omega
    · rw [Nat.add_sub_cancel' from_A, Char.ofNat_toNat]
  · exact .inl (dif_neg capital)

theorem isCased_toLower (char : Char) : isCased char.toLower = isCased char := by
  have capitals : asciiCapitals.all fun char => isCased char.toLower == isCased char := by decide
  rcases toLower_eq_self_or_mem char with same | member
  · rw [same]
  · exact beq_iff_eq.mp (List.all_eq_true.mp capitals char member)

theorem isCaseIgnorable_toLower (char : Char) :
    isCaseIgnorable char.toLower = isCaseIgnorable char := by
  have capitals : asciiCapitals.all fun char =>
      isCaseIgnorable char.toLower == isCaseIgnorable char := by decide
  rcases toLower_eq_self_or_mem char with same | member
  · rw [same]
  · exact beq_iff_eq.mp (List.all_eq_true.mp capitals char member)

theorem startsCased_cons (char : Char) (chars : List Char) :
    startsCased (char :: chars) =
      if isCaseIgnorable char then startsCased chars else isCased char := by
  by_cases ignorable : isCaseIgnorable char
  · rw [startsCased, List.dropWhile_cons_of_pos ignorable, if_pos ignorable, startsCased]
  · rw [startsCased, List.dropWhile_cons_of_neg ignorable, if_neg ignorable]

theorem startsCased_map_toLower (chars : List Char) :
    startsCased (chars.map Char.toLower) = startsCased chars := by
  induction chars with
  | nil => rfl
  | cons char chars ih =>
      rw [List.map_cons, startsCased_cons, startsCased_cons, ih, isCaseIgnorable_toLower,
        isCased_toLower]

theorem lowerAt_toLower (before : List Char) (char : Char) (after : List Char) :
    lowerAt (before.map Char.toLower) char.toLower (after.map Char.toLower) =
      lowerAt before char after := by
  have capitals : asciiCapitals.all fun char => decide (lowerChar char.toLower = lowerChar char ∧
      char.toLower ≠ 'Σ' ∧ char.toLower ≠ 'İ' ∧ char ≠ 'Σ' ∧ char ≠ 'İ') := by decide
  rcases toLower_eq_self_or_mem char with same | member
  · rw [same, lowerAt, lowerAt, startsCased_map_toLower, startsCased_map_toLower]
  · obtain ⟨sameLower, notSigma, notDotted, notSigma', notDotted'⟩ :=
      of_decide_eq_true (List.all_eq_true.mp capitals char member)
    rw [lowerAt, lowerAt, if_neg notSigma, if_neg notDotted, if_neg notSigma', if_neg notDotted',
      sameLower]

theorem lowerFrom_map_toLower (before chars : List Char) :
    lowerFrom (before.map Char.toLower) (chars.map Char.toLower) = lowerFrom before chars := by
  induction chars generalizing before with
  | nil => rfl
  | cons char chars ih =>
      rw [List.map_cons, lowerFrom, lowerFrom, lowerAt_toLower, ← List.map_cons, ih]

/-- Texts that differ in the case of ASCII letters alone are the same in small letters. -/
theorem lower_eq_of_toLower_eq {left right : String}
    (same : left.toList.map Char.toLower = right.toList.map Char.toLower) :
    lower left = lower right := by
  have leftLower := lowerFrom_map_toLower [] left.toList
  have rightLower := lowerFrom_map_toLower [] right.toList
  rw [lower, lower, ← leftLower, ← rightLower, same]

/-! ### Texts of ASCII characters -/

/-- All characters of a text are ASCII characters. -/
def IsAscii (text : String) : Prop := ∀ char ∈ text.toList, char.toNat < 128

instance (text : String) : Decidable (IsAscii text) :=
  List.decidableBAll (fun char : Char => char.toNat < 128) text.toList

theorem lowerChar_eq_toLower {char : Char} (ascii : char.toNat < 128) :
    lowerChar char = char.toLower := by
  have each : (List.range 128).all fun code =>
      lowerChar (.ofNat code) == (Char.ofNat code).toLower := by decide
  have here := List.all_eq_true.mp each char.toNat (List.mem_range.mpr ascii)
  rwa [Char.ofNat_toNat, beq_iff_eq] at here

theorem lowerFrom_of_ascii (before : List Char) {chars : List Char}
    (ascii : ∀ char ∈ chars, char.toNat < 128) :
    lowerFrom before chars = chars.map Char.toLower := by
  induction chars generalizing before with
  | nil => rfl
  | cons char chars ih =>
      obtain ⟨here, rest⟩ := List.forall_mem_cons.mp ascii
      have notSigma : char ≠ 'Σ' := by
        rintro rfl
        exact absurd here (by decide)
      have notDotted : char ≠ 'İ' := by
        rintro rfl
        exact absurd here (by decide)
      rw [lowerFrom, lowerAt, if_neg notSigma, if_neg notDotted, lowerChar_eq_toLower here,
        ih _ rest, List.map_cons, List.singleton_append]

/-- Among ASCII texts, to be the same in small letters is to be the same up to case. -/
theorem lower_eq_iff_of_ascii {left right : String} (leftAscii : IsAscii left)
    (rightAscii : IsAscii right) :
    lower left = lower right ↔
      left.toList.map Char.toLower = right.toList.map Char.toLower := by
  rw [lower, lower, lowerFrom_of_ascii [] leftAscii, lowerFrom_of_ascii [] rightAscii,
    String.ofList_inj]

end FencedCode.Text
