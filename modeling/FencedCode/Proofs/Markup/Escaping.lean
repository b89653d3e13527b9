import FencedCode.Proofs.Markup.Reading

/-!
# Escaping undone

Replacing the three entities one after the other undoes escaping.  The order matters: as long as the
ampersands of the text are still escaped, each ampersand that is seen starts an entity, so the entity
of the ampersand has to come last.
-/

namespace FencedCode

namespace Markup

/-- Each special character is written as an entity, and no other is. -/
theorem escapeChar_cases (char : Char) :
    (char ∈ specials ∧ ∃ entity ∈ ["&lt;", "&gt;", "&amp;"], escapeChar char = entity.toList) ∨
      (char ∉ specials ∧ escapeChar char = [char]) := by
  by_cases special : char ∈ specials
  · refine .inl ⟨special, ?_⟩
    simp only [specials, List.mem_cons, List.not_mem_nil, or_false] at special
    rcases special with rfl | rfl | rfl
    · exact ⟨"&lt;", by decide, rfl⟩
    · exact ⟨"&gt;", by decide, rfl⟩
    · exact ⟨"&amp;", by decide, rfl⟩
  · refine .inr ⟨special, ?_⟩
    simp only [specials, List.mem_cons, List.not_mem_nil, or_false, not_or] at special
    rw [escapeChar]
    · exact special.2.2
    · exact special.1
    · exact special.2.1

/-- No tag starts inside an escaped text. -/
theorem lt_notMem_flatMap_escapeChar (chars : List Char) : '<' ∉ chars.flatMap escapeChar := by
  intro member
  obtain ⟨char, _, inside⟩ := List.mem_flatMap.mp member
  rcases escapeChar_cases char with ⟨_, entity, known, written⟩ | ⟨plain, written⟩
  · rw [written] at inside
    have noTag : ∀ entity ∈ ["&lt;", "&gt;", "&amp;"], '<' ∉ entity.toList := by decide
    exact noTag entity known inside
  · rw [written, List.mem_singleton] at inside
    exact plain (inside ▸ by decide)

/-! ### Replacing -/

theorem replaceAll_of_prefix {old new behind : List Char} (nonempty : old ≠ []) :
    replaceAll old new (old ++ behind) = new ++ replaceAll old new behind := by
  cases old with
  | nil => exact absurd rfl nonempty
  | cons first others =>
      rw [List.cons_append, replaceAll, ← List.cons_append,
        if_pos ⟨nonempty, List.prefix_append ..⟩, List.drop_left]

theorem replaceAll_of_not_prefix {old new rest : List Char} {char : Char}
    (missing : ¬old <+: char :: rest) :
    replaceAll old new (char :: rest) = char :: replaceAll old new rest := by
  rw [replaceAll, if_neg fun found => missing found.2]

/-- A run in which no occurrence starts stays as it is. -/
theorem replaceAll_append {old new run rest : List Char} {first : Char}
    (starts : old.head? = some first) (absent : first ∉ run) :
    replaceAll old new (run ++ rest) = run ++ replaceAll old new rest := by
  induction run with
  | nil => rfl
  | cons char run ih =>
      rw [List.mem_cons, not_or] at absent
      rw [List.cons_append, replaceAll_of_not_prefix, ih absent.2, List.cons_append]
      intro found
      cases old with
      | nil => cases starts
      | cons head others =>
          cases starts
          exact absent.1 (List.cons_prefix_cons.mp found).1

/-- The characters with only some of them escaped. -/
def escapeOnly (escaped : List Char) (char : Char) : List Char :=
  if char ∈ escaped then escapeChar char else [char]

/-- The letter by which an entity starts behind the ampersand. -/
def entityLetter : Char → Char
  | '&' => 'a'
  | '<' => 'l'
  | _ => 'g'

theorem eq_of_entityLetter_eq {special other : Char} (isSpecial : special ∈ specials)
    (isOther : other ∈ specials) (same : entityLetter special = entityLetter other) :
    special = other := by
  simp only [specials, List.mem_cons, List.not_mem_nil, or_false] at isSpecial isOther
  rcases isSpecial with rfl | rfl | rfl <;> rcases isOther with rfl | rfl | rfl <;>
    first | rfl | exact absurd same (by decide)

/-- An entity has one ampersand, which starts it, and its first letter behind that. -/
theorem exists_entity {special : Char} (isSpecial : special ∈ specials) :
    ∃ behind, escapeChar special = '&' :: entityLetter special :: behind ∧
      '&' ∉ entityLetter special :: behind := by
  simp only [specials, List.mem_cons, List.not_mem_nil, or_false] at isSpecial
  rcases isSpecial with rfl | rfl | rfl
  · exact ⟨"t;".toList, rfl, by decide⟩
  · exact ⟨"t;".toList, rfl, by decide⟩
  · exact ⟨"mp;".toList, rfl, by decide⟩

/-- Where one entity is replaced, the other entities stay. -/
theorem replaceAll_entity {special other : Char} (isSpecial : special ∈ specials)
    (isOther : other ∈ specials) (differs : other ≠ special) (rest : List Char) :
    replaceAll (escapeChar special) [special] (escapeChar other ++ rest) =
      escapeChar other ++ replaceAll (escapeChar special) [special] rest := by
  obtain ⟨behind, written, _⟩ := exists_entity isSpecial
  obtain ⟨otherBehind, otherWritten, absent⟩ := exists_entity isOther
  have starts : (escapeChar special).head? = some '&' := by rw [written, List.head?_cons]
  have missing : ¬escapeChar special <+: '&' :: (entityLetter other :: otherBehind ++ rest) := by
    intro found
    rw [written, List.cons_append, List.cons_prefix_cons, List.cons_prefix_cons] at found
    exact differs (eq_of_entityLetter_eq isSpecial isOther found.2.1).symm
  rw [otherWritten, List.cons_append, replaceAll_of_not_prefix missing,
    replaceAll_append starts absent]
  rfl

/-- Undoing the entity of one special character, as long as the ampersand is still escaped. -/
theorem replaceAll_escapeOnly {special : Char} {others : List Char}
    (isSpecial : special ∈ specials) (areSpecial : others ⊆ specials) (fresh : special ∉ others)
    (ampersand : '&' ∈ special :: others) (chars : List Char) :
    replaceAll (escapeChar special) [special] (chars.flatMap (escapeOnly (special :: others))) =
      chars.flatMap (escapeOnly others) := by
  obtain ⟨behind, written, _⟩ := exists_entity isSpecial
  have starts : (escapeChar special).head? = some '&' := by rw [written, List.head?_cons]
  have nonempty : escapeChar special ≠ [] := by rw [written]; exact List.cons_ne_nil _ _
  induction chars with
  | nil => rw [List.flatMap_nil, List.flatMap_nil, replaceAll]
  | cons char chars ih =>
      rw [List.flatMap_cons, List.flatMap_cons]
      by_cases same : char = special
      · subst same
        rw [escapeOnly, if_pos (List.mem_cons_self ..), escapeOnly, if_neg fresh,
          replaceAll_of_prefix nonempty, ih]
      · by_cases isOther : char ∈ others
        · rw [escapeOnly, if_pos (List.mem_cons_of_mem _ isOther), escapeOnly, if_pos isOther,
            replaceAll_entity isSpecial (areSpecial isOther) same, ih]
        · -- Not escaped, so no ampersand: no entity starts here.
          have plain : char ∉ special :: others := by
            simp only [List.mem_cons, not_or]
            exact ⟨same, isOther⟩
          rw [escapeOnly, if_neg plain, escapeOnly, if_neg isOther, replaceAll_append starts, ih]
          rw [List.mem_singleton]
          rintro rfl
          exact plain ampersand

/-- Undoing the entities gives back every text, whatever entities the text itself seems to hold. -/
theorem unescape_flatMap_escapeChar (chars : List Char) :
    unescape (chars.flatMap escapeChar) = chars := by
  have all : escapeChar = escapeOnly specials := by
    funext char
    rw [escapeOnly]
    split
    · rfl
    · next plain =>
      rcases escapeChar_cases char with ⟨special, _⟩ | ⟨_, written⟩
      · exact absurd special plain
      · exact written
  have none : ∀ chars : List Char, chars.flatMap (escapeOnly []) = chars := by
    intro chars
    exact List.flatMap_singleton' chars
  calc unescape (chars.flatMap escapeChar)
    _ = unescape (chars.flatMap (escapeOnly specials)) := by rw [all]
    _ = replaceAll (escapeChar '&') ['&'] (replaceAll (escapeChar '>') ['>']
          (replaceAll (escapeChar '<') ['<'] (chars.flatMap (escapeOnly ['<', '>', '&'])))) := rfl
    _ = replaceAll (escapeChar '&') ['&'] (replaceAll (escapeChar '>') ['>']
          (chars.flatMap (escapeOnly ['>', '&']))) := by
        rw [replaceAll_escapeOnly (by decide) (by decide) (by decide) (by decide)]
    _ = replaceAll (escapeChar '&') ['&'] (chars.flatMap (escapeOnly ['&'])) := by
        rw [replaceAll_escapeOnly (by decide) (by decide) (by decide) (by decide)]
    _ = chars.flatMap (escapeOnly []) :=
        replaceAll_escapeOnly (by decide) (by decide) (by decide) (by decide) chars
    _ = chars := none chars

end Markup

end FencedCode
