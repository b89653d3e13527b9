import FencedCode.Fence
import FencedCode.Proofs.Text.Trim

/-!
# Blocks and their stored form

What reading the stored form of a block gives back: of the name the word characters at its front,
of the text all but the white space around it.  The closing mark that writing puts at the end is
the one that reading takes off, whatever marks the text itself holds.
-/

namespace FencedCode

open Text

attribute [ext] Fence

namespace Fence

/-- The longest beginning of some characters in which each satisfies a condition. -/
structure LongestRun (condition : Char → Bool) (chars run : List Char) : Prop where
  begins : run <+: chars
  satisfies : ∀ char ∈ run, condition char
  longest : ∀ other, other <+: chars → (∀ char ∈ other, condition char) → other <+: run

theorem longestRun_takeWhile (condition : Char → Bool) (chars : List Char) :
    LongestRun condition chars (chars.takeWhile condition) where
  begins := List.takeWhile_prefix condition
  satisfies := by
    intro char member
    exact List.all_eq_true.mp List.all_takeWhile char member
  longest := by
    rintro other ⟨behind, rfl⟩ satisfies
    rw [List.takeWhile_append_of_pos satisfies]
    exact List.prefix_append ..

/-- A run does not go past a character that fails the condition. -/
theorem takeWhile_append_cons {condition : Char → Bool} {stop : Char} (stops : ¬condition stop)
    (chars behind : List Char) :
    (chars ++ stop :: behind).takeWhile condition = chars.takeWhile condition := by
  induction chars with
  | nil => exact List.takeWhile_cons_of_neg stops
  | cons char chars ih =>
      rw [List.cons_append, List.takeWhile_cons, List.takeWhile_cons, ih]

/-! ### The parts of the stored form -/

theorem toList_serialize (fence : Fence) :
    (serialize fence).toList =
      mark ++ (fence.name.toList ++ '\n' :: (fence.body.toList ++ '\n' :: mark)) := by
  simp only [serialize, String.toList_append, List.append_assoc]
  rfl

theorem mark_isPrefixOf_append (chars : List Char) : mark.isPrefixOf (mark ++ chars) = true := by
  rw [List.isPrefixOf_iff_prefix]
  exact List.prefix_append ..

/-- The line feed behind the name ends the run of word characters, if nothing did before. -/
theorem nameOf_serialize (fence : Fence) :
    nameOf (serialize fence).toList = fence.name.toList.takeWhile isAsciiWord := by
  rw [toList_serialize, nameOf, if_pos (mark_isPrefixOf_append _), List.drop_left]
  exact takeWhile_append_cons (by decide) _ _

theorem afterFirstLine_append {front : List Char} (oneLine : '\n' ∉ front) (chars : List Char) :
    afterFirstLine (front ++ '\n' :: chars) = chars := by
  have passed : ∀ char ∈ front, (char != '\n') = true := by
    intro char member
    rw [bne_iff_ne]
    rintro rfl
    exact oneLine member
  rw [afterFirstLine, List.dropWhile_append_of_pos passed, List.dropWhile_cons_of_neg (by simp)]
  rfl

theorem trimEnd_append_mark (chars : List Char) : trimEnd (chars ++ mark) = chars ++ mark := by
  apply trimEnd_eq_self
  intro char isLast
  have backtick : some '\x60' = some char := by
    rw [← isLast, List.getLast?_append]
    rfl
  cases backtick
  decide

theorem dropClosing_append_mark (chars : List Char) : dropClosing (chars ++ mark) = chars := by
  have closes : mark.isSuffixOf (chars ++ mark) = true := by
    rw [List.isSuffixOf_iff_suffix]
    exact List.suffix_append ..
  rw [dropClosing, if_pos closes, List.length_append, Nat.add_sub_cancel, List.take_left]

/-- Of the white space and marks at the end only those that writing added are taken off before
the text is trimmed. -/
theorem bodyOf_serialize {fence : Fence} (oneLine : '\n' ∉ fence.name.toList) :
    bodyOf (serialize fence).toList = trim fence.body.toList := by
  have noLineFeed : '\n' ∉ mark ++ fence.name.toList := by
    rw [List.mem_append, not_or]
    exact ⟨by decide, oneLine⟩
  have lineFeed : ∀ char ∈ ['\n'], isBlank char = true :=
    List.forall_mem_singleton.mpr (by decide)
  rw [toList_serialize, ← List.append_assoc, bodyOf, afterFirstLine_append noLineFeed,
    ← List.singleton_append, ← List.append_assoc, trimEnd_append_mark, dropClosing_append_mark,
    trim_append_of_blank lineFeed]

/-! ### Reading what was written -/

theorem toList_name_parse_serialize (fence : Fence) :
    (parse (serialize fence)).name.toList = fence.name.toList.takeWhile isAsciiWord := by
  rw [parse, String.toList_ofList, nameOf_serialize]

theorem body_parse_serialize {fence : Fence} (oneLine : '\n' ∉ fence.name.toList) :
    (parse (serialize fence)).body = trimText fence.body := by
  rw [parse, bodyOf_serialize oneLine, trimText]

theorem lineFeed_notMem_of_word {chars : List Char} (word : ∀ char ∈ chars, isAsciiWord char) :
    '\n' ∉ chars := by
  intro member
  have isWord := word '\n' member
  revert isWord
  decide

/-- The blocks that are read back as they were written. -/
theorem parse_serialize_eq_self_iff {fence : Fence} :
    parse (serialize fence) = fence ↔
      (∀ char ∈ fence.name.toList, isAsciiWord char) ∧ trimText fence.body = fence.body := by
  have readName := toList_name_parse_serialize fence
  constructor
  · intro same
    rw [same] at readName
    have word : ∀ char ∈ fence.name.toList, isAsciiWord char := by
      rw [readName]
      exact (longestRun_takeWhile isAsciiWord _).satisfies
    refine ⟨word, ?_⟩
    rw [← body_parse_serialize (lineFeed_notMem_of_word word), same]
  · rintro ⟨word, trimmed⟩
    have sameName : (parse (serialize fence)).name = fence.name := by
      have run := longestRun_takeWhile isAsciiWord fence.name.toList
      have whole := run.longest fence.name.toList (List.prefix_refl _) word
      rw [← String.toList_inj, readName]
      exact run.begins.eq_of_length_le whole.length_le
    have sameBody : (parse (serialize fence)).body = fence.body := by
      rw [body_parse_serialize (lineFeed_notMem_of_word word), trimmed]
    exact Fence.ext sameName sameBody

/-- Whatever is read is a block that writing keeps. -/
theorem parse_serialize_parse (raw : String) : parse (serialize (parse raw)) = parse raw := by
  rw [parse_serialize_eq_self_iff]
  constructor
  · rw [parse, String.toList_ofList, nameOf]
    split
    · exact (longestRun_takeWhile isAsciiWord _).satisfies
    · exact List.forall_mem_nil _
  · rw [parse, trimText, String.toList_ofList, bodyOf, trim_trim]

/-- Reading the stored form gives the longest run of word characters of the name and the trimmed
text; nothing is lost exactly where there is nothing to cut, as in every block that was read. -/
theorem round_trip :
    (∀ name body : String, '\n' ∉ name.toList →
      LongestRun isAsciiWord name.toList (parse (serialize { name, body })).name.toList ∧
      Trimmed body.toList (parse (serialize { name, body })).body.toList) ∧
    (∀ fence : Fence, parse (serialize fence) = fence ↔
      (∀ char ∈ fence.name.toList, isAsciiWord char) ∧ trimText fence.body = fence.body) ∧
    (∀ raw : String, parse (serialize (parse raw)) = parse raw) := by
  refine ⟨?_, fun _ => parse_serialize_eq_self_iff, parse_serialize_parse⟩
  intro name body oneLine
  rw [toList_name_parse_serialize, body_parse_serialize oneLine, toList_trimText]
  exact ⟨longestRun_takeWhile isAsciiWord _, trimmed_trim _⟩

/-- A text that ends in a mark of its own, under a name with a character that is no word character. -/
theorem round_trip_of_marked_text :
    '\n' ∉ "c++".toList ∧
      LongestRun isAsciiWord "c++".toList
        (parse (serialize { name := "c++", body := " x\x60\x60\x60\r\n" })).name.toList ∧
      Trimmed " x\x60\x60\x60\r\n".toList
        (parse (serialize { name := "c++", body := " x\x60\x60\x60\r\n" })).body.toList :=
  have oneLine : '\n' ∉ "c++".toList := by decide
  ⟨oneLine, round_trip.1 "c++" " x\x60\x60\x60\r\n" oneLine⟩

end Fence

end FencedCode
