import FencedCode.Proofs.Script.Inspection
import FencedCode.Script.Builtin.Array
import Mathlib.Data.List.Lex

/-!
# Sorted values

A list is sorted by a function of the script, which may say anything and do anything.  Whatever it
says, the values that come out are those that went in, and missing ones are last.  If it answers as
an order does, they come out in that order, those that are alike in the order they were in.
-/

namespace FencedCode.Script.Run

open Text

variable {precedes : Value → Value → Run Bool} {semantics : Semantics} {before after : Machine}
variable {limit : Nat}

/-! ### Every comparison -/

/-- The values of two lists are merged, whatever is said of their order. -/
theorem perm_of_mergeOrdered {left right merged : List Value}
    (ran : mergeOrdered precedes limit left right semantics before = .ok merged after) :
    merged.Perm (left ++ right) := by
  fun_induction mergeOrdered precedes limit left right generalizing before after merged with
  | case1 left right =>
    cases ran
    exact .refl _
  | case2 limit right =>
    cases ran
    exact .refl _
  | case3 limit left =>
    cases ran
    rw [List.append_nil]
  | case4 limit first left second right takeSecond takeFirst =>
    obtain ⟨comesFirst, asked, _, ran⟩ := exists_of_bind_eq_ok ran
    cases comesFirst with
    | true =>
      obtain ⟨others, _, ranOthers, done⟩ := exists_of_bind_eq_ok ran
      cases done
      exact ((takeSecond ranOthers).cons second).trans List.perm_middle.symm
    | false =>
      obtain ⟨others, _, ranOthers, done⟩ := exists_of_bind_eq_ok ran
      cases done
      exact (takeFirst ranOthers).cons first

theorem sortOrdered_of_short {values : List Value} (short : values.length < 2) :
    sortOrdered precedes limit values = pure values := by
  match limit, values with
  | 0, _ | _ + 1, [] | _ + 1, [_] => rfl
  | _, first :: second :: rest => exact absurd short (Nat.not_lt.mpr (Nat.le_add_left 2 _))

theorem sortOrdered_of_long {values : List Value} (long : 2 ≤ values.length) :
    sortOrdered precedes (limit + 1) values = (do
      let front ← sortOrdered precedes limit (values.take (values.length / 2))
      let back ← sortOrdered precedes limit (values.drop (values.length / 2))
      mergeOrdered precedes values.length front back) := by
  match values with
  | [] | [_] => contradiction
  | _ :: _ :: _ => rfl

theorem perm_of_sortOrdered {values sorted : List Value}
    (ran : sortOrdered precedes limit values semantics before = .ok sorted after) :
    sorted.Perm values := by
  induction limit generalizing values before after sorted with
  | zero =>
    cases ran
    exact .refl _
  | succ limit ih =>
    rcases Nat.lt_or_ge values.length 2 with short | long
    · rw [sortOrdered_of_short short] at ran
      cases ran
      exact .refl _
    · rw [sortOrdered_of_long long] at ran
      obtain ⟨front, _, ranFront, ran⟩ := exists_of_bind_eq_ok ran
      obtain ⟨back, _, ranBack, ran⟩ := exists_of_bind_eq_ok ran
      have halves := (ih ranFront).append (ih ranBack)
      rw [List.take_append_drop] at halves
      exact (perm_of_mergeOrdered ran).trans halves

/-- Whatever the function says, the values that are not missing come first in some order, and then
the missing ones. -/
theorem exists_perm_of_sortValues {compare : Value} {values sorted : List Value}
    (ran : sortValues compare values semantics before = .ok sorted after) :
    ∃ present, present.Perm (values.filter (!·.isUndefined)) ∧
      sorted = present ++ values.filter (·.isUndefined) := by
  rw [sortValues, List.partition_eq_filter_filter] at ran
  obtain ⟨present, _, ranPresent, done⟩ := exists_of_bind_eq_ok ran
  cases done
  exact ⟨present, perm_of_sortOrdered ranPresent, rfl⟩

/-! ### Orders -/

section Orders

variable {α : Type} {key : α → Value} {order : α → α → Bool} {items left right : List α}

/-- Whether one item may stand before another, which is unless the other comes first. -/
def mayStand (order : α → α → Bool) (first second : α) : Bool := !order second first

/-- A list in order with the items of another.  Every part of the other that was in order already
is a part of the list too, so what is alike has not changed places. -/
structure IsStableSort (order : α → α → Bool) (items sorted : List α) : Prop where
  perm : sorted.Perm items
  ordered : sorted.Pairwise (mayStand order · ·)
  stable : ∀ part : List α, part.Sublist items → part.Pairwise (mayStand order · ·) →
    part.Sublist sorted

theorem mergeOrdered_nil_left (right : List Value) :
    mergeOrdered precedes limit [] right = pure right := by
  cases limit <;> rfl

theorem mergeOrdered_nil_right (left : List Value) :
    mergeOrdered precedes limit left [] = pure left := by
  cases limit with
  | zero => exact congrArg pure (List.append_nil left)
  | succ limit => cases left <;> rfl

/-- Where an order answers, lists are merged by it. -/
theorem mergeOrdered_eq
    (answers : ∀ first second, precedes (key first) (key second) = pure (order first second))
    (enough : left.length + right.length ≤ limit) :
    mergeOrdered precedes limit (left.map key) (right.map key) =
      pure ((left.merge right (mayStand order)).map key) := by
  fun_induction List.merge left right (mayStand order) generalizing limit with
  | case1 right => rw [List.map_nil, mergeOrdered_nil_left]
  | case2 left => rw [List.map_nil, mergeOrdered_nil_right]
  | case3 first left second right stands ih =>
    rw [List.length_cons] at enough
    obtain ⟨limit, rfl⟩ : ∃ less, limit = less + 1 := ⟨limit - 1, by omega⟩
    rw [mayStand, Bool.not_eq_true'] at stands
    have others := @ih limit (by omega)
    rw [List.map_cons] at others
    rw [List.map_cons, List.map_cons, mergeOrdered, answers, pure_bind, stands,
      if_neg Bool.false_ne_true, others, pure_bind]
    rfl
  | case4 first left second right swapped ih =>
    rw [List.length_cons, List.length_cons] at enough
    obtain ⟨limit, rfl⟩ : ∃ less, limit = less + 1 := ⟨limit - 1, by omega⟩
    rw [mayStand, Bool.not_eq_true', Bool.not_eq_false] at swapped
    have others := @ih limit (by rw [List.length_cons]; omega)
    rw [List.map_cons] at others
    rw [List.map_cons, List.map_cons, mergeOrdered, answers, pure_bind, swapped, if_pos rfl, others,
      pure_bind]
    rfl

/-- Parts of two lists that may stand one behind the other stay together when the lists are
merged. -/
theorem append_sublist_merge {le : α → α → Bool} {front back : List α}
    (trans : ∀ a b c, le a b → le b c → le a c) (ordered : left.Pairwise (le · ·))
    (inLeft : front.Sublist left) (inRight : back.Sublist right)
    (stand : ∀ first ∈ front, ∀ second ∈ back, le first second) :
    (front ++ back).Sublist (left.merge right le) := by
  fun_induction List.merge left right le generalizing front back with
  | case1 right =>
    rw [List.sublist_nil.mp inLeft]
    exact inRight
  | case2 left =>
    rw [List.sublist_nil.mp inRight, List.append_nil]
    exact inLeft
  | case3 first left second right _ ih =>
    cases inLeft with
    | cons _ inRest => exact (ih ordered.tail inRest inRight stand).cons first
    | cons_cons _ inRest =>
      refine (ih ordered.tail inRest inRight fun other member => ?_).cons_cons first
      exact stand other (List.mem_cons_of_mem first member)
  | case4 first left second right swapped ih =>
    cases inRight with
    | cons _ inRest => exact (ih ordered inLeft inRest stand).cons second
    | cons_cons _ inRest =>
      -- What stands before the second item stands behind the first, so the two are in order.
      cases front with
      | nil =>
        refine (ih ordered (List.nil_sublist _) inRest ?_).cons_cons second
        exact List.forall_mem_nil _
      | cons other front =>
        have member := inLeft.subset (List.mem_cons_self ..)
        have stands := stand other (List.mem_cons_self ..) second (List.mem_cons_self ..)
        cases member with
        | head => exact absurd stands swapped
        | tail _ member =>
          exact absurd (trans _ _ _ (List.rel_of_pairwise_cons ordered member) stands) swapped

namespace IsStableSort

theorem of_short (short : items.length < 2) : IsStableSort order items items := by
  refine ⟨.refl _, ?_, fun _ isPart _ => isPart⟩
  match items with
  | [] => exact .nil
  | [item] => exact List.pairwise_singleton ..
  | _ :: _ :: _ => exact absurd short (Nat.not_lt.mpr (Nat.le_add_left 2 _))

/-- Two halves that are sorted are merged to the whole. -/
theorem merge {front back : List α} (isFront : IsStableSort order left front)
    (isBack : IsStableSort order right back)
    (trans : ∀ a b c, mayStand order a b → mayStand order b c → mayStand order a c)
    (total : ∀ a b, mayStand order a b || mayStand order b a) :
    IsStableSort order (left ++ right) (front.merge back (mayStand order)) := by
  refine ⟨?_, ?_, fun part isPart inOrder => ?_⟩
  · exact (List.merge_perm_append (mayStand order)).trans (isFront.perm.append isBack.perm)
  · exact List.pairwise_merge trans total _ _ isFront.ordered isBack.ordered
  · obtain ⟨inFront, inBack, rfl, isFrontPart, isBackPart⟩ := List.sublist_append_iff.mp isPart
    obtain ⟨frontInOrder, backInOrder, stand⟩ := List.pairwise_append.mp inOrder
    exact append_sublist_merge trans isFront.ordered
      (isFront.stable _ isFrontPart frontInOrder) (isBack.stable _ isBackPart backInOrder) stand

end IsStableSort

/-- Where an order answers, the values are sorted by it, and the machine stays as it is. -/
theorem exists_sortOrdered_eq
    (answers : ∀ first second, precedes (key first) (key second) = pure (order first second))
    (trans : ∀ a b c, mayStand order a b → mayStand order b c → mayStand order a c)
    (total : ∀ a b, mayStand order a b || mayStand order b a)
    (enough : items.length ≤ limit) :
    ∃ sorted, sortOrdered precedes limit (items.map key) = pure (sorted.map key) ∧
      IsStableSort order items sorted := by
  induction limit generalizing items with
  | zero =>
    rw [List.eq_nil_of_length_eq_zero (Nat.le_zero.mp enough)]
    exact ⟨[], rfl, .of_short (Nat.succ_pos 1)⟩
  | succ limit ih =>
    rcases Nat.lt_or_ge items.length 2 with short | long
    · exact ⟨items, sortOrdered_of_short (by rwa [List.length_map]), .of_short short⟩
    · obtain ⟨front, sortFront, isFront⟩ :=
        @ih (items.take (items.length / 2)) (by rw [List.length_take]; omega)
      obtain ⟨back, sortBack, isBack⟩ :=
        @ih (items.drop (items.length / 2)) (by rw [List.length_drop]; omega)
      have isMerge := isFront.merge isBack trans total
      rw [List.take_append_drop] at isMerge
      refine ⟨front.merge back (mayStand order), ?_, isMerge⟩
      rw [sortOrdered_of_long (by rwa [List.length_map]), List.length_map, ← List.map_take,
        ← List.map_drop, sortFront, pure_bind, sortBack, pure_bind]
      refine mergeOrdered_eq answers ?_
      rw [← List.length_merge, isMerge.perm.length_eq]

end Orders

/-! ### Texts -/

/-- The numbers of the units of a text. -/
def numbersOf (text : Units) : List Nat := text.codes.toList.map UInt16.toNat

theorem numbersOf_inj {left right : Units} : numbersOf left = numbersOf right ↔ left = right := by
  refine ⟨fun same => ?_, congrArg numbersOf⟩
  have codes := List.map_injective_iff.mpr (fun _ _ => UInt16.toNat_inj.mp) same
  rw [Array.toList_inj] at codes
  cases left
  exact congrArg Text.Units.mk codes

theorem precedes_iff {left right : List UInt16} :
    Units.precedes left right ↔ left.map UInt16.toNat < right.map UInt16.toNat := by
  fun_induction Units.precedes left right with
  | case1 left => exact ⟨(absurd · Bool.false_ne_true), (absurd · (List.not_lt_nil _))⟩
  | case2 first rest => exact ⟨fun _ => List.nil_lt_cons _ _, fun _ => rfl⟩
  | case3 first rest other others ih =>
    rw [Bool.or_eq_true, Bool.and_eq_true, decide_eq_true_eq, beq_iff_eq, ih, List.map_cons,
      List.map_cons, List.cons_lt_cons_iff, UInt16.lt_iff_toNat_lt, UInt16.toNat_inj]

theorem mayStand_lt_iff {left right : Units} :
    mayStand Units.lt left right ↔ numbersOf left ≤ numbersOf right := by
  rw [mayStand, Bool.not_eq_true', ← Bool.not_eq_true, Units.lt, precedes_iff]
  exact not_lt

/-- Texts are sorted as in a dictionary. -/
theorem sortValues_texts (texts : List Units) :
    sortValues .undefined (texts.map .string) =
      pure ((texts.mergeSort (mayStand Units.lt)).map .string) := by
  have answers (first second : Units) :
      comesBefore .undefined (.string first) (.string second) = pure (first.lt second) := rfl
  have trans (a b c : Units) : mayStand Units.lt a b → mayStand Units.lt b c →
      mayStand Units.lt a c := by
    rw [mayStand_lt_iff, mayStand_lt_iff, mayStand_lt_iff]
    exact le_trans
  have total (a b : Units) : mayStand Units.lt a b || mayStand Units.lt b a := by
    rw [Bool.or_eq_true, mayStand_lt_iff, mayStand_lt_iff]
    exact le_total _ _
  have present : (texts.map Value.string).partition (·.isUndefined) =
      ([], texts.map .string) := by
    rw [List.partition_eq_filter_filter, Prod.mk.injEq, List.filter_eq_nil_iff,
      List.filter_eq_self, List.forall_mem_map, List.forall_mem_map]
    exact ⟨fun _ _ => Bool.false_ne_true, fun _ _ => rfl⟩
  obtain ⟨sorted, ran, isSorted⟩ :=
    exists_sortOrdered_eq answers trans total (Nat.le_refl texts.length)
  have unique : sorted = texts.mergeSort (mayStand Units.lt) := by
    refine List.Perm.eq_of_pairwise (fun a b _ _ first second => ?_) isSorted.ordered
      (List.pairwise_mergeSort trans total texts)
      (isSorted.perm.trans (List.mergeSort_perm texts _).symm)
    rw [mayStand_lt_iff] at first second
    exact numbersOf_inj.mp (le_antisymm first second)
  rw [sortValues, present]
  dsimp only
  rw [List.length_map, ran, pure_bind, List.append_nil, unique]

end FencedCode.Script.Run
