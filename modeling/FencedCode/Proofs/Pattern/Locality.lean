import FencedCode.Pattern.Basic
import FencedCode.Proofs.Pattern.Reading
import Mathlib.Data.List.Forall2

/-!
# What a search looks at

A search reads characters and asks whether assertions hold.  So it goes the same way at two places
of different texts, if the characters to come are the same and so are the answers that assertions
give from there on.  The two searches are followed side by side: whatever one of them finds, the
other finds as well, as many characters further on and in the same order.
-/

namespace FencedCode

/-! ### Places that look alike -/

/-- Two places with the same characters to come, at and behind which the same assertions hold. -/
structure Cursor.Alike (left right : Cursor) : Prop where
  after : left.after = right.after
  holds : ∀ chars leftLater rightLater, left.Reads chars leftLater → right.Reads chars rightLater →
    ∀ assertion : Assertion, assertion.holds leftLater = assertion.holds rightLater

namespace Cursor.Alike

variable {left right : Cursor}

theorem size_eq (alike : left.Alike right) : left.size = right.size := by
  rw [left.size_eq, right.size_eq, alike.after]

theorem reads {chars : List Char} {leftLater rightLater : Cursor} (alike : left.Alike right)
    (leftReads : left.Reads chars leftLater) (rightReads : right.Reads chars rightLater) :
    leftLater.Alike rightLater where
  after := by
    have same := leftReads.after_eq.symm.trans (alike.after.trans rightReads.after_eq)
    exact List.append_cancel_left same
  holds more _ _ readsLeft readsRight :=
    alike.holds (chars ++ more) _ _ (leftReads.trans readsLeft) (rightReads.trans readsRight)

end Cursor.Alike

open Cursor (Alike)

/-! ### Found places -/

/-- Places found side by side. -/
structure Found.Alike (left right : Found) : Prop where
  cursors : List.Forall₂ Cursor.Alike left.cursors right.cursors
  seen : left.seen = right.seen

namespace Found

variable {left right : Found} {cursor other : Cursor}

theorem alike_empty : Found.Alike {} {} := ⟨.nil, rfl⟩

theorem Alike.contains_eq (alike : left.Alike right) (places : cursor.Alike other) :
    left.contains cursor = right.contains other := by
  rw [contains, contains, alike.seen, places.size_eq]

theorem Alike.add (alike : left.Alike right) (places : cursor.Alike other) :
    (left.add cursor).Alike (right.add other) := by
  rw [Found.add, Found.add, alike.contains_eq places]
  split
  · exact alike
  · exact ⟨.cons places alike.cursors, by rw [alike.seen, places.size_eq]⟩

theorem Alike.foldl {extend otherExtend : Found → Cursor → Found} {cursors others : List Cursor}
    (alike : left.Alike right) (places : List.Forall₂ Cursor.Alike cursors others)
    (each : ∀ {left right cursor other}, Found.Alike left right → Cursor.Alike cursor other →
      (extend left cursor).Alike (otherExtend right other)) :
    (cursors.foldl extend left).Alike (others.foldl otherExtend right) := by
  induction places generalizing left right with
  | nil => exact alike
  | cons first _ ih => exact ih (each alike first)

theorem Alike.toList (alike : left.Alike right) :
    List.Forall₂ Cursor.Alike left.toList right.toList :=
  List.forall₂_reverse_iff.mpr alike.cursors

end Found

namespace Pattern

/-! ### Steps -/

/-- Two steps that go the same ways from places that look alike. -/
def StepsAlike (left right : Cursor → List Cursor) : Prop :=
  ∀ {cursor other}, cursor.Alike other → List.Forall₂ Alike (left cursor) (right other)

theorem stepsAlike_here : StepsAlike (fun cursor => [cursor]) fun cursor => [cursor] :=
  fun places => .cons places .nil

section Steps

variable {step otherStep : Cursor → List Cursor} {cursor other : Cursor}

theorem forall₂_andThen {ends others : List Cursor} (places : List.Forall₂ Alike ends others)
    (steps : StepsAlike step otherStep) :
    List.Forall₂ Alike (andThen ends step) (andThen others otherStep) := by
  apply Found.Alike.toList
  apply Found.alike_empty.foldl places
  intro _ _ _ _ found here
  exact found.foldl (steps here) Found.Alike.add

theorem forall₂_consumingRound (steps : StepsAlike step otherStep) (places : cursor.Alike other) :
    List.Forall₂ Alike (consumingRound step cursor) (consumingRound otherStep other) := by
  refine List.rel_filter ?_ (steps places)
  intro next otherNext here
  dsimp only
  rw [here.size_eq, places.size_eq]

/-- Trying the place itself before or behind other places. -/
theorem forall₂_orHere {ends others : List Cursor} (greedy : Bool)
    (places : cursor.Alike other) (further : List.Forall₂ Alike ends others) :
    List.Forall₂ Alike
      (andThen (if greedy then ends ++ [cursor] else cursor :: ends) fun next => [next])
      (andThen (if greedy then others ++ [other] else other :: others) fun next => [next]) := by
  apply forall₂_andThen _ stepsAlike_here
  cases greedy with
  | true => exact List.rel_append further (.cons places .nil)
  | false => exact .cons places further

variable (steps : StepsAlike step otherStep) (greedy : Bool)
include steps

theorem alike_roundsFrom (bound : Nat) {left right : Found} (found : left.Alike right)
    (places : cursor.Alike other) :
    (roundsFrom step greedy bound left cursor).Alike
      (roundsFrom otherStep greedy bound right other) := by
  induction bound generalizing left right cursor other with
  | zero => exact found.add places
  | succ bound ih =>
      have started : (if greedy then left else left.add cursor).Alike
          (if greedy then right else right.add other) := by
        cases greedy with
        | true => exact found
        | false => exact found.add places
      rw [roundsFrom, roundsFrom, found.contains_eq places]
      split
      · exact found
      · exact (started.foldl (forall₂_consumingRound steps places) ih).add places

theorem stepsAlike_someRounds :
    StepsAlike (someRounds step greedy) (someRounds otherStep greedy) := by
  intro cursor other places
  apply Found.Alike.toList
  apply Found.alike_empty.foldl (steps places)
  intro _ _ next otherNext found here
  rw [here.size_eq, places.size_eq]
  split
  · exact alike_roundsFrom steps greedy _ found here
  · exact found.add here

theorem stepsAlike_anyRounds :
    StepsAlike (anyRounds step greedy) (anyRounds otherStep greedy) := by
  intro cursor other places
  exact forall₂_orHere greedy places (stepsAlike_someRounds steps greedy places)

theorem stepsAlike_exactRounds (count : Nat) :
    StepsAlike (exactRounds step count) (exactRounds otherStep count) := by
  intro cursor other places
  induction count with
  | zero => exact stepsAlike_here places
  | succ count ih => exact forall₂_andThen ih steps

theorem stepsAlike_fewRounds (count : Nat) :
    StepsAlike (fewRounds step greedy count) (fewRounds otherStep greedy count) := by
  induction count with
  | zero => exact stepsAlike_here
  | succ count ih =>
      intro cursor other places
      exact forall₂_orHere greedy places (forall₂_andThen (steps places) ih)

theorem stepsAlike_rounds (least : Nat) (most : Option Nat) :
    StepsAlike (rounds step least most greedy) (rounds otherStep least most greedy) := by
  intro cursor other places
  have exactly (count : Nat) := stepsAlike_exactRounds steps count places
  cases most with
  | none =>
      cases least with
      | zero => exact stepsAlike_anyRounds steps greedy places
      | succ least => exact forall₂_andThen (exactly least) (stepsAlike_someRounds steps greedy)
  | some most =>
      have exactlyThenFew :=
        forall₂_andThen (exactly least) (stepsAlike_fewRounds steps greedy (most - least))
      cases least <;> exact exactlyThenFew

end Steps

/-! ### Patterns -/

/-- The ends of a pattern at places that look alike. -/
theorem stepsAlike_ends (pattern : Pattern) : StepsAlike pattern.ends pattern.ends := by
  induction pattern with
  | empty => exact stepsAlike_here
  | one set =>
      intro cursor other places
      rw [ends, ends]
      cases read : cursor.next? with
      | none =>
          have ended : other.next? = none := by
            rw [Cursor.next?_eq_none_iff, ← places.after, ← Cursor.next?_eq_none_iff, read]
          rw [ended]
          exact .nil
      | some pair =>
          obtain ⟨char, next⟩ := pair
          have toCome : other.after = char :: next.after :=
            places.after.symm.trans (Cursor.next?_eq_some_iff.mp read).1
          obtain ⟨otherNext, otherRead, _⟩ := Cursor.exists_next toCome
          rw [otherRead]
          dsimp only
          split
          · exact .cons (places.reads (.step read (.stay next))
              (.step otherRead (.stay otherNext))) .nil
          · exact .nil
  | assert assertion =>
      intro cursor other places
      rw [ends, ends, places.holds [] cursor other (.stay cursor) (.stay other)]
      split
      · exact .cons places .nil
      · exact .nil
  | seq first second firstIH secondIH =>
      intro cursor other places
      exact forall₂_andThen (firstIH places) secondIH
  | alt first second firstIH secondIH =>
      intro cursor other places
      exact forall₂_andThen (List.rel_append (firstIH places) (secondIH places)) stepsAlike_here
  | repeated body least most greedy ih => exact stepsAlike_rounds ih greedy least most

/-- At places that look alike the preferred ends are as far away. -/
theorem head?_ends_of_alike {cursor other : Cursor} (pattern : Pattern)
    (places : cursor.Alike other) :
    (pattern.ends cursor).head?.map cursor.charsTo =
      (pattern.ends other).head?.map other.charsTo := by
  have sideBySide := stepsAlike_ends pattern places
  generalize pattern.ends cursor = ends, pattern.ends other = others at sideBySide
  cases sideBySide with
  | nil => rfl
  | cons first _ =>
      simp only [List.head?_cons, Option.map_some, Cursor.charsTo, places.after, places.size_eq,
        first.size_eq]

end Pattern

end FencedCode
