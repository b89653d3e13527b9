import FencedCode.Pattern.Shapes
import FencedCode.Proofs.Pattern.Reading

/-!
# What a match is

The ends of a pattern are found with care for their order and for places that come up twice.  Where
a match may end can be said without either, by a relation between two places that follows the
pattern part by part.  Every end that is found is the end of such a match, so a match covers whole
characters of the text, and only such as its pattern admits.
-/

namespace FencedCode

/-! ### What holds of all ends -/

namespace Found

/-- All places found have a property. -/
def All (property : Cursor → Prop) (found : Found) : Prop :=
  ∀ cursor ∈ found.cursors, property cursor

variable {property : Cursor → Prop}

theorem all_empty : All property {} := by
  intro cursor member
  simp at member

theorem All.add {found : Found} {cursor : Cursor} (all : found.All property)
    (holds : property cursor) : (found.add cursor).All property := by
  rw [Found.add]
  split
  · exact all
  · intro other member
    cases List.mem_cons.mp member with
    | inl same => exact same ▸ holds
    | inr earlier => exact all other earlier

/-- A property of all places found survives a fold over places that keep it one by one. -/
theorem All.foldl {extend : Found → Cursor → Found} {cursors : List Cursor} {found : Found}
    (all : found.All property)
    (keeps : ∀ found cursor, cursor ∈ cursors → All property found →
      All property (extend found cursor)) :
    (cursors.foldl extend found).All property := by
  induction cursors generalizing found with
  | nil => exact all
  | cons cursor cursors ih =>
      rw [List.foldl_cons]
      apply ih
      · exact keeps found cursor (List.mem_cons_self ..) all
      · intro found other member
        exact keeps found other (List.mem_cons_of_mem _ member)

theorem All.toList {found : Found} (all : found.All property) :
    ∀ cursor ∈ found.toList, property cursor := by
  intro cursor member
  exact all cursor (List.mem_reverse.mp member)

end Found

namespace Pattern

/-! ### Matches -/

/-- `Rounds step count place stop`: `count` steps in a row lead from `place` to `stop`. -/
def Rounds {Place : Type} (step : Place → Place → Prop) : Nat → Place → Place → Prop
  | 0, place, stop => stop = place
  | count + 1, place, stop => ∃ next, step place next ∧ Rounds step count next stop

/-- `pattern.Matches cursor stop`: what lies between `cursor` and `stop` is a match. -/
def Matches : Pattern → Cursor → Cursor → Prop
  | empty, cursor, stop => stop = cursor
  | one set, cursor, stop => ∃ char, cursor.next? = some (char, stop) ∧ set.contains char
  | assert assertion, cursor, stop => assertion.holds cursor ∧ stop = cursor
  | seq first second, cursor, stop =>
    ∃ middle, first.Matches cursor middle ∧ second.Matches middle stop
  | alt first second, cursor, stop => first.Matches cursor stop ∨ second.Matches cursor stop
  | repeated body least most _, cursor, stop =>
    ∃ count, least ≤ count ∧ (∀ bound ∈ most, count ≤ max least bound) ∧
      Rounds body.Matches count cursor stop

namespace Rounds

variable {step other : Cursor → Cursor → Prop} {cursor middle stop : Cursor} {count more : Nat}

theorem mono (implies : ∀ cursor next, step cursor next → other cursor next)
    (rounds : Rounds step count cursor stop) : Rounds other count cursor stop := by
  induction count generalizing cursor with
  | zero => exact rounds
  | succ count ih =>
      obtain ⟨next, first, rest⟩ := rounds
      exact ⟨next, implies cursor next first, ih rest⟩

theorem append (first : Rounds step count cursor middle) (second : Rounds step more middle stop) :
    Rounds step (count + more) cursor stop := by
  induction count generalizing cursor with
  | zero =>
      cases first
      rwa [Nat.zero_add]
  | succ count ih =>
      obtain ⟨next, firstRound, rest⟩ := first
      rw [Nat.add_right_comm]
      exact ⟨next, firstRound, ih rest⟩

theorem single (once : step cursor stop) : Rounds step 1 cursor stop := ⟨stop, once, rfl⟩

end Rounds

/-! ### Every end is the end of a match -/

/-- One step leads from a place to another. -/
def Leads (step : Cursor → List Cursor) (cursor next : Cursor) : Prop := next ∈ step cursor

section Steps

variable {step : Cursor → List Cursor} {cursor stop : Cursor}

theorem exists_of_mem_andThen {ends : List Cursor} (member : stop ∈ andThen ends step) :
    ∃ middle ∈ ends, stop ∈ step middle := by
  revert stop
  apply Found.All.toList
  refine Found.All.foldl Found.all_empty ?_
  intro found middle middleMember all
  refine Found.All.foldl all ?_
  intro found next nextMember all
  exact all.add ⟨middle, middleMember, nextMember⟩

/-- Where a place itself is tried before or behind other places, there are no further ones. -/
theorem eq_or_mem_of_mem_orHere {ends : List Cursor} {greedy : Bool}
    (member : stop ∈ andThen (if greedy then ends ++ [cursor] else cursor :: ends)
      fun next => [next]) : stop = cursor ∨ stop ∈ ends := by
  obtain ⟨place, placeMember, same⟩ := exists_of_mem_andThen member
  cases List.mem_singleton.mp same
  cases greedy with
  | true => exact (List.mem_append.mp placeMember).symm.imp_left List.mem_singleton.mp
  | false => exact List.mem_cons.mp placeMember

theorem mem_consumingRound_iff {next : Cursor} :
    next ∈ consumingRound step cursor ↔ Leads step cursor next ∧ next.size < cursor.size := by
  rw [consumingRound, List.mem_filter, decide_eq_true_eq, Leads]

/-- A property that each step keeps holds of all places that rounds find. -/
theorem all_roundsFrom (property : Cursor → Prop)
    (closed : ∀ cursor next, property cursor → Leads step cursor next → property next)
    (greedy : Bool) (bound : Nat) {found : Found} (all : found.All property)
    (holds : property cursor) : (roundsFrom step greedy bound found cursor).All property := by
  induction bound generalizing found cursor with
  | zero => exact all.add holds
  | succ bound ih =>
      rw [roundsFrom]
      split
      · exact all
      · refine Found.All.add ?_ holds
        apply Found.All.foldl
        · cases greedy with
          | true => exact all
          | false => exact all.add holds
        · intro found next member all
          exact ih all (closed cursor next holds (mem_consumingRound_iff.mp member).1)

theorem rounds_of_mem_exactRounds {count : Nat} (member : stop ∈ exactRounds step count cursor) :
    Rounds (Leads step) count cursor stop := by
  induction count generalizing stop with
  | zero => exact List.mem_singleton.mp member
  | succ count ih =>
      obtain ⟨middle, middleMember, stopMember⟩ := exists_of_mem_andThen member
      exact (ih middleMember).append (.single stopMember)

theorem rounds_of_mem_fewRounds {greedy : Bool} {count : Nat}
    (member : stop ∈ fewRounds step greedy count cursor) :
    ∃ few ≤ count, Rounds (Leads step) few cursor stop := by
  induction count generalizing cursor with
  | zero => exact ⟨0, Nat.le_refl 0, List.mem_singleton.mp member⟩
  | succ count ih =>
      cases eq_or_mem_of_mem_orHere member with
      | inl here => exact ⟨0, Nat.zero_le _, here⟩
      | inr furtherOn =>
          obtain ⟨next, nextMember, stopMember⟩ := exists_of_mem_andThen furtherOn
          obtain ⟨few, atMost, rounds⟩ := ih stopMember
          exact ⟨few + 1, Nat.succ_le_succ atMost, next, nextMember, rounds⟩

theorem rounds_of_mem_someRounds {greedy : Bool} (member : stop ∈ someRounds step greedy cursor) :
    ∃ count, 0 < count ∧ Rounds (Leads step) count cursor stop := by
  revert stop
  apply Found.All.toList
  refine Found.All.foldl Found.all_empty ?_
  intro found next nextMember all
  have once : ∃ count, 0 < count ∧ Rounds (Leads step) count cursor next :=
    ⟨1, Nat.one_pos, .single nextMember⟩
  split
  · refine all_roundsFrom _ ?_ greedy next.size all once
    rintro place following ⟨count, _, rounds⟩ leads
    exact ⟨count + 1, Nat.succ_pos count, rounds.append (.single leads)⟩
  · exact all.add once

theorem rounds_of_mem_anyRounds {greedy : Bool} (member : stop ∈ anyRounds step greedy cursor) :
    ∃ count, Rounds (Leads step) count cursor stop := by
  cases eq_or_mem_of_mem_orHere member with
  | inl here => exact ⟨0, here⟩
  | inr furtherOn =>
      obtain ⟨count, _, rounds⟩ := rounds_of_mem_someRounds furtherOn
      exact ⟨count, rounds⟩

/-- The ends of a repetition are reached in an admissible number of rounds. -/
theorem rounds_of_mem_rounds {least : Nat} {most : Option Nat} {greedy : Bool}
    (member : stop ∈ rounds step least most greedy cursor) :
    ∃ count, least ≤ count ∧ (∀ bound ∈ most, count ≤ max least bound) ∧
      Rounds (Leads step) count cursor stop := by
  cases most with
  | some most =>
      have exactlyThenFew :
          stop ∈
            andThen (exactRounds step least cursor) (fewRounds step greedy (most - least)) := by
        cases least <;> exact member
      obtain ⟨middle, middleMember, stopMember⟩ := exists_of_mem_andThen exactlyThenFew
      obtain ⟨few, atMost, rounds⟩ := rounds_of_mem_fewRounds stopMember
      refine ⟨least + few, Nat.le_add_right .., ?_,
        (rounds_of_mem_exactRounds middleMember).append rounds⟩
      intro bound isBound
      cases isBound
      omega
  | none =>
      have unbounded : ∀ count, ∀ bound ∈ (none : Option Nat), count ≤ max least bound := by
        intro count bound isBound
        cases isBound
      cases least with
      | zero =>
          obtain ⟨count, rounds⟩ := rounds_of_mem_anyRounds member
          exact ⟨count, Nat.zero_le count, unbounded count, rounds⟩
      | succ least =>
          obtain ⟨middle, middleMember, stopMember⟩ := exists_of_mem_andThen member
          obtain ⟨some, positive, rounds⟩ := rounds_of_mem_someRounds stopMember
          exact ⟨least + some, by omega, unbounded _,
            (rounds_of_mem_exactRounds middleMember).append rounds⟩

end Steps

/-- Every end of a pattern is the end of a match. -/
theorem matches_of_mem_ends {pattern : Pattern} {cursor stop : Cursor}
    (member : stop ∈ pattern.ends cursor) : pattern.Matches cursor stop := by
  induction pattern generalizing cursor stop with
  | empty => exact List.mem_singleton.mp member
  | one set =>
      rw [ends] at member
      split at member
      · next char following step =>
        split at member
        · next contains =>
          cases List.mem_singleton.mp member
          exact ⟨char, step, contains⟩
        · cases member
      · cases member
  | assert assertion =>
      rw [ends] at member
      split at member
      · next holds => exact ⟨holds, List.mem_singleton.mp member⟩
      · cases member
  | seq first second firstIH secondIH =>
      obtain ⟨middle, middleMember, stopMember⟩ := exists_of_mem_andThen member
      exact ⟨middle, firstIH middleMember, secondIH stopMember⟩
  | alt first second firstIH secondIH =>
      obtain ⟨place, placeMember, same⟩ := exists_of_mem_andThen member
      cases List.mem_singleton.mp same
      exact (List.mem_append.mp placeMember).imp firstIH secondIH
  | repeated body least most greedy ih =>
      obtain ⟨count, atLeast, atMost, rounds⟩ := rounds_of_mem_rounds member
      exact ⟨count, atLeast, atMost, rounds.mono fun _ _ nextMember => ih nextMember⟩

theorem matches_of_matchEnd? {pattern : Pattern} {cursor stop : Cursor}
    (found : pattern.matchEnd? cursor = some stop) : pattern.Matches cursor stop := by
  rw [matchEnd?] at found
  split at found
  · next next others ends =>
    split at found
    · cases found
      exact matches_of_mem_ends (ends ▸ List.mem_cons_self ..)
    · cases found
  · cases found

theorem matchEnd?_eq_none_of_not_matches {pattern : Pattern} {cursor : Cursor}
    (noMatch : ∀ stop, ¬pattern.Matches cursor stop) : pattern.matchEnd? cursor = none :=
  Option.eq_none_iff_forall_ne_some.mpr fun stop found =>
    noMatch stop (matches_of_matchEnd? found)

/-! ### What a match consumes -/

/-- All characters that a pattern can consume satisfy a condition. -/
def ConsumesOnly (allowed : Char → Prop) : Pattern → Prop
  | empty | assert _ => True
  | one set => ∀ char, set.contains char → allowed char
  | seq first second | alt first second =>
    first.ConsumesOnly allowed ∧ second.ConsumesOnly allowed
  | repeated body .. => body.ConsumesOnly allowed

theorem consumesOnly_true (pattern : Pattern) : pattern.ConsumesOnly fun _ => True := by
  induction pattern with
  | empty | assert => trivial
  | one set => exact fun _ _ => trivial
  | seq first second firstIH secondIH | alt first second firstIH secondIH =>
      exact ⟨firstIH, secondIH⟩
  | repeated body least most greedy ih => exact ih

theorem Rounds.exists_reads {allowed : Char → Prop} {step : Cursor → Cursor → Prop} {count : Nat}
    {cursor stop : Cursor} (rounds : Rounds step count cursor stop)
    (each : ∀ {cursor next}, step cursor next →
      ∃ chars, cursor.Reads chars next ∧ ∀ char ∈ chars, allowed char) :
    ∃ chars, cursor.Reads chars stop ∧ ∀ char ∈ chars, allowed char := by
  induction count generalizing cursor with
  | zero =>
      cases rounds
      exact ⟨[], .stay _, List.forall_mem_nil _⟩
  | succ count ih =>
      obtain ⟨next, first, rest⟩ := rounds
      obtain ⟨chars, reads, charsAllowed⟩ := each first
      obtain ⟨more, readsMore, moreAllowed⟩ := ih rest
      exact ⟨chars ++ more, reads.trans readsMore,
        List.forall_mem_append.mpr ⟨charsAllowed, moreAllowed⟩⟩

/-- A match reads characters that its pattern can consume. -/
theorem Matches.exists_reads {allowed : Char → Prop} {pattern : Pattern} {cursor stop : Cursor}
    (isMatch : pattern.Matches cursor stop) (consumes : pattern.ConsumesOnly allowed) :
    ∃ chars, cursor.Reads chars stop ∧ ∀ char ∈ chars, allowed char := by
  induction pattern generalizing cursor stop with
  | empty =>
      cases isMatch
      exact ⟨[], .stay cursor, List.forall_mem_nil _⟩
  | one set =>
      obtain ⟨char, step, contains⟩ := isMatch
      exact ⟨[char], .step step (.stay stop),
        List.forall_mem_singleton.mpr (consumes char contains)⟩
  | assert assertion =>
      obtain ⟨_, rfl⟩ := isMatch
      exact ⟨[], .stay stop, List.forall_mem_nil _⟩
  | seq first second firstIH secondIH =>
      obtain ⟨middle, firstMatch, secondMatch⟩ := isMatch
      obtain ⟨chars, reads, charsAllowed⟩ := firstIH firstMatch consumes.1
      obtain ⟨more, readsMore, moreAllowed⟩ := secondIH secondMatch consumes.2
      exact ⟨chars ++ more, reads.trans readsMore,
        List.forall_mem_append.mpr ⟨charsAllowed, moreAllowed⟩⟩
  | alt first second firstIH secondIH =>
      cases isMatch with
      | inl firstMatch => exact firstIH firstMatch consumes.1
      | inr secondMatch => exact secondIH secondMatch consumes.2
  | repeated body least most greedy ih =>
      obtain ⟨count, _, _, rounds⟩ := isMatch
      exact rounds.exists_reads fun roundMatch => ih roundMatch consumes

/-- A match of a given text reads that text. -/
theorem Matches.reads_literal {chars : List Char} {cursor stop : Cursor}
    (isMatch : (literal chars).Matches cursor stop) : cursor.Reads chars stop := by
  induction chars generalizing cursor with
  | nil =>
      cases isMatch
      exact .stay _
  | cons char chars ih =>
      obtain ⟨next, ⟨read, step, isChar⟩, rest⟩ := isMatch
      rw [CharSet.contains_single, decide_eq_true_eq] at isChar
      cases isChar
      exact .step step (ih rest)

theorem matches_literal_iff {chars : List Char} {cursor stop : Cursor} :
    (literal chars).Matches cursor stop ↔ cursor.Reads chars stop := by
  constructor
  · exact Matches.reads_literal
  · intro reads
    induction reads with
    | stay => rfl
    | step read rest ih => exact ⟨_, ⟨_, read, by simp⟩, ih⟩

/-- A choice matches what one of its patterns does. -/
theorem matches_choiceOf_iff {patterns : List Pattern} {cursor stop : Cursor} :
    (choiceOf patterns).Matches cursor stop ↔
      ∃ pattern ∈ patterns, pattern.Matches cursor stop := by
  cases patterns with
  | nil => simp [choiceOf, Matches, CharSet.contains]
  | cons first rest =>
      rw [choiceOf]
      induction rest generalizing first with
      | nil => simp
      | cons second rest ih => simp [ih, Matches, or_assoc]

theorem consumesOnly_literal {allowed : Char → Prop} {chars : List Char}
    (each : ∀ char ∈ chars, allowed char) : (literal chars).ConsumesOnly allowed := by
  induction chars with
  | nil => trivial
  | cons char chars ih =>
      obtain ⟨first, rest⟩ := List.forall_mem_cons.mp each
      refine ⟨?_, ih rest⟩
      intro read isChar
      rw [CharSet.contains_single, decide_eq_true_eq] at isChar
      exact isChar ▸ first

/-- A match reads the characters up to its end, at least one. -/
theorem exists_reads_of_matchEnd? {pattern : Pattern} {cursor stop : Cursor}
    (found : pattern.matchEnd? cursor = some stop) :
    ∃ chars, chars ≠ [] ∧ cursor.Reads chars stop := by
  have shorter := size_lt_of_matchEnd? found
  obtain ⟨chars, reads, _⟩ :=
    (matches_of_matchEnd? found).exists_reads pattern.consumesOnly_true
  refine ⟨chars, ?_, reads⟩
  rintro rfl
  have size := reads.size_eq
  simp only [List.length_nil, Nat.zero_add] at size
  omega

end Pattern

end FencedCode
