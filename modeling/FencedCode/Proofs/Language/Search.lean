import FencedCode.Proofs.Pattern.Bytes
import FencedCode.Proofs.Pattern.Locality

/-!
# What is asked of a search

A text can be split with any engine in the place of the library's own search, if the engine keeps
what regular expressions promise.  Three promises are told apart, and each result asks for the one
it needs: that a search which starts between characters ends there, that what is found is a match
of the pattern, and that nothing before the start is read.

The search of the library keeps all three.
-/

namespace FencedCode

open Cursor

/-- Whether an assertion holds between two parts of a text. -/
def Assertion.holdsAmid (assertion : Assertion) (front rest : String) : Bool :=
  assertion.holdsBetween front.toList.getLast? rest.toList.head?

namespace Search

/-- A search that starts between characters ends between characters. -/
def KeepsBoundaries (search : Search) : Prop :=
  ∀ pattern text offset stop, search pattern text offset = some stop →
    IsBoundary text offset → IsBoundary text stop

/-- What is found is a match of the pattern, whatever the search makes of assertions in the middle
of a character. -/
def Sound (search : Search) : Prop :=
  ∀ pattern text offset stop, search pattern text offset = some stop →
    ∃ inside, pattern.Spans inside text offset stop

/-- A search reads no character before its start.  In front of the same rest the same is found, if
each assertion holds at the same places of the rest. -/
def ReadsOnward (search : Search) : Prop :=
  ∀ (pattern : Pattern) (front other rest : String),
    (∀ (assertion : Assertion) (read toCome : String), rest = read ++ toCome →
      assertion.holdsAmid (front ++ read) toCome = assertion.holdsAmid (other ++ read) toCome) →
    ∃ size? : Option Nat,
      search pattern (front ++ rest) front.utf8ByteSize =
        size?.map (front.utf8ByteSize + ·) ∧
      search pattern (other ++ rest) other.utf8ByteSize =
        size?.map (other.utf8ByteSize + ·)

/-- A match that starts between characters ends there. -/
theorem Sound.keepsBoundaries {search : Search} (sound : search.Sound) :
    search.KeepsBoundaries := by
  intro pattern text offset stop found isBoundary
  obtain ⟨inside, spans⟩ := sound pattern text offset stop found
  exact spans.isBoundary isBoundary

end Search

/-! ### The search of the library -/

variable {text : String} {cursor : Cursor} {front : List Char} {offset stop : Nat}

namespace Pattern

/-- Behind some characters the preferred end of a pattern is found. -/
theorem find?_of_reads (pattern : Pattern) (reads : (start text.toList).Reads front cursor) :
    pattern.find? text (byteSize front) =
      ((pattern.ends cursor).head?.map cursor.charsTo).map
        fun chars => byteSize front + byteSize chars := by
  rw [find?, reads.skipBytes?_eq]
  cases ends : (pattern.ends cursor).head? <;> simp [ends]

theorem exists_of_find?_eq_some {pattern : Pattern}
    (found : pattern.find? text offset = some stop) :
    ∃ cursor later, at? text offset = some cursor ∧ pattern.Matches cursor later ∧
      at? text stop = some later := by
  cases place : at? text offset with
  | none =>
      rw [find?, ← at?, place] at found
      cases found
  | some cursor =>
      obtain ⟨front, reads, rfl⟩ := exists_reads_of_skipBytes? place
      rw [pattern.find?_of_reads reads] at found
      obtain ⟨chars, isPreferred, rfl⟩ := Option.map_eq_some_iff.mp found
      obtain ⟨later, preferred, rfl⟩ := Option.map_eq_some_iff.mp isPreferred
      have isMatch := matches_of_mem_ends (List.mem_of_head? preferred)
      obtain ⟨chars, readsMatch⟩ := isMatch.reaches
      refine ⟨cursor, later, rfl, isMatch, ?_⟩
      rw [readsMatch.charsTo_eq, ← byteSize_append]
      exact (reads.trans readsMatch).skipBytes?_eq

theorem find?_sound : Search.Sound find? := by
  intro pattern text offset stop found
  obtain ⟨cursor, later, isPlace, isMatch, isLater⟩ := exists_of_find?_eq_some found
  obtain ⟨reached, rfl⟩ := at?_eq_some_iff.mp isPlace
  obtain ⟨_, rfl⟩ := at?_eq_some_iff.mp isLater
  exact ⟨fun _ _ => false, isMatch.spans _ reached⟩

/-- The places behind two fronts look alike if the same assertions hold at them. -/
theorem alike_of_holdsAmid {front other rest : String} {left right : Cursor}
    (same : ∀ (assertion : Assertion) (read toCome : String), rest = read ++ toCome →
      assertion.holdsAmid (front ++ read) toCome = assertion.holdsAmid (other ++ read) toCome)
    (reads : (start (front ++ rest).toList).Reads front.toList left)
    (otherReads : (start (other ++ rest).toList).Reads other.toList right)
    (after : left.after = rest.toList) (otherAfter : right.after = rest.toList) :
    left.Alike right where
  after := after.trans otherAfter.symm
  holds := by
    intro chars leftLater rightLater leftReads rightReads assertion
    have beforeLeft := (reads.trans leftReads).before_eq
    have beforeRight := (otherReads.trans rightReads).before_eq
    have toCome : rest = .ofList chars ++ .ofList leftLater.after := by
      rw [← String.toList_inj, ← after]
      simpa using leftReads.after_eq
    have sameAfter : leftLater.after = rightLater.after := by
      have bothRests := leftReads.after_eq.symm.trans (after.trans (otherAfter.symm.trans
        rightReads.after_eq))
      exact List.append_cancel_left bothRests
    have here := same assertion _ _ toCome
    rw [Assertion.holdsAmid, Assertion.holdsAmid, String.toList_append, String.toList_append,
      String.toList_ofList, String.toList_ofList] at here
    rw [Assertion.holds, Assertion.holds, beforeLeft, beforeRight, ← sameAfter]
    simpa using here

theorem find?_readsOnward : Search.ReadsOnward find? := by
  intro pattern front other rest same
  have toCome : ∀ front : String, (start (front ++ rest).toList).after =
      front.toList ++ rest.toList := fun _ => String.toList_append
  obtain ⟨left, reads, after⟩ := exists_reads (toCome front)
  obtain ⟨right, otherReads, otherAfter⟩ := exists_reads (toCome other)
  have alike := alike_of_holdsAmid same reads otherReads after otherAfter
  refine ⟨((pattern.ends left).head?.map left.charsTo).map byteSize, ?_, ?_⟩
  · rw [← byteSize_toList front, find?_of_reads pattern reads]
    exact (Option.map_map ..).symm
  · rw [← byteSize_toList other, find?_of_reads pattern otherReads,
      head?_ends_of_alike pattern alike]
    exact (Option.map_map ..).symm

end Pattern

/-! ### The rules of the library -/

namespace Rule

/-- The match of a rule is what the search of the library finds for its pattern, unless that is
empty. -/
theorem matchAt?_eq_filter (rule : Rule) (text : String) (offset : Nat) :
    rule.matchAt? text offset = (rule.pattern.find? text offset).filter (offset < ·) := by
  rw [matchAt?, Pattern.find?]
  cases place : (start text.toList).skipBytes? offset with
  | none => rfl
  | some cursor =>
      obtain ⟨reached, rfl⟩ := at?_eq_some_iff.mp place
      simp only [Option.bind_eq_bind, Option.bind_some, Pattern.matchEnd?]
      cases ends : rule.pattern.ends cursor with
      | nil => rfl
      | cons later others =>
          have isMatch := Pattern.matches_of_mem_ends (ends ▸ List.mem_cons_self ..)
          have onward := isMatch.reaches
          have moves := offsetIn_lt_iff reached onward
          obtain ⟨chars, reads⟩ := onward
          rw [reads.offsetIn_of_reaches reached, Nat.lt_add_right_iff_pos] at moves
          by_cases shorter : later.size < cursor.size
          · simp [Option.filter, shorter, reads.charsTo_eq, moves.mpr shorter]
          · simp [Option.filter, shorter, reads.charsTo_eq, mt moves.mp shorter]

/-- With the search of the library a rule is matched without a fault at any offset. -/
theorem matchBytes_find? (rule : Rule) (text : String) (offset : Nat) :
    rule.matchBytes Pattern.find? text offset = .ok (rule.matchAt? text offset) := by
  rw [matchAt?_eq_filter]
  by_cases before : offset < text.utf8ByteSize
  · exact matchBytes_eq_ok before
  · rw [matchBytes, if_pos (Nat.not_lt.mp before), Except.ok.injEq, eq_comm,
      Option.filter_eq_none_iff]
    intro stop found
    obtain ⟨_, _, _, _, isLater⟩ := Pattern.exists_of_find?_eq_some found
    have within := le_utf8ByteSize_of_at? isLater
    rw [decide_eq_true_eq]
    omega

end Rule

end FencedCode
