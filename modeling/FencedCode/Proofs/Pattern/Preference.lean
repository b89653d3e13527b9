import FencedCode.Pattern.Shapes
import FencedCode.Proofs.Pattern.Completeness

/-!
# The match that is taken

Of all ends of a pattern the first is taken.  It can be followed through the parts of the pattern as
long as none of them fails on the way: each part is entered where the one before it prefers to end,
and a greedy repetition goes on as long as its body matches.
-/

namespace FencedCode

namespace Found

variable {found : Found} {cursor other : Cursor}

/-- The place that was found before all others. -/
def first? (found : Found) : Option Cursor := found.cursors.getLast?

theorem head?_toList (found : Found) : found.toList.head? = found.first? := List.head?_reverse

theorem first?_add_empty (cursor : Cursor) : (add {} cursor).first? = some cursor := by
  simp [add, contains, first?]

theorem first?_add (first : found.first? = some cursor) :
    (found.add other).first? = some cursor := by
  rw [add]
  split
  · exact first
  · rw [first?] at first ⊢
    simp [List.getLast?_cons, first]

/-- What was found first stays so during a fold. -/
theorem first?_foldl {extend : Found → Cursor → Found} (cursors : List Cursor)
    (first : found.first? = some cursor)
    (keeps : ∀ found place, found.first? = some cursor →
      (extend found place).first? = some cursor) :
    (cursors.foldl extend found).first? = some cursor := by
  induction cursors generalizing found with
  | nil => exact first
  | cons place cursors ih => exact ih (keeps found place first)

end Found

namespace Pattern

open Found

/-! ### Steps -/

section Steps

variable {step : Cursor → List Cursor} {found : Found} {cursor next stop : Cursor}

theorem head?_andThen {ends : List Cursor} {middle : Cursor} (first : ends.head? = some middle)
    (second : (step middle).head? = some stop) : (andThen ends step).head? = some stop := by
  obtain ⟨others, rfl⟩ := List.head?_eq_some_iff.mp first
  obtain ⟨more, split⟩ := List.head?_eq_some_iff.mp second
  rw [andThen, head?_toList, List.foldl_cons, split, List.foldl_cons]
  apply first?_foldl
  · apply first?_foldl more (first?_add_empty stop)
    intro found place first
    exact first?_add first
  · intro found place first
    apply first?_foldl _ first
    intro found place first
    exact first?_add first

theorem first?_roundsFrom {greedy : Bool} (bound : Nat) (first : found.first? = some stop) :
    (roundsFrom step greedy bound found cursor).first? = some stop := by
  induction bound generalizing found cursor with
  | zero => exact first?_add first
  | succ bound ih =>
      rw [roundsFrom]
      split
      · exact first
      · apply first?_add
        apply first?_foldl
        · split
          · exact first
          · exact first?_add first
        · exact fun found place first => ih first

/-- `GreedyRun step cursor stop`: taking the preferred step again and again, each time over some
character, leads from `cursor` to `stop`, where there is no further step. -/
inductive GreedyRun (step : Cursor → List Cursor) : Cursor → Cursor → Prop where
  | stop {cursor : Cursor} (none : step cursor = []) : GreedyRun step cursor cursor
  | more {cursor next stop : Cursor} (first : (step cursor).head? = some next)
      (shorter : next.size < cursor.size) (rest : GreedyRun step next stop) :
      GreedyRun step cursor stop

theorem head?_consumingRound (first : (step cursor).head? = some next)
    (shorter : next.size < cursor.size) : (consumingRound step cursor).head? = some next := by
  obtain ⟨others, split⟩ := List.head?_eq_some_iff.mp first
  simp [consumingRound, split, shorter]

/-- A search that has found nothing yet goes down the preferred steps first. -/
theorem GreedyRun.first?_roundsFrom {bound : Nat} (run : GreedyRun step cursor stop)
    (enough : cursor.size ≤ bound) :
    (roundsFrom step true bound {} cursor).first? = some stop := by
  induction run generalizing bound with
  | @stop cursor none =>
      cases bound with
      | zero => exact first?_add_empty cursor
      | succ bound =>
          have fresh : contains {} cursor = false := by simp [contains]
          rw [roundsFrom, consumingRound, none, fresh]
          exact first?_add_empty cursor
  | @more cursor next stop first shorter rest ih =>
      cases bound with
      | zero => omega
      | succ bound =>
          obtain ⟨others, split⟩ :=
            List.head?_eq_some_iff.mp (head?_consumingRound first shorter)
          have fresh : contains {} cursor = false := by simp [contains]
          rw [roundsFrom, fresh, split, List.foldl_cons]
          apply first?_add
          apply first?_foldl others (ih (by omega))
          exact fun found place first => Pattern.first?_roundsFrom bound first

theorem GreedyRun.head?_someRounds (first : (step cursor).head? = some next)
    (shorter : next.size < cursor.size) (run : GreedyRun step next stop) :
    (someRounds step true cursor).head? = some stop := by
  obtain ⟨others, split⟩ := List.head?_eq_some_iff.mp first
  rw [someRounds, head?_toList, split, List.foldl_cons, if_pos shorter]
  apply first?_foldl others (run.first?_roundsFrom (Nat.le_refl _))
  intro found place first
  split
  · exact Pattern.first?_roundsFrom _ first
  · exact first?_add first

theorem GreedyRun.head?_anyRounds (run : GreedyRun step cursor stop) :
    (anyRounds step true cursor).head? = some stop := by
  apply head?_andThen _ rfl
  rw [if_pos rfl]
  cases run with
  | stop none =>
      rw [someRounds, none]
      rfl
  | more first shorter rest =>
      rw [List.head?_append, rest.head?_someRounds first shorter]
      rfl

end Steps

/-! ### Patterns -/

/-- `pattern.Prefers cursor stop`: of the ends of the pattern at `cursor` the first is `stop`. -/
def Prefers (pattern : Pattern) (cursor stop : Cursor) : Prop :=
  (pattern.ends cursor).head? = some stop

variable {pattern first second body : Pattern} {set : CharSet} {cursor middle next stop : Cursor}
variable {chars : List Char} {char : Char}

theorem Prefers.matchEnd?_eq (prefers : pattern.Prefers cursor stop)
    (shorter : stop.size < cursor.size) : pattern.matchEnd? cursor = some stop := by
  obtain ⟨others, split⟩ := List.head?_eq_some_iff.mp prefers
  rw [matchEnd?, split]
  exact if_pos shorter

theorem prefers_one (read : cursor.next? = some (char, next)) (contains : set.contains char) :
    (one set).Prefers cursor next := by
  rw [Prefers, ends, read]
  simp only [contains, if_true, List.head?_cons]

theorem ends_one_eq_nil (missing : ∀ char ∈ cursor.after.head?, ¬set.contains char) :
    (one set).ends cursor = [] := by
  rw [ends]
  cases read : cursor.next? with
  | none => rfl
  | some pair =>
      obtain ⟨char, next⟩ := pair
      have isFirst : char ∈ cursor.after.head? := Cursor.head?_after_of_next? read
      simp only [missing char isFirst, Bool.false_eq_true, if_false]

theorem ends_one_eq_nil_of_first (first : cursor.after.head? = some char)
    (foreign : ¬set.contains char) : (one set).ends cursor = [] := by
  apply ends_one_eq_nil
  rw [first]
  intro other isFirst
  cases isFirst
  exact foreign

theorem prefers_assert {assertion : Assertion} (holds : assertion.holds cursor) :
    (assert assertion).Prefers cursor cursor := by
  rw [Prefers, ends, if_pos holds]
  rfl

theorem Prefers.seq (firstPrefers : first.Prefers cursor middle)
    (secondPrefers : second.Prefers middle stop) : (seq first second).Prefers cursor stop :=
  head?_andThen firstPrefers secondPrefers

theorem ends_seq_eq_nil (missing : first.ends cursor = []) :
    (Pattern.seq first second).ends cursor = [] := by
  rw [ends, missing]
  rfl

theorem ends_alt_eq_nil (firstMissing : first.ends cursor = [])
    (secondMissing : second.ends cursor = []) : (alt first second).ends cursor = [] := by
  rw [ends, firstMissing, secondMissing]
  rfl

theorem Prefers.alt_left (prefers : first.Prefers cursor stop) :
    (alt first second).Prefers cursor stop := by
  obtain ⟨others, split⟩ := List.head?_eq_some_iff.mp prefers
  apply head?_andThen
  · rw [split]
    rfl
  · rfl

theorem Prefers.alt_right (missing : first.ends cursor = [])
    (prefers : second.Prefers cursor stop) : (alt first second).Prefers cursor stop := by
  apply head?_andThen
  · rw [missing]
    exact prefers
  · rfl

theorem prefers_star (run : GreedyRun body.ends cursor stop) :
    (star body).Prefers cursor stop := run.head?_anyRounds

theorem Prefers.plus (prefers : body.Prefers cursor next) (shorter : next.size < cursor.size)
    (run : GreedyRun body.ends next stop) : (plus body).Prefers cursor stop :=
  head?_andThen rfl (run.head?_someRounds prefers shorter)

theorem Prefers.optional (prefers : body.Prefers cursor stop) :
    (optional body).Prefers cursor stop := by
  apply head?_andThen rfl
  apply head?_andThen _ rfl
  have more : (andThen (body.ends cursor) (fewRounds body.ends true 0)).head? = some stop :=
    head?_andThen prefers rfl
  obtain ⟨others, split⟩ := List.head?_eq_some_iff.mp more
  rw [split]
  rfl

theorem prefers_optional_of_ends_eq_nil (missing : body.ends cursor = []) :
    (Pattern.optional body).Prefers cursor cursor := by
  apply head?_andThen rfl
  apply head?_andThen _ rfl
  rw [missing]
  rfl

/-! ### Given characters -/

theorem prefers_literal (reads : cursor.Reads chars stop) :
    (literal chars).Prefers cursor stop := by
  induction reads with
  | stay cursor => rfl
  | step read rest ih => exact (prefers_one read (by simp)).seq ih

theorem ends_literal_eq_nil {other : Char} (first : cursor.after.head? = some other)
    (foreign : char ≠ other) : (literal (char :: chars)).ends cursor = [] := by
  apply ends_seq_eq_nil
  apply ends_one_eq_nil_of_first first
  simpa using foreign

/-! ### Runs of characters -/

/-- Reading characters of a set up to one that does not belong to it. -/
theorem greedyRun_one (reads : cursor.Reads chars stop) (each : ∀ char ∈ chars, set.contains char)
    (ended : ∀ char ∈ stop.after.head?, ¬set.contains char) :
    GreedyRun (one set).ends cursor stop := by
  induction reads with
  | stay cursor => exact .stop (ends_one_eq_nil ended)
  | step read rest ih =>
      obtain ⟨here, others⟩ := List.forall_mem_cons.mp each
      have size := Cursor.size_next read
      exact .more (prefers_one read here) (by omega) (ih others ended)

theorem prefers_star_one (reads : cursor.Reads chars stop)
    (each : ∀ char ∈ chars, set.contains char)
    (ended : ∀ char ∈ stop.after.head?, ¬set.contains char) :
    (star (one set)).Prefers cursor stop := prefers_star (greedyRun_one reads each ended)

theorem prefers_plus_one (reads : cursor.Reads chars stop) (notEmpty : chars ≠ [])
    (each : ∀ char ∈ chars, set.contains char)
    (ended : ∀ char ∈ stop.after.head?, ¬set.contains char) :
    (plus (one set)).Prefers cursor stop := by
  cases reads with
  | stay => exact absurd rfl notEmpty
  | step read rest =>
      obtain ⟨here, others⟩ := List.forall_mem_cons.mp each
      have size := Cursor.size_next read
      exact (prefers_one read here).plus (by omega) (greedyRun_one rest others ended)

/-- At most one character of a set, with none of the set behind nothing. -/
theorem prefers_optional_one (reads : cursor.Reads chars stop) (short : chars.length ≤ 1)
    (each : ∀ char ∈ chars, set.contains char)
    (ended : chars = [] → ∀ char ∈ stop.after.head?, ¬set.contains char) :
    (optional (one set)).Prefers cursor stop := by
  cases reads with
  | stay => exact prefers_optional_of_ends_eq_nil (ends_one_eq_nil (ended rfl))
  | @step _ _ _ char chars read rest =>
      have noMore : chars = [] := by
        rw [List.length_cons] at short
        exact List.eq_nil_of_length_eq_zero (by omega)
      subst noMore
      cases rest
      exact (prefers_one read (each char (List.mem_cons_self ..))).optional

theorem matchEnd?_eq_none_of_ends_eq_nil (missing : pattern.ends cursor = []) :
    pattern.matchEnd? cursor = none := by rw [matchEnd?, missing]

/-- A character that a pattern cannot consume is not the first of a match. -/
theorem matchEnd?_eq_none_of_consumesOnly {allowed : Char → Prop}
    (consumes : pattern.ConsumesOnly allowed) (first : cursor.after.head? = some char)
    (foreign : ¬allowed char) : pattern.matchEnd? cursor = none := by
  cases found : pattern.matchEnd? cursor with
  | none => rfl
  | some stop =>
      have shorter := size_lt_of_matchEnd? found
      obtain ⟨chars, reads, all⟩ := (matches_of_matchEnd? found).exists_reads consumes
      cases reads with
      | stay => omega
      | step read rest =>
          cases first.symm.trans (Cursor.head?_after_of_next? read)
          exact absurd (List.forall_mem_cons.mp all).1 foreign

end Pattern

end FencedCode
