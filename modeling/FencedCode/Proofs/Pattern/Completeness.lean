import FencedCode.Proofs.Pattern.Matching

/-!
# Every match is found

The ends that are found for a pattern are the ends of all its matches.  A search that has seen a
place does not look at it again, so the invariant of a search over any number of rounds is that all
places it has left behind are closed: what one more round reaches from them has been found as well.
Only the places at which the search still works are exempt, and these have more characters to come
than the place at hand, so their sizes tell them apart.
-/

namespace FencedCode

/-! ### Places of one text -/

namespace Cursor

variable {origin left right : Cursor}

/-- The characters still to come tell two places of one text apart. -/
theorem Reaches.eq_of_size_eq (toLeft : origin.Reaches left) (toRight : origin.Reaches right)
    (sameSize : left.size = right.size) : left = right := by
  obtain ⟨chars, reads⟩ := toLeft
  obtain ⟨others, readsOthers⟩ := toRight
  have sameLength : chars.length = others.length := by
    have leftSize := reads.size_eq
    have rightSize := readsOthers.size_eq
    omega
  have sameChars : chars = others :=
    List.append_inj_left (reads.after_eq.symm.trans readsOthers.after_eq) sameLength
  subst sameChars
  exact reads.unique readsOthers

theorem Reaches.size_le (reaches : origin.Reaches left) : left.size ≤ origin.size := by
  obtain ⟨chars, reads⟩ := reaches
  have := reads.size_eq
  omega

end Cursor

namespace Found

variable {origin cursor other : Cursor} {found : Found}

/-- All places found belong to the text behind `origin`, and their sizes are those that are marked
as seen. -/
structure Tracks (origin : Cursor) (found : Found) : Prop where
  seen : ∀ size, found.seen.testBit size = true ↔ ∃ cursor ∈ found.cursors, cursor.size = size
  within : ∀ cursor ∈ found.cursors, origin.Reaches cursor

theorem tracks_empty : Tracks origin {} where
  seen := by simp
  within := by simp

namespace Tracks

theorem contains_iff (tracks : Tracks origin found) (reached : origin.Reaches cursor) :
    found.contains cursor = true ↔ cursor ∈ found.cursors := by
  rw [contains, tracks.seen]
  constructor
  · rintro ⟨place, member, sameSize⟩
    rwa [← (tracks.within place member).eq_of_size_eq reached sameSize]
  · intro member
    exact ⟨cursor, member, rfl⟩

theorem mem_add_iff (tracks : Tracks origin found) (reached : origin.Reaches cursor) :
    other ∈ (found.add cursor).cursors ↔ other = cursor ∨ other ∈ found.cursors := by
  rw [Found.add]
  split
  · next isFound =>
    constructor
    · exact .inr
    · rintro (rfl | member)
      · exact (tracks.contains_iff reached).mp isFound
      · exact member
  · exact List.mem_cons

theorem add (tracks : Tracks origin found) (reached : origin.Reaches cursor) :
    Tracks origin (found.add cursor) where
  seen := by
    intro size
    rw [Found.add]
    split
    · exact tracks.seen size
    · simp only [Nat.testBit_or, Nat.one_shiftLeft, Nat.testBit_two_pow, Bool.or_eq_true,
        decide_eq_true_eq, tracks.seen, List.mem_cons, exists_eq_or_imp]
      exact or_comm
  within := by
    intro place member
    rcases (tracks.mem_add_iff reached).mp member with rfl | earlier
    · exact reached
    · exact tracks.within place earlier

end Tracks

/-- A fold keeps an invariant and all it has found, and finds what each of its steps gives. -/
theorem foldl_collects (extend : Found → Cursor → Found) (invariant : Found → Prop)
    (gives : Cursor → List Cursor) (cursors : List Cursor) (holds : invariant found)
    (each : ∀ found, ∀ cursor ∈ cursors, invariant found →
      invariant (extend found cursor) ∧ found.cursors ⊆ (extend found cursor).cursors ∧
        ∀ place ∈ gives cursor, place ∈ (extend found cursor).cursors) :
    invariant (cursors.foldl extend found) ∧
      found.cursors ⊆ (cursors.foldl extend found).cursors ∧
      ∀ cursor ∈ cursors, ∀ place ∈ gives cursor,
        place ∈ (cursors.foldl extend found).cursors := by
  induction cursors generalizing found with
  | nil => exact ⟨holds, List.Subset.refl _, List.forall_mem_nil _⟩
  | cons cursor cursors ih =>
      obtain ⟨kept, grows, given⟩ := each found cursor (List.mem_cons_self ..) holds
      obtain ⟨holds, keeps, collects⟩ :=
        ih kept fun found other member => each found other (List.mem_cons_of_mem _ member)
      exact ⟨holds, List.Subset.trans grows keeps,
        List.forall_mem_cons.mpr ⟨fun place member => keeps (given place member), collects⟩⟩

theorem Tracks.grows_add (tracks : Tracks origin found) (reached : origin.Reaches cursor) :
    found.cursors ⊆ (found.add cursor).cursors := by
  intro place member
  exact (tracks.mem_add_iff reached).mpr (.inr member)

theorem Tracks.mem_add_self (tracks : Tracks origin found) (reached : origin.Reaches cursor) :
    cursor ∈ (found.add cursor).cursors := (tracks.mem_add_iff reached).mpr (.inl rfl)

theorem Tracks.foldl_add {cursors : List Cursor} (tracks : Tracks origin found)
    (reached : ∀ cursor ∈ cursors, origin.Reaches cursor) :
    Tracks origin (cursors.foldl Found.add found) ∧
      found.cursors ⊆ (cursors.foldl Found.add found).cursors ∧
      ∀ cursor ∈ cursors, cursor ∈ (cursors.foldl Found.add found).cursors := by
  obtain ⟨kept, grows, given⟩ := foldl_collects Found.add (Tracks origin)
    (fun cursor => [cursor]) cursors tracks fun found cursor member tracks =>
      ⟨tracks.add (reached cursor member), tracks.grows_add (reached cursor member),
        List.forall_mem_singleton.mpr (tracks.mem_add_self (reached cursor member))⟩
  exact ⟨kept, grows, fun cursor member => given cursor member cursor (List.mem_singleton_self _)⟩

end Found

namespace Pattern

open Cursor Found

/-! ### Steps in a row -/

section Steps

variable {step : Cursor → List Cursor} {origin cursor stop : Cursor}

theorem Rounds.split {relation : Cursor → Cursor → Prop} {count more : Nat}
    (rounds : Rounds relation (count + more) cursor stop) :
    ∃ middle, Rounds relation count cursor middle ∧ Rounds relation more middle stop := by
  induction count generalizing cursor with
  | zero =>
      rw [Nat.zero_add] at rounds
      exact ⟨cursor, rfl, rounds⟩
  | succ count ih =>
      rw [Nat.add_right_comm] at rounds
      obtain ⟨next, first, rest⟩ := rounds
      obtain ⟨middle, before, behind⟩ := ih rest
      exact ⟨middle, ⟨next, first, before⟩, behind⟩

theorem Rounds.reaches {relation : Cursor → Cursor → Prop} {count : Nat}
    (forward : ∀ cursor next, relation cursor next → cursor.Reaches next)
    (rounds : Rounds relation count cursor stop) : cursor.Reaches stop := by
  induction count generalizing cursor with
  | zero =>
      cases rounds
      exact .refl _
  | succ count ih =>
      obtain ⟨next, first, rest⟩ := rounds
      exact (forward cursor next first).trans (ih rest)

/-- What a second step gives at an end of a first one is found. -/
theorem mem_andThen {ends : List Cursor} {middle : Cursor}
    (reached : ∀ middle ∈ ends, origin.Reaches middle)
    (onward : ∀ middle stop, Leads step middle stop → middle.Reaches stop)
    (middleMember : middle ∈ ends) (stopMember : stop ∈ step middle) :
    stop ∈ andThen ends step := by
  obtain ⟨_, _, collects⟩ := foldl_collects
    (fun found cursor => (step cursor).foldl Found.add found) (Tracks origin) step ends
    tracks_empty fun found cursor member tracks => tracks.foldl_add fun next leads =>
      (reached cursor member).trans (onward cursor next leads)
  exact List.mem_reverse.mpr (collects middle middleMember stop stopMember)

theorem mem_andThen_singleton {ends : List Cursor}
    (reached : ∀ place ∈ ends, origin.Reaches place) (member : stop ∈ ends) :
    stop ∈ andThen ends fun next => [next] := by
  refine mem_andThen reached ?_ member (List.mem_singleton_self stop)
  intro middle place leads
  cases List.mem_singleton.mp leads
  exact .refl _

/-- Where a place itself is tried before or behind other places, it is found and so are they. -/
theorem mem_orHere {ends : List Cursor} {greedy : Bool}
    (reached : ∀ place ∈ ends, cursor.Reaches place) (hereOrOn : stop = cursor ∨ stop ∈ ends) :
    stop ∈ andThen (if greedy then ends ++ [cursor] else cursor :: ends) fun next => [next] := by
  cases greedy with
  | true =>
      refine mem_andThen_singleton (List.forall_mem_append.mpr ⟨reached, ?_⟩) ?_
      · exact List.forall_mem_singleton.mpr (.refl cursor)
      · exact List.mem_append.mpr (hereOrOn.symm.imp_right List.mem_singleton.mpr)
  | false =>
      exact mem_andThen_singleton (List.forall_mem_cons.mpr ⟨.refl cursor, reached⟩)
        (List.mem_cons.mpr hereOrOn)

/-! ### Any number of rounds -/

/-- One more round from a place of one of some sizes leads to places that have been found. -/
def Closed (step : Cursor → List Cursor) (sizes : Nat → Prop) (found : Found) : Prop :=
  ∀ cursor ∈ found.cursors, sizes cursor.size →
    ∀ next ∈ step cursor, next.size < cursor.size → next ∈ found.cursors

variable {found result : Found} {sizes : Nat → Prop}

theorem closed_empty : Closed step sizes {} := by
  intro place member
  cases member

/-- A search has added some places to those found before, and leaves all places of some sizes
closed. -/
structure Explored (step : Cursor → List Cursor) (origin : Cursor) (sizes : Nat → Prop)
    (found : Found) (cursors : List Cursor) (result : Found) : Prop where
  tracks : Tracks origin result
  closed : Closed step sizes result
  grows : found.cursors ⊆ result.cursors
  holds : ∀ cursor ∈ cursors, cursor ∈ result.cursors

/-- A place can be added once the places that a round reaches from it have been found. -/
theorem explored_add (tracks : Tracks origin found) (closed : Closed step sizes found)
    (reached : origin.Reaches cursor)
    (own : sizes cursor.size → ∀ next ∈ step cursor, next.size < cursor.size →
      next ∈ found.cursors) : Explored step origin sizes found [cursor] (found.add cursor) where
  tracks := tracks.add reached
  closed := by
    intro place member inSizes next nextMember shorter
    apply tracks.grows_add reached
    rcases (tracks.mem_add_iff reached).mp member with rfl | earlier
    · exact own inSizes next nextMember shorter
    · exact closed place earlier inSizes next nextMember shorter
  grows := tracks.grows_add reached
  holds := List.forall_mem_singleton.mpr (tracks.mem_add_self reached)

theorem explored_foldl {extend : Found → Cursor → Found} {cursors : List Cursor}
    (tracks : Tracks origin found) (closed : Closed step sizes found)
    (each : ∀ found, ∀ cursor ∈ cursors, Tracks origin found → Closed step sizes found →
      Explored step origin sizes found [cursor] (extend found cursor)) :
    Explored step origin sizes found cursors (cursors.foldl extend found) := by
  obtain ⟨⟨kept, keptClosed⟩, grows, given⟩ := foldl_collects extend
    (fun found => Tracks origin found ∧ Closed step sizes found) (fun cursor => [cursor]) cursors
    ⟨tracks, closed⟩ fun found cursor member holds =>
      let explored := each found cursor member holds.1 holds.2
      ⟨⟨explored.tracks, explored.closed⟩, explored.grows, explored.holds⟩
  exact ⟨kept, keptClosed, grows, fun cursor member =>
    given cursor member cursor (List.mem_singleton_self _)⟩

variable (forward : ∀ cursor next, Leads step cursor next → cursor.Reaches next)
include forward

/-- A round leads to fewer characters to come, or back to the same place. -/
theorem size_lt_or_eq_of_leads {next : Cursor} (leads : Leads step cursor next) :
    next.size < cursor.size ∨ next = cursor := by
  have reached := forward cursor next leads
  rcases Nat.lt_or_ge next.size cursor.size with shorter | notShorter
  · exact .inl shorter
  · exact .inr (reached.eq_of_size_eq (.refl cursor) (Nat.le_antisymm reached.size_le notShorter))

/-- A search from a place finds it and leaves it and all that it reaches closed. -/
theorem explored_roundsFrom {greedy : Bool} {bound : Nat} (enough : cursor.size ≤ bound)
    (reached : origin.Reaches cursor) (tracks : Tracks origin found)
    (closed : Closed step sizes found) (smaller : ∀ size ≤ cursor.size, sizes size) :
    Explored step origin sizes found [cursor] (roundsFrom step greedy bound found cursor) := by
  induction bound generalizing cursor found sizes with
  | zero =>
      apply explored_add tracks closed reached
      intro _ next _ shorter
      omega
  | succ bound ih =>
      rw [roundsFrom]
      split
      · next isFound =>
        exact ⟨tracks, closed, List.Subset.refl _,
          List.forall_mem_singleton.mpr ((tracks.contains_iff reached).mp isFound)⟩
      · -- The place itself is closed only when all its rounds have been tried.
        let others : Nat → Prop := fun size => sizes size ∧ size ≠ cursor.size
        have othersClosed : Closed step others found := by
          intro place member inSizes
          exact closed place member inSizes.1
        have started : Explored step origin others found []
            (if greedy then found else found.add cursor) := by
          split
          · exact ⟨tracks, othersClosed, List.Subset.refl _, List.forall_mem_nil _⟩
          · have added := explored_add tracks othersClosed reached
              fun inSizes => absurd rfl inSizes.2
            exact { added with holds := List.forall_mem_nil _ }
        have search : ∀ found, ∀ next ∈ consumingRound step cursor, Tracks origin found →
            Closed step others found → Explored step origin others found [next]
              (roundsFrom step greedy bound found next) := by
          intro found next member tracks closed
          obtain ⟨leads, shorter⟩ := mem_consumingRound_iff.mp member
          apply ih (by omega) (reached.trans (forward cursor next leads)) tracks closed
          intro size atMost
          exact ⟨smaller size (by omega), by omega⟩
        have further := explored_foldl started.tracks started.closed search
        refine { explored_add further.tracks ?_ reached ?_ with
          grows := List.Subset.trans started.grows
            (List.Subset.trans further.grows (further.tracks.grows_add reached)) }
        · intro place member inSizes next leads shorter
          by_cases here : place.size = cursor.size
          · cases (further.tracks.within place member).eq_of_size_eq reached here
            exact further.holds next (mem_consumingRound_iff.mpr ⟨leads, shorter⟩)
          · exact further.closed place member ⟨inSizes, here⟩ next leads shorter
        · intro _ next leads shorter
          exact further.holds next (mem_consumingRound_iff.mpr ⟨leads, shorter⟩)

/-- What rounds reach from a place that has been found is found where all is closed. -/
theorem Closed.mem_of_rounds {count : Nat} (closed : Closed step sizes found)
    (member : cursor ∈ found.cursors) (smaller : ∀ size ≤ cursor.size, sizes size)
    (rounds : Rounds (Leads step) count cursor stop) : stop ∈ found.cursors := by
  induction count generalizing cursor with
  | zero =>
      cases rounds
      exact member
  | succ count ih =>
      obtain ⟨next, leads, rest⟩ := rounds
      rcases size_lt_or_eq_of_leads forward leads with shorter | rfl
      · apply ih (closed cursor member (smaller _ (Nat.le_refl _)) next leads shorter) _ rest
        exact fun size atMost => smaller size (by omega)
      · exact ih member smaller rest

theorem mem_someRounds {greedy : Bool} {count : Nat}
    (rounds : Rounds (Leads step) (count + 1) cursor stop) :
    stop ∈ someRounds step greedy cursor := by
  have firstRound : ∀ found, ∀ next ∈ step cursor, Tracks cursor found →
      Closed step (· < cursor.size) found → Explored step cursor (· < cursor.size) found [next]
        (if next.size < cursor.size then roundsFrom step greedy next.size found next
          else found.add next) := by
    intro found next leads tracks closed
    have reached := forward cursor next leads
    split
    · next shorter =>
      exact explored_roundsFrom forward (Nat.le_refl _) reached tracks closed
        fun size atMost => Nat.lt_of_le_of_lt atMost shorter
    · next notShorter =>
      exact explored_add tracks closed reached fun below => absurd below notShorter
  have explored := explored_foldl tracks_empty closed_empty firstRound
  apply List.mem_reverse.mpr
  induction count with
  | zero =>
      obtain ⟨next, leads, rfl⟩ := rounds
      exact explored.holds stop leads
  | succ count ih =>
      obtain ⟨next, leads, rest⟩ := rounds
      rcases size_lt_or_eq_of_leads forward leads with shorter | rfl
      · exact explored.closed.mem_of_rounds forward (explored.holds next leads)
          (fun size atMost => Nat.lt_of_le_of_lt atMost shorter) rest
      · exact ih rest

theorem reaches_of_mem_someRounds {greedy : Bool} (member : stop ∈ someRounds step greedy cursor) :
    cursor.Reaches stop := by
  obtain ⟨_, _, rounds⟩ := rounds_of_mem_someRounds member
  exact rounds.reaches forward

theorem mem_anyRounds {greedy : Bool} {count : Nat}
    (rounds : Rounds (Leads step) count cursor stop) : stop ∈ anyRounds step greedy cursor := by
  have hereOrOn : stop = cursor ∨ stop ∈ someRounds step greedy cursor := by
    cases count with
    | zero => exact .inl rounds
    | succ count => exact .inr (mem_someRounds forward rounds)
  exact mem_orHere (fun _ => reaches_of_mem_someRounds forward) hereOrOn

/-! ### A given number of rounds -/

theorem reaches_of_mem_exactRounds {count : Nat} (member : stop ∈ exactRounds step count cursor) :
    cursor.Reaches stop := (rounds_of_mem_exactRounds member).reaches forward

theorem reaches_of_mem_fewRounds {greedy : Bool} {count : Nat}
    (member : stop ∈ fewRounds step greedy count cursor) : cursor.Reaches stop := by
  obtain ⟨_, _, rounds⟩ := rounds_of_mem_fewRounds member
  exact rounds.reaches forward

theorem mem_exactRounds {count : Nat} (rounds : Rounds (Leads step) count cursor stop) :
    stop ∈ exactRounds step count cursor := by
  induction count generalizing stop with
  | zero => exact List.mem_singleton.mpr rounds
  | succ count ih =>
      obtain ⟨middle, before, next, last, rfl⟩ := rounds.split
      exact mem_andThen (fun _ => reaches_of_mem_exactRounds forward) forward (ih before) last

theorem mem_fewRounds {greedy : Bool} {few count : Nat} (atMost : few ≤ count)
    (rounds : Rounds (Leads step) few cursor stop) :
    stop ∈ fewRounds step greedy count cursor := by
  induction count generalizing few cursor with
  | zero =>
      cases Nat.le_zero.mp atMost
      exact List.mem_singleton.mpr rounds
  | succ count ih =>
      have hereOrOn :
          stop = cursor ∨ stop ∈ andThen (step cursor) (fewRounds step greedy count) := by
        cases few with
        | zero => exact .inl rounds
        | succ few =>
            obtain ⟨next, leads, rest⟩ := rounds
            exact .inr (mem_andThen (forward cursor)
              (fun _ _ => reaches_of_mem_fewRounds forward) leads
              (ih (Nat.le_of_succ_le_succ atMost) rest))
      have reached : ∀ place ∈ andThen (step cursor) (fewRounds step greedy count),
          cursor.Reaches place := by
        intro place member
        obtain ⟨next, leads, placeMember⟩ := exists_of_mem_andThen member
        exact (forward cursor next leads).trans (reaches_of_mem_fewRounds forward placeMember)
      exact mem_orHere reached hereOrOn

/-- A repetition finds what an admissible number of rounds reaches. -/
theorem mem_rounds {least : Nat} {most : Option Nat} {greedy : Bool} {count : Nat}
    (atLeast : least ≤ count) (atMost : ∀ bound ∈ most, count ≤ max least bound)
    (rounds : Rounds (Leads step) count cursor stop) :
    stop ∈ Pattern.rounds step least most greedy cursor := by
  obtain ⟨more, rfl⟩ := Nat.exists_eq_add_of_le atLeast
  cases most with
  | some most =>
      have few : more ≤ most - least := by
        have := atMost most rfl
        omega
      obtain ⟨middle, before, rest⟩ := rounds.split
      have found : stop ∈
          andThen (exactRounds step least cursor) (fewRounds step greedy (most - least)) :=
        mem_andThen (fun _ => reaches_of_mem_exactRounds forward)
          (fun _ _ => reaches_of_mem_fewRounds forward) (mem_exactRounds forward before)
          (mem_fewRounds forward few rest)
      cases least <;> exact found
  | none =>
      cases least with
      | zero => exact mem_anyRounds forward rounds
      | succ least =>
          rw [Nat.add_assoc, Nat.add_comm 1] at rounds
          obtain ⟨middle, before, rest⟩ := rounds.split
          exact mem_andThen (fun _ => reaches_of_mem_exactRounds forward)
            (fun _ _ => reaches_of_mem_someRounds forward) (mem_exactRounds forward before)
            (mem_someRounds forward rest)

end Steps

/-! ### The ends of a pattern -/

theorem Matches.reaches {pattern : Pattern} {cursor stop : Cursor}
    (isMatch : pattern.Matches cursor stop) : cursor.Reaches stop := by
  obtain ⟨chars, reads, _⟩ := isMatch.exists_reads pattern.consumesOnly_true
  exact ⟨chars, reads⟩

theorem reaches_of_mem_ends {pattern : Pattern} {cursor stop : Cursor}
    (member : stop ∈ pattern.ends cursor) : cursor.Reaches stop :=
  (matches_of_mem_ends member).reaches

/-- The ends that are found are those of all matches. -/
theorem mem_ends_iff {pattern : Pattern} {cursor stop : Cursor} :
    stop ∈ pattern.ends cursor ↔ pattern.Matches cursor stop := by
  refine ⟨matches_of_mem_ends, ?_⟩
  intro isMatch
  induction pattern generalizing cursor stop with
  | empty => exact List.mem_singleton.mpr isMatch
  | one set =>
      obtain ⟨char, step, contains⟩ := isMatch
      simp only [ends, step, contains, if_true, List.mem_singleton]
  | assert assertion =>
      obtain ⟨holds, rfl⟩ := isMatch
      simp only [ends, holds, if_true, List.mem_singleton]
  | seq first second firstIH secondIH =>
      obtain ⟨middle, firstMatch, secondMatch⟩ := isMatch
      exact mem_andThen (fun _ => reaches_of_mem_ends) (fun _ _ => reaches_of_mem_ends)
        (firstIH firstMatch) (secondIH secondMatch)
  | alt first second firstIH secondIH =>
      have reached : ∀ place ∈ first.ends cursor ++ second.ends cursor, cursor.Reaches place :=
        fun place member => (List.mem_append.mp member).elim reaches_of_mem_ends reaches_of_mem_ends
      exact mem_andThen_singleton reached (List.mem_append.mpr (isMatch.imp firstIH secondIH))
  | repeated body least most greedy ih =>
      obtain ⟨count, atLeast, atMost, rounds⟩ := isMatch
      apply mem_rounds (fun _ _ => reaches_of_mem_ends) atLeast atMost
      exact rounds.mono fun _ _ => ih

/-! ### Patterns that consume -/

/-- Every match covers a character. -/
def Consumes (pattern : Pattern) : Prop :=
  ∀ cursor stop, pattern.Matches cursor stop → stop.size < cursor.size

theorem consumes_one (set : CharSet) : (one set).Consumes := by
  rintro cursor stop ⟨char, step, _⟩
  have := size_next step
  omega

theorem Consumes.alt {first second : Pattern} (firstConsumes : first.Consumes)
    (secondConsumes : second.Consumes) : (Pattern.alt first second).Consumes := by
  rintro cursor stop (firstMatch | secondMatch)
  · exact firstConsumes cursor stop firstMatch
  · exact secondConsumes cursor stop secondMatch

theorem Consumes.seq {first second : Pattern} (firstConsumes : first.Consumes) :
    (Pattern.seq first second).Consumes := by
  rintro cursor stop ⟨middle, firstMatch, secondMatch⟩
  exact Nat.lt_of_le_of_lt secondMatch.reaches.size_le (firstConsumes cursor middle firstMatch)

theorem Consumes.seq_right {first second : Pattern} (secondConsumes : second.Consumes) :
    (Pattern.seq first second).Consumes := by
  rintro cursor stop ⟨middle, firstMatch, secondMatch⟩
  exact Nat.lt_of_lt_of_le (secondConsumes middle stop secondMatch) firstMatch.reaches.size_le

theorem Consumes.repeated {body : Pattern} (bodyConsumes : body.Consumes) {least : Nat}
    (positive : 0 < least) (most : Option Nat) (greedy : Bool) :
    (Pattern.repeated body least most greedy).Consumes := by
  rintro cursor stop ⟨count, atLeast, _, rounds⟩
  cases count with
  | zero => omega
  | succ count =>
      obtain ⟨next, first, rest⟩ := rounds
      exact Nat.lt_of_le_of_lt (rest.reaches fun _ _ => Matches.reaches).size_le
        (bodyConsumes cursor next first)

/-- A match of a pattern that consumes reads at least one character. -/
theorem Consumes.exists_reads {allowed : Char → Prop} {pattern : Pattern}
    (consumes : pattern.Consumes) (only : pattern.ConsumesOnly allowed) {cursor stop : Cursor}
    (isMatch : pattern.Matches cursor stop) :
    ∃ chars, chars ≠ [] ∧ cursor.Reads chars stop ∧ ∀ char ∈ chars, allowed char := by
  obtain ⟨chars, reads, each⟩ := isMatch.exists_reads only
  refine ⟨chars, ?_, reads, each⟩
  rintro rfl
  cases reads
  exact Nat.lt_irrefl _ (consumes cursor cursor isMatch)

/-- Where a pattern that consumes matches at all, a match is found. -/
theorem Consumes.exists_matchEnd? {pattern : Pattern} (consumes : pattern.Consumes)
    {cursor stop : Cursor} (isMatch : pattern.Matches cursor stop) :
    ∃ stop, pattern.matchEnd? cursor = some stop := by
  have member := mem_ends_iff.mpr isMatch
  cases found : pattern.ends cursor with
  | nil =>
      rw [found] at member
      cases member
  | cons next others =>
      have shorter : next.size < cursor.size :=
        consumes cursor next (matches_of_mem_ends (found ▸ List.mem_cons_self ..))
      refine ⟨next, ?_⟩
      simp only [matchEnd?, found, shorter, if_true]

end Pattern

end FencedCode
