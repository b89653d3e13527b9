import FencedCode.Proofs.Pattern.Preference

/-!
# Backtracking

The match that is taken is the one that a search with backtracking comes upon first.  Such a search
tries a pattern together with what has to follow it: an end from which one does not get on is given
up, and the next one is tried.  What it gives can be told part by part, whereas the ends of a pattern
are listed without regard to what follows.

That places are looked at only once makes no difference to the search, since a place that has been
given up before is given up again.
-/

namespace FencedCode

open Cursor Found

variable {α : Type} {onward : Cursor → Option α} {cursor next stop origin : Cursor}

/-! ### Found places -/

namespace Found

variable {found : Found}

theorem findSome?_toList_eq_none_iff :
    found.toList.findSome? onward = none ↔ ∀ place ∈ found.cursors, onward place = none := by
  rw [List.findSome?_eq_none_iff]
  simp only [toList, List.mem_reverse]

/-- A place that is added is tried behind those found before. -/
theorem findSome?_add (tracks : Tracks origin found) (reached : origin.Reaches cursor) :
    (found.add cursor).toList.findSome? onward =
      (found.toList.findSome? onward).or (onward cursor) := by
  rw [Found.add]
  split
  · next isFound =>
    -- The place has been tried already, so trying it once more gives nothing new.
    cases earlier : found.toList.findSome? onward with
    | some result => rfl
    | none =>
        have member := (tracks.contains_iff reached).mp isFound
        exact (findSome?_toList_eq_none_iff.mp earlier cursor member).symm
  · rw [toList, List.reverse_cons, List.findSome?_append, List.findSome?_singleton]
    rfl

/-- What a fold finds is tried in the order in which its steps find it. -/
theorem findSome?_foldl {extend : Found → Cursor → Found} (invariant : Found → Prop)
    (gives : Cursor → Option α) (cursors : List Cursor) (holds : invariant found)
    (each : ∀ found, ∀ cursor ∈ cursors, invariant found → invariant (extend found cursor) ∧
      (extend found cursor).toList.findSome? onward =
        (found.toList.findSome? onward).or (gives cursor)) :
    invariant (cursors.foldl extend found) ∧
      (cursors.foldl extend found).toList.findSome? onward =
        (found.toList.findSome? onward).or (cursors.findSome? gives) := by
  induction cursors generalizing found with
  | nil => exact ⟨holds, (Option.or_none).symm⟩
  | cons cursor cursors ih =>
      obtain ⟨kept, here⟩ := each found cursor (List.mem_cons_self ..) holds
      obtain ⟨stays, further⟩ :=
        ih kept fun found other member => each found other (List.mem_cons_of_mem _ member)
      refine ⟨stays, ?_⟩
      rw [List.foldl_cons, further, here, Option.or_assoc, List.findSome?_cons]
      cases gives cursor <;> rfl

theorem findSome?_foldl_add {cursors : List Cursor} (tracks : Tracks origin found)
    (reached : ∀ cursor ∈ cursors, origin.Reaches cursor) :
    Tracks origin (cursors.foldl Found.add found) ∧
      (cursors.foldl Found.add found).toList.findSome? onward =
        (found.toList.findSome? onward).or (cursors.findSome? onward) := by
  apply findSome?_foldl (Tracks origin) onward cursors tracks
  intro found cursor member tracks
  exact ⟨tracks.add (reached cursor member), findSome?_add tracks (reached cursor member)⟩

end Found

namespace Pattern

theorem findSome?_congr {α β : Type} {give other : α → Option β} {places : List α}
    (same : ∀ place ∈ places, give place = other place) :
    places.findSome? give = places.findSome? other := by
  induction places with
  | nil => rfl
  | cons place places ih =>
      obtain ⟨here, rest⟩ := List.forall_mem_cons.mp same
      rw [List.findSome?_cons, List.findSome?_cons, here, ih rest]

/-! ### Steps -/

section Steps

variable {step : Cursor → List Cursor} {found : Found}

/-- The ends of two steps in a row are tried end by end of the first one. -/
theorem findSome?_andThen {ends : List Cursor}
    (reached : ∀ middle ∈ ends, origin.Reaches middle)
    (forward : ∀ middle stop, Leads step middle stop → middle.Reaches stop) :
    (andThen ends step).findSome? onward =
      ends.findSome? fun middle => (step middle).findSome? onward := by
  apply (findSome?_foldl (Tracks origin) _ ends tracks_empty _).2
  intro found middle member tracks
  apply findSome?_foldl_add tracks
  intro next leads
  exact (reached middle member).trans (forward middle next leads)

/-- A second step that goes nowhere changes nothing but how often a place is looked at. -/
theorem findSome?_andThen_singleton {ends : List Cursor}
    (reached : ∀ middle ∈ ends, origin.Reaches middle) :
    (andThen ends fun next => [next]).findSome? onward = ends.findSome? onward := by
  have stays : ∀ middle stop, Leads (fun next => [next]) middle stop → middle.Reaches stop := by
    intro middle stop leads
    cases List.mem_singleton.mp leads
    exact .refl _
  rw [findSome?_andThen reached stays]
  simp only [List.findSome?_singleton]

/-- A place itself is tried before or behind other places. -/
theorem findSome?_orHere {ends : List Cursor} {greedy : Bool}
    (reached : ∀ place ∈ ends, cursor.Reaches place) :
    (andThen (if greedy then ends ++ [cursor] else cursor :: ends) fun next => [next]).findSome?
        onward =
      if greedy then (ends.findSome? onward).or (onward cursor)
      else (onward cursor).or (ends.findSome? onward) := by
  have here : ∀ place ∈ [cursor], cursor.Reaches place :=
    List.forall_mem_singleton.mpr (.refl cursor)
  cases greedy with
  | true =>
      refine (findSome?_andThen_singleton (List.forall_mem_append.mpr ⟨reached, here⟩)).trans ?_
      rw [List.findSome?_append, List.findSome?_singleton]
      rfl
  | false =>
      refine (findSome?_andThen_singleton (List.forall_mem_append.mpr ⟨here, reached⟩)).trans ?_
      rw [List.findSome?_append, List.findSome?_singleton]
      rfl

/-- A search over any number of rounds that does not remember where it has been. -/
def tryRounds (step : Cursor → List Cursor) (greedy : Bool) (onward : Cursor → Option α)
    (cursor : Cursor) : Option α :=
  let further := (consumingRound step cursor).attach.findSome? fun ⟨next, _⟩ =>
    tryRounds step greedy onward next
  if greedy then further.or (onward cursor) else (onward cursor).or further
termination_by cursor.size
decreasing_by exact (mem_consumingRound_iff.mp ‹_›).2

/-- What such a search gives behind at least one round, which may consume nothing. -/
def tryFurther (step : Cursor → List Cursor) (greedy : Bool) (onward : Cursor → Option α)
    (cursor : Cursor) : Option α :=
  (step cursor).findSome? fun next =>
    if next.size < cursor.size then tryRounds step greedy onward next else onward next

theorem tryRounds_eq (step : Cursor → List Cursor) (greedy : Bool) (onward : Cursor → Option α)
    (cursor : Cursor) :
    tryRounds step greedy onward cursor =
      let further := (consumingRound step cursor).findSome? (tryRounds step greedy onward)
      if greedy then further.or (onward cursor) else (onward cursor).or further := by
  rw [tryRounds, List.findSome?_subtype fun _ _ => rfl, List.unattach_attach]

/-- Where no place that rounds lead to gets on, the search gives nothing. -/
theorem tryRounds_eq_none {greedy : Bool}
    (stuck : ∀ count stop, Rounds (Leads step) count cursor stop → onward stop = none) :
    tryRounds step greedy onward cursor = none := by
  induction bound : cursor.size using Nat.strongRecOn generalizing cursor with
  | ind size ih =>
      have further :
          (consumingRound step cursor).findSome? (tryRounds step greedy onward) = none := by
        rw [List.findSome?_eq_none_iff]
        intro next member
        obtain ⟨leads, shorter⟩ := mem_consumingRound_iff.mp member
        apply ih next.size (bound ▸ shorter) _ rfl
        intro count stop rounds
        exact stuck (count + 1) stop ⟨next, leads, rounds⟩
      rw [tryRounds_eq, further, stuck 0 cursor rfl]
      exact ite_self none

/-- At the end of the text rounds lead nowhere else. -/
theorem tryRounds_of_size_eq_zero {greedy : Bool} (ended : cursor.size = 0) :
    tryRounds step greedy onward cursor = onward cursor := by
  have noRound : consumingRound step cursor = [] := by
    rw [List.eq_nil_iff_forall_not_mem]
    intro next member
    have := (mem_consumingRound_iff.mp member).2
    omega
  rw [tryRounds_eq, noRound]
  cases onward cursor <;> simp

section Forward

variable (forward : ∀ cursor next, Leads step cursor next → cursor.Reaches next)
include forward

/-- Looking at each place once gives what a search gives that forgets where it has been, as long as
all places found before are closed. -/
theorem findSome?_roundsFrom {greedy : Bool} {bound : Nat} {sizes : Nat → Prop}
    (enough : cursor.size ≤ bound) (reached : origin.Reaches cursor) (tracks : Tracks origin found)
    (closed : Closed step sizes found) (smaller : ∀ size ≤ cursor.size, sizes size) :
    (roundsFrom step greedy bound found cursor).toList.findSome? onward =
      (found.toList.findSome? onward).or (tryRounds step greedy onward cursor) := by
  induction bound generalizing cursor found sizes with
  | zero =>
      rw [tryRounds_of_size_eq_zero (Nat.le_zero.mp enough)]
      exact findSome?_add tracks reached
  | succ bound ih =>
      rw [roundsFrom]
      split
      · next isFound =>
        -- All that is behind a place that has been found has been tried as well.
        cases earlier : found.toList.findSome? onward with
        | some result => rfl
        | none =>
            have member := (tracks.contains_iff reached).mp isFound
            symm
            apply tryRounds_eq_none
            intro count stop rounds
            exact findSome?_toList_eq_none_iff.mp earlier stop
              (closed.mem_of_rounds forward member smaller rounds)
      · let others : Nat → Prop := fun size => sizes size ∧ size ≠ cursor.size
        have othersClosed : Closed step others found := by
          intro place member inSizes
          exact closed place member inSizes.1
        have search : ∀ found, ∀ next ∈ consumingRound step cursor,
            Tracks origin found ∧ Closed step others found →
              let extended := roundsFrom step greedy bound found next
              (Tracks origin extended ∧ Closed step others extended) ∧
                extended.toList.findSome? onward =
                  (found.toList.findSome? onward).or (tryRounds step greedy onward next) := by
          rintro found next member ⟨tracks, closed⟩
          obtain ⟨leads, shorter⟩ := mem_consumingRound_iff.mp member
          have reachedNext := reached.trans (forward cursor next leads)
          have below : ∀ size ≤ next.size, others size :=
            fun size atMost => ⟨smaller size (by omega), by omega⟩
          have explored : Explored step origin others found [next]
              (roundsFrom step greedy bound found next) :=
            explored_roundsFrom forward (by omega) reachedNext tracks closed below
          exact ⟨⟨explored.tracks, explored.closed⟩,
            ih (by omega) reachedNext tracks closed below⟩
        cases greedy with
        | true =>
            obtain ⟨⟨kept, _⟩, tried⟩ := findSome?_foldl _ _ _ ⟨tracks, othersClosed⟩ search
            refine (findSome?_add kept reached).trans ?_
            rw [tried, tryRounds_eq, Option.or_assoc]
            rfl
        | false =>
            have added := explored_add tracks othersClosed reached
              fun inSizes => absurd rfl inSizes.2
            obtain ⟨⟨kept, _⟩, tried⟩ := findSome?_foldl _ _ _ ⟨added.tracks, added.closed⟩ search
            refine (findSome?_add kept reached).trans ?_
            rw [tried, findSome?_add tracks reached, tryRounds_eq]
            -- The place has been tried before its rounds, so trying it behind them changes nothing.
            cases onward cursor <;> simp

theorem findSome?_someRounds {greedy : Bool} :
    (someRounds step greedy cursor).findSome? onward = tryFurther step greedy onward cursor := by
  have firstRound : ∀ found, ∀ next ∈ step cursor,
      Tracks cursor found ∧ Closed step (· < cursor.size) found →
        let extended := if next.size < cursor.size then roundsFrom step greedy next.size found next
          else found.add next
        (Tracks cursor extended ∧ Closed step (· < cursor.size) extended) ∧
          extended.toList.findSome? onward = (found.toList.findSome? onward).or
            (if next.size < cursor.size then tryRounds step greedy onward next
              else onward next) := by
    rintro found next leads ⟨tracks, closed⟩
    have reached := forward cursor next leads
    dsimp only
    split
    · next shorter =>
      have below : ∀ size ≤ next.size, size < cursor.size :=
        fun size atMost => Nat.lt_of_le_of_lt atMost shorter
      have explored : Explored step cursor (· < cursor.size) found [next]
          (roundsFrom step greedy next.size found next) :=
        explored_roundsFrom forward (Nat.le_refl _) reached tracks closed below
      exact ⟨⟨explored.tracks, explored.closed⟩,
        findSome?_roundsFrom forward (Nat.le_refl _) reached tracks closed below⟩
    · next notShorter =>
      have explored := explored_add tracks closed reached fun below => absurd below notShorter
      exact ⟨⟨explored.tracks, explored.closed⟩, findSome?_add tracks reached⟩
  exact (findSome?_foldl _ _ (step cursor) ⟨tracks_empty, closed_empty⟩ firstRound).2

theorem findSome?_anyRounds {greedy : Bool} :
    (anyRounds step greedy cursor).findSome? onward =
      if greedy then (tryFurther step greedy onward cursor).or (onward cursor)
      else (onward cursor).or (tryFurther step greedy onward cursor) := by
  rw [anyRounds, findSome?_orHere fun _ => reaches_of_mem_someRounds forward,
    findSome?_someRounds forward]

end Forward

end Steps

/-! ### Patterns -/

/-- What the first end of a pattern gives from which one gets on. -/
def search (pattern : Pattern) (onward : Cursor → Option α) (cursor : Cursor) : Option α :=
  (pattern.ends cursor).findSome? onward

variable {pattern first second body : Pattern} {set : CharSet} {char : Char}

/-- The match that is taken is the first that a search comes upon, unless it is empty. -/
theorem matchEnd?_eq_search (pattern : Pattern) (cursor : Cursor) :
    pattern.matchEnd? cursor =
      (pattern.search some cursor).filter fun stop => stop.size < cursor.size := by
  rw [matchEnd?, search]
  cases pattern.ends cursor with
  | nil => rfl
  | cons stop others => rw [List.findSome?_cons, Option.filter_some]; simp

/-- A pattern that consumes something has no empty match to be left out. -/
theorem Consumes.matchEnd?_eq_search (consumes : pattern.Consumes) (cursor : Cursor) :
    pattern.matchEnd? cursor = pattern.search some cursor := by
  rw [Pattern.matchEnd?_eq_search]
  cases found : pattern.search some cursor with
  | none => rfl
  | some stop =>
      obtain ⟨last, member, isStop⟩ := List.exists_of_findSome?_eq_some found
      cases isStop
      have shorter : stop.size < cursor.size := consumes cursor stop (matches_of_mem_ends member)
      rw [Option.filter_some, if_pos (decide_eq_true shorter)]

theorem search_one : (one set).search onward cursor =
    match cursor.next? with
    | some (char, next) => if set.contains char then onward next else none
    | none => none := by
  rw [search, ends]
  cases cursor.next? with
  | none => rfl
  | some pair =>
      dsimp only
      split
      · exact List.findSome?_singleton ..
      · rfl

theorem search_seq : (seq first second).search onward cursor =
    first.search (second.search onward) cursor :=
  findSome?_andThen (fun _ => reaches_of_mem_ends) fun _ _ => reaches_of_mem_ends

theorem search_alt : (alt first second).search onward cursor =
    (first.search onward cursor).or (second.search onward cursor) := by
  have reached : ∀ place ∈ first.ends cursor ++ second.ends cursor, cursor.Reaches place :=
    fun place member => (List.mem_append.mp member).elim reaches_of_mem_ends reaches_of_mem_ends
  rw [search, ends, findSome?_andThen_singleton reached, List.findSome?_append]
  rfl

theorem search_assert {assertion : Assertion} :
    (assert assertion).search onward cursor =
      if assertion.holds cursor then onward cursor else none := by
  rw [search, ends]
  split
  · exact List.findSome?_singleton ..
  · rfl

/-- The round is tried first, and then none. -/
theorem search_optional : (optional body).search onward cursor =
    (body.search onward cursor).or (onward cursor) := by
  have here : ∀ middle ∈ [cursor], cursor.Reaches middle :=
    List.forall_mem_singleton.mpr (.refl cursor)
  have forward : ∀ middle stop, Leads (fewRounds body.ends true 1) middle stop →
      middle.Reaches stop :=
    fun _ _ => reaches_of_mem_fewRounds fun _ _ => reaches_of_mem_ends
  have once : andThen (body.ends cursor) (fewRounds body.ends true 0) =
      andThen (body.ends cursor) fun next => [next] := rfl
  have reached : ∀ place ∈ andThen (body.ends cursor) fun next => [next],
      cursor.Reaches place := by
    intro place member
    obtain ⟨middle, inEnds, same⟩ := exists_of_mem_andThen member
    cases List.mem_singleton.mp same
    exact reaches_of_mem_ends inEnds
  refine (findSome?_andThen here forward).trans ?_
  rw [List.findSome?_singleton, fewRounds, once, findSome?_orHere reached, if_pos rfl,
    findSome?_andThen_singleton fun _ => reaches_of_mem_ends]
  rfl

/-- Only the ends of a pattern matter to what follows it. -/
theorem search_congr {other : Cursor → Option α}
    (same : ∀ stop, pattern.Matches cursor stop → onward stop = other stop) :
    pattern.search onward cursor = pattern.search other cursor := by
  rw [search, search]
  exact findSome?_congr fun stop member => same stop (matches_of_mem_ends member)

theorem search_eq_none (stuck : ∀ stop, pattern.Matches cursor stop → onward stop = none) :
    pattern.search onward cursor = none := by
  rw [search, List.findSome?_eq_none_iff]
  exact fun stop member => stuck stop (matches_of_mem_ends member)

/-- What a search gives is given behind some match. -/
theorem exists_of_search_eq_some {result : α} (found : pattern.search onward cursor = some result) :
    ∃ stop, pattern.Matches cursor stop ∧ onward stop = some result := by
  obtain ⟨stop, member, gives⟩ := List.exists_of_findSome?_eq_some found
  exact ⟨stop, matches_of_mem_ends member, gives⟩

/-- Behind a pattern with one end there is nothing to go back for. -/
theorem search_eq_of_matches_iff (only : ∀ place, pattern.Matches cursor place ↔ place = stop) :
    pattern.search onward cursor = onward stop := by
  cases given : onward stop with
  | none =>
      apply search_eq_none
      intro place isMatch
      rw [(only place).mp isMatch, given]
  | some result =>
      cases found : pattern.search onward cursor with
      | none =>
          have member := mem_ends_iff.mpr ((only stop).mpr rfl)
          cases given.symm.trans (List.findSome?_eq_none_iff.mp found stop member)
      | some other =>
          obtain ⟨place, isMatch, gives⟩ := exists_of_search_eq_some found
          cases (only place).mp isMatch
          exact gives.symm.trans given

/-- Where one gets on from the preferred end, no other is tried. -/
theorem Prefers.search_eq_some {result : α} (prefers : pattern.Prefers cursor stop)
    (gives : onward stop = some result) : pattern.search onward cursor = some result := by
  obtain ⟨others, split⟩ := List.head?_eq_some_iff.mp prefers
  rw [search, split, List.findSome?_cons, gives]

/-- Where the rounds consume something, a search behind one of them is one over any number. -/
theorem tryFurther_of_consumes (consumes : body.Consumes) {greedy : Bool} :
    tryFurther body.ends greedy onward cursor =
      body.search (tryRounds body.ends greedy onward) cursor := by
  refine search_congr fun stop isMatch => ?_
  rw [if_pos (consumes cursor stop isMatch)]

theorem tryRounds_eq_search (consumes : body.Consumes) (greedy : Bool) :
    tryRounds body.ends greedy onward = (repeated body 0 none greedy).search onward := by
  funext cursor
  have all : consumingRound body.ends cursor = body.ends cursor := by
    rw [consumingRound, List.filter_eq_self]
    intro stop member
    exact decide_eq_true (consumes cursor stop (matches_of_mem_ends member))
  refine Eq.trans ?_ (findSome?_anyRounds fun _ _ => reaches_of_mem_ends).symm
  rw [tryRounds_eq, tryFurther_of_consumes consumes, all]
  rfl

theorem search_star (consumes : body.Consumes) :
    (star body).search onward cursor =
      (body.search ((star body).search onward) cursor).or (onward cursor) := by
  refine (findSome?_anyRounds fun _ _ => reaches_of_mem_ends).trans ?_
  rw [if_pos rfl, tryFurther_of_consumes consumes, tryRounds_eq_search consumes]
  rfl

theorem search_lazyStar (consumes : body.Consumes) :
    (lazyStar body).search onward cursor =
      (onward cursor).or (body.search ((lazyStar body).search onward) cursor) := by
  refine (findSome?_anyRounds fun _ _ => reaches_of_mem_ends).trans ?_
  rw [if_neg Bool.false_ne_true, tryFurther_of_consumes consumes, tryRounds_eq_search consumes]
  rfl

theorem search_plus (consumes : body.Consumes) :
    (plus body).search onward cursor = body.search ((star body).search onward) cursor := by
  have forward : ∀ cursor stop, Leads body.ends cursor stop → cursor.Reaches stop :=
    fun _ _ => reaches_of_mem_ends
  have reached : ∀ middle ∈ exactRounds body.ends 0 cursor, cursor.Reaches middle :=
    fun _ => reaches_of_mem_exactRounds forward
  refine (findSome?_andThen reached fun _ _ => reaches_of_mem_someRounds forward).trans ?_
  rw [exactRounds, List.findSome?_singleton, findSome?_someRounds forward,
    tryFurther_of_consumes consumes, tryRounds_eq_search consumes]
  rfl

/-! ### Characters -/

theorem search_one_of_contains (read : cursor.next? = some (char, next))
    (contains : set.contains char) : (one set).search onward cursor = onward next := by
  rw [search_one, read]
  exact if_pos contains

theorem search_one_eq_none (foreign : ∀ char ∈ cursor.after.head?, ¬set.contains char) :
    (one set).search onward cursor = none := by
  apply search_eq_none
  rintro stop ⟨char, read, contains⟩
  exact absurd contains (foreign char (head?_after_of_next? read))

/-- A greedy run goes on over a character of its set, and comes back if it does not get on there. -/
theorem search_star_one_of_contains (read : cursor.next? = some (char, next))
    (contains : set.contains char) : (star (one set)).search onward cursor =
      ((star (one set)).search onward next).or (onward cursor) := by
  rw [search_star (consumes_one set), search_one_of_contains read contains]

/-- A greedy run ends before a character that does not belong to its set. -/
theorem search_star_one_of_not_contains
    (foreign : ∀ char ∈ cursor.after.head?, ¬set.contains char) :
    (star (one set)).search onward cursor = onward cursor := by
  rw [search_star (consumes_one set), search_one_eq_none foreign, Option.none_or]

/-- Where a greedy run does not get on before its end, it is as if it had started there. -/
theorem search_star_one_of_reads {chars : List Char} (reads : cursor.Reads chars stop)
    (each : ∀ char ∈ chars, set.contains char)
    (stuck : ∀ place char, char ∈ chars → place.after.head? = some char → onward place = none) :
    (star (one set)).search onward cursor = (star (one set)).search onward stop := by
  induction reads with
  | stay cursor => rfl
  | @step cursor following later char chars read rest ih =>
      obtain ⟨here, others⟩ := List.forall_mem_cons.mp each
      have noEnd : onward cursor = none :=
        stuck cursor char (List.mem_cons_self ..) (head?_after_of_next? read)
      rw [search_star_one_of_contains read here, noEnd, Option.or_none]
      exact ih others fun place other member => stuck place other (List.mem_cons_of_mem char member)

/-- A greedy run that can be left at some place is left there or further on. -/
theorem exists_further_of_search_star_one {chars : List Char} (reads : cursor.Reads chars stop)
    (each : ∀ char ∈ chars, set.contains char) (goesOn : (onward stop).isSome) :
    ∃ later, stop.Reaches later ∧ (onward later).isSome ∧
      (star (one set)).search onward cursor = onward later := by
  induction reads with
  | stay cursor =>
      have found : ((star (one set)).search onward cursor).isSome := by
        rw [search_star (consumes_one set), Option.isSome_or, goesOn, Bool.or_true]
      obtain ⟨result, isResult⟩ := Option.isSome_iff_exists.mp found
      obtain ⟨later, isMatch, gives⟩ := exists_of_search_eq_some isResult
      obtain ⟨more, readsMore, _⟩ := isMatch.exists_reads (consumesOnly_true _)
      exact ⟨later, ⟨more, readsMore⟩, gives ▸ rfl, isResult.trans gives.symm⟩
  | @step cursor following later char chars read rest ih =>
      obtain ⟨here, others⟩ := List.forall_mem_cons.mp each
      obtain ⟨last, reached, gives, found⟩ := ih others goesOn
      refine ⟨last, reached, gives, ?_⟩
      rw [search_star_one_of_contains read here, found, Option.or_of_isSome gives]

theorem exists_further_of_search_plus_one {chars : List Char} (reads : cursor.Reads chars stop)
    (notEmpty : chars ≠ []) (each : ∀ char ∈ chars, set.contains char)
    (goesOn : (onward stop).isSome) :
    ∃ later, stop.Reaches later ∧ (plus (one set)).search onward cursor = onward later := by
  cases reads with
  | stay => exact absurd rfl notEmpty
  | step read rest =>
      obtain ⟨here, others⟩ := List.forall_mem_cons.mp each
      obtain ⟨later, reached, _, found⟩ := exists_further_of_search_star_one rest others goesOn
      refine ⟨later, reached, ?_⟩
      rw [search_plus (consumes_one set), search_one_of_contains read here, found]

theorem search_literal_of_reads {chars : List Char} (reads : cursor.Reads chars stop) :
    (literal chars).search onward cursor = onward stop := by
  induction reads with
  | stay cursor => exact List.findSome?_singleton ..
  | step read rest ih =>
      refine search_seq.trans ?_
      rw [search_one, read]
      simp only [CharSet.contains_single, decide_true, if_true]
      exact ih

end Pattern

end FencedCode
