import FencedCode.Editor.Debounce

/-!
# What a debouncer hands out

Which value waits at a moment of a run can be told from the events before it: the one scheduled last,
unless it has been called back or a poll has handed it out since.  So an event that hands something
out hands out the value scheduled last, and no value scheduled before an event that hands something
out is left for a later one.  Nothing is assumed of the times: they may go back, and a value scheduled
later may be due earlier.
-/

namespace FencedCode

namespace Debouncer

variable {α : Type} {debouncer : Debouncer α} {event : Event α} {events : List (Event α)}
variable {delay place moment other now time : Nat} {value : α}

/-! ### Polls -/

/-- A poll takes the waiting value if it is due, and otherwise changes nothing. -/
theorem poll_cases (debouncer : Debouncer α) (now : Nat) :
    (∃ due value, debouncer.pending = some (due, value) ∧ due ≤ now ∧
      debouncer.poll now = (some value, { debouncer with pending := none })) ∨
    ((∀ due value, debouncer.pending = some (due, value) → now < due) ∧
      debouncer.poll now = (none, debouncer)) := by
  obtain ⟨delay, pending⟩ := debouncer
  cases pending with
  | none =>
      refine .inr ⟨?_, rfl⟩
      intro due value waiting
      cases waiting
  | some entry =>
      obtain ⟨due, value⟩ := entry
      by_cases isDue : due ≤ now
      · exact .inl ⟨due, value, rfl, isDue, by simp [poll, deadline?, cancel, isDue]⟩
      · refine .inr ⟨?_, by simp [poll, deadline?, isDue]⟩
        intro other otherValue waiting
        cases waiting
        omega

theorem poll_eq_some_iff :
    (debouncer.poll now).1 = some value ↔
      ∃ due, debouncer.pending = some (due, value) ∧ due ≤ now := by
  rcases debouncer.poll_cases now with ⟨due, found, waits, isDue, polled⟩ | ⟨early, polled⟩
  · rw [polled, waits]
    constructor
    · rintro ⟨⟩
      exact ⟨due, rfl, isDue⟩
    · rintro ⟨_, ⟨⟩, _⟩
      rfl
  · rw [polled]
    refine ⟨nofun, ?_⟩
    rintro ⟨due, waits, isDue⟩
    have := early due value waits
    omega

/-! ### Runs -/

def after (debouncer : Debouncer α) : List (Event α) → Debouncer α
  | [] => debouncer
  | event :: later => after (debouncer.step event).2 later

/-- What each event of a run hands out. -/
def outcomes (debouncer : Debouncer α) : List (Event α) → List (Option α)
  | [] => []
  | event :: later => (debouncer.step event).1 :: outcomes (debouncer.step event).2 later

theorem after_append (debouncer : Debouncer α) (earlier later : List (Event α)) :
    debouncer.after (earlier ++ later) = (debouncer.after earlier).after later := by
  induction earlier generalizing debouncer with
  | nil => rfl
  | cons event earlier ih => exact ih (debouncer.step event).2

theorem after_take_succ (debouncer : Debouncer α) (here : events[moment]? = some event) :
    debouncer.after (events.take (moment + 1)) =
      ((debouncer.after (events.take moment)).step event).2 := by
  rw [List.take_add_one, here, after_append]
  rfl

theorem getElem?_outcomes (debouncer : Debouncer α) (events : List (Event α)) (moment : Nat) :
    (debouncer.outcomes events)[moment]? = events[moment]?.map fun event =>
      ((debouncer.after (events.take moment)).step event).1 := by
  induction events generalizing debouncer moment with
  | nil => rfl
  | cons first events ih =>
      cases moment with
      | zero => rfl
      | succ moment => exact ih (debouncer.step first).2 moment

theorem delay_step (debouncer : Debouncer α) (event : Event α) :
    (debouncer.step event).2.delay = debouncer.delay := by
  cases event with
  | schedule | cancel => rfl
  | poll now =>
      rcases debouncer.poll_cases now with ⟨_, _, _, _, polled⟩ | ⟨_, polled⟩ <;>
        rw [step, polled]

theorem delay_after (debouncer : Debouncer α) (events : List (Event α)) :
    (debouncer.after events).delay = debouncer.delay := by
  induction events generalizing debouncer with
  | nil => rfl
  | cons event events ih => rw [after, ih, delay_step]

/-! ### What waits -/

/-- The value scheduled at a place of a run waits at a moment: all that has happened since are polls,
and none of them has handed anything out. -/
structure Waits (delay : Nat) (events : List (Event α)) (place moment : Nat) (value : α)
    (time : Nat) : Prop where
  scheduled : events[place]? = some (.schedule value time)
  earlier : place < moment
  /-- Nothing else has been scheduled, called back or handed out. -/
  since : ∀ other, place < other → other < moment → ∀ event, events[other]? = some event →
    (∃ now, event = .poll now) ∧ (outcomes { delay } events)[other]? = some none

/-- What waits behind an event has been scheduled by it, or has waited before it. -/
theorem waits_succ_iff (here : events[moment]? = some event) :
    Waits delay events place (moment + 1) value time ↔
      (place = moment ∧ event = .schedule value time) ∨
      (Waits delay events place moment value time ∧ (∃ now, event = .poll now) ∧
        (outcomes { delay } events)[moment]? = some none) := by
  constructor
  · rintro ⟨scheduled, earlier, since⟩
    rcases Nat.lt_succ_iff_lt_or_eq.mp earlier with before | rfl
    · refine .inr ⟨⟨scheduled, before, ?_⟩, since moment before (Nat.lt_succ_self _) event here⟩
      intro other behind inFront
      exact since other behind (Nat.lt_succ_of_lt inFront)
    · exact .inl ⟨rfl, Option.some.inj (here.symm.trans scheduled)⟩
  · rintro (⟨rfl, rfl⟩ | ⟨⟨scheduled, earlier, since⟩, isPoll, nothing⟩)
    · exact ⟨here, Nat.lt_succ_self _, fun other behind inFront => by omega⟩
    · refine ⟨scheduled, Nat.lt_succ_of_lt earlier, ?_⟩
      intro other behind inFront otherEvent there
      rcases Nat.lt_succ_iff_lt_or_eq.mp inFront with before | rfl
      · exact since other behind before otherEvent there
      · cases here.symm.trans there
        exact ⟨isPoll, nothing⟩

/-- At most one value waits. -/
theorem Waits.place_eq {otherValue : α} {otherTime : Nat}
    (waits : Waits delay events place moment value time)
    (otherWaits : Waits delay events other moment otherValue otherTime) : place = other := by
  rcases Nat.lt_trichotomy place other with before | same | behind
  · obtain ⟨⟨_, isPoll⟩, _⟩ :=
      waits.since other before otherWaits.earlier _ otherWaits.scheduled
    cases isPoll
  · exact same
  · obtain ⟨⟨_, isPoll⟩, _⟩ :=
      otherWaits.since place behind waits.earlier _ waits.scheduled
    cases isPoll

/-- The debouncer holds the value that waits, with its deadline. -/
theorem pending_after_iff {due : Nat} (within : moment ≤ events.length) :
    (after { delay } (events.take moment)).pending = some (due, value) ↔
      ∃ place time, Waits delay events place moment value time ∧ due = time + delay := by
  induction moment generalizing due value with
  | zero =>
      refine ⟨nofun, ?_⟩
      rintro ⟨place, _, ⟨_, earlier, _⟩, _⟩
      exact absurd earlier (Nat.not_lt_zero place)
  | succ moment ih =>
      have here : events[moment]? = some events[moment] := List.getElem?_eq_getElem within
      generalize events[moment] = event at here
      rw [after_take_succ _ here]
      simp only [waits_succ_iff here, getElem?_outcomes, here, Option.map_some]
      cases event with
      | schedule latest latestTime =>
          have isDelay : (after { delay } (events.take moment)).delay = delay := delay_after _ _
          rw [step, schedule, isDelay]
          constructor
          · rintro ⟨⟩
            exact ⟨moment, latestTime, .inl ⟨rfl, rfl⟩, rfl⟩
          · rintro ⟨_, _, ⟨rfl, ⟨⟩⟩ | ⟨_, ⟨_, ⟨⟩⟩, _⟩, rfl⟩
            rfl
      | cancel =>
          refine ⟨nofun, ?_⟩
          rintro ⟨_, _, ⟨_, ⟨⟩⟩ | ⟨_, ⟨_, ⟨⟩⟩, _⟩, _⟩
      | poll now =>
          rw [step]
          rcases (after { delay } (events.take moment)).poll_cases now with
            ⟨_, found, _, _, polled⟩ | ⟨_, polled⟩
          · -- What has waited is handed out, and nothing waits any more.
            rw [polled]
            refine ⟨nofun, ?_⟩
            rintro ⟨_, _, ⟨_, ⟨⟩⟩ | ⟨_, _, ⟨⟩⟩, _⟩
          · rw [polled, ih (Nat.le_of_lt within)]
            constructor
            · rintro ⟨place, time, waits, isDue⟩
              exact ⟨place, time, .inr ⟨waits, ⟨now, rfl⟩, rfl⟩, isDue⟩
            · rintro ⟨place, time, ⟨_, ⟨⟩⟩ | ⟨waits, _⟩, isDue⟩
              exact ⟨place, time, waits, isDue⟩

/-! ### What is handed out -/

/-- An event calls back whatever waits, or asks at a time for what is due. -/
def Event.Takes (due : Nat) : Event α → Prop
  | .schedule .. => False
  | .poll now => due ≤ now
  | .cancel => True

/-- At a moment of a run the value is handed out that was scheduled at a place. -/
def HandsOut (delay : Nat) (events : List (Event α)) (place moment : Nat) (value : α) : Prop :=
  ∃ time event, Waits delay events place moment value time ∧ events[moment]? = some event ∧
    event.Takes (time + delay)

theorem step_eq_some_iff :
    (debouncer.step event).1 = some value ↔
      ∃ due, debouncer.pending = some (due, value) ∧ event.Takes due := by
  cases event with
  | schedule => simp [step, Event.Takes]
  | poll now => exact poll_eq_some_iff
  | cancel => simp [step, cancel, Event.Takes]

/-- An event hands out what waits if it takes it, and nothing else. -/
theorem getElem?_outcomes_eq_some_iff :
    (outcomes { delay } events)[moment]? = some (some value) ↔
      ∃ place, HandsOut delay events place moment value := by
  rw [getElem?_outcomes]
  constructor
  · intro handed
    obtain ⟨event, here, taken⟩ := Option.map_eq_some_iff.mp handed
    obtain ⟨due, holds, takes⟩ := step_eq_some_iff.mp taken
    have within : moment ≤ events.length := Nat.le_of_lt (List.getElem?_eq_some_iff.mp here).1
    obtain ⟨place, time, waits, rfl⟩ := (pending_after_iff within).mp holds
    exact ⟨place, time, event, waits, here, takes⟩
  · rintro ⟨place, time, event, waits, here, takes⟩
    have within : moment ≤ events.length := Nat.le_of_lt (List.getElem?_eq_some_iff.mp here).1
    have holds := (pending_after_iff within).mpr ⟨place, time, waits, rfl⟩
    rw [here, Option.map_some, step_eq_some_iff.mpr ⟨_, holds, takes⟩]

/-- What is handed out later has been scheduled after what is handed out before. -/
theorem HandsOut.moment_lt_place {laterPlace laterMoment : Nat} {laterValue : α}
    (former : HandsOut delay events place moment value)
    (latter : HandsOut delay events laterPlace laterMoment laterValue)
    (before : moment < laterMoment) : moment < laterPlace := by
  have handed : (outcomes { delay } events)[moment]? = some (some value) :=
    getElem?_outcomes_eq_some_iff.mpr ⟨place, former⟩
  obtain ⟨_, event, _, here, takes⟩ := former
  obtain ⟨_, _, waits, _, _⟩ := latter
  rcases Nat.lt_trichotomy moment laterPlace with isLess | rfl | isGreater
  · exact isLess
  · cases here.symm.trans waits.scheduled
    exact takes.elim
  · obtain ⟨_, nothing⟩ := waits.since moment isGreater before event here
    cases handed.symm.trans nothing

theorem HandsOut.moment_eq {otherValue : α} (handsOut : HandsOut delay events place moment value)
    (again : HandsOut delay events place other otherValue) : moment = other := by
  have ⟨_, _, waits, _, _⟩ := handsOut
  have ⟨_, _, waitsAgain, _, _⟩ := again
  rcases Nat.lt_trichotomy moment other with before | same | behind
  · have := handsOut.moment_lt_place again before
    have := waits.earlier
    omega
  · exact same
  · have := again.moment_lt_place handsOut behind
    have := waitsAgain.earlier
    omega

/-- Among polls a scheduled value goes on waiting until one of them hands it out. -/
theorem waits_or_handsOut (delay : Nat) (scheduled : events[place]? = some (.schedule value time))
    (earlier : place < moment) (within : moment ≤ events.length)
    (polls : ∀ other, place < other → other < moment → ∃ now, events[other]? = some (.poll now)) :
    Waits delay events place moment value time ∨
      ∃ release, place < release ∧ release < moment ∧
        HandsOut delay events place release value := by
  induction moment with
  | zero => exact absurd earlier (Nat.not_lt_zero place)
  | succ moment ih =>
      rcases Nat.lt_succ_iff_lt_or_eq.mp earlier with before | rfl
      · obtain ⟨now, here⟩ := polls moment before (Nat.lt_succ_self _)
        have waitsOrNot := ih before (Nat.le_of_lt within) fun other behind inFront =>
          polls other behind (Nat.lt_succ_of_lt inFront)
        rcases waitsOrNot with waits | ⟨release, behind, inFront, handsOut⟩
        · cases taken : ((after { delay } (events.take moment)).step (.poll now)).1 with
          | none =>
              refine .inl ((waits_succ_iff here).mpr (.inr ⟨waits, ⟨now, rfl⟩, ?_⟩))
              rw [getElem?_outcomes, here, Option.map_some, taken]
          | some found =>
              have handed : (outcomes { delay } events)[moment]? = some (some found) := by
                rw [getElem?_outcomes, here, Option.map_some, taken]
              obtain ⟨_, foundTime, event, foundWaits, there, takes⟩ :=
                getElem?_outcomes_eq_some_iff.mp handed
              cases waits.place_eq foundWaits
              cases scheduled.symm.trans foundWaits.scheduled
              exact .inr ⟨moment, before, Nat.lt_succ_self _, time, event, waits, there, takes⟩
        · exact .inr ⟨release, behind, Nat.lt_succ_of_lt inFront, handsOut⟩
      · exact .inl ((waits_succ_iff scheduled).mpr (.inl ⟨rfl, rfl⟩))

/-- What comes of the values that are scheduled in a run. -/
structure Debounces (delay : Nat) (events : List (Event α)) : Prop where
  /-- At each moment the value scheduled last waits, unless it has been called back or handed out.
  It is due one delay behind the time at which it was scheduled. -/
  waiting : ∀ moment ≤ events.length, ∀ due value,
    (after { delay } (events.take moment)).pending = some (due, value) ↔
      ∃ place time, Waits delay events place moment value time ∧ due = time + delay
  /-- A poll hands out what waits, once it is due. -/
  polled : ∀ moment ≤ events.length, ∀ now value,
    ((after { delay } (events.take moment)).poll now).1 = some value ↔
      ∃ place time, Waits delay events place moment value time ∧ time + delay ≤ now
  /-- All that is handed out has waited until then. -/
  handedOut : ∀ moment value, (outcomes { delay } events)[moment]? = some (some value) ↔
    ∃ place, HandsOut delay events place moment value
  once : ∀ place moment other value otherValue, HandsOut delay events place moment value →
    HandsOut delay events place other otherValue → moment = other
  /-- Values are handed out in the order in which they were scheduled. -/
  inOrder : ∀ place moment value laterPlace laterMoment laterValue,
    HandsOut delay events place moment value →
    HandsOut delay events laterPlace laterMoment laterValue →
      (moment < laterMoment ↔ place < laterPlace)
  /-- A value with nothing but polls behind it is handed out by any of them that is not too early,
  unless it has been handed out before. -/
  released : ∀ place moment value time now, events[place]? = some (.schedule value time) →
    place < moment →
    (∀ other, place < other → other < moment → ∃ now, events[other]? = some (.poll now)) →
    events[moment]? = some (.poll now) → time + delay ≤ now →
      ∃ release, place < release ∧ release ≤ moment ∧ HandsOut delay events place release value

/-- In every run of a debouncer, whatever the times, the value scheduled last is the only one that can
be handed out, and it is handed out once. -/
theorem run_debounces (delay : Nat) (events : List (Event α)) : Debounces delay events where
  waiting moment within due value := pending_after_iff within
  polled moment within now value := by
    rw [poll_eq_some_iff]
    simp only [pending_after_iff within]
    constructor
    · rintro ⟨_, ⟨place, time, waits, rfl⟩, isDue⟩
      exact ⟨place, time, waits, isDue⟩
    · rintro ⟨place, time, waits, isDue⟩
      exact ⟨_, ⟨place, time, waits, rfl⟩, isDue⟩
  handedOut moment value := getElem?_outcomes_eq_some_iff
  once place moment other value otherValue handsOut again := handsOut.moment_eq again
  inOrder place moment value laterPlace laterMoment laterValue former latter := by
    have ⟨_, _, waits, _, _⟩ := former
    have ⟨_, _, laterWaits, _, _⟩ := latter
    have earlier := waits.earlier
    have laterEarlier := laterWaits.earlier
    constructor
    · intro before
      have := former.moment_lt_place latter before
      omega
    · intro before
      rcases Nat.lt_trichotomy moment laterMoment with isLess | rfl | isGreater
      · exact isLess
      · cases waits.place_eq laterWaits
        exact absurd before (Nat.lt_irrefl _)
      · have := latter.moment_lt_place former isGreater
        omega
  released place moment value time now scheduled earlier polls here isDue := by
    have within : moment ≤ events.length := Nat.le_of_lt (List.getElem?_eq_some_iff.mp here).1
    rcases waits_or_handsOut delay scheduled earlier within polls with
      waits | ⟨release, behind, inFront, handsOut⟩
    · exact ⟨moment, earlier, Nat.le_refl _, time, .poll now, waits, here, isDue⟩
    · exact ⟨release, behind, Nat.le_of_lt inFront, handsOut⟩

end Debouncer

end FencedCode
