import FencedCode.Proofs.Editor.History

/-!
# Saving

No text is lost, saved late or saved twice, whatever order the operations come in and whatever the
clock says.  The invariant: a text that waits is the present one and is due one delay behind the
latest edit; where none waits after a change, the present one has been handed out last.
-/

namespace FencedCode

namespace Widget

open Operation

variable {engine : Engine} {debounce : Nat} {history : List Operation} {handed : List String}
variable {widget : Widget}

/-! ### What is handed out -/

theorem saved_setLanguage (saves : widget.saves = true) (name : String) :
    (widget.setLanguage name).saved = [(widget.setLanguage name).widget.raw] := by
  simp [setLanguage, withLanguage, Widget.handed, saves]

theorem saved_eq_nil {operation : Operation} (noLanguage : ∀ name, operation ≠ .setLanguage name)
    (noPoll : ∀ now, operation ≠ .poll now) :
    (widget.perform engine operation).saved = [] := by
  cases operation with
  | setLanguage name => exact absurd rfl (noLanguage name)
  | poll now => exact absurd rfl (noPoll now)
  | run =>
      rw [perform, run]
      split <;> rfl
  | edit | scroll | clearOutput | copy => rfl

/-! ### The invariant -/

/-- How the waiting text and the texts handed out relate to a history. -/
structure Keeps (debounce : Nat) (history : List Operation) (handed : List String)
    (widget : Widget) : Prop where
  saves : widget.saves = true
  delay : widget.pendingSave.delay = debounce
  /-- What waits is the present text, due one delay behind the latest edit. -/
  waiting : ∀ due text, widget.pendingSave.pending = some (due, text) →
    text = widget.raw ∧ ∃ edited time, lastEdit? history = some (edited, time) ∧
      due = time + debounce
  /-- After a change the present text waits or was handed out last. -/
  current : (∃ operation ∈ history, operation.isChange) →
    widget.pendingSave.isPending ∨ handed.getLast? = some widget.raw
  /-- Each change is handed out once, now or later. -/
  bounded : handed.length + widget.pendingSave.pending.toList.length ≤ history.countP isChange

theorem keeps_ofRaw (registry : Registry) (settings : Settings) (raw : String) :
    Keeps settings.debounce [] [] (ofRaw registry settings true raw) where
  saves := rfl
  delay := rfl
  waiting := by
    intro due text waits
    cases waits
  current := by simp
  bounded := Nat.le_refl 0

namespace Keeps

theorem edit (keeps : Keeps debounce history handed widget) (text : String) (now : Nat) :
    Keeps debounce (history ++ [.edit text now]) handed (widget.edit text now).widget := by
  have scheduled : (widget.edit text now).widget.pendingSave.pending =
      some (now + debounce, (widget.edit text now).widget.raw) := by
    simp [Widget.edit, scheduleSave, withText, keeps.saves, Debouncer.schedule, keeps.delay]
  refine ⟨?_, ?_, ?_, ?_, ?_⟩
  · simp [Widget.edit, scheduleSave, withText, keeps.saves]
  · simp [Widget.edit, scheduleSave, withText, keeps.saves, Debouncer.schedule, keeps.delay]
  · intro due waitingText waits
    rw [scheduled] at waits
    cases waits
    refine ⟨rfl, text, now, ?_, rfl⟩
    rw [lastEdit?_append]
    rfl
  · intro _
    rw [Debouncer.isPending, scheduled]
    exact .inl rfl
  · have before := keeps.bounded
    rw [scheduled, List.countP_append]
    simp only [Option.toList_some, List.length_singleton, List.countP_singleton, isChange,
      if_true]
    omega

theorem setLanguage (keeps : Keeps debounce history handed widget) (name : String) :
    Keeps debounce (history ++ [.setLanguage name]) (handed ++ (widget.setLanguage name).saved)
      (widget.setLanguage name).widget := by
  have saved := saved_setLanguage keeps.saves name
  refine ⟨keeps.saves, keeps.delay, ?_, ?_, ?_⟩
  · intro due text waits
    cases waits
  · intro _
    rw [saved, List.getLast?_concat]
    exact .inr rfl
  · have before := keeps.bounded
    have nothing : (widget.setLanguage name).widget.pendingSave.pending = none := rfl
    rw [saved, nothing, List.countP_append]
    simp only [Option.toList_none, List.length_append, List.length_singleton, List.length_nil,
      List.countP_singleton, isChange, if_true]
    omega

/-- An operation that changes no text and saves nothing keeps what waits. -/
theorem passive (keeps : Keeps debounce history handed widget) {operation : Operation}
    {later : Widget} (noEdit : operation.edit? = none) (noChange : operation.isChange = false)
    (saves : later.saves = widget.saves) (raw : later.raw = widget.raw)
    (pending : later.pendingSave = widget.pendingSave) :
    Keeps debounce (history ++ [operation]) handed later := by
  have sameEdit : lastEdit? (history ++ [operation]) = lastEdit? history := by
    rw [lastEdit?_append, lastEdit?_cons, noEdit]
    rfl
  refine ⟨saves.trans keeps.saves, ?_, ?_, ?_, ?_⟩
  · rw [pending]
    exact keeps.delay
  · rw [pending, raw, sameEdit]
    exact keeps.waiting
  · intro changed
    rw [pending, raw]
    apply keeps.current
    obtain ⟨change, member, isChange⟩ := changed
    refine ⟨change, ?_, isChange⟩
    cases List.mem_append.mp member with
    | inl earlier => exact earlier
    | inr last =>
        rw [List.mem_singleton.mp last, noChange] at isChange
        cases isChange
  · have before := keeps.bounded
    rw [pending, List.countP_append, List.countP_singleton, noChange]
    simpa using before

theorem poll_cases (keeps : Keeps debounce history handed widget) (now : Nat) :
    ((widget.pendingSave.isPending ∧
        ∃ text time, lastEdit? history = some (text, time) ∧ time + debounce ≤ now) ∧
      widget.poll now =
        { widget := { widget with pendingSave := { widget.pendingSave with pending := none } }
          reply := .polled true, saved := [widget.raw] }) ∨
    (¬(widget.pendingSave.isPending ∧
        ∃ text time, lastEdit? history = some (text, time) ∧ time + debounce ≤ now) ∧
      widget.poll now = { widget, reply := .polled false }) := by
  rcases widget.pendingSave.poll_cases now with ⟨due, text, waits, isDue, polled⟩ | ⟨early, polled⟩
  · obtain ⟨rfl, edited, time, latest, rfl⟩ := keeps.waiting due text waits
    refine .inl ⟨⟨?_, edited, time, latest, isDue⟩, ?_⟩
    · rw [Debouncer.isPending, waits]
      rfl
    · simp [Widget.poll, polled, Widget.handed, keeps.saves]
  · refine .inr ⟨?_, by simp [Widget.poll, polled]⟩
    rintro ⟨waits, text, time, latest, isDue⟩
    obtain ⟨⟨due, value⟩, pending⟩ := Option.isSome_iff_exists.mp waits
    obtain ⟨_, edited, editTime, sameLatest, rfl⟩ := keeps.waiting due value pending
    rw [latest] at sameLatest
    cases sameLatest
    have := early _ _ pending
    omega

theorem poll (keeps : Keeps debounce history handed widget) (now : Nat) :
    Keeps debounce (history ++ [.poll now]) (handed ++ (widget.poll now).saved)
      (widget.poll now).widget := by
  rcases keeps.poll_cases now with ⟨⟨waits, _⟩, polled⟩ | ⟨_, polled⟩
  · rw [polled]
    refine ⟨keeps.saves, keeps.delay, ?_, ?_, ?_⟩
    · intro due text waits
      cases waits
    · intro _
      rw [List.getLast?_concat]
      exact .inr rfl
    · have before := keeps.bounded
      obtain ⟨entry, pending⟩ := Option.isSome_iff_exists.mp waits
      have noChange : isChange (.poll now) = false := rfl
      rw [pending] at before
      rw [List.countP_append, List.countP_singleton, noChange]
      simpa using before
  · rw [polled, List.append_nil]
    exact keeps.passive rfl rfl rfl rfl rfl

/-- Each operation keeps the invariant. -/
theorem perform (keeps : Keeps debounce history handed widget) (engine : Engine)
    (operation : Operation) :
    Keeps debounce (history ++ [operation])
      (handed ++ (widget.perform engine operation).saved)
      (widget.perform engine operation).widget := by
  cases operation with
  | edit text now =>
      have nothing : (widget.perform engine (.edit text now)).saved = [] := rfl
      rw [nothing, List.append_nil]
      exact keeps.edit text now
  | poll now => exact keeps.poll now
  | setLanguage name => exact keeps.setLanguage name
  | run =>
      rw [Widget.perform, Widget.run]
      split <;> rw [List.append_nil] <;> exact keeps.passive rfl rfl rfl rfl rfl
  | scroll | clearOutput | copy =>
      rw [Widget.perform, List.append_nil]
      exact keeps.passive rfl rfl rfl rfl rfl

/-- Any number of operations keep the invariant. -/
theorem after (keeps : Keeps debounce history handed widget) (engine : Engine)
    (operations : List Operation) :
    Keeps debounce (history ++ operations) (handed ++ widget.savedDuring engine operations)
      (widget.after engine operations) := by
  induction operations generalizing history handed widget with
  | nil =>
      rw [savedDuring, List.append_nil, List.append_nil]
      exact keeps
  | cons operation later ih =>
      have kept := ih (keeps.perform engine operation)
      rwa [List.append_assoc, List.append_assoc, List.singleton_append] at kept

theorem eq_raw_of_mem_saved (keeps : Keeps debounce history handed widget)
    {operation : Operation} {text : String}
    (member : text ∈ (widget.perform engine operation).saved) :
    text = (widget.perform engine operation).widget.raw := by
  cases operation with
  | setLanguage name =>
      rw [Widget.perform, saved_setLanguage keeps.saves] at member
      exact List.mem_singleton.mp member
  | poll now =>
      rw [Widget.perform] at member ⊢
      rcases keeps.poll_cases now with ⟨_, polled⟩ | ⟨_, polled⟩
      · rw [polled] at member ⊢
        exact List.mem_singleton.mp member
      · rw [polled] at member
        cases member
  | edit | scroll | run | clearOutput | copy =>
      rw [saved_eq_nil (by simp) (by simp)] at member
      cases member

theorem poll_reply (keeps : Keeps debounce history handed widget) (now : Nat) :
    let effect := widget.perform engine (.poll now)
    ∃ due, effect.reply = .polled due ∧ effect.saved = (if due then [widget.raw] else []) ∧
      (due = true ↔ widget.pendingSave.isPending = true ∧
        ∃ text time, lastEdit? history = some (text, time) ∧ time + debounce ≤ now) := by
  dsimp only [Widget.perform]
  rcases keeps.poll_cases now with ⟨isDue, polled⟩ | ⟨notDue, polled⟩
  · rw [polled]
    exact ⟨true, rfl, rfl, fun _ => isDue, fun _ => rfl⟩
  · rw [polled]
    exact ⟨false, rfl, rfl, fun impossible => Bool.noConfusion impossible,
      fun isDue => absurd isDue notDue⟩

end Keeps

/-! ### Bursts of edits -/

/-- Edits and polls after a history, each poll before the edit that is the latest at that point is
due. -/
structure IsBurst (debounce : Nat) (history burst : List Operation) : Prop where
  /-- There are only edits and polls. -/
  editOrPoll : ∀ operation ∈ burst,
    (∃ text now, operation = .edit text now) ∨ ∃ now, operation = .poll now
  /-- Each poll comes before the deadline. -/
  early : ∀ earlier now later, burst = earlier ++ .poll now :: later →
    ∀ text time, lastEdit? (history ++ earlier) = some (text, time) → now < time + debounce

theorem IsBurst.tail {operation : Operation} {burst : List Operation}
    (isBurst : IsBurst debounce history (operation :: burst)) :
    IsBurst debounce (history ++ [operation]) burst where
  editOrPoll other member := isBurst.editOrPoll other (List.mem_cons_of_mem _ member)
  early earlier now later split := by
    have early := isBurst.early (operation :: earlier) now later (by rw [split, List.cons_append])
    rwa [← List.singleton_append, ← List.append_assoc] at early

/-- During a burst nothing is handed out; in the end the latest edit waits. -/
theorem Keeps.after_burst (keeps : Keeps debounce history handed widget) (engine : Engine)
    {burst : List Operation} (isBurst : IsBurst debounce history burst) :
    widget.savedDuring engine burst = [] ∧ (widget.after engine burst).name = widget.name ∧
      (widget.after engine burst).pendingSave.pending =
        ((lastEdit? burst).map fun edit => (edit.2 + debounce, serialized widget.name edit.1)).or
          widget.pendingSave.pending := by
  induction burst generalizing history handed widget with
  | nil => exact ⟨rfl, rfl, rfl⟩
  | cons operation burst ih =>
      obtain ⟨saved, name, pending⟩ :=
        ih (keeps.perform engine operation) isBurst.tail
      rw [savedDuring, saved, List.append_nil, Widget.after, name, pending, lastEdit?_cons]
      rcases isBurst.editOrPoll operation (List.mem_cons_self ..) with
        ⟨text, now, rfl⟩ | ⟨now, rfl⟩
      · refine ⟨rfl, ?_, ?_⟩
        · simp [Widget.perform, Widget.edit, scheduleSave, withText, keeps.saves]
        · have scheduled : (widget.perform engine (.edit text now)).widget.pendingSave.pending =
              some (now + debounce, serialized widget.name text) := by
            simp [Widget.perform, Widget.edit, scheduleSave, withText, keeps.saves,
              Debouncer.schedule, keeps.delay]
          have sameName : (widget.perform engine (.edit text now)).widget.name = widget.name := by
            simp [Widget.perform, Widget.edit, scheduleSave, withText, keeps.saves]
          rw [scheduled, sameName]
          cases lastEdit? burst <;> rfl
      · -- Whatever waits was due for the latest edit, so this poll comes too early for it.
        have early := isBurst.early [] now burst rfl
        rw [List.append_nil] at early
        have polled : widget.perform engine (.poll now) = { widget, reply := .polled false } := by
          rcases keeps.poll_cases now with ⟨⟨_, text, time, latest, isDue⟩, _⟩ | ⟨_, polled⟩
          · have := early text time latest
            omega
          · exact polled
        rw [polled]
        refine ⟨rfl, rfl, ?_⟩
        cases lastEdit? burst <;> rfl

/-- The first poll that comes when the last edit of a burst is due hands that edit out. -/
theorem Keeps.poll_after_burst (keeps : Keeps debounce history handed widget)
    {burst : List Operation} (isBurst : IsBurst debounce history burst) {text : String}
    {time now : Nat} (latest : lastEdit? burst = some (text, time))
    (isDue : time + debounce ≤ now) :
    let effect := (widget.after engine burst).perform engine (.poll now)
    effect.reply = .polled true ∧ effect.saved = [serialized widget.name text] ∧
      effect.widget.pendingSave.isPending = false := by
  have pending := (keeps.after_burst engine isBurst).2.2
  rw [latest, Option.map_some, Option.some_or] at pending
  have kept := keeps.after engine burst
  have latestOfAll : lastEdit? (history ++ burst) = some (text, time) := by
    rw [lastEdit?_append, latest, Option.some_or]
  dsimp only [Widget.perform]
  rcases kept.poll_cases now with ⟨_, polled⟩ | ⟨notDue, _⟩
  · rw [polled, (kept.waiting _ _ pending).1]
    exact ⟨rfl, rfl, rfl⟩
  · refine absurd ⟨?_, text, time, latestOfAll, isDue⟩ notDue
    rw [Debouncer.isPending, pending]
    rfl

/-! ### What a host can rely on -/

/-- What a host that saves texts can rely on behind a history. -/
structure SavesFaithfully (engine : Engine) (opened : Widget) (history : List Operation) :
    Prop where
  /-- Every text handed out is the stored form at that moment. -/
  handed_current : ∀ operation,
    ∀ text ∈ ((opened.after engine history).perform engine operation).saved,
      text = ((opened.after engine history).perform engine operation).widget.raw
  /-- A text that waits is the present stored form. -/
  waiting_current : ∀ due text,
    (opened.after engine history).pendingSave.pending = some (due, text) →
      text = (opened.after engine history).raw
  /-- After a change a text waits, or the last one handed out is the present stored form. -/
  change_kept : (∃ operation ∈ history, operation.isChange) →
    (opened.after engine history).pendingSave.isPending ∨
      (opened.savedDuring engine history).getLast? = some (opened.after engine history).raw
  /-- A choice of language hands out one text and leaves none waiting. -/
  language_saves : ∀ name,
    let effect := (opened.after engine history).perform engine (.setLanguage name)
    effect.saved = [effect.widget.raw] ∧ effect.widget.pendingSave.isPending = false
  /-- A poll hands out one text or none and says which: one if a text waits and the latest edit is
  at least the delay ago. -/
  poll_saves : ∀ now,
    let widget := opened.after engine history
    let effect := widget.perform engine (.poll now)
    ∃ due, effect.reply = .polled due ∧
      effect.saved = (if due then [widget.raw] else []) ∧
      (due = true ↔ widget.pendingSave.isPending = true ∧
        ∃ text time, lastEdit? history = some (text, time) ∧
          time + opened.settings.debounce ≤ now)
  /-- No other operation hands out anything. -/
  others_silent : ∀ operation,
    (∀ name, operation ≠ .setLanguage name) → (∀ now, operation ≠ .poll now) →
      ((opened.after engine history).perform engine operation).saved = []
  /-- There are at most as many texts handed out as changes. -/
  saved_le_changes :
    (opened.savedDuring engine history).length ≤ history.countP Operation.isChange
  /-- During a burst of edits nothing is handed out, and the first poll behind it that comes when
  its last edit is due hands out the text of that edit, once. -/
  burst_saves : ∀ burst, IsBurst opened.settings.debounce history burst →
    (opened.after engine history).savedDuring engine burst = [] ∧
    ∀ text time now, lastEdit? burst = some (text, time) →
      time + opened.settings.debounce ≤ now →
      let effect := (opened.after engine (history ++ burst)).perform engine (.poll now)
      effect.reply = .polled true ∧
        effect.saved = [serialized (opened.after engine history).name text] ∧
        effect.widget.pendingSave.isPending = false

/-- No text is lost, saved late or saved twice, whatever the host tells a widget. -/
theorem ofRaw_saves_faithfully (engine : Engine) (registry : Registry) (settings : Settings)
    (raw : String) (history : List Operation) :
    SavesFaithfully engine (ofRaw registry settings true raw) history := by
  have keeps := (keeps_ofRaw registry settings raw).after engine history
  rw [List.nil_append, List.nil_append] at keeps
  exact
    { handed_current := fun operation text member => keeps.eq_raw_of_mem_saved member
      waiting_current := fun due text waits => (keeps.waiting due text waits).1
      change_kept := keeps.current
      language_saves := fun name => ⟨saved_setLanguage keeps.saves name, rfl⟩
      poll_saves := keeps.poll_reply
      others_silent := fun operation noLanguage noPoll => saved_eq_nil noLanguage noPoll
      saved_le_changes := Nat.le_trans (Nat.le_add_right _ _) keeps.bounded
      burst_saves := by
        intro burst isBurst
        refine ⟨(keeps.after_burst engine isBurst).1, ?_⟩
        intro text time now latest isDue
        rw [after_append]
        exact keeps.poll_after_burst isBurst latest isDue }

end Widget

end FencedCode
