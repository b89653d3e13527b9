import FencedCode.Proofs.Editor.View
import FencedCode.Proofs.Execution.Outcome

/-!
# The panel with the output

A run fills the panel and shows it.  The panel is hidden in two ways: closing it discards what the
run has written, while the choice of a language that cannot be run keeps it.  So whether the panel
is shown and what it holds depend on different operations since the last run, whatever came before.
-/

namespace FencedCode

namespace Widget

namespace Operation

variable (registry : Registry) (raw : String)

/-! ### Operations since a run -/

/-- Behind `earlier` a language was run that could be run, and each operation since then spares what
the run has left, given the history before the operation. -/
def RanSince (spares : List Operation → Operation → Prop) (history earlier : List Operation) :
    Prop :=
  ∃ later, history = earlier ++ .run :: later ∧ registry.isRunnable (nameAfter raw earlier) ∧
    ∀ before operation behind, later = before ++ operation :: behind →
      spares (earlier ++ .run :: before) operation

/-- The operation does not hide the panel: it neither closes it nor chooses a language that cannot
be run. -/
def LeavesShown (_ : List Operation) (operation : Operation) : Prop :=
  operation ≠ .clearOutput ∧ ∀ name, operation = .setLanguage name → registry.isRunnable name

/-- The operation does not touch what is in the panel: it neither closes it nor runs a language that
can be run. -/
def LeavesEntries (before : List Operation) (operation : Operation) : Prop :=
  operation ≠ .clearOutput ∧ (operation = .run → ¬registry.isRunnable (nameAfter raw before))

variable {registry raw} {spares : List Operation → Operation → Prop}
variable {history earlier : List Operation} {operation : Operation}

theorem not_ranSince_nil : ¬RanSince registry raw spares [] earlier := by
  rintro ⟨later, split, _⟩
  exact List.append_ne_nil_of_right_ne_nil earlier (List.cons_ne_nil _ _) split.symm

/-- The last operation was the run, or it spares what an earlier run has left. -/
theorem ranSince_concat_iff :
    RanSince registry raw spares (history ++ [operation]) earlier ↔
      (operation = .run ∧ registry.isRunnable (nameAfter raw history) ∧ earlier = history) ∨
        (RanSince registry raw spares history earlier ∧ spares history operation) := by
  constructor
  · rintro ⟨later, split, runnable, spared⟩
    rcases List.eq_nil_or_concat later with rfl | ⟨between, last, rfl⟩
    · obtain ⟨rfl, same⟩ := List.append_inj' split rfl
      cases same
      exact .inl ⟨rfl, runnable, rfl⟩
    · rw [List.concat_eq_append, ← List.cons_append, ← List.append_assoc] at split
      obtain ⟨rfl, same⟩ := List.append_inj' split rfl
      cases same
      refine .inr ⟨⟨between, rfl, runnable, ?_⟩, spared between operation [] (by simp)⟩
      rintro before other behind rfl
      exact spared before other (behind ++ [operation]) (by simp)
  · rintro (⟨rfl, runnable, rfl⟩ | ⟨⟨later, rfl, runnable, spared⟩, last⟩)
    · refine ⟨[], rfl, runnable, ?_⟩
      intro before other behind split
      cases List.append_ne_nil_of_right_ne_nil before (List.cons_ne_nil _ _) split.symm
    · refine ⟨later ++ [operation], by simp, runnable, ?_⟩
      intro before other behind split
      rcases List.eq_nil_or_concat behind with rfl | ⟨between, final, rfl⟩
      · obtain ⟨rfl, same⟩ := List.append_inj' split rfl
        cases same
        exact last
      · rw [List.concat_eq_append, ← List.cons_append, ← List.append_assoc] at split
        obtain ⟨rfl, _⟩ := List.append_inj' split rfl
        exact spared before other between rfl

end Operation

open Operation

variable {engine : Engine} {registry : Registry} {settings : Settings} {raw : String}
variable {history : List Operation} {widget : Widget}

/-! ### What an operation does to the panel -/

/-- Only a run, closing the panel and the choice of a language act on the panel. -/
theorem output_perform (engine : Engine) (widget : Widget) (operation : Operation) :
    (widget.perform engine operation).widget.output =
      match operation with
      | .run =>
        if widget.canRun then
          { isVisible := true
            entries := widget.registry.executeWith engine widget.text widget.name }
        else widget.output
      | .clearOutput => {}
      | .setLanguage name =>
        if widget.registry.isRunnable name then widget.output
        else { widget.output with isVisible := false }
      | _ => widget.output := by
  cases operation with
  | edit text now =>
      rw [perform, edit, scheduleSave]
      split <;> rfl
  | poll now =>
      rw [perform, poll]
      split <;> rfl
  | run =>
      rw [perform, run]
      split <;> rfl
  | setLanguage | scroll | clearOutput | copy => rfl

/-- The button follows the choice of a language and nothing else. -/
theorem canRun_perform (engine : Engine) (widget : Widget) (operation : Operation) :
    (widget.perform engine operation).widget.canRun =
      (operation.name?.map widget.registry.isRunnable).getD widget.canRun := by
  have kept : operation.isChange = false →
      (widget.perform engine operation).widget.canRun = widget.canRun :=
    fun noChange => congrArg View.canRun (view_perform_of_no_change widget noChange)
  cases operation with
  | setLanguage name => rfl
  | edit text now => exact congrArg View.canRun (view_edit widget text now)
  | poll | scroll | run | clearOutput | copy => exact kept rfl

/-- The panel is shown by a run, or it was shown and is left so. -/
theorem isVisible_perform_iff (history : List Operation) {operation : Operation} :
    (widget.perform engine operation).widget.output.isVisible = true ↔
      (operation = .run ∧ widget.canRun = true) ∨
        (widget.output.isVisible = true ∧ LeavesShown widget.registry history operation) := by
  rw [output_perform, LeavesShown]
  cases operation with
  | run => by_cases runnable : widget.canRun <;> simp [runnable]
  | setLanguage name => by_cases runnable : widget.registry.isRunnable name <;> simp [runnable]
  | edit | poll | scroll | clearOutput | copy => simp

theorem entries_perform_run (runnable : widget.canRun = true) :
    (widget.perform engine .run).widget.output.entries =
      widget.registry.executeWith engine widget.text widget.name := by
  rw [output_perform]
  simp only [runnable, if_true]

/-- A run of a language that cannot be run does nothing at all. -/
theorem perform_run_of_not_canRun (notRunnable : widget.canRun = false) :
    widget.perform engine .run = { widget, reply := .ran [] } := by
  rw [perform, run, notRunnable]
  rfl

theorem entries_perform_of_ne {operation : Operation} (notClosed : operation ≠ .clearOutput)
    (noRun : operation = .run → widget.canRun = false) :
    (widget.perform engine operation).widget.output.entries = widget.output.entries := by
  rw [output_perform]
  cases operation with
  | run => simp only [noRun rfl, Bool.false_eq_true, if_false]
  | setLanguage name =>
      dsimp only
      split <;> rfl
  | clearOutput => exact absurd rfl notClosed
  | edit | poll | scroll | copy => rfl

/-! ### The invariants -/

/-- A panel that is shown belongs to a language that can be run and holds something. -/
structure ShowsOutput (widget : Widget) : Prop where
  canRun : widget.output.isVisible = true → widget.canRun = true
  filled : widget.output.isVisible = true → widget.output.entries ≠ []

/-- How the panel of a widget relates to a history that began with a stored form. -/
structure PanelFollows (engine : Engine) (registry : Registry) (raw : String)
    (history : List Operation) (panel : OutputPanel) : Prop where
  /-- The panel is shown exactly if a run has shown it and nothing since then has hidden it. -/
  isVisible_iff : panel.isVisible = true ↔
    ∃ earlier, RanSince registry raw (LeavesShown registry) history earlier
  /-- The panel holds what the last run has written, if it was not closed since then. -/
  entries_of_ranSince : ∀ earlier,
    RanSince registry raw (LeavesEntries registry raw) history earlier →
      panel.entries =
        registry.executeWith engine (textAfter raw earlier) (nameAfter raw earlier)
  /-- Otherwise it holds nothing. -/
  entries_of_not_ranSince :
    (∀ earlier, ¬RanSince registry raw (LeavesEntries registry raw) history earlier) →
      panel.entries = []

namespace ShowsOutput

theorem perform (shows : ShowsOutput widget) (engine : Engine) (operation : Operation) :
    ShowsOutput (widget.perform engine operation).widget where
  canRun := by
    intro visible
    rw [canRun_perform]
    rcases (isVisible_perform_iff []).mp visible with ⟨rfl, runnable⟩ | ⟨wasVisible, leaves⟩
    · exact runnable
    · cases operation with
      | setLanguage name => exact leaves.2 name rfl
      | edit | poll | scroll | run | clearOutput | copy => exact shows.canRun wasVisible
  filled := by
    intro visible
    by_cases isRun : operation = .run
    · subst isRun
      have runnable : widget.canRun = true := by
        rcases (isVisible_perform_iff []).mp visible with ⟨_, runnable⟩ | ⟨wasVisible, _⟩
        · exact runnable
        · exact shows.canRun wasVisible
      rw [entries_perform_run runnable]
      exact Registry.executeWith_ne_nil engine widget.registry widget.text widget.name
    · obtain ⟨wasVisible, leaves⟩ :=
        ((isVisible_perform_iff []).mp visible).resolve_left fun ran => isRun ran.1
      rw [entries_perform_of_ne leaves.1 fun ran => absurd ran isRun]
      exact shows.filled wasVisible

theorem after (shows : ShowsOutput widget) (engine : Engine) (operations : List Operation) :
    ShowsOutput (widget.after engine operations) := by
  induction operations generalizing widget with
  | nil => exact shows
  | cons operation later ih => exact ih (shows.perform engine operation)

end ShowsOutput

theorem panelFollows_ofRaw (engine : Engine) (registry : Registry) (settings : Settings)
    (saves : Bool) (raw : String) :
    PanelFollows engine registry raw [] (ofRaw registry settings saves raw).output where
  isVisible_iff := by
    constructor
    · intro visible
      cases visible
    · rintro ⟨earlier, ran⟩
      exact absurd ran not_ranSince_nil
  entries_of_ranSince earlier ran := absurd ran not_ranSince_nil
  entries_of_not_ranSince _ := rfl

namespace PanelFollows

/-- Each operation keeps the relation. -/
theorem perform (follows : PanelFollows engine registry raw history widget.output)
    (shows : Shows registry settings raw history widget) (operation : Operation) :
    PanelFollows engine registry raw (history ++ [operation])
      (widget.perform engine operation).widget.output where
  isVisible_iff := by
    rw [isVisible_perform_iff history, follows.isVisible_iff, shows.registry_eq, shows.canRun]
    simp only [ranSince_concat_iff, exists_or, exists_and_left, exists_and_right, exists_eq,
      and_true]
  entries_of_ranSince := by
    intro earlier ran
    rcases ranSince_concat_iff.mp ran with ⟨rfl, runnable, rfl⟩ | ⟨ranBefore, leaves⟩
    · rw [entries_perform_run (shows.canRun.trans runnable), shows.registry_eq, shows.text,
        shows.name]
    · rw [entries_perform_of_ne leaves.1, follows.entries_of_ranSince earlier ranBefore]
      intro isRun
      rw [shows.canRun]
      exact Bool.eq_false_iff.mpr (leaves.2 isRun)
  entries_of_not_ranSince := by
    intro never
    have noRun : operation = .run → ¬registry.isRunnable (nameAfter raw history) := by
      intro isRun runnable
      exact never history (ranSince_concat_iff.mpr (.inl ⟨isRun, runnable, rfl⟩))
    by_cases closed : operation = .clearOutput
    · rw [closed]
      rfl
    · rw [entries_perform_of_ne closed]
      · apply follows.entries_of_not_ranSince
        intro earlier ranBefore
        exact never earlier (ranSince_concat_iff.mpr (.inr ⟨ranBefore, closed, noRun⟩))
      · intro isRun
        rw [shows.canRun]
        exact Bool.eq_false_iff.mpr (noRun isRun)

/-- Any number of operations keep the relation. -/
theorem after (follows : PanelFollows engine registry raw history widget.output)
    (shows : Shows registry settings raw history widget) (operations : List Operation) :
    PanelFollows engine registry raw (history ++ operations)
      (widget.after engine operations).output := by
  induction operations generalizing history widget with
  | nil =>
      rw [List.append_nil]
      exact follows
  | cons operation later ih =>
      have kept := ih (follows.perform shows operation) (shows.perform engine operation)
      rwa [List.append_assoc, List.singleton_append] at kept

end PanelFollows

/-! ### What a host can rely on -/

/-- What the host of a widget can rely on about the panel behind a history that began with a stored
form. -/
structure PanelIsReliable (engine : Engine) (registry : Registry) (settings : Settings)
    (saves : Bool) (raw : String) (history : List Operation) : Prop where
  /-- Whether the panel is shown, and what it holds, follows from the history. -/
  follows : PanelFollows engine registry raw history
    ((ofRaw registry settings saves raw).after engine history).output
  /-- Edits and choices of a language, among others, do not change what the panel holds. -/
  others_keep : ∀ operation : Operation, operation ≠ .run → operation ≠ .clearOutput →
    (((ofRaw registry settings saves raw).after engine history).perform engine
        operation).widget.output.entries =
      ((ofRaw registry settings saves raw).after engine history).output.entries
  /-- A run of a language that cannot be run returns nothing, saves nothing and changes nothing. -/
  refused : ¬registry.isRunnable (nameAfter raw history) →
    ((ofRaw registry settings saves raw).after engine history).perform engine .run =
      { widget := (ofRaw registry settings saves raw).after engine history
        reply := .ran []
        saved := [] }
  /-- A panel that is shown has a run button beside it and is not empty. -/
  shown : ((ofRaw registry settings saves raw).after engine history).output.isVisible = true →
    ((ofRaw registry settings saves raw).after engine history).canRun = true ∧
      ((ofRaw registry settings saves raw).after engine history).output.entries ≠ []

/-- The panel is shown from a run on until it is closed or a language is chosen that cannot be run,
and it holds what the last run has written until it is closed. -/
theorem ofRaw_panel_is_reliable (engine : Engine) (registry : Registry) (settings : Settings)
    (saves : Bool) (raw : String) (history : List Operation) :
    PanelIsReliable engine registry settings saves raw history := by
  have start := shows_ofRaw registry settings saves raw
  have shows := start.after engine history
  have follows := (panelFollows_ofRaw engine registry settings saves raw).after start history
  rw [List.nil_append] at shows follows
  have startEmpty : ShowsOutput (ofRaw registry settings saves raw) := ⟨nofun, nofun⟩
  have output := startEmpty.after engine history
  refine ⟨follows, ?_, ?_, fun visible => ⟨output.canRun visible, output.filled visible⟩⟩
  · intro operation noRun notClosed
    exact entries_perform_of_ne notClosed fun isRun => absurd isRun noRun
  · intro notRunnable
    apply perform_run_of_not_canRun
    rw [shows.canRun]
    exact Bool.eq_false_iff.mpr notRunnable

end Widget

end FencedCode
