import FencedCode.Proofs.Editor.History

/-!
# What a widget shows

The markup, the height, the run button and the stored form are kept beside the text and the language
from which they follow.  A change of the text renews some of them and a choice of language others,
and no other operation touches them.  Still they are never out of date: whatever came before, a
widget shows what the latest text and the latest language ask for.
-/

namespace FencedCode

namespace Widget

/-- What a widget shows, and the form in which it is stored. -/
structure View where
  name : String
  text : String
  overlay : String
  height : UInt32
  canRun : Bool
  raw : String
deriving DecidableEq, Repr

/-- What is to be shown of a text in a language. -/
def View.of (registry : Registry) (settings : Settings) (name text raw : String) : View where
  name := name
  text := text
  overlay := registry.highlight text name
  height := settings.initialHeight (text.toList.splitOn '\n').length
  canRun := registry.isRunnable name
  raw := raw

def view (widget : Widget) : View where
  name := widget.name
  text := widget.text
  overlay := widget.overlay
  height := widget.height
  canRun := widget.canRun
  raw := widget.raw

/-! ### The latest text and the latest language -/

namespace Operation

/-- The language that is chosen. -/
def name? : Operation → Option String
  | .setLanguage name => some name
  | _ => none

/-- The language that was chosen last. -/
def lastName? (history : List Operation) : Option String := (history.filterMap name?).getLast?

theorem lastName?_concat (history : List Operation) (operation : Operation) :
    lastName? (history ++ [operation]) = operation.name?.or (lastName? history) := by
  rw [lastName?, getLast?_filterMap_append, getLast?_filterMap_singleton]
  rfl

theorem lastEdit?_concat (history : List Operation) (operation : Operation) :
    lastEdit? (history ++ [operation]) = operation.edit?.or (lastEdit? history) := by
  rw [lastEdit?_append, lastEdit?, getLast?_filterMap_singleton]

/-- The latest language behind a history that began with a stored form. -/
def nameAfter (raw : String) (history : List Operation) : String :=
  (lastName? history).getD (Fence.parse raw).name

/-- The latest text behind a history that began with a stored form. -/
def textAfter (raw : String) (history : List Operation) : String :=
  ((lastEdit? history).map (·.1)).getD (Fence.parse raw).body

/-- The stored form behind a history.  It is written anew by changes only. -/
def rawAfter (raw : String) (history : List Operation) : String :=
  if history.any isChange then
    Fence.serialize { name := nameAfter raw history, body := textAfter raw history }
  else raw

variable (raw : String) (history : List Operation)

theorem nameAfter_concat (operation : Operation) :
    nameAfter raw (history ++ [operation]) = operation.name?.getD (nameAfter raw history) := by
  rw [nameAfter, lastName?_concat]
  cases operation.name? with
  | none => rw [Option.none_or, Option.getD_none, nameAfter]
  | some name => rw [Option.some_or, Option.getD_some, Option.getD_some]

theorem textAfter_concat (operation : Operation) :
    textAfter raw (history ++ [operation]) =
      (operation.edit?.map (·.1)).getD (textAfter raw history) := by
  rw [textAfter, lastEdit?_concat]
  cases operation.edit? with
  | none => rw [Option.none_or, Option.map_none, Option.getD_none, textAfter]
  | some edit => rw [Option.some_or, Option.map_some, Option.getD_some, Option.getD_some]

/-- A change writes the stored form anew. -/
theorem rawAfter_concat_of_change {operation : Operation} (change : operation.isChange = true) :
    rawAfter raw (history ++ [operation]) =
      Fence.serialize
        { name := nameAfter raw (history ++ [operation])
          body := textAfter raw (history ++ [operation]) } := by
  have changed : (history ++ [operation]).any isChange = true := by
    rw [List.any_append, List.any_cons, change, Bool.true_or, Bool.or_true]
  rw [rawAfter, if_pos changed]

/-- What is no change leaves the text, the language and the stored form behind. -/
theorem after_concat_of_no_change {operation : Operation} (noChange : operation.isChange = false) :
    nameAfter raw (history ++ [operation]) = nameAfter raw history ∧
      textAfter raw (history ++ [operation]) = textAfter raw history ∧
      rawAfter raw (history ++ [operation]) = rawAfter raw history := by
  have sameName : nameAfter raw (history ++ [operation]) = nameAfter raw history := by
    rw [nameAfter_concat]
    cases operation with
    | edit | setLanguage => cases noChange
    | poll | scroll | run | clearOutput | copy => rfl
  have sameText : textAfter raw (history ++ [operation]) = textAfter raw history := by
    rw [textAfter_concat]
    cases operation with
    | edit | setLanguage => cases noChange
    | poll | scroll | run | clearOutput | copy => rfl
  have sameChanges : (history ++ [operation]).any isChange = history.any isChange := by
    rw [List.any_append, List.any_cons, noChange, List.any_nil, Bool.or_false, Bool.or_false]
  exact ⟨sameName, sameText, by rw [rawAfter, rawAfter, sameName, sameText, sameChanges]⟩

end Operation

open Operation

variable {engine : Engine} {registry : Registry} {settings : Settings} {raw : String}
variable {history : List Operation} {widget : Widget}

/-! ### What an operation renews -/

theorem length_splitOn_eq_count (separator : Char) (chars : List Char) :
    (chars.splitOn separator).length = chars.count separator + 1 := by
  induction chars with
  | nil => rfl
  | cons char chars ih =>
      rw [List.splitOn_cons_eq_if_modifyHead, List.count_cons]
      split
      · rw [List.length_cons, ih]
      · rw [List.length_modifyHead, ih, Nat.add_zero]

theorem view_ofRaw (registry : Registry) (settings : Settings) (saves : Bool) (raw : String) :
    (ofRaw registry settings saves raw).view =
      .of registry settings (Fence.parse raw).name (Fence.parse raw).body raw := by
  rw [View.of, length_splitOn_eq_count]
  rfl

/-- An edit renews all but the run button. -/
theorem view_edit (widget : Widget) (text : String) (now : Nat) :
    (widget.edit text now).widget.view =
      { View.of widget.registry widget.settings widget.name text
          (Fence.serialize { name := widget.name, body := text }) with
        canRun := widget.canRun } := by
  rw [View.of, length_splitOn_eq_count, edit, scheduleSave]
  split <;> rfl

/-- A choice of language renews all but the height. -/
theorem view_setLanguage (widget : Widget) (name : String) :
    (widget.setLanguage name).widget.view =
      { View.of widget.registry widget.settings name widget.text
          (Fence.serialize { name, body := widget.text }) with height := widget.height } := rfl

/-- No other operation renews anything. -/
theorem view_perform_of_no_change (widget : Widget) {operation : Operation}
    (noChange : operation.isChange = false) :
    (widget.perform engine operation).widget.view = widget.view := by
  cases operation with
  | edit | setLanguage => cases noChange
  | poll now =>
      rw [perform, poll]
      split <;> rfl
  | run =>
      rw [perform, run]
      split <;> rfl
  | scroll | clearOutput | copy => rfl

/-- No operation replaces the languages or the settings. -/
theorem registry_settings_perform (widget : Widget) (operation : Operation) :
    (widget.perform engine operation).widget.registry = widget.registry ∧
      (widget.perform engine operation).widget.settings = widget.settings := by
  cases operation with
  | edit text now =>
      rw [perform, edit, scheduleSave]
      split <;> exact ⟨rfl, rfl⟩
  | poll now =>
      rw [perform, poll]
      split <;> exact ⟨rfl, rfl⟩
  | run =>
      rw [perform, run]
      split <;> exact ⟨rfl, rfl⟩
  | setLanguage | scroll | clearOutput | copy => exact ⟨rfl, rfl⟩

/-! ### The invariant -/

/-- A widget shows its latest text in its latest language. -/
structure Shows (registry : Registry) (settings : Settings) (raw : String)
    (history : List Operation) (widget : Widget) : Prop where
  registry_eq : widget.registry = registry
  settings_eq : widget.settings = settings
  view_eq : widget.view =
    .of registry settings (nameAfter raw history) (textAfter raw history) (rawAfter raw history)

theorem shows_ofRaw (registry : Registry) (settings : Settings) (saves : Bool) (raw : String) :
    Shows registry settings raw [] (ofRaw registry settings saves raw) where
  registry_eq := rfl
  settings_eq := rfl
  view_eq := view_ofRaw registry settings saves raw

namespace Shows

variable (shows : Shows registry settings raw history widget)
include shows

theorem name : widget.name = nameAfter raw history := congrArg View.name shows.view_eq

theorem text : widget.text = textAfter raw history := congrArg View.text shows.view_eq

theorem canRun : widget.canRun = registry.isRunnable (nameAfter raw history) :=
  congrArg View.canRun shows.view_eq

/-- The button is up to date, although an edit does not look at it. -/
theorem view_edit (text : String) (now : Nat) :
    (widget.edit text now).widget.view =
      .of registry settings (nameAfter raw (history ++ [.edit text now]))
        (textAfter raw (history ++ [.edit text now]))
        (rawAfter raw (history ++ [.edit text now])) := by
  have canRun : widget.canRun = registry.isRunnable (nameAfter raw history) :=
    congrArg View.canRun shows.view_eq
  rw [Widget.view_edit, rawAfter_concat_of_change _ _ rfl, nameAfter_concat, textAfter_concat,
    shows.registry_eq, shows.settings_eq, shows.name, canRun]
  rfl

/-- The height is up to date, although a choice of language does not look at it. -/
theorem view_setLanguage (name : String) :
    (widget.setLanguage name).widget.view =
      .of registry settings (nameAfter raw (history ++ [.setLanguage name]))
        (textAfter raw (history ++ [.setLanguage name]))
        (rawAfter raw (history ++ [.setLanguage name])) := by
  have height : widget.height =
      settings.initialHeight ((textAfter raw history).toList.splitOn '\n').length :=
    congrArg View.height shows.view_eq
  rw [Widget.view_setLanguage, rawAfter_concat_of_change _ _ rfl, nameAfter_concat,
    textAfter_concat, shows.registry_eq, shows.settings_eq, shows.text, height]
  rfl

/-- Each operation keeps the invariant. -/
theorem perform (engine : Engine) (operation : Operation) :
    Shows registry settings raw (history ++ [operation])
      (widget.perform engine operation).widget where
  registry_eq := (registry_settings_perform widget operation).1.trans shows.registry_eq
  settings_eq := (registry_settings_perform widget operation).2.trans shows.settings_eq
  view_eq := by
    cases change : operation.isChange with
    | true =>
        cases operation with
        | edit text now => exact shows.view_edit text now
        | setLanguage name => exact shows.view_setLanguage name
        | poll | scroll | run | clearOutput | copy => cases change
    | false =>
        obtain ⟨sameName, sameText, sameRaw⟩ := after_concat_of_no_change raw history change
        rw [view_perform_of_no_change widget change, shows.view_eq, sameName, sameText, sameRaw]

/-- Any number of operations keep the invariant. -/
theorem after (engine : Engine) (operations : List Operation) :
    Shows registry settings raw (history ++ operations) (widget.after engine operations) := by
  induction operations generalizing history widget with
  | nil =>
      rw [List.append_nil]
      exact shows
  | cons operation later ih =>
      have kept := ih (shows.perform engine operation)
      rwa [List.append_assoc, List.singleton_append] at kept

end Shows

/-! ### What a host can rely on -/

/-- What the host of a widget sees behind a history that began with a stored form. -/
structure ShowsLatest (engine : Engine) (registry : Registry) (settings : Settings) (saves : Bool)
    (raw : String) (history : List Operation) : Prop where
  /-- The latest text is shown in the latest language.  The stored form is that of both once there
  was a change, and until then the one at the start. -/
  shows_latest :
    ((ofRaw registry settings saves raw).after engine history).view =
      .of registry settings (nameAfter raw history) (textAfter raw history)
        (rawAfter raw history)
  /-- An operation that is neither an edit nor a choice of language changes nothing of it.  To ask
  for the label of the copy button or for the choice of languages is no operation at all. -/
  others_change_nothing : ∀ operation : Operation, operation.isChange = false →
    (((ofRaw registry settings saves raw).after engine history).perform engine
        operation).widget.view =
      ((ofRaw registry settings saves raw).after engine history).view
  /-- Two histories with a change that end with the same text in the same language, whatever they
  began with, cannot be told apart. -/
  agrees : ∀ (otherEngine : Engine) (otherSaves : Bool) (otherRaw : String)
    (otherHistory : List Operation),
    nameAfter raw history = nameAfter otherRaw otherHistory →
    textAfter raw history = textAfter otherRaw otherHistory →
    history.any isChange → otherHistory.any isChange →
      ((ofRaw registry settings saves raw).after engine history).view =
        ((ofRaw registry settings otherSaves otherRaw).after otherEngine otherHistory).view

/-- A widget always shows its latest text in its latest language, and nothing else of its past. -/
theorem ofRaw_shows_latest (engine : Engine) (registry : Registry) (settings : Settings)
    (saves : Bool) (raw : String) (history : List Operation) :
    ShowsLatest engine registry settings saves raw history := by
  have latest := fun engine saves raw history =>
    ((shows_ofRaw registry settings saves raw).after engine history).view_eq
  simp only [List.nil_append] at latest
  refine ⟨latest engine saves raw history, ?_, ?_⟩
  · intro operation noChange
    exact view_perform_of_no_change _ noChange
  · intro otherEngine otherSaves otherRaw otherHistory sameName sameText changed otherChanged
    rw [latest, latest, rawAfter, rawAfter, if_pos changed, if_pos otherChanged, sameName, sameText]

end Widget

end FencedCode
