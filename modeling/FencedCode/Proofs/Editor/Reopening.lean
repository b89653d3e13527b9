import FencedCode.Proofs.Editor.View
import FencedCode.Proofs.Fence.RoundTrip
import Mathlib.Data.List.TakeWhile

/-!
# Opening a saved block again

A block is saved in its stored form, and a widget made from that form later has only what is written
there.  Of the alias these are the word characters at its front, since the stored form knows no
other aliases; of the text it is all but the white space around it, unless a line feed in the alias
has moved the text.  So a language is kept if its alias is a word.
-/

namespace FencedCode

namespace Widget

open Operation Fence

variable {engine : Engine} {registry : Registry} {raw : String} {history : List Operation}

/-! ### What is read again -/

theorem filterMap_eq_nil_of_no_change {α : Type} {part : Operation → Option α}
    (changes : ∀ operation : Operation, operation.isChange = false → part operation = none)
    (unchanged : ¬history.any isChange = true) : history.filterMap part = [] := by
  rw [List.filterMap_eq_nil_iff]
  intro operation member
  apply changes
  cases change : operation.isChange with
  | false => rfl
  | true => exact absurd (List.any_eq_true.mpr ⟨operation, member, change⟩) unchanged

/-- Without a change the alias and the text are still those that were read at the start. -/
theorem parse_eq_of_no_change (unchanged : ¬history.any isChange = true) :
    parse raw = { name := nameAfter raw history, body := textAfter raw history } := by
  have noName : history.filterMap name? = [] := by
    apply filterMap_eq_nil_of_no_change _ unchanged
    intro operation noChange
    cases operation with
    | edit | setLanguage => cases noChange
    | poll | scroll | run | clearOutput | copy => rfl
  have noEdit : history.filterMap edit? = [] := by
    apply filterMap_eq_nil_of_no_change _ unchanged
    intro operation noChange
    cases operation with
    | edit | setLanguage => cases noChange
    | poll | scroll | run | clearOutput | copy => rfl
  rw [nameAfter, textAfter, lastName?, lastEdit?, noName, noEdit]
  rfl

/-- Whether or not there was a change, the stored form reads as that of the latest alias and the
latest text. -/
theorem parse_rawAfter (raw : String) (history : List Operation) :
    parse (rawAfter raw history) =
      parse (serialize { name := nameAfter raw history, body := textAfter raw history }) := by
  rw [rawAfter]
  split
  · rfl
  · next unchanged => rw [← parse_eq_of_no_change unchanged, parse_serialize_parse]

theorem parse_raw_after (engine : Engine) (registry : Registry) (settings : Settings)
    (saves : Bool) (raw : String) (history : List Operation) :
    let widget := (ofRaw registry settings saves raw).after engine history
    parse widget.raw = parse (serialize { name := widget.name, body := widget.text }) := by
  intro widget
  have shows := (shows_ofRaw registry settings saves raw).after engine history
  have rawEq : widget.raw = rawAfter raw history := congrArg View.raw shows.view_eq
  have nameEq : widget.name = nameAfter raw history := shows.name
  have textEq : widget.text = textAfter raw history := shows.text
  rw [rawEq, nameEq, textEq, parse_rawAfter]

/-! ### Choices that are offered -/

/-- Each language that is chosen is one that the widget offers at that moment. -/
def ChoosesOffered (engine : Engine) (widget : Widget) : List Operation → Prop
  | [] => True
  | operation :: later =>
    (∀ name ∈ operation.name?, name ∈ widget.languageOptions.map (·.value)) ∧
      ChoosesOffered engine (widget.perform engine operation).widget later

/-- All characters of a name are word characters. -/
def IsWordName (name : String) : Prop := ∀ char ∈ name.toList, Text.isAsciiWord char

instance (name : String) : Decidable (IsWordName name) :=
  List.decidableBAll (fun char : Char => Text.isAsciiWord char) name.toList

theorem isWordName_of_offered {widget : Widget} {name : String}
    (words : ∀ language ∈ widget.registry.languages, IsWordName language.primaryAlias)
    (offered : name ∈ widget.languageOptions.map (·.value)) : IsWordName name := by
  simp only [languageOptions, List.map_cons, List.map_map, List.mem_cons, List.mem_map,
    Function.comp_apply] at offered
  rcases offered with rfl | ⟨language, member, rfl⟩
  · exact List.forall_mem_nil _
  · exact words language member

theorem name_perform (widget : Widget) (operation : Operation) :
    (widget.perform engine operation).widget.name = operation.name?.getD widget.name := by
  cases change : operation.isChange with
  | true =>
      cases operation with
      | edit text now => exact congrArg View.name (view_edit widget text now)
      | setLanguage name => rfl
      | poll | scroll | run | clearOutput | copy => cases change
  | false =>
      have same := congrArg View.name (@view_perform_of_no_change engine widget operation change)
      cases operation with
      | edit | setLanguage => cases change
      | poll | scroll | run | clearOutput | copy => exact same

/-- Where the aliases that are offered are words, so is the alias after any choices among them. -/
theorem isWordName_after {widget : Widget} {operations : List Operation}
    (words : ∀ language ∈ widget.registry.languages, IsWordName language.primaryAlias)
    (offered : ChoosesOffered engine widget operations) (word : IsWordName widget.name) :
    IsWordName (widget.after engine operations).name := by
  induction operations generalizing widget with
  | nil => exact word
  | cons operation later ih =>
      obtain ⟨here, offeredLater⟩ := offered
      apply ih _ offeredLater
      · rw [name_perform]
        cases chosen : operation.name? with
        | none => exact word
        | some name => exact isWordName_of_offered words (here name chosen)
      · rwa [(registry_settings_perform widget operation).1]

theorem isWordName_parse (raw : String) : IsWordName (parse raw).name :=
  (parse_serialize_eq_self_iff.mp (parse_serialize_parse raw)).1

/-! ### Opening what was saved -/

theorem name_parse_serialize_of_word {name : String} (word : IsWordName name) (body : String) :
    (parse (serialize { name, body })).name = name := by
  rw [← String.toList_inj, toList_name_parse_serialize, List.takeWhile_eq_self_iff]
  exact word

/-- A widget made from the stored form of another has the word characters at the front of its alias
and, unless the alias holds a line feed, its text without the white space around it.  It has the
same language if the alias is a word, so always if the aliases that are offered are words and no
others were chosen. -/
theorem reopened_keeps (engine : Engine) (registry : Registry) (settings otherSettings : Settings)
    (saves otherSaves : Bool) (raw : String) (history : List Operation) :
    let opened := ofRaw registry settings saves raw
    let widget := opened.after engine history
    let reopened := ofRaw registry otherSettings otherSaves widget.raw
    LongestRun Text.isAsciiWord widget.name.toList reopened.name.toList ∧
    ('\n' ∉ widget.name.toList → Text.Trimmed widget.text.toList reopened.text.toList) ∧
    (IsWordName widget.name →
      registry.resolve? reopened.name = registry.resolve? widget.name) ∧
    ((∀ language ∈ registry.languages, IsWordName language.primaryAlias) →
      ChoosesOffered engine opened history → IsWordName widget.name) := by
  intro opened widget reopened
  have read : parse widget.raw = parse (serialize { name := widget.name, body := widget.text }) :=
    parse_raw_after engine registry settings saves raw history
  have sameName : reopened.name =
      (parse (serialize { name := widget.name, body := widget.text })).name :=
    congrArg Fence.name read
  have sameText : reopened.text =
      (parse (serialize { name := widget.name, body := widget.text })).body :=
    congrArg Fence.body read
  refine ⟨?_, ?_, ?_, ?_⟩
  · rw [sameName, toList_name_parse_serialize]
    exact longestRun_takeWhile Text.isAsciiWord _
  · intro oneLine
    rw [sameText, body_parse_serialize oneLine, Text.toList_trimText]
    exact Text.trimmed_trim _
  · intro word
    rw [sameName, name_parse_serialize_of_word word]
  · intro words offered
    exact isWordName_after words offered (isWordName_parse raw)

/-- A block that is edited and then shown as Python. -/
theorem reopened_keeps_python :
    let engine : Engine := fun _ => {}
    let opened := ofRaw .builtin {} true "x"
    let history : List Operation := [.edit " y\n" 0, .setLanguage "py"]
    let widget := opened.after engine history
    let reopened := ofRaw .builtin {} true widget.raw
    '\n' ∉ widget.name.toList ∧ Text.Trimmed widget.text.toList reopened.text.toList ∧
      (∀ language ∈ Registry.builtin.languages, IsWordName language.primaryAlias) ∧
      ChoosesOffered engine opened history ∧ IsWordName widget.name ∧
      Registry.builtin.resolve? reopened.name = Registry.builtin.resolve? widget.name := by
  intro engine opened history widget reopened
  obtain ⟨_, text, language, word⟩ :=
    reopened_keeps engine .builtin {} {} true true "x" history
  have oneLine : '\n' ∉ widget.name.toList := by decide +kernel
  have words : ∀ language ∈ Registry.builtin.languages, IsWordName language.primaryAlias := by
    decide +kernel
  have offered : ChoosesOffered engine opened history := by
    refine ⟨?_, ?_, trivial⟩
    · intro name chosen
      cases chosen
    · intro name chosen
      cases chosen
      decide +kernel
  have isWord := word words offered
  exact ⟨oneLine, text oneLine, words, offered, isWord, language isWord⟩

/-- A language whose alias is no word is lost. -/
theorem reopened_loses_plusPlus :
    let engine : Engine := fun _ => {}
    let language : Language := { name := "C++", aliases := ["c++"] }
    let registry : Registry := { languages := [language], owners := Registry.claims [language] }
    let opened := ofRaw registry {} true "\x60\x60\x60c++\nx\n\x60\x60\x60"
    let widget := opened.after engine [.setLanguage "c++"]
    Registry.ofLanguages [language] = .ok registry ∧
      ChoosesOffered engine opened [.setLanguage "c++"] ∧
      registry.resolve? widget.name = some language ∧
      registry.resolve? (ofRaw registry {} true widget.raw).name = none := by
  intro engine language registry opened widget
  have offered : ChoosesOffered engine opened [.setLanguage "c++"] := by
    refine ⟨?_, trivial⟩
    intro name chosen
    cases chosen
    decide +kernel
  exact ⟨rfl, offered, by decide +kernel, by decide +kernel⟩

end Widget

end FencedCode
