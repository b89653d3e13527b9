import FencedCode.Editor.Clipboard
import FencedCode.Editor.Debounce
import FencedCode.Execution.Run
import FencedCode.Fence
import FencedCode.Settings

/-!
# Editor widgets

A widget is one block in an editor: its text with the markup shown behind it, the choice of its
language, the button that runs it and the panel with what the run has written.  The host shows the
widget, tells it what the user does and at what time, and is handed the texts that are to be saved.

An edit is saved once no other has come for a while; a choice of language is saved at once, and with it
everything that still waited.
-/

namespace FencedCode

/-- The panel with the output of a run. -/
structure OutputPanel where
  /-- Whether the panel is shown. -/
  isVisible : Bool := false
  /-- What the run has written; it is kept while the panel is hidden. -/
  entries : List LogEntry := []
deriving DecidableEq, Repr

/-- How far the text is scrolled. -/
structure ScrollOffset where
  top : Nat := 0
  left : Nat := 0
deriving DecidableEq, Repr

/-- A line of the choice of languages. -/
structure LanguageOption where
  /-- The alias that the choice stands for. -/
  value : String
  label : String
  /-- Whether it is the present choice. -/
  isSelected : Bool
deriving DecidableEq, Repr

/-- A block in an editor. -/
structure Widget where
  registry : Registry
  settings : Settings
  /-- The stored form of the block. -/
  raw : String
  /-- The alias of the language, as it was chosen. -/
  name : String
  text : String
  /-- The markup shown behind the text. -/
  overlay : String
  /-- How far the text is scrolled. -/
  scroll : ScrollOffset := {}
  height : UInt32
  /-- Whether there is a button that runs the block. -/
  canRun : Bool
  /-- The panel with the output. -/
  output : OutputPanel := {}
  /-- Whether the host saves texts. -/
  saves : Bool
  /-- The text that waits to be saved. -/
  pendingSave : Debouncer String
  /-- What the copy button says. -/
  copyFeedback : CopyFeedback

namespace Widget

/-! ### Making and changing a widget -/

/-- The number of lines of a text. -/
def lineCount (text : String) : Nat := text.toList.count '\n' + 1

/-- A widget for the stored form of a block. -/
def ofRaw (registry : Registry) (settings : Settings) (saves : Bool) (raw : String) : Widget :=
  let fence := Fence.parse raw
  { registry, settings, raw, saves
    name := fence.name
    text := fence.body
    overlay := registry.highlight fence.body fence.name
    height := settings.initialHeight (lineCount fence.body)
    canRun := registry.isRunnable fence.name
    pendingSave := { delay := settings.debounce }
    copyFeedback := { duration := settings.copiedFeedback } }

/-- The stored form of the present text. -/
def serialized (name text : String) : String := Fence.serialize { name, body := text }

/-- Lets the stored form wait to be saved, if the host saves texts. -/
def scheduleSave (widget : Widget) (now : Nat) : Widget :=
  if widget.saves then
    { widget with pendingSave := widget.pendingSave.schedule widget.raw now }
  else widget

/-- The widget with another text. -/
def withText (widget : Widget) (text : String) : Widget :=
  { widget with
    text
    overlay := widget.registry.highlight text widget.name
    height := widget.settings.initialHeight (lineCount text)
    raw := serialized widget.name text }

/-- The widget with another language.  A panel that nothing can fill any more is hidden. -/
def withLanguage (widget : Widget) (name : String) : Widget :=
  let canRun := widget.registry.isRunnable name
  { widget with
    name
    overlay := widget.registry.highlight widget.text name
    raw := serialized name widget.text
    canRun
    output := if canRun then widget.output else { widget.output with isVisible := false } }

/-- What a button for a copy says at a time. -/
def copyLabel (widget : Widget) (now : Nat) : String := widget.copyFeedback.label now

/-- The choice of languages, headed by the one for text without a language. -/
def languageOptions (widget : Widget) : List LanguageOption :=
  let plain : LanguageOption :=
    { value := "", label := "Plain Text"
      isSelected := (widget.registry.resolve? widget.name).isNone }
  plain :: widget.registry.languages.map fun language =>
    { value := language.primaryAlias, label := language.name
      isSelected := language.hasAlias widget.name }

/-- The output as lines, each with its class. -/
def outputLines (widget : Widget) : List (String × String) :=
  widget.output.entries.map fun entry => (entry.level.name, entry.display)

/-! ### Operations -/

/-- What the host tells a widget. -/
inductive Operation where
  /-- The user has changed the text. -/
  | edit (text : String) (now : Nat)
  | poll (now : Nat)
  /-- The user has scrolled the text. -/
  | scroll (top left : Nat)
  /-- The user has chosen a language. -/
  | setLanguage (name : String)
  /-- The user runs the block. -/
  | run
  /-- The user closes the panel with the output. -/
  | clearOutput
  /-- The user copies the text, which the clipboard takes or refuses. -/
  | copy (accepted : Bool) (now : Nat)
deriving Repr

/-- What an operation tells the host. -/
inductive Reply where
  | done
  /-- Whether a text was due to be saved. -/
  | polled (due : Bool)
  /-- What the run has written. -/
  | ran (entries : List LogEntry)
  /-- The text that the clipboard has taken, if it has taken it. -/
  | copied (text : Option String)
deriving Repr

structure Effect where
  widget : Widget
  /-- What it tells the host. -/
  reply : Reply := .done
  /-- The texts handed to the host to be saved, in order. -/
  saved : List String := []

/-- The texts handed to a host that saves them. -/
def handed (widget : Widget) (texts : List String) : List String :=
  if widget.saves then texts else []

def edit (widget : Widget) (text : String) (now : Nat) : Effect :=
  { widget := (widget.withText text).scheduleSave now }

/-- Hands out the text that waits to be saved if it is due. -/
def poll (widget : Widget) (now : Nat) : Effect :=
  match widget.pendingSave.poll now with
  | (some raw, pendingSave) =>
    { widget := { widget with pendingSave }, reply := .polled true, saved := widget.handed [raw] }
  | (none, _) => { widget, reply := .polled false }

/-- Chooses a language and saves at once. -/
def setLanguage (widget : Widget) (name : String) : Effect :=
  let widget := widget.withLanguage name
  { widget := { widget with pendingSave := widget.pendingSave.cancel.2 }
    saved := widget.handed [widget.raw] }

/-- Runs the block and shows what it writes, if its language can be run. -/
def run (engine : Engine) (widget : Widget) : Effect :=
  if widget.canRun then
    let entries := widget.registry.executeWith engine widget.text widget.name
    { widget := { widget with output := { isVisible := true, entries } }, reply := .ran entries }
  else { widget, reply := .ran [] }

def perform (engine : Engine) (widget : Widget) : Operation → Effect
  | .edit text now => widget.edit text now
  | .poll now => widget.poll now
  | .scroll top left => { widget := { widget with scroll := { top, left } } }
  | .setLanguage name => widget.setLanguage name
  | .run => widget.run engine
  | .clearOutput => { widget := { widget with output := {} } }
  | .copy accepted now =>
    { widget := { widget with copyFeedback := widget.copyFeedback.note accepted now }
      reply := .copied (if accepted then some widget.text else none) }

end Widget

end FencedCode
