import FencedCode.Text.LetterCase
import FencedCode.Text.Trim

/-!
# Settings

What a user can set in a file of lines of the form `key = value`.  Blank lines, lines that start
with `#` and lines without an equals sign say nothing.  Of several lines for one key the last one
counts, and a value that is no number leaves the key at its default.
-/

namespace FencedCode

open Text

structure Settings where
  /-- How long, in milliseconds, the text must rest before it is saved. -/
  debounce : Nat := 500
  /-- How long, in milliseconds, the copy button says that it has copied. -/
  copiedFeedback : Nat := 2000
  /-- The least height of an editor in pixels. -/
  minHeight : UInt32 := 80
  /-- The height of a line in pixels. -/
  lineHeight : UInt32 := 21
  /-- The pixels added to the height of the lines. -/
  heightPadding : UInt32 := 24
  /-- A file with further languages. -/
  languagesFile : Option String := none
deriving DecidableEq, Repr

namespace Settings

/-- The value of a numeral: decimal digits with an optional plus sign, below a bound. -/
def numeral? (bound : Nat) (text : String) : Option Nat :=
  let digits := match text.toList with
    | '+' :: digits => digits
    | digits => digits
  if digits.isEmpty || !digits.all Char.isDigit then none
  else
    let value := digits.foldl (fun value digit => value * 10 + (digit.toNat - '0'.toNat)) 0
    if value < bound then some value else none

/-- The key and the value of a line, if it has them. -/
def entryOf? (line : List Char) : Option (String × String) :=
  let line := trim line
  match line with
  | [] => none
  | '#' :: _ => none
  | _ =>
    match line.dropWhile (· != '=') with
    | [] => none
    | _ :: value =>
      some (lower (.ofList (trim (line.takeWhile (· != '=')))), .ofList (trim value))

/-- The lines of a file, without their line feeds. -/
def linesOf : List Char → List (List Char)
  | [] => [[]]
  | char :: rest =>
    match linesOf rest with
    | line :: lines => if char = '\n' then [] :: line :: lines else (char :: line) :: lines
    | [] => []

/-- The entries of a file, in order. -/
def entriesOf (content : String) : List (String × String) :=
  (linesOf content.toList).filterMap entryOf?

/-- The value of a key: the one of its last entry. -/
def value? (entries : List (String × String)) (key : String) : Option String :=
  (entries.reverse.find? (·.1 == key)).map (·.2)

/-- The number of a key. -/
def number? (entries : List (String × String)) (key : String) : Option Nat :=
  (value? entries key).bind (numeral? UInt64.size)

/-- The number of pixels of a key. -/
def pixels? (entries : List (String × String)) (key : String) : Option UInt32 :=
  (number? entries key).bind fun value => if value < UInt32.size then some (.ofNat value) else none

/-- The settings of the entries of a file.  Texts rest for at least 50 milliseconds, and a line has
at least one pixel. -/
def ofEntries (entries : List (String × String)) : Settings :=
  let default : Settings := {}
  { debounce := ((number? entries "debounce-ms").map (max 50)).getD default.debounce
    copiedFeedback := (number? entries "copied-feedback-ms").getD default.copiedFeedback
    minHeight := (pixels? entries "min-height").getD default.minHeight
    lineHeight := ((pixels? entries "line-height").map (max 1)).getD default.lineHeight
    heightPadding := (pixels? entries "height-padding").getD default.heightPadding
    languagesFile := (value? entries "languages-file").filter (· != "") }

/-- The keys whose values are numbers, in the order in which they are read. -/
def numberKeys : List String :=
  ["debounce-ms", "copied-feedback-ms", "min-height", "line-height", "height-padding"]

/-- A setting that is left at its default because its value is no number. -/
structure Ignored where
  key : String
  value : String
deriving DecidableEq, Repr

/-- The warning about an ignored setting. -/
def Ignored.message (ignored : Ignored) : String :=
  "ignoring non-numeric setting key=\"" ++ ignored.key ++ "\" value=" ++ ignored.value

/-- The settings of the entries of a file that are ignored, in the order in which they are read. -/
def ignoredOf (entries : List (String × String)) : List Ignored :=
  numberKeys.filterMap fun key => do
    let value ← value? entries key
    if (numeral? UInt64.size value).isSome then none else some { key, value }

/-- The settings of a file. -/
def ofText (content : String) : Settings := ofEntries (entriesOf content)

/-- The settings of a file that may be missing or unreadable. -/
def ofFile? (content : Option String) : Settings :=
  match content with
  | some content => ofText content
  | none => {}

/-- The settings that are ignored in a file that may be missing or unreadable. -/
def ignoredOfFile? (content : Option String) : List Ignored :=
  match content with
  | some content => ignoredOf (entriesOf content)
  | none => []

/-- Where the file lies, given the home directory. -/
def path? (home : Option String) : Option String :=
  home.map fun home =>
    if home.isEmpty || home.endsWith "/" then home ++ ".codeblock.conf"
    else home ++ "/.codeblock.conf"

/-- A number of pixels, or the greatest one if there is no such. -/
def saturate (value : Nat) : UInt32 := .ofNat (min value (UInt32.size - 1))

/-- The height of an editor for a number of lines.  No step of the computation overflows: where a
number would not fit it stays at the greatest one. -/
def initialHeight (settings : Settings) (lines : Nat) : UInt32 :=
  let scaled := saturate ((saturate lines).toNat * settings.lineHeight.toNat)
  let padded := saturate (scaled.toNat + settings.heightPadding.toNat)
  max padded settings.minHeight

end Settings

end FencedCode
