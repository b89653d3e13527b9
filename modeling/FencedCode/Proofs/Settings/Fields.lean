import FencedCode.CommandLine
import FencedCode.Proofs.Settings.Lines

/-!
# What a settings file sets

Every field has a key, and of several lines for it the last one decides: a value that the field can
take is set, and any other one brings the default back.  Lines for different fields do not disturb
each other, and lines without a known key nothing.
-/

namespace FencedCode.Settings

open CommandLine

/-! ### Numerals -/

/-- A text writes a number with decimal digits.  A plus sign may stand in front of them. -/
def Numeral (text : String) (number : Nat) : Prop :=
  ∃ digits : List Char, (text.toList = digits ∨ text.toList = '+' :: digits) ∧ digits ≠ [] ∧
    (∀ digit ∈ digits, digit.isDigit) ∧ number = Nat.ofDigitChars 10 digits 0

variable {value : String} {number : Nat} {pixels : UInt32}

/-- Digits in front of which a plus sign may stand. -/
def unsigned : List Char → List Char
  | '+' :: digits => digits
  | digits => digits

theorem numeral_iff : Numeral value number ↔ unsigned value.toList ≠ [] ∧
    (∀ digit ∈ unsigned value.toList, digit.isDigit) ∧
    number = Nat.ofDigitChars 10 (unsigned value.toList) 0 := by
  constructor
  · rintro ⟨digits, unsignedShape | signedShape, numeral⟩
    · have same : unsigned value.toList = digits := by
        rw [unsignedShape]
        unfold unsigned
        split
        · next others =>
            have noDigit := numeral.2.1 '+' List.mem_cons_self
            cases noDigit
        · rfl
      rwa [same]
    · rwa [signedShape]
  · intro numeral
    refine ⟨unsigned value.toList, ?_, numeral⟩
    unfold unsigned
    split
    · next others isText => exact .inr isText
    · exact .inl rfl

theorem ofDigitChars_eq_foldl (digits : List Char) : Nat.ofDigitChars 10 digits 0 =
    digits.foldl (fun value digit => value * 10 + (digit.toNat - '0'.toNat)) 0 := by
  simp only [Nat.ofDigitChars, Nat.mul_comm]

theorem numeral?_eq_some_iff {bound : Nat} :
    numeral? bound value = some number ↔ Numeral value number ∧ number < bound := by
  have read : numeral? bound value =
      if (unsigned value.toList).isEmpty || !(unsigned value.toList).all Char.isDigit then none
      else
        if Nat.ofDigitChars 10 (unsigned value.toList) 0 < bound then
          some (Nat.ofDigitChars 10 (unsigned value.toList) 0)
        else none := by
    rw [ofDigitChars_eq_foldl]
    rfl
  rw [read, numeral_iff]
  grind

/-- The pixels that a value names. -/
def pixelsOf? (value : String) : Option UInt32 :=
  (numeral? UInt64.size value).bind fun number =>
    if number < UInt32.size then some (.ofNat number) else none

theorem pixelsOf?_eq_some_iff : pixelsOf? value = some pixels ↔ Numeral value pixels.toNat := by
  constructor
  · intro isPixels
    obtain ⟨number, isNumber, rest⟩ := Option.bind_eq_some_iff.mp isPixels
    split at rest
    · next fits =>
        cases rest
        rw [UInt32.toNat_ofNat', Nat.mod_eq_of_lt fits]
        exact (numeral?_eq_some_iff.mp isNumber).1
    · cases rest
  · intro numeral
    have fits : pixels.toNat < UInt32.size := pixels.toNat_lt
    have isNumber : numeral? UInt64.size value = some pixels.toNat :=
      numeral?_eq_some_iff.mpr ⟨numeral, fits.trans (by decide)⟩
    rw [pixelsOf?, isNumber, Option.bind_some, if_pos fits, UInt32.ofNat_toNat]

/-! ### Fields -/

/-- The fields that a line can set. -/
inductive Field where
  | debounce
  | copiedFeedback
  | minHeight
  | lineHeight
  | heightPadding
  | languagesFile
deriving DecidableEq

namespace Field

def key : Field → String
  | debounce => "debounce-ms"
  | copiedFeedback => "copied-feedback-ms"
  | minHeight => "min-height"
  | lineHeight => "line-height"
  | heightPadding => "height-padding"
  | languagesFile => "languages-file"

/-- Brings the default of a field back. -/
def reset (settings : Settings) : Field → Settings
  | debounce => { settings with debounce := ({} : Settings).debounce }
  | copiedFeedback => { settings with copiedFeedback := ({} : Settings).copiedFeedback }
  | minHeight => { settings with minHeight := ({} : Settings).minHeight }
  | lineHeight => { settings with lineHeight := ({} : Settings).lineHeight }
  | heightPadding => { settings with heightPadding := ({} : Settings).heightPadding }
  | languagesFile => { settings with languagesFile := ({} : Settings).languagesFile }

/-- A value of a line is valid for a field and sets it.  Times are below two to the power of 64, and
pixels below two to the power of 32. -/
inductive Sets (settings : Settings) (value : String) : Field → Settings → Prop where
  | debounce {number : Nat} (numeral : Numeral value number) (fits : number < UInt64.size) :
      Sets settings value .debounce { settings with debounce := max 50 number }
  | copiedFeedback {number : Nat} (numeral : Numeral value number) (fits : number < UInt64.size) :
      Sets settings value .copiedFeedback { settings with copiedFeedback := number }
  | minHeight {pixels : UInt32} (numeral : Numeral value pixels.toNat) :
      Sets settings value .minHeight { settings with minHeight := pixels }
  | lineHeight {pixels : UInt32} (numeral : Numeral value pixels.toNat) :
      Sets settings value .lineHeight { settings with lineHeight := max 1 pixels }
  | heightPadding {pixels : UInt32} (numeral : Numeral value pixels.toNat) :
      Sets settings value .heightPadding { settings with heightPadding := pixels }
  | languagesFile (nonempty : value ≠ "") :
      Sets settings value .languagesFile { settings with languagesFile := some value }

/-- The settings with a field set to a value, if it is valid. -/
def set? (settings : Settings) (value : String) : Field → Option Settings
  | debounce => (numeral? UInt64.size value).map fun number =>
      { settings with debounce := max 50 number }
  | copiedFeedback => (numeral? UInt64.size value).map fun number =>
      { settings with copiedFeedback := number }
  | minHeight => (pixelsOf? value).map fun pixels => { settings with minHeight := pixels }
  | lineHeight => (pixelsOf? value).map fun pixels => { settings with lineHeight := max 1 pixels }
  | heightPadding => (pixelsOf? value).map fun pixels => { settings with heightPadding := pixels }
  | languagesFile => if value = "" then none else some { settings with languagesFile := some value }

variable {settings result : Settings} {field : Field}

theorem set?_eq_some_iff :
    field.set? settings value = some result ↔ Sets settings value field result := by
  constructor
  · intro isSet
    cases field with
    | debounce | copiedFeedback =>
        obtain ⟨number, isNumber, rfl⟩ := Option.map_eq_some_iff.mp isSet
        have ⟨numeral, fits⟩ := numeral?_eq_some_iff.mp isNumber
        constructor
        · exact numeral
        · exact fits
    | minHeight | lineHeight | heightPadding =>
        obtain ⟨pixels, isPixels, rfl⟩ := Option.map_eq_some_iff.mp isSet
        constructor
        exact pixelsOf?_eq_some_iff.mp isPixels
    | languagesFile =>
        rw [set?] at isSet
        split at isSet
        · cases isSet
        · next nonempty =>
            cases isSet
            exact .languagesFile nonempty
  · intro sets
    cases sets with
    | debounce numeral fits | copiedFeedback numeral fits =>
        have isNumber : numeral? UInt64.size value = some _ :=
          numeral?_eq_some_iff.mpr ⟨numeral, fits⟩
        rw [set?, isNumber, Option.map_some]
    | minHeight numeral | lineHeight numeral | heightPadding numeral =>
        rw [set?, pixelsOf?_eq_some_iff.mpr numeral, Option.map_some]
    | languagesFile nonempty => rw [set?, if_neg nonempty]

end Field

/-! ### The last value of a key -/

theorem pixels?_eq_bind (entries : List (String × String)) (key : String) :
    pixels? entries key = (value? entries key).bind pixelsOf? := by
  rw [pixels?, number?, Option.bind_assoc]
  rfl

theorem value?_append (front back : List (String × String)) (key : String) :
    value? (front ++ back) key = (value? back key).or (value? front key) := by
  simp only [value?, List.reverse_append, List.find?_append, Option.map_or]

theorem value?_singleton (key value wanted : String) :
    value? [(key, value)] wanted = if key = wanted then some value else none := by
  simp only [value?, List.reverse_singleton, List.find?_singleton, beq_iff_eq]
  split <;> rfl

/-- The settings of entries depend only on the last values of the keys. -/
theorem ofEntries_congr {entries others : List (String × String)}
    (same : ∀ field : Field, value? entries field.key = value? others field.key) :
    ofEntries entries = ofEntries others := by
  have debounce := same .debounce
  have copiedFeedback := same .copiedFeedback
  have minHeight := same .minHeight
  have lineHeight := same .lineHeight
  have heightPadding := same .heightPadding
  have languagesFile := same .languagesFile
  simp only [Field.key] at *
  simp only [ofEntries, number?, pixels?, *]

/-- A last entry sets its field to its value, if that is valid, and resets it otherwise. -/
theorem ofEntries_concat (entries : List (String × String)) (field : Field) (value : String) :
    ofEntries (entries ++ [(field.key, value)]) =
      (field.set? (ofEntries entries) value).getD (field.reset (ofEntries entries)) := by
  cases field with
  | debounce | copiedFeedback =>
      cases isNumber : numeral? UInt64.size value <;>
        simp [ofEntries, number?, pixels?, value?_append, value?_singleton, Field.key,
          Field.set?, Field.reset, isNumber]
  | minHeight | lineHeight | heightPadding =>
      cases isPixels : pixelsOf? value <;>
        simp [ofEntries, number?, pixels?_eq_bind, value?_append, value?_singleton, Field.key,
          Field.set?, Field.reset, isPixels]
  | languagesFile =>
      by_cases blank : value = "" <;>
        simp [ofEntries, number?, pixels?, value?_append, value?_singleton, Field.key,
          Field.set?, Field.reset, blank]

/-! ### Lines that say nothing, and lines that change places -/

/-- A line that sets no field. -/
inductive Silent (line : List Char) : Prop where
  | blank (nothing : Text.trim line = [])
  | comment (sharp : (Text.trim line).head? = some '#')
  | noSign (absent : '=' ∉ line)
  | unknown {key value : String} (assigns : Assigns line key value)
    (unknown : ∀ field : Field, field.key ≠ key)

theorem Silent.value?_eq_none {line : List Char} (silent : Silent line) (field : Field) :
    value? (entryOf? line).toList field.key = none := by
  cases silent with
  | blank nothing => rw [entryOf?_of_blank nothing]; rfl
  | comment sharp => rw [entryOf?_of_comment sharp]; rfl
  | noSign absent => rw [entryOf?_of_noSign absent]; rfl
  | unknown assigns unknown =>
      rw [entryOf?_eq_some_iff.mpr assigns, Option.toList_some, value?_singleton,
        if_neg (unknown field).symm]

variable {content other : String} {front back : List (List Char)} {line following : List Char}

theorem ofText_eq_ofEntries (isLines : fileLines content.toList = front ++ back) :
    ofText content = ofEntries (front.filterMap entryOf? ++ back.filterMap entryOf?) := by
  rw [ofText, entriesOf_eq_filterMap_fileLines, isLines, List.filterMap_append]

theorem filterMap_cons_eq_append (line : List Char) (lines : List (List Char)) :
    (line :: lines).filterMap entryOf? = (entryOf? line).toList ++ lines.filterMap entryOf? := by
  cases isEntry : entryOf? line <;> simp [isEntry]

theorem Silent.ofText_eq (silent : Silent line) (without : fileLines content.toList = front ++ back)
    (inserted : fileLines other.toList = front ++ line :: back) :
    ofText content = ofText other := by
  rw [ofText_eq_ofEntries without, ofText_eq_ofEntries inserted]
  apply ofEntries_congr
  intro field
  rw [filterMap_cons_eq_append, value?_append, value?_append, value?_append,
    silent.value?_eq_none, Option.or_none]

theorem ofText_swap {key key' value value' : String} (assigns : Assigns line key value)
    (assigns' : Assigns following key' value') (different : key ≠ key')
    (isLines : fileLines content.toList = front ++ line :: following :: back)
    (swapped : fileLines other.toList = front ++ following :: line :: back) :
    ofText content = ofText other := by
  have first := entryOf?_eq_some_iff.mpr assigns
  have second := entryOf?_eq_some_iff.mpr assigns'
  rw [ofText_eq_ofEntries isLines, ofText_eq_ofEntries swapped]
  apply ofEntries_congr
  intro field
  simp only [filterMap_cons_eq_append, first, second, value?_append, Option.toList_some,
    value?_singleton]
  by_cases isKey : key = field.key
  · have notKey : key' ≠ field.key := fun isKey' => different (isKey.trans isKey'.symm)
    simp [isKey, notKey]
  · simp [isKey]

/-! ### A line at the end -/

theorem ofText_append {field : Field} {text value : String} (ended : Ended content)
    (isLine : fileLines text.toList = [line]) (assigns : Assigns line field.key value) :
    ofText (content ++ text) =
      (field.set? (ofText content) value).getD (field.reset (ofText content)) := by
  have entry : entriesOf text = [(field.key, value)] := by
    rw [entriesOf_eq_filterMap_fileLines, isLine, filterMap_cons_eq_append,
      entryOf?_eq_some_iff.mpr assigns]
    rfl
  rw [ofText, entriesOf_append ended, entry, ofEntries_concat, ← ofText]

/-- A key, an equals sign and a value without white space at its ends are a line. -/
theorem Field.assigns_spelled (field : Field) (trimmed : Text.trim value.toList = value.toList) :
    Assigns (field.key ++ " = " ++ value).toList field.key value := by
  have parts : (field.key ++ " = " ++ value).toList =
      (field.key.toList ++ [' ']) ++ '=' :: ' ' :: value.toList := by simp
  have starts : ∃ first others, field.key.toList = first :: others ∧ first ≠ '#' ∧
      ¬Text.isBlank first := by
    cases field <;> exact ⟨_, _, rfl, by decide, by decide⟩
  refine ⟨?_, field.key.toList ++ [' '], ' ' :: value.toList, parts, ?_, ?_, ?_⟩
  · obtain ⟨first, others, isKey, noSharp, shown⟩ := starts
    rw [parts, isKey, List.cons_append, List.cons_append, Text.head?_trim_cons shown]
    simpa using noSharp
  · cases field <;> decide
  · cases field <;> decide
  · have blank : ∀ char ∈ [' '], Text.isBlank char := List.forall_mem_singleton.mpr rfl
    have isValue := Text.trim_append_of_blank_front blank value.toList
    rw [List.singleton_append, trimmed] at isValue
    rw [isValue, String.ofList_toList]

/-! ### Loading -/

/-- The settings file of a host has a content. -/
def Reads (host : Host Id) (content : String) : Prop :=
  ∃ path, path? host.home = some path ∧ Id.run (host.fileText path) = .ok content

theorem readSettings_of_reads {host : Host Id} (reads : Reads host content) :
    Id.run (readSettings host) = (ofText content, ignoredOf (entriesOf content)) := by
  obtain ⟨path, isPath, isText⟩ := reads
  rw [readSettings, isPath]
  exact congrArg (fun text => (ofFile? text.toOption, ignoredOfFile? text.toOption)) isText

theorem readSettings_of_not_reads {host : Host Id} (unread : ∀ content, ¬Reads host content) :
    Id.run (readSettings host) = ({}, []) := by
  cases isPath : path? host.home with
  | none =>
      rw [readSettings, isPath]
      rfl
  | some path =>
      cases isText : Id.run (host.fileText path) with
      | ok content => exact absurd ⟨path, isPath, isText⟩ (unread content)
      | error cause =>
          rw [readSettings, isPath]
          exact congrArg (fun text => (ofFile? text.toOption, ignoredOfFile? text.toOption)) isText

theorem run_loadSettings (host : Host Id) :
    Id.run (loadSettings host) = (Id.run (readSettings host)).1 := rfl

theorem loadSettings_of_reads {host : Host Id} (reads : Reads host content) :
    Id.run (loadSettings host) = ofText content := by
  rw [run_loadSettings, readSettings_of_reads reads]

theorem loadSettings_of_not_reads {host : Host Id} (unread : ∀ content, ¬Reads host content) :
    Id.run (loadSettings host) = {} := by
  rw [run_loadSettings, readSettings_of_not_reads unread]

theorem ofText_bounded (content : String) :
    50 ≤ (ofText content).debounce ∧ 1 ≤ (ofText content).lineHeight := by
  let entries := entriesOf content
  constructor
  · change 50 ≤ ((number? entries "debounce-ms").map (max 50)).getD 500
    cases number? entries "debounce-ms" with
    | none => decide
    | some number => exact Nat.le_max_left 50 number
  · change 1 ≤ ((pixels? entries "line-height").map (max 1)).getD 21
    cases pixels? entries "line-height" with
    | none => decide
    | some pixels =>
        change 1 ≤ if 1 ≤ pixels then pixels else 1
        split
        · assumption
        · decide

/-- How the lines of a settings file decide the settings that are loaded. -/
structure DecidedByLines : Prop where
  /-- Two lines for different keys may change places. -/
  swap : ∀ (content other : String) (front back : List (List Char)) (line following : List Char)
    (key key' value value' : String), Assigns line key value → Assigns following key' value' →
    key ≠ key' → fileLines content.toList = front ++ line :: following :: back →
    fileLines other.toList = front ++ following :: line :: back → ofText content = ofText other
  /-- A line that says nothing may come in or be left out. -/
  silent : ∀ (content other : String) (front back : List (List Char)) (line : List Char),
    Silent line → fileLines content.toList = front ++ back →
    fileLines other.toList = front ++ line :: back → ofText content = ofText other
  /-- A last line with a valid value sets its field. -/
  valid : ∀ (content text value : String) (line : List Char) (field : Field) (result : Settings),
    Ended content → fileLines text.toList = [line] → Assigns line field.key value →
    field.Sets (ofText content) value result → ofText (content ++ text) = result
  /-- A last line with any other value resets its field. -/
  invalid : ∀ (content text value : String) (line : List Char) (field : Field),
    Ended content → fileLines text.toList = [line] → Assigns line field.key value →
    (∀ result, ¬field.Sets (ofText content) value result) →
    ofText (content ++ text) = field.reset (ofText content)
  /-- Such a line is a key, an equals sign and a value. -/
  spelled : ∀ (field : Field) (value : String), Text.trim value.toList = value.toList →
    '\n' ∉ value.toList →
    ∃ line, fileLines (field.key ++ " = " ++ value).toList = [line] ∧ Assigns line field.key value
  loaded : ∀ (host : Host Id) (content : String), Reads host content →
    Id.run (loadSettings host) = ofText content
  unread : ∀ host : Host Id, (∀ content, ¬Reads host content) → Id.run (loadSettings host) = {}
  bounded : ∀ host : Host Id,
    50 ≤ (Id.run (loadSettings host)).debounce ∧ 1 ≤ (Id.run (loadSettings host)).lineHeight

/-- The settings follow from the lines of their file, and the last line for a key decides. -/
theorem loadSettings_decidedByLines : DecidedByLines where
  swap _ _ _ _ _ _ _ _ _ _ assigns assigns' different isLines swapped :=
    ofText_swap assigns assigns' different isLines swapped
  silent _ _ _ _ _ silent without inserted := silent.ofText_eq without inserted
  valid _ _ _ _ _ _ ended isLine assigns sets := by
    rw [ofText_append ended isLine assigns, Field.set?_eq_some_iff.mpr sets, Option.getD_some]
  invalid content _ value _ field ended isLine assigns invalid := by
    have unset : field.set? (ofText content) value = none := by
      rw [Option.eq_none_iff_forall_ne_some]
      intro result isSet
      exact invalid result (Field.set?_eq_some_iff.mp isSet)
    rw [ofText_append ended isLine assigns, unset, Option.getD_none]
  spelled field value trimmed noFeed := by
    refine ⟨_, fileLines_of_noFeed ?_ ?_, field.assigns_spelled trimmed⟩
    · cases field <;> simp [Field.key]
    · cases field <;> simpa [Field.key] using noFeed
  loaded _ _ reads := loadSettings_of_reads reads
  unread _ unread := loadSettings_of_not_reads unread
  bounded host := by
    by_cases reads : ∃ content, Reads host content
    · obtain ⟨content, reads⟩ := reads
      rw [loadSettings_of_reads reads]
      exact ofText_bounded content
    · rw [loadSettings_of_not_reads (not_exists.mp reads)]
      decide

/-- A later value that is no number brings the default back. -/
example : ofText "min-height = 90\nMin-Height = oops\n" = {} := by decide

end FencedCode.Settings
