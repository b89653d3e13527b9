import FencedCode.Script.Builtin.Regexp
import FencedCode.Text.LetterCase

/-!
# Functions on texts

Places and lengths are counted in units.  Only the change between capital and small letters, and
going through a text, look at whole characters.
-/

namespace FencedCode.Script

open Text

/-! ### Parts of texts -/

/-- Whether a unit is passed over at both ends of a text. -/
def isBlankUnit (code : UInt16) : Bool := Numeral.isOuterBlank (.ofNat code.toNat)

/-- A text without the blanks at its start. -/
def withoutLeadingBlanks (text : Units) : Units :=
  ⟨(text.codes.toList.dropWhile isBlankUnit).toArray⟩

/-- A text without the blanks at its end. -/
def withoutTrailingBlanks (text : Units) : Units :=
  ⟨(text.codes.toList.reverse.dropWhile isBlankUnit).reverse.toArray⟩

/-- A text whose runs of characters are changed.  Halves of pairs that stand alone stay. -/
def changeChars (change : List Char → List Char) (text : Units) : Units :=
  let written (run : List Char) : List Nat := (change run).map Char.toNat
  let (codes, run) := text.codePoints.foldr
    (fun code (codes, run) =>
      if code.isValidChar then (codes, Char.ofNat code :: run) else (code :: (written run ++ codes), []))
    (([], []) : List Nat × List Char)
  Units.ofCodePoints (written run ++ codes)

/-- What has to be put to a text of a length to fill it up to another length. -/
def filling (length target : Nat) (filler : Units) : Units :=
  if filler.isEmpty then .empty
  else (Units.replicate ((target - length) / filler.size + 1) filler).slice 0 (target - length)

/-- A text cut at each occurrence of another. -/
def splitAtText (text separator : Units) : (limit start : Nat) → List Units
  | 0, start => [text.slice start text.size]
  | limit + 1, start =>
    match text.indexOf? separator start with
    | some place => text.slice start place :: splitAtText text separator limit (place + separator.size)
    | none => [text.slice start text.size]

/-- The matches of a text in another from a place on, at most `limit` of them. -/
def textMatches (text part : Units) : (limit start : Nat) → List TextMatch
  | 0, _ => []
  | limit + 1, start =>
    match text.indexOf? part start with
    | some place =>
      { start := place, stop := place + part.size, groups := [], named := [] }
        :: textMatches text part limit (place + max 1 part.size)
    | none => []

/-- The order of two texts as a number. -/
def orderOf (left right : Units) : Float :=
  if left.lt right then -1 else if right.lt left then 1 else 0

/-- Whether no half of a pair stands alone. -/
def isWellFormed (text : Units) : Bool := text.codePoints.all (·.isValidChar)

namespace Run

/-- The longest text that can be made. -/
def longestText : Nat := Nat.pow 2 29

/-- The text on which a function of all texts works. -/
def thisText (this : Value) : Run Units := do
  requirePresent this
  toText this

/-- The text that a text object stands for. -/
def textOf (this : Value) : Run Units := do
  match this with
  | .string text => return text
  | .object ref =>
    match ← kindOf ref with
    | .wrapper (.string text) => return text
    | _ => throwType "'this' is not a string"
  | _ => throwType "'this' is not a string"

/-- A text to look for, which must not be a regular expression. -/
def plainPattern (value : Value) : Run Units := do
  if (← regexpOf? value).isSome then
    throwType "First argument to String.prototype method must not be a regular expression"
  toText value

/-- The expression for which a text is searched. -/
def toRegexp (value : Value) (flags : Units) : Run (Ref × Units × Units) := do
  match ← regexpOf? value with
  | some found => return found
  | none =>
    let source ← if value.isUndefined then pure Units.empty else toText value
    match ← makeRegexp source flags Intrinsic.regexpPrototype with
    | .object ref => return (ref, source, flags)
    | _ => return (0, source, flags)

/-- Replaces a text, or what an expression matches, in a text. -/
def replaceIn (text : Units) (pattern replacement : Value) (everywhere : Bool) : Run Units := do
  match ← regexpOf? pattern with
  | some (ref, source, flags) =>
    if everywhere && !hasFlag flags 'g' then
      throwType "String.prototype.replaceAll called with a non-global RegExp argument"
    let replacement ← if ← isCallable replacement then pure replacement
      else .string <$> toText replacement
    replaceMatches text (← changedMatches ref source flags text) replacement
  | none =>
    let part ← toText pattern
    let replacement ← if ← isCallable replacement then pure replacement
      else .string <$> toText replacement
    let matched := textMatches text part (if everywhere then text.size + 1 else 1) 0
    replaceMatches text matched replacement

/-- The places between which a text is cut out. -/
def textRange (arguments : List Value) (length : Nat) : Run (Nat × Nat) := do
  let start ← toPlace (argument arguments 0) length 0
  let stop ← toPlace (argument arguments 1) length length
  return (start, stop)

/-- The text of a value for a constructor of texts, which shows symbols too. -/
def constructedText (arguments : List Value) : Run Units := do
  match arguments with
  | [] => return .empty
  | .symbol symbol :: _ => return ("Symbol(" : Units) ++ symbol.description.getD .empty ++ ")"
  | value :: _ => toText value

/-- Makes a text, or an object for one. -/
def constructText (arguments : List Value) (newTarget : Option Ref) : Run Value := do
  match newTarget with
  | none => return .string (← constructedText arguments)
  | some newTarget =>
    let text ← match arguments with
      | [] => pure Units.empty
      | value :: _ => toText value
    let parent ← prototypeFor newTarget Intrinsic.stringPrototype
    return .object (← allocate { kind := .wrapper (.string text), parent := some parent })

/-- The code point that a value names. -/
def toCodePoint (value : Value) : Run Nat := do
  let number ← toNumber value
  match Decimal.truncate? number with
  | some whole =>
    if 0 ≤ whole && whole ≤ 0x10FFFF && Decimal.Dyadic.floatOfInt whole == number then
      return whole.toNat
    throwRange ("codepoint '" ++ Decimal.naturalText number ++ "' is not an integer")
  | none => throwRange ("codepoint '" ++ Decimal.naturalText number ++ "' is not an integer")

/-- Joins the parts of a template as they are written. -/
def rawText (arguments : List Value) : Run Units := do
  let parts ← toObject (argument arguments 0)
  let raw ← toObject (← getProperty parts "raw")
  let pieces ← elementsOf (.object raw)
  let texts ← pieces.mapM toText
  let values ← (arguments.tail.take (texts.length - 1)).mapM toText
  let joined := texts.zipIdx.map fun (text, place) => text ++ values.getD place .empty
  return Units.concat joined

/-- Calls a function of `String` or of all texts. -/
def callString (function : StringFunction) (this : Value) (arguments : List Value) : Run Value := do
  let first := argument arguments 0
  let second := argument arguments 1
  match function with
  | .construct => constructText arguments none
  | .fromCharCode =>
    let codes ← arguments.mapM fun value => return UInt16.ofNat (lowBits 16 (← toNumber value))
    return .string ⟨codes.toArray⟩
  | .fromCodePoint => return .string (Units.ofCodePoints (← arguments.mapM toCodePoint))
  | .raw => return .string (← rawText arguments)
  | .toString | .valueOf => return .string (← textOf this)
  | _ =>
  let text ← thisText this
  let length := text.size
  match function with
  | .elementAt =>
    let place ← toWhole first (-farthest) farthest
    let place := if place < 0 then place + length else place
    if place < 0 || (length : Int) ≤ place then return .undefined
    return .string (text.slice place.toNat (place.toNat + 1))
  | .charAt =>
    let place ← toWhole first (-1) farthest
    return .string (if place < 0 then .empty else text.slice place.toNat (place.toNat + 1))
  | .charCodeAt =>
    let place ← toWhole first (-1) farthest
    if place < 0 then return .number Numeral.notNumber
    match text.codes[place.toNat]? with
    | some code => return .ofNat code.toNat
    | none => return .number Numeral.notNumber
  | .codePointAt =>
    let place ← toWhole first (-1) farthest
    if place < 0 then return .undefined
    match (text.slice place.toNat (place.toNat + 2)).codePoints with
    | code :: _ => return .ofNat code
    | [] => return .undefined
  | .concat => return .string (Units.concat (text :: (← arguments.mapM toText)))
  | .includes =>
    let part ← plainPattern first
    let start ← toWhole second 0 length
    return .boolean (text.indexOf? part start.toNat).isSome
  | .indexOf =>
    let part ← toText first
    let start ← toWhole second 0 length
    return ((text.indexOf? part start.toNat).map Value.ofNat).getD (.number (-1))
  | .lastIndexOf =>
    let part ← toText first
    let number ← toNumber second
    let start := if number.isNaN then length else (clampWhole number 0 length).toNat
    return ((text.lastIndexOf? part start).map Value.ofNat).getD (.number (-1))
  | .startsWith =>
    let part ← plainPattern first
    let start ← toWhole second 0 length
    return .boolean (text.hasAt part start.toNat)
  | .endsWith =>
    let part ← plainPattern first
    let stop ← if second.isUndefined then pure length
      else do pure (← toWhole second 0 length).toNat
    return .boolean (part.size ≤ stop && text.hasAt part (stop - part.size))
  | .isWellFormed => return .boolean (isWellFormed text)
  | .toWellFormed => return .string (Units.ofChars text.toChars)
  | .localeCompare => return .number (orderOf text (← toText first))
  | .normalize =>
    let form ← if first.isUndefined then pure "NFC" else Units.display <$> toText first
    if ["NFC", "NFD", "NFKC", "NFKD"].contains form then return .string text
    throwRange "The normalization form should be one of NFC, NFD, NFKC, NFKD."
  | .padEnd | .padStart =>
    let target ← toWhole first 0 greatestLength
    let filler ← if second.isUndefined then pure (Units.ofString " ") else toText second
    if longestText < target.toNat && !filler.isEmpty then throwRange "Invalid string length"
    let fill := filling length target.toNat filler
    return .string (match function with | .padEnd => text ++ fill | _ => fill ++ text)
  | .repeated =>
    let count ← toIntegerOrInfinity first
    let invalid :=
      "repeat count must be a positive finite number that doesn't overflow the maximum string length"
    match Decimal.truncate? count with
    | some count =>
      if count < 0 || longestText < count.toNat * length then throwRange invalid
      if length = 0 then return .string .empty
      return .string (Units.replicate count.toNat text)
    | none => throwRange invalid
  | .replace => return .string (← replaceIn text first second false)
  | .replaceAll => return .string (← replaceIn text first second true)
  | .matchFirst =>
    let (ref, source, flags) ← toRegexp first .empty
    if hasFlag flags 'g' then
      let matched ← changedMatches ref source flags text
      if matched.isEmpty then return .null
      makeArray (matched.map fun found => .string (text.slice found.start found.stop))
    else
      match ← execute? ref source flags text with
      | some found => matchValue text found
      | none => return .null
  | .matchAll =>
    let (_, source, flags) ← toRegexp first "g"
    if !hasFlag flags 'g' then
      throwType "String.prototype.matchAll called with a non-global RegExp argument"
    let matched := allMatches source flags text (length + 2) 0
    makeIterator (.given (← matched.mapM (matchValue text)))
  | .search =>
    let (_, source, flags) ← toRegexp first .empty
    return ((searchText source flags (hasFlag flags 'y') text 0).map (Value.ofNat ·.start)).getD
      (.number (-1))
  | .slice =>
    let (start, stop) ← textRange arguments length
    return .string (text.slice start stop)
  | .split =>
    let limit ← if second.isUndefined then pure (UInt32.size - 1) else do
      pure (lowBits 32 (← toNumber second))
    match ← regexpOf? first with
    | some (_, source, flags) => makeArray ((splitMatches source flags text).take limit)
    | none =>
      let separator ← toText first
      let pieces : List Units :=
        if first.isUndefined then [text]
        else if separator.isEmpty then text.codes.toList.map Units.single
        else splitAtText text separator length 0
      makeArray ((pieces.take limit).map .string)
  | .substr =>
    let start ← toPlace first length 0
    let count ← if second.isUndefined then pure length else do
      pure (← toWhole second 0 length).toNat
    return .string (text.slice start (start + count))
  | .substring =>
    let start := (← toWhole first 0 length).toNat
    let stop ← if second.isUndefined then pure length else do
      pure (← toWhole second 0 length).toNat
    return .string (text.slice (min start stop) (max start stop))
  | .toLowerCase | .toLocaleLowerCase => return .string (changeChars (lowerFrom []) text)
  | .toUpperCase | .toLocaleUpperCase => return .string (changeChars (·.flatMap upperOf) text)
  | .trim => return .string (withoutTrailingBlanks (withoutLeadingBlanks text))
  | .trimStart => return .string (withoutLeadingBlanks text)
  | .trimEnd => return .string (withoutTrailingBlanks text)
  | .iterator => makeIterator (.codePoints text.codePoints)
  | .construct | .fromCharCode | .fromCodePoint | .raw | .toString | .valueOf => return .undefined

end Run

end FencedCode.Script
