import FencedCode.Script.Builtin.Array
import FencedCode.Script.Regexp

/-!
# Functions on regular expressions

How texts are searched, taken apart and changed by expressions.  An expression that goes through all
its matches keeps the place behind the last one as its property `lastIndex`.
-/

namespace FencedCode.Script

open Text

/-- A match in a text, in units. -/
structure TextMatch where
  start : Nat
  stop : Nat
  groups : List (Option Units)
  /-- The names of groups, with what they hold. -/
  named : List (String × Option Units)

namespace Run

/-- The expression of an object, if it is one. -/
def regexpOf? (value : Value) : Run (Option (Ref × Units × Units)) := do
  match value with
  | .object ref =>
    match ← kindOf ref with
    | .regexp source flags => return some (ref, source, flags)
    | _ => return none
  | _ => return none

/-- Whether flags hold a mark. -/
def hasFlag (flags : Units) (mark : Char) : Bool := flags.toChars.contains mark

def makeRegexp (source flags : Units) (parent : Ref) : Run Value := do
  if (Regexp.parse? source flags).isNone then
    throwNew .syntaxError "Invalid regular expression"
  let properties : Properties := {}
  return .object (← allocate
    { kind := .regexp source flags, parent := some parent
      properties := properties.put "lastIndex"
        { content := .data (.number 0) true, enumerable := false, configurable := false } })

/-- The first match of an expression in a text from a place on. -/
def searchText (source flags : Units) (sticky : Bool) (text : Units) (place : Nat) :
    Option TextMatch := do
  let program ← Regexp.parse? source flags
  let points := if program.unicode then text.codePoints else text.codes.toList.map (·.toNat)
  -- Where each code point starts, in units.
  let sizes := points.map fun point => if 0x10000 ≤ point then 2 else 1
  let offsets := (sizes.foldl (fun (offsets : Array Nat) size =>
    offsets.push (offsets.back?.getD 0 + size)) #[0])
  let first := (offsets.findIdx? (place ≤ ·)).getD points.length
  let (start, progress) ← Regexp.search? program points.toArray
    (if sticky then 1 else points.length + 1) first
  let cut (bounds : Nat × Nat) : Units :=
    text.slice (offsets.getD bounds.1 0) (offsets.getD bounds.2 0)
  let groups := (progress.groups.toList.drop 1).map (·.map cut)
  let named := program.names.map fun (name, index) => (name, (groups[index - 1]?).join)
  return { start := offsets.getD start 0, stop := offsets.getD progress.place 0, groups, named }

/-- A group as a value. -/
def groupValue (group : Option Units) : Value := (group.map Value.string).getD .undefined

/-- The object that holds the named groups of a match, if there are any. -/
def namedGroups (found : TextMatch) : Run Value := do
  if found.named.isEmpty then return .undefined
  let ref ← allocate { parent := none }
  for (name, group) in found.named do createProperty ref name (groupValue group)
  return .object ref

/-- A match as an array with the place and the text. -/
def matchValue (text : Units) (found : TextMatch) : Run Value := do
  let array ← makeArray
    (.string (text.slice found.start found.stop) :: found.groups.map groupValue)
  match array with
  | .object ref =>
    createProperty ref "index" (.ofNat found.start)
    createProperty ref "input" (.string text)
    createProperty ref "groups" (← namedGroups found)
  | _ => pure ()
  return array

/-- The next match of an expression, which moves on if it goes through all matches. -/
def execute? (ref : Ref) (source flags text : Units) : Run (Option TextMatch) := do
  let moves := hasFlag flags 'g' || hasFlag flags 'y'
  let place ← if moves then do
      pure (← toWhole (← getProperty ref "lastIndex") 0 greatestLength).toNat
    else pure 0
  let found := if place ≤ text.size then searchText source flags (hasFlag flags 'y') text place
    else none
  match found with
  | some found =>
    if moves then putValue ref "lastIndex" (.ofNat found.stop)
    return some found
  | none =>
    if moves then putValue ref "lastIndex" (.number 0)
    return none

/-- All matches of an expression, one behind the other, at most `limit` of them. -/
def allMatches (source flags : Units) (text : Units) : (limit place : Nat) → List TextMatch
  | 0, _ => []
  | limit + 1, place =>
    if text.size < place then []
    else match searchText source flags (hasFlag flags 'y') text place with
      | some found =>
        found :: allMatches source flags text limit
          (if found.stop = found.start then found.stop + 1 else found.stop)
      | none => []

/-- The matches that a change of a text concerns: all, or the first. -/
def changedMatches (ref : Ref) (source flags text : Units) : Run (List TextMatch) := do
  if hasFlag flags 'g' then
    putValue ref "lastIndex" (.number 0)
    return allMatches source flags text (text.size + 2) 0
  return (← execute? ref source flags text).toList

/-- What a group by its number writes, if the match has it. -/
def numberedGroup? (found : TextMatch) (index : Nat) : Option Units :=
  if 0 < index && index ≤ found.groups.length then
    some ((found.groups[index - 1]?).join.getD .empty)
  else none

/-- What digits behind a dollar sign write, and how many of them are used: two if they number a group,
or else one. -/
def digitsFront? (found : TextMatch) (digits : List Char) : Option (Units × Nat) :=
  let numbered (count : Nat) : Option (Units × Nat) := do
    let used := digits.take count
    if used.length == count then
      return (← numberedGroup? found (Lexeme.valueOf 10 used), count)
    else none
  (numbered 2).or (numbered 1)

/-- What the front of a template writes for a match, and how many characters that takes: groups by
number and by name, and what is around the match. -/
def templateFront (text : Units) (found : TextMatch) : List Char → Units × Nat
  | '$' :: '$' :: _ => ("$", 2)
  | '$' :: '&' :: _ => (text.slice found.start found.stop, 2)
  | '$' :: '\x60' :: _ => (text.slice 0 found.start, 2)
  | '$' :: '\x27' :: _ => (text.slice found.stop text.size, 2)
  | '$' :: '<' :: rest =>
    let name := rest.takeWhile (· != '>')
    if found.named.isEmpty || name.length == rest.length then ("$<", 2)
    else ((found.named.lookup (.ofList name)).join.getD .empty, name.length + 3)
  | '$' :: rest =>
    match digitsFront? found (rest.takeWhile Char.isDigit) with
    | some (group, count) => (group, count + 1)
    | none => ("$", 1)
  | chars => (Units.ofChars (chars.take 1), 1)

/-- What a template of at most `limit` characters writes for a match. -/
def expandTemplate (text : Units) (found : TextMatch) : (limit : Nat) → List Char → Units
  | 0, _ => .empty
  | _, [] => .empty
  | limit + 1, chars =>
    let (written, count) := templateFront text found chars
    written ++ expandTemplate text found limit (chars.drop count)

/-- What stands in the place of a match. -/
def replacementFor (text : Units) (found : TextMatch) (replacement : Value) : Run Units := do
  if ← isCallable replacement then
    let groups ← namedGroups found
    let arguments := [.string (text.slice found.start found.stop)] ++ found.groups.map groupValue
      ++ [.ofNat found.start, .string text] ++ if groups.isUndefined then [] else [groups]
    toText (← call replacement .undefined arguments)
  else match replacement with
    | .string template =>
      let chars := template.toChars
      return expandTemplate text found chars.length chars
    | other => toText other

/-- A text with matches replaced. -/
def replaceMatches (text : Units) (matched : List TextMatch) (replacement : Value) :
    Run Units := do
  let (done, place) ← matched.foldlM
    (fun (done, place) found => do
      let written ← replacementFor text found replacement
      return (done ++ text.slice place found.start ++ written, found.stop))
    (Units.empty, 0)
  return done ++ text.slice place text.size

/-- A text cut at the matches of an expression, with what the groups hold between the pieces. -/
def splitMatches (source flags text : Units) : List Value :=
  let matched := if text.isEmpty then [] else
    (allMatches source flags text (text.size + 2) 0).filter fun found =>
      found.start < text.size && !(found.stop = 0)
  let (pieces, place) := matched.foldl
    (fun (pieces, place) found =>
      if found.stop = place && found.start = found.stop then (pieces, place)
      else (pieces ++ .string (text.slice place found.start) :: found.groups.map groupValue,
        found.stop))
    (([], 0) : List Value × Nat)
  if text.isEmpty && (searchText source flags false text 0).isSome then []
  else pieces ++ [.string (text.slice place text.size)]

/-- Calls a function of `RegExp` or of all regular expressions. -/
def callRegexp (function : RegexpFunction) (this : Value) (arguments : List Value)
    (newTarget : Option Ref) : Run Value := do
  let first := argument arguments 0
  match function with
  | .construct =>
    let parent ← match newTarget with
      | some newTarget => prototypeFor newTarget Intrinsic.regexpPrototype
      | none => pure Intrinsic.regexpPrototype
    let flagsOf (default : Units) : Run Units := do
      match argument arguments 1 with
      | .undefined => return default
      | flags => toText flags
    match ← regexpOf? first with
    | some (_, source, flags) => makeRegexp source (← flagsOf flags) parent
    | none =>
      let source ← if first.isUndefined then pure Units.empty else toText first
      makeRegexp source (← flagsOf .empty) parent
  | _ =>
  match ← regexpOf? this with
  | none => throwType "this is not a regular expression"
  | some (ref, source, flags) =>
    let flag (mark : Char) : Value := .boolean (hasFlag flags mark)
    let shown : Units := if source.isEmpty then "(?:)" else source
    match function with
    | .exec =>
      let text ← toText first
      match ← execute? ref source flags text with
      | some found => matchValue text found
      | none => return .null
    | .test => return .boolean (← execute? ref source flags (← toText first)).isSome
    | .toString => return .string (("/" : Units) ++ shown ++ "/" ++ flags)
    | .source => return .string shown
    | .flags => return .string (Units.ofChars (flags.toChars.mergeSort (fun left right => left ≤ right)))
    | .dotAll => return flag 's'
    | .global => return flag 'g'
    | .hasIndices => return flag 'd'
    | .ignoreCase => return flag 'i'
    | .multiline => return flag 'm'
    | .sticky => return flag 'y'
    | .unicode => return flag 'u'
    | .construct => return .undefined

end Run

end FencedCode.Script
