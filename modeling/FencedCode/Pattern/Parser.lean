import FencedCode.Pattern.Basic
import FencedCode.Pattern.Property

/-!
# The written form of patterns

Reads a pattern from its text.  The language has alternation, greedy, lazy and counted repetition,
groups with and without names, flags for a group or for the rest of one, classes that nest and that
can be intersected, and escapes for characters, classes and assertions.  It has nothing that looks
further than one character around a place: no look-around and no references to earlier groups.

A pattern that could match part of an encoded character is refused, as is one that is nested too
deeply to be compiled.  No limit is set to the size of what a pattern is compiled to.
-/

namespace FencedCode

open Text

namespace Pattern

/-- The switches in force while a pattern is read. -/
structure Flags where
  /-- Letters match in either case. -/
  ignoreCase : Bool := false
  /-- Line assertions hold at every line, not only at the ends of the text. -/
  multiLine : Bool := false
  /-- The dot matches line terminators too. -/
  dotAll : Bool := false
  /-- Repetition is lazy unless marked otherwise. -/
  swapGreed : Bool := false
  /-- Classes and word edges are those of all scripts, not of ASCII alone. -/
  unicode : Bool := true
  /-- A carriage return ends a line too. -/
  anyLineEnd : Bool := false
  /-- Blanks and comments between the parts of the pattern are passed over. -/
  verbose : Bool := false
deriving DecidableEq, Repr

/-- Something read, with the number of levels that are nested in it. -/
structure Nested (α : Type) where
  value : α
  /-- The number of levels below it, itself included. -/
  depth : Nat := 0
deriving Repr

/-- One part of a sequence: a pattern, or a change of flags, which cannot be repeated. -/
inductive Piece where
  | pattern (pattern : Nested Pattern)
  | flags
deriving Repr

inductive Escape where
  /-- A character; `highByte` marks two hexadecimal digits that lie beyond ASCII. -/
  | char (char : Char) (highByte : Bool)
  | set (set : CharSet)
  | assertion (assertion : Assertion)
deriving Repr

/-- What is left to read, and what has been seen. -/
structure Reading where
  rest : List Char
  flags : Flags := {}
  /-- The names of the groups opened so far. -/
  names : List String := []
deriving Repr

/-- A step of reading, which may refuse. -/
abbrev Reader := StateT Reading Option

namespace Reader

def refuse {α : Type} : Reader α := fun _ => none

/-- The next character, without consuming it. -/
def peek? : Reader (Option Char) := return (← get).rest.head?

def skip (count : Nat) : Reader Unit :=
  modify fun reading => { reading with rest := reading.rest.drop count }

/-- Consumes the next character and returns it; refuses at the end. -/
def next : Reader Char := do
  let char :: _ := (← get).rest | refuse
  skip 1
  return char

/-- Consumes a given text, if it comes next. -/
def accept (text : String) : Reader Bool := do
  if text.toList.isPrefixOf (← get).rest then
    skip text.length
    return true
  return false

/-- The text behind blanks and comments. -/
def afterBlanks (chars : List Char) : List Char :=
  go false chars
where
  /-- Drops blanks, and inside a comment everything up to the end of the line. -/
  go (inComment : Bool) : List Char → List Char
    | [] => []
    | char :: rest =>
      if inComment then go (char != '\n') rest
      else if isBlank char then go false rest
      else if char == '#' then go true rest
      else char :: rest

/-- Passes over blanks and comments if the flags say so. -/
def skipBlanks : Reader Unit :=
  modify fun reading =>
    if reading.flags.verbose then { reading with rest := afterBlanks reading.rest } else reading

/-- Consumes one character and the blanks behind it. -/
def skipWithBlanks : Reader Unit := do
  skip 1
  skipBlanks

/-- The characters, each read with the blanks behind it, up to `limit` of those that satisfy a
condition. -/
def takeSpaced (condition : Char → Bool) : Nat → Reader (List Char)
  | 0 => return []
  | limit + 1 => do
    match ← peek? with
    | some char =>
      if condition char then
        skipWithBlanks
        return char :: (← takeSpaced condition limit)
      else return []
    | none => return []

/-- All characters to come that satisfy a condition, each read with the blanks behind it. -/
def takeSpacedAll (condition : Char → Bool) : Reader (List Char) := do
  takeSpaced condition (← get).rest.length

end Reader

open Reader

/-! ### Escapes -/

/-- Characters that have a meaning of their own in a pattern. -/
def metaChars : List Char := "\\.+*?()|[]\x7b\x7d^$#&-~".toList

/-- Whether a backslash may stand before a character that needs none. -/
def isEscapable (char : Char) : Bool :=
  metaChars.contains char ||
    (char.toNat < 128 && !char.isAlphanum && char != '<' && char != '>')

/-- The character of a code point; refuses numbers that are none. -/
def charOfCode (code : Nat) : Reader Char :=
  if code.isValidChar then return .ofNat code else refuse

/-- Hexadecimal digits after `\x`, `\u` or `\U`: in braces, or as many as the letter asks for. -/
def readHex (letter : Char) : Reader Escape := do
  skipWithBlanks
  match ← peek? with
  | none => refuse
  | some '{' =>
    skipWithBlanks
    let digits ← takeSpacedAll (· != '}')
    let some '}' := ← peek? | refuse
    if digits.isEmpty || !digits.all (fun digit => (hexDigit? digit).isSome) then refuse
    skipWithBlanks
    return .char (← charOfCode (hexValue digits)) false
  | some _ =>
    let count := if letter == 'x' then 2 else if letter == 'u' then 4 else 8
    let digits ← takeSpaced (fun digit => (hexDigit? digit).isSome) count
    if digits.length != count then refuse
    let char ← charOfCode (hexValue digits)
    return .char char (letter == 'x' && 128 ≤ char.toNat)

/-- A class by its property, after `\p` or `\P`. -/
def readProperty (negated : Bool) : Reader CharSet := do
  if !(← get).flags.unicode then refuse
  skipWithBlanks
  let query ← match ← peek? with
    | none => refuse
    | some '{' =>
      skipWithBlanks
      let name ← takeSpacedAll (· != '}')
      let some '}' := ← peek? | refuse
      skip 1
      pure (PropertyQuery.ofText name)
    | some '\\' => refuse
    | some letter =>
      skipWithBlanks
      pure { name := [letter] }
  let some set := query.set? | refuse
  let closed := if (← get).flags.ignoreCase then CharSet.anyCase set else set
  return if negated != query.differs then .complement closed else closed

/-- The classes `\d`, `\s`, `\w` and their complements. -/
def shorthandClass (letter : Char) : Reader CharSet := do
  let unicode := (← get).flags.unicode
  let set := match letter.toLower with
    | 'd' => if unicode then .named .decimal else .range '0' '9'
    | 's' => if unicode then .named .blank else AsciiClass.space.set
    | _ => if unicode then .named .word else AsciiClass.word.set
  if letter.isUpper then
    if unicode then return .complement set else refuse
  else return set

/-- The word edge named in braces after `\b`, if the braces hold a name. -/
def readNamedEdge? : Reader (Option WordEdge) := do
  let isNameChar (char : Char) : Bool := char.isAlpha || char == '-'
  let entry ← get
  skipWithBlanks
  match ← peek? with
  | none => refuse
  | some char =>
    if !isNameChar char then
      set entry
      return none
    let name ← takeSpacedAll isNameChar
    let some '}' := ← peek? | refuse
    skip 1
    match String.ofList name with
    | "start" => return some .opening
    | "end" => return some .closing
    | "start-half" => return some .halfOpening
    | "end-half" => return some .halfClosing
    | _ => refuse

def readEscape : Reader Escape := do
  skip 1
  let some letter := ← peek? | refuse
  let edge (edge : WordEdge) : Reader Escape :=
    return .assertion (.word edge (!(← get).flags.unicode))
  if letter.isDigit then refuse
  if ['x', 'u', 'U'].contains letter then return ← readHex letter
  if letter == 'p' || letter == 'P' then return .set (← readProperty (letter == 'P'))
  skip 1
  if ['d', 's', 'w', 'D', 'S', 'W'].contains letter then return .set (← shorthandClass letter)
  if isEscapable letter then return .char letter false
  match letter with
  | 'a' => return .char '\x07' false
  | 'f' => return .char '\x0c' false
  | 't' => return .char '\t' false
  | 'n' => return .char '\n' false
  | 'r' => return .char '\r' false
  | 'v' => return .char '\x0b' false
  | 'A' => return .assertion .textStart
  | 'z' => return .assertion .textEnd
  | 'b' =>
    if (← peek?) == some '{' then
      match ← readNamedEdge? with
      | some named => edge named
      | none => edge .boundary
    else edge .boundary
  | 'B' => edge .noBoundary
  | '<' => edge .opening
  | '>' => edge .closing
  | _ => refuse

/-! ### Classes -/

/-- One end of a range, or a class inside a class. -/
inductive ClassItem where
  | char (char : Char)
  | set (set : CharSet)
deriving Repr

/-- Closes a class under the case of letters if the flags say so, then complements it if it is
negated.  Where classes are of ASCII alone, a class that reaches beyond is refused. -/
def closeClass (negated : Bool) (set : CharSet) : Reader CharSet := do
  let flags := (← get).flags
  let closed :=
    if !flags.ignoreCase then set
    else if flags.unicode then CharSet.anyCase set
    else CharSet.anyAsciiCase set
  let result := if negated then CharSet.complement closed else closed
  if flags.unicode || result.isAscii then return result else refuse

/-- A character or an escape inside a class. -/
def readClassItem : Reader ClassItem := do
  match ← peek? with
  | none => refuse
  | some '\\' =>
    match ← readEscape with
    | .char char highByte =>
      if !(← get).flags.unicode && (highByte || 128 ≤ char.toNat) then refuse
      return .char char
    | .set set => return .set set
    | .assertion _ => refuse
  | some char =>
    skip 1
    if !(← get).flags.unicode && 128 ≤ char.toNat then refuse
    return .char char

/-- The first character behind blanks, where these are passed over, one place further on. -/
def peekSecond? : Reader (Option Char) := do
  let reading ← get
  let rest := reading.rest.drop 1
  return (if reading.flags.verbose then afterBlanks rest else rest).head?

/-- A range, or a single item of a class. -/
def readRange : Reader CharSet := do
  let first ← readClassItem
  skipBlanks
  let some char := ← peek? | refuse
  let second ← peekSecond?
  if char != '-' || second == some ']' || second == some '-' then
    match first with
    | .char char => return .single char
    | .set set => return set
  else
    skipWithBlanks
    match first, ← readClassItem with
    | .char first, .char last => if first ≤ last then return .range first last else refuse
    | _, _ => refuse

/-- A class of ASCII characters by its name, as in `[:alpha:]`.  If what follows is not of that
form, nothing is consumed. -/
def readAsciiClass? : Reader (Option CharSet) := do
  let entry ← get
  let reset : Reader (Option CharSet) := do
    set entry
    return none
  if !(← accept "[:") then return ← reset
  let negated ← accept "^"
  let name := (← get).rest.takeWhile (· != ':')
  skip name.length
  if !(← accept ":]") then return ← reset
  match AsciiClass.ofName? (String.ofList name) with
  | some named => return some (← closeClass negated named.set)
  | none => reset

/-- The operators between the operands of a class. -/
inductive ClassOperator where
  | inter
  | diff
  | symmDiff
deriving DecidableEq, Repr

namespace ClassOperator

/-- The set that the operator makes of its operands. -/
def apply : ClassOperator → CharSet → CharSet → CharSet
  | inter => .inter
  | diff => .diff
  | symmDiff => .symmDiff

end ClassOperator

/-- The part of a class that has been read: the operand so far, and the operator that waits for it
with its other operand. -/
structure ClassState where
  /-- The items of the current operand. -/
  items : List (Nested CharSet) := []
  /-- The operand and the operator before the current operand. -/
  pending : Option (Nested CharSet × ClassOperator) := none
deriving Repr

namespace ClassState

/-- Adds an item to the current operand. -/
def push (state : ClassState) (item : Nested CharSet) : ClassState :=
  { state with items := state.items ++ [item] }

/-- The union of the items of the current operand. -/
def operand (state : ClassState) : Nested CharSet :=
  match state.items with
  | [] => { value := .empty }
  | [item] => item
  | items =>
    { value := items.foldl (fun set item => .union set item.value) .empty
      depth := 1 + items.foldl (fun depth item => max depth item.depth) 0 }

/-- Joins the current operand with the one that waits for it.  Operands are closed under the case
of letters before an operator sees them. -/
def close (state : ClassState) (anyCase : CharSet → CharSet) : Nested CharSet :=
  match state.pending with
  | none => state.operand
  | some (left, operator) =>
    { value := operator.apply (anyCase left.value) (anyCase state.operand.value)
      depth := 1 + max left.depth state.operand.depth }

end ClassState

/-- How operands of a class are closed under the case of letters. -/
def operandCase : Reader (CharSet → CharSet) := do
  let flags := (← get).flags
  return if !flags.ignoreCase then id
    else if flags.unicode then CharSet.anyCase else CharSet.anyAsciiCase

/-- The hyphens and the closing bracket that stand for themselves at the start of a class. -/
def readLeadingItems (limit : Nat) (state : ClassState) : Reader ClassState := do
  let hyphens ← takeSpaced (· == '-') limit
  let state := hyphens.foldl (fun state _ => state.push { value := .single '-' }) state
  if hyphens.isEmpty && (← peek?) == some ']' then
    skipWithBlanks
    return state.push { value := .single ']' }
  return state

/-- The rest of a class, after its opening bracket, up to and including the closing one.  Every
round consumes a character, so that `fuel` suffices if it exceeds what is left to read. -/
def readClass (fuel : Nat) : Reader (Nested CharSet) := do
  skipBlanks
  let negated := (← peek?) == some '^'
  if negated then skipWithBlanks
  let state ← readLeadingItems (← get).rest.length {}
  items fuel negated state
where
  /-- Reads items up to the closing bracket. -/
  items (fuel : Nat) (negated : Bool) (state : ClassState) : Reader (Nested CharSet) := do
    match fuel with
    | 0 => refuse
    | fuel + 1 =>
      skipBlanks
      let operator (operator : ClassOperator) : Reader (Nested CharSet) := do
        skip 2
        let left := state.close (← operandCase)
        items fuel negated { pending := some (left, operator) }
      match (← get).rest with
      | [] => refuse
      | '[' :: _ =>
        match ← readAsciiClass? with
        | some set => items fuel negated (state.push { value := set })
        | none =>
          skip 1
          skipBlanks
          let innerNegated := (← peek?) == some '^'
          if innerNegated then skipWithBlanks
          let inner ← items fuel innerNegated (← readLeadingItems (← get).rest.length {})
          items fuel negated (state.push inner)
      | ']' :: _ =>
        skip 1
        let closed := state.close (← operandCase)
        let set ← closeClass negated closed.value
        return { value := set, depth := 1 + closed.depth }
      | '&' :: '&' :: _ => operator .inter
      | '-' :: '-' :: _ => operator .diff
      | '~' :: '~' :: _ => operator .symmDiff
      | _ => items fuel negated (state.push { value := ← readRange })

/-! ### Groups and flags -/

def Flags.change (flags : Flags) (letter : Char) (on : Bool) : Option Flags :=
  match letter with
  | 'i' => some { flags with ignoreCase := on }
  | 'm' => some { flags with multiLine := on }
  | 's' => some { flags with dotAll := on }
  | 'U' => some { flags with swapGreed := on }
  | 'u' => some { flags with unicode := on }
  | 'R' => some { flags with anyLineEnd := on }
  | 'x' => some { flags with verbose := on }
  | _ => none

/-- Applies a list of flag letters; those after a hyphen are switched off.  No letter may come
twice, a hyphen may come once, and a letter must follow it. -/
def Flags.changeAll (flags : Flags) (letters : List Char) : Option Flags :=
  if letters.getLast? == some '-' || !decide letters.Nodup then none
  else go flags true letters
where
  /-- Applies the letters one by one. -/
  go (flags : Flags) (on : Bool) : List Char → Option Flags
    | [] => some flags
    | '-' :: letters => go flags false letters
    | letter :: letters => do go (← flags.change letter on) on letters

/-- The kinds of opening parenthesis. -/
inductive Opening where
  /-- A change of flags for the rest of the enclosing group. -/
  | flags (flags : Flags)
  /-- A group, with the flags in force inside. -/
  | group (flags : Flags)
deriving Repr

/-- The name of a group, up to the closing angle. -/
def readGroupName : Reader Unit := do
  let name := (← get).rest.takeWhile (· != '>')
  skip name.length
  if !(← accept ">") then refuse
  let isFirst (char : Char) : Bool := char == '_' || isAlphabetic char
  let isLater (char : Char) : Bool :=
    ['_', '.', '[', ']'].contains char || isAlphanumeric char
  match name with
  | [] => refuse
  | first :: rest =>
    if !isFirst first || !rest.all isLater then refuse
  let name := String.ofList name
  if (← get).names.contains name then refuse
  modify fun reading => { reading with names := name :: reading.names }

/-- What stands between an opening parenthesis and the content of the group. -/
def readOpening : Reader Opening := do
  skip 1
  skipBlanks
  let flags := (← get).flags
  for look in ["?=", "?!", "?<=", "?<!"] do
    if look.toList.isPrefixOf (← get).rest then refuse
  if ← accept "?P<" then
    readGroupName
    return .group flags
  if ← accept "?<" then
    readGroupName
    return .group flags
  if ← accept "?" then
    let letters := (← get).rest.takeWhile fun char => char != ':' && char != ')'
    skip letters.length
    let some changed := flags.changeAll letters | refuse
    let closing ← next
    if closing == ':' then return .group changed
    if letters.isEmpty then refuse
    return .flags changed
  return .group flags

/-! ### Repetition -/

/-- A number, with blanks around it. -/
def readCount? : Reader (Option Nat) := do
  let dropBlanks : Reader Unit :=
    modify fun reading => { reading with rest := reading.rest.dropWhile isBlank }
  dropBlanks
  let digits ← takeSpacedAll Char.isDigit
  dropBlanks
  skipBlanks
  if digits.isEmpty then return none
  let value := digits.foldl (fun value digit => value * 10 + (digit.toNat - '0'.toNat)) 0
  if value < UInt32.size then return some value else refuse

/-- The bounds of a counted repetition, from the opening brace to the closing one. -/
def readBounds : Reader (Nat × Option Nat) := do
  skipWithBlanks
  let first ← readCount?
  let some least := first | refuse
  let bounds ← if (← peek?) == some ',' then do
      skipWithBlanks
      if (← peek?) == some '}' then pure (least, none)
      else
        let some most := ← readCount? | refuse
        if most < least then refuse
        pure (least, some most)
    else pure (least, some least)
  if (← peek?) != some '}' then refuse
  skipWithBlanks
  return bounds

/-- Repeats the last piece read. -/
def repeatLast (pieces : List Piece) (least : Nat) (most : Option Nat) (lazily : Bool) :
    Reader (List Piece) := do
  match pieces.getLast? with
  | some (.pattern body) =>
    let greedy := lazily == (← get).flags.swapGreed
    return pieces.dropLast ++
      [.pattern { value := .repeated body.value least most greedy, depth := 1 + body.depth }]
  | _ => refuse

/-! ### Sequences -/

/-- One character of the pattern that stands for itself. -/
def literalChar (char : Char) : Reader Pattern := do
  let flags := (← get).flags
  let set :=
    if !flags.ignoreCase then CharSet.single char
    else if flags.unicode then .anyCase (.single char)
    else if char.toNat < 128 then .anyAsciiCase (.single char)
    else .single char
  return .one set

def dot : Reader Pattern := do
  let flags := (← get).flags
  if !flags.unicode then refuse
  if flags.dotAll then return .one (.named .any)
  return .one (.complement (.ofList (if flags.anyLineEnd then ['\r', '\n'] else ['\n'])))

/-- The assertion of `^` or of `$`. -/
def lineAssertion (atStart : Bool) : Reader Pattern := do
  let flags := (← get).flags
  return .assert <|
    if !flags.multiLine then if atStart then .textStart else .textEnd
    else if flags.anyLineEnd then if atStart then .anyLineStart else .anyLineEnd
    else if atStart then .lineStart else .lineEnd

/-- A part of the pattern that is no group, class or repetition. -/
def readPrimitive (char : Char) : Reader Pattern := do
  match char with
  | '\\' =>
    match ← readEscape with
    | .char char highByte =>
      if highByte && !(← get).flags.unicode then refuse
      literalChar char
    | .set set => return .one set
    | .assertion assertion => return .assert assertion
  | '.' => skip 1; dot
  | '^' => skip 1; lineAssertion true
  | '$' => skip 1; lineAssertion false
  | char => skip 1; literalChar char

/-- The pattern of a sequence of pieces. -/
def sequence (pieces : List Piece) : Nested Pattern :=
  let patterns := pieces.filterMap fun
    | .pattern pattern => some pattern
    | .flags => none
  let value := match patterns with
    | [] => .empty
    | first :: others => others.foldl (fun pattern other => .seq pattern other.value) first.value
  let depth := patterns.foldl (fun depth pattern => max depth pattern.depth) 0
  { value, depth := if pieces.length ≤ 1 then depth else depth + 1 }

/-- The pattern of the alternatives of a group, the first one preferred. -/
def alternatives (options : List (Nested Pattern)) : Nested Pattern :=
  match options with
  | [] => { value := .empty }
  | [option] => option
  | first :: others =>
    { value := others.foldl (fun pattern other => .alt pattern other.value) first.value
      depth := 1 + options.foldl (fun depth option => max depth option.depth) 0 }

/-- The content of a group, or with `nested = false` of the whole pattern: the alternatives read so
far, the pieces of the current one, and what follows.  Every round consumes a character, so that
`fuel` suffices if it exceeds what is left to read. -/
def readGroup (fuel : Nat) (nested : Bool) (options : List (Nested Pattern))
    (pieces : List Piece) : Reader (Nested Pattern) := do
  match fuel with
  | 0 => refuse
  | fuel + 1 =>
    skipBlanks
    let finish : Nested Pattern := alternatives (options ++ [sequence pieces])
    let repetition (least : Nat) (most : Option Nat) : Reader (Nested Pattern) := do
      readGroup fuel nested options (← repeatLast pieces least most (← accept "?"))
    match ← peek? with
    | none => if nested then refuse else return finish
    | some '(' =>
      match ← readOpening with
      | .flags flags =>
        modify fun reading => { reading with flags }
        readGroup fuel nested options (pieces ++ [.flags])
      | .group flags =>
        let outer := (← get).flags
        modify fun reading => { reading with flags }
        let body ← readGroup fuel true [] []
        modify fun reading => { reading with flags := outer }
        readGroup fuel nested options
          (pieces ++ [.pattern { body with depth := 1 + body.depth }])
    | some ')' =>
      if !nested then refuse
      skip 1
      return finish
    | some '|' =>
      skip 1
      readGroup fuel nested (options ++ [sequence pieces]) []
    | some '[' =>
      skip 1
      let set ← readClass (← get).rest.length.succ
      readGroup fuel nested options (pieces ++ [.pattern { set with value := .one set.value }])
    | some '?' => skip 1; repetition 0 (some 1)
    | some '*' => skip 1; repetition 0 none
    | some '+' => skip 1; repetition 1 none
    | some '{' =>
      if pieces.isEmpty then refuse
      let (least, most) ← readBounds
      repetition least most
    | some char =>
      let pattern ← readPrimitive char
      readGroup fuel nested options (pieces ++ [.pattern { value := pattern }])

/-- How deeply a pattern may be nested. -/
def maxDepth : Nat := 250

/-- The pattern that a text denotes, unless the text is refused. -/
def parse? (text : String) : Option Pattern := do
  let chars := text.toList
  let (result, _) ← (readGroup (chars.length + 1) false [] []).run { rest := chars }
  if result.depth ≤ maxDepth then some result.value else none

end Pattern

end FencedCode
