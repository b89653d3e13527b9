import FencedCode.Pattern.Property
import FencedCode.Script.Lexeme
import FencedCode.Text.Classes
import FencedCode.Text.LetterCase

/-!
# Regular expressions of scripts

Scripts match texts with expressions that can look around and refer back to groups.  An expression
is matched by trying its alternatives in order, each together with all that follows it.
-/

namespace FencedCode.Script.Regexp

open Text

/-- An item of a class. -/
inductive Item where
  | range (first last : Nat)
  | digit (negated : Bool)
  | word (negated : Bool)
  | space (negated : Bool)
  /-- The characters of a property. -/
  | property (set : CharSet) (negated : Bool)
deriving Repr

inductive Node where
  | empty
  | char (code : Nat)
  | any
  | set (negated : Bool) (items : List Item)
  | start
  | stop
  | edge (negated : Bool)
  | group (index : Option Nat) (inner : Node)
  | reference (index : Nat)
  | named (name : String)
  | sequence (first second : Node)
  | choice (first second : Node)
  /-- Repetition; the groups inside, from `firstGroup` to before `endGroup`, are forgotten in each
  round. -/
  | repeated (inner : Node) (least : Nat) (most : Option Nat) (greedy : Bool)
      (firstGroup endGroup : Nat)
  | look (ahead negated : Bool) (inner : Node)
deriving Repr, Inhabited

/-- An expression with its groups and flags. -/
structure Program where
  node : Node
  groups : Nat
  names : List (String × Nat)
  /-- Whether letters match in either case. -/
  ignoreCase : Bool
  /-- Whether lines have ends of their own. -/
  multiline : Bool
  /-- Whether the dot matches line ends. -/
  dotAll : Bool
  /-- Whether texts are matched by code points. -/
  unicode : Bool
deriving Inhabited

/-! ### Reading -/

structure Reading where
  /-- What is left, as code points. -/
  rest : List Nat
  /-- The number of groups opened so far. -/
  groups : Nat := 0
  names : List (String × Nat) := []
  /-- The greatest group referred to by number. -/
  referred : Nat := 0
  /-- The groups referred to by name. -/
  referredNames : List String := []

/-- Reads a part of an expression, or refuses it. -/
abbrev Reader := StateT Reading Option

def refuse {α : Type} : Reader α := fun _ => none

/-- The code point of a character. -/
def code (char : Char) : Nat := char.toNat

def peek? : Reader (Option Nat) := return (← get).rest.head?

/-- Consumes the next code point. -/
def next : Reader Nat := do
  match (← get).rest with
  | first :: rest =>
    modify ({ · with rest })
    return first
  | [] => refuse

/-- Consumes a given text if it comes next. -/
def accept (text : String) : Reader Bool := do
  let codes := text.toList.map code
  if codes.isPrefixOf (← get).rest then
    modify fun reading => { reading with rest := reading.rest.drop codes.length }
    return true
  return false

def digits : Reader (List Char) := do
  let isDigit := fun found => code '0' ≤ found && found ≤ code '9'
  let found := (← get).rest.takeWhile isDigit
  modify fun reading => { reading with rest := reading.rest.dropWhile isDigit }
  return found.map Char.ofNat

/-- The value of decimal digits. -/
def valueOf (digits : List Char) : Nat := Lexeme.valueOf 10 digits

/-- The code point of a number of hexadecimal digits. -/
def hexCode (count : Nat) : Reader Nat := do
  let written := ((← get).rest.take count).map Char.ofNat
  if written.length == count && written.all fun char => (hexDigit? char).isSome then
    modify fun reading => { reading with rest := reading.rest.drop count }
    return hexValue written
  refuse

/-- A name in angle brackets, behind the opening one. -/
def groupName : Reader String := do
  let chars := ((← get).rest.takeWhile (· != code '>')).map Char.ofNat
  if chars.isEmpty || !chars.all Lexeme.continuesName then refuse
  modify fun reading => { reading with rest := reading.rest.drop (chars.length + 1) }
  return .ofList chars

/-- The item of an escaped letter that stands for a class. -/
def classEscape? (found : Nat) : Option Item :=
  match Char.ofNat found with
  | 'd' => some (.digit false)
  | 'D' => some (.digit true)
  | 'w' => some (.word false)
  | 'W' => some (.word true)
  | 's' => some (.space false)
  | 'S' => some (.space true)
  | _ => none

/-- The code point of an escape, behind the backslash. -/
def charEscape (unicode : Bool) : Reader Nat := do
  let found ← next
  match Char.ofNat found with
  | 'n' => return 10
  | 't' => return 9
  | 'r' => return 13
  | 'v' => return 11
  | 'f' => return 12
  | '0' => return 0
  | 'c' =>
    match ← peek? with
    | some letter =>
      if (Char.ofNat letter).isAlpha then
        let _ ← next
        return letter % 32
      return code 'c'
    | none => return code 'c'
  | 'x' => hexCode 2 <|> (if unicode then refuse else return code 'x')
  | 'u' =>
    let braced : Reader Nat := do
      if !(unicode && (← accept "\x7b")) then refuse
      let written := ((← get).rest.takeWhile (· != code '\x7d')).map Char.ofNat
      modify fun reading => { reading with rest := reading.rest.drop (written.length + 1) }
      if written.isEmpty || !written.all fun char => (hexDigit? char).isSome then refuse
      return hexValue written
    let pair : Reader Nat := do
      let high ← hexCode 4
      if !(unicode && 0xD800 ≤ high && high < 0xDC00 && (← accept "\\u")) then refuse
      let low ← hexCode 4
      if low < 0xDC00 || 0xE000 ≤ low then refuse
      return 0x10000 + (high - 0xD800) * 0x400 + (low - 0xDC00)
    braced <|> pair <|> hexCode 4 <|> (if unicode then refuse else return code 'u')
  | char =>
    if unicode && (char.isAlphanum || char == '_') then refuse
    return found

/-- A class by a property of characters, behind the backslash. -/
def propertyItem (unicode : Bool) : Reader Item := do
  if !unicode then refuse
  let negated ← accept "P\x7b"
  let named ← if negated then pure true else accept "p\x7b"
  if !named then refuse
  let written := ((← get).rest.takeWhile (· != code '\x7d')).map Char.ofNat
  modify fun reading => { reading with rest := reading.rest.drop (written.length + 1) }
  match (PropertyQuery.ofText written).set? with
  | some set => return .property set negated
  | none => refuse

/-- An end of a range in a class, or a class in it. -/
def classAtom (unicode : Bool) : Reader (Nat ⊕ Item) := do
  if ← accept "\\" then
    match ← peek? with
    | some found =>
      match classEscape? found with
      | some item =>
        let _ ← next
        return .inr item
      | none =>
        if ← accept "b" then return .inl 8
        if ← accept "-" then return .inl (code '-')
        match ← optional (propertyItem unicode) with
        | some item => return .inr item
        | none => return .inl (← charEscape unicode)
    | none => refuse
  return .inl (← next)

/-- An item as one of a class. -/
def itemOf : Nat ⊕ Item → Item
  | .inl found => .range found found
  | .inr item => item

/-- The items of a class up to its closing bracket. -/
def classItems (unicode : Bool) : (limit : Nat) → Reader (List Item)
  | 0 => refuse
  | limit + 1 => do
    if ← accept "]" then return []
    let first ← classAtom unicode
    let before ← get
    if (← accept "-") && (← peek?) != some (code ']') then
      match first, ← classAtom unicode with
      | .inl low, .inl high =>
        if high < low then refuse
        return .range low high :: (← classItems unicode limit)
      | first, last =>
        if unicode then refuse
        return itemOf first :: .range (code '-') (code '-') :: itemOf last
          :: (← classItems unicode limit)
    set before
    return itemOf first :: (← classItems unicode limit)

/-- A count in braces, if one comes next. -/
def braces? : Reader (Option (Nat × Option Nat)) := do
  let before ← get
  let count : Reader (Nat × Option Nat) := do
    if !(← accept "\x7b") then refuse
    let least ← digits
    if least.isEmpty then refuse
    if ← accept "\x7d" then return (valueOf least, some (valueOf least))
    if !(← accept ",") then refuse
    let most ← digits
    if !(← accept "\x7d") then refuse
    return (valueOf least, if most.isEmpty then none else some (valueOf most))
  match ← optional count with
  | some count => return some count
  | none =>
    set before
    return none

/-- A count of repetitions, if one comes next. -/
def quantifier? : Reader (Option (Nat × Option Nat)) := do
  if ← accept "*" then return some (0, none)
  if ← accept "+" then return some (1, none)
  if ← accept "?" then return some (0, some 1)
  braces?

mutual

def readChoice (unicode : Bool) : (limit : Nat) → Reader Node
  | 0 => refuse
  | limit + 1 => do
    let first ← readSequence unicode limit
    if ← accept "|" then return .choice first (← readChoice unicode limit)
    return first

def readSequence (unicode : Bool) : (limit : Nat) → Reader Node
  | 0 => refuse
  | limit + 1 => do
    match ← peek? with
    | none => return .empty
    | some found =>
      if found == code '|' || found == code ')' then return .empty
      let before := (← get).groups
      let (atom, repeats) ← readAtom unicode limit
      let part ← match ← (if repeats then quantifier? else pure none) with
        | some (least, most) =>
          if most.any (· < least) then refuse
          let greedy := !(← accept "?")
          pure (.repeated atom least most greedy (before + 1) ((← get).groups + 1))
        | none => pure atom
      return .sequence part (← readSequence unicode limit)

/-- One part, and whether it can be repeated. -/
def readAtom (unicode : Bool) : (limit : Nat) → Reader (Node × Bool)
  | 0 => refuse
  | limit + 1 => do
    let close (node : Node) : Reader Node := do
      if ← accept ")" then return node
      refuse
    if ← accept "^" then return (.start, false)
    if ← accept "$" then return (.stop, false)
    if ← accept "." then return (.any, true)
    if ← accept "(?:" then return (.group none (← close (← readChoice unicode limit)), true)
    if ← accept "(?=" then
      return (.look true false (← close (← readChoice unicode limit)), !unicode)
    if ← accept "(?!" then
      return (.look true true (← close (← readChoice unicode limit)), !unicode)
    if ← accept "(?<=" then return (.look false false (← close (← readChoice unicode limit)), false)
    if ← accept "(?<!" then return (.look false true (← close (← readChoice unicode limit)), false)
    if ← accept "(" then
      let index := (← get).groups + 1
      modify ({ · with groups := index })
      if ← accept "?" then
        if !(← accept "<") then refuse
        let name ← groupName
        if ((← get).names.lookup name).isSome then refuse
        modify fun reading => { reading with names := reading.names ++ [(name, index)] }
      return (.group (some index) (← close (← readChoice unicode limit)), true)
    if ← accept "[" then
      let negated ← accept "^"
      return (.set negated (← classItems unicode ((← get).rest.length + 1)), true)
    if ← accept "\\" then
      if ← accept "b" then return (.edge false, false)
      if ← accept "B" then return (.edge true, false)
      if ← accept "k<" then
        let name ← groupName
        modify fun reading => { reading with referredNames := name :: reading.referredNames }
        return (.named name, true)
      match ← peek? with
      | some found =>
        match classEscape? found with
        | some item =>
          let _ ← next
          return (.set false [item], true)
        | none =>
          if code '1' ≤ found && found ≤ code '9' then
            let index := valueOf (← digits)
            modify fun reading => { reading with referred := max reading.referred index }
            return (.reference index, true)
          match ← optional (propertyItem unicode) with
          | some item => return (.set false [item], true)
          | none => return (.char (← charEscape unicode), true)
      | none => refuse
    let found ← next
    match Char.ofNat found with
    | '*' | '+' | '?' | ')' => refuse
    | '\x7b' | '\x7d' | ']' => if unicode then refuse else return (.char found, true)
    | _ => return (.char found, true)

end

/-- Reads an expression with its flags. -/
def parse? (source flags : Units) : Option Program := do
  let marks := flags.toChars
  let known := "dgimsuvy".toList
  if !(marks.all known.contains) || marks.eraseDups.length != marks.length then none
  let unicode := marks.contains 'u' || marks.contains 'v'
  let codes := if unicode then source.codePoints else source.codes.toList.map (·.toNat)
  let limit := 4 * codes.length + 4
  let (node, reading) ← (readChoice unicode limit).run { rest := codes }
  if !reading.rest.isEmpty then none
  if unicode && reading.groups < reading.referred then none
  if !reading.referredNames.all fun name => (reading.names.lookup name).isSome then none
  return { node, groups := reading.groups, names := reading.names, unicode
           ignoreCase := marks.contains 'i', multiline := marks.contains 'm'
           dotAll := marks.contains 's' }

/-! ### Matching -/

/-- Where a match stands: a place and what the groups hold. -/
structure Progress where
  place : Nat
  /-- The start and the end of what each group holds. -/
  groups : Array (Option (Nat × Nat))
deriving Inhabited

/-- Whether a code point ends a line. -/
def isLineEnd (found : Nat) : Bool :=
  found == 10 || found == 13 || found == 0x2028 || found == 0x2029

/-- Whether a code point is an ASCII letter, a digit or an underscore. -/
def isWord (found : Nat) : Bool := found < 128 && isAsciiWord (.ofNat found)

/-- Whether a code point is a blank or ends a line. -/
def isSpace (found : Nat) : Bool :=
  isLineEnd found || (found.isValidChar && Lexeme.isBlank (.ofNat found))

/-- The form of a code point in which letters of either case agree. -/
def fold (ignoreCase : Bool) (found : Nat) : Nat :=
  if !ignoreCase || !found.isValidChar then found
  else match upperOf (.ofNat found) with
    | [upper] => if upper.toNat < 128 && 128 ≤ found then found else upper.toNat
    | _ => found

/-- Whether an item holds a code point. -/
def Item.contains (ignoreCase : Bool) (found : Nat) : Item → Bool
  | .range first last =>
    (first ≤ found && found ≤ last)
      || (ignoreCase && found < 0x250 && (List.range (min (last + 1 - first) 0x250)).any fun offset =>
        fold true (first + offset) == fold true found)
  | .digit negated => (48 ≤ found && found ≤ 57) != negated
  | .word negated => isWord found != negated
  | .space negated => isSpace found != negated
  | .property set negated => (found.isValidChar && set.contains (.ofNat found)) != negated

/-- Whether a place lies between a word character and another one. -/
def atEdge (text : Array Nat) (place : Nat) : Bool :=
  let before := 0 < place && (text[place - 1]?).any isWord
  before != (text[place]?).any isWord

def held (progress : Progress) (index : Nat) : Option (Nat × Nat) :=
  (progress.groups[index]?).join

/-- Moves over one code point that satisfies a condition. -/
def stepOver (text : Array Nat) (forward : Bool) (progress : Progress) (condition : Nat → Bool) :
    Option Progress :=
  if forward then
    match text[progress.place]? with
    | some found =>
      if condition found then some { progress with place := progress.place + 1 } else none
    | none => none
  else if progress.place = 0 then none
  else
    match text[progress.place - 1]? with
    | some found =>
      if condition found then some { progress with place := progress.place - 1 } else none
    | none => none

/-- Moves over what a group holds. -/
def stepOverAgain (program : Program) (text : Array Nat) (forward : Bool) (progress : Progress)
    (index : Nat) : Option Progress :=
  match held progress index with
  | none => some progress
  | some (start, stop) =>
    let size := stop - start
    let origin := if forward then progress.place else progress.place - size
    if !forward && progress.place < size then none
    else
      let agrees := (List.range size).all fun offset =>
        match text[start + offset]?, text[origin + offset]? with
        | some left, some right => fold program.ignoreCase left == fold program.ignoreCase right
        | _, _ => false
      if agrees then
        some { progress with place := if forward then progress.place + size else origin }
      else none

/-- Matches an expression at a place together with all that follows. -/
def run (program : Program) (text : Array Nat) :
    (limit : Nat) → (forward : Bool) → Node → Progress → (Progress → Option Progress) →
    Option Progress
  | 0, _, _, _, _ => none
  | limit + 1, forward, node, progress, rest =>
    match node with
    | .empty => rest progress
    | .char code =>
      (stepOver text forward progress fun found =>
        fold program.ignoreCase found == fold program.ignoreCase code).bind rest
    | .any => (stepOver text forward progress fun found =>
        program.dotAll || !isLineEnd found).bind rest
    | .set negated items =>
      (stepOver text forward progress fun found =>
        items.any (Item.contains program.ignoreCase found) != negated).bind rest
    | .start =>
      if progress.place = 0 || (program.multiline && (text[progress.place - 1]?).any isLineEnd) then
        rest progress
      else none
    | .stop =>
      if progress.place = text.size || (program.multiline && (text[progress.place]?).any isLineEnd)
      then rest progress
      else none
    | .edge negated => if atEdge text progress.place != negated then rest progress else none
    | .group index inner =>
      run program text limit forward inner progress fun after =>
        match index with
        | some index =>
          let bounds := (min progress.place after.place, max progress.place after.place)
          rest { after with groups := after.groups.setIfInBounds index (some bounds) }
        | none => rest after
    | .reference index => (stepOverAgain program text forward progress index).bind rest
    | .named name =>
      match program.names.lookup name with
      | some index => (stepOverAgain program text forward progress index).bind rest
      | none => none
    | .sequence first second =>
      let (first, second) := if forward then (first, second) else (second, first)
      run program text limit forward first progress fun after =>
        run program text limit forward second after rest
    | .choice first second =>
      (run program text limit forward first progress rest).or
        (run program text limit forward second progress rest)
    | .repeated inner least most greedy firstGroup endGroup =>
      if most == some 0 then rest progress
      else
        let groups := (List.range (endGroup - firstGroup)).foldl
          (fun groups offset => groups.setIfInBounds (firstGroup + offset) none) progress.groups
        let again := fun (_ : Unit) =>
          run program text limit forward inner { progress with groups } fun after =>
            if least = 0 && after.place = progress.place then none
            else run program text limit forward
              (.repeated inner (least - 1) (most.map (· - 1)) greedy firstGroup endGroup) after rest
        if 0 < least then again ()
        else if greedy then (again ()).or (rest progress)
        else (rest progress).or (again ())
    | .look ahead negated inner =>
      match run program text limit ahead inner progress some, negated with
      | some after, false => rest { after with place := progress.place }
      | none, true => rest progress
      | _, _ => none

/-- The match of an expression at a place: its end and what its groups hold. -/
def matchAt? (program : Program) (text : Array Nat) (place : Nat) : Option Progress :=
  run program text (100 * text.size + 10000) true program.node
    { place, groups := Array.replicate (program.groups + 1) none } some

/-- The first match from a place on, at most `limit` places further: its start, its end and what its
groups hold. -/
def search? (program : Program) (text : Array Nat) : (limit place : Nat) → Option (Nat × Progress)
  | 0, _ => none
  | limit + 1, place =>
    match matchAt? program text place with
    | some progress => some (place, progress)
    | none => if place < text.size then search? program text limit (place + 1) else none

end FencedCode.Script.Regexp
