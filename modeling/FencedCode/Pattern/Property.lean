import FencedCode.Pattern.CharSet
import FencedCode.Text.Listed

/-!
# Named classes

The names under which a pattern can ask for a class: properties of Unicode, as in `\p{Lu}`, and
classes of ASCII characters, as in `[:alpha:]`.  The general categories are known, the scripts, and
most of the properties that a character has or lacks.  A pattern that asks for another one is
refused, be it the age of a character, the scripts it is used in besides its own, how it is
mirrored, what case conversion does to it, or where a text is segmented at it.
-/

namespace FencedCode

open Text

/-- What stands between the braces of a class by property: a name, or a property and a value. -/
structure PropertyQuery where
  /-- The name, or the value if a property is named too. -/
  name : List Char
  /-- The property whose value is asked for. -/
  property : Option (List Char) := none
  /-- Whether the characters that lack the property are meant. -/
  differs : Bool := false
deriving Repr

namespace PropertyQuery

/-- Splits a list at the first place where `mark` stands. -/
def splitAtText? (mark : List Char) : List Char → Option (List Char × List Char)
  | [] => none
  | char :: rest =>
    if mark.isPrefixOf (char :: rest) then some ([], (char :: rest).drop mark.length)
    else (splitAtText? mark rest).map fun (before, after) => (char :: before, after)

/-- Reads what stands between the braces. -/
def ofText (text : List Char) : PropertyQuery :=
  match splitAtText? ['!', '='] text with
  | some (property, value) => { name := value, property := some property, differs := true }
  | none =>
    match splitAtText? [':'] text with
    | some (property, value) => { name := value, property := some property }
    | none =>
      match splitAtText? ['='] text with
      | some (property, value) => { name := value, property := some property }
      | none => { name := text }

/-- Names are compared without regard to case, blanks, hyphens and underscores, and a leading `is`
does not count. -/
def looseName (name : List Char) : String :=
  let startsWithIs := (name.take 2).map Char.toLower == ['i', 's']
  let rest := if startsWithIs then name.drop 2 else name
  let kept := rest.filter fun char =>
    char.toNat < 128 && !([' ', '_', '-'].contains char)
  let loose := String.ofList (kept.map Char.toLower)
  if startsWithIs && loose == "c" then "isc" else loose

/-- The general categories by their names. -/
def categoryNames : List (List String × List Category) :=
  [(["lc", "casedletter"], [.uppercaseLetter, .lowercaseLetter, .titlecaseLetter]),
   (["pe", "closepunctuation"], [.closePunctuation]),
   (["pc", "connectorpunctuation"], [.connectorPunctuation]),
   (["cc", "control", "cntrl"], [.control]),
   (["sc", "currencysymbol"], [.currencySymbol]),
   (["pd", "dashpunctuation"], [.dashPunctuation]),
   (["nd", "decimalnumber", "digit"], [.decimalNumber]),
   (["me", "enclosingmark"], [.enclosingMark]),
   (["pf", "finalpunctuation"], [.finalPunctuation]),
   (["cf", "format"], [.format]),
   (["pi", "initialpunctuation"], [.initialPunctuation]),
   (["l", "letter"], letterCategories),
   (["nl", "letternumber"], [.letterNumber]),
   (["zl", "lineseparator"], [.lineSeparator]),
   (["ll", "lowercaseletter"], [.lowercaseLetter]),
   (["m", "mark", "combiningmark"], markCategories),
   (["sm", "mathsymbol"], [.mathSymbol]),
   (["lm", "modifierletter"], [.modifierLetter]),
   (["sk", "modifiersymbol"], [.modifierSymbol]),
   (["mn", "nonspacingmark"], [.nonspacingMark]),
   (["n", "number"], [.decimalNumber, .letterNumber, .otherNumber]),
   (["ps", "openpunctuation"], [.openPunctuation]),
   (["c", "other"], [.control, .format, .privateUse, .unassigned]),
   (["lo", "otherletter"], [.otherLetter]),
   (["no", "othernumber"], [.otherNumber]),
   (["po", "otherpunctuation"], [.otherPunctuation]),
   (["so", "othersymbol"], [.otherSymbol]),
   (["zp", "paragraphseparator"], [.paragraphSeparator]),
   (["co", "privateuse"], [.privateUse]),
   (["p", "punctuation", "punct"],
    [.connectorPunctuation, .dashPunctuation, .openPunctuation, .closePunctuation,
     .initialPunctuation, .finalPunctuation, .otherPunctuation]),
   (["z", "separator"], [.spaceSeparator, .lineSeparator, .paragraphSeparator]),
   (["zs", "spaceseparator"], [.spaceSeparator]),
   (["mc", "spacingmark"], [.spacingMark]),
   (["s", "symbol"], [.mathSymbol, .currencySymbol, .modifierSymbol, .otherSymbol]),
   (["lt", "titlecaseletter"], [.titlecaseLetter]),
   (["cn", "unassigned"], [.unassigned]),
   (["lu", "uppercaseletter"], [.uppercaseLetter])]

/-- The class of a general category. -/
def categorySet? (loose : String) : Option CharSet :=
  match loose with
  | "any" => some (.named .any)
  | "assigned" => some (.complement (.named (.category [.unassigned])))
  | "ascii" => some (.range '\x00' '\x7f')
  | _ => (categoryNames.find? (·.1.contains loose)).map fun entry => .named (.category entry.2)

/-- The class of a script. -/
def scriptSet? (loose : String) : Option CharSet :=
  (scripts.find? (·.1.contains loose)).map fun entry => .named (.listed (.ofText entry.2))

/-- Letters that have a case, capital, small or title, and the signs like them. -/
def casedSet : CharSet :=
  .union (.named (.category [.uppercaseLetter, .lowercaseLetter, .titlecaseLetter]))
    (.named (.listed casedTable))

/-- Capitals, circled and squared ones among them. -/
def uppercaseSet : CharSet :=
  .union (.named (.category [.uppercaseLetter]))
    (.named (.listed (.ofText "2160-216F 24B6-24CF 1F130-1F149 1F150-1F169 1F170-1F189")))

/-- Small letters: whatever has a case and is neither a capital nor a title letter. -/
def lowercaseSet : CharSet :=
  casedSet.diff (.union uppercaseSet (.named (.category [.titlecaseLetter])))

/-- What is passed over when the case of a word is decided. -/
def caseIgnorableSet : CharSet :=
  .union
    (.named (.category [.nonspacingMark, .enclosingMark, .format, .modifierLetter, .modifierSymbol]))
    (.named (.listed wordInnerTable))

/-- Characters with which a name may start. -/
def idStartSet : CharSet :=
  .union (.named (.listed (.ofText "1885-1886 2118 212E 309B-309C")))
    (.diff (.named (.category (.letterNumber :: letterCategories))) (.single '\u2e2f'))

/-- Characters with which a name may go on. -/
def idContinueSet : CharSet :=
  .union idStartSet <|
    .union
      (.named (.category [.nonspacingMark, .spacingMark, .decimalNumber, .connectorPunctuation]))
      (.named (.listed (.ofText "B7 387 1369-1371 19DA 200C-200D 30FB FF65")))

/-- Characters of names that normalisation replaces by what can be no name. -/
def compatibleSet : CharSet := .named <| .listed <| .ofText
  "37A 309B-309C FC5E-FC63 FDFA-FDFB FE70 FE72 FE74 FE76 FE78 FE7A FE7C FE7E"

/-- The class of a property that a character has or lacks. -/
def binarySet? (loose : String) : Option CharSet :=
  match loose with
  | "alphabetic" | "alpha" => some (.named .alphabetic)
  | "whitespace" | "wspace" | "space" => some (.named .blank)
  | "joincontrol" | "joinc" => some (.ofList ['\u200c', '\u200d'])
  | "asciihexdigit" | "ahex" =>
    some (.union (.range '0' '9') (.union (.range 'A' 'F') (.range 'a' 'f')))
  | "cased" => some casedSet
  | "uppercase" | "upper" => some uppercaseSet
  | "lowercase" | "lower" => some lowercaseSet
  | "caseignorable" | "ci" => some caseIgnorableSet
  | "idstart" | "ids" => some idStartSet
  | "idcontinue" | "idc" => some idContinueSet
  | "xidstart" | "xids" =>
    some <| idStartSet.diff <|
      .union compatibleSet (.ofList ['\u0e33', '\u0eb3', '\uff9e', '\uff9f'])
  | "xidcontinue" | "xidc" => some (idContinueSet.diff compatibleSet)
  | "math" =>
    some (.union (.named (.category [.mathSymbol])) (.named (.listed otherMathTable)))
  | _ =>
    (listedProperties.find? (·.1.contains loose)).map fun entry =>
      .named (.listed (.ofText entry.2))

/-- The class that is asked for, without regard to `differs`. -/
def set? (query : PropertyQuery) : Option CharSet :=
  let name := looseName query.name
  match query.property with
  | none => binarySet? name <|> categorySet? name <|> scriptSet? name
  | some property =>
    match looseName property with
    | "gc" | "generalcategory" => categorySet? name
    | "sc" | "script" => scriptSet? name
    | _ => none

end PropertyQuery

/-- The classes of ASCII characters that have a name. -/
inductive AsciiClass where
  | alnum | alpha | ascii | blank | control | digit | graph | lower | print | punct | space | upper
  | word | hexDigit
deriving DecidableEq, Repr

namespace AsciiClass

/-- The class of a name. -/
def ofName? : String → Option AsciiClass
  | "alnum" => some alnum
  | "alpha" => some alpha
  | "ascii" => some ascii
  | "blank" => some blank
  | "cntrl" => some control
  | "digit" => some digit
  | "graph" => some graph
  | "lower" => some lower
  | "print" => some print
  | "punct" => some punct
  | "space" => some space
  | "upper" => some upper
  | "word" => some word
  | "xdigit" => some hexDigit
  | _ => none

/-- The characters of a class. -/
def set : AsciiClass → CharSet
  | alnum => .union (.range '0' '9') (.union (.range 'A' 'Z') (.range 'a' 'z'))
  | alpha => .union (.range 'A' 'Z') (.range 'a' 'z')
  | ascii => .range '\x00' '\x7f'
  | blank => .ofList ['\t', ' ']
  | control => .union (.range '\x00' '\x1f') (.single '\x7f')
  | digit => .range '0' '9'
  | graph => .range '!' '~'
  | lower => .range 'a' 'z'
  | print => .range ' ' '~'
  | punct => .union (.union (.range '!' '/') (.range ':' '@'))
      (.union (.range '[' '\x60') (.range '\x7b' '~'))
  | space => .union (.range '\t' '\r') (.single ' ')
  | upper => .range 'A' 'Z'
  | word => .union (.union (.range '0' '9') (.single '_'))
      (.union (.range 'A' 'Z') (.range 'a' 'z'))
  | hexDigit => .union (.range '0' '9') (.union (.range 'A' 'F') (.range 'a' 'f'))

end AsciiClass

end FencedCode
