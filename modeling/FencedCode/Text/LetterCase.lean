import FencedCode.Text.Category

/-!
# Letter case

Lower and upper case of single characters and of texts, and the relation "equal up to case" on
characters.  ASCII letters are mapped by arithmetic, all others by tables.

Two mappings look beyond one character.  A capital sigma becomes a final sigma at the end of a
word, and a few small letters, such as the sharp s, have capitals that take several characters.
-/

namespace FencedCode.Text

/-- A run of code points that is mapped, step by step, to a run of equal length. -/
structure MappedSpan where
  /-- The code points that are mapped. -/
  source : Span
  /-- The image of the first of them. -/
  image : Nat
deriving DecidableEq, Repr, Inhabited

/-- Reads mapped spans, written `span:image` and separated by blanks. -/
def readMappedSpans (text : String) : Array MappedSpan :=
  (CharTable.writtenItems text).toArray.map fun item =>
    match item.splitOn ":" with
    | [source, image] =>
      { source := CharTable.readSpan source, image := hexValue image.toList }
    | _ => { source := CharTable.readSpan item, image := 0 }

/-- The small letters of the capitals beyond ASCII that have a single one. -/
def lowerSpans : Array MappedSpan := readMappedSpans
  "C0-D6:E0 D8-DE:F8 100-12E/2:101 132-136/2:133 139-147/2:13A 14A-176/2:14B 178:FF
   179-17D/2:17A 181:253 182-184/2:183 186:254 187:188 189-18A:256 18B:18C 18E:1DD 18F:259
   190:25B 191:192 193:260 194:263 196:269 197:268 198:199 19C:26F 19D:272 19F:275
   1A0-1A4/2:1A1 1A6:280 1A7:1A8 1A9:283 1AC:1AD 1AE:288 1AF:1B0 1B1-1B2:28A 1B3-1B5/2:1B4
   1B7:292 1B8:1B9 1BC:1BD 1C4:1C6 1C5:1C6 1C7:1C9 1C8:1C9 1CA:1CC 1CB-1DB/2:1CC 1DE-1EE/2:1DF
   1F1:1F3 1F2-1F4/2:1F3 1F6:195 1F7:1BF 1F8-21E/2:1F9 220:19E 222-232/2:223 23A:2C65 23B:23C
   23D:19A 23E:2C66 241:242 243:180 244:289 245:28C 246-24E/2:247 370-372/2:371 376:377
   37F:3F3 386:3AC 388-38A:3AD 38C:3CC 38E-38F:3CD 391-3A1:3B1 3A3-3AB:3C3 3CF:3D7
   3D8-3EE/2:3D9 3F4:3B8 3F7:3F8 3F9:3F2 3FA:3FB 3FD-3FF:37B 400-40F:450 410-42F:430
   460-480/2:461 48A-4BE/2:48B 4C0:4CF 4C1-4CD/2:4C2 4D0-52E/2:4D1 531-556:561 10A0-10C5:2D00
   10C7:2D27 10CD:2D2D 13A0-13EF:AB70 13F0-13F5:13F8 1C89:1C8A 1C90-1CBA:10D0 1CBD-1CBF:10FD
   1E00-1E94/2:1E01 1E9E:DF 1EA0-1EFE/2:1EA1 1F08-1F0F:1F00 1F18-1F1D:1F10 1F28-1F2F:1F20
   1F38-1F3F:1F30 1F48-1F4D:1F40 1F59-1F5F/2:1F51 1F68-1F6F:1F60 1F88-1F8F:1F80 1F98-1F9F:1F90
   1FA8-1FAF:1FA0 1FB8-1FB9:1FB0 1FBA-1FBB:1F70 1FBC:1FB3 1FC8-1FCB:1F72 1FCC:1FC3
   1FD8-1FD9:1FD0 1FDA-1FDB:1F76 1FE8-1FE9:1FE0 1FEA-1FEB:1F7A 1FEC:1FE5 1FF8-1FF9:1F78
   1FFA-1FFB:1F7C 1FFC:1FF3 2126:3C9 212A:6B 212B:E5 2132:214E 2160-216F:2170 2183:2184
   24B6-24CF:24D0 2C00-2C2F:2C30 2C60:2C61 2C62:26B 2C63:1D7D 2C64:27D 2C67-2C6B/2:2C68
   2C6D:251 2C6E:271 2C6F:250 2C70:252 2C72:2C73 2C75:2C76 2C7E-2C7F:23F 2C80-2CE2/2:2C81
   2CEB-2CED/2:2CEC 2CF2:2CF3 A640-A66C/2:A641 A680-A69A/2:A681 A722-A72E/2:A723
   A732-A76E/2:A733 A779-A77B/2:A77A A77D:1D79 A77E-A786/2:A77F A78B:A78C A78D:265
   A790-A792/2:A791 A796-A7A8/2:A797 A7AA:266 A7AB:25C A7AC:261 A7AD:26C A7AE:26A A7B0:29E
   A7B1:287 A7B2:29D A7B3:AB53 A7B4-A7C2/2:A7B5 A7C4:A794 A7C5:282 A7C6:1D8E A7C7-A7C9/2:A7C8
   A7CB:264 A7CC:A7CD A7D0:A7D1 A7D6-A7DA/2:A7D7 A7DC:19B A7F5:A7F6 FF21-FF3A:FF41
   10400-10427:10428 104B0-104D3:104D8 10570-1057A:10597 1057C-1058A:105A3 1058C-10592:105B3
   10594-10595:105BB 10C80-10CB2:10CC0 10D50-10D65:10D70 118A0-118BF:118C0 16E40-16E5F:16E60
   1E900-1E921:1E922"

/-- The capitals of the small letters beyond ASCII that have a single one. -/
def upperSpans : Array MappedSpan := readMappedSpans
  "B5:39C E0-F6:C0 F8-FE:D8 FF:178 101-12F/2:100 131:49 133-137/2:132 13A-148/2:139
   14B-177/2:14A 17A-17E/2:179 17F:53 180:243 183-185/2:182 188:187 18C:18B 192:191 195:1F6
   199:198 19A:23D 19B:A7DC 19E:220 1A1-1A5/2:1A0 1A8:1A7 1AD:1AC 1B0:1AF 1B4-1B6/2:1B3
   1B9:1B8 1BD:1BC 1BF:1F7 1C5:1C4 1C6:1C4 1C8:1C7 1C9:1C7 1CB:1CA 1CC:1CA 1CE-1DC/2:1CD
   1DD:18E 1DF-1EF/2:1DE 1F2:1F1 1F3:1F1 1F5:1F4 1F9-21F/2:1F8 223-233/2:222 23C:23B
   23F-240:2C7E 242:241 247-24F/2:246 250:2C6F 251:2C6D 252:2C70 253:181 254:186 256-257:189
   259:18F 25B:190 25C:A7AB 260:193 261:A7AC 263:194 264:A7CB 265:A78D 266:A7AA 268:197
   269:196 26A:A7AE 26B:2C62 26C:A7AD 26F:19C 271:2C6E 272:19D 275:19F 27D:2C64 280:1A6
   282:A7C5 283:1A9 287:A7B1 288:1AE 289:244 28A-28B:1B1 28C:245 292:1B7 29D:A7B2 29E:A7B0
   345:399 371-373/2:370 377:376 37B-37D:3FD 3AC:386 3AD-3AF:388 3B1-3C1:391 3C2:3A3
   3C3-3CB:3A3 3CC:38C 3CD-3CE:38E 3D0:392 3D1:398 3D5:3A6 3D6:3A0 3D7:3CF 3D9-3EF/2:3D8
   3F0:39A 3F1:3A1 3F2:3F9 3F3:37F 3F5:395 3F8:3F7 3FB:3FA 430-44F:410 450-45F:400
   461-481/2:460 48B-4BF/2:48A 4C2-4CE/2:4C1 4CF:4C0 4D1-52F/2:4D0 561-586:531 10D0-10FA:1C90
   10FD-10FF:1CBD 13F8-13FD:13F0 1C80:412 1C81:414 1C82:41E 1C83-1C84:421 1C85:422 1C86:42A
   1C87:462 1C88:A64A 1C8A:1C89 1D79:A77D 1D7D:2C63 1D8E:A7C6 1E01-1E95/2:1E00 1E9B:1E60
   1EA1-1EFF/2:1EA0 1F00-1F07:1F08 1F10-1F15:1F18 1F20-1F27:1F28 1F30-1F37:1F38 1F40-1F45:1F48
   1F51-1F57/2:1F59 1F60-1F67:1F68 1F70-1F71:1FBA 1F72-1F75:1FC8 1F76-1F77:1FDA 1F78-1F79:1FF8
   1F7A-1F7B:1FEA 1F7C-1F7D:1FFA 1FB0-1FB1:1FB8 1FBE:399 1FD0-1FD1:1FD8 1FE0-1FE1:1FE8
   1FE5:1FEC 214E:2132 2170-217F:2160 2184:2183 24D0-24E9:24B6 2C30-2C5F:2C00 2C61:2C60
   2C65:23A 2C66:23E 2C68-2C6C/2:2C67 2C73:2C72 2C76:2C75 2C81-2CE3/2:2C80 2CEC-2CEE/2:2CEB
   2CF3:2CF2 2D00-2D25:10A0 2D27:10C7 2D2D:10CD A641-A66D/2:A640 A681-A69B/2:A680
   A723-A72F/2:A722 A733-A76F/2:A732 A77A-A77C/2:A779 A77F-A787/2:A77E A78C:A78B
   A791-A793/2:A790 A794:A7C4 A797-A7A9/2:A796 A7B5-A7C3/2:A7B4 A7C8-A7CA/2:A7C7 A7CD:A7CC
   A7D1-A7DB/2:A7D0 A7F6:A7F5 AB53:A7B3 AB70-ABBF:13A0 FF41-FF5A:FF21 10428-1044F:10400
   104D8-104FB:104B0 10597-105A1:10570 105A3-105B1:1057C 105B3-105B9:1058C 105BB-105BC:10594
   10CC0-10CF2:10C80 10D70-10D85:10D50 118C0-118DF:118A0 16E60-16E7F:16E40 1E922-1E943:1E900"

/-- The capitals of the letters whose capital takes several characters. -/
def longUppers : Array (Nat × List Nat) :=
  (CharTable.writtenItems longUpperText).toArray.map fun item =>
    match item.splitOn ":" with
    | [letter, image] =>
      (hexValue letter.toList, (image.splitOn "+").map fun part => hexValue part.toList)
    | _ => (0, [])
where
  /-- Each letter with the characters of its capital. -/
  longUpperText : String :=
    "DF:53+53 149:2BC+4E 1F0:4A+30C 390:399+308+301 3B0:3A5+308+301 587:535+552 1E96:48+331
   1E97:54+308 1E98:57+30A 1E99:59+30A 1E9A:41+2BE 1F50:3A5+313 1F52:3A5+313+300
   1F54:3A5+313+301 1F56:3A5+313+342 1F80:1F08+399 1F81:1F09+399 1F82:1F0A+399 1F83:1F0B+399
   1F84:1F0C+399 1F85:1F0D+399 1F86:1F0E+399 1F87:1F0F+399 1F88:1F08+399 1F89:1F09+399
   1F8A:1F0A+399 1F8B:1F0B+399 1F8C:1F0C+399 1F8D:1F0D+399 1F8E:1F0E+399 1F8F:1F0F+399
   1F90:1F28+399 1F91:1F29+399 1F92:1F2A+399 1F93:1F2B+399 1F94:1F2C+399 1F95:1F2D+399
   1F96:1F2E+399 1F97:1F2F+399 1F98:1F28+399 1F99:1F29+399 1F9A:1F2A+399 1F9B:1F2B+399
   1F9C:1F2C+399 1F9D:1F2D+399 1F9E:1F2E+399 1F9F:1F2F+399 1FA0:1F68+399 1FA1:1F69+399
   1FA2:1F6A+399 1FA3:1F6B+399 1FA4:1F6C+399 1FA5:1F6D+399 1FA6:1F6E+399 1FA7:1F6F+399
   1FA8:1F68+399 1FA9:1F69+399 1FAA:1F6A+399 1FAB:1F6B+399 1FAC:1F6C+399 1FAD:1F6D+399
   1FAE:1F6E+399 1FAF:1F6F+399 1FB2:1FBA+399 1FB3:391+399 1FB4:386+399 1FB6:391+342
   1FB7:391+342+399 1FBC:391+399 1FC2:1FCA+399 1FC3:397+399 1FC4:389+399 1FC6:397+342
   1FC7:397+342+399 1FCC:397+399 1FD2:399+308+300 1FD3:399+308+301 1FD6:399+342
   1FD7:399+308+342 1FE2:3A5+308+300 1FE3:3A5+308+301 1FE4:3A1+313 1FE6:3A5+342
   1FE7:3A5+308+342 1FF2:1FFA+399 1FF3:3A9+399 1FF4:38F+399 1FF6:3A9+342 1FF7:3A9+342+399
   1FFC:3A9+399 FB00:46+46 FB01:46+49 FB02:46+4C FB03:46+46+49 FB04:46+46+4C FB05:53+54
   FB06:53+54 FB13:544+546 FB14:544+535 FB15:544+53B FB16:54E+546 FB17:544+53D"

/-- Small letters that are equal up to case to another small letter, with that letter. -/
def foldExceptions : Array MappedSpan := readMappedSpans
  "17F:73 B5:3BC 345:3B9 1FBE:3B9 1FD3:390 3D0:3B2 3F5:3B5 3D1:3B8 3F0:3BA 3D6:3C0 3F1:3C1
   3C2:3C3 3D5:3C6 1FE3:3B0 1C80:432 1C81:434 1C82:43E 1C83:441 1C84:442 1C85:442 1C86:44A
   1C87:463 1C88:A64B 1E9B:1E61 FB06:FB05"

/-- The image of a code point under the mapped span that covers it. -/
def lookUp? (spans : Array MappedSpan) (code : Nat) : Option Nat :=
  (spans.find? (·.source.contains code)).map fun span => span.image + (code - span.source.first)

/-- The code points that the spans map to `code`. -/
def preimages (spans : Array MappedSpan) (code : Nat) : List Nat :=
  spans.toList.filterMap fun span =>
    if span.image ≤ code then
      let candidate := span.source.first + (code - span.image)
      if span.source.contains candidate then some candidate else none
    else none

/-! ### Single characters -/

/-- The small letter of a capital, and any other character itself. -/
def lowerChar (char : Char) : Char :=
  if char.toNat < 128 then
    if 'A' ≤ char ∧ char ≤ 'Z' then .ofNat (char.toNat + 32) else char
  else .ofNat ((lookUp? lowerSpans char.toNat).getD char.toNat)

/-- The capital of a small letter that has a single one, and any other character itself. -/
def upperChar (char : Char) : Char :=
  if char.toNat < 128 then
    if 'a' ≤ char ∧ char ≤ 'z' then .ofNat (char.toNat - 32) else char
  else .ofNat ((lookUp? upperSpans char.toNat).getD char.toNat)

/-- The representative of the characters that are equal to `char` up to case. -/
def foldChar (char : Char) : Char :=
  let lower := lowerChar char
  .ofNat ((lookUp? foldExceptions lower.toNat).getD lower.toNat)

/-- The characters that are equal to `char` up to case, itself among them. -/
def caseVariants (char : Char) : List Char :=
  let folded := (foldChar char).toNat
  let lowers := folded :: preimages foldExceptions folded
  let uppers := lowers.flatMap fun lower =>
    preimages lowerSpans lower ++
      if 'a'.toNat ≤ lower ∧ lower ≤ 'z'.toNat then [lower - 32] else []
  (lowers ++ uppers).map Char.ofNat

/-! ### Texts -/

/-- Letters that have a case, beyond those of the general categories for them. -/
def casedTable : CharTable := .ofText
  "AA BA 2B0-2B8 2C0-2C1 2E0-2E4 345 37A 10FC 1D2C-1D6A 1D78 1D9B-1DBF 2071 207F 2090-209C
   2160-217F 24B6-24E9 2C7C-2C7D A69C-A69D A770 A7F2-A7F4 A7F8-A7F9 AB5C-AB5F AB69 10780
   10783-10785 10787-107B0 107B2-107BA 1E030-1E06D 1F130-1F149 1F150-1F169 1F170-1F189"

/-- Whether a character is a letter that has a case. -/
def isCased (char : Char) : Bool :=
  if char.toNat < 128 then char.isAlpha
  else hasCategory [.uppercaseLetter, .lowercaseLetter, .titlecaseLetter] char.toNat ||
    casedTable.contains char.toNat

/-- Punctuation that may stand inside a word. -/
def wordInnerTable : CharTable := .ofText
  "27 2E 3A B7 387 55F 5F4 2018-2019 2024 2027 FE13 FE52 FE55 FF07 FF0E FF1A"

/-- Whether a character is passed over when the neighbouring letters of a word are sought. -/
def isCaseIgnorable (char : Char) : Bool :=
  if char.toNat < 128 then [0x27, 0x2E, 0x3A, 0x5E, 0x60].contains char.toNat
  else wordInnerTable.contains char.toNat ||
    hasCategory [.nonspacingMark, .enclosingMark, .format, .modifierLetter, .modifierSymbol]
      char.toNat

/-- Whether the first character that counts is a letter that has a case. -/
def startsCased (chars : List Char) : Bool :=
  match chars.dropWhile isCaseIgnorable with
  | char :: _ => isCased char
  | [] => false

/-- The small letters of one character between the characters before it, nearest first, and those
after it. -/
def lowerAt (before : List Char) (char : Char) (after : List Char) : List Char :=
  if char = 'Σ' then
    if startsCased before && !startsCased after then ['ς'] else ['σ']
  else if char = 'İ' then ['i', '\u0307']
  else [lowerChar char]

/-- Maps a text to small letters; `before` holds what precedes it, nearest first. -/
def lowerFrom (before : List Char) : List Char → List Char
  | [] => []
  | char :: after => lowerAt before char after ++ lowerFrom (char :: before) after

/-- The text in small letters. -/
def lower (text : String) : String := .ofList (lowerFrom [] text.toList)

/-- The capitals of one character. -/
def upperOf (char : Char) : List Char :=
  match longUppers.find? (·.1 == char.toNat) with
  | some (_, image) => image.map Char.ofNat
  | none => [upperChar char]

/-- Whether two texts are equal up to the case of ASCII letters. -/
def eqIgnoringAsciiCase (left right : String) : Bool :=
  left.toList.map Char.toLower == right.toList.map Char.toLower

end FencedCode.Text
