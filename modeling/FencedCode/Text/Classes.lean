import FencedCode.Text.Category

/-!
# Character classes

The classes that patterns, fences and settings speak of: white space, decimal digits, word
characters, and the letters and numerals of names.  ASCII characters are decided by arithmetic,
all others by their general category.
-/

namespace FencedCode.Text

/-- White space: the blanks of Unicode together with the line terminators. -/
def isBlank (char : Char) : Bool :=
  let code := char.toNat
  (9 ≤ code && code ≤ 13) || code == 32 || code == 0x85 || code == 0xA0 || code == 0x1680 ||
    (0x2000 ≤ code && code ≤ 0x200A) || code == 0x2028 || code == 0x2029 || code == 0x202F ||
    code == 0x205F || code == 0x3000

/-- Letters, digits and the underscore among the ASCII characters. -/
def isAsciiWord (char : Char) : Bool :=
  char.isAlpha || char.isDigit || char == '_'

theorem not_isAsciiWord_of_isBlank {char : Char} (blank : isBlank char) : ¬isAsciiWord char := by
  simp only [isBlank, Bool.or_eq_true, Bool.and_eq_true, decide_eq_true_eq, beq_iff_eq] at blank
  have ranges : isAsciiWord char = ((decide ('A' ≤ char ∧ char ≤ 'Z') ||
      'a' ≤ char && char ≤ 'z') || ('0' ≤ char && char ≤ '9') || char == '_') := rfl
  rw [ranges]
  simp only [Bool.or_eq_true, Bool.and_eq_true, decide_eq_true_eq, beq_iff_eq]
  rintro (((isCapital | isSmall) | isDigit) | rfl)
  · have code : 65 ≤ char.toNat ∧ char.toNat ≤ 90 := isCapital
    omega
  · have code : 97 ≤ char.toNat ∧ char.toNat ≤ 122 := isSmall
    omega
  · have code : 48 ≤ char.toNat ∧ char.toNat ≤ 57 := isDigit
    omega
  · simp at blank

/-- Decimal digits of any script. -/
def isDecimal (char : Char) : Bool :=
  if char.toNat < 128 then char.isDigit else hasCategory [.decimalNumber] char.toNat

/-- Symbols that count as letters: the circled and squared Latin letters. -/
def letterSymbolTable : CharTable := .ofText "24B6-24E9 1F130-1F149 1F150-1F169 1F170-1F189"

def markCategories : List Category := [.nonspacingMark, .spacingMark, .enclosingMark]

def letterCategories : List Category :=
  [.uppercaseLetter, .lowercaseLetter, .titlecaseLetter, .modifierLetter, .otherLetter]

/-- Word characters of any script: letters, marks, decimal digits, connecting punctuation and the
two joining controls. -/
def isWord (char : Char) : Bool :=
  if char.toNat < 128 then isAsciiWord char
  else hasCategory
      (letterCategories ++ markCategories ++ [.letterNumber, .decimalNumber, .connectorPunctuation])
      char.toNat
    || letterSymbolTable.contains char.toNat || char.toNat == 0x200C || char.toNat == 0x200D

/-- Marks that are no part of an alphabet: accents, viramas and their like. -/
def plainMarkTable : CharTable := .ofText
  "300-344 346-36F 483-489 591-5AF 658 6DF-6E0 6EA-6EC 740-74A 7EB-7F3 7FD 818-819 82D 859-85B
   898-89F 8CA-8D3 8E0-8E1 8EA-8EF 93C 94D 951-954 9BC 9CD 9FE A3C A4D ABC ACD AFD-AFF B3C B4D
   B55 BCD C3C C4D CBC CCD D3B-D3C D4D DCA E47-E4C E4E EBA EC8-ECC ECE F18-F19 F35-F39/2
   F3E-F3F F84 F86-F87 FC6 1037 1039-103A 135D-135F 1714-1715 1734 17B4-17B5 17C9-17D3 17DD
   180B-180D 180F 1939-193B 1A60 1A75-1A7C 1A7F 1AB0-1ABE 1AC1-1ACB 1B34 1B44 1B6B-1B73
   1BAA-1BAB 1BE6 1BF2-1BF3 1C37 1CD0-1CD2 1CD4-1CE8 1CED 1CF4 1CF7-1CF9 1DC0-1DE6 1DF5-1DFF
   20D0-20F0 2CEF-2CF1 2D7F 302A-302F 3099-309A A66F-A672 A67C-A67D A6F0-A6F1 A806 A82C A8C4
   A8E0-A8F1 A92B-A92D A953 A9B3 A9C0 AABF AAC1 AAF6 ABEC-ABED FE00-FE0F FE20-FE2F 101FD 102E0
   10A38-10A3A 10A3F 10AE5-10AE6 10D6A-10D6D 10EFD-10EFF 10F46-10F50 10F82-10F85 11046 11070
   1107F 110B9-110BA 11133-11134 11173 111C0 111C9-111CC 11235-11236 112E9-112EA 1133B-1133C
   1134D 11366-1136C 11370-11374 113CE-113D0 113D2 113E1-113E2 11442 11446 1145E 114C2-114C3
   115BF-115C0 1163F 116B6-116B7 1172B 11839-1183A 1193D-1193E 11943 119E0 11A33-11A34 11A47
   11A98-11A99 11C3F 11D42 11D44-11D45 11D97 11F41-11F42 11F5A 13440 13447-13455 1612F
   16AF0-16AF4 16B30-16B36 16FE4 1BC9D 1CF00-1CF2D 1CF30-1CF46 1D165-1D169 1D16D-1D172
   1D17B-1D182 1D185-1D18B 1D1AA-1D1AD 1D242-1D244 1DA00-1DA36 1DA3B-1DA6C 1DA75 1DA84
   1DA9B-1DA9F 1DAA1-1DAAF 1E130-1E136 1E2AE 1E2EC-1E2EF 1E4EC-1E4EF 1E5EE-1E5EF 1E8D0-1E8D6
   1E944-1E946 1E948-1E94A E0100-E01EF"

/-- Alphabetic characters of any script. -/
def isAlphabetic (char : Char) : Bool :=
  if char.toNat < 128 then char.isAlpha
  else hasCategory (.letterNumber :: letterCategories) char.toNat ||
    letterSymbolTable.contains char.toNat ||
    (hasCategory markCategories char.toNat && !plainMarkTable.contains char.toNat)

/-- Alphabetic characters and numerals of any script. -/
def isAlphanumeric (char : Char) : Bool :=
  isAlphabetic char || hasCategory [.decimalNumber, .letterNumber, .otherNumber] char.toNat

end FencedCode.Text
