import FencedCode.Token

/-!
# JSON documents

The grammar of JSON, over the pieces of which its documents are made: strings, numbers, the three
names, the six marks of punctuation and single blanks.  What a scanner needs to know of a document
follows from it by one induction: of two neighbouring pieces one is a mark or a blank, so no two
strings, numbers or names ever touch.
-/

namespace FencedCode.Json

/-- What holds of all characters of a list is decided by the list alone. -/
scoped instance decidableForallMem (chars : List Char) (property : Char → Prop)
    [DecidablePred property] : Decidable (∀ char ∈ chars, property char) :=
  List.decidableBAll property chars

/-! ### Pieces -/

def decimalDigits : List Char := ['0', '1', '2', '3', '4', '5', '6', '7', '8', '9']

/-- Digits, at least one. -/
def Digits (chars : List Char) : Prop := chars ≠ [] ∧ ∀ char ∈ chars, char ∈ decimalDigits

/-- A whole number, in which no other digit stands behind a leading zero. -/
inductive Whole : List Char → Prop where
  | zero : Whole ['0']
  | other {first : Char} {rest : List Char} (noZero : first ≠ '0')
      (digits : ∀ char ∈ first :: rest, char ∈ decimalDigits) : Whole (first :: rest)

inductive Fraction : List Char → Prop where
  | none : Fraction []
  | some {digits : List Char} (isDigits : Digits digits) : Fraction ('.' :: digits)

/-- A power of ten, whose letter may be small or large. -/
inductive Exponent : List Char → Prop where
  | none : Exponent []
  | some {letter : Char} {sign digits : List Char} (isLetter : letter ∈ ['e', 'E'])
      (isSign : sign ∈ [[], ['+'], ['-']]) (isDigits : Digits digits) :
      Exponent (letter :: (sign ++ digits))

inductive Number : List Char → Prop where
  | intro {sign whole fraction exponent : List Char} (isSign : sign ∈ [[], ['-']])
      (isWhole : Whole whole) (isFraction : Fraction fraction)
      (isExponent : Exponent exponent) :
      Number (sign ++ (whole ++ (fraction ++ exponent)))

theorem Whole.digits {chars : List Char} (whole : Whole chars) : Digits chars := by
  cases whole with
  | zero => exact ⟨by simp, List.forall_mem_singleton.mpr (by decide)⟩
  | other _ digits => exact ⟨by simp, digits⟩

/-- The characters of which numbers consist. -/
def numberChars : List Char := decimalDigits ++ ['-', '+', '.', 'e', 'E']

theorem Digits.forall_mem {chars : List Char} (digits : Digits chars) :
    ∀ char ∈ chars, char ∈ numberChars := by
  intro char member
  exact List.mem_append_left _ (digits.2 char member)

theorem Number.forall_mem {chars : List Char} (number : Number chars) :
    ∀ char ∈ chars, char ∈ numberChars := by
  obtain ⟨isSign, isWhole, isFraction, isExponent⟩ := number
  have minus : ∀ sign ∈ [[], ['-']], ∀ char ∈ sign, char ∈ numberChars := by decide
  have signs : ∀ sign ∈ [[], ['+'], ['-']], ∀ char ∈ sign, char ∈ numberChars := by decide
  have letters : ∀ letter ∈ ['e', 'E'], letter ∈ numberChars := by decide
  simp only [List.forall_mem_append]
  refine ⟨minus _ isSign, isWhole.digits.forall_mem, ?_, ?_⟩
  · cases isFraction with
    | none => exact List.forall_mem_nil _
    | some isDigits => exact List.forall_mem_cons.mpr ⟨by decide, isDigits.forall_mem⟩
  · cases isExponent with
    | none => exact List.forall_mem_nil _
    | some isLetter isSign isDigits =>
        exact List.forall_mem_cons.mpr ⟨letters _ isLetter,
          List.forall_mem_append.mpr ⟨signs _ isSign, isDigits.forall_mem⟩⟩

def hexDigits : List Char :=
  decimalDigits ++ ['a', 'b', 'c', 'd', 'e', 'f', 'A', 'B', 'C', 'D', 'E', 'F']

/-- What may stand between the quotes of a string. -/
inductive Quotable : List Char → Prop where
  | nil : Quotable []
  | plain {char : Char} {rest : List Char} (printable : ' ' ≤ char)
      (noMark : char ∉ ['"', '\\']) (isRest : Quotable rest) : Quotable (char :: rest)
  | escape {char : Char} {rest : List Char}
      (isEscape : char ∈ ['"', '\\', '/', 'b', 'f', 'n', 'r', 't']) (isRest : Quotable rest) :
      Quotable ('\\' :: char :: rest)
  | code {digits rest : List Char} (four : digits.length = 4)
      (isDigits : ∀ char ∈ digits, char ∈ hexDigits) (isRest : Quotable rest) :
      Quotable ('\\' :: 'u' :: (digits ++ rest))

def names : List (List Char) := ["true".toList, "false".toList, "null".toList]

def marks : List Char := ['\x7b', '\x7d', '[', ']', ':', ',']

def blanks : List Char := [' ', '\t', '\n', '\r']

/-- A part of a document with the kind of the token that is to show it. -/
structure Piece where
  kind : TokenKind
  chars : List Char
deriving DecidableEq, Repr

namespace Piece

def string (inside : List Char) : Piece :=
  { kind := .string, chars := '"' :: (inside ++ ['"']) }

def number (chars : List Char) : Piece := { kind := .number, chars }

def name (chars : List Char) : Piece := { kind := .keyword, chars }

def mark (char : Char) : Piece := { kind := .punctuation, chars := [char] }

def blank (char : Char) : Piece := { kind := .whitespace, chars := [char] }

/-- The pieces that may occur in documents. -/
inductive Lexical : Piece → Prop where
  | string {inside : List Char} (quotable : Quotable inside) : Lexical (string inside)
  | number {chars : List Char} (isNumber : Number chars) : Lexical (number chars)
  | name {chars : List Char} (isName : chars ∈ names) : Lexical (name chars)
  | mark {char : Char} (isMark : char ∈ marks) : Lexical (mark char)
  | blank {char : Char} (isBlank : char ∈ blanks) : Lexical (blank char)

/-- Marks and blanks keep other pieces apart. -/
inductive Separator : Piece → Prop where
  | mark {char : Char} (isMark : char ∈ marks) : Separator (mark char)
  | blank {char : Char} (isBlank : char ∈ blanks) : Separator (blank char)

theorem Separator.exists_char {piece : Piece} (separator : piece.Separator) :
    ∃ char ∈ marks ++ blanks, piece.chars = [char] := by
  cases separator with
  | mark isMark => exact ⟨_, List.mem_append_left _ isMark, rfl⟩
  | blank isBlank => exact ⟨_, List.mem_append_right _ isBlank, rfl⟩

theorem Separator.lexical {piece : Piece} (separator : piece.Separator) : piece.Lexical := by
  cases separator with
  | mark isMark => exact .mark isMark
  | blank isBlank => exact .blank isBlank

end Piece

/-! ### Documents -/

/-- Blanks, or none. -/
def Blank (pieces : List Piece) : Prop := ∀ piece ∈ pieces, ∃ char ∈ blanks, piece = .blank char

/-- A mark with the blanks around it. -/
inductive Mark (char : Char) : List Piece → Prop where
  | intro {before after : List Piece} (isBefore : Blank before) (isAfter : Blank after) :
      Mark char (before ++ .mark char :: after)

/-- What the grammar speaks of. -/
inductive Symbol where
  | value
  /-- Values with commas between them. -/
  | values
  | member
  /-- Members with commas between them. -/
  | members

/-- `Derives symbol pieces`: the pieces form what the symbol stands for. -/
inductive Derives : Symbol → List Piece → Prop where
  | name {chars : List Char} (isName : chars ∈ names) : Derives .value [.name chars]
  | number {chars : List Char} (isNumber : Number chars) : Derives .value [.number chars]
  | string {inside : List Char} (quotable : Quotable inside) : Derives .value [.string inside]
  | emptyArray {opening closing : List Piece} (isOpening : Mark '[' opening)
      (isClosing : Mark ']' closing) : Derives .value (opening ++ closing)
  | array {opening items closing : List Piece} (isOpening : Mark '[' opening)
      (areItems : Derives .values items) (isClosing : Mark ']' closing) :
      Derives .value (opening ++ (items ++ closing))
  | emptyObject {opening closing : List Piece} (isOpening : Mark '\x7b' opening)
      (isClosing : Mark '\x7d' closing) : Derives .value (opening ++ closing)
  | object {opening items closing : List Piece} (isOpening : Mark '\x7b' opening)
      (areItems : Derives .members items) (isClosing : Mark '\x7d' closing) :
      Derives .value (opening ++ (items ++ closing))
  | oneValue {value : List Piece} (isValue : Derives .value value) : Derives .values value
  | moreValues {value comma rest : List Piece} (isValue : Derives .value value)
      (isComma : Mark ',' comma) (areRest : Derives .values rest) :
      Derives .values (value ++ (comma ++ rest))
  | member {key : List Char} {colon value : List Piece} (quotable : Quotable key)
      (isColon : Mark ':' colon) (isValue : Derives .value value) :
      Derives .member ([.string key] ++ (colon ++ value))
  | oneMember {member : List Piece} (isMember : Derives .member member) :
      Derives .members member
  | moreMembers {member comma rest : List Piece} (isMember : Derives .member member)
      (isComma : Mark ',' comma) (areRest : Derives .members rest) :
      Derives .members (member ++ (comma ++ rest))

/-- A value with blanks around it. -/
inductive Document : List Piece → Prop where
  | intro {before value after : List Piece} (isBefore : Blank before)
      (isValue : Derives .value value) (isAfter : Blank after) :
      Document (before ++ (value ++ after))

/-- The text of some pieces. -/
def textOf (pieces : List Piece) : List Char := pieces.flatMap Piece.chars

/-! ### Neighbours -/

/-- A piece that keeps no others apart has none but such as neighbour. -/
inductive Spaced : List Piece → Prop where
  | nil : Spaced []
  | separator {piece : Piece} {rest : List Piece} (separates : piece.Separator)
      (spaced : Spaced rest) : Spaced (piece :: rest)
  | other {piece : Piece} {rest : List Piece} (lexical : piece.Lexical)
      (apart : ∀ next ∈ rest.head?, next.Separator) (spaced : Spaced rest) :
      Spaced (piece :: rest)

namespace Spaced

variable {front back pieces : List Piece}

theorem singleton {piece : Piece} (lexical : piece.Lexical) : Spaced [piece] :=
  .other lexical nofun .nil

theorem append (frontSpaced : Spaced front) (backSpaced : Spaced back)
    (apart : ∀ next ∈ back.head?, next.Separator) : Spaced (front ++ back) := by
  induction frontSpaced with
  | nil => exact backSpaced
  | separator separates _ ih => exact .separator separates ih
  | @other piece rest lexical apartFront _ ih =>
      refine .other lexical ?_ ih
      cases rest with
      | nil => exact apart
      | cons next rest => exact apartFront

theorem append_separators (separators : ∀ piece ∈ front, piece.Separator)
    (spaced : Spaced back) : Spaced (front ++ back) := by
  induction front with
  | nil => exact spaced
  | cons piece front ih =>
      obtain ⟨here, others⟩ := List.forall_mem_cons.mp separators
      exact .separator here (ih others)

theorem behind (spaced : Spaced (front ++ back)) : Spaced back := by
  induction front with
  | nil => exact spaced
  | cons piece front ih =>
      cases spaced with
      | separator _ spaced | other _ _ spaced => exact ih spaced

theorem lexical (spaced : Spaced pieces) : ∀ piece ∈ pieces, piece.Lexical := by
  induction spaced with
  | nil => exact List.forall_mem_nil _
  | separator separates _ ih => exact List.forall_mem_cons.mpr ⟨separates.lexical, ih⟩
  | other lexical _ _ ih => exact List.forall_mem_cons.mpr ⟨lexical, ih⟩

end Spaced

theorem Blank.separators {pieces : List Piece} (blank : Blank pieces) :
    ∀ piece ∈ pieces, piece.Separator := by
  intro piece member
  obtain ⟨char, isBlank, rfl⟩ := blank piece member
  exact .blank isBlank

namespace Mark

variable {char closingChar : Char} {front mark closing back : List Piece}

theorem alone (char : Char) : Mark char [.mark char] :=
  @Mark.intro char [] [] (List.forall_mem_nil _) (List.forall_mem_nil _)

theorem ne_nil (isMark : Mark char mark) : mark ≠ [] := by
  obtain ⟨_, _⟩ := isMark
  simp

theorem separators (isMark : Mark char mark) (known : char ∈ marks) :
    ∀ piece ∈ mark, piece.Separator := by
  obtain ⟨isBefore, isAfter⟩ := isMark
  rw [List.forall_mem_append, List.forall_mem_cons]
  exact ⟨isBefore.separators, .mark known, isAfter.separators⟩

/-- A mark may stand between any others. -/
theorem spaced_between (isMark : Mark char mark) (known : char ∈ marks)
    (frontSpaced : Spaced front) (backSpaced : Spaced back) :
    Spaced (front ++ (mark ++ back)) := by
  have separators := isMark.separators known
  apply frontSpaced.append (backSpaced.append_separators separators)
  cases mark with
  | nil => exact absurd rfl isMark.ne_nil
  | cons piece mark =>
      intro next isFirst
      cases isFirst
      exact separators _ (List.mem_cons_self ..)

/-- Two marks may stand around any others. -/
theorem spaced_around (isMark : Mark char mark) (isClosing : Mark closingChar closing)
    (known : char ∈ marks) (closingKnown : closingChar ∈ marks) (spaced : Spaced front) :
    Spaced (mark ++ (front ++ closing)) := by
  have closed := isClosing.spaced_between closingKnown spaced .nil
  rw [List.append_nil] at closed
  exact closed.append_separators (isMark.separators known)

end Mark

/-- Strings, numbers and names are kept apart by marks throughout. -/
theorem Derives.spaced {symbol : Symbol} {pieces : List Piece} (derives : Derives symbol pieces) :
    Spaced pieces := by
  induction derives with
  | name isName => exact .singleton (.name isName)
  | number isNumber => exact .singleton (.number isNumber)
  | string quotable => exact .singleton (.string quotable)
  | emptyArray isOpening isClosing | emptyObject isOpening isClosing =>
      exact isOpening.spaced_around isClosing (by decide) (by decide) .nil
  | array isOpening _ isClosing ih | object isOpening _ isClosing ih =>
      exact isOpening.spaced_around isClosing (by decide) (by decide) ih
  | oneValue _ ih | oneMember _ ih => exact ih
  | moreValues _ isComma _ firstIH restIH | moreMembers _ isComma _ firstIH restIH =>
      exact isComma.spaced_between (by decide) firstIH restIH
  | member quotable isColon _ ih =>
      exact isColon.spaced_between (by decide) (.singleton (.string quotable)) ih

theorem Derives.document {pieces : List Piece} (isValue : Derives .value pieces) :
    Document pieces := by
  have document := @Document.intro [] pieces [] (List.forall_mem_nil _) isValue
    (List.forall_mem_nil _)
  rwa [List.nil_append, List.append_nil] at document

theorem Document.spaced {pieces : List Piece} (document : Document pieces) : Spaced pieces := by
  obtain ⟨isBefore, isValue, isAfter⟩ := document
  apply Spaced.append_separators isBefore.separators
  apply isValue.spaced.append
  · have blank := Spaced.append_separators isAfter.separators .nil
    rwa [List.append_nil] at blank
  · intro next isFirst
    exact isAfter.separators next (List.mem_of_mem_head? isFirst)

end FencedCode.Json
