import FencedCode.Language.Programs
import FencedCode.Proofs.Language.Tokens
import FencedCode.Terminal.Style

/-!
# What a terminal shows

A terminal reads characters one by one.  Most are shown with the pen at hand; a control sequence
changes the pen instead.  Fed with painted tokens, a terminal shows their texts, each in the style
of its own token, and is in the end as it was at the start: whatever a style has switched on, the
way it is closed switches off.  The invariant between two tokens is that the pen is the default one.
-/

namespace FencedCode

/-! ### Terminals -/

/-- How a terminal writes. -/
structure Pen where
  /-- The number of the colour in the palette; without one the terminal has its own. -/
  color : Option Nat := none
  bold : Bool := false
  italic : Bool := false
  underline : Bool := false
deriving DecidableEq, Repr

namespace Pen

/-- The pen behind a control sequence with some parameters.  A parameter that means nothing here
changes nothing. -/
def select (pen : Pen) : List Nat → Pen
  | [] => pen
  | 38 :: 5 :: index :: rest => select { pen with color := some index } rest
  | 39 :: rest => select { pen with color := none } rest
  | 0 :: rest => select {} rest
  | 1 :: rest => select { pen with bold := true } rest
  | 3 :: rest => select { pen with italic := true } rest
  | 4 :: rest => select { pen with underline := true } rest
  | _ :: rest => select pen rest

end Pen

/-- What a terminal makes of the next character. -/
inductive TerminalMode where
  /-- It is shown. -/
  | text
  /-- It follows an escape character. -/
  | escape
  /-- It belongs to a control sequence, which has these parameters so far. -/
  | control (parameters : List Char)
deriving DecidableEq, Repr

structure Terminal where
  pen : Pen := {}
  mode : TerminalMode := .text
  /-- The characters shown, each with the pen that wrote it. -/
  shown : List (Char × Pen) := []
deriving DecidableEq, Repr

namespace Terminal

/-- Whether a character belongs to the parameters of a control sequence. -/
def isParameter (char : Char) : Bool := char.isDigit || char == ';'

/-- The number that digits denote; none denote zero. -/
def number (digits : List Char) : Nat :=
  digits.foldl (fun value digit => 10 * value + (digit.toNat - '0'.toNat)) 0

/-- The parameters of a control sequence as numbers. -/
def numbers (parameters : List Char) : List Nat := (parameters.splitOn ';').map number

/-- The terminal behind one more character.  A control sequence that ends in another letter than `m`
has to do with other things than the pen. -/
def read (terminal : Terminal) (char : Char) : Terminal :=
  match terminal.mode with
  | .text =>
    if char = '\x1b' then { terminal with mode := .escape }
    else { terminal with shown := terminal.shown ++ [(char, terminal.pen)] }
  | .escape => { terminal with mode := if char = '[' then .control [] else .text }
  | .control parameters =>
    if isParameter char then { terminal with mode := .control (parameters ++ [char]) }
    else if char = 'm' then
      { terminal with mode := .text, pen := terminal.pen.select (numbers parameters) }
    else { terminal with mode := .text }

def readAll (terminal : Terminal) (chars : List Char) : Terminal := chars.foldl read terminal

variable {pen : Pen} {shown : List (Char × Pen)}

theorem readAll_append (terminal : Terminal) (front rest : List Char) :
    terminal.readAll (front ++ rest) = (terminal.readAll front).readAll rest := List.foldl_append

theorem readAll_cons (terminal : Terminal) (char : Char) (rest : List Char) :
    terminal.readAll (char :: rest) = (terminal.read char).readAll rest := rfl

/-- Text without escape characters is shown as it is. -/
theorem readAll_text {chars : List Char} (noEscape : '\x1b' ∉ chars) :
    readAll { pen, shown } chars =
      { pen, shown := shown ++ chars.map fun char => (char, pen) } := by
  induction chars generalizing shown with
  | nil => simp [readAll]
  | cons char chars ih =>
      rw [List.mem_cons, not_or] at noEscape
      have first : read { pen, shown } char = { pen, shown := shown ++ [(char, pen)] } :=
        if_neg (Ne.symm noEscape.1)
      rw [readAll_cons, first, ih noEscape.2, List.map_cons, List.append_assoc,
        List.singleton_append]

theorem readAll_parameters {front chars : List Char} (valid : chars.all isParameter) :
    readAll { pen, mode := .control front, shown } chars =
      { pen, mode := .control (front ++ chars), shown } := by
  induction chars generalizing front with
  | nil => simp [readAll]
  | cons char chars ih =>
      rw [List.all_cons, Bool.and_eq_true] at valid
      have first : read { pen, mode := .control front, shown } char =
          { pen, mode := .control (front ++ [char]), shown } := if_pos valid.1
      rw [readAll_cons, first, ih valid.2, List.append_assoc, List.singleton_append]

theorem toList_control (parameters : String) :
    (Style.control parameters).toList = ['\x1b', '['] ++ (parameters.toList ++ ['m']) := by
  rw [Style.control, String.toList_append, String.toList_append]
  rfl

/-- A control sequence changes the pen and nothing else. -/
theorem readAll_control {parameters : String} (valid : parameters.toList.all isParameter) :
    readAll { pen, shown } (Style.control parameters).toList =
      { pen := pen.select (numbers parameters.toList), shown } := by
  have opened : readAll { pen, shown } ['\x1b', '['] = { pen, mode := .control [], shown } := rfl
  rw [toList_control, readAll_append, opened, readAll_append, readAll_parameters valid,
    List.nil_append]
  rfl

end Terminal

/-! ### Styles -/

namespace Style

/-- The pen that writes in a style. -/
def pen (style : Style) : Pen where
  color := style.foreground.index?
  bold := style.bold
  italic := style.italic
  underline := style.underline

/-- Different styles look different. -/
theorem pen_injective : Function.Injective pen := by
  rintro ⟨color, bold, italic, underline⟩ ⟨otherColor, otherBold, otherItalic, otherUnderline⟩ same
  simp only [pen, Pen.mk.injEq] at same
  obtain ⟨sameColor, rfl, rfl, rfl⟩ := same
  have colors : color = otherColor := by
    cases color <;> cases otherColor <;> first | rfl | cases sameColor
  rw [colors]

/-- A style is opened by a sequence for its colour and one for each of its attributes. -/
theorem toList_opening (style : Style) :
    style.opening.toList =
      (match style.foreground.index? with
        | some index => (control ("38;5;" ++ toString index)).toList
        | none => []) ++
      ((if style.bold then control "1" else "").toList ++
        ((if style.italic then control "3" else "").toList ++
          (if style.underline then control "4" else "").toList)) := by
  simp only [opening, String.toList_append, List.append_assoc]
  cases style.foreground.index? <;> rfl

end Style

namespace Terminal

variable {pen : Pen} {shown : List (Char × Pen)}

theorem parameters_color {color : Color} {index : Nat} (isIndex : color.index? = some index) :
    ("38;5;" ++ toString index).toList.all isParameter = true ∧
      numbers ("38;5;" ++ toString index).toList = [38, 5, index] := by
  cases color <;> cases isIndex <;> decide

/-- The sequence for a colour of the palette sets that colour. -/
theorem readAll_color {color : Color} {index : Nat} (isIndex : color.index? = some index) :
    readAll { pen, shown } (Style.control ("38;5;" ++ toString index)).toList =
      { pen := { pen with color := some index }, shown } := by
  obtain ⟨valid, meaning⟩ := parameters_color isIndex
  rw [readAll_control valid, meaning]
  rfl

/-- A sequence that is written for some styles only changes the pen for these only. -/
theorem readAll_control_if {parameters : String} (valid : parameters.toList.all isParameter)
    (flag : Bool) :
    readAll { pen, shown } (if flag then Style.control parameters else "").toList =
      { pen := if flag then pen.select (numbers parameters.toList) else pen, shown } := by
  cases flag with
  | true => exact readAll_control valid
  | false => rfl

theorem readAll_flags (color : Option Nat) (bold italic underline : Bool) :
    readAll { pen := { color }, shown }
        ((if bold then Style.control "1" else "").toList ++
          ((if italic then Style.control "3" else "").toList ++
            (if underline then Style.control "4" else "").toList)) =
      { pen := { color, bold, italic, underline }, shown } := by
  rw [readAll_append, readAll_append, readAll_control_if (by decide),
    readAll_control_if (by decide), readAll_control_if (by decide)]
  cases bold <;> cases italic <;> cases underline <;> rfl

/-- What opens a style turns the default pen into the one of the style. -/
theorem readAll_opening (style : Style) :
    readAll { shown } style.opening.toList = { pen := style.pen, shown } := by
  rw [Style.toList_opening, Style.pen]
  cases isIndex : style.foreground.index? with
  | some index => rw [readAll_append, readAll_color isIndex, readAll_flags]
  | none => exact readAll_flags none style.bold style.italic style.underline

/-- What closes a style turns its pen into the default one, be it by a reset of everything or of the
colour alone. -/
theorem readAll_closing (style : Style) :
    readAll { pen := style.pen, shown } style.closing.toList = { shown } := by
  rw [Style.closing]
  split
  · rw [readAll_control (by decide)]
    rfl
  · next noFlag =>
    simp only [Bool.or_eq_true, not_or, Bool.not_eq_true] at noFlag
    obtain ⟨⟨noBold, noItalic⟩, noUnderline⟩ := noFlag
    have colorOnly : style.pen = { color := style.foreground.index? } := by
      rw [Style.pen, noBold, noItalic, noUnderline]
    rw [colorOnly]
    split
    · rw [readAll_control (by decide)]
      rfl
    · next noColor =>
      rw [Option.not_isSome_iff_eq_none.mp noColor]
      rfl

theorem readAll_paint (style : Style) {text : String} (noEscape : '\x1b' ∉ text.toList) :
    readAll { shown } (style.paint text).toList =
      { shown := shown ++ text.toList.map fun char => (char, style.pen) } := by
  rw [Style.paint, String.toList_append, String.toList_append, readAll_append, readAll_append,
    readAll_opening, readAll_text noEscape, readAll_closing]

end Terminal

/-! ### Tokens -/

namespace Token

/-- The pen that writes a token: that of the style of its class, or the default one. -/
def pen (token : Token) : Pen :=
  match token.tokenClass with
  | some tokenClass => tokenClass.style.pen
  | none => {}

/-- The characters of a token, each with the pen of the token. -/
def written (token : Token) : List (Char × Pen) :=
  token.text.toList.map fun char => (char, token.pen)

theorem toList_paintedAll_cons (token : Token) (tokens : List Token) :
    (paintedAll (token :: tokens)).toList = token.painted.toList ++ (paintedAll tokens).toList := by
  simp [paintedAll]

end Token

namespace Terminal

variable {shown : List (Char × Pen)}

theorem readAll_painted {token : Token} (noEscape : '\x1b' ∉ token.text.toList) :
    readAll { shown } token.painted.toList = { shown := shown ++ token.written } := by
  rw [Token.painted, Token.written, Token.pen]
  cases token.tokenClass with
  | some tokenClass => exact readAll_paint tokenClass.style noEscape
  | none => exact readAll_text noEscape

theorem readAll_paintedAll {tokens : List Token}
    (noEscape : ∀ token ∈ tokens, '\x1b' ∉ token.text.toList) :
    readAll { shown } (Token.paintedAll tokens).toList =
      { shown := shown ++ tokens.flatMap Token.written } := by
  induction tokens generalizing shown with
  | nil =>
      rw [List.flatMap_nil, List.append_nil]
      rfl
  | cons token tokens ih =>
      obtain ⟨here, rest⟩ := List.forall_mem_cons.mp noEscape
      rw [Token.toList_paintedAll_cons, readAll_append, readAll_painted here, ih rest,
        List.flatMap_cons, List.append_assoc]

end Terminal

/-! ### Texts without their sequences -/

namespace Terminal

/-- The characters without their control sequences, each from an escape character with a bracket to
the letter behind the parameters. -/
def dropSequences : List Char → List Char
  | [] => []
  | '\x1b' :: '[' :: rest => dropSequences ((rest.dropWhile isParameter).drop 1)
  | char :: rest => char :: dropSequences rest
termination_by chars => chars.length
decreasing_by
  · have := (List.dropWhile_sublist isParameter (l := rest)).length_le
    rw [List.length_drop, List.length_cons, List.length_cons]
    omega
  · exact Nat.lt_succ_self _

theorem dropSequences_append {run : List Char} (noEscape : '\x1b' ∉ run) (rest : List Char) :
    dropSequences (run ++ rest) = run ++ dropSequences rest := by
  induction run with
  | nil => rfl
  | cons char run ih =>
      rw [List.mem_cons, not_or] at noEscape
      rw [List.cons_append, dropSequences, ih noEscape.2, List.cons_append]
      intro behind same
      exact absurd same.symm noEscape.1

theorem dropSequences_control {parameters : String} (valid : parameters.toList.all isParameter)
    (rest : List Char) :
    dropSequences ((Style.control parameters).toList ++ rest) = dropSequences rest := by
  have skipped : (parameters.toList ++ 'm' :: rest).dropWhile isParameter = 'm' :: rest := by
    rw [List.dropWhile_append_of_pos (List.all_eq_true.mp valid)]
    rfl
  rw [toList_control, List.append_assoc, List.append_assoc]
  simp only [List.cons_append, List.nil_append]
  rw [dropSequences, skipped]
  rfl

theorem dropSequences_control_if {parameters : String} (valid : parameters.toList.all isParameter)
    (flag : Bool) (rest : List Char) :
    dropSequences ((if flag then Style.control parameters else "").toList ++ rest) =
      dropSequences rest := by
  cases flag with
  | true => exact dropSequences_control valid rest
  | false => rfl

theorem dropSequences_flags (style : Style) (rest : List Char) :
    dropSequences
        ((if style.bold then Style.control "1" else "").toList ++
          ((if style.italic then Style.control "3" else "").toList ++
            ((if style.underline then Style.control "4" else "").toList ++ rest))) =
      dropSequences rest := by
  rw [dropSequences_control_if (by decide), dropSequences_control_if (by decide),
    dropSequences_control_if (by decide)]

theorem dropSequences_opening (style : Style) (rest : List Char) :
    dropSequences (style.opening.toList ++ rest) = dropSequences rest := by
  rw [Style.toList_opening]
  simp only [List.append_assoc]
  cases isIndex : style.foreground.index? with
  | some index =>
      dsimp only
      rw [dropSequences_control (parameters_color isIndex).1, dropSequences_flags]
  | none => exact dropSequences_flags style rest

theorem dropSequences_closing (style : Style) (rest : List Char) :
    dropSequences (style.closing.toList ++ rest) = dropSequences rest := by
  rw [Style.closing]
  split
  · exact dropSequences_control (by decide) rest
  · exact dropSequences_control_if (by decide) _ rest

theorem dropSequences_paintedAll {tokens : List Token}
    (noEscape : ∀ token ∈ tokens, '\x1b' ∉ token.text.toList) :
    dropSequences (Token.paintedAll tokens).toList = (Token.joined tokens).toList := by
  induction tokens with
  | nil =>
      have nothing : (Token.paintedAll []).toList = [] := rfl
      rw [nothing, dropSequences, Token.toList_joined_nil]
  | cons token tokens ih =>
      obtain ⟨here, rest⟩ := List.forall_mem_cons.mp noEscape
      rw [Token.toList_paintedAll_cons, Token.toList_joined_cons, ← ih rest, Token.painted]
      cases token.tokenClass with
      | some tokenClass =>
          dsimp only
          rw [Style.paint, String.toList_append, String.toList_append, List.append_assoc,
            List.append_assoc, dropSequences_opening, dropSequences_append here,
            dropSequences_closing]
      | none => exact dropSequences_append here _

end Terminal

/-! ### What is shown of tokens -/

namespace Token

theorem toList_joined (tokens : List Token) :
    (joined tokens).toList = tokens.flatMap fun token => token.text.toList := by
  induction tokens with
  | nil => rfl
  | cons token tokens ih => rw [toList_joined_cons, ih, List.flatMap_cons]

theorem map_fst_written (token : Token) : token.written.map (·.1) = token.text.toList := by
  rw [written, List.map_map]
  exact List.map_id _

end Token

/-- A terminal that was in its default state shows tokens, and nothing else about it has changed. -/
structure Terminal.Shows (tokens : List Token) (terminal : Terminal) : Prop where
  /-- The characters shown are those of the texts, in order. -/
  text : String.ofList (terminal.shown.map (·.1)) = Token.joined tokens
  /-- Each of them is written in the style of its own token. -/
  written : terminal.shown = tokens.flatMap Token.written
  /-- No colour and no attribute is left switched on. -/
  pen : terminal.pen = {}
  /-- No control sequence is left open. -/
  mode : terminal.mode = .text

theorem Terminal.shows_paintedAll {tokens : List Token}
    (noEscape : ∀ token ∈ tokens, '\x1b' ∉ token.text.toList) :
    Terminal.Shows tokens (readAll {} (Token.paintedAll tokens).toList) := by
  rw [readAll_paintedAll noEscape, List.nil_append]
  refine ⟨?_, rfl, rfl, rfl⟩
  rw [List.map_flatMap, ← String.toList_inj, String.toList_ofList, Token.toList_joined]
  simp only [Token.map_fst_written]

/-- A token has no character that its text does not have. -/
theorem Language.notMem_text_of_mem_tokens {language : Language} {text : String} {char : Char}
    (absent : char ∉ text.toList) : ∀ token ∈ language.tokens text, char ∉ token.text.toList := by
  intro token member inToken
  have inText : char ∈ (Token.joined (language.tokens text)).toList := by
    rw [Token.toList_joined]
    exact List.mem_flatMap.mpr ⟨token, member, inToken⟩
  rw [joined_tokens] at inText
  exact absent inText

/-- Painted tokens are shown as what they are: their texts, each in the style of its own token, and
styles can be told apart.  Without its control sequences the painting of a text is the text. -/
theorem Token.paintedAll_faithful :
    (∀ tokens : List Token, (∀ token ∈ tokens, '\x1b' ∉ token.text.toList) →
      Terminal.Shows tokens (Terminal.readAll {} (paintedAll tokens).toList)) ∧
    (∀ style other : Style, style.pen = other.pen → style = other) ∧
    (∀ (language : Language) (text : String), '\x1b' ∉ text.toList →
      String.ofList (Terminal.dropSequences (paintedAll (language.tokens text)).toList) =
        text) := by
  refine ⟨fun tokens => Terminal.shows_paintedAll, fun _ _ => (Style.pen_injective ·), ?_⟩
  intro language text noEscape
  rw [Terminal.dropSequences_paintedAll (Language.notMem_text_of_mem_tokens noEscape),
    String.ofList_toList, Language.joined_tokens]

/-- A keyword is in bold and coloured, a comment is in italics, and the blank between them is as the
terminal writes by itself. -/
theorem Token.paintedAll_faithful_to_comment :
    let keyword : Token := { kind := some .word, text := "if", tokenClass := some .keyword }
    let comment : Token := { kind := some .comment, text := "// x", tokenClass := some .comment }
    let tokens := [keyword, .plain ' ', comment]
    (∀ token ∈ tokens, '\x1b' ∉ token.text.toList) ∧
      Terminal.Shows tokens (Terminal.readAll {} (paintedAll tokens).toList) ∧
      '\x1b' ∉ "if // x".toList ∧
      String.ofList
        (Terminal.dropSequences (paintedAll (Language.javaScript.tokens "if // x")).toList) =
          "if // x" := by
  intro keyword comment tokens
  obtain ⟨shows, _, drops⟩ := Token.paintedAll_faithful
  have noEscape : ∀ token ∈ tokens, '\x1b' ∉ token.text.toList := by decide
  have noEscapeInText : '\x1b' ∉ "if // x".toList := by decide
  exact ⟨noEscape, shows tokens noEscape, noEscapeInText,
    drops Language.javaScript "if // x" noEscapeInText⟩

end FencedCode
