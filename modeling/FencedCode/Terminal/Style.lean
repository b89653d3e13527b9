import FencedCode.Token

/-!
# Terminal styles

Colours and attributes of text on a terminal, and the control sequences that switch them on and
off.  A style that sets an attribute is ended by resetting everything, one that sets a colour alone
by resetting the colour.
-/

namespace FencedCode

/-- The colours in use, from the sixteen that every terminal has. -/
inductive Color where
  /-- The colour that the terminal has by itself. -/
  | plain
  | red | green | yellow | blue | magenta | cyan
  | brightBlack | brightRed | brightYellow | brightBlue | brightMagenta | brightCyan | brightWhite
deriving DecidableEq, Repr

namespace Color

def all : List Color :=
  [plain, red, green, yellow, blue, magenta, cyan, brightBlack, brightRed, brightYellow, brightBlue,
   brightMagenta, brightCyan, brightWhite]

/-- The name of a colour. -/
def name : Color → String
  | plain => "default"
  | red => "red"
  | green => "green"
  | yellow => "yellow"
  | blue => "blue"
  | magenta => "magenta"
  | cyan => "cyan"
  | brightBlack => "bright-black"
  | brightRed => "bright-red"
  | brightYellow => "bright-yellow"
  | brightBlue => "bright-blue"
  | brightMagenta => "bright-magenta"
  | brightCyan => "bright-cyan"
  | brightWhite => "bright-white"

/-- The colour of a name. -/
def ofName? (name : String) : Option Color := all.find? (·.name == name)

/-- The number of a colour in the palette. -/
def index? : Color → Option Nat
  | plain => none
  | red => some 1
  | green => some 2
  | yellow => some 3
  | blue => some 4
  | magenta => some 5
  | cyan => some 6
  | brightBlack => some 8
  | brightRed => some 9
  | brightYellow => some 11
  | brightBlue => some 12
  | brightMagenta => some 13
  | brightCyan => some 14
  | brightWhite => some 15

end Color

structure Style where
  /-- The colour of the text. -/
  foreground : Color := .plain
  bold : Bool := false
  italic : Bool := false
  underline : Bool := false
deriving DecidableEq, Repr

namespace Style

/-- Whether the style leaves everything as it is. -/
def isDefault (style : Style) : Bool := style = {}

/-- The control sequence with the given parameters. -/
def control (parameters : String) : String := "\x1b[" ++ parameters ++ "m"

/-- The sequences that switch the style on. -/
def opening (style : Style) : String :=
  let color := match style.foreground.index? with
    | some index => control ("38;5;" ++ toString index)
    | none => ""
  color ++ (if style.bold then control "1" else "") ++
    (if style.italic then control "3" else "") ++ (if style.underline then control "4" else "")

/-- The sequence that switches the style off. -/
def closing (style : Style) : String :=
  if style.bold || style.italic || style.underline then control "0"
  else if style.foreground.index?.isSome then control "39"
  else ""

/-- A text in the style. -/
def paint (style : Style) (text : String) : String := style.opening ++ text ++ style.closing

end Style

namespace TokenClass

/-- The style of a class on a terminal. -/
def style : TokenClass → Style
  | comment => { foreground := .brightBlack, italic := true }
  | string => { foreground := .green }
  | number => { foreground := .cyan }
  | regex => { foreground := .brightRed }
  | operator => { foreground := .brightWhite }
  | keyword => { foreground := .magenta, bold := true }
  | builtin => { foreground := .yellow }
  | function => { foreground := .blue }
  | tag => { foreground := .red }
  | selector => { foreground := .brightBlue }
  | heading => { foreground := .brightMagenta, bold := true }
  | code => { foreground := .brightCyan }
  | bold => { bold := true }
  | italic => { italic := true }
  | link => { foreground := .blue, underline := true }
  | variableRef => { foreground := .brightYellow }

end TokenClass

namespace Token

/-- The token as a terminal shows it. -/
def painted (token : Token) : String :=
  match token.tokenClass with
  | some tokenClass => tokenClass.style.paint token.text
  | none => token.text

/-- Tokens as a terminal shows them. -/
def paintedAll (tokens : List Token) : String := String.join (tokens.map painted)

end Token

end FencedCode
