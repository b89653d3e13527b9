import FencedCode.Execution.Run
import FencedCode.Fence
import FencedCode.Language.File
import FencedCode.Settings
import FencedCode.Terminal.Style

/-!
# The command line

The arguments decide what is done: the first of them that asks for help or for the version, or that is
no known option, decides alone; otherwise the last mode and the last path count.  A block is then read
from a file or from the input and written as markup, with the colours of a terminal, or run.

What the program reads comes from a host, and all that it writes is a report, so that a run is a
function of the host.
-/

namespace FencedCode.CommandLine

/-! ### Arguments -/

/-- What is done with a block. -/
inductive Mode where
  | html
  | ansi
  | run
  /-- No block is read; the languages are listed. -/
  | languages
deriving DecidableEq, Repr

/-- What the arguments ask for. -/
inductive Request where
  | usage
  | version
  /-- An argument that is no known option. -/
  | unknown (option : String)
  /-- A mode, and the path of the file to read; without a path the input is read. -/
  | work (mode : Mode) (path : Option String)
deriving DecidableEq, Repr

/-- What arguments ask for, behind others that have set the mode and the path. -/
def Request.ofArguments (mode : Mode) (path : Option String) : List String → Request
  | [] => .work mode path
  | argument :: rest =>
    match argument with
    | "--help" | "-h" => .usage
    | "--version" | "-V" => .version
    | "--html" => ofArguments .html path rest
    | "--ansi" => ofArguments .ansi path rest
    | "--run" => ofArguments .run path rest
    | "--languages" => ofArguments .languages path rest
    | "-" => ofArguments mode none rest
    | argument =>
      if argument.startsWith "-" then .unknown argument
      else ofArguments mode (some argument) rest

/-- What all arguments of a call ask for. -/
def request (arguments : List String) : Request := .ofArguments .html none arguments

/-! ### Reports -/

/-- All that a call writes. -/
structure Report where
  exitCode : Nat := 0
  /-- The settings that the log warns about.  The log goes to standard error too, in lines of its own
  that come first. -/
  warnings : List Settings.Ignored := []
  /-- The text on standard output. -/
  output : String := ""
  /-- The text on standard error. -/
  errors : String := ""
deriving DecidableEq, Repr

/-- Lines as one text, each with its line feed. -/
def unlines (lines : List String) : String := String.join (lines.map (· ++ "\n"))

/-- The version of the program. -/
def version : String := "codeblock 0.1.0"

/-- The text that explains the program. -/
def usage : String := unlines
  [version ++ " - highlight and run fenced code blocks",
   "",
   "Usage: codeblock [OPTIONS] [FILE]",
   "",
   "Reads a fenced block (\x60\x60\x60lang ... \x60\x60\x60) from FILE, or stdin when FILE",
   "is absent or -.",
   "",
   "Options:",
   "  --html         Print highlighted markup (default)",
   "  --ansi         Print with terminal colours",
   "  --run          Execute the block and print its console output",
   "  --languages    List supported languages and aliases",
   "  -h, --help     Show this help message",
   "  -V, --version  Show version information",
   "",
   "Settings are read from ~/.codeblock.conf; RUST_LOG controls logging."]

/-- The report of a failure. -/
def Report.ofError (error : Error) : Report :=
  { exitCode := 1, errors := unlines ["Error: " ++ error.message] }

/-- The line for a language: its name in a column, its aliases, and whether its blocks can be run. -/
def languageLine (language : Language) : String :=
  let column := language.name.length
  language.name ++ .ofList (List.replicate (12 - column) ' ') ++ " "
    ++ ", ".intercalate language.aliases ++ if language.runnable then " (runnable)" else ""

/-- How an entry of a level is shown. -/
def levelStyle : LogLevel → Style
  | .log => {}
  | .info => { foreground := .brightCyan }
  | .warn => { foreground := .brightYellow }
  | .error => { foreground := .brightRed }

/-- The line for an entry. -/
def entryLine (entry : LogEntry) : String := (levelStyle entry.level).paint entry.display

/-- A block with the colours of a terminal, if it has a language. -/
def painted (registry : Registry) (block : Fence) : String :=
  match registry.resolve? block.name with
  | some language => Token.paintedAll (Language.tokens language block.body)
  | none => block.body

/-- The lines written for a block in a mode. -/
def blockLines (engine : Engine) (registry : Registry) (block : Fence) : Mode → List String
  | .html => [registry.highlight block.body block.name]
  | .ansi => [painted registry block]
  | .run => (registry.executeWith engine block.body block.name).map entryLine
  | .languages => []

/-! ### Running -/

/-- What a call can read. -/
structure Host (m : Type → Type) where
  home : Option String
  /-- The text of a file. -/
  fileText : String → m (Except FileError String)
  /-- The text of the input. -/
  inputText : m (Except FileError String)

variable {m : Type → Type} [Monad m]

/-- The settings of the host and those among them that are ignored.  They are the usual ones if their
file cannot be read. -/
def readSettings (host : Host m) : m (Settings × List Settings.Ignored) := do
  match Settings.path? host.home with
  | some path =>
    let content := (← host.fileText path).toOption
    return (Settings.ofFile? content, Settings.ignoredOfFile? content)
  | none => return ({}, [])

/-- The settings of the host. -/
def loadSettings (host : Host m) : m Settings := do
  let (settings, _) ← readSettings host
  return settings

/-- Installs the built-in languages together with those of the file that settings name, if they name
one. -/
def installLanguages (readers : LanguageFile.Readers) (host : Host m) (settings : Settings)
    (shared : SharedRegistry) : m (Except Error SharedRegistry) := do
  match settings.languagesFile with
  | some path =>
    let content ← host.fileText path
    return ((LanguageFile.load content readers).bind Registry.builtinWith).bind shared.install
  | none => return .ok shared

/-- Reads the text of a block. -/
def readBlock (host : Host m) (path : Option String) : m (Except FileError String) :=
  match path with
  | some path => host.fileText path
  | none => host.inputText

/-- The report of a mode and a path under settings, given what is decided of the shared registry. -/
def workUnder (settings : Settings) (engine : Engine) (readers : LanguageFile.Readers)
    (host : Host m) (mode : Mode) (path : Option String) (shared : SharedRegistry) : m Report := do
  match ← installLanguages readers host settings shared with
  | .error error => return .ofError error
  | .ok shared =>
    let registry := shared.use.1
    if mode = .languages then
      return { output := unlines (registry.languages.map languageLine) }
    match ← readBlock host path with
    | .error cause => return .ofError (.file cause)
    | .ok raw => return { output := unlines (blockLines engine registry (Fence.parse raw) mode) }

/-- The report of a mode and a path.  Nothing is decided of the shared registry when a process
starts. -/
def work (engine : Engine) (readers : LanguageFile.Readers) (host : Host m) (mode : Mode)
    (path : Option String) : m Report := do
  let (settings, warnings) ← readSettings host
  let report ← workUnder settings engine readers host mode path {}
  return { report with warnings }

/-- The report of a call. -/
def report (engine : Engine) (host : Host m) (arguments : List String)
    (readers : LanguageFile.Readers := {}) : m Report := do
  match request arguments with
  | .usage => return { output := usage }
  | .version => return { output := unlines [version] }
  | .unknown option =>
    return { exitCode := 2, output := usage, errors := unlines ["Unknown option: " ++ option] }
  | .work mode path => work engine readers host mode path

end FencedCode.CommandLine
