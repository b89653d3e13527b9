import FencedCode.Error
import FencedCode.Language.Basic
import FencedCode.Pattern.Parser
import FencedCode.Toml.Parser

/-!
# Language files

A user describes further languages in a document with a list `language` of entries.  The document
is decoded as a whole; then each rule of each entry is checked in order, its kind before its
pattern, and the first that fails decides the error.

How a document is decoded and which patterns can be compiled is not decided here: both are parameters,
and the program runs with the readers of this library.
-/

namespace FencedCode

open Toml

/-- A rule as it is written down. -/
structure RuleEntry where
  /-- The name of the kind. -/
  kind : String
  /-- The text of the pattern. -/
  pattern : String
deriving DecidableEq, Repr

/-- A language as it is written down. -/
structure LanguageEntry where
  /-- The name that is shown. -/
  name : String
  /-- The names under which a block asks for the language. -/
  aliases : List String := []
  /-- Whether blocks can be run. -/
  runnable : Bool := false
  /-- The words that are keywords. -/
  keywords : List String := []
  /-- The words that the language provides. -/
  builtins : List String := []
  rules : List RuleEntry := []
deriving DecidableEq, Repr

/-- Gives the pattern that a text writes, or what is wrong with the text. -/
abbrev Compiler := String → Except String Pattern

/-- The compiler of this library.  It refuses properties that it does not know, and it sets no limit
to the size of a pattern. -/
def Pattern.compile : Compiler := fun text =>
  match parse? text with
  | some pattern => .ok pattern
  | none => .error "error parsing pattern 0"

/-- Checks a rule, its kind first. -/
def RuleEntry.toRule (compile : Compiler) (entry : RuleEntry) : Except Error Rule :=
  match TokenKind.ofName? entry.kind with
  | none => .error (.unknownTokenKind entry.kind)
  | some kind =>
    match compile entry.pattern with
    | .error cause => .error (.pattern { kind, cause })
    | .ok pattern => .ok { kind, pattern }

/-- Checks the rules of an entry in order. -/
def LanguageEntry.toLanguage (compile : Compiler := Pattern.compile) (entry : LanguageEntry) :
    Except Error Language := do
  let rules ← entry.rules.mapM (RuleEntry.toRule compile)
  return { name := entry.name, aliases := entry.aliases, runnable := entry.runnable, rules,
           keywords := entry.keywords, builtins := entry.builtins }

namespace LanguageFile

def text? : Value → Option String
  | .string text => some text
  | _ => none

def flag? : Value → Option Bool
  | .boolean value => some value
  | _ => none

/-- A list, each element of which is decoded alike. -/
def list? {α : Type} (decode? : Value → Option α) : Value → Option (List α)
  | .array elements _ => elements.mapM decode?
  | _ => none

/-- The fields of a record, which may be a table or a list of the fields in order. -/
def fields? (names : List String) : Value → Option Entries
  | .table _ entries => some entries
  | .array elements _ => some (names.zip elements)
  | _ => none

/-- A field that must be there. -/
def required? {α : Type} (decode? : Value → Option α) (name : String) (fields : Entries) :
    Option α :=
  (fields.lookup name).bind decode?

/-- A field that may be missing. -/
def optional? {α : Type} (decode? : Value → Option α) (default : α) (name : String)
    (fields : Entries) : Option α :=
  match fields.lookup name with
  | some value => decode? value
  | none => some default

def rule? (value : Value) : Option RuleEntry := do
  let fields ← fields? ["kind", "pattern"] value
  return { kind := ← required? text? "kind" fields
           pattern := ← required? text? "pattern" fields }

def language? (value : Value) : Option LanguageEntry := do
  let fields ← fields? ["name", "aliases", "runnable", "keywords", "builtins", "rule"] value
  return { name := ← required? text? "name" fields
           aliases := ← required? (list? text?) "aliases" fields
           runnable := ← optional? flag? false "runnable" fields
           keywords := ← optional? (list? text?) [] "keywords" fields
           builtins := ← optional? (list? text?) [] "builtins" fields
           rules := ← optional? (list? rule?) [] "rule" fields }

/-- The entries that a document lists. -/
def entries? (document : String) : Option (List LanguageEntry) := do
  optional? (list? language?) [] "language" (← Toml.parse? document)

/-- Decodes a document of this library's format. -/
def decode (document : String) : Except String (List LanguageEntry) :=
  match entries? document with
  | some entries => .ok entries
  | none => .error "the document lists no languages"

/-- What reads language files. -/
structure Readers where
  /-- Gives the entries that a document lists, or what is wrong with the document. -/
  decode : String → Except String (List LanguageEntry) := decode
  compile : Compiler := Pattern.compile

/-- The languages that entries describe, or the first error in their order. -/
def languagesOf (compile : Compiler) (entries : List LanguageEntry) :
    Except Error (List Language) :=
  entries.mapM (LanguageEntry.toLanguage compile)

/-- The languages that a document describes. -/
def parse (document : String) (readers : Readers := {}) : Except Error (List Language) :=
  match readers.decode document with
  | .ok entries => languagesOf readers.compile entries
  | .error cause => .error (@Error.languageFile cause)

/-- The languages of a file that may be unreadable. -/
def load (content : Except FileError String) (readers : Readers := {}) :
    Except Error (List Language) :=
  match content with
  | .ok document => parse document readers
  | .error cause => .error (.file cause)

end LanguageFile

end FencedCode
