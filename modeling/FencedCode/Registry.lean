import FencedCode.Error
import FencedCode.Language.Commands
import FencedCode.Language.Documents
import FencedCode.Language.Programs
import FencedCode.Language.Tokens
import FencedCode.Markup

/-!
# Registries

A registry holds languages in the order in which they are offered and finds them by alias, without
regard to case.  No two of its aliases may agree up to case; a list of languages in which two do is
refused, with the first alias that repeats an earlier one.

A process has one registry that all of its parts share.  It stays the same from its first use on.
-/

namespace FencedCode

/-- The built-in languages, in the order in which they are offered. -/
def builtinLanguages : List Language :=
  [.javaScript, .typeScript, .python, .html, .css, .json, .markdown, .shell, .sql]

/-- Languages that can be found by alias. -/
structure Registry where
  /-- The languages, in the order in which they are offered. -/
  languages : List Language
  /-- Each alias in small letters, with the language that claims it. -/
  owners : List (String × Language)
deriving Repr

namespace Registry

/-- The aliases of languages in small letters, each with its language, in order. -/
def claims (languages : List Language) : List (String × Language) :=
  languages.flatMap fun language => language.aliases.map fun name => (Text.lower name, language)

/-- Adds claims one by one, up to the first whose alias is taken. -/
def settle (owners : List (String × Language)) :
    List (String × Language) → Except Error (List (String × Language))
  | [] => .ok owners
  | (name, language) :: rest =>
    match owners.lookup name with
    | some first => .error (.duplicateAlias name first.name language.name)
    | none => settle (owners ++ [(name, language)]) rest

/-- The registry of a list of languages. -/
def ofLanguages (languages : List Language) : Except Error Registry := do
  let owners ← settle [] (claims languages)
  return { languages, owners }

/-- The registry of the built-in languages. -/
def builtin : Registry where
  languages := builtinLanguages
  owners := claims builtinLanguages

/-- The registry of the built-in languages followed by others. -/
def builtinWith (extra : List Language) : Except Error Registry :=
  ofLanguages (builtinLanguages ++ extra)

/-- The language of an alias.  The empty alias names none. -/
def resolve? (registry : Registry) (name : String) : Option Language :=
  if name.isEmpty then none else registry.owners.lookup (Text.lower name)

/-- Whether an alias names a language. -/
def isSupported (registry : Registry) (name : String) : Bool := (registry.resolve? name).isSome

/-- Whether an alias names a language whose blocks can be run. -/
def isRunnable (registry : Registry) (name : String) : Bool :=
  (registry.resolve? name).any (·.runnable)

/-- A text as markup, in the language of an alias.  Where the alias names none, or one without
rules, the text is only escaped. -/
def highlight (registry : Registry) (text name : String) : String :=
  match registry.resolve? name with
  | some language =>
    if language.rules.isEmpty then Markup.escape text else Markup.ofTokens (language.tokens text)
  | none => Markup.escape text

end Registry

/-- The registry that all parts of a process share, once it is decided which one it is. -/
structure SharedRegistry where
  decided : Option Registry := none
deriving Repr

namespace SharedRegistry

/-- The shared registry.  Its first use decides for the built-in one if none has been installed. -/
def use (shared : SharedRegistry) : Registry × SharedRegistry :=
  let registry := shared.decided.getD .builtin
  (registry, { decided := some registry })

/-- Makes a registry the shared one, which can be done once and only before the first use. -/
def install (shared : SharedRegistry) (registry : Registry) : Except Error SharedRegistry :=
  match shared.decided with
  | some _ => .error .registryInstalled
  | none => .ok { decided := some registry }

end SharedRegistry

end FencedCode
