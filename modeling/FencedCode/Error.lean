import FencedCode.Token

/-!
# Errors

What can go wrong while languages, settings and blocks are set up, and the message for each cause.
Highlighting and running a block never fail.
-/

namespace FencedCode

/-- Why a file could not be read. -/
inductive FileError where
  /-- There is no such file. -/
  | notFound
  /-- The path names a directory. -/
  | isDirectory
  /-- The content is not encoded text. -/
  | notText
  /-- Any other cause, in the words of the system. -/
  | other (cause : String)
deriving DecidableEq, Repr

namespace FileError

/-- The message of a cause. -/
def message : FileError → String
  | notFound => "No such file or directory (os error 2)"
  | isDirectory => "Is a directory (os error 21)"
  | notText => "stream did not contain valid UTF-8"
  | other cause => cause

end FileError

/-- A pattern of a rule that is refused. -/
structure RefusedPattern where
  /-- The kind of the rule. -/
  kind : TokenKind
  /-- What is wrong with the pattern.  Most often it cannot be parsed. -/
  cause : String := "error parsing pattern 0"
deriving DecidableEq, Repr

instance : Coe TokenKind RefusedPattern := ⟨fun kind => { kind }⟩

inductive Error where
  /-- A file could not be read. -/
  | file (cause : FileError)
  /-- The pattern of a rule is refused. -/
  | pattern (refused : RefusedPattern)
  /-- Two languages claim one alias, given in small letters. -/
  | duplicateAlias (name first second : String)
  /-- A rule names a kind that does not exist. -/
  | unknownTokenKind (name : String)
  /-- A language file is not well formed; `cause` is what its decoder says. -/
  | languageFile {cause : String}
  /-- The registry in use can no longer be replaced. -/
  | registryInstalled
deriving DecidableEq, Repr

namespace Error

/-- The message of a cause. -/
def message : Error → String
  | file cause => "I/O error: " ++ cause.message
  | pattern refused => "Invalid pattern for " ++ refused.kind.name ++ " rule: " ++ refused.cause
  | duplicateAlias name first second =>
    "Alias '" ++ name ++ "' is claimed by both " ++ first ++ " and " ++ second
  | unknownTokenKind name => "Unknown token kind: " ++ name
  | @languageFile cause => "Malformed language file: " ++ cause
  | registryInstalled => "Language registry is already initialised"

end Error

end FencedCode
