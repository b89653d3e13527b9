import FencedCode.Pattern.Basic
import FencedCode.Text.LetterCase
import FencedCode.Token

/-!
# Languages

A language is an ordered list of rules with the words it knows.  A rule pairs a pattern with a
kind.  At a given place the first rule decides whose pattern matches a non-empty text there.
-/

namespace FencedCode

/-- A pattern and the kind of the tokens it matches. -/
structure Rule where
  /-- The kind of a match. -/
  kind : TokenKind
  pattern : Pattern
deriving DecidableEq, Repr

/-- A language: its names, its rules in order, and its words. -/
structure Language where
  /-- The name that is shown. -/
  name : String
  /-- The names under which a block asks for the language. -/
  aliases : List String := []
  /-- Whether blocks can be run. -/
  runnable : Bool := false
  /-- Whether types are stripped before a run. -/
  stripsTypes : Bool := false
  /-- The rules, tried in this order. -/
  rules : List Rule := []
  /-- The words that are keywords. -/
  keywords : List String := []
  /-- The words that the language provides. -/
  builtins : List String := []
deriving DecidableEq, Repr

namespace Language

/-- The first alias, which stands for the language where one name is needed. -/
def primaryAlias (language : Language) : String := language.aliases.head?.getD ""

/-- Whether an alias is one of the language's, up to the case of ASCII letters. -/
def hasAlias (language : Language) (name : String) : Bool :=
  language.aliases.any (Text.eqIgnoringAsciiCase · name)

/-- Whether a list of words holds a word as it is written or in small letters. -/
def knowsWord (words : List String) (word : String) : Bool :=
  words.contains word || words.contains (Text.lower word)

/-- Whether a word is a keyword. -/
def isKeyword (language : Language) (word : String) : Bool := knowsWord language.keywords word

/-- Whether a word is one that the language provides. -/
def isBuiltin (language : Language) (word : String) : Bool := knowsWord language.builtins word

/-- The class of a word, given the text after it. -/
def wordClass? (language : Language) (word : String) (after : List Char) : Option TokenClass :=
  if language.isKeyword word then some .keyword
  else if language.isBuiltin word then some .builtin
  else if after.head? == some '(' then some .function
  else none

/-- The class of a match, given the text after it. -/
def classOf? (language : Language) (kind : TokenKind) (word : String) (after : List Char) :
    Option TokenClass :=
  if kind = .word then language.wordClass? word after else kind.tokenClass?

/-- The first rule that matches at a place, with the end of its match. -/
def firstMatch? (language : Language) (cursor : Cursor) : Option (Rule × Cursor) :=
  language.rules.findSome? fun rule => (rule.pattern.matchEnd? cursor).map fun stop => (rule, stop)

end Language

end FencedCode
