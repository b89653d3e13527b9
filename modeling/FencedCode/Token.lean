/-!
# Tokens

A token is a piece of text together with the kind of the rule that matched it and the class under
which it is presented.  Kinds say what a rule matched.  Classes say how the piece is shown; they
also tell keywords, built-in names and called functions apart, which all are words.
-/

namespace FencedCode

inductive TokenKind where
  | comment
  | string
  | number
  /-- A regular expression written as a literal. -/
  | regex
  | operator
  /-- A keyword that a rule of its own matches. -/
  | keyword
  /-- An identifier, which may turn out to be a keyword or a built-in name. -/
  | word
  | punctuation
  | whitespace
  | tag
  | selector
  | heading
  | code
  | bold
  | italic
  | link
  /-- A reference to a shell variable. -/
  | variableRef
deriving DecidableEq, Repr

/-- How a token is presented. -/
inductive TokenClass where
  | comment
  | string
  | number
  | regex
  | operator
  | keyword
  /-- A word that the language provides. -/
  | builtin
  /-- A word right before an opening parenthesis. -/
  | function
  | tag
  | selector
  | heading
  | code
  | bold
  | italic
  | link
  | variableRef
deriving DecidableEq, Repr

namespace TokenKind

def all : List TokenKind :=
  [comment, string, number, regex, operator, keyword, word, punctuation, whitespace, tag, selector,
   heading, code, bold, italic, link, variableRef]

theorem mem_all (kind : TokenKind) : kind ∈ all := by
  cases kind <;> decide

/-- The name of a kind in language files. -/
def name : TokenKind → String
  | comment => "comment"
  | string => "string"
  | number => "number"
  | regex => "regex"
  | operator => "operator"
  | keyword => "keyword"
  | word => "word"
  | punctuation => "punctuation"
  | whitespace => "whitespace"
  | tag => "tag"
  | selector => "selector"
  | heading => "heading"
  | code => "code"
  | bold => "bold"
  | italic => "italic"
  | link => "link"
  | variableRef => "variable"

/-- The kind of a name. -/
def ofName? (name : String) : Option TokenKind := all.find? (·.name == name)

theorem ofName?_eq_some_iff {name : String} {kind : TokenKind} :
    ofName? name = some kind ↔ kind.name = name := by
  constructor
  · intro found
    simpa using List.find?_some found
  · rintro rfl
    cases kind <;> decide

/-- The class of a token of this kind, as far as the kind alone decides it.  Words, punctuation and
white space have none. -/
def tokenClass? : TokenKind → Option TokenClass
  | comment => some .comment
  | string => some .string
  | number => some .number
  | regex => some .regex
  | operator => some .operator
  | keyword => some .keyword
  | tag => some .tag
  | selector => some .selector
  | heading => some .heading
  | code => some .code
  | bold => some .bold
  | italic => some .italic
  | link => some .link
  | variableRef => some .variableRef
  | word | punctuation | whitespace => none

end TokenKind

namespace TokenClass

def all : List TokenClass :=
  [comment, string, number, regex, operator, keyword, builtin, function, tag, selector, heading,
   code, bold, italic, link, variableRef]

/-- The name under which style sheets know the class. -/
def cssName : TokenClass → String
  | comment => "ce-comment"
  | string => "ce-string"
  | number => "ce-number"
  | regex => "ce-regex"
  | operator => "ce-operator"
  | keyword => "ce-keyword"
  | builtin => "ce-builtin"
  | function => "ce-function"
  | tag => "ce-tag"
  | selector => "ce-selector"
  | heading => "ce-heading"
  | code => "ce-code"
  | bold => "ce-bold"
  | italic => "ce-italic"
  | link => "ce-link"
  | variableRef => "ce-variable"

/-- The class of a name. -/
def ofCssName? (name : String) : Option TokenClass := all.find? (·.cssName == name)

end TokenClass

/-- A piece of text with its kind and its class.  A character that no rule matches has neither. -/
structure Token where
  /-- The kind of the rule that matched. -/
  kind : Option TokenKind
  text : String
  /-- The class under which it is shown. -/
  tokenClass : Option TokenClass
deriving DecidableEq, Repr

namespace Token

/-- A character that no rule matches. -/
def plain (char : Char) : Token where
  kind := none
  text := .singleton char
  tokenClass := none

end Token

end FencedCode
