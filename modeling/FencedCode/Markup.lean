import FencedCode.Token

/-!
# Markup

Tokens as HTML.  The three characters that have a meaning in markup are escaped everywhere, and a
token that has a class is wrapped into a span of that class.
-/

namespace FencedCode

namespace Markup

def escapeChar : Char → List Char
  | '&' => "&amp;".toList
  | '<' => "&lt;".toList
  | '>' => "&gt;".toList
  | char => [char]

def escape (text : String) : String := .ofList (text.toList.flatMap escapeChar)

def ofToken (token : Token) : String :=
  match token.tokenClass with
  | some tokenClass =>
    "<span class=\"" ++ tokenClass.cssName ++ "\">" ++ escape token.text ++ "</span>"
  | none => escape token.text

def ofTokens (tokens : List Token) : String := String.join (tokens.map ofToken)

end Markup

end FencedCode
