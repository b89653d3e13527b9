import FencedCode.Pattern.Shapes

/-!
# Erasing types

Removes from a text what looks like the types of a typed script, so that simple snippets can be run
without them.  Four passes follow each other: types behind a colon, casts, type arguments of calls,
and lines that declare types.  No pass parses the text, so a colon of another meaning may be taken
for the start of a type.  A pass only ever deletes: of a match it keeps at most the last character,
which ends the type without being part of it.
-/

namespace FencedCode

namespace TypeErasure

open Pattern

/-- What a pass looks for, and whether it keeps the last character of what it finds. -/
structure Pass where
  pattern : Pattern
  /-- Whether the last character of a match stays. -/
  keepsLast : Bool
deriving Repr

namespace Pass

/-- What stays of a match. -/
def keep (pass : Pass) (matched : List Char) : List Char :=
  if pass.keepsLast then matched.drop (matched.length - 1) else []

/-- The text from a place on after the pass.  Matches are sought from left to right, and the search
goes on behind each match. -/
def eraseFrom (pass : Pass) (cursor : Cursor) : List Char :=
  match _found : pass.pattern.matchEnd? cursor with
  | some stop => pass.keep (cursor.charsTo stop) ++ pass.eraseFrom stop
  | none =>
    match _step : cursor.next? with
    | some (char, next) => char :: pass.eraseFrom next
    | none => []
termination_by cursor.size
decreasing_by
  · exact size_lt_of_matchEnd? _found
  · have := Cursor.size_next _step; omega

/-- A text after the pass. -/
def erase (pass : Pass) (chars : List Char) : List Char := pass.eraseFrom (.start chars)

end Pass

/-- ASCII letters and the brackets and operators of types. -/
def typeChars : CharSet :=
  .union (.union (.range 'A' 'Z') (.range 'a' 'z')) (.ofList ['<', '>', '[', ']', '|', '&'])

/-- The characters of types, with separators and white space. -/
def spacedTypeChars : CharSet := .union typeChars (.union (.single ',') (.named .blank))

/-- A colon and a type, up to a character that can follow a type. -/
def colonPass : Pass where
  pattern := sequenceOf
    [text ":", star (one (.named .blank)), plus (one spacedTypeChars), oneOf ",)]=;"]
  keepsLast := true

/-- The word `as` and a type. -/
def castPass : Pass where
  pattern := sequenceOf [asciiEdge, text "as", plus (one (.named .blank)), plus (one typeChars)]
  keepsLast := false

/-- Types in angle brackets right before the parenthesis of a call. -/
def callPass : Pass where
  pattern := sequenceOf [text "<", plus (one spacedTypeChars), text ">", text "("]
  keepsLast := true

/-- A line that starts with `interface` or `type`; its end stays. -/
def declarationPass : Pass where
  pattern := sequenceOf
    [assert .anyLineStart, alt (text "interface") (text "type"), plus (one (.named .blank)),
     star (noneOf "\r\n"), assert .anyLineEnd]
  keepsLast := false

/-- The characters of a text after all passes. -/
def eraseChars (chars : List Char) : List Char :=
  declarationPass.erase (callPass.erase (castPass.erase (colonPass.erase chars)))

end TypeErasure

/-- The text without its types. -/
def eraseTypes (source : String) : String := .ofList (TypeErasure.eraseChars source.toList)

end FencedCode
