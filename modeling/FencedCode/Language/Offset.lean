import FencedCode.Language.Basic

/-!
# Byte offsets

Outside of the library, places in a text are counted in the bytes of its UTF-8 form.  Here such
offsets are turned into cursors and back.  An offset inside a character is no place.
-/

namespace FencedCode

/-- The number of bytes of a list of characters. -/
def byteSize : List Char → Nat
  | [] => 0
  | char :: rest => char.utf8Size + byteSize rest

namespace Cursor

/-- The cursor `offset` bytes further on, unless that is inside a character or behind the end. -/
def skipBytes? (cursor : Cursor) (offset : Nat) : Option Cursor :=
  if offset = 0 then some cursor
  else
    match _step : cursor.next? with
    | none => none
    | some (char, next) =>
      if char.utf8Size ≤ offset then next.skipBytes? (offset - char.utf8Size) else none
termination_by cursor.size
decreasing_by have := size_next _step; omega

end Cursor

namespace Rule

/-- Where the match of a rule at a byte offset ends, in bytes. -/
def matchAt? (rule : Rule) (text : String) (offset : Nat) : Option Nat := do
  let cursor ← (Cursor.start text.toList).skipBytes? offset
  let stop ← rule.pattern.matchEnd? cursor
  return offset + byteSize (cursor.charsTo stop)

end Rule

end FencedCode
