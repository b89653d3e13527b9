/-!
# Tables of code points

A table is an ascending list of spans.  A span stands for the code points from `first` to `last`
that lie `stride` apart, so that alphabets in which capitals and small letters alternate take one
span and not one per letter.

Tables are written as text: hexadecimal code points separated by blanks or line ends, `A-B` for a run and
`A-B/2` for every second code point of it.
-/

namespace FencedCode.Text

/-- The code points `first`, `first + stride`, … up to `last`. -/
structure Span where
  /-- The least code point of the span. -/
  first : Nat
  /-- The bound of the span, included. -/
  last : Nat
  stride : Nat := 1
deriving DecidableEq, Repr, Inhabited

namespace Span

/-- Whether a code point belongs to the span. -/
def contains (span : Span) (code : Nat) : Bool :=
  span.first ≤ code && code ≤ span.last && (code - span.first) % span.stride == 0

end Span

/-- The value of a hexadecimal digit. -/
def hexDigit? (char : Char) : Option Nat :=
  if '0' ≤ char ∧ char ≤ '9' then some (char.toNat - '0'.toNat)
  else if 'a' ≤ char ∧ char ≤ 'f' then some (char.toNat - 'a'.toNat + 10)
  else if 'A' ≤ char ∧ char ≤ 'F' then some (char.toNat - 'A'.toNat + 10)
  else none

/-- The value of a run of hexadecimal digits; characters that are none are passed over. -/
def hexValue (digits : List Char) : Nat :=
  digits.foldl (fun value char => value * 16 + (hexDigit? char).getD 0) 0

structure CharTable where
  /-- The spans of the table. -/
  spans : Array Span
deriving DecidableEq, Repr, Inhabited

namespace CharTable

/-- Reads one span of the written form. -/
def readSpan (item : String) : Span :=
  let (range, stride) := match item.splitOn "/" with
    | [range, stride] => (range, hexValue stride.toList)
    | _ => (item, 1)
  match range.splitOn "-" with
  | [first, last] => { first := hexValue first.toList, last := hexValue last.toList, stride }
  | _ => { first := hexValue range.toList, last := hexValue range.toList, stride }

/-- The items of a written table. -/
def writtenItems (text : String) : List String :=
  ((text.map fun char => if char == '\n' then ' ' else char).splitOn " ").filter (· ≠ "")

/-- Reads a table from its written form. -/
def ofText (text : String) : CharTable where
  spans := (writtenItems text).toArray.map readSpan

/-- Bisects for the span around `code` among those from `low` to before `high`. -/
def locate? (table : CharTable) (code low high : Nat) : Option Span :=
  if low < high then
    let middle := (low + high) / 2
    match table.spans[middle]? with
    | none => none
    | some span =>
      if code < span.first then table.locate? code low middle
      else if span.last < code then table.locate? code (middle + 1) high
      else some span
  else none
termination_by high - low

/-- Whether a code point is listed. -/
def contains (table : CharTable) (code : Nat) : Bool :=
  match table.locate? code 0 table.spans.size with
  | some span => span.contains code
  | none => false

end CharTable

end FencedCode.Text
