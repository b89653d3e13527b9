import FencedCode.Pattern.Assertion
import FencedCode.Pattern.CharSet

/-!
# Patterns

A pattern tried at a place has a list of ends: the places where a match may stop, the preferred one
first.  An earlier alternative is preferred to a later one, and a greedy repetition prefers more
rounds where a lazy one prefers fewer.  The match is the first of the ends, so a preferred
alternative that matches hides all others, even longer ones.

Lists of ends hold each place once.  This keeps a pattern whose parts overlap, such as a repetition
inside a repetition, from multiplying its work.

Engines need not agree on the end they prefer where the body of a repetition can match nothing.
What is said of all rules is therefore said of every engine, and not of this one alone.
-/

namespace FencedCode

inductive Pattern where
  /-- Matches nothing but the empty text. -/
  | empty
  /-- One character of a set. -/
  | one (set : CharSet)
  /-- A condition on the place. -/
  | assert (assertion : Assertion)
  /-- One pattern after the other. -/
  | seq (first second : Pattern)
  /-- One pattern or the other; the first is preferred. -/
  | alt (first second : Pattern)
  /-- Between `least` and `most` rounds of a pattern; without `most` there is no upper bound. -/
  | repeated (body : Pattern) (least : Nat) (most : Option Nat) (greedy : Bool)
deriving DecidableEq, Repr

namespace Pattern

/-- The distinct ends of a first step followed by a second, in order of preference. -/
def andThen (ends : List Cursor) (step : Cursor → List Cursor) : List Cursor :=
  (ends.foldl (fun found cursor => (step cursor).foldl Found.add found) {}).toList

/-- The ends of a round that consumes something. -/
def consumingRound (step : Cursor → List Cursor) (cursor : Cursor) : List Cursor :=
  (step cursor).filter fun next => next.size < cursor.size

/-- Adds the ends of any number of rounds from `cursor` on.  A round that consumes nothing leads
back to where it began and is passed over: the next way through the body is tried instead.
`bound` is at least the number of characters to come. -/
def roundsFrom (step : Cursor → List Cursor) (greedy : Bool) (bound : Nat) (found : Found)
    (cursor : Cursor) : Found :=
  match bound with
  | 0 => found.add cursor
  | bound + 1 =>
    if found.contains cursor then found
    else
      let further := (consumingRound step cursor).foldl (roundsFrom step greedy bound)
        (if greedy then found else found.add cursor)
      further.add cursor

/-- The ends of at least one round.  The first round may consume nothing. -/
def someRounds (step : Cursor → List Cursor) (greedy : Bool) (cursor : Cursor) : List Cursor :=
  ((step cursor).foldl
    (fun found next =>
      if next.size < cursor.size then roundsFrom step greedy next.size found next
      else found.add next)
    {}).toList

/-- The ends of any number of rounds: those of at least one, and the place itself. -/
def anyRounds (step : Cursor → List Cursor) (greedy : Bool) (cursor : Cursor) : List Cursor :=
  let some := someRounds step greedy cursor
  andThen (if greedy then some ++ [cursor] else cursor :: some) fun next => [next]

/-- The ends of exactly `count` rounds. -/
def exactRounds (step : Cursor → List Cursor) : Nat → Cursor → List Cursor
  | 0, cursor => [cursor]
  | count + 1, cursor => andThen (exactRounds step count cursor) step

/-- The ends of at most `count` rounds. -/
def fewRounds (step : Cursor → List Cursor) (greedy : Bool) : Nat → Cursor → List Cursor
  | 0, cursor => [cursor]
  | count + 1, cursor =>
    let more := andThen (step cursor) (fewRounds step greedy count)
    andThen (if greedy then more ++ [cursor] else cursor :: more) fun next => [next]

/-- The ends of a repetition. -/
def rounds (step : Cursor → List Cursor) (least : Nat) (most : Option Nat) (greedy : Bool)
    (cursor : Cursor) : List Cursor :=
  match least, most with
  | 0, none => anyRounds step greedy cursor
  | least + 1, none => andThen (exactRounds step least cursor) (someRounds step greedy)
  | least, some most =>
    andThen (exactRounds step least cursor) (fewRounds step greedy (most - least))

/-- The places where a match that starts at the cursor may end, the preferred one first. -/
def ends : Pattern → Cursor → List Cursor
  | empty, cursor => [cursor]
  | one set, cursor =>
    match cursor.next? with
    | some (char, next) => if set.contains char then [next] else []
    | none => []
  | assert assertion, cursor => if assertion.holds cursor then [cursor] else []
  | seq first second, cursor => andThen (first.ends cursor) second.ends
  | alt first second, cursor =>
    andThen (first.ends cursor ++ second.ends cursor) fun next => [next]
  | repeated body least most greedy, cursor => rounds body.ends least most greedy cursor

/-- The end of the preferred match at the cursor, unless that match is empty. -/
def matchEnd? (pattern : Pattern) (cursor : Cursor) : Option Cursor :=
  match pattern.ends cursor with
  | next :: _ => if next.size < cursor.size then some next else none
  | [] => none

theorem size_lt_of_matchEnd? {pattern : Pattern} {cursor stop : Cursor}
    (found : pattern.matchEnd? cursor = some stop) : stop.size < cursor.size := by
  unfold matchEnd? at found
  split at found
  · split at found
    · next shorter => cases found; exact shorter
    · cases found
  · cases found

/-- The pattern that matches one given text. -/
def literal (text : List Char) : Pattern :=
  text.foldr (fun char rest => seq (one (.single char)) rest) empty

end Pattern

end FencedCode
