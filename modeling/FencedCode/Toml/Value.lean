/-!
# Values of a settings document

A document is a table of tables, arrays and scalars.  A table remembers how it came into being,
since that decides which later lines may still add to it.
-/

namespace FencedCode.Toml

/-- How a table came into being. -/
inductive Origin where
  /-- By a header of its own, or as the document itself. -/
  | header
  /-- As a stage on the way to a header. -/
  | implied
  /-- As a stage in a dotted key. -/
  | dotted
  /-- By a literal in braces, which is complete. -/
  | inline
deriving DecidableEq, Repr

/-- A value.  Numbers with a fraction and moments in time are kept as they are written. -/
inductive Value where
  | string (text : String)
  | integer (value : Int)
  | float (written : String)
  | moment (written : String)
  | boolean (value : Bool)
  /-- A list; `growing` marks one to which headers add tables. -/
  | array (elements : List Value) (growing : Bool)
  | table (origin : Origin) (entries : List (String × Value))
deriving Repr

/-- The entries of a table, in the order of their first mention. -/
abbrev Entries := List (String × Value)

namespace Entries

/-- Gives a key a value, in its place if it has one already. -/
def put (entries : Entries) (key : String) (value : Value) : Entries :=
  match entries with
  | [] => [(key, value)]
  | (name, held) :: rest =>
    if name = key then (key, value) :: rest else (name, held) :: put rest key value

/-- Gives a key that has no value one. -/
def insertNew? (entries : Entries) (key : String) (value : Value) : Option Entries :=
  if (entries.lookup key).isSome then none else some (entries.put key value)

end Entries

namespace Value

/-- Changes the table at the end of a path.

A stage that is missing is created.  A growing array stands for its last table.  A dotted key may
not lead through a table that has a header, and nothing leads into a literal. -/
def changeAt? (dotted : Bool) (change : Origin → Entries → Option Value) :
    List String → Origin → Entries → Option Value
  | [], origin, entries => change origin entries
  | key :: path, origin, entries =>
    let put (value : Value) : Value := .table origin (entries.put key value)
    match entries.lookup key with
    | none => (changeAt? dotted change path (if dotted then .dotted else .implied) []).map put
    | some (.table inner held) =>
      if inner = .inline || (dotted && inner = .header) then none
      else (changeAt? dotted change path inner held).map put
    | some (.array elements true) =>
      match elements.getLast? with
      | some (.table inner held) =>
        (changeAt? dotted change path inner held).map fun last =>
          put (.array (elements.dropLast ++ [last]) true)
      | _ => none
    | some _ => none

/-- Adds a value at the end of a path of keys.  The table it goes to must have come into being by a
dotted key exactly if the path is dotted. -/
def assign? (path : List String) (key : String) (value : Value) (origin : Origin)
    (entries : Entries) : Option Value :=
  changeAt? true
    (fun inner held =>
      if (inner == .dotted) == path.isEmpty then none
      else (held.insertNew? key value).map (.table inner))
    path origin entries

/-- Opens the table of a header, which may be implied by earlier headers. -/
def openTable? (key : String) (origin : Origin) (entries : Entries) : Option Value :=
  match entries.lookup key with
  | none => some (.table origin (entries.put key (.table .header [])))
  | some (.table .implied held) => some (.table origin (entries.put key (.table .header held)))
  | some _ => none

/-- Opens a further table of an array. -/
def openElement? (key : String) (origin : Origin) (entries : Entries) : Option Value :=
  let element : Value := .table .header []
  match entries.lookup key with
  | none => some (.table origin (entries.put key (.array [element] true)))
  | some (.array elements true) =>
    some (.table origin (entries.put key (.array (elements ++ [element]) true)))
  | some _ => none

end Value

end FencedCode.Toml
