/-!
# Logs

What a script has written to its console: entries with a level and the values of one call, each
value already turned into text.
-/

namespace FencedCode

/-- The method by which an entry was written. -/
inductive LogLevel where
  | log
  | error
  | warn
  | info
deriving DecidableEq, Repr

namespace LogLevel

def all : List LogLevel := [log, error, warn, info]

/-- The name of the method, which is also the class of the line. -/
def name : LogLevel → String
  | log => "log"
  | error => "error"
  | warn => "warn"
  | info => "info"

/-- The level of a name. -/
def ofName? (name : String) : Option LogLevel := all.find? (·.name == name)

end LogLevel

/-- How a value was turned into text. -/
inductive ValueSort where
  /-- A value without parts, or a function. -/
  | scalar
  /-- An object, in its notation as data. -/
  | structured
  /-- An object that has no such notation. -/
  | bare
deriving DecidableEq, Repr

/-- The text of a value. -/
structure LogValue where
  /-- How the text was made. -/
  sort : ValueSort
  text : String
deriving DecidableEq, Repr

/-- What one call has written. -/
structure LogEntry where
  level : LogLevel
  /-- The values, one for each argument. -/
  values : List LogValue
deriving DecidableEq, Repr

namespace LogEntry

/-- An entry of one text. -/
def message (level : LogLevel) (text : String) : LogEntry where
  level := level
  values := [{ sort := .scalar, text }]

/-- The entry as a line of output: its values with blanks between them. -/
def display (entry : LogEntry) : String := " ".intercalate (entry.values.map (·.text))

end LogEntry

/-- The entries written so far, in order. -/
structure Log where
  entries : List LogEntry := []
deriving DecidableEq, Repr

namespace Log

def push (log : Log) (entry : LogEntry) : Log := { entries := log.entries ++ [entry] }

def clear (_ : Log) : Log := {}

def take (log : Log) : List LogEntry × Log := (log.entries, {})

end Log

end FencedCode
