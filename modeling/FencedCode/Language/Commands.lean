import FencedCode.Language.Shapes

/-!
# Command languages

Shell and SQL.  The words of SQL are listed in small letters; since a word counts as known if its
small letters are, a statement may be written in capitals.
-/

namespace FencedCode

namespace Language

open Pattern Shape

def shell : Language where
  name := "Shell"
  aliases := ["sh", "bash", "zsh", "shell"]
  rules :=
    let braced := sequenceOf [text "\x7b", plus (noneOf "\x7d"), text "\x7d"]
    let first := CharSet.union letters (.single '_')
    [{ kind := .comment, pattern := lineComment "#" },
     { kind := .string, pattern := alt (quoted '"') (verbatim '\'') },
     { kind := .variableRef, pattern := seq (text "$") (alt identifier braced) },
     { kind := .number, pattern := standalone (plus (one digits)) },
     { kind := .word,
       pattern := wordOf first (.union (.union letters digits) (.ofList ['_', '-'])) },
     { kind := .operator, pattern := oneOf "|&;<>()" },
     { kind := .whitespace, pattern := blanks }]
  keywords :=
    ["if", "then", "else", "elif", "fi", "case", "esac", "for", "while", "do", "done", "in",
     "function", "return", "exit", "export", "local", "readonly", "shift", "until", "select"]
  builtins :=
    ["echo", "cd", "pwd", "ls", "cat", "grep", "sed", "awk", "find", "mkdir", "rm", "cp", "mv",
     "chmod", "chown", "curl", "wget", "source", "alias", "unalias", "set", "unset", "test"]

def sql : Language where
  name := "SQL"
  aliases := ["sql"]
  rules :=
    [{ kind := .comment, pattern := lineComment "--" },
     { kind := .comment, pattern := delimited "/*" "*/" },
     { kind := .string, pattern := alt (quoted '\'') (quoted '"') },
     { kind := .number, pattern := standalone decimal },
     { kind := .word, pattern := identifier },
     { kind := .operator, pattern := oneOf "=<>!+-*/%" },
     { kind := .punctuation, pattern := oneOf "();,.*" },
     { kind := .whitespace, pattern := blanks }]
  keywords :=
    ["select", "from", "where", "and", "or", "not", "in", "like", "between", "is", "null", "as",
     "join", "inner", "left", "right", "outer", "on", "group", "by", "having", "order", "asc",
     "desc", "limit", "offset", "insert", "into", "values", "update", "set", "delete", "create",
     "table", "drop", "alter", "add", "column", "index", "primary", "key", "foreign",
     "references", "unique", "default", "constraint", "distinct", "union", "all", "case", "when",
     "then", "else", "end", "exists", "true", "false"]
  builtins :=
    ["count", "sum", "avg", "min", "max", "coalesce", "nullif", "cast", "convert", "concat",
     "substring", "length", "upper", "lower", "trim", "now", "date", "time", "timestamp", "int",
     "varchar", "text", "boolean"]

end Language

end FencedCode
