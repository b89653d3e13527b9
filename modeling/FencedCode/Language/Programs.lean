import FencedCode.Language.Shapes

/-!
# Programming languages

JavaScript, TypeScript and Python.  The first two share their rules except for the punctuation:
TypeScript has angle brackets among it.  Both read `a / b / c` as a regular expression between two
words, since the rule for such literals stands before the one for operators.
-/

namespace FencedCode

namespace Language

open Pattern Shape

/-- The rules that the brace languages share, up to the words. -/
def braceRules : List Rule :=
  let plain := noneOf "\\/\n"
  let escaped := seq (one (.single '\\')) dotChar
  let regex := sequenceOf
    [text "/", alt (noneOf "\\/\n*") escaped, star (alt plain escaped), text "/",
     star (oneOf "gimsuy")]
  let first := CharSet.union letters (.ofList ['_', '$'])
  [{ kind := .comment, pattern := lineComment "//" },
   { kind := .comment, pattern := delimited "/*" "*/" },
   { kind := .string, pattern := quoted '"' },
   { kind := .string, pattern := quoted '\'' },
   { kind := .string, pattern := quoted '\x60' },
   { kind := .regex, pattern := regex },
   { kind := .number,
     pattern := standalone (basedNumber (seq decimal (optional exponent))) },
   { kind := .operator, pattern := alt (plus (oneOf "+-*/%=<>!&|^~?:")) (text "...") },
   { kind := .word, pattern := wordOf first (.union first digits) }]

def scriptKeywords : List String :=
  ["async", "await", "break", "case", "catch", "class", "const", "continue", "debugger", "default",
   "delete", "do", "else", "export", "extends", "finally", "for", "function", "if", "import", "in",
   "instanceof", "let", "new", "of", "return", "static", "super", "switch", "this", "throw", "try",
   "typeof", "var", "void", "while", "with", "yield", "true", "false", "null", "undefined"]

/-- The names that JavaScript provides. -/
def scriptBuiltins : List String :=
  ["console", "window", "document", "Array", "Object", "String", "Number", "Boolean", "Function",
   "Symbol", "Map", "Set", "WeakMap", "WeakSet", "Promise", "Proxy", "Reflect", "JSON", "Math",
   "Date", "RegExp", "Error", "TypeError", "SyntaxError", "ReferenceError", "parseInt",
   "parseFloat", "isNaN", "isFinite", "encodeURI", "decodeURI", "setTimeout", "setInterval",
   "clearTimeout", "clearInterval", "fetch", "URL", "URLSearchParams", "TextEncoder",
   "TextDecoder", "Blob", "File", "FileReader", "FormData", "XMLHttpRequest", "WebSocket",
   "localStorage", "sessionStorage", "Uint8Array", "Int8Array", "Uint16Array", "Int16Array",
   "Uint32Array", "Int32Array", "Float32Array", "Float64Array", "ArrayBuffer", "DataView"]

/-- The keywords that TypeScript adds. -/
def typeKeywords : List String :=
  ["type", "interface", "enum", "namespace", "module", "declare", "abstract", "implements",
   "private", "protected", "public", "readonly", "as", "is", "keyof", "infer", "never", "unknown",
   "any"]

/-- The names that TypeScript adds. -/
def typeBuiltins : List String :=
  ["Partial", "Required", "Readonly", "Record", "Pick", "Omit", "Exclude", "Extract",
   "NonNullable", "Parameters", "ReturnType", "InstanceType"]

def javaScript : Language where
  name := "JavaScript"
  aliases := ["js", "javascript"]
  runnable := true
  rules := braceRules ++
    [{ kind := .punctuation, pattern := oneOf "\x7b\x7d()[];,." },
     { kind := .whitespace, pattern := blanks }]
  keywords := scriptKeywords
  builtins := scriptBuiltins

def typeScript : Language where
  name := "TypeScript"
  aliases := ["ts", "typescript"]
  runnable := true
  stripsTypes := true
  rules := braceRules ++
    [{ kind := .punctuation, pattern := oneOf "\x7b\x7d()[];,.<>" },
     { kind := .whitespace, pattern := blanks }]
  keywords := scriptKeywords ++ typeKeywords
  builtins := scriptBuiltins ++ typeBuiltins

def python : Language where
  name := "Python"
  aliases := ["py", "python", "python3"]
  rules :=
    let formatted (quote : Char) := seq (optional (text "f")) (quoted quote)
    let number := sequenceOf [decimal, optional exponent, optional (text "j")]
    [{ kind := .comment, pattern := lineComment "#" },
     { kind := .string, pattern := delimited "\"\"\"" "\"\"\"" },
     { kind := .string, pattern := delimited "'''" "'''" },
     { kind := .string, pattern := formatted '"' },
     { kind := .string, pattern := formatted '\'' },
     { kind := .number, pattern := standalone (basedNumber number) },
     { kind := .operator, pattern := plus (oneOf "+-*/%=<>!&|^~@:") },
     { kind := .word, pattern := identifier },
     { kind := .punctuation, pattern := oneOf "\x7b\x7d()[];,." },
     { kind := .whitespace, pattern := blanks }]
  keywords :=
    ["False", "None", "True", "and", "as", "assert", "async", "await", "break", "class",
     "continue", "def", "del", "elif", "else", "except", "finally", "for", "from", "global", "if",
     "import", "in", "is", "lambda", "nonlocal", "not", "or", "pass", "raise", "return", "try",
     "while", "with", "yield"]
  builtins :=
    ["abs", "all", "any", "bin", "bool", "bytes", "callable", "chr", "classmethod", "compile",
     "complex", "dict", "dir", "divmod", "enumerate", "eval", "exec", "filter", "float", "format",
     "frozenset", "getattr", "globals", "hasattr", "hash", "help", "hex", "id", "input", "int",
     "isinstance", "issubclass", "iter", "len", "list", "locals", "map", "max", "min", "next",
     "object", "oct", "open", "ord", "pow", "print", "property", "range", "repr", "reversed",
     "round", "set", "setattr", "slice", "sorted", "staticmethod", "str", "sum", "super", "tuple",
     "type", "vars", "zip", "self"]

end Language

end FencedCode
