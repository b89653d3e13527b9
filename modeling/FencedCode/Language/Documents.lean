import FencedCode.Language.Shapes

/-!
# Document languages

HTML, CSS, JSON and Markdown.  None of them has a rule for words: HTML and Markdown leave running
text to single characters, CSS takes identifiers for selectors, and JSON has its three names in a
rule of their own.
-/

namespace FencedCode

namespace Language

open Pattern Shape

def html : Language where
  name := "HTML"
  aliases := ["html", "htm"]
  rules :=
    let name := wordOf letters (.union (.union letters digits) (.single '-'))
    let attributes := seq (plus (one (.named .blank))) (star (noneOf ">"))
    let tag := sequenceOf
      [text "<", optional (text "/"), name, optional attributes, optional (text "/"), text ">"]
    [{ kind := .comment, pattern := delimited "<!--" "-->" },
     { kind := .tag, pattern := tag },
     { kind := .string, pattern := alt (verbatim '"') (verbatim '\'') },
     { kind := .whitespace, pattern := blanks }]

def css : Language where
  name := "CSS"
  aliases := ["css"]
  rules :=
    let units := ["px", "em", "rem", "%", "vh", "vw", "deg", "s", "ms"]
    let first := CharSet.union letters (.ofList ['_', '-'])
    let selector := seq (optional (oneOf ".#")) (wordOf first (.union first digits))
    [{ kind := .comment, pattern := delimited "/*" "*/" },
     { kind := .string, pattern := alt (quoted '"') (quoted '\'') },
     { kind := .number,
       pattern := standalone (seq decimal (optional (choiceOf (units.map text)))) },
     { kind := .selector, pattern := selector },
     { kind := .operator, pattern := oneOf ":;\x7b\x7d(),>+~*" },
     { kind := .whitespace, pattern := blanks }]
  keywords := ["important", "inherit", "initial", "unset", "revert"]

def json : Language where
  name := "JSON"
  aliases := ["json"]
  rules :=
    let number := sequenceOf
      [optional (text "-"), asciiEdge, decimal, optional exponent, asciiEdge]
    let name := choiceOf [text "true", text "false", text "null"]
    [{ kind := .string, pattern := quoted '"' },
     { kind := .number, pattern := number },
     { kind := .keyword, pattern := standalone name },
     { kind := .punctuation, pattern := oneOf "\x7b\x7d[]:," },
     { kind := .whitespace, pattern := blanks }]
  keywords := ["true", "false", "null"]

def markdown : Language where
  name := "Markdown"
  aliases := ["md", "markdown"]
  rules :=
    let inLine := one (.complement (.ofList ['\r', '\n']))
    let heading := sequenceOf
      [assert .anyLineStart, repeated (text "#") 1 (some 6) true, plus (one (.named .blank)),
       plus inLine, assert .anyLineEnd]
    let link := sequenceOf
      [text "[", plus (noneOf "]"), text "](", plus (noneOf ")"), text ")"]
    [{ kind := .heading, pattern := heading },
     { kind := .code, pattern := sequenceOf [text "\x60", plus (noneOf "\x60\n"), text "\x60"] },
     { kind := .bold, pattern := sequenceOf [text "**", plus (noneOf "*"), text "**"] },
     { kind := .italic, pattern := sequenceOf [text "*", plus (noneOf "*"), text "*"] },
     { kind := .link, pattern := link },
     { kind := .whitespace, pattern := blanks }]

end Language

end FencedCode
