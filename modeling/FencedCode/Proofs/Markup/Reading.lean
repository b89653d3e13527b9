import FencedCode.Markup

/-!
# Reading markup

The way back from markup to text: markup is cut at its tags, and between the tags each entity stands
for the character that it escapes.  Nothing here knows how markup is written; that what is written
can be read back is a theorem.
-/

namespace FencedCode

namespace TokenClass

theorem mem_all (tokenClass : TokenClass) : tokenClass ∈ all := by
  cases tokenClass <;> decide

/-- Each class is found by its name. -/
theorem ofCssName?_cssName (tokenClass : TokenClass) :
    ofCssName? tokenClass.cssName = some tokenClass := by
  cases tokenClass <;> decide

/-- No name ends the quotes that it stands in. -/
theorem quote_notMem_cssName (tokenClass : TokenClass) : '"' ∉ tokenClass.cssName.toList := by
  cases tokenClass <;> decide

end TokenClass

namespace Markup

/-! ### Tags -/

/-- An opening tag up to the name of the class. -/
def openFront : List Char := "<span class=\"".toList

/-- An opening tag behind the name of the class. -/
def openBack : List Char := "\">".toList

/-- The tag that opens a span of a class. -/
def openTag (tokenClass : TokenClass) : List Char :=
  openFront ++ (tokenClass.cssName.toList ++ openBack)

/-- The tag that closes a span. -/
def closeTag : List Char := "</span>".toList

theorem openTag_eq (tokenClass : TokenClass) : openTag tokenClass =
    '<' :: ("span class=\"".toList ++ (tokenClass.cssName.toList ++ openBack)) := rfl

theorem openBack_eq : openBack = ['"', '>'] := rfl

theorem closeTag_eq : closeTag = '<' :: "/span>".toList := rfl

/-- The characters that have a meaning in markup. -/
def specials : List Char := ['<', '>', '&']

/-- Well-formed markup, given whether a span is open at its start: text in which the three special
characters are escaped, with tags that open and close spans in turn and leave none open. -/
inductive WellFormed : (inSpan : Bool) → List Char → Prop where
  | done : WellFormed false []
  | char {inSpan : Bool} {char : Char} {rest : List Char} (plain : char ∉ specials)
      (wellFormed : WellFormed inSpan rest) : WellFormed inSpan (char :: rest)
  | entity {inSpan : Bool} {entity : String} {rest : List Char}
      (known : entity ∈ ["&lt;", "&gt;", "&amp;"]) (wellFormed : WellFormed inSpan rest) :
      WellFormed inSpan (entity.toList ++ rest)
  | opening {rest : List Char} (tokenClass : TokenClass) (wellFormed : WellFormed true rest) :
      WellFormed false (openTag tokenClass ++ rest)
  | closing {rest : List Char} (wellFormed : WellFormed false rest) :
      WellFormed true (closeTag ++ rest)

/-- The tag at the front of markup, if there is one: the class in force behind it, which is none
behind a closing tag, and the markup behind it. -/
def tagAt? (markup : List Char) : Option (Option TokenClass × List Char) :=
  if closeTag <+: markup then some (none, markup.drop closeTag.length)
  else
    (TokenClass.all.find? fun tokenClass => openTag tokenClass <+: markup).map fun tokenClass =>
      (some tokenClass, markup.drop (openTag tokenClass).length)

/-- Behind a beginning that is not empty fewer characters come. -/
theorem length_drop_lt {front chars : List Char} (begins : front <+: chars) (nonempty : front ≠ []) :
    (chars.drop front.length).length < chars.length := by
  have shorter := begins.length_le
  have positive := List.length_pos_iff.mpr nonempty
  rw [List.length_drop]
  omega

theorem length_lt_of_tagAt? {markup behind : List Char} {current : Option TokenClass}
    (tag : tagAt? markup = some (current, behind)) : behind.length < markup.length := by
  rw [tagAt?] at tag
  split at tag
  · next closes =>
    cases tag
    exact length_drop_lt closes (by rw [closeTag_eq]; exact List.cons_ne_nil _ _)
  · obtain ⟨tokenClass, found, same⟩ := Option.map_eq_some_iff.mp tag
    cases same
    have opens : openTag tokenClass <+: markup := by simpa using List.find?_some found
    exact length_drop_lt opens (by rw [openTag_eq]; exact List.cons_ne_nil _ _)

/-- Markup cut at its tags: the characters before the first tag, and for each tag the class in
force behind it with the characters up to the next tag. -/
def splitTags (markup : List Char) : List Char × List (Option TokenClass × List Char) :=
  match _tag : tagAt? markup with
  | some (current, behind) =>
    ([], (current, (splitTags behind).1) :: (splitTags behind).2)
  | none =>
    match markup with
    | [] => ([], [])
    | char :: rest => (char :: (splitTags rest).1, (splitTags rest).2)
termination_by markup.length
decreasing_by
  · exact length_lt_of_tagAt? _tag
  · exact Nat.lt_succ_self _

def dropTags (markup : List Char) : List Char :=
  (splitTags markup).1 ++ (splitTags markup).2.flatMap (·.2)

/-! ### Entities -/

/-- The characters with each occurrence of a text replaced, from left to right. -/
def replaceAll (old new : List Char) : List Char → List Char
  | [] => []
  | char :: rest =>
    if old ≠ [] ∧ old <+: char :: rest then
      new ++ replaceAll old new ((char :: rest).drop old.length)
    else char :: replaceAll old new rest
termination_by chars => chars.length
decreasing_by
  · next found => exact length_drop_lt found.2 found.1
  · exact Nat.lt_succ_self _

/-- The characters with their entities undone, the one for the ampersand last. -/
def unescape (chars : List Char) : List Char :=
  replaceAll "&amp;".toList ['&']
    (replaceAll "&gt;".toList ['>'] (replaceAll "&lt;".toList ['<'] chars))

/-! ### Texts -/

/-- The text that markup shows. -/
def plainText (markup : String) : String := .ofList (unescape (dropTags markup.toList))

/-- A piece of text with its class. -/
abbrev Piece := Option TokenClass × String

/-- The pieces that markup shows, without the empty ones between spans. -/
def decode (markup : String) : List Piece :=
  let (front, behind) := splitTags markup.toList
  let shown := ((none, front) :: behind).filter fun piece => piece.1.isSome || !piece.2.isEmpty
  shown.map fun piece => (piece.1, .ofList (unescape piece.2))

/-- A text without class put before pieces: it becomes part of a first piece without class, and it
leaves no piece if it is empty. -/
def prependPlain (text : String) : List Piece → List Piece
  | (none, first) :: rest => (none, text ++ first) :: rest
  | pieces => if text.isEmpty then pieces else (none, text) :: pieces

/-- The pieces of tokens: neighbours without class are one piece, and empty ones are none. -/
def piecesOf : List Token → List Piece
  | [] => []
  | token :: rest =>
    match token.tokenClass with
    | some tokenClass => (some tokenClass, token.text) :: piecesOf rest
    | none => prependPlain token.text (piecesOf rest)

end Markup

end FencedCode
