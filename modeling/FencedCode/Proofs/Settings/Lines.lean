import FencedCode.Proofs.Text.Trim
import FencedCode.Settings
import Mathlib.Data.List.TakeWhile

/-!
# What the lines of a settings file say

A line gives a key a value or says nothing, and white space at its ends does not matter.  So it does
not matter either whether a line ends in a carriage return and a line feed or in a line feed alone,
and a file says what its lines say, one after the other.
-/

namespace FencedCode.Settings

open Text

/-! ### One line -/

/-- A line gives a key a value: they stand before and behind its first equals sign, the key in letters
of any case, and white space around them does not count. -/
structure Assigns (line : List Char) (key value : String) : Prop where
  noComment : (trim line).head? ≠ some '#'
  parts : ∃ front back, line = front ++ '=' :: back ∧ '=' ∉ front ∧
    key = lower (.ofList (trim front)) ∧ value = .ofList (trim back)

variable {line other front back : List Char} {key value : String}

theorem entryOf?_congr (same : trim line = trim other) : entryOf? line = entryOf? other := by
  rw [entryOf?, entryOf?, same]

theorem entryOf?_of_blank (blank : trim line = []) : entryOf? line = none := by
  simp only [entryOf?, blank]

theorem entryOf?_of_comment (comment : (trim line).head? = some '#') : entryOf? line = none := by
  obtain ⟨others, isComment⟩ := List.head?_eq_some_iff.mp comment
  simp only [entryOf?, isComment]

theorem entryOf?_of_noComment (noComment : (trim line).head? ≠ some '#') :
    entryOf? line = match (trim line).dropWhile (· != '=') with
      | [] => none
      | _ :: value =>
        some (lower (.ofList (trim ((trim line).takeWhile (· != '=')))), .ofList (trim value)) := by
  rw [entryOf?]
  split
  · next blank => simp only [blank, List.dropWhile_nil]
  · next comment => simp [comment] at noComment
  · rfl

/-- The first equals sign of a line is also the first of what trimming leaves of it. -/
theorem exists_parts {sign : Char} (split : (trim line).dropWhile (· != '=') = sign :: back) :
    ∃ front rest, line = front ++ '=' :: rest ∧ '=' ∉ front ∧
      trim front = trim ((trim line).takeWhile (· != '=')) ∧ trim rest = trim back := by
  have isSign : sign = '=' := by
    have stopped := List.head?_dropWhile_not (· != '=') (trim line)
    rw [split] at stopped
    simpa using stopped
  obtain ⟨⟨lead, trail, isLine, leadBlank, trailBlank⟩, _, _⟩ := trimmed_trim line
  have whole : trim line = (trim line).takeWhile (· != '=') ++ '=' :: back := by
    rw [isSign] at split
    rw [← split, List.takeWhile_append_dropWhile]
  refine ⟨lead ++ (trim line).takeWhile (· != '='), back ++ trail, ?_, ?_,
    trim_append_of_blank_front leadBlank _, trim_append_of_blank trailBlank _⟩
  · rw [List.append_assoc, ← List.cons_append, ← List.append_assoc _ _ trail, ← whole]
    exact isLine
  · intro member
    rcases List.mem_append.mp member with inLead | inFront
    · have blank := leadBlank _ inLead
      simp [show isBlank '=' = false by decide] at blank
    · have noSign := List.mem_takeWhile_imp inFront
      simp at noSign

theorem takeWhile_firstSign (noSign : '=' ∉ front) :
    (front ++ '=' :: back).takeWhile (· != '=') = front := by
  rw [List.takeWhile_append_of_pos, List.takeWhile_cons_of_neg, List.append_nil]
  · simp
  · intro char member
    simpa using ne_of_mem_of_not_mem member noSign

theorem firstSign_unique {front' back' : List Char} (noSign : '=' ∉ front) (noSign' : '=' ∉ front')
    (same : front ++ '=' :: back = front' ++ '=' :: back') : front = front' ∧ back = back' := by
  have sameFront := congrArg (List.takeWhile (· != '=')) same
  rw [takeWhile_firstSign noSign, takeWhile_firstSign noSign'] at sameFront
  subst sameFront
  exact ⟨rfl, (List.cons.inj (List.append_cancel_left same)).2⟩

/-- Trimming does not take away an equals sign. -/
theorem mem_trim_of_mem (member : '=' ∈ line) : '=' ∈ trim line := by
  obtain ⟨⟨lead, trail, isLine, leadBlank, trailBlank⟩, _, _⟩ := trimmed_trim line
  have shown : ¬isBlank '=' := by decide
  rw [isLine, List.mem_append, List.mem_append] at member
  rcases member with inLead | inMiddle | inTrail
  · exact absurd (leadBlank _ inLead) shown
  · exact inMiddle
  · exact absurd (trailBlank _ inTrail) shown

theorem entryOf?_eq_some_iff : entryOf? line = some (key, value) ↔ Assigns line key value := by
  constructor
  · intro isEntry
    have noComment : (trim line).head? ≠ some '#' := by
      intro comment
      rw [entryOf?_of_comment comment] at isEntry
      cases isEntry
    rw [entryOf?_of_noComment noComment] at isEntry
    split at isEntry
    · cases isEntry
    · next sign rest split =>
        obtain ⟨front, back, isLine, noSign, sameFront, sameBack⟩ := exists_parts split
        obtain ⟨isKey, isValue⟩ := Prod.mk.inj (Option.some.inj isEntry)
        refine ⟨noComment, front, back, isLine, noSign, ?_, ?_⟩
        · rw [sameFront, isKey]
        · rw [sameBack, isValue]
  · rintro ⟨noComment, front, back, isLine, noSign, rfl, rfl⟩
    rw [entryOf?_of_noComment noComment]
    split
    · next allBefore =>
        have inMiddle : '=' ∈ trim line := mem_trim_of_mem (by simp [isLine])
        have before := List.dropWhile_eq_nil_iff.mp allBefore '=' inMiddle
        simp at before
    · next sign rest split =>
        obtain ⟨front', back', isLine', noSign', sameFront, sameBack⟩ := exists_parts split
        obtain ⟨rfl, rfl⟩ := firstSign_unique noSign noSign' (isLine.symm.trans isLine')
        rw [sameFront, sameBack]

theorem entryOf?_of_noSign (noSign : '=' ∉ line) : entryOf? line = none := by
  cases isEntry : entryOf? line with
  | none => rfl
  | some entry =>
      obtain ⟨_, front, back, rfl, _⟩ := entryOf?_eq_some_iff.mp isEntry
      simp at noSign

/-! ### All lines -/

/-- Lines with some characters put in front of the first one. -/
def withFront (front : List Char) : List (List Char) → List (List Char)
  | [] => [front]
  | line :: lines => (front ++ line) :: lines

/-- The lines of a file.  A line ends in a line feed, or in a carriage return and a line feed; the end
of the last line may be missing. -/
def fileLines : List Char → List (List Char)
  | [] => []
  | '\n' :: rest => [] :: fileLines rest
  | '\r' :: '\n' :: rest => [] :: fileLines rest
  | char :: rest => withFront [char] (fileLines rest)

theorem withFront_withFront (front other : List Char) (lines : List (List Char)) :
    withFront front (withFront other lines) = withFront (front ++ other) lines := by
  cases lines <;> simp [withFront]

theorem linesOf_ne_nil (content : List Char) : linesOf content ≠ [] := by
  cases content with
  | nil => simp [linesOf]
  | cons char rest =>
      cases lines : linesOf rest with
      | nil => exact absurd lines (linesOf_ne_nil rest)
      | cons line others =>
          simp only [linesOf, lines]
          split <;> simp

theorem linesOf_cons (char : Char) (rest : List Char) : linesOf (char :: rest) =
    if char = '\n' then [] :: linesOf rest else withFront [char] (linesOf rest) := by
  cases lines : linesOf rest with
  | nil => exact absurd lines (linesOf_ne_nil rest)
  | cons line others => simp [linesOf, lines, withFront]

theorem filterMap_withFront_nil (lines : List (List Char)) :
    (withFront [] lines).filterMap entryOf? = lines.filterMap entryOf? := by
  cases lines with
  | nil => rfl
  | cons line others => rfl

/-- Neither a carriage return in front of a line feed nor an empty last line says anything.  The
induction is on the lines of the file, and puts what was read of a line in front. -/
theorem filterMap_linesOf (content front : List Char) :
    (withFront front (linesOf content)).filterMap entryOf? =
      (withFront front (fileLines content)).filterMap entryOf? := by
  have behind : ∀ (rest front other : List Char), trim front = trim other →
      (∀ front, (withFront front (linesOf rest)).filterMap entryOf? =
        (withFront front (fileLines rest)).filterMap entryOf?) →
      (front :: linesOf rest).filterMap entryOf? =
        (other :: fileLines rest).filterMap entryOf? := by
    intro rest front other same hypothesis
    have rested := hypothesis []
    rw [filterMap_withFront_nil, filterMap_withFront_nil] at rested
    rw [List.filterMap_cons, List.filterMap_cons, rested, entryOf?_congr same]
  induction content using fileLines.induct generalizing front with
  | case1 => simp [linesOf, fileLines, withFront]
  | case2 rest hypothesis =>
      simpa [linesOf_cons, fileLines, withFront] using behind rest front front rfl hypothesis
  | case3 rest hypothesis =>
      have same : trim (front ++ ['\r']) = trim front :=
        trim_append_of_blank (by simp; decide) front
      simpa [linesOf_cons, fileLines, withFront] using behind rest _ front same hypothesis
  | case4 char rest noFeed noReturn hypothesis =>
      have noEnd : char ≠ '\n' := noFeed
      have isLines : fileLines (char :: rest) = withFront [char] (fileLines rest) := by
        rw [fileLines] <;> assumption
      rw [linesOf_cons, if_neg noEnd, isLines, withFront_withFront, withFront_withFront]
      exact hypothesis (front ++ [char])

/-- A file says what its lines say, one after the other. -/
theorem entriesOf_eq_filterMap_fileLines (content : String) :
    entriesOf content = (fileLines content.toList).filterMap entryOf? := by
  have entries := filterMap_linesOf content.toList []
  rwa [filterMap_withFront_nil, filterMap_withFront_nil] at entries

theorem fileLines_of_noFeed (nonempty : line ≠ []) (noFeed : '\n' ∉ line) :
    fileLines line = [line] := by
  induction line using fileLines.induct with
  | case1 => contradiction
  | case2 rest => simp at noFeed
  | case3 rest => simp at noFeed
  | case4 char rest notFeed notReturn hypothesis =>
      rw [fileLines] <;> try assumption
      cases rest with
      | nil => rfl
      | cons next rest =>
          rw [hypothesis (List.cons_ne_nil _ _) (List.not_mem_of_not_mem_cons noFeed)]
          rfl

/-! ### Appending -/

/-- Nothing stands behind the end of the last line. -/
def Ended (content : String) : Prop := content = "" ∨ ∃ front, content = front ++ "\n"

theorem linesOf_append (front back : List Char) :
    linesOf (front ++ '\n' :: back) = linesOf front ++ linesOf back := by
  induction front with
  | nil => simp [linesOf_cons, linesOf]
  | cons char front hypothesis =>
      rw [List.cons_append, linesOf_cons, linesOf_cons, hypothesis]
      split
      · rfl
      · cases lines : linesOf front with
        | nil => exact absurd lines (linesOf_ne_nil front)
        | cons line others => rfl

theorem entriesOf_append {content : String} (ended : Ended content) (text : String) :
    entriesOf (content ++ text) = entriesOf content ++ entriesOf text := by
  rcases ended with rfl | ⟨front, rfl⟩
  · rw [String.empty_append]
    rfl
  · have split : (front ++ "\n" ++ text).toList = front.toList ++ '\n' :: text.toList := by simp
    have alone : (front ++ "\n").toList = front.toList ++ '\n' :: [] := by simp
    have nothing : (linesOf []).filterMap entryOf? = [] := rfl
    rw [entriesOf, entriesOf, entriesOf, split, alone, linesOf_append, linesOf_append,
      List.filterMap_append, List.filterMap_append, nothing, List.append_nil]

end FencedCode.Settings
