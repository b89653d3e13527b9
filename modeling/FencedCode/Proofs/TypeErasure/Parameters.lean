import FencedCode.Proofs.Pattern.Backtracking
import FencedCode.Proofs.TypeErasure.Untyped
import Mathlib.Data.List.Chain

/-!
# Types of parameters

The first pass takes the type of a parameter away, but it does not see where the type ends.  A type
may hold commas and white space, and the pass takes as much as it can, so a parameter without a type
whose name could be part of one goes with the type before it.
-/

namespace FencedCode

namespace TypeErasure

open Pattern

/-! ### Functions with parameters -/

/-- A parameter of a function. -/
structure Parameter where
  name : String
  /-- The type written behind the name, if there is one. -/
  type? : Option String := none
deriving DecidableEq, Repr

namespace Parameter

/-- The signs that stand around names and types. -/
def signs : List Char := ":,()[]<>=;|&".toList

/-- A parameter has a name, and a type of one word if it has any.  Names hold neither white space
nor signs, as is the case for all identifiers of scripts. -/
structure WellFormed (parameter : Parameter) : Prop where
  named : parameter.name ≠ ""
  name : ∀ char ∈ parameter.name.toList, ¬Text.isBlank char ∧ char ∉ signs
  typed : parameter.type? ≠ some ""
  type : ∀ type ∈ parameter.type?, ∀ char ∈ type.toList, char.isAlpha

instance (parameter : Parameter) : Decidable parameter.WellFormed :=
  decidable_of_iff
    (parameter.name ≠ "" ∧
      parameter.name.toList.all (fun char => ¬Text.isBlank char ∧ char ∉ signs) ∧
      parameter.type? ≠ some "" ∧ ∀ type ∈ parameter.type?, type.toList.all Char.isAlpha)
    ⟨fun ⟨named, name, typed, type⟩ =>
        ⟨named, by simpa using name, typed, by simpa using type⟩,
      fun ⟨named, name, typed, type⟩ =>
        ⟨named, by simpa using name, typed, by simpa using type⟩⟩

/-- The parameter as it is written. -/
def written (parameter : Parameter) : String :=
  match parameter.type? with
  | some type => parameter.name ++ ": " ++ type
  | none => parameter.name

/-- The parameter without its type. -/
def bare (parameter : Parameter) : Parameter := { name := parameter.name }

/-- The parameter could be part of a type: it has none of its own, and its name has letters only. -/
def looksLikeType (parameter : Parameter) : Bool :=
  parameter.type?.isNone && parameter.name.toList.all Char.isAlpha

theorem looksLikeType_iff {parameter : Parameter} : parameter.looksLikeType = true ↔
    parameter.type? = none ∧ ∀ char ∈ parameter.name.toList, char.isAlpha := by
  rw [looksLikeType, Bool.and_eq_true, Option.isNone_iff_eq_none, List.all_eq_true]

end Parameter

open Parameter

/-- A function with some parameters. -/
def functionWith (parameters : List Parameter) : String :=
  "function f(" ++ ", ".intercalate (parameters.map written) ++ ") \x7b\x7d"

/-- The parameters that are left, given whether a type comes right before them: such as could be
part of it are lost. -/
def kept (behindType : Bool) : List Parameter → List Parameter
  | [] => []
  | parameter :: rest =>
    if behindType && parameter.looksLikeType then kept true rest
    else parameter :: kept parameter.type?.isSome rest

/-- Behind a type the parameters that could be part of it are skipped. -/
theorem kept_true (parameters : List Parameter) :
    kept true parameters = kept false (parameters.dropWhile looksLikeType) := by
  induction parameters with
  | nil => rfl
  | cons parameter rest ih =>
      rw [List.dropWhile_cons, kept, Bool.true_and]
      split
      · exact ih
      · rfl

theorem kept_sublist (behindType : Bool) (parameters : List Parameter) :
    (kept behindType parameters).Sublist parameters := by
  induction parameters generalizing behindType with
  | nil => exact .slnil
  | cons parameter rest ih =>
      rw [kept]
      split
      · exact (ih true).cons parameter
      · exact (ih _).cons_cons parameter

/-- A parameter comes right behind a type of which it could be part. -/
def SeemsToContinue (former parameter : Parameter) : Prop :=
  former.type?.isSome ∧ parameter.looksLikeType

instance : DecidableRel SeemsToContinue := fun former parameter =>
  inferInstanceAs (Decidable (former.type?.isSome ∧ parameter.looksLikeType))

theorem kept_eq_self_iff {behindType : Bool} {parameters : List Parameter} :
    kept behindType parameters = parameters ↔
      (behindType → ∀ parameter ∈ parameters.head?, ¬parameter.looksLikeType) ∧
        parameters.IsChain fun former parameter => ¬SeemsToContinue former parameter := by
  induction parameters generalizing behindType with
  | nil => simp [kept]
  | cons parameter rest ih =>
      rw [kept, List.isChain_cons, List.head?_cons]
      split
      · next lost =>
        obtain ⟨isBehind, seems⟩ := Bool.and_eq_true_iff.mp lost
        refine ⟨fun same => ?_, fun ⟨other, _⟩ => absurd seems (other isBehind parameter rfl)⟩
        have shorter := (kept_sublist true rest).length_le
        rw [same, List.length_cons] at shorter
        omega
      · next stays =>
        have first : behindType → ¬parameter.looksLikeType := fun isBehind seems =>
          stays (Bool.and_eq_true_iff.mpr ⟨isBehind, seems⟩)
        simp only [List.cons.injEq, true_and, ih, SeemsToContinue, not_and]
        grind

/-- What is written behind a parameter: the others, and the end of the function. -/
def textBehind : List Parameter → List Char
  | [] => [')', ' ', '\x7b', '\x7d']
  | parameter :: rest => ',' :: ' ' :: (parameter.written.toList ++ textBehind rest)

/-- What is written behind the opening parenthesis. -/
def textInside : List Parameter → List Char
  | [] => textBehind []
  | parameter :: rest => parameter.written.toList ++ textBehind rest

theorem toList_functionWith (parameters : List Parameter) :
    (functionWith parameters).toList = "function f(".toList ++ textInside parameters := by
  have inside : (", ".intercalate (parameters.map written)).toList ++ ") \x7b\x7d".toList =
      textInside parameters := by
    induction parameters with
    | nil => rfl
    | cons parameter rest ih =>
        cases rest with
        | nil => simp [textInside, textBehind]
        | cons other rest =>
            rw [List.map_cons, List.map_cons, String.intercalate_cons_cons, ← List.map_cons,
              String.toList_append, String.toList_append, List.append_assoc, ih, List.append_assoc]
            rfl
  rw [functionWith, String.toList_append, String.toList_append, List.append_assoc, inside]

theorem textInside_suffix (parameters : List Parameter) :
    textInside parameters <:+ textBehind parameters := by
  cases parameters with
  | nil => exact List.suffix_refl _
  | cons parameter rest => exact List.suffix_append [',', ' '] _

/-- The mark right behind a parameter. -/
def markBehind : List Parameter → Char
  | [] => ')'
  | _ :: _ => ','

/-- What is written behind that mark. -/
def textBehindMark : List Parameter → List Char
  | [] => [' ', '\x7b', '\x7d']
  | parameter :: rest => ' ' :: (parameter.written.toList ++ textBehind rest)

theorem textBehind_eq (parameters : List Parameter) :
    textBehind parameters = markBehind parameters :: textBehindMark parameters := by
  cases parameters <;> rfl

theorem written_of_typed {parameter : Parameter} {type : String}
    (typed : parameter.type? = some type) :
    parameter.written.toList = parameter.name.toList ++ ':' :: ' ' :: type.toList := by
  rw [written, typed]
  simp

theorem written_of_untyped {parameter : Parameter} (untyped : parameter.type? = none) :
    parameter.written = parameter.name := by rw [written, untyped]

theorem Parameter.exists_written_eq (parameter : Parameter) :
    ∃ behind, parameter.written.toList = parameter.name.toList ++ behind := by
  cases typed : parameter.type? with
  | some type => exact ⟨_, written_of_typed typed⟩
  | none => exact ⟨[], by rw [written_of_untyped typed, List.append_nil]⟩

/-! ### How far a type is taken to go -/

variable {place stop next : Cursor} {letters : List Char} {rest : List Parameter}
variable {parameter : Parameter}

theorem not_isBlank_of_isAlpha {char : Char} (letter : char.isAlpha) : ¬Text.isBlank char := by
  intro isBlank
  apply Text.not_isAsciiWord_of_isBlank isBlank
  rw [Text.isAsciiWord, letter, Bool.true_or, Bool.true_or]

/-- The first pass takes at least the colon. -/
theorem consumes_colonPass : colonPass.pattern.Consumes :=
  .seq (.seq (.seq (.seq (consumes_one _))))

/-- The last step of the first pass: a character that can follow a type. -/
def ending : Cursor → Option Cursor := (oneOf ",)]=;").search some

theorem contains_of_isAlpha {char : Char} (letter : char.isAlpha) :
    spacedTypeChars.contains char := by
  rw [contains_spacedTypeChars, contains_typeChars, letter]
  simp

theorem ending_eq_none {char : Char} (first : place.after.head? = some char)
    (noEnding : char ∉ ",)]=;".toList) : ending place = none := by
  apply search_one_eq_none
  intro other isFirst
  cases first.symm.trans isFirst
  rw [CharSet.contains_ofList, List.contains_iff_mem]
  exact noEnding

theorem notMem_endings_of_isAlpha {char : Char} (letter : char.isAlpha) :
    char ∉ ",)]=;".toList := by
  intro isEnding
  have noLetters : ∀ char ∈ ",)]=;".toList, char.isAlpha = false := by simp
  rw [noLetters char isEnding] at letter
  cases letter

/-- Letters all belong to a type, and none of them ends it. -/
theorem search_letters (reads : place.Reads letters stop) (each : ∀ char ∈ letters, char.isAlpha) :
    (star (one spacedTypeChars)).search ending place =
      (star (one spacedTypeChars)).search ending stop := by
  apply search_star_one_of_reads reads
  · exact fun char member => contains_of_isAlpha (each char member)
  · intro place char member first
    exact ending_eq_none first (notMem_endings_of_isAlpha (each char member))

/-- A character of a type that may stand in a name is a letter. -/
theorem isAlpha_of_contains {char : Char} (isType : spacedTypeChars.contains char)
    (noBlank : ¬Text.isBlank char) (noSign : char ∉ signs) : char.isAlpha := by
  have brackets : ['<', '>', '[', ']', '|', '&'] ⊆ signs := by decide
  have comma : ',' ∈ signs := by decide
  rw [contains_spacedTypeChars, contains_typeChars, Bool.or_eq_true, Bool.or_eq_true,
    Bool.or_eq_true, decide_eq_true_eq, List.contains_iff_mem] at isType
  rcases isType with (letter | isBracket) | rfl | isBlank
  · exact letter
  · exact absurd (brackets isBracket) noSign
  · exact absurd comma noSign
  · exact absurd isBlank noBlank

/-- What does not look like a type breaks off with a character that neither belongs to a type nor
ends one. -/
theorem exists_break (wellFormed : parameter.WellFormed)
    (noType : parameter.looksLikeType = false) :
    ∃ letters char back, parameter.written.toList = letters ++ char :: back ∧
      (∀ letter ∈ letters, letter.isAlpha) ∧ ¬spacedTypeChars.contains char ∧
      char ∉ ",)]=;".toList := by
  have endings : ",)]=;".toList ⊆ signs := by decide
  cases other : parameter.name.toList.find? fun char => !char.isAlpha with
  | some char =>
      obtain ⟨noLetter, letters, back, split, each⟩ := List.find?_eq_some_iff_append.mp other
      have member : char ∈ parameter.name.toList := by
        rw [split]
        exact List.mem_append_right letters (List.mem_cons_self ..)
      obtain ⟨noBlank, noSign⟩ := wellFormed.name char member
      obtain ⟨behind, startsWithName⟩ := parameter.exists_written_eq
      refine ⟨letters, char, back ++ behind, ?_, ?_, ?_,
        fun isEnding => noSign (endings isEnding)⟩
      · rw [startsWithName, split, List.append_assoc, List.cons_append]
      · simpa using each
      · intro isType
        rw [isAlpha_of_contains isType noBlank noSign] at noLetter
        cases noLetter
  | none =>
      have letters : ∀ char ∈ parameter.name.toList, char.isAlpha := by simpa using other
      -- A name of letters alone does not look like a type only if a type of its own follows.
      cases typed : parameter.type? with
      | none =>
          rw [looksLikeType, typed, List.all_eq_true.mpr letters] at noType
          cases noType
      | some type => exact ⟨_, ':', _, written_of_typed typed, letters, by decide, by decide⟩

/-- A parameter that does not look like a type does not let the type get on. -/
theorem search_eq_none_of_written (wellFormed : parameter.WellFormed)
    (noType : parameter.looksLikeType = false) {back : List Char}
    (toCome : place.after = parameter.written.toList ++ back) :
    (star (one spacedTypeChars)).search ending place = none := by
  obtain ⟨letters, char, more, split, each, noTypeChar, noEnding⟩ := exists_break wellFormed noType
  rw [split, List.append_assoc] at toCome
  obtain ⟨stop, reads, stopAfter⟩ := Cursor.exists_reads toCome
  have first : stop.after.head? = some char := by rw [stopAfter, List.cons_append, List.head?_cons]
  rw [search_letters reads each, search_star_one_of_not_contains]
  · exact ending_eq_none first noEnding
  · intro other isFirst
    cases first.symm.trans isFirst
    exact noTypeChar

/-- From behind a word of a type the type goes on over all parameters that look like one. -/
theorem exists_search_eq_some (wellFormed : ∀ parameter ∈ rest, parameter.WellFormed)
    (toCome : place.after = textBehind rest) :
    ∃ stop, (star (one spacedTypeChars)).search ending place = some stop ∧
      stop.before = some (markBehind (rest.dropWhile looksLikeType)) ∧
      stop.after = textBehindMark (rest.dropWhile looksLikeType) := by
  induction rest generalizing place with
  | nil =>
      obtain ⟨stop, read, isBefore, stopAfter⟩ := Cursor.exists_next toCome
      refine ⟨stop, ?_, isBefore, stopAfter⟩
      rw [search_star_one_of_not_contains]
      · exact search_one_of_contains read (by decide)
      · rw [toCome]
        rintro char ⟨⟩
        decide
  | cons parameter rest ih =>
      obtain ⟨here, others⟩ := List.forall_mem_cons.mp wellFormed
      obtain ⟨blank, readComma, isComma, blankAfter⟩ := Cursor.exists_next toCome
      obtain ⟨start, readBlank, _, startAfter⟩ := Cursor.exists_next blankAfter
      have blankFirst : blank.after.head? = some ' ' := by rw [blankAfter, List.head?_cons]
      have atComma : ending place = some blank := search_one_of_contains readComma (by decide)
      have atBlank : ending blank = none := ending_eq_none blankFirst (by decide)
      rw [search_star_one_of_contains readComma (by decide),
        search_star_one_of_contains readBlank (by decide), atComma, atBlank, Option.or_none,
        List.dropWhile_cons]
      cases typeLike : parameter.looksLikeType with
      | true =>
          obtain ⟨untyped, letters⟩ := looksLikeType_iff.mp typeLike
          rw [written_of_untyped untyped] at startAfter
          obtain ⟨behind, reads, behindAfter⟩ := Cursor.exists_reads startAfter
          obtain ⟨stop, found, isBefore, stopAfter⟩ := ih others behindAfter
          refine ⟨stop, ?_, isBefore, stopAfter⟩
          rw [search_letters reads letters, found, Option.some_or]
      | false =>
          refine ⟨blank, ?_, isComma, blankAfter⟩
          rw [search_eq_none_of_written here typeLike startAfter, Option.none_or]

/-- A colon before a type of letters starts a match, which ends with the mark behind the type or
behind the last of the parameters that look like a part of it. -/
theorem exists_matchEnd?_colonPass {type : List Char} (notEmpty : type ≠ [])
    (letters : ∀ char ∈ type, char.isAlpha) (wellFormed : ∀ parameter ∈ rest, parameter.WellFormed)
    (toCome : place.after = ':' :: ' ' :: (type ++ textBehind rest)) :
    ∃ stop, colonPass.pattern.matchEnd? place = some stop ∧
      stop.before = some (markBehind (rest.dropWhile looksLikeType)) ∧
      stop.after = textBehindMark (rest.dropWhile looksLikeType) := by
  obtain ⟨blank, readColon, _, blankAfter⟩ := Cursor.exists_next toCome
  obtain ⟨start, readBlank, _, startAfter⟩ := Cursor.exists_next blankAfter
  obtain ⟨first, more, rfl⟩ := List.exists_cons_of_ne_nil notEmpty
  obtain ⟨isLetter, moreLetters⟩ := List.forall_mem_cons.mp letters
  obtain ⟨second, readFirst, _, secondAfter⟩ := Cursor.exists_next startAfter
  obtain ⟨behind, reads, behindAfter⟩ := Cursor.exists_reads secondAfter
  obtain ⟨stop, found, isBefore, stopAfter⟩ := exists_search_eq_some wellFormed behindAfter
  have colon : place.Reads [':'] blank := .step readColon (.stay blank)
  have noBlank : ∀ char ∈ start.after.head?, ¬(CharSet.named .blank).contains char := by
    rw [startAfter]
    rintro char ⟨⟩
    exact not_isBlank_of_isAlpha isLetter
  have typeFound : (plus (one spacedTypeChars)).search ending start = some stop := by
    rw [search_plus (consumes_one _),
      search_one_of_contains readFirst (contains_of_isAlpha isLetter),
      search_letters reads moreLetters, found]
  refine ⟨stop, ?_, isBefore, stopAfter⟩
  rw [consumes_colonPass.matchEnd?_eq_search]
  calc colonPass.pattern.search some place
      = (text ":").search ((star (one (.named .blank))).search
          ((plus (one spacedTypeChars)).search ending)) place := by
        rw [colonPass, sequenceOf, List.foldl_cons, List.foldl_cons, List.foldl_cons, List.foldl_nil,
          search_seq, search_seq, search_seq]
        rfl
    _ = (star (one (.named .blank))).search ((plus (one spacedTypeChars)).search ending) blank :=
        search_literal_of_reads colon
    _ = some stop := by
        rw [search_star_one_of_contains readBlank (by decide),
          search_star_one_of_not_contains noBlank, typeFound, Option.some_or]

/-! ### The first pass -/

/-- At the colon before a type the pass leaves only the mark at which the type is taken to end. -/
theorem eraseFrom_type {type : List Char} (notEmpty : type ≠ [])
    (letters : ∀ char ∈ type, char.isAlpha) (wellFormed : ∀ parameter ∈ rest, parameter.WellFormed)
    (toCome : place.after = ':' :: ' ' :: (type ++ textBehind rest)) :
    colonPass.eraseFrom place =
      colonPass.eraseFrom (.start (textBehind (rest.dropWhile looksLikeType))) := by
  obtain ⟨stop, found, isBefore, stopAfter⟩ :=
    exists_matchEnd?_colonPass notEmpty letters wellFormed toCome
  -- The mark is read from the place before it, whatever that place is behind.
  have readsMark : (Cursor.start (textBehind (rest.dropWhile looksLikeType))).Reads
      [markBehind (rest.dropWhile looksLikeType)] stop := by
    refine .step (Cursor.next?_eq_some_iff.mpr ⟨?_, isBefore⟩) (.stay stop)
    rw [stopAfter, ← textBehind_eq]
    rfl
  have noColon : ':' ∉ [markBehind (rest.dropWhile looksLikeType)] := by
    cases rest.dropWhile looksLikeType <;> simp [markBehind]
  rw [Pass.eraseFrom_of_found rfl found isBefore,
    opens_colonPass.eraseFrom_of_reads readsMark noColon]

/-- From a parameter on the pass leaves its name, and of the others those that are kept. -/
theorem eraseFrom_written (here : parameter.WellFormed)
    (wellFormed : ∀ parameter ∈ rest, parameter.WellFormed)
    (behind : ∀ others : List Parameter, others.length ≤ rest.length →
      (∀ parameter ∈ others, parameter.WellFormed) → ∀ later : Cursor,
        later.after = textBehind others →
          colonPass.eraseFrom later = textBehind ((kept false others).map bare))
    (toCome : place.after = parameter.written.toList ++ textBehind rest) :
    colonPass.eraseFrom place = parameter.name.toList ++
      textBehind ((kept parameter.type?.isSome rest).map bare) := by
  have noColon : ':' ∉ parameter.name.toList := fun member => (here.name ':' member).2 (by decide)
  cases typed : parameter.type? with
  | none =>
      rw [written_of_untyped typed] at toCome
      obtain ⟨later, reads, laterAfter⟩ := Cursor.exists_reads toCome
      rw [opens_colonPass.eraseFrom_of_reads reads noColon,
        behind rest (Nat.le_refl _) wellFormed later laterAfter]
      rfl
  | some type =>
      rw [written_of_typed typed, List.append_assoc] at toCome
      obtain ⟨later, reads, laterAfter⟩ := Cursor.exists_reads toCome
      have notEmpty : type.toList ≠ [] := by
        intro isEmpty
        exact here.typed (typed.trans (congrArg some (String.toList_eq_nil_iff.mp isEmpty)))
      have letters : ∀ char ∈ type.toList, char.isAlpha := here.type type typed
      have others : ∀ parameter ∈ rest.dropWhile looksLikeType, parameter.WellFormed :=
        fun parameter member => wellFormed parameter ((List.dropWhile_sublist _).subset member)
      rw [opens_colonPass.eraseFrom_of_reads reads noColon,
        eraseFrom_type notEmpty letters wellFormed laterAfter,
        behind _ (List.dropWhile_sublist _).length_le others _ rfl, Option.isSome_some, kept_true]

theorem eraseFrom_textBehind (rest : List Parameter)
    (wellFormed : ∀ parameter ∈ rest, parameter.WellFormed)
    (toCome : place.after = textBehind rest) :
    colonPass.eraseFrom place = textBehind ((kept false rest).map bare) := by
  induction size : rest.length using Nat.strongRecOn generalizing rest place with
  | _ size ih =>
      subst size
      cases rest with
      | nil =>
          have noColon : ':' ∉ place.after := by
            rw [toCome]
            decide
          rw [opens_colonPass.eraseFrom_eq_after noColon, toCome]
          rfl
      | cons parameter rest =>
          obtain ⟨here, others⟩ := List.forall_mem_cons.mp wellFormed
          have split : place.after =
              [',', ' '] ++ (parameter.written.toList ++ textBehind rest) := toCome
          obtain ⟨start, reads, startAfter⟩ := Cursor.exists_reads split
          have behind := eraseFrom_written here others (fun others shorter each later laterAfter =>
            ih others.length (Nat.lt_succ_of_le shorter) others each laterAfter rfl) startAfter
          rw [opens_colonPass.eraseFrom_of_reads reads (by decide), behind]
          rfl

/-! ### Functions without types -/

variable {parameters : List Parameter}

/-- Without types a function consists of the characters of names and a few others. -/
theorem mem_textBehind_bare (wellFormed : ∀ parameter ∈ parameters, parameter.WellFormed)
    {char : Char} (member : char ∈ textBehind (parameters.map bare)) :
    char ∈ ", ) \x7b\x7d".toList ∨ ¬Text.isBlank char ∧ char ∉ signs := by
  induction parameters with
  | nil => exact .inl (List.mem_of_mem_drop (i := 2) member)
  | cons parameter rest ih =>
      obtain ⟨here, others⟩ := List.forall_mem_cons.mp wellFormed
      have split : char ∈ [',', ' '] ∨ char ∈ parameter.name.toList ∨
          char ∈ textBehind (rest.map bare) := by
        rw [← List.mem_append, ← List.mem_append]
        exact member
      rcases split with isMark | inName | further
      · exact .inl (List.mem_of_mem_take (i := 2) isMark)
      · exact .inr (here.name char inName)
      · exact ih others further

theorem mem_functionWith_bare (wellFormed : ∀ parameter ∈ parameters, parameter.WellFormed)
    {char : Char} (member : char ∈ (functionWith (parameters.map bare)).toList) :
    char ∈ "function f(, ) \x7b\x7d".toList ∨ ¬Text.isBlank char ∧ char ∉ signs := by
  rw [toList_functionWith, List.mem_append] at member
  rcases member with inFront | inside
  · exact .inl (List.mem_append_left _ inFront)
  · have behind := (textInside_suffix _).subset inside
    exact (mem_textBehind_bare wellFormed behind).imp_left
      (List.mem_append_right "function f(".toList)

/-- No blank comes right behind the letter with which the word of a cast ends. -/
def NoBlankBehindS (before char : Char) : Prop := before = 's' → ¬Text.isBlank char

instance : DecidableRel NoBlankBehindS := fun before char =>
  inferInstanceAs (Decidable (before = 's' → ¬Text.isBlank char))

theorem isChain_name {name back : List Char} (noBlanks : ∀ char ∈ name, ¬Text.isBlank char)
    (next : ∀ char ∈ back.head?, ¬Text.isBlank char) (chain : back.IsChain NoBlankBehindS) :
    (name ++ back).IsChain NoBlankBehindS ∧ ∀ char ∈ (name ++ back).head?, ¬Text.isBlank char := by
  induction name with
  | nil => exact ⟨chain, next⟩
  | cons first name ih =>
      obtain ⟨here, others⟩ := List.forall_mem_cons.mp noBlanks
      obtain ⟨further, head⟩ := ih others
      refine ⟨List.isChain_cons.mpr ⟨fun char isNext _ => head char isNext, further⟩, ?_⟩
      rintro char ⟨⟩
      exact here

theorem isChain_textBehind_bare (wellFormed : ∀ parameter ∈ parameters, parameter.WellFormed) :
    (textBehind (parameters.map bare)).IsChain NoBlankBehindS := by
  induction parameters with
  | nil => decide
  | cons parameter rest ih =>
      obtain ⟨here, others⟩ := List.forall_mem_cons.mp wellFormed
      have next : ∀ char ∈ (textBehind (rest.map bare)).head?, ¬Text.isBlank char := by
        cases rest <;> rintro char ⟨⟩ <;> decide
      have chain := (isChain_name (fun char member => (here.name char member).1) next
        (ih others)).1
      rw [List.map_cons, textBehind, List.isChain_cons, List.isChain_cons]
      refine ⟨?_, ?_, chain⟩
      · rintro char ⟨⟩
        decide
      · rintro char _ ⟨⟩

theorem isChain_functionWith_bare (wellFormed : ∀ parameter ∈ parameters, parameter.WellFormed) :
    (functionWith (parameters.map bare)).toList.IsChain NoBlankBehindS := by
  have inside := (isChain_textBehind_bare wellFormed).suffix (textInside_suffix _)
  rw [toList_functionWith]
  refine List.isChain_append.mpr ⟨by decide, inside, ?_⟩
  rintro last ⟨⟩ char _ ⟨⟩

/-- A function without types holds nothing that looks like the start of one. -/
theorem untyped_functionWith_bare (wellFormed : ∀ parameter ∈ parameters, parameter.WellFormed) :
    Untyped (functionWith (parameters.map bare)).toList := by
  have missing : ∀ char ∈ [':', '<', '\n', '\r'],
      char ∉ (functionWith (parameters.map bare)).toList := by
    intro char listed member
    have foreign : [':', '<', '\n', '\r'].all fun char =>
        char ∉ "function f(, ) \x7b\x7d".toList ∧ (Text.isBlank char ∨ char ∈ signs) := by decide
    obtain ⟨notFixed, notInName⟩ := of_decide_eq_true (List.all_eq_true.mp foreign char listed)
    rcases mem_functionWith_bare wellFormed member with isFixed | ⟨noBlank, noSign⟩
    · exact notFixed isFixed
    · exact notInName.elim noBlank noSign
  refine ⟨missing ':' (by decide), missing '<' (by decide), ?_, ?_⟩
  · rintro ⟨front, blank, back, split, _, isBlank⟩
    have chain := isChain_functionWith_bare wellFormed
    rw [split] at chain
    obtain ⟨_, further⟩ := List.isChain_cons_cons.mp chain.right_of_append
    exact (List.isChain_cons_cons.mp further).1 rfl isBlank
  · rintro ⟨front, word, blank, back, split, lineStarts, isWord, _⟩
    have inText : ∀ char ∈ front.getLast?, char ∈ (functionWith (parameters.map bare)).toList := by
      intro char isLast
      rw [split]
      exact List.mem_append_left _ (List.mem_of_getLast? isLast)
    rcases lineStarts with rfl | lineFeed | ⟨carriageReturn, _⟩
    · rw [toList_functionWith] at split
      rcases isWord with rfl | rfl <;> cases split
    · exact missing '\n' (by decide) (inText _ lineFeed)
    · exact missing '\r' (by decide) (inText _ carriageReturn)

/-! ### All passes -/

theorem erase_colonPass_functionWith
    (wellFormed : ∀ parameter ∈ parameters, parameter.WellFormed) :
    colonPass.erase (functionWith parameters).toList =
      (functionWith ((kept false parameters).map bare)).toList := by
  cases parameters with
  | nil => exact opens_colonPass.erase_eq_self (by decide)
  | cons parameter rest =>
      obtain ⟨here, others⟩ := List.forall_mem_cons.mp wellFormed
      have toCome : (Cursor.start (functionWith (parameter :: rest)).toList).after =
          "function f(".toList ++ (parameter.written.toList ++ textBehind rest) :=
        toList_functionWith (parameter :: rest)
      obtain ⟨place, reads, placeAfter⟩ := Cursor.exists_reads toCome
      have behind : colonPass.eraseFrom place = parameter.name.toList ++
          textBehind ((kept parameter.type?.isSome rest).map bare) :=
        eraseFrom_written here others
          (fun others _ each _ laterAfter => eraseFrom_textBehind others each laterAfter) placeAfter
      rw [Pass.erase, opens_colonPass.eraseFrom_of_reads reads (by decide), behind,
        toList_functionWith]
      rfl

/-- All parameters are left but those that the first pass takes for a part of a type. -/
theorem eraseTypes_functionWith (wellFormed : ∀ parameter ∈ parameters, parameter.WellFormed) :
    eraseTypes (functionWith parameters) =
      functionWith ((kept false parameters).map bare) := by
  have untyped : Untyped (functionWith ((kept false parameters).map bare)).toList :=
    untyped_functionWith_bare fun parameter member =>
      wellFormed parameter ((kept_sublist false parameters).subset member)
  calc eraseTypes (functionWith parameters)
      = eraseTypes (functionWith ((kept false parameters).map bare)) := by
        rw [eraseTypes, eraseTypes, eraseChars, eraseChars,
          erase_colonPass_functionWith wellFormed, opens_colonPass.erase_eq_self untyped.noColon]
    _ = functionWith ((kept false parameters).map bare) := untyped.eraseTypes_eq_self

/-- Each parameter but the first has a comma before it, and there are no others. -/
theorem count_comma_textBehind_bare (wellFormed : ∀ parameter ∈ parameters, parameter.WellFormed) :
    (textBehind (parameters.map bare)).count ',' = parameters.length := by
  induction parameters with
  | nil => rfl
  | cons parameter rest ih =>
      obtain ⟨here, others⟩ := List.forall_mem_cons.mp wellFormed
      have noComma : parameter.name.toList.count ',' = 0 :=
        List.count_eq_zero.mpr fun member => (here.name ',' member).2 (by decide)
      calc (textBehind ((parameter :: rest).map bare)).count ','
          = ([',', ' '] ++ (parameter.name.toList ++ textBehind (rest.map bare))).count ',' := rfl
        _ = (parameter :: rest).length := by
          rw [List.count_append, List.count_append, noComma, ih others, List.length_cons]
          have one : [',', ' '].count ',' = 1 := by decide
          omega

/-- The parameters that are left can be told from the text. -/
theorem functionWith_kept_eq_iff (wellFormed : ∀ parameter ∈ parameters, parameter.WellFormed) :
    functionWith ((kept false parameters).map bare) = functionWith (parameters.map bare) ↔
      kept false parameters = parameters := by
  refine ⟨fun same => ?_, fun same => by rw [same]⟩
  cases parameters with
  | nil => rfl
  | cons parameter rest =>
      obtain ⟨_, others⟩ := List.forall_mem_cons.mp wellFormed
      have sublist := kept_sublist parameter.type?.isSome rest
      have left : ∀ other ∈ kept parameter.type?.isSome rest, other.WellFormed :=
        fun other member => others other (sublist.subset member)
      have sameBehind : textBehind ((kept parameter.type?.isSome rest).map bare) =
          textBehind (rest.map bare) := by
        have sameText := congrArg String.toList same
        rw [toList_functionWith, toList_functionWith] at sameText
        exact List.append_cancel_left (List.append_cancel_left sameText)
      have sameLength : (kept parameter.type?.isSome rest).length = rest.length := by
        rw [← count_comma_textBehind_bare left, ← count_comma_textBehind_bare others, sameBehind]
      exact congrArg (parameter :: ·) (sublist.eq_of_length sameLength)

/-- Of a function the parameters are left, without their types, except for such as could be part of
the type before them.  So exactly the types go if no parameter without a type whose name has letters
only comes right behind a parameter with a type. -/
theorem eraseTypes_keeps_parameters
    (wellFormed : ∀ parameter ∈ parameters, parameter.WellFormed) :
    eraseTypes (functionWith parameters) = functionWith ((kept false parameters).map bare) ∧
      (eraseTypes (functionWith parameters) = functionWith (parameters.map bare) ↔
        parameters.IsChain fun former parameter => ¬SeemsToContinue former parameter) := by
  have erased := eraseTypes_functionWith wellFormed
  refine ⟨erased, ?_⟩
  rw [erased, functionWith_kept_eq_iff wellFormed, kept_eq_self_iff]
  exact and_iff_right fun isTrue => absurd isTrue Bool.false_ne_true

/-- A name with a sign of its own stays behind a type, and such a name does not need one for the
next to stay. -/
theorem eraseTypes_keeps_parameters_with_digits :
    let parameters : List Parameter := [{ name := "a", type? := some "number" }, { name := "$0" },
      { name := "rest" }, { name := "as", type? := some "T" }]
    (∀ parameter ∈ parameters, parameter.WellFormed) ∧
      parameters.IsChain (fun former parameter => ¬SeemsToContinue former parameter) ∧
      functionWith parameters = "function f(a: number, $0, rest, as: T) \x7b\x7d" ∧
      eraseTypes (functionWith parameters) = "function f(a, $0, rest, as) \x7b\x7d" := by
  intro parameters
  have wellFormed : ∀ parameter ∈ parameters, parameter.WellFormed := by decide
  have apart : parameters.IsChain fun former parameter => ¬SeemsToContinue former parameter := by
    decide
  refine ⟨wellFormed, apart, by decide, ?_⟩
  rw [(eraseTypes_keeps_parameters wellFormed).2.mpr apart]
  decide

/-- A parameter is lost: its name is taken for the second part of the type before it. -/
theorem eraseTypes_loses_parameter :
    let parameters : List Parameter := [{ name := "a", type? := some "number" }, { name := "b" }]
    (∀ parameter ∈ parameters, parameter.WellFormed) ∧
      functionWith parameters = "function f(a: number, b) \x7b\x7d" ∧
      eraseTypes (functionWith parameters) = "function f(a) \x7b\x7d" ∧
      eraseTypes (functionWith parameters) ≠ functionWith (parameters.map bare) := by
  intro parameters
  have wellFormed : ∀ parameter ∈ parameters, parameter.WellFormed := by decide
  have erased : eraseTypes (functionWith parameters) = "function f(a) \x7b\x7d" := by
    rw [eraseTypes_functionWith wellFormed]
    decide
  refine ⟨wellFormed, by decide, erased, ?_⟩
  rw [erased]
  decide

end TypeErasure

end FencedCode
