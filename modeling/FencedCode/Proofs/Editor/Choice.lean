import FencedCode.Proofs.Editor.View
import FencedCode.Proofs.Registry.Extension

/-!
# The choice of languages

A widget offers the languages of its registry and marks one of them as chosen.  The mark compares
aliases up to the case of ASCII letters, and a registry compares them in small letters.  So the mark
never stands at a wrong language.  It is missing where a language is found under an alias that it
lists with another case of a letter beyond ASCII, and it is set twice where a language lists the
empty name; everywhere else exactly the language that is found is marked.
-/

namespace FencedCode

variable {languages : List Language} {registry : Registry} {name : String}

/-! ### Two ways to compare aliases -/

namespace Language

variable {language : Language}

theorem hasAlias_iff : language.hasAlias name = true ↔
    ∃ listed ∈ language.aliases,
      listed.toList.map Char.toLower = name.toList.map Char.toLower := by
  simp only [hasAlias, Text.eqIgnoringAsciiCase, List.any_eq_true, beq_iff_eq]

/-- What is the same up to the case of ASCII letters is the same in small letters. -/
theorem listsAlias_of_hasAlias (has : language.hasAlias name = true) :
    language.ListsAlias name := by
  obtain ⟨listed, isListed, same⟩ := hasAlias_iff.mp has
  exact ⟨listed, isListed, Text.lower_eq_of_toLower_eq same⟩

theorem hasAlias_empty_iff : language.hasAlias "" = true ↔ "" ∈ language.aliases := by
  rw [hasAlias_iff]
  constructor
  · rintro ⟨listed, isListed, same⟩
    rw [String.toList_empty, List.map_nil, List.map_eq_nil_iff, String.toList_eq_nil_iff] at same
    rwa [same] at isListed
  · intro isListed
    exact ⟨"", isListed, rfl⟩

/-- Among ASCII aliases both ways agree. -/
theorem hasAlias_of_listsAlias (listedAscii : ∀ listed ∈ language.aliases, Text.IsAscii listed)
    (ascii : Text.IsAscii name) (lists : language.ListsAlias name) :
    language.hasAlias name = true := by
  obtain ⟨listed, isListed, small⟩ := lists
  have same := (Text.lower_eq_iff_of_ascii (listedAscii listed isListed) ascii).mp small
  exact hasAlias_iff.mpr ⟨listed, isListed, same⟩

end Language

namespace Registry

/-- A name is listed by the language that it finds as it is written, up to the case of ASCII
letters, and by no language if it is empty. -/
structure ListsAsWritten (registry : Registry) (name : String) : Prop where
  found : ∀ language, registry.resolve? name = some language → language.hasAlias name = true
  empty : name = "" → ∀ language ∈ registry.languages, "" ∉ language.aliases

theorem resolve?_of_hasAlias (built : ofLanguages languages = .ok registry) (named : name ≠ "")
    {language : Language} (member : language ∈ languages) (has : language.hasAlias name = true) :
    registry.resolve? name = some language :=
  (resolve?_eq_some_iff built named).mpr ⟨member, Language.listsAlias_of_hasAlias has⟩

/-- At most one of the languages of a registry has a name. -/
theorem filter_hasAlias_eq_singleton (distinct : (smallAliases languages).Nodup)
    {language : Language} (member : language ∈ languages) (has : language.hasAlias name = true) :
    languages.filter (·.hasAlias name) = [language] := by
  obtain ⟨index, inBounds, rfl⟩ := List.getElem_of_mem member
  have lists := Language.listsAlias_of_hasAlias has
  have others : ∀ other (otherInBounds : other < languages.length), other ≠ index →
      ¬languages[other].hasAlias name = true := by
    intro other otherInBounds apart otherHas
    exact apart (index_eq_of_lists distinct otherInBounds inBounds
      (Language.listsAlias_of_hasAlias otherHas) lists)
  have front : (languages.take index).filter (·.hasAlias name) = [] := by
    rw [List.filter_eq_nil_iff]
    intro language isBefore
    obtain ⟨other, otherInBounds, rfl⟩ := List.mem_take_iff_getElem.mp isBefore
    exact others other (by omega) (by omega)
  have back : (languages.drop (index + 1)).filter (·.hasAlias name) = [] := by
    rw [List.filter_eq_nil_iff]
    intro language isBehind
    obtain ⟨other, otherInBounds, rfl⟩ := List.mem_drop_iff_getElem.mp isBehind
    exact others (index + 1 + other) (by omega) (by omega)
  calc languages.filter (·.hasAlias name)
    _ = (languages.take index ++ languages[index] :: languages.drop (index + 1)).filter
          (·.hasAlias name) := by rw [← List.drop_eq_getElem_cons, List.take_append_drop]
    _ = [languages[index]] := by
      rw [List.filter_append, front, List.nil_append, List.filter_cons, if_pos has, back]

end Registry

namespace Widget

open Operation Registry

/-! ### The entry that is marked -/

/-- The entry that stands for what a name finds, as it looks when it is marked. -/
def markedOption : Option Language → LanguageOption
  | none => { value := "", label := "Plain Text", isSelected := true }
  | some language =>
    { value := language.primaryAlias, label := language.name, isSelected := true }

/-- Exactly one entry is marked, and it stands for what the present alias finds. -/
def MarksFound (widget : Widget) : Prop :=
  widget.languageOptions.filter (·.isSelected) =
    [markedOption (widget.registry.resolve? widget.name)]

variable {widget : Widget}

/-- The entry for plain text is marked if nothing is found, and a language if it has the alias. -/
theorem filter_languageOptions : widget.languageOptions.filter (·.isSelected) =
    (if (widget.registry.resolve? widget.name).isNone then [markedOption none] else []) ++
      (widget.registry.languages.filter (·.hasAlias widget.name)).map
        (markedOption ∘ some) := by
  have each : ∀ languages : List Language,
      (languages.map fun language : Language =>
        { value := language.primaryAlias, label := language.name
          isSelected := language.hasAlias widget.name : LanguageOption }).filter (·.isSelected) =
      (languages.filter (·.hasAlias widget.name)).map (markedOption ∘ some) := by
    intro languages
    induction languages with
    | nil => rfl
    | cons language languages ih =>
        cases has : language.hasAlias widget.name with
        | true => simp [has, ih, markedOption]
        | false => simp [has, ih]
  rw [languageOptions, List.filter_cons, each]
  cases widget.registry.resolve? widget.name with
  | none => rfl
  | some language => rfl

/-- Where nothing is found, no language may have the alias. -/
theorem marksFound_iff_of_none (missing : widget.registry.resolve? widget.name = none) :
    widget.MarksFound ↔ ∀ language ∈ widget.registry.languages,
      ¬language.hasAlias widget.name = true := by
  rw [MarksFound, filter_languageOptions, missing, ← List.filter_eq_nil_iff]
  simp

/-- Where a language is found, it must have the alias itself. -/
theorem marksFound_iff_of_some (built : ofLanguages languages = .ok widget.registry)
    {language : Language} (found : widget.registry.resolve? widget.name = some language) :
    widget.MarksFound ↔ language.hasAlias widget.name = true := by
  have inOrder : widget.registry.languages = languages := by rw [eq_of_ofLanguages built]
  have named : widget.name ≠ "" := by
    intro empty
    rw [empty, resolve?_empty] at found
    cases found
  rw [MarksFound, filter_languageOptions, found, inOrder, Option.isNone_some, if_neg (by simp),
    List.nil_append]
  constructor
  · intro marked
    obtain ⟨other, only⟩ := List.length_eq_one_iff.mp
      (by simpa using congrArg List.length marked)
    have isOther : other ∈ languages.filter (·.hasAlias widget.name) := by simp [only]
    obtain ⟨member, has⟩ := List.mem_filter.mp isOther
    have otherFound := resolve?_of_hasAlias built named member has
    rw [found] at otherFound
    cases otherFound
    exact has
  · intro has
    have member := ((resolve?_eq_some_iff built named).mp found).1
    rw [filter_hasAlias_eq_singleton (nodup_of_ofLanguages built) member has]
    rfl

theorem marksFound_iff (built : ofLanguages languages = .ok widget.registry) :
    widget.MarksFound ↔ widget.registry.ListsAsWritten widget.name := by
  have inOrder : widget.registry.languages = languages := by rw [eq_of_ofLanguages built]
  cases found : widget.registry.resolve? widget.name with
  | none =>
      rw [marksFound_iff_of_none found]
      constructor
      · intro unmarked
        refine ⟨?_, ?_⟩
        · intro language foundAgain
          rw [found] at foundAgain
          cases foundAgain
        · intro empty language member lists
          apply unmarked language member
          rwa [empty, Language.hasAlias_empty_iff]
      · intro asWritten language member has
        by_cases empty : widget.name = ""
        · rw [empty, Language.hasAlias_empty_iff] at has
          exact asWritten.empty empty language member has
        · rw [inOrder] at member
          rw [resolve?_of_hasAlias built empty member has] at found
          cases found
  | some language =>
      rw [marksFound_iff_of_some built found]
      constructor
      · intro has
        refine ⟨?_, ?_⟩
        · intro other foundAgain
          rw [found] at foundAgain
          cases foundAgain
          exact has
        · intro empty
          rw [empty, resolve?_empty] at found
          cases found
      · intro asWritten
        exact asWritten.found language found

/-- In a registry of ASCII aliases, none of them empty, every ASCII name is listed as written. -/
theorem listsAsWritten_of_ascii (built : ofLanguages languages = .ok registry)
    (listedAscii : ∀ language ∈ languages, ∀ listed ∈ language.aliases,
      listed ≠ "" ∧ Text.IsAscii listed)
    (ascii : Text.IsAscii name) : registry.ListsAsWritten name where
  found := by
    intro language found
    have named : name ≠ "" := by
      rintro rfl
      rw [resolve?_empty] at found
      cases found
    obtain ⟨member, lists⟩ := (resolve?_eq_some_iff built named).mp found
    exact Language.hasAlias_of_listsAlias
      (fun listed isListed => (listedAscii language member listed isListed).2) ascii lists
  empty := by
    intro _ language member isListed
    rw [eq_of_ofLanguages built] at member
    exact (listedAscii language member "" isListed).1 rfl

/-! ### After any operations -/

/-- After any operations exactly what the alias finds is marked if and only if the language that is
found lists the alias as it is written and no language lists it if it is empty.  For any other alias
no language is marked that is not found, and among ASCII aliases the mark is always right. -/
theorem marks_found_after (built : ofLanguages languages = .ok registry) (engine : Engine)
    (settings : Settings) (saves : Bool) (raw : String) (history : List Operation) :
    let widget := (ofRaw registry settings saves raw).after engine history
    (widget.MarksFound ↔ registry.ListsAsWritten widget.name) ∧
    (widget.name ≠ "" → ∀ language ∈ languages, language.hasAlias widget.name = true →
      registry.resolve? widget.name = some language) ∧
    ((∀ language ∈ languages, ∀ listed ∈ language.aliases, listed ≠ "" ∧ Text.IsAscii listed) →
      Text.IsAscii widget.name → widget.MarksFound) := by
  intro widget
  have shows := (shows_ofRaw registry settings saves raw).after engine history
  have sameRegistry : widget.registry = registry := shows.registry_eq
  have marks_iff : widget.MarksFound ↔ registry.ListsAsWritten widget.name := by
    rw [← sameRegistry] at built ⊢
    exact marksFound_iff built
  refine ⟨marks_iff, ?_, ?_⟩
  · intro named language member has
    exact resolve?_of_hasAlias built named member has
  · intro listedAscii ascii
    exact marks_iff.mpr (listsAsWritten_of_ascii built listedAscii ascii)

/-- The built-in languages, chosen from under an alias in capitals. -/
theorem marks_found_after_capitals :
    let engine : Engine := fun _ => {}
    let widget := (ofRaw .builtin {} true "x").after engine [.setLanguage "JSON"]
    ofLanguages builtinLanguages = .ok .builtin ∧
      (∀ language ∈ builtinLanguages, ∀ listed ∈ language.aliases,
        listed ≠ "" ∧ Text.IsAscii listed) ∧
      Text.IsAscii widget.name ∧ widget.MarksFound := by
  intro engine widget
  have listedAscii : ∀ language ∈ builtinLanguages, ∀ listed ∈ language.aliases,
      listed ≠ "" ∧ Text.IsAscii listed := by decide +kernel
  have ascii : Text.IsAscii widget.name := by decide +kernel
  exact ⟨ofLanguages_builtinLanguages, listedAscii, ascii,
    (marks_found_after ofLanguages_builtinLanguages engine {} true "x"
      [.setLanguage "JSON"]).2.2 listedAscii ascii⟩

/-- A language that lists the empty name is marked beside the entry for plain text, although nothing
is found. -/
theorem marks_two_for_empty_name :
    let lua : Language := { name := "Lua", aliases := ["lua", ""] }
    let registry : Registry := { languages := [lua], owners := claims [lua] }
    let widget := ofRaw registry {} true "\x60\x60\x60\nx\n\x60\x60\x60"
    ofLanguages [lua] = .ok registry ∧ registry.resolve? widget.name = none ∧
      (widget.languageOptions.filter (·.isSelected)).map (·.label) = ["Plain Text", "Lua"] := by
  intro lua registry widget
  exact ⟨rfl, rfl, by decide +kernel⟩

end Widget

end FencedCode
