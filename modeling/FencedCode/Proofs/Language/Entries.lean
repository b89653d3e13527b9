import FencedCode.Language.File
import Mathlib.Data.List.Forall2

/-!
# Languages that a file describes

The entries of a file are checked one after the other, and so are the rules of an entry.  Both
searches stop at the first error, so together they stop at the first rule that is refused when all
rules of the file are read in their order.  A file without such a rule gives one language for each
entry, and nothing of the entry is lost.
-/

namespace FencedCode

/-! ### Checks in a row -/

section Checks

variable {α β ε : Type} {check : α → Except ε β} {item : α} {items : List α}
variable {result : β} {results : List β} {error : ε}

theorem mapM_cons_of_error (refused : check item = .error error) :
    (item :: items).mapM check = .error error := by
  rw [List.mapM_cons, refused]
  rfl

theorem mapM_cons_of_ok (passed : check item = .ok result) :
    (item :: items).mapM check = (items.mapM check).map (result :: ·) := by
  rw [List.mapM_cons, passed]
  cases items.mapM check <;> rfl

theorem map_eq_error_iff {checked : Except ε α} {image : α → β} :
    checked.map image = .error error ↔ checked = .error error := by
  cases checked <;> simp [Except.map]

theorem mapM_eq_ok_iff : items.mapM check = .ok results ↔
    List.Forall₂ (fun item result => check item = .ok result) items results := by
  induction items generalizing results with
  | nil =>
      rw [List.mapM_nil, List.forall₂_nil_left_iff]
      constructor
      · rintro ⟨⟩
        rfl
      · rintro rfl
        rfl
  | cons item items ih =>
      rw [List.forall₂_cons_left_iff]
      cases first : check item with
      | error =>
          rw [mapM_cons_of_error first]
          simp
      | ok result =>
          rw [mapM_cons_of_ok first]
          constructor
          · intro passed
            cases rest : items.mapM check with
            | error =>
                rw [rest] at passed
                cases passed
            | ok others =>
                rw [rest] at passed
                cases passed
                exact ⟨result, others, rfl, ih.mp rest, rfl⟩
          · rintro ⟨_, others, ⟨⟩, rest, rfl⟩
            rw [ih.mpr rest]
            rfl

theorem exists_mapM_eq_ok_iff : (∃ results, items.mapM check = .ok results) ↔
    ∀ item ∈ items, ∃ result, check item = .ok result := by
  induction items with
  | nil => exact iff_of_true ⟨[], rfl⟩ (List.forall_mem_nil _)
  | cons item items ih =>
      rw [List.forall_mem_cons, ← ih]
      cases first : check item with
      | error =>
          rw [mapM_cons_of_error first]
          simp
      | ok result =>
          rw [mapM_cons_of_ok first]
          cases items.mapM check <;> simp [Except.map]

/-- Checks in a row fail with the error of the first that does. -/
theorem mapM_eq_error_iff : items.mapM check = .error error ↔
    ∃ earlier item later, items = earlier ++ item :: later ∧
      (∀ other ∈ earlier, ∃ result, check other = .ok result) ∧ check item = .error error := by
  induction items with
  | nil => simp [pure, Except.pure]
  | cons item items ih =>
      cases first : check item with
      | error found =>
          rw [mapM_cons_of_error first]
          constructor
          · rintro ⟨⟩
            exact ⟨[], item, items, rfl, List.forall_mem_nil _, first⟩
          · rintro ⟨earlier, other, later, split, passed, refused⟩
            cases earlier with
            | nil =>
                cases split
                cases first.symm.trans refused
                rfl
            | cons head earlier =>
                cases split
                obtain ⟨result, passes⟩ := passed item (List.mem_cons_self ..)
                cases first.symm.trans passes
      | ok result =>
          rw [mapM_cons_of_ok first, map_eq_error_iff, ih]
          constructor
          · rintro ⟨earlier, other, later, rfl, passed, refused⟩
            exact ⟨item :: earlier, other, later, rfl,
              List.forall_mem_cons.mpr ⟨⟨result, first⟩, passed⟩, refused⟩
          · rintro ⟨earlier, other, later, split, passed, refused⟩
            cases earlier with
            | nil =>
                cases split
                cases first.symm.trans refused
            | cons head earlier =>
                cases split
                exact ⟨earlier, other, later, rfl, (List.forall_mem_cons.mp passed).2, refused⟩

end Checks

/-! ### Rules -/

namespace RuleEntry

variable {compile : Compiler} {entry : RuleEntry} {rule : Rule} {error : Error}

/-- A rule has the kind that an entry names and the pattern that it writes down. -/
structure Describes (compile : Compiler) (entry : RuleEntry) (rule : Rule) : Prop where
  kind : rule.kind.name = entry.kind
  pattern : compile entry.pattern = .ok rule.pattern

/-- The kind of an entry is known and its pattern can be compiled. -/
structure Sound (compile : Compiler) (entry : RuleEntry) : Prop where
  known : ∃ kind : TokenKind, kind.name = entry.kind
  compilable : ∃ pattern, compile entry.pattern = .ok pattern

/-- What is wrong with an entry.  Of an unknown kind and a pattern that cannot be compiled it is the
kind. -/
inductive Offends (compile : Compiler) (entry : RuleEntry) : Error → Prop where
  | unknownKind (unknown : ∀ kind : TokenKind, kind.name ≠ entry.kind) :
      Offends compile entry (.unknownTokenKind entry.kind)
  | badPattern {kind : TokenKind} {cause : String} (known : kind.name = entry.kind)
      (refused : compile entry.pattern = .error cause) :
      Offends compile entry (.pattern { kind, cause })

theorem ofName?_eq_none_iff {name : String} :
    TokenKind.ofName? name = none ↔ ∀ kind : TokenKind, kind.name ≠ name := by
  simp only [Option.eq_none_iff_forall_ne_some, ne_eq, TokenKind.ofName?_eq_some_iff]

theorem toRule_eq_ok_iff : entry.toRule compile = .ok rule ↔ entry.Describes compile rule := by
  rw [toRule]
  constructor
  · intro passed
    split at passed
    · cases passed
    · next kind known =>
      split at passed
      · cases passed
      · next pattern compiled =>
        cases passed
        exact ⟨TokenKind.ofName?_eq_some_iff.mp known, compiled⟩
  · rintro ⟨known, compiled⟩
    rw [TokenKind.ofName?_eq_some_iff.mpr known, compiled]

theorem toRule_eq_error_iff :
    entry.toRule compile = .error error ↔ entry.Offends compile error := by
  rw [toRule]
  constructor
  · intro failed
    split at failed
    · next unknown =>
      cases failed
      exact .unknownKind (ofName?_eq_none_iff.mp unknown)
    · next kind known =>
      split at failed
      · next cause refused =>
        cases failed
        exact .badPattern (TokenKind.ofName?_eq_some_iff.mp known) refused
      · cases failed
  · intro offends
    cases offends with
    | unknownKind unknown => rw [ofName?_eq_none_iff.mpr unknown]
    | badPattern known refused => rw [TokenKind.ofName?_eq_some_iff.mpr known, refused]

theorem sound_iff : entry.Sound compile ↔ ∃ rule, entry.toRule compile = .ok rule := by
  simp only [toRule_eq_ok_iff]
  constructor
  · rintro ⟨⟨kind, known⟩, pattern, compiled⟩
    exact ⟨{ kind, pattern }, known, compiled⟩
  · rintro ⟨rule, known, compiled⟩
    exact ⟨⟨rule.kind, known⟩, rule.pattern, compiled⟩

end RuleEntry

/-! ### Entries -/

/-- A language is what an entry says, in the order in which the entry says it. -/
structure LanguageEntry.Describes (compile : Compiler) (entry : LanguageEntry)
    (language : Language) : Prop where
  name : language.name = entry.name
  aliases : language.aliases = entry.aliases
  runnable : language.runnable = entry.runnable
  rules : List.Forall₂ (RuleEntry.Describes compile) entry.rules language.rules
  keywords : ∀ word, word ∈ language.keywords ↔ word ∈ entry.keywords
  builtins : ∀ word, word ∈ language.builtins ↔ word ∈ entry.builtins
  /-- No entry asks for types to be stripped. -/
  keepsTypes : language.stripsTypes = false

namespace LanguageEntry

variable {compile : Compiler} {entry : LanguageEntry} {language : Language} {rules : List Rule}
variable {error : Error}

theorem toLanguage_of_error (refused : entry.rules.mapM (RuleEntry.toRule compile) = .error error) :
    entry.toLanguage compile = .error error := by
  rw [toLanguage, refused]
  rfl

theorem toLanguage_of_ok (passed : entry.rules.mapM (RuleEntry.toRule compile) = .ok rules) :
    entry.toLanguage compile = .ok
      { name := entry.name, aliases := entry.aliases, runnable := entry.runnable, rules,
        keywords := entry.keywords, builtins := entry.builtins } := by
  rw [toLanguage, passed]
  rfl

theorem exists_toLanguage_eq_ok_iff :
    (∃ language, entry.toLanguage compile = .ok language) ↔
      ∀ rule ∈ entry.rules, rule.Sound compile := by
  simp only [RuleEntry.sound_iff, ← exists_mapM_eq_ok_iff]
  cases checked : entry.rules.mapM (RuleEntry.toRule compile) with
  | error =>
      rw [toLanguage_of_error checked]
      exact iff_of_false nofun nofun
  | ok rules =>
      rw [toLanguage_of_ok checked]
      exact iff_of_true ⟨_, rfl⟩ ⟨rules, rfl⟩

theorem describes_of_toLanguage (passed : entry.toLanguage compile = .ok language) :
    entry.Describes compile language := by
  cases checked : entry.rules.mapM (RuleEntry.toRule compile) with
  | error =>
      rw [toLanguage_of_error checked] at passed
      cases passed
  | ok rules =>
      rw [toLanguage_of_ok checked] at passed
      cases passed
      have described : List.Forall₂ (RuleEntry.Describes compile) entry.rules rules :=
        (mapM_eq_ok_iff.mp checked).imp fun _ _ => RuleEntry.toRule_eq_ok_iff.mp
      exact ⟨rfl, rfl, rfl, described, fun _ => Iff.rfl, fun _ => Iff.rfl, rfl⟩

end LanguageEntry

/-! ### Documents -/

namespace LanguageFile

variable {compile : Compiler} {readers : Readers} {document : String}
variable {entries : List LanguageEntry} {error : Error}

/-- The rules of all entries, in the order of the document. -/
def rulesOf (entries : List LanguageEntry) : List RuleEntry := entries.flatMap LanguageEntry.rules

/-- Checking entry by entry ends with the same error as checking all rules in a row. -/
theorem languagesOf_eq_error_iff_rules :
    languagesOf compile entries = .error error ↔
      (rulesOf entries).mapM (RuleEntry.toRule compile) = .error error := by
  rw [languagesOf, rulesOf]
  induction entries with
  | nil =>
      rw [List.flatMap_nil]
      exact iff_of_false nofun nofun
  | cons entry entries ih =>
      rw [List.flatMap_cons, List.mapM_append]
      cases checked : entry.rules.mapM (RuleEntry.toRule compile) with
      | error found =>
          rw [mapM_cons_of_error (LanguageEntry.toLanguage_of_error checked)]
          change Except.error found = .error error ↔ Except.error found = .error error
          rw [Except.error.injEq, Except.error.injEq]
      | ok rules =>
          rw [mapM_cons_of_ok (LanguageEntry.toLanguage_of_ok checked), map_eq_error_iff, ih]
          exact map_eq_error_iff.symm

/-- An error is that of the first rule in the document at which something is wrong. -/
def FirstOffence (compile : Compiler) (entries : List LanguageEntry) (error : Error) : Prop :=
  ∃ earlier entry later, rulesOf entries = earlier ++ entry :: later ∧
    (∀ other ∈ earlier, other.Sound compile) ∧ entry.Offends compile error

theorem languagesOf_eq_error_iff :
    languagesOf compile entries = .error error ↔ FirstOffence compile entries error := by
  rw [languagesOf_eq_error_iff_rules, mapM_eq_error_iff]
  simp only [← RuleEntry.sound_iff, RuleEntry.toRule_eq_error_iff]
  rfl

/-- All languages that a document lists are there, or none of them and the first error. -/
structure LoadsWhole (readers : Readers) (document : String) (entries : List LanguageEntry) :
    Prop where
  loads : (∃ languages, parse document readers = .ok languages) ↔
    ∀ entry ∈ entries, ∀ rule ∈ entry.rules, rule.Sound readers.compile
  refused : ∀ error, parse document readers = .error error ↔
    FirstOffence readers.compile entries error
  /-- There is one language for each entry, in their order. -/
  described : ∀ languages, parse document readers = .ok languages →
    List.Forall₂ (LanguageEntry.Describes readers.compile) entries languages

/-- A document is refused exactly for the first rule in it that has an unknown kind or a pattern that
cannot be compiled.  If there is none, its languages are those that its entries describe. -/
theorem parse_loads_whole (decoded : readers.decode document = .ok entries) :
    LoadsWhole readers document entries := by
  have parsed : parse document readers = languagesOf readers.compile entries := by
    rw [parse, decoded]
  refine ⟨?_, ?_, ?_⟩
  · simp only [parsed, languagesOf, exists_mapM_eq_ok_iff, LanguageEntry.exists_toLanguage_eq_ok_iff]
  · intro error
    rw [parsed, languagesOf_eq_error_iff]
  · intro languages passed
    rw [parsed, languagesOf, mapM_eq_ok_iff] at passed
    exact passed.imp fun _ _ => LanguageEntry.describes_of_toLanguage

/-- A pattern that cannot be compiled hides the unknown kind of a later language. -/
theorem parse_loads_whole_up_to_pattern :
    let readers : Readers := {}
    let document := "[[language]]\nname=\"A\"\naliases=[\"a\",\"a\"]\n" ++
      "[[language.rule]]\nkind=\"word\"\npattern=\"x\"\n" ++
      "[[language.rule]]\nkind=\"string\"\npattern=\"(\"\n" ++
      "[[language]]\nname=\"B\"\naliases=[]\n" ++
      "[[language.rule]]\nkind=\"sparkle\"\npattern=\"x\"\n"
    let word : RuleEntry := { kind := "word", pattern := "x" }
    let broken : RuleEntry := { kind := "string", pattern := "(" }
    let sparkle : RuleEntry := { kind := "sparkle", pattern := "x" }
    let entries : List LanguageEntry :=
      [{ name := "A", aliases := ["a", "a"], rules := [word, broken] },
       { name := "B", rules := [sparkle] }]
    readers.decode document = .ok entries ∧
      parse document readers =
        .error (.pattern { kind := .string, cause := "error parsing pattern 0" }) := by
  intro readers document word broken sparkle entries
  have decoded : readers.decode document = .ok entries := by decide +kernel
  have wordSound : word.Sound readers.compile :=
    ⟨⟨.word, rfl⟩, .one (.single 'x'), by decide +kernel⟩
  have offends : broken.Offends readers.compile
      (.pattern { kind := .string, cause := "error parsing pattern 0" }) :=
    .badPattern rfl (by decide +kernel)
  refine ⟨decoded, ((parse_loads_whole decoded).refused _).mpr ?_⟩
  exact ⟨[word], broken, [sparkle], rfl, List.forall_mem_singleton.mpr wordSound, offends⟩

end LanguageFile

end FencedCode
