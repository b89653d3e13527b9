import FencedCode.Proofs.Text.LetterCase
import FencedCode.Registry
import Mathlib.Data.List.Nodup
import Mathlib.Data.List.Perm.Basic

/-!
# Building registries and finding languages

A list of languages makes a registry exactly if no alias of it repeats another one up to case; where
one does, the first that does is reported with its two languages.  In the registry an alias finds
the one language that lists it, so the order in which the languages were given does not matter.
-/

namespace FencedCode

/-- Whether a language lists a name among its aliases, up to case. -/
def Language.ListsAlias (language : Language) (name : String) : Prop :=
  ∃ listed ∈ language.aliases, Text.lower listed = Text.lower name

namespace Registry

variable {languages : List Language} {registry : Registry}

/-- The aliases of languages in small letters, as often as they are listed. -/
def smallAliases (languages : List Language) : List String :=
  languages.flatMap fun language => language.aliases.map Text.lower

/-- The first alias that repeats an earlier one up to case, reported with the language that listed
it before and the one that repeats it. -/
inductive FirstRepeat (languages : List Language) : Error → Prop where
  | intro {earlier later : List (String × Language)} {name : String} {first second : Language}
      (inOrder : claims languages = earlier ++ (name, second) :: later)
      (distinct : (earlier.map Prod.fst).Nodup) (claimed : (name, first) ∈ earlier) :
      FirstRepeat languages (.duplicateAlias name first.name second.name)

theorem map_fst_claims (languages : List Language) :
    (claims languages).map Prod.fst = smallAliases languages := by
  simp only [claims, smallAliases, List.map_flatMap, List.map_map]
  rfl

theorem mem_claims_iff {name : String} {language : Language} :
    (name, language) ∈ claims languages ↔
      language ∈ languages ∧ ∃ listed ∈ language.aliases, Text.lower listed = name := by
  simp only [claims, List.mem_flatMap, List.mem_map, Prod.mk.injEq]
  constructor
  · rintro ⟨language, member, listed, isListed, small, rfl⟩
    exact ⟨member, listed, isListed, small⟩
  · rintro ⟨member, listed, isListed, small⟩
    exact ⟨language, member, listed, isListed, small, rfl⟩

/-! ### Settling claims -/

/-- Among entries with distinct names, looking a name up finds each entry. -/
theorem lookup_eq_some_iff_mem {entries : List (String × Language)}
    (distinct : (entries.map Prod.fst).Nodup) {name : String} {language : Language} :
    entries.lookup name = some language ↔ (name, language) ∈ entries := by
  rw [List.lookup_eq_some_iff]
  constructor
  · rintro ⟨front, back, rfl, _⟩
    exact List.mem_append_right _ (List.mem_cons_self ..)
  · intro member
    obtain ⟨front, back, rfl⟩ := List.append_of_mem member
    refine ⟨front, back, rfl, ?_⟩
    intro entry inFront
    rw [List.map_append, List.map_cons, List.nodup_middle, List.nodup_cons] at distinct
    rw [bne_iff_ne]
    intro same
    exact distinct.1 (List.mem_append_left _ (List.mem_map.mpr ⟨entry, inFront, same.symm⟩))

theorem lookup_eq_none_of_notMem {entries : List (String × Language)} {name : String}
    (free : name ∉ entries.map Prod.fst) : entries.lookup name = none := by
  rw [List.lookup_eq_none_iff]
  intro entry member
  rw [bne_iff_ne]
  intro same
  exact free (List.mem_map.mpr ⟨entry, member, same.symm⟩)

/-- Claims with names of their own are all added. -/
theorem settle_append {owners new : List (String × Language)}
    (distinct : ((owners ++ new).map Prod.fst).Nodup) (rest : List (String × Language)) :
    settle owners (new ++ rest) = settle (owners ++ new) rest := by
  induction new generalizing owners with
  | nil => rw [List.nil_append, List.append_nil]
  | cons entry new ih =>
      have free : entry.1 ∉ owners.map Prod.fst := by
        rw [List.map_append, List.map_cons, List.nodup_middle, List.nodup_cons] at distinct
        exact fun taken => distinct.1 (List.mem_append_left _ taken)
      rw [List.append_cons] at distinct ⊢
      rw [List.cons_append, settle, lookup_eq_none_of_notMem free]
      exact ih distinct

theorem ofLanguages_eq_ok (distinct : (smallAliases languages).Nodup) :
    ofLanguages languages = .ok { languages, owners := claims languages } := by
  rw [← map_fst_claims] at distinct
  have settled : settle [] (claims languages ++ []) = settle ([] ++ claims languages) [] :=
    settle_append (by rwa [List.nil_append]) []
  rw [List.append_nil, List.nil_append] at settled
  rw [ofLanguages, settled]
  rfl

theorem FirstRepeat.ofLanguages_eq_error {error : Error} (repeats : FirstRepeat languages error) :
    ofLanguages languages = .error error := by
  obtain ⟨inOrder, distinct, claimed⟩ := repeats
  rw [ofLanguages, inOrder, settle_append (by rwa [List.nil_append]), List.nil_append, settle,
    (lookup_eq_some_iff_mem distinct).mpr claimed]
  rfl

/-! ### Repeated aliases -/

/-- If an alias is repeated, the first repetition comes behind any claims still distinct. -/
theorem exists_firstRepeat_behind (repeated : ¬(smallAliases languages).Nodup)
    {earlier later : List (String × Language)} (inOrder : claims languages = earlier ++ later)
    (distinct : (earlier.map Prod.fst).Nodup) : ∃ error, FirstRepeat languages error := by
  induction later generalizing earlier with
  | nil =>
      rw [← map_fst_claims, inOrder, List.append_nil] at repeated
      exact absurd distinct repeated
  | cons entry later ih =>
      by_cases taken : entry.1 ∈ earlier.map Prod.fst
      · obtain ⟨⟨name, first⟩, claimed, rfl⟩ := List.mem_map.mp taken
        exact ⟨_, .intro inOrder distinct claimed⟩
      · rw [List.append_cons] at inOrder
        apply ih inOrder
        rw [List.map_append, List.map_singleton, List.nodup_middle, List.append_nil]
        exact List.nodup_cons.mpr ⟨taken, distinct⟩

theorem exists_firstRepeat (repeated : ¬(smallAliases languages).Nodup) :
    ∃ error, FirstRepeat languages error :=
  exists_firstRepeat_behind repeated (List.nil_append _).symm List.nodup_nil

theorem exists_ofLanguages_eq_ok_iff :
    (∃ registry, ofLanguages languages = .ok registry) ↔ (smallAliases languages).Nodup := by
  constructor
  · rintro ⟨registry, built⟩
    by_contra repeated
    obtain ⟨error, first⟩ := exists_firstRepeat repeated
    rw [first.ofLanguages_eq_error] at built
    cases built
  · intro distinct
    exact ⟨_, ofLanguages_eq_ok distinct⟩

theorem ofLanguages_eq_error_iff {error : Error} :
    ofLanguages languages = .error error ↔ FirstRepeat languages error := by
  constructor
  · intro refused
    have repeated : ¬(smallAliases languages).Nodup := by
      intro distinct
      rw [ofLanguages_eq_ok distinct] at refused
      cases refused
    obtain ⟨other, first⟩ := exists_firstRepeat repeated
    rw [first.ofLanguages_eq_error] at refused
    cases refused
    exact first
  · exact FirstRepeat.ofLanguages_eq_error

/-! ### Finding languages -/

theorem nodup_of_ofLanguages (built : ofLanguages languages = .ok registry) :
    (smallAliases languages).Nodup := exists_ofLanguages_eq_ok_iff.mp ⟨registry, built⟩

theorem eq_of_ofLanguages (built : ofLanguages languages = .ok registry) :
    registry = { languages, owners := claims languages } := by
  rw [ofLanguages_eq_ok (nodup_of_ofLanguages built)] at built
  cases built
  rfl

theorem resolve?_empty (registry : Registry) : registry.resolve? "" = none := rfl

/-- A name finds the language that lists it. -/
theorem resolve?_eq_some_iff (built : ofLanguages languages = .ok registry) {name : String}
    (named : name ≠ "") {language : Language} :
    registry.resolve? name = some language ↔ language ∈ languages ∧ language.ListsAlias name := by
  have distinct := nodup_of_ofLanguages built
  rw [← map_fst_claims] at distinct
  have notEmpty : ¬name.isEmpty = true := by
    rw [String.isEmpty_iff]
    exact named
  rw [resolve?, if_neg notEmpty, eq_of_ofLanguages built, lookup_eq_some_iff_mem distinct,
    mem_claims_iff, Language.ListsAlias]

/-- No two places of the list hold languages with a common alias. -/
theorem index_eq_of_lists (distinct : (smallAliases languages).Nodup) {name : String}
    {index other : Nat} (inBounds : index < languages.length)
    (otherInBounds : other < languages.length)
    (lists : languages[index].ListsAlias name) (otherLists : languages[other].ListsAlias name) :
    index = other := by
  obtain ⟨listed, member, small⟩ := lists
  obtain ⟨otherListed, otherMember, otherSmall⟩ := otherLists
  have apart := List.pairwise_iff_getElem.mp (List.nodup_flatMap.mp distinct).2
  have inFirst : Text.lower name ∈ languages[index].aliases.map Text.lower :=
    List.mem_map.mpr ⟨listed, member, small⟩
  have inSecond : Text.lower name ∈ languages[other].aliases.map Text.lower :=
    List.mem_map.mpr ⟨otherListed, otherMember, otherSmall⟩
  rcases Nat.lt_trichotomy index other with before | same | behind
  · exact absurd inSecond (apart index other inBounds otherInBounds before inFirst)
  · exact same
  · exact absurd inFirst (apart other index otherInBounds inBounds behind inSecond)

/-- Names that differ in the case of ASCII letters alone find the same language. -/
theorem resolve?_eq_of_toLower_eq (registry : Registry) {name other : String}
    (same : name.toList.map Char.toLower = other.toList.map Char.toLower) :
    registry.resolve? name = registry.resolve? other := by
  have isEmpty_iff : ∀ name : String,
      name.isEmpty = true ↔ name.toList.map Char.toLower = [] := by
    intro name
    rw [String.isEmpty_iff, List.map_eq_nil_iff, String.toList_eq_nil_iff]
  have sameEmpty : name.isEmpty = other.isEmpty := by
    rw [Bool.eq_iff_iff, isEmpty_iff, isEmpty_iff, same]
  rw [resolve?, resolve?, sameEmpty, Text.lower_eq_of_toLower_eq same]

/-- What can be found in a registry does not depend on the order of its languages. -/
theorem resolve?_eq_of_perm {other : List Language} {otherRegistry : Registry}
    (permuted : languages.Perm other) (built : ofLanguages languages = .ok registry)
    (otherBuilt : ofLanguages other = .ok otherRegistry) (name : String) :
    registry.resolve? name = otherRegistry.resolve? name := by
  by_cases named : name = ""
  · rw [named, resolve?_empty, resolve?_empty]
  · ext language
    rw [resolve?_eq_some_iff built named,
      resolve?_eq_some_iff otherBuilt named, permuted.mem_iff]

/-! ### What languages make -/

/-- What can be found in a registry of languages. -/
structure Finds (languages : List Language) (registry : Registry) : Prop where
  /-- The languages are offered in the order in which they were given. -/
  in_order : registry.languages = languages
  /-- A name finds the language at a place exactly if that language lists it. -/
  finds_iff : ∀ name : String, name ≠ "" → ∀ (index : Nat) (inBounds : index < languages.length),
    registry.resolve? name = some languages[index] ↔ languages[index].ListsAlias name
  /-- There is at most one place whose language lists a name. -/
  one_place : ∀ (name : String) (index other : Nat) (inBounds : index < languages.length)
    (otherInBounds : other < languages.length),
    languages[index].ListsAlias name → languages[other].ListsAlias name → index = other
  /-- The empty name finds nothing, even if a language lists it. -/
  empty_finds_none : registry.resolve? "" = none
  /-- The case of ASCII letters does not matter. -/
  ignores_ascii_case : ∀ name other : String,
    name.toList.map Char.toLower = other.toList.map Char.toLower →
      registry.resolve? name = registry.resolve? other

theorem finds_of_ofLanguages (built : ofLanguages languages = .ok registry) :
    Finds languages registry where
  in_order := by rw [eq_of_ofLanguages built]
  finds_iff name named index inBounds := by
    rw [resolve?_eq_some_iff built named]
    exact and_iff_right (List.getElem_mem inBounds)
  one_place name index other := index_eq_of_lists (nodup_of_ofLanguages built)
  empty_finds_none := resolve?_empty registry
  ignores_ascii_case name other := resolve?_eq_of_toLower_eq registry

/-- Languages make a registry exactly if no two of their aliases agree up to case, and the first
repetition is reported otherwise.  A name finds the language that lists it.  The order of the
languages matters neither for whether they make a registry nor for what is found in it. -/
theorem ofLanguages_finds (languages : List Language) :
    ((∃ registry, ofLanguages languages = .ok registry) ↔ (smallAliases languages).Nodup) ∧
    (∀ error, ofLanguages languages = .error error ↔ FirstRepeat languages error) ∧
    (∀ registry, ofLanguages languages = .ok registry → Finds languages registry) ∧
    (∀ other : List Language, languages.Perm other →
      ((∃ registry, ofLanguages languages = .ok registry) ↔
        ∃ registry, ofLanguages other = .ok registry) ∧
      ∀ registry otherRegistry, ofLanguages languages = .ok registry →
        ofLanguages other = .ok otherRegistry →
          ∀ name, registry.resolve? name = otherRegistry.resolve? name) := by
  refine ⟨exists_ofLanguages_eq_ok_iff, fun _ => ofLanguages_eq_error_iff,
    fun _ => finds_of_ofLanguages, ?_⟩
  intro other permuted
  constructor
  · rw [exists_ofLanguages_eq_ok_iff, exists_ofLanguages_eq_ok_iff]
    exact (permuted.flatMap_right _).nodup_iff
  · intro registry otherRegistry built otherBuilt name
    exact resolve?_eq_of_perm permuted built otherBuilt name

/-- Two languages in either order, one of which lists the empty name. -/
theorem ofLanguages_finds_in_either_order :
    let lua : Language := { name := "Lua", aliases := ["LUA", ""] }
    let perl : Language := { name := "Perl", aliases := ["pl"] }
    let registry : Registry := { languages := [lua, perl], owners := claims [lua, perl] }
    let otherRegistry : Registry := { languages := [perl, lua], owners := claims [perl, lua] }
    ofLanguages [lua, perl] = .ok registry ∧ Finds [lua, perl] registry ∧
      [lua, perl].Perm [perl, lua] ∧ ofLanguages [perl, lua] = .ok otherRegistry ∧
      registry.resolve? "Lua" = otherRegistry.resolve? "Lua" := by
  intro lua perl registry otherRegistry
  have built : ofLanguages [lua, perl] = .ok registry := rfl
  have otherBuilt : ofLanguages [perl, lua] = .ok otherRegistry := rfl
  have swapped : [lua, perl].Perm [perl, lua] := .swap perl lua []
  obtain ⟨_, _, finds, permuted⟩ := ofLanguages_finds [lua, perl]
  exact ⟨built, finds registry built, swapped, otherBuilt,
    (permuted [perl, lua] swapped).2 registry otherRegistry built otherBuilt "Lua"⟩

end Registry

end FencedCode
