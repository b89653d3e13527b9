import FencedCode.Execution.Run
import FencedCode.Proofs.Registry.Lookup

/-!
# Extending a registry

Languages that are added behind those of a registry take nothing away from it.  An alias that finds
a language goes on finding the same one, because a registry is refused rather than built with a
second claim to an alias.  When it is refused, the blame falls on a language that was added.
-/

namespace FencedCode

namespace Registry

variable {languages extra : List Language} {registry extended : Registry} {name : String}

/-! ### What goes on being found -/

/-- Two registries cannot be told apart by anything that is asked of them under a name. -/
structure Agree (registry other : Registry) (name : String) : Prop where
  language : other.resolve? name = registry.resolve? name
  supported : other.isSupported name = registry.isSupported name
  runnable : other.isRunnable name = registry.isRunnable name
  markup : ∀ text, other.highlight text name = registry.highlight text name
  tokens : ∀ text, (other.resolve? name).map (·.tokens text) =
    (registry.resolve? name).map (·.tokens text)
  entries : ∀ engine source,
    executeWith engine other source name = executeWith engine registry source name

theorem agree_of_resolve?_eq {other : Registry}
    (same : other.resolve? name = registry.resolve? name) : Agree registry other name where
  language := same
  supported := by rw [isSupported, isSupported, same]
  runnable := by rw [isRunnable, isRunnable, same]
  markup := by
    intro text
    rw [highlight, highlight, same]
  tokens := by
    intro text
    rw [same]
  entries := by
    intro engine source
    rw [executeWith, executeWith, resolveRunnable?, resolveRunnable?, same]

/-- A registry finds what another one finds, and further languages under further names only. -/
structure Extends (registry : Registry) (extra : List Language) (extended : Registry) :
    Prop where
  /-- A name that finds a language finds the same one as before. -/
  keeps : ∀ name language, registry.resolve? name = some language →
    extended.resolve? name = some language ∧ Agree registry extended name
  /-- Any other name finds the further language that lists it, and otherwise nothing. -/
  adds : ∀ name, name ≠ "" → registry.resolve? name = none → ∀ language,
    extended.resolve? name = some language ↔ language ∈ extra ∧ language.ListsAlias name

theorem extends_of_ofLanguages (built : ofLanguages languages = .ok registry)
    (extendedBuilt : ofLanguages (languages ++ extra) = .ok extended) :
    Extends registry extra extended where
  keeps := by
    intro name language found
    have named : name ≠ "" := by
      rintro rfl
      rw [resolve?_empty] at found
      cases found
    obtain ⟨member, lists⟩ := (resolve?_eq_some_iff built named).mp found
    have foundAgain : extended.resolve? name = some language :=
      (resolve?_eq_some_iff extendedBuilt named).mpr ⟨List.mem_append_left extra member, lists⟩
    exact ⟨foundAgain, agree_of_resolve?_eq (foundAgain.trans found.symm)⟩
  adds := by
    intro name named missing language
    rw [resolve?_eq_some_iff extendedBuilt named, List.mem_append]
    constructor
    · rintro ⟨old | new, lists⟩
      · have found := (resolve?_eq_some_iff built named).mpr ⟨old, lists⟩
        rw [missing] at found
        cases found
      · exact ⟨new, lists⟩
    · rintro ⟨new, lists⟩
      exact ⟨.inr new, lists⟩

/-! ### Collisions -/

/-- An alias of the further languages is, up to case, one of the languages before them or another
alias of the further languages. -/
def Collides (languages extra : List Language) : Prop :=
  ∃ before name after, smallAliases extra = before ++ name :: after ∧
    (name ∈ smallAliases languages ∨ name ∈ before ++ after)

theorem smallAliases_append (languages extra : List Language) :
    smallAliases (languages ++ extra) = smallAliases languages ++ smallAliases extra :=
  List.flatMap_append

theorem claims_append (languages extra : List Language) :
    claims (languages ++ extra) = claims languages ++ claims extra := List.flatMap_append

theorem nodup_iff_notMem_others {names : List String} :
    names.Nodup ↔ ∀ before name after, names = before ++ name :: after →
      name ∉ before ++ after := by
  constructor
  · rintro distinct before name after rfl
    rw [List.nodup_middle, List.nodup_cons] at distinct
    exact distinct.1
  · intro alone
    induction names with
    | nil => exact List.nodup_nil
    | cons name names ih =>
        rw [List.nodup_cons]
        constructor
        · exact alone [] name names rfl
        · apply ih
          intro before other after split isOther
          apply alone (name :: before) other after
          · rw [split, List.cons_append]
          · exact List.mem_cons_of_mem name isOther

/-- Behind languages that make a registry, further ones are refused exactly for a collision. -/
theorem exists_error_iff_collides (distinct : (smallAliases languages).Nodup) :
    (∃ error, ofLanguages (languages ++ extra) = .error error) ↔ Collides languages extra := by
  have repeated_iff : Collides languages extra ↔ ¬(smallAliases (languages ++ extra)).Nodup := by
    rw [smallAliases_append, List.nodup_append',
      @nodup_iff_notMem_others (smallAliases extra)]
    constructor
    · rintro ⟨before, name, after, split, old | other⟩ ⟨_, alone, disjoint⟩
      · apply disjoint old
        rw [split]
        exact List.mem_append_right before (List.mem_cons_self ..)
      · exact alone before name after split other
    · intro repeated
      by_contra noCollision
      refine repeated ⟨distinct, ?_, ?_⟩
      · intro before name after split other
        exact noCollision ⟨before, name, after, split, .inr other⟩
      · intro name old new
        obtain ⟨before, after, split⟩ := List.append_of_mem new
        exact noCollision ⟨before, name, after, split, .inl old⟩
  rw [repeated_iff]
  constructor
  · rintro ⟨error, refused⟩ allDistinct
    rw [ofLanguages_eq_ok allDistinct] at refused
    cases refused
  · intro repeated
    obtain ⟨error, first⟩ := exists_firstRepeat repeated
    exact ⟨error, first.ofLanguages_eq_error⟩

/-- The first alias of further languages that repeats an earlier one up to case, reported with the
language that claimed it before and the further language that repeats it. -/
inductive Blames (languages extra : List Language) : Error → Prop where
  | intro {earlier later : List (String × Language)} {name : String} {first second : Language}
      (inOrder : claims extra = earlier ++ (name, second) :: later)
      (claimed : (name, first) ∈ claims languages ++ earlier) (added : second ∈ extra) :
      Blames languages extra (.duplicateAlias name first.name second.name)

/-- Languages that make a registry hold no repetition, so the first one comes behind them. -/
theorem blames_of_ofLanguages (distinct : (smallAliases languages).Nodup) {error : Error}
    (refused : ofLanguages (languages ++ extra) = .error error) :
    Blames languages extra error := by
  have added : ∀ {earlier later : List (String × Language)} {name : String} {second : Language},
      claims extra = earlier ++ (name, second) :: later → second ∈ extra := by
    intro earlier later name second inOrder
    have member : (name, second) ∈ claims extra := by
      rw [inOrder]
      exact List.mem_append_right earlier (List.mem_cons_self ..)
    exact (mem_claims_iff.mp member).1
  rcases ofLanguages_eq_error_iff.mp refused with ⟨inOrder, earlierDistinct, claimed⟩
  rw [claims_append, List.append_eq_append_iff] at inOrder
  rcases inOrder with ⟨front, rfl, extraOrder⟩ | ⟨back, order, extraOrder⟩
  · exact .intro extraOrder claimed (added extraOrder)
  · cases back with
    | nil =>
        rw [List.append_nil] at order
        rw [List.nil_append] at extraOrder
        have front : claims extra = [] ++ _ := extraOrder.symm
        refine .intro front ?_ (added front)
        rw [order, List.append_nil]
        exact claimed
    | cons entry back =>
        cases extraOrder
        rw [← map_fst_claims, order, List.map_append, List.map_cons, List.nodup_middle,
          List.nodup_cons] at distinct
        have repeated := List.mem_map_of_mem (f := Prod.fst) claimed
        exact absurd (List.mem_append_left _ repeated) distinct.1

/-! ### The built-in languages -/

theorem nodup_builtin : (smallAliases builtinLanguages).Nodup := by decide +kernel

theorem ofLanguages_builtinLanguages : ofLanguages builtinLanguages = .ok builtin :=
  ofLanguages_eq_ok nodup_builtin

/-- Languages added to the built-in ones leave every alias of these as it was and answer to their
own aliases only.  They are refused exactly if one of their aliases collides with a built-in alias
or another one of theirs, and then one of them is named as the second to claim it. -/
theorem builtinWith_extends (extra : List Language) :
    (∀ extended, builtinWith extra = .ok extended → Extends builtin extra extended) ∧
    ((∃ error, builtinWith extra = .error error) ↔ Collides builtinLanguages extra) ∧
    (∀ error, builtinWith extra = .error error → Blames builtinLanguages extra error) := by
  refine ⟨?_, exists_error_iff_collides nodup_builtin, ?_⟩
  · intro extended built
    exact extends_of_ofLanguages ofLanguages_builtinLanguages built
  · intro error refused
    exact blames_of_ofLanguages nodup_builtin refused

/-- A language that is accepted although it lists the empty name, and one that is refused for an
alias of JavaScript in capitals. -/
theorem builtinWith_extends_by_one :
    let lua : Language := { name := "Lua", aliases := ["LUA", ""] }
    let other : Language := { name := "Other", aliases := ["other", "JS"] }
    let languages := builtinLanguages ++ [lua]
    let extended : Registry := { languages, owners := claims languages }
    let error := Error.duplicateAlias "js" "JavaScript" "Other"
    builtinWith [lua] = .ok extended ∧ Extends builtin [lua] extended ∧
      builtinWith [other] = .error error ∧ Blames builtinLanguages [other] error := by
  intro lua other languages extended error
  have built : builtinWith [lua] = .ok extended := ofLanguages_eq_ok (by decide +kernel)
  have refused : builtinWith [other] = .error error := rfl
  exact ⟨built, (builtinWith_extends [lua]).1 extended built,
    refused, (builtinWith_extends [other]).2.2 error refused⟩

end Registry

end FencedCode
