import FencedCode.Script.Store

/-!
# Properties of objects

What is put under a key is found under it, what is taken away is not, and other keys are not
concerned.  The keys that are listed are those with a property, and none is listed twice.

Indices are kept in a tree and all other keys in a list, so what is said of a key is shown for the
one and for the other.  A list of entries stands for the array that holds them.
-/

namespace FencedCode.Script

open Text

variable {key other : PropertyKey} {property : Property} {properties : Properties}

/-! ### Keys -/

namespace PropertyKey

/-- What tells a key from others: a symbol is told by its number alone. -/
def identity : PropertyKey → (Nat ⊕ Units) ⊕ (Nat ⊕ String)
  | .index place => .inl (.inl place)
  | .text units => .inl (.inr units)
  | .symbol key => .inr (.inl key.id)
  | .hidden name => .inr (.inr name)

theorem beq_iff_identity_eq : (key == other) = true ↔ key.identity = other.identity := by
  cases key <;> cases other <;> simp [identity, BEq.beq, instBEqPropertyKey.beq]

instance : EquivBEq PropertyKey where
  rfl := beq_iff_identity_eq.mpr rfl
  symm same := beq_iff_identity_eq.mpr (beq_iff_identity_eq.mp same).symm
  trans first second :=
    beq_iff_identity_eq.mpr ((beq_iff_identity_eq.mp first).trans (beq_iff_identity_eq.mp second))

/-- The key is no index. -/
def Named (key : PropertyKey) : Prop := ∀ place, key ≠ .index place

theorem index_or_named (key : PropertyKey) : (∃ place, key = .index place) ∨ key.Named := by
  cases key with
  | index place => exact .inl ⟨place, rfl⟩
  | text | symbol | hidden =>
    refine .inr fun _ same => ?_
    cases same

theorem Named.beq_index (named : key.Named) (place : Nat) : (key == .index place) = false := by
  cases key with
  | index other => exact absurd rfl (named other)
  | text | symbol | hidden => rfl

theorem index_beq_index {left right : Nat} :
    (PropertyKey.index left == .index right) = (left == right) := rfl

theorem isText_congr (same : key == other) : key.isText = other.isText := by
  rw [beq_iff_identity_eq] at same
  cases key <;> cases other <;> first | rfl | cases same

theorem isSymbol_congr (same : key == other) : key.isSymbol = other.isSymbol := by
  rw [beq_iff_identity_eq] at same
  cases key <;> cases other <;> first | rfl | cases same

theorem text_beq_symbol (isText : key.isText) (isSymbol : other.isSymbol) :
    (key == other) = false := by
  cases other with
  | index | text | hidden => cases isSymbol
  | symbol symbol =>
    rw [Bool.eq_false_iff]
    intro same
    rw [isText_congr same] at isText
    cases isText

end PropertyKey

/-! ### Entries of a list -/

namespace Properties

/-- An entry is replaced where it is, and put last if it is not there. -/
def putEntry (entries : List (PropertyKey × Property)) (key : PropertyKey) (property : Property) :
    List (PropertyKey × Property) :=
  match entries with
  | [] => [(key, property)]
  | entry :: rest =>
    if entry.1 == key then (key, property) :: rest else entry :: putEntry rest key property

theorem find?_putEntry (entries : List (PropertyKey × Property)) :
    (putEntry entries key property).find? (·.1 == other) =
      if key == other then some (key, property) else entries.find? (·.1 == other) := by
  induction entries with
  | nil =>
    rw [putEntry, List.find?_cons]
    cases key == other <;> rfl
  | cons entry rest ih =>
    rw [putEntry]
    cases isKey : entry.1 == key with
    | true =>
      rw [if_pos rfl, List.find?_cons, List.find?_cons, BEq.congr_left isKey]
      cases key == other <;> rfl
    | false =>
      rw [if_neg Bool.false_ne_true, List.find?_cons, ih, List.find?_cons]
      cases isOther : entry.1 == other with
      | false => rfl
      | true =>
        have apart : ¬key == other := fun same =>
          Bool.false_ne_true (isKey.symm.trans (BEq.trans isOther (BEq.symm same)))
        exact (if_neg apart).symm

theorem putEntry_eq (entries : List (PropertyKey × Property)) :
    putEntry entries key property = (entries.findIdx? (·.1 == key)).elim
      (entries ++ [(key, property)]) fun place => entries.set place (key, property) := by
  induction entries with
  | nil => rfl
  | cons entry rest ih =>
    rw [putEntry, List.findIdx?_cons]
    cases entry.1 == key with
    | true => rfl
    | false =>
      rw [if_neg Bool.false_ne_true, if_neg Bool.false_ne_true, ih]
      cases rest.findIdx? (·.1 == key) <;> rfl

theorem toList_named_put (named : key.Named) :
    (properties.put key property).named.toList =
      putEntry properties.named.toList key property := by
  cases key with
  | index place => exact absurd rfl (named place)
  | text | symbol | hidden =>
    rw [put, putEntry_eq, ← List.findIdx?_toArray, Array.toArray_toList]
    · cases properties.named.findIdx? _ with
      | some place => exact Array.toList_setIfInBounds
      | none => exact Array.toList_push
    · exact named

theorem find?_eraseEntry (entries : List (PropertyKey × Property)) :
    (entries.filter (·.1 != key)).find? (·.1 == other) =
      if key == other then none else entries.find? (·.1 == other) := by
  rw [List.find?_filter]
  cases same : key == other with
  | true =>
    rw [if_pos rfl, List.find?_eq_none]
    intro entry _
    rw [bne, BEq.congr_right same]
    cases entry.1 == other <;> decide
  | false =>
    rw [if_neg Bool.false_ne_true]
    congr 1
    funext entry
    cases isOther : entry.1 == other with
    | false => exact decide_eq_false fun both => Bool.false_ne_true both.2
    | true =>
      rw [bne, BEq.congr_left isOther, BEq.comm, same]
      rfl

theorem toList_named_erase (named : key.Named) :
    (properties.erase key).named.toList = properties.named.toList.filter (·.1 != key) := by
  cases key with
  | index place => exact absurd rfl (named place)
  | text | symbol | hidden =>
    rw [erase]
    · exact Array.toList_filter
    · exact named

/-! ### Look-up -/

theorem get?_of_named (named : key.Named) :
    properties.get? key = (properties.named.toList.find? (·.1 == key)).map (·.2) := by
  cases key with
  | index place => exact absurd rfl (named place)
  | text | symbol | hidden =>
    rw [get?, Array.find?_toList]
    exact named

theorem indexed_put (named : key.Named) :
    (properties.put key property).indexed = properties.indexed := by
  cases key with
  | index place => exact absurd rfl (named place)
  | text | symbol | hidden =>
    rw [put]
    · split <;> rfl
    · exact named

theorem indexed_erase (named : key.Named) :
    (properties.erase key).indexed = properties.indexed := by
  cases key with
  | index place => exact absurd rfl (named place)
  | text | symbol | hidden =>
    rw [erase]
    exact named

/-- What is put under a key is found under it, and nothing else is found that was not there. -/
theorem get?_put (properties : Properties) :
    (properties.put key property).get? other =
      if key == other then some property else properties.get? other := by
  rcases key.index_or_named with ⟨place, rfl⟩ | named
  · rcases other.index_or_named with ⟨otherPlace, rfl⟩ | otherNamed
    · rw [put, get?, Std.TreeMap.get?_eq_getElem?, Std.TreeMap.getElem?_insert]
      simp only [Nat.compare_eq_eq, PropertyKey.index_beq_index, beq_iff_eq]
      rfl
    · rw [get?_of_named otherNamed, get?_of_named otherNamed, BEq.comm, otherNamed.beq_index]
      rfl
  · rcases other.index_or_named with ⟨place, rfl⟩ | otherNamed
    · rw [get?, get?, indexed_put named, named.beq_index, if_neg Bool.false_ne_true]
    · rw [get?_of_named otherNamed, get?_of_named otherNamed, toList_named_put named,
        find?_putEntry]
      split <;> rfl

/-- What is taken away is not found, and everything else still is. -/
theorem get?_erase (properties : Properties) :
    (properties.erase key).get? other =
      if key == other then none else properties.get? other := by
  rcases key.index_or_named with ⟨place, rfl⟩ | named
  · rcases other.index_or_named with ⟨otherPlace, rfl⟩ | otherNamed
    · rw [erase, get?, Std.TreeMap.get?_eq_getElem?, Std.TreeMap.getElem?_erase]
      simp only [Nat.compare_eq_eq, PropertyKey.index_beq_index, beq_iff_eq]
      rfl
    · rw [get?_of_named otherNamed, get?_of_named otherNamed, BEq.comm, otherNamed.beq_index]
      rfl
  · rcases other.index_or_named with ⟨place, rfl⟩ | otherNamed
    · rw [get?, get?, indexed_erase named, named.beq_index, if_neg Bool.false_ne_true]
    · rw [get?_of_named otherNamed, get?_of_named otherNamed, toList_named_erase named,
        find?_eraseEntry]
      split <;> rfl

/-! ### Lists of keys -/

/-- Keys of which none is given twice. -/
def Apart (keys : List PropertyKey) : Prop :=
  keys.Pairwise fun earlier later => (earlier == later) = false

/-- The names of properties, without the indices. -/
def names (properties : Properties) : List PropertyKey := properties.named.toList.map (·.1)

theorem mem_map_putEntry {entries : List (PropertyKey × Property)}
    (member : other ∈ (putEntry entries key property).map (·.1)) :
    other = key ∨ other ∈ entries.map (·.1) := by
  induction entries with
  | nil => exact .inl (List.mem_singleton.mp member)
  | cons entry rest ih =>
    rw [putEntry] at member
    split at member
    · exact (List.mem_cons.mp member).imp_right (List.mem_cons_of_mem _)
    · rcases List.mem_cons.mp member with first | later
      · exact .inr (List.mem_cons.mpr (.inl first))
      · exact (ih later).imp_right (List.mem_cons_of_mem _)

theorem apart_map_putEntry {entries : List (PropertyKey × Property)}
    (apart : Apart (entries.map (·.1))) : Apart ((putEntry entries key property).map (·.1)) := by
  induction entries with
  | nil => exact List.pairwise_singleton ..
  | cons entry rest ih =>
    obtain ⟨first, others⟩ := List.pairwise_cons.mp apart
    rw [putEntry]
    split
    · next isKey =>
      refine .cons (fun later member => ?_) others
      rw [← BEq.congr_left isKey]
      exact first later member
    · next notKey =>
      refine .cons (fun later member => ?_) (ih others)
      rcases mem_map_putEntry member with rfl | member
      · exact Bool.eq_false_iff.mpr notKey
      · exact first later member

theorem mem_keys_iff : key ∈ properties.keys ↔
    (∃ place ∈ properties.indexed, .index place = key) ∨
      key ∈ properties.names ∧ (key.isText ∨ key.isSymbol) := by
  rw [keys, List.mem_append, List.mem_append, List.mem_filter, List.mem_filter, List.mem_map,
    or_assoc, ← and_or_left]
  simp only [Std.TreeMap.mem_keys]
  rfl

/-- The names are no indices, and none is given twice. -/
structure WellFormed (properties : Properties) : Prop where
  named : ∀ key ∈ properties.names, key.Named
  apart : Apart properties.names

namespace WellFormed

theorem empty : WellFormed {} := ⟨List.forall_mem_nil _, .nil⟩

theorem put (wellFormed : WellFormed properties) (key : PropertyKey) (property : Property) :
    WellFormed (properties.put key property) := by
  rcases key.index_or_named with ⟨place, rfl⟩ | named
  · exact ⟨wellFormed.named, wellFormed.apart⟩
  · have names : (properties.put key property).names =
        (putEntry properties.named.toList key property).map (·.1) := by
      rw [Properties.names, toList_named_put named]
    refine ⟨fun other member => ?_, ?_⟩
    · rw [names] at member
      rcases mem_map_putEntry member with rfl | member
      · exact named
      · exact wellFormed.named other member
    · rw [names]
      exact apart_map_putEntry wellFormed.apart

theorem erase (wellFormed : WellFormed properties) (key : PropertyKey) :
    WellFormed (properties.erase key) := by
  rcases key.index_or_named with ⟨place, rfl⟩ | named
  · exact ⟨wellFormed.named, wellFormed.apart⟩
  · have fewer : (properties.erase key).names.Sublist properties.names := by
      rw [names, toList_named_erase named]
      exact List.filter_sublist.map _
    exact ⟨fun other member => wellFormed.named other (fewer.subset member),
      wellFormed.apart.sublist fewer⟩

/-- No key is listed twice. -/
theorem apart_keys (wellFormed : WellFormed properties) : Apart properties.keys := by
  have keys : properties.keys = properties.indexed.keys.map .index ++
      properties.names.filter (·.isText) ++ properties.names.filter (·.isSymbol) := rfl
  rw [keys, Apart, List.append_assoc, List.pairwise_append, List.pairwise_append]
  refine ⟨?_, ⟨wellFormed.apart.filter _, wellFormed.apart.filter _, ?_⟩, ?_⟩
  · rw [List.pairwise_map]
    refine Std.TreeMap.nodup_keys.imp fun apart => ?_
    rw [PropertyKey.index_beq_index]
    exact beq_false_of_ne apart
  · intro text isText symbol isSymbol
    exact PropertyKey.text_beq_symbol (List.mem_filter.mp isText).2 (List.mem_filter.mp isSymbol).2
  · intro index isIndex name isName
    obtain ⟨place, _, rfl⟩ := List.mem_map.mp isIndex
    rw [BEq.comm]
    refine (wellFormed.named name ?_).beq_index place
    rcases List.mem_append.mp isName with member | member
    · exact (List.mem_filter.mp member).1
    · exact (List.mem_filter.mp member).1

/-- Just those keys are listed under which there is a property, if a script can see them. -/
theorem exists_mem_keys_iff (wellFormed : WellFormed properties)
    (visible : key.isText ∨ key.isSymbol) :
    (∃ listed ∈ properties.keys, listed == key) ↔ (properties.get? key).isSome := by
  simp only [mem_keys_iff]
  rcases key.index_or_named with ⟨place, rfl⟩ | named
  · rw [get?, Std.TreeMap.get?_eq_getElem?, Std.TreeMap.isSome_getElem?_iff_mem]
    constructor
    · rintro ⟨listed, ⟨place, member, rfl⟩ | ⟨member, _⟩, same⟩
      · rw [PropertyKey.index_beq_index, beq_iff_eq] at same
        exact same ▸ member
      · rw [(wellFormed.named listed member).beq_index] at same
        cases same
    · intro member
      exact ⟨.index place, .inl ⟨place, member, rfl⟩, BEq.rfl⟩
  · rw [get?_of_named named, Option.isSome_map, List.find?_isSome]
    constructor
    · rintro ⟨listed, ⟨place, _, rfl⟩ | ⟨member, _⟩, same⟩
      · rw [BEq.comm, named.beq_index] at same
        cases same
      · obtain ⟨entry, isEntry, rfl⟩ := List.mem_map.mp member
        exact ⟨entry, isEntry, same⟩
    · rintro ⟨entry, isEntry, same⟩
      refine ⟨entry.1, .inr ⟨List.mem_map_of_mem isEntry, ?_⟩, same⟩
      rwa [PropertyKey.isText_congr same, PropertyKey.isSymbol_congr same]

end WellFormed

end Properties

end FencedCode.Script
