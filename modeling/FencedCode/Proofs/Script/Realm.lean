import FencedCode.Proofs.Script.Inspection
import FencedCode.Script.Realm
import Mathlib.Data.List.Forall2

/-!
# The object that a script gets as its console

The console is a new object.  It has the methods of the console under their names, in order, each of
them a built-in function of its own, and nothing else.  The methods are defined one after the other,
and the invariant says which of them the object has so far.
-/

namespace FencedCode.Script

/-- An entry of an object that is a method of the console under its name. -/
def IsConsoleMethod (machine : Machine) (method : String × ConsoleMethod)
    (entry : PropertyKey × Property) : Prop :=
  entry.1 = .ofText method.1 ∧ ∃ function native,
    entry.2 = .unlisted (.object function) ∧ machine.objects[function]? = some native ∧
      native.kind = .native (.console method.2)

/-- An object has some methods of the console and no other properties. -/
def HasMethods (machine : Machine) (ref : Ref) (methods : List (String × ConsoleMethod)) : Prop :=
  ∃ named : Array (PropertyKey × Property),
    machine.objects[ref]? =
      some { parent := some Intrinsic.objectPrototype, properties := { named } } ∧
    List.Forall₂ (IsConsoleMethod machine) methods named.toList

/-- A key that an object does not have yet is put behind the others. -/
theorem Properties.put_of_new {properties : Properties} {key : PropertyKey} (property : Property)
    (named : ∀ place, key ≠ .index place)
    (new : ∀ entry ∈ properties.named.toList, (entry.1 == key) = false) :
    properties.put key property =
      { properties with named := properties.named.push (key, property) } := by
  have missing : properties.named.findIdx? (·.1 == key) = none := by
    rw [Array.findIdx?_eq_none_iff]
    intro entry member
    exact new entry (Array.mem_toList_iff.mpr member)
  cases key with
  | index place => exact absurd rfl (named place)
  | text | symbol | hidden =>
      rw [put, missing]
      exact named

namespace Run

variable {semantics : Semantics} {before : Machine} {ref : Ref}
variable {methods : List (String × ConsoleMethod)} {name : String}

/-- Where a new object is made and an old one changed, all others stay as they are. -/
theorem getElem?_modify_push {objects : Array Object} {place : Ref} {object : Object}
    (update : Object → Object) (native : Object) (isObject : objects[place]? = some object) :
    ((objects.push native).modify ref update)[place]? =
      some (if ref = place then update object else object) := by
  have within : place < objects.size := (Array.getElem?_eq_some_iff.mp isObject).1
  rw [Array.getElem?_modify, Array.getElem?_push, if_neg (Nat.ne_of_lt within), isObject]
  split <;> rfl

/-- One more method is defined under a name that is new. -/
theorem exists_defineFunction (has : HasMethods before ref methods) (method : ConsoleMethod)
    (named : PropertyKey.indexOf? name = none)
    (new : ∀ earlier ∈ methods, (PropertyKey.ofText earlier.1 == .ofText name) = false) :
    ∃ after, defineFunction ref name (.console method) name 0 semantics before = .ok () after ∧
      HasMethods after ref (methods ++ [(name, method)]) ∧ after.calls = before.calls := by
  obtain ⟨entries, isObject, areMethods⟩ := has
  have noIndex : ∀ place, PropertyKey.ofText name ≠ .index place := by
    rw [PropertyKey.ofText, named]
    exact nofun
  have newEntry : ∀ entry ∈ entries.toList, (entry.1 == PropertyKey.ofText name) = false := by
    generalize entries.toList = listed at areMethods
    induction areMethods with
    | nil => exact List.forall_mem_nil _
    | cons first _ ih =>
        obtain ⟨here, others⟩ := List.forall_mem_cons.mp new
        exact List.forall_mem_cons.mpr ⟨first.1 ▸ here, ih others⟩
  refine ⟨_, rfl, ?_, rfl⟩
  refine ⟨entries.push (.ofText name, .unlisted (.object before.objects.size)), ?_, ?_⟩
  · refine (getElem?_modify_push _ _ isObject).trans ?_
    rw [if_pos rfl, Properties.put_of_new _ noIndex newEntry]
  · rw [Array.toList_push]
    refine List.rel_append (areMethods.imp ?_) (.cons ⟨rfl, ?_⟩ .nil)
    · rintro earlier entry ⟨isKey, function, native, isFunction, isNative, isMethod⟩
      refine ⟨isKey, function, native, isFunction, ?_, isMethod⟩
      refine (getElem?_modify_push _ _ isNative).trans ?_
      rw [if_neg]
      -- What is changed is the object itself, and that is no function.
      rintro rfl
      rw [isNative, Option.some.injEq] at isObject
      rw [isObject] at isMethod
      cases isMethod
    · have within : ref ≠ before.objects.size :=
        Nat.ne_of_lt (Array.getElem?_eq_some_iff.mp isObject).1
      have isNew (native : Object) (update : Object → Object) :
          ((before.objects.push native).modify ref update)[before.objects.size]? = some native := by
        rw [Array.getElem?_modify, if_neg within, Array.getElem?_push, if_pos rfl]
      exact ⟨before.objects.size, _, rfl, isNew _ _, rfl⟩

/-- The methods of the console are defined in order. -/
theorem exists_forM_defineFunction (has : HasMethods before ref methods)
    (rest : List (String × ConsoleMethod))
    (named : ∀ method ∈ rest, PropertyKey.indexOf? method.1 = none)
    (distinct : (methods ++ rest).Pairwise
      fun earlier later => (PropertyKey.ofText earlier.1 == .ofText later.1) = false) :
    ∃ after, (rest.forM fun (name, method) =>
        defineFunction ref name (.console method) name 0 : Run Unit) semantics before =
          .ok () after ∧
      HasMethods after ref (methods ++ rest) ∧ after.calls = before.calls := by
  induction rest generalizing before methods with
  | nil => exact ⟨before, rfl, (List.append_nil methods).symm ▸ has, rfl⟩
  | cons method rest ih =>
      obtain ⟨name, method⟩ := method
      obtain ⟨namedHere, namedRest⟩ := List.forall_mem_cons.mp named
      obtain ⟨_, _, apart⟩ := List.pairwise_append.mp distinct
      have new : ∀ earlier ∈ methods, (PropertyKey.ofText earlier.1 == .ofText name) = false :=
        fun earlier member => apart earlier member (name, method) (List.mem_cons_self ..)
      obtain ⟨middle, defined, hasMore, sameCalls⟩ :=
        exists_defineFunction has method namedHere new
      have all : methods ++ (name, method) :: rest = methods ++ [(name, method)] ++ rest :=
        List.append_cons ..
      rw [all] at distinct ⊢
      obtain ⟨after, others, hasAll, sameAgain⟩ := ih hasMore namedRest distinct
      exact ⟨after, (bind_eq_of_ok defined).trans others, hasAll, sameAgain.trans sameCalls⟩

/-- The console is made with its methods and nothing else, and no call is made for that. -/
theorem exists_makeConsole (semantics : Semantics) (before : Machine) :
    ∃ ref after, makeConsole semantics before = .ok (.object ref) after ∧
      HasMethods after ref console ∧ after.calls = before.calls := by
  have named : ∀ method ∈ console, PropertyKey.indexOf? method.1 = none := by decide +kernel
  have distinct : console.Pairwise
      fun earlier later => (PropertyKey.ofText earlier.1 == .ofText later.1) = false := by
    decide +kernel
  have made : makeObject semantics before = .ok before.objects.size
      { before with objects := before.objects.push { parent := some Intrinsic.objectPrototype } } :=
    rfl
  have empty : HasMethods
      { before with objects := before.objects.push { parent := some Intrinsic.objectPrototype } }
      before.objects.size [] := by
    refine ⟨#[], ?_, .nil⟩
    dsimp only
    rw [Array.getElem?_push, if_pos rfl]
  obtain ⟨after, defined, has, sameCalls⟩ := exists_forM_defineFunction empty console named distinct
  refine ⟨before.objects.size, after, ?_, has, sameCalls⟩
  rw [makeConsole, bind_eq_of_ok made, bind_eq_of_ok defined]
  rfl

end Run

end FencedCode.Script
