import FencedCode.Proofs.Script.Console
import FencedCode.Proofs.Script.Realm
import FencedCode.Script.Interpreter

/-!
# What a run reports

A script gets at the console through the object that it is handed: it looks up a name and calls what
it finds.  Under each name of a method of the console it finds a function, and each time it calls
the function there is one more call of the console.

However a script ends, its run comes to an end that is reported.  What the script throws is
described, and describing it throws nothing.
-/

namespace FencedCode.Script

open Text

/-! ### Methods of the console -/

section Methods

variable {machine : Machine} {ref : Ref} {name : String}
variable {methods : List (String × ConsoleMethod)} {method : String × ConsoleMethod}

/-- The first entry for a name is that of the first method of that name. -/
theorem exists_find?_entry {entries : List (PropertyKey × Property)}
    (areMethods : List.Forall₂ (IsConsoleMethod machine) methods entries)
    (found : methods.find? (fun other => PropertyKey.ofText other.1 == .ofText name) =
      some method) :
    ∃ entry, entries.find? (·.1 == .ofText name) = some entry ∧
      IsConsoleMethod machine method entry := by
  induction areMethods with
  | nil => cases found
  | cons first _ ih =>
      rw [List.find?_cons] at found
      rw [List.find?_cons, first.1]
      split at found
      · cases found
        exact ⟨_, rfl, first⟩
      · exact ih found

/-- The console has a function for each of its methods, which is found under the name of the
method. -/
theorem exists_getMember_console (has : HasMethods machine ref console)
    (member : method ∈ console) (semantics : Semantics) :
    ∃ function native,
      Run.getMember (.object ref) (.ofText method.1) semantics machine =
        .ok (.object function) machine ∧
      machine.objects[function]? = some native ∧ native.kind = .native (.console method.2) := by
  obtain ⟨named, isObject, areMethods⟩ := has
  have listed : ∀ method ∈ console, PropertyKey.indexOf? method.1 = none ∧
      console.find? (fun other => PropertyKey.ofText other.1 == .ofText method.1) =
        some method := by
    decide +kernel
  obtain ⟨noIndex, first⟩ := listed method member
  obtain ⟨entry, isFirst, _, function, native, isFunction, isNative, isMethod⟩ :=
    exists_find?_entry areMethods first
  refine ⟨function, native, ?_, isNative, isMethod⟩
  have isText : PropertyKey.ofText method.1 = .text method.1 := by rw [PropertyKey.ofText, noIndex]
  have property : Run.ownOf?
      { parent := some Intrinsic.objectPrototype, properties := { named } }
      (.text method.1) = some (.unlisted (.object function)) := by
    rw [isText, Array.find?_toList] at isFirst
    rw [Run.ownOf?, Properties.get?, isFirst, ← isFunction]
    · rfl
    · intro _ same
      cases same
  have fetched : Run.fetch ref semantics machine =
      .ok { parent := some Intrinsic.objectPrototype, properties := { named } } machine := by
    change EStateM.Result.ok (machine.objects.getD ref default) machine = _
    rw [Array.getD_eq_getD_getElem?, isObject, Option.getD_some]
  change Run.getFrom (machine.objects.size + 63 + 1) ref _ _ semantics machine = _
  rw [Run.getFrom, Run.bind_eq_of_ok fetched, isText]
  dsimp only
  rw [property]
  rfl

/-- To call what is found under the name of a method is to call the method. -/
theorem callMethod_console (has : HasMethods machine ref console) (member : method ∈ console)
    (values : List Value) (depth : Nat) :
    Run.callMethod (.object ref) (.ofText method.1) values (Semantics.upTo (depth + 1)) machine =
      Run.callNative (.console method.2) (.object ref) values (Semantics.upTo depth) machine := by
  obtain ⟨function, native, found, isNative, isMethod⟩ :=
    exists_getMember_console has member (Semantics.upTo (depth + 1))
  have kind : Run.kindOf function (Semantics.upTo depth) machine =
      .ok (.native (.console method.2)) machine := by
    change EStateM.Result.ok (machine.objects.getD function default).kind machine = _
    rw [Array.getD_eq_getD_getElem?, isNative, Option.getD_some, isMethod]
  rw [Run.callMethod, Run.bind_eq_of_ok found]
  -- The call enters the depth below.
  change Run.callValue (.object function) (.object ref) values (Semantics.upTo depth) machine = _
  rw [Run.callValue, Run.bind_eq_of_ok kind]

/-- A script that calls the method of a level makes one call of the console, with an argument for
each value. -/
theorem exists_callMethod_level (has : HasMethods machine ref console) (level : LogLevel)
    (values : List Value) (depth : Nat) :
    ∃ arguments after,
      Run.callMethod (.object ref) (.ofText level.name) values (Semantics.upTo (depth + 1))
        machine = .ok .undefined after ∧
      after.calls = .call level.name arguments :: machine.calls ∧
      arguments.length = values.length := by
  have member : (level.name, ConsoleMethod.write level) ∈ console := by cases level <;> decide
  rw [callMethod_console has member]
  exact Run.callNative_write level (.object ref) values (Semantics.upTo depth) machine

/-- A script that clears the console makes one call of it, whatever it hands over. -/
theorem callMethod_clear (has : HasMethods machine ref console) (values : List Value)
    (depth : Nat) :
    Run.callMethod (.object ref) (.ofText "clear") values (Semantics.upTo (depth + 1)) machine =
      .ok .undefined { machine with calls := .call "clear" [] :: machine.calls } := by
  have member : ("clear", ConsoleMethod.clear) ∈ console := by decide
  rw [callMethod_console has member]
  exact Run.callNative_clear (.object ref) values (Semantics.upTo depth) machine

end Methods

/-! ### Ends -/

namespace Run

theorem alwaysReturns_describe (value : Value) : AlwaysReturns (describe value) :=
  alwaysReturns_tryCatch _ fun _ => (onlyLooks_inspect value).keeps

/-- Whatever the script does, and however deeply it can be nested, its run is reported. -/
theorem alwaysReturns_runReporting : AlwaysReturns runReporting := by
  refine alwaysReturns_tryCatch _ fun interrupt => ?_
  cases interrupt with
  | thrown value => exact (alwaysReturns_describe value).bind fun _ => .pure _
  | waiting => exact .pure _
  | exhausted => exact .pure _

end Run

/-- Of every script it is known how its run has ended and which calls it has made up to there. -/
theorem exists_behaviourOf_eq (semantics : Semantics) (code : Code) :
    ∃ ending machine, Run.runReporting semantics { code } = .ok ending machine ∧
      behaviourOf semantics code = { calls := machine.calls.reverse, ending } := by
  obtain ⟨ending, machine, reported, _⟩ := Run.alwaysReturns_runReporting semantics { code }
  refine ⟨ending, machine, reported, ?_⟩
  rw [behaviourOf, EStateM.run, reported]
  rfl

end FencedCode.Script
