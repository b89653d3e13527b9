import FencedCode.Proofs.Script.Inspection
import FencedCode.Script.Invocation

/-!
# Calls of the console

Whatever a script hands to a method of the console, the method completes, and what it adds to the
calls of the run is one call with an argument for each value.  Where the conversion of a value
throws, the throw is caught, and the calls of the console that are made meanwhile are kept with the
argument.
-/

namespace FencedCode.Script.Run

variable {α β : Type} {semantics : Semantics} {before after : Machine}

/-- The part is never cut short, whatever it does to the machine. -/
abbrev AlwaysReturns (part : Run α) : Prop := Completes (fun _ => ()) part

/-- The part is never cut short, and no call of the console is added to those of the run. -/
abbrev AddsNoCall (part : Run α) : Prop := Completes Machine.calls part

/-! ### Asking for texts -/

/-- What a part throws does not matter where it is caught. -/
theorem alwaysReturns_tryCatch (part : Run α) {handle : Interrupt → Run α}
    (handles : ∀ interrupt, AlwaysReturns (handle interrupt)) :
    AlwaysReturns (tryCatch part handle) := by
  intro semantics before
  change ∃ value after, EStateM.tryCatch (part semantics) (fun caught => handle caught semantics)
    before = .ok value after ∧ _
  delta EStateM.tryCatch
  cases ran : part semantics before with
  | ok value middle => exact ⟨value, middle, rfl, rfl⟩
  | error caught middle =>
      obtain ⟨value, after, handled, _⟩ := handles caught semantics middle
      exact ⟨value, after, handled, rfl⟩

/-- The calls that a part makes are kept apart from those of the run. -/
theorem addsNoCall_withCalls {part : Run α} (returns : AlwaysReturns part) :
    AddsNoCall (withCalls part) := by
  intro semantics before
  obtain ⟨value, middle, ran, _⟩ := returns semantics { before with calls := [] }
  refine ⟨(middle.calls.reverse, value), { middle with calls := before.calls }, ?_, rfl⟩
  change EStateM.bind (part semantics) _ { before with calls := [] } = _
  rw [EStateM.bind, ran]
  rfl

theorem addsNoCall_askOwnText (value : Value) : AddsNoCall (askOwnText value) := by
  have returns : AlwaysReturns (textOrDebug value) :=
    alwaysReturns_tryCatch _ fun _ => (onlyLooks_inspect value).keeps.bind fun _ => .pure _
  refine (addsNoCall_withCalls returns).bind fun asked => ?_
  split <;> exact .pure _

theorem addsNoCall_askStructuredText (value : Value) : AddsNoCall (askStructuredText value) := by
  have returns : AlwaysReturns
      (tryCatch (some <$> structuredText? value) fun _ => return none) :=
    alwaysReturns_tryCatch _ fun _ => .pure _
  refine (addsNoCall_withCalls returns).bind fun asked => ?_
  split
  · exact .pure _
  · exact (addsNoCall_askOwnText value).bind fun _ => .pure _

theorem addsNoCall_captureArgument (value : Value) : AddsNoCall (captureArgument value) := by
  unfold captureArgument
  split
  · refine (onlyLooks_isCallable _).keeps.bind fun callable => ?_
    split
    · exact (addsNoCall_askOwnText _).bind fun _ => .pure _
    · exact (addsNoCall_askStructuredText _).bind fun _ => .pure _
  · exact (addsNoCall_askOwnText _).bind fun _ => .pure _

/-! ### Methods -/

theorem length_eq_of_mapM_eq_ok {part : α → Run β} {items : List α} {results : List β}
    (ran : items.mapM part semantics before = .ok results after) :
    results.length = items.length := by
  induction items generalizing results before with
  | nil =>
      cases ran
      rfl
  | cons item items ih =>
      rw [List.mapM_cons] at ran
      obtain ⟨first, middle, _, ran⟩ := exists_of_bind_eq_ok ran
      obtain ⟨others, last, othersRan, ran⟩ := exists_of_bind_eq_ok ran
      cases ran
      rw [List.length_cons, List.length_cons, ih othersRan]

/-- A method of a level adds one call, with one argument for each value that it is handed. -/
theorem callNative_write (level : LogLevel) (this : Value) (values : List Value)
    (semantics : Semantics) (before : Machine) :
    ∃ arguments after,
      callNative (.console (.write level)) this values semantics before = .ok .undefined after ∧
        after.calls = .call level.name arguments :: before.calls ∧
        arguments.length = values.length := by
  obtain ⟨arguments, after, captured, same⟩ :=
    Completes.mapM addsNoCall_captureArgument values semantics before
  refine ⟨arguments, { after with calls := .call level.name arguments :: after.calls }, ?_, ?_,
    length_eq_of_mapM_eq_ok captured⟩
  · exact bind_eq_of_ok captured
  · exact congrArg (ConsoleCall.call level.name arguments :: ·) same

/-- The method that clears the log adds one call, and does not look at what it is handed. -/
theorem callNative_clear (this : Value) (values : List Value) (semantics : Semantics)
    (before : Machine) :
    callNative (.console .clear) this values semantics before =
      .ok .undefined { before with calls := .call "clear" [] :: before.calls } := rfl

end FencedCode.Script.Run
