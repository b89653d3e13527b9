import FencedCode.Execution.Run
import Mathlib.Data.List.Induction

/-!
# What a run leaves behind

The calls that a script makes to its console form trees, since the conversion of an argument can
call the console again.  What the log holds in the end depends only on the order in which the calls
complete: it holds what was written after the last time it was cleared.  From this and from the way
the run ended the entries follow that are shown for it.
-/

namespace FencedCode

/-- What a call of the console has done to the log when it is complete. -/
inductive Completion where
  | wrote (entry : LogEntry)
  | cleared
deriving DecidableEq, Repr

/-- The text that is shown for a value that has been asked for its own. -/
def OwnText.text : OwnText → String
  | .given _ text | .thrown _ text => text

/-- The value that an entry has for an argument.  Only an object that is no function is structured,
and one that throws when it is asked for structured text is shown by its own text. -/
def Argument.value : Argument → LogValue
  | .primitive own | .function own => { sort := .scalar, text := own.text }
  | .object (.given _ text) => { sort := .structured, text := text.getD "" }
  | .object (.thrown _ own) => { sort := .bare, text := own.text }

mutual

/-- What completes during a call, in order.  A method of a level completes last, behind all that the
conversion of its arguments has called, and writes a value for each argument. -/
def ConsoleCall.completions : ConsoleCall → List Completion
  | .call method arguments =>
    match LogLevel.ofName? method with
    | some level =>
      completionsOfArguments arguments ++ [.wrote { level, values := arguments.map Argument.value }]
    | none => if method = "clear" then [.cleared] else []

/-- What completes during some calls, in order. -/
def completionsOfCalls : List ConsoleCall → List Completion
  | [] => []
  | call :: rest => call.completions ++ completionsOfCalls rest

/-- What completes while an argument is converted, in order. -/
def Argument.completions : Argument → List Completion
  | .primitive own | .function own => own.completions
  | .object (.given during _) => completionsOfCalls during
  | .object (.thrown during own) => completionsOfCalls during ++ own.completions

/-- What completes while arguments are converted from left to right. -/
def completionsOfArguments : List Argument → List Completion
  | [] => []
  | argument :: rest => argument.completions ++ completionsOfArguments rest

/-- What completes while a value is asked for its own text. -/
def OwnText.completions : OwnText → List Completion
  | .given during _ | .thrown during _ => completionsOfCalls during

end

/-- The entries written behind the last clearing, or all of them if there was none. -/
inductive WrittenSinceClear : List Completion → List LogEntry → Prop where
  | neverCleared (entries : List LogEntry) : WrittenSinceClear (entries.map .wrote) entries
  | cleared (earlier : List Completion) (entries : List LogEntry) :
      WrittenSinceClear (earlier ++ .cleared :: entries.map .wrote) entries

namespace Log

/-- The log after a call is complete. -/
def complete (log : Log) : Completion → Log
  | .wrote entry => log.push entry
  | .cleared => log.clear

/-- The console has a method for each level under its name, and one that clears the log. -/
theorem lookup_console (name : String) :
    console.lookup name =
      match LogLevel.ofName? name with
      | some level => some (.write level)
      | none => if name = "clear" then some .clear else none := by
  by_cases known : name ∈ ["log", "error", "warn", "info", "clear"]
  · simp only [List.mem_cons, List.not_mem_nil, or_false] at known
    rcases known with rfl | rfl | rfl | rfl | rfl <;> rfl
  · simp only [List.mem_cons, List.not_mem_nil, or_false, not_or] at known
    obtain ⟨noLog, noError, noWarn, noInfo, noClear⟩ := known
    have noLevel : LogLevel.ofName? name = none := by
      simp [LogLevel.ofName?, LogLevel.all, LogLevel.name, Ne.symm noLog, Ne.symm noError,
        Ne.symm noWarn, Ne.symm noInfo]
    rw [noLevel, if_neg noClear]
    simp [console, ConsoleMethod.all, LogLevel.all, ConsoleMethod.name, LogLevel.name,
      List.lookup_cons, beq_eq_false_iff_ne.mpr, noLog, noError, noWarn, noInfo, noClear]

mutual

/-- A call acts on the log as what completes during it, one after the other. -/
theorem record_eq_foldl (log : Log) (call : ConsoleCall) :
    record log call = call.completions.foldl complete log := by
  obtain ⟨method, arguments⟩ := call
  rw [record, ConsoleCall.completions, lookup_console]
  cases LogLevel.ofName? method with
  | some level =>
      dsimp only
      rw [List.foldl_append, captureAll_eq log arguments]
      rfl
  | none =>
      by_cases clears : method = "clear"
      · rw [if_pos clears, if_pos clears]
        rfl
      · rw [if_neg clears, if_neg clears]
        rfl

theorem recordAll_eq_foldl (log : Log) (calls : List ConsoleCall) :
    recordAll log calls = (completionsOfCalls calls).foldl complete log := by
  cases calls with
  | nil => rw [recordAll, completionsOfCalls, List.foldl_nil]
  | cons call rest =>
      rw [recordAll, completionsOfCalls, List.foldl_append, record_eq_foldl log call,
        recordAll_eq_foldl _ rest]

/-- The value of an argument does not depend on what the log holds. -/
theorem capture_eq (log : Log) (argument : Argument) :
    capture log argument = (argument.completions.foldl complete log, argument.value) := by
  cases argument with
  | primitive own | function own =>
      rw [capture, Argument.completions, display_eq log own]
      rfl
  | object structured =>
      cases structured with
      | given during text =>
          rw [capture, Argument.completions, recordAll_eq_foldl log during]
          rfl
      | thrown during own =>
          rw [capture, Argument.completions, List.foldl_append, recordAll_eq_foldl log during,
            display_eq _ own]
          rfl

theorem captureAll_eq (log : Log) (arguments : List Argument) :
    captureAll log arguments =
      ((completionsOfArguments arguments).foldl complete log, arguments.map Argument.value) := by
  cases arguments with
  | nil => rw [captureAll, completionsOfArguments, List.foldl_nil, List.map_nil]
  | cons argument rest =>
      rw [captureAll, completionsOfArguments, List.foldl_append, capture_eq log argument]
      dsimp only
      rw [captureAll_eq _ rest]
      rfl

theorem display_eq (log : Log) (own : OwnText) :
    display log own = (own.completions.foldl complete log, own.text) := by
  cases own with
  | given during text | thrown during text =>
      rw [display, OwnText.completions, recordAll_eq_foldl log during]
      rfl

end

theorem foldl_complete_map_wrote (log : Log) (entries : List LogEntry) :
    (entries.map .wrote).foldl complete log = { entries := log.entries ++ entries } := by
  induction entries generalizing log with
  | nil => rw [List.append_nil]; rfl
  | cons entry entries ih =>
      rw [List.map_cons, List.foldl_cons, ih, complete, push, List.append_assoc,
        List.singleton_append]

theorem writtenSinceClear_concat_wrote {completions : List Completion} {entries : List LogEntry}
    (written : WrittenSinceClear completions entries) (entry : LogEntry) :
    WrittenSinceClear (completions ++ [.wrote entry]) (entries ++ [entry]) := by
  cases written with
  | neverCleared =>
      have never := WrittenSinceClear.neverCleared (entries ++ [entry])
      rwa [List.map_append] at never
  | cleared earlier =>
      have cleared := WrittenSinceClear.cleared earlier (entries ++ [entry])
      rwa [List.map_append, ← List.cons_append, ← List.append_assoc] at cleared

/-- A log that was empty holds what was written behind the last clearing. -/
theorem writtenSinceClear_foldl (completions : List Completion) :
    WrittenSinceClear completions (completions.foldl complete {}).entries := by
  induction completions using List.reverseRecOn with
  | nil => exact .neverCleared []
  | append_singleton earlier completion ih =>
      rw [List.foldl_append, List.foldl_cons, List.foldl_nil]
      cases completion with
      | wrote entry => exact writtenSinceClear_concat_wrote ih entry
      | cleared => exact .cleared earlier []

/-- The log behind some calls is determined by what completed during them. -/
theorem writtenSinceClear_iff {calls : List ConsoleCall} {entries : List LogEntry} :
    WrittenSinceClear (completionsOfCalls calls) entries ↔ (recordAll {} calls).entries = entries := by
  rw [recordAll_eq_foldl]
  constructor
  · intro written
    generalize completionsOfCalls calls = completions at written
    cases written with
    | neverCleared => rw [foldl_complete_map_wrote, List.nil_append]
    | cleared earlier =>
        rw [List.foldl_append, List.foldl_cons, foldl_complete_map_wrote]
        rfl
  · rintro rfl
    exact writtenSinceClear_foldl _

end Log

/-! ### Entries -/

namespace Behaviour

/-- The entries that a behaviour leaves: those written behind the last clearing and then the failure
of the run, if there was one, or the remark that nothing was written, if nothing else is left. -/
inductive Leaves (behaviour : Behaviour) : List LogEntry → Prop where
  | failed {written : List LogEntry} {message : String}
      (ending : behaviour.ending = .failed message)
      (sinceClear : WrittenSinceClear (completionsOfCalls behaviour.calls) written) :
      Leaves behaviour (written ++ [.message .error message])
  | wrote {written : List LogEntry} (ending : behaviour.ending = .returned)
      (sinceClear : WrittenSinceClear (completionsOfCalls behaviour.calls) written)
      (nonempty : written ≠ []) : Leaves behaviour written
  | silent (ending : behaviour.ending = .returned)
      (sinceClear : WrittenSinceClear (completionsOfCalls behaviour.calls) []) :
      Leaves behaviour [.message .info "✓ Code executed successfully (no output)"]

theorem leaves_iff {behaviour : Behaviour} {entries : List LogEntry} :
    behaviour.Leaves entries ↔ behaviour.entries = entries := by
  constructor
  · intro leaves
    cases leaves with
    | failed ending sinceClear =>
        rw [Behaviour.entries, ending, Log.writtenSinceClear_iff.mp sinceClear]
    | wrote ending sinceClear nonempty =>
        rw [Behaviour.entries, ending, Log.writtenSinceClear_iff.mp sinceClear]
        exact if_neg fun empty => nonempty (List.isEmpty_iff.mp empty)
    | silent ending sinceClear =>
        rw [Behaviour.entries, ending, Log.writtenSinceClear_iff.mp sinceClear]
        rfl
  · rintro rfl
    obtain ⟨written, isWritten⟩ :
        ∃ written, WrittenSinceClear (completionsOfCalls behaviour.calls) written :=
      ⟨_, Log.writtenSinceClear_iff.mpr rfl⟩
    rw [Behaviour.entries, Log.writtenSinceClear_iff.mp isWritten]
    cases ending : behaviour.ending with
    | failed message => exact .failed ending isWritten
    | returned =>
        cases written with
        | nil => exact .silent ending isWritten
        | cons entry entries => exact .wrote ending isWritten (List.cons_ne_nil _ _)

theorem Leaves.ne_nil {behaviour : Behaviour} {entries : List LogEntry}
    (leaves : behaviour.Leaves entries) : entries ≠ [] := by
  cases leaves with
  | failed => exact List.concat_ne_nil _ _
  | wrote _ _ nonempty => exact nonempty
  | silent => exact List.cons_ne_nil _ _

end Behaviour

namespace Registry

variable {registry : Registry} {name : String} {language : Language}

theorem resolveRunnable?_eq_some (resolved : registry.resolve? name = some language)
    (runnable : language.runnable = true) :
    registry.resolveRunnable? name = some language := by
  rw [resolveRunnable?, resolved, Option.filter_some, if_pos runnable]

/-- Something is shown for every block. -/
theorem executeWith_ne_nil (engine : Engine) (registry : Registry) (source name : String) :
    executeWith engine registry source name ≠ [] := by
  rw [executeWith]
  split
  · exact (Behaviour.leaves_iff.mpr rfl).ne_nil
  · exact List.cons_ne_nil _ _

end Registry

end FencedCode
