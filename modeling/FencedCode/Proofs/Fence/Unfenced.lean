import FencedCode.Editor.Widget
import FencedCode.Proofs.CommandLine.Outcome
import FencedCode.Proofs.Fence.RoundTrip

/-!
# Texts without a fence

A text that is not fenced is a block without a language, and shown without colours.  But reading
cuts off the first line of any text, whether or not it is the line with the mark.  So of a text
without a fence only what stands behind its first line is shown.
-/

namespace FencedCode

open CommandLine Text

namespace Fence

/-- A text is read, printed and opened as another one without a language. -/
structure ShownAs (raw text : String) : Prop where
  parsed : parse raw = { name := "", body := text }
  /-- A call that writes markup for the text writes the other one, escaped, and nothing else. -/
  printed : ∀ {readers : LanguageFile.Readers} {host : Host Id} {registry : Registry}
    (engine : Engine) {arguments : List String},
    (∀ argument ∈ arguments, Undecided argument) → lastMode arguments = .html →
    InUse readers host registry → Id.run (readBlock host (lastPath arguments)) = .ok raw →
      Id.run (report engine host arguments readers) =
        { warnings := ignoredSettings host, exitCode := 0, output := Markup.escape text ++ "\n"
          errors := "" }
  opened : ∀ registry settings saves,
    let widget := Widget.ofRaw registry settings saves raw
    widget.name = "" ∧ widget.text = text ∧ widget.overlay = Markup.escape text

variable {raw text : String}

/-- All that is shown depends on what is read. -/
theorem shownAs_iff_parse : ShownAs raw text ↔ parse raw = { name := "", body := text } := by
  constructor
  · exact ShownAs.parsed
  · intro parsed
    refine ⟨parsed, ?_, ?_⟩
    · intro readers host registry engine arguments undecided isHtml inUse input
      have reads : lastMode arguments ≠ .languages := by simp [isHtml]
      have ends : Ends engine readers host (lastMode arguments) (lastPath arguments) _ :=
        .shown inUse reads input
      rw [report, request_of_undecided undecided]
      refine ends.run_work_eq.trans ?_
      rw [isHtml, parsed]
      rfl
    · intro registry settings saves widget
      have isName : widget.name = (parse raw).name := rfl
      have isText : widget.text = (parse raw).body := rfl
      have isOverlay : widget.overlay = registry.highlight (parse raw).body (parse raw).name := rfl
      rw [isName, isText, isOverlay, parsed]
      exact ⟨rfl, rfl, rfl⟩

/-- Behind a first line there is nothing to lose by trimming unless something is shown in it. -/
theorem trim_afterFirstLine_eq_iff {chars : List Char} :
    trim (afterFirstLine chars) = trim chars ↔
      ∀ char ∈ chars.takeWhile (· != '\n'), isBlank char := by
  have split : chars = chars.takeWhile (· != '\n') ++ chars.dropWhile (· != '\n') :=
    List.takeWhile_append_dropWhile.symm
  rw [afterFirstLine, eq_comm]
  cases rest : chars.dropWhile (· != '\n') with
  | nil =>
      rw [rest] at split
      rw [← trim_append_eq_iff, ← split]
      rfl
  | cons char behind =>
      have isEnd : char = '\n' := by
        have stopped := List.head?_dropWhile_not (· != '\n') chars
        simpa [rest] using stopped
      subst isEnd
      rw [rest, List.append_cons] at split
      have blankEnd : isBlank '\n' := by decide
      have cut : trim chars = trim behind ↔
          ∀ char ∈ chars.takeWhile (· != '\n') ++ ['\n'], isBlank char := by
        rw [← trim_append_eq_iff, ← split]
      rw [List.drop_one, List.tail_cons, cut, List.forall_mem_append, List.forall_mem_singleton,
        and_iff_left blankEnd]

/-- Without a mark at the end nothing but white space is taken off behind the first line. -/
theorem bodyOf_eq {chars : List Char} (notClosed : ¬mark <:+ trimEnd chars) :
    bodyOf chars = trim (afterFirstLine chars) := by
  have isSuffix : afterFirstLine chars <:+ chars :=
    (List.drop_suffix ..).trans (List.dropWhile_suffix _)
  have stays : dropClosing (trimEnd (afterFirstLine chars)) = trimEnd (afterFirstLine chars) := by
    apply if_neg
    rw [List.isSuffixOf_iff_suffix]
    intro closes
    exact notClosed (closes.trans (trimEnd_suffix isSuffix))
  rw [bodyOf, stays, trim_trimEnd]

theorem parse_of_unfenced (notFenced : isFenced raw = false)
    (notClosed : ¬mark <:+ trimEnd raw.toList) :
    parse raw = { name := "", body := .ofList (trim (afterFirstLine raw.toList)) } := by
  rw [isFenced] at notFenced
  rw [parse, bodyOf_eq notClosed, nameOf, notFenced]
  rfl

/-- A text without a fence is shown behind its first line, so in full exactly if there is nothing
but white space in that line. -/
theorem unfenced_shown_iff (notFenced : isFenced raw = false)
    (notClosed : ¬mark <:+ trimEnd raw.toList) :
    ShownAs raw (.ofList (trim (afterFirstLine raw.toList))) ∧
      (ShownAs raw (trimText raw) ↔
        ∀ char ∈ raw.toList.takeWhile (· != '\n'), isBlank char) := by
  have parsed := parse_of_unfenced notFenced notClosed
  refine ⟨shownAs_iff_parse.mpr parsed, ?_⟩
  rw [shownAs_iff_parse, parsed, Fence.mk.injEq, and_iff_right rfl, trimText, String.ofList_inj,
    trim_afterFirstLine_eq_iff]

/-- Two lines behind an empty one, on the input of a call without arguments. -/
theorem unfenced_shown_behind_empty_line :
    let raw := "\n<b> 1\n c \n"
    let engine : Engine := fun _ => { calls := [] }
    let host : Host Id :=
      { home := none, fileText := fun _ => .error .notFound, inputText := .ok raw }
    isFenced raw = false ∧ ¬mark <:+ trimEnd raw.toList ∧
      (∀ char ∈ raw.toList.takeWhile (· != '\n'), isBlank char) ∧
      ShownAs raw "<b> 1\n c" ∧ InUse {} host .builtin ∧
      Id.run (report engine host []) =
        { exitCode := 0, output := "&lt;b&gt; 1\n c\n", errors := "" } := by
  intro raw engine host
  have notFenced : isFenced raw = false := by decide
  have notClosed : ¬mark <:+ trimEnd raw.toList := by decide
  have blank : ∀ char ∈ raw.toList.takeWhile (· != '\n'), isBlank char :=
    List.all_eq_true.mp (by decide)
  have shown : ShownAs raw "<b> 1\n c" := by
    have trimmed : trimText raw = "<b> 1\n c" := by decide
    rw [← trimmed]
    exact (unfenced_shown_iff notFenced notClosed).2.mpr blank
  have inUse : InUse {} host .builtin := .builtin rfl
  refine ⟨notFenced, notClosed, blank, shown, inUse, ?_⟩
  rw [shown.printed engine (List.forall_mem_nil _) rfl inUse rfl]
  decide

/-- Of a single line nothing is shown. -/
theorem unfenced_line_lost :
    isFenced "hello" = false ∧ ¬mark <:+ trimEnd "hello".toList ∧ trimText "hello" = "hello" ∧
      ShownAs "hello" "" ∧ ¬ShownAs "hello" (trimText "hello") := by
  have parsed : parse "hello" = { name := "", body := "" } := by decide
  refine ⟨by decide, by decide, by decide, shownAs_iff_parse.mpr parsed, ?_⟩
  rw [shownAs_iff_parse, parsed]
  decide

end Fence

end FencedCode
