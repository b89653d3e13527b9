import FencedCode.Proofs.Execution.Outcome
import FencedCode.Proofs.TypeErasure.Deletion

/-!
# Scripts without types

A text in which nothing looks like the start of a type comes through all passes unchanged: without a
colon, without an opening angle bracket, without the word `as` before white space and without a line
that declares a type, no pass finds anything.  Such a script runs under the name of the typed
language as it does under the name of the untyped one.
-/

namespace FencedCode

namespace TypeErasure

open Pattern

variable {chars : List Char}

/-! ### Passes that find nothing -/

namespace Pass

/-- All that a pass finds starts with a given character. -/
def Opens (pass : Pass) (opening : Char) : Prop :=
  ∀ place stop, pass.pattern.Matches place stop → place.after.head? = some opening

variable {pass : Pass} {opening : Char}

/-- Characters are copied up to one with which something that is looked for can start. -/
theorem Opens.eraseFrom_of_reads (opens : pass.Opens opening) {place stop : Cursor}
    (reads : place.Reads chars stop) (missing : opening ∉ chars) :
    pass.eraseFrom place = chars ++ pass.eraseFrom stop := by
  induction reads with
  | stay place => rfl
  | @step place next stop char chars read rest ih =>
      rw [List.mem_cons, not_or] at missing
      obtain ⟨other, others⟩ := missing
      have noMatch : pass.pattern.matchEnd? place = none := by
        apply matchEnd?_eq_none_of_not_matches
        intro stop isMatch
        exact other (Option.some.inj
          ((opens place stop isMatch).symm.trans (Cursor.head?_after_of_next? read)))
      rw [eraseFrom_of_next? noMatch read, ih others, List.cons_append]

/-- A pass changes nothing where the character with which all that it looks for starts does not
come. -/
theorem Opens.eraseFrom_eq_after (opens : pass.Opens opening) {place : Cursor}
    (missing : opening ∉ place.after) : pass.eraseFrom place = place.after := by
  obtain ⟨stop, reads, ended⟩ := Cursor.exists_reads (List.append_nil place.after).symm
  have nothing : pass.eraseFrom stop = [] :=
    List.sublist_nil.mp (ended ▸ pass.eraseFrom_sublist stop)
  rw [opens.eraseFrom_of_reads reads missing, nothing, List.append_nil]

theorem Opens.erase_eq_self (opens : pass.Opens opening) (missing : opening ∉ chars) :
    pass.erase chars = chars :=
  @eraseFrom_eq_after pass opening opens (.start chars) missing

end Pass

theorem head?_of_matches_literal {opening : Char} {place stop : Cursor} {more : List Char}
    (isMatch : (literal (opening :: more)).Matches place stop) :
    place.after.head? = some opening := by
  rw [isMatch.reads_literal.after_eq]
  rfl

theorem opens_colonPass : colonPass.Opens ':' := by
  rintro place stop ⟨_, ⟨_, ⟨_, colon, _⟩, _⟩, _⟩
  exact head?_of_matches_literal colon

theorem opens_callPass : callPass.Opens '<' := by
  rintro place stop ⟨_, ⟨_, ⟨_, angle, _⟩, _⟩, _⟩
  exact head?_of_matches_literal angle

/-- The word `as` stands somewhere in a text, at the edge of a word of ASCII characters and before
white space. -/
def HasCast (chars : List Char) : Prop :=
  ∃ front blank back, chars = front ++ 'a' :: 's' :: blank :: back ∧
    (∀ char ∈ front.getLast?, ¬Text.isAsciiWord char) ∧ Text.isBlank blank

/-- Where the second pass finds something there is a cast. -/
theorem hasCast_of_matches {place stop : Cursor} (reached : (Cursor.start chars).Reaches place)
    (isMatch : castPass.pattern.Matches place stop) : HasCast chars := by
  obtain ⟨_, ⟨behindWord, ⟨start, ⟨holds, rfl⟩, word⟩, blanks⟩, _⟩ := isMatch
  obtain ⟨front, readsFront⟩ := reached
  obtain ⟨blank, back, behindAfter, isBlank⟩ := exists_blank_of_matches blanks
  have startAfter : start.after = 'a' :: 's' :: blank :: back := by
    rw [word.reads_literal.after_eq, behindAfter]
    rfl
  refine ⟨front, blank, back, ?_, ?_, isBlank⟩
  · rw [← startAfter, ← readsFront.after_eq]
    rfl
  · -- The edge lies before a word character, so none stands before the edge.
    intro char isLast isWord
    have isBefore : start.before = some char := by
      rw [readsFront.before_eq, isLast, Option.some_or]
    have letter : Text.isAsciiWord 'a' = true := by decide
    rw [Assertion.holds, isBefore, startAfter] at holds
    simp [Assertion.holdsBetween, WordEdge.holds, isWord, letter] at holds

theorem erase_castPass_eq_self (noCast : ¬HasCast chars) : castPass.erase chars = chars := by
  apply Pass.erase_eq_self
  intro place stop reached isMatch
  exact noCast (hasCast_of_matches reached isMatch)

/-! ### Scripts -/

/-- Nothing in a text looks like the start of a type. -/
structure Untyped (chars : List Char) : Prop where
  noColon : ':' ∉ chars
  noAngle : '<' ∉ chars
  noCast : ¬HasCast chars
  noDeclaration : ¬HasDeclaration chars

theorem Untyped.eraseTypes_eq_self {source : String} (untyped : Untyped source.toList) :
    eraseTypes source = source := by
  rw [eraseTypes, eraseChars, opens_colonPass.erase_eq_self untyped.noColon,
    erase_castPass_eq_self untyped.noCast, opens_callPass.erase_eq_self untyped.noAngle,
    erase_declarationPass_eq_self untyped.noDeclaration, String.ofList_toList]

/-- A script without types comes through unchanged, and running it as TypeScript shows what running
it as JavaScript shows, whatever the engine and under whatever names a registry knows the two. -/
theorem untyped_runs_alike {source : String} (untyped : Untyped source.toList) :
    eraseTypes source = source ∧
      ∀ engine registry typedName untypedName,
        Registry.resolve? registry typedName = some .typeScript →
        registry.resolve? untypedName = some .javaScript →
          registry.executeWith engine source typedName =
            registry.executeWith engine source untypedName := by
  have same : eraseTypes source = source := untyped.eraseTypes_eq_self
  refine ⟨same, ?_⟩
  intro engine registry typedName untypedName typedFound untypedFound
  have typedSource : Language.typeScript.executableSource source = source := same
  rw [Registry.executeWith, Registry.executeWith,
    Registry.resolveRunnable?_eq_some typedFound rfl,
    Registry.resolveRunnable?_eq_some untypedFound rfl]
  dsimp only
  rw [typedSource]
  rfl

/-- A word that ends in `as` and a line that starts with a longer word than `type`. -/
theorem untyped_runs_alike_typeof :
    let source := "let alias = [1];\r\ntypeof alias;"
    let engine : Engine := fun source =>
      { calls := [.call "log" [.primitive (.given [] source)]] }
    Untyped source.toList ∧ eraseTypes source = source ∧
      Registry.builtin.resolve? "TS" = some .typeScript ∧
      Registry.builtin.resolve? "js" = some .javaScript ∧
      Registry.builtin.executeWith engine source "TS" =
        Registry.builtin.executeWith engine source "js" := by
  intro source engine
  have noCast : ¬HasCast source.toList := by
    rintro ⟨front, blank, back, split, edge, _⟩
    have inWord : ∀ size < source.toList.length,
        ['a', 's'].isPrefixOf (source.toList.drop size) →
          (source.toList.take size).getLast?.any Text.isAsciiWord := by decide
    obtain ⟨char, isLast, isWord⟩ :=
      (Option.any_eq_true ..).mp (inWord front.length (by simp [split]) (by simp [split]))
    refine edge char ?_ isWord
    rwa [split, List.take_left] at isLast
  have noDeclaration : ¬HasDeclaration source.toList := by
    rintro ⟨front, word, blank, back, split, _, isWord, isBlank⟩
    have goesOn : ∀ word ∈ ["interface".toList, "type".toList], ∀ size < source.toList.length,
        word.isPrefixOf (source.toList.drop size) →
          ¬((source.toList.drop (size + word.length)).head?.any Text.isBlank) := by decide
    have listed : word ∈ ["interface".toList, "type".toList] := by simpa using isWord
    have behindWord : source.toList.drop (front.length + word.length) = blank :: back := by
      rw [split, ← List.append_assoc, ← List.length_append, List.drop_left]
    have within : front.length < source.toList.length := by
      rw [split, List.length_append, List.length_append, List.length_cons]
      omega
    apply goesOn word listed front.length within (by simp [split])
    rw [behindWord]
    exact isBlank
  have untyped : Untyped source.toList := ⟨by decide, by decide, noCast, noDeclaration⟩
  have typedFound : Registry.builtin.resolve? "TS" = some .typeScript := rfl
  have untypedFound : Registry.builtin.resolve? "js" = some .javaScript := rfl
  obtain ⟨same, alike⟩ := untyped_runs_alike untyped
  exact ⟨untyped, same, typedFound, untypedFound,
    alike engine Registry.builtin "TS" "js" typedFound untypedFound⟩

end TypeErasure

end FencedCode
