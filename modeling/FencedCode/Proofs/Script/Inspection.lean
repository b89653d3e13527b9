import FencedCode.Script.Inspection

/-!
# Parts of a run that always complete

Whether an object is a function, and how it is shown for debugging, is read off the machine.  Nothing
of the script is called for that, so such a part of a run completes whatever its objects hold, and
the machine stays as it is.  `Completes` says that a part completes and which reading of the machine
it keeps; it is put together along the binds of the part.
-/

namespace FencedCode.Script.Run

variable {α β γ : Type} {kept : Machine → γ}

/-- The part is never cut short, and what `kept` reads of the machine is the same behind it. -/
def Completes (kept : Machine → γ) (part : Run α) : Prop :=
  ∀ semantics before, ∃ value after, part semantics before = .ok value after ∧
    kept after = kept before

/-! ### Combinations -/

theorem bind_eq_of_ok {first : Run α} {second : α → Run β} {semantics : Semantics}
    {before after : Machine} {value : α} (ran : first semantics before = .ok value after) :
    (first >>= second) semantics before = second value semantics after := by
  change EStateM.bind (first semantics) (fun value => second value semantics) before = _
  rw [EStateM.bind, ran]

/-- Where two parts of a run complete together, each of them completes. -/
theorem exists_of_bind_eq_ok {first : Run α} {second : α → Run β} {semantics : Semantics}
    {before after : Machine} {result : β}
    (ran : (first >>= second) semantics before = .ok result after) :
    ∃ value middle, first semantics before = .ok value middle ∧
      second value semantics middle = .ok result after := by
  change EStateM.bind (first semantics) (fun value => second value semantics) before = _ at ran
  rw [EStateM.bind] at ran
  split at ran
  · next value middle firstRan => exact ⟨value, middle, firstRan, ran⟩
  · cases ran

namespace Completes

/-- A part that leaves the machine as it is keeps every reading of it. -/
theorem keeps {part : Run α} (completes : Completes id part) : Completes kept part := by
  intro semantics before
  obtain ⟨value, after, ran, same⟩ := completes semantics before
  exact ⟨value, after, ran, congrArg kept same⟩

theorem pure (value : α) : Completes kept (pure value) := fun _ before => ⟨value, before, rfl, rfl⟩

theorem get : Completes kept get := fun _ before => ⟨before, before, rfl, rfl⟩

theorem bind {first : Run α} {second : α → Run β} (firstCompletes : Completes kept first)
    (secondCompletes : ∀ value, Completes kept (second value)) :
    Completes kept (first >>= second) := by
  intro semantics before
  obtain ⟨value, middle, firstRan, same⟩ := firstCompletes semantics before
  obtain ⟨result, after, secondRan, sameAgain⟩ := secondCompletes value semantics middle
  refine ⟨result, after, ?_, sameAgain.trans same⟩
  rw [bind_eq_of_ok firstRan, secondRan]

theorem map {part : Run α} (completes : Completes kept part) (function : α → β) :
    Completes kept (function <$> part) := by
  rw [map_eq_pure_bind]
  exact completes.bind fun _ => .pure _

theorem mapM {part : α → Run β} (completes : ∀ item, Completes kept (part item))
    (items : List α) : Completes kept (items.mapM part) := by
  induction items with
  | nil => exact .pure []
  | cons item items ih =>
      rw [List.mapM_cons]
      exact (completes item).bind fun _ => ih.bind fun _ => .pure _

theorem filterMapM {part : α → Run (Option β)} (completes : ∀ item, Completes kept (part item))
    (items : List α) : Completes kept (items.filterMapM part) := by
  induction items with
  | nil => exact .pure []
  | cons item items ih =>
      rw [List.filterMapM_cons]
      refine (completes item).bind fun result => ?_
      cases result with
      | none => exact ih
      | some _ => exact ih.bind fun _ => .pure _

end Completes

/-- The part completes and leaves the machine as it is. -/
abbrev OnlyLooks (part : Run α) : Prop := Completes id part

/-! ### Looking at objects -/

theorem onlyLooks_fetch (ref : Ref) : OnlyLooks (fetch ref) := Completes.get.bind fun _ => .pure _

theorem onlyLooks_kindOf (ref : Ref) : OnlyLooks (kindOf ref) :=
  (onlyLooks_fetch ref).bind fun _ => .pure _

theorem onlyLooks_chainLimit : OnlyLooks chainLimit := Completes.get.bind fun _ => .pure _

theorem onlyLooks_behindProxies (limit : Nat) (ref : Ref) : OnlyLooks (behindProxies limit ref) := by
  induction limit generalizing ref with
  | zero => exact .pure ref
  | succ limit ih =>
      refine (onlyLooks_kindOf ref).bind fun kind => ?_
      split
      · exact ih _
      · exact .pure ref

theorem onlyLooks_isCallable (value : Value) : OnlyLooks (isCallable value) := by
  unfold isCallable
  split
  · refine (onlyLooks_behindProxies _ _).bind fun ref => ?_
    refine (onlyLooks_kindOf ref).bind fun kind => ?_
    split <;> exact .pure _
  · exact .pure _

theorem onlyLooks_heldValue? (limit : Nat) (ref : Ref) (key : PropertyKey) :
    OnlyLooks (heldValue? limit ref key) := by
  induction limit generalizing ref with
  | zero => exact .pure none
  | succ limit ih =>
      refine (onlyLooks_fetch ref).bind fun object => ?_
      split
      · exact .pure _
      · split
        · exact ih _
        · exact .pure _

theorem onlyLooks_constructorName? (ref : Ref) : OnlyLooks (constructorName? ref) := by
  refine onlyLooks_chainLimit.bind fun limit => ?_
  refine (onlyLooks_heldValue? limit ref _).bind fun held => ?_
  split
  · refine (onlyLooks_heldValue? limit _ _).bind fun name => ?_
    split <;> exact .pure _
  · exact .pure _

/-! ### Showing values -/

theorem onlyLooks_shownError (ref : Ref) : OnlyLooks (shownError ref) := by
  refine onlyLooks_chainLimit.bind fun limit => ?_
  refine Completes.bind ?name fun _ => Completes.bind ?message fun _ => .pure _
  all_goals
    refine (onlyLooks_heldValue? limit ref _).bind fun held => ?_
    split <;> exact .pure _

/-- An object is shown by induction on how deeply objects may still be nested in it. -/
theorem onlyLooks_inspectInside (limit : Nat) (outer : List Ref) (indent : Nat) (value : Value) :
    OnlyLooks (inspectInside limit outer indent value) := by
  induction limit generalizing outer indent value with
  | zero => exact .pure _
  | succ limit ih =>
      cases value with
      | object ref =>
          rw [inspectInside]
          split
          · exact .pure _
          · refine (onlyLooks_fetch ref).bind fun object => ?_
            split
            · exact .pure _
            · refine (onlyLooks_constructorName? ref).bind fun name => ?_
              refine Completes.bind (.filterMapM (fun key => ?_) _) fun lines => .pure _
              split
              · exact .pure _
              · exact .pure _
              · -- The value of a property is shown one level deeper; an accessor is not called.
                split
                · exact (ih _ _ _).bind fun _ => .pure _
                · exact .pure _
      | _ => exact .pure _

theorem onlyLooks_inspect (value : Value) : OnlyLooks (inspect value) := by
  unfold inspect
  split
  · refine (onlyLooks_fetch _).bind fun object => ?_
    split
    · exact onlyLooks_shownError _
    · refine Completes.bind (.mapM (fun place => ?_) _) fun elements => .pure _
      split
      · exact onlyLooks_inspectInside _ _ _ _
      · exact .pure _
    · exact onlyLooks_inspectInside _ _ _ _
  · exact onlyLooks_inspectInside _ _ _ _

end FencedCode.Script.Run
