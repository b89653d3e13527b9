import FencedCode.Editor.Widget
import FencedCode.Proofs.Editor.Delivery

/-!
# Histories of a widget

What a widget is after some operations, and what it has handed to its host by then.  The operations
come in any order and at any times.
-/

namespace FencedCode

namespace Widget

namespace Operation

/-- The text and the time of an edit. -/
def edit? : Operation → Option (String × Nat)
  | .edit text now => some (text, now)
  | _ => none

/-- Whether an operation changes what is to be stored. -/
def isChange : Operation → Bool
  | .edit .. | .setLanguage .. => true
  | _ => false

/-- The text and the time of the latest edit. -/
def lastEdit? (history : List Operation) : Option (String × Nat) :=
  (history.filterMap edit?).getLast?

/-- Of two parts of a history the later one says what came last, if it says anything. -/
theorem getLast?_filterMap_append {α : Type} (part : Operation → Option α)
    (earlier later : List Operation) :
    ((earlier ++ later).filterMap part).getLast? =
      (later.filterMap part).getLast?.or (earlier.filterMap part).getLast? := by
  rw [List.filterMap_append, List.getLast?_append]

theorem getLast?_filterMap_singleton {α : Type} (part : Operation → Option α)
    (operation : Operation) : ([operation].filterMap part).getLast? = part operation := by
  rw [List.filterMap_cons, List.filterMap_nil]
  cases part operation <;> rfl

theorem lastEdit?_append (earlier later : List Operation) :
    lastEdit? (earlier ++ later) = (lastEdit? later).or (lastEdit? earlier) :=
  getLast?_filterMap_append edit? earlier later

theorem lastEdit?_cons (operation : Operation) (later : List Operation) :
    lastEdit? (operation :: later) = (lastEdit? later).or operation.edit? := by
  have only : lastEdit? [operation] = operation.edit? :=
    getLast?_filterMap_singleton edit? operation
  rw [← List.singleton_append, lastEdit?_append, only]

end Operation

variable (engine : Engine)

def after (widget : Widget) : List Operation → Widget
  | [] => widget
  | operation :: later => after (widget.perform engine operation).widget later

/-- The texts handed to the host during operations, in order. -/
def savedDuring (widget : Widget) : List Operation → List String
  | [] => []
  | operation :: later =>
      (widget.perform engine operation).saved ++
        savedDuring (widget.perform engine operation).widget later

variable {engine}

theorem after_append (widget : Widget) (earlier later : List Operation) :
    widget.after engine (earlier ++ later) = (widget.after engine earlier).after engine later := by
  induction earlier generalizing widget with
  | nil => rfl
  | cons operation earlier ih => exact ih (widget.perform engine operation).widget

end Widget

end FencedCode
