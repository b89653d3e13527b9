/-!
# Copying

The feedback of a copy button: for a while after a successful copy it says so.
-/

namespace FencedCode

/-- Until when the button says that it has copied. -/
structure CopyFeedback where
  /-- How long it says so. -/
  duration : Nat
  /-- When it ceases to say so. -/
  copiedUntil : Option Nat := none
deriving DecidableEq, Repr

namespace CopyFeedback

/-- Notes the outcome of a copy.  A failure changes nothing. -/
def note (feedback : CopyFeedback) (succeeded : Bool) (now : Nat) : CopyFeedback :=
  if succeeded then { feedback with copiedUntil := some (now + feedback.duration) } else feedback

def label (feedback : CopyFeedback) (now : Nat) : String :=
  if feedback.copiedUntil.any (now < ·) then "Copied!" else "Copy"

end CopyFeedback

end FencedCode
