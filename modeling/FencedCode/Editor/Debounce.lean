/-!
# Debouncing

A value waits until nothing new has come for a while.  A newer value takes the place of one that
waits and starts the wait anew.  Time is told by whoever asks and need not increase.
-/

namespace FencedCode

/-- A value that waits for its time, if there is one. -/
structure Debouncer (α : Type) where
  /-- How long a value waits. -/
  delay : Nat
  /-- The waiting value and the time at which it is due. -/
  pending : Option (Nat × α) := none
deriving Repr

namespace Debouncer

variable {α : Type}

/-- Lets a value wait, in place of any other. -/
def schedule (debouncer : Debouncer α) (value : α) (now : Nat) : Debouncer α :=
  { debouncer with pending := some (now + debouncer.delay, value) }

def isPending (debouncer : Debouncer α) : Bool := debouncer.pending.isSome

/-- The time at which the waiting value is due. -/
def deadline? (debouncer : Debouncer α) : Option Nat := debouncer.pending.map (·.1)

/-- Takes the waiting value out. -/
def cancel (debouncer : Debouncer α) : Option α × Debouncer α :=
  (debouncer.pending.map (·.2), { debouncer with pending := none })

/-- Takes the waiting value out if it is due. -/
def poll (debouncer : Debouncer α) (now : Nat) : Option α × Debouncer α :=
  if debouncer.deadline?.any (· ≤ now) then debouncer.cancel else (none, debouncer)

/-- Something that happens to a debouncer. -/
inductive Event (α : Type) where
  | schedule (value : α) (now : Nat)
  /-- Someone asks for a due value. -/
  | poll (now : Nat)
  /-- The waiting value is called back. -/
  | cancel
deriving Repr

/-- What an event hands out, and the debouncer after it. -/
def step (debouncer : Debouncer α) : Event α → Option α × Debouncer α
  | .schedule value now => (none, debouncer.schedule value now)
  | .poll now => debouncer.poll now
  | .cancel => debouncer.cancel

end Debouncer

end FencedCode
