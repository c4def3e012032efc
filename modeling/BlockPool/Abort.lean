/-! Operations that may stop before their end. An operation runs on a state and keeps what it changed before
it stopped, so the state comes back on both paths. -/

set_option autoImplicit false

namespace BlockPool

inductive Abort where
  -- a sum leaves the 64-bit range or a difference falls below zero
  | overflow
  | zeroDivisor
  -- an index or a range lies outside the table or the buffer
  | outOfRange
  -- a walk along links has come round to where it was
  | endless
  -- a state that an operation counts on is not there
  | assertion
  -- a closure that was lent a payload gave up
  | closure
deriving DecidableEq, Repr

abbrev Step (σ : Type) := EStateM Abort σ

namespace Step

variable {σ α : Type}

def ofExcept (result : Except Abort α) : Step σ α := fun state =>
  match result with
  | .ok value => .ok value state
  | .error reason => .error reason state

def query (question : σ → Except Abort α) : Step σ α := fun state =>
  match question state with
  | .ok value => .ok value state
  | .error reason => .error reason state

def attempt (step : Step σ α) (state : σ) : Except Abort α × σ :=
  match step state with
  | .ok value state => (.ok value, state)
  | .error reason state => (.error reason, state)

end Step

instance {σ : Type} : MonadLift (Except Abort) (Step σ) := ⟨Step.ofExcept⟩

end BlockPool
