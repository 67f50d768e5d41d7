import GuestTypes.Identity

/-!
# Progress of static initialisation

A class is initialised at most once. `InitState.claim` is the one decision a thread takes
when it asks for a class: go on, report the recorded failure, run the initializer itself, or
wait because another thread is running it. A thread that asks again while it runs the
initializer goes on at once.
-/

namespace GuestTypes

/-- How far the static initialisation of a class has come. -/
inductive InitState where
  | unstarted
  | running (owner : ThreadId)
  | done
  | failed (reason : String)
  deriving DecidableEq, Inhabited, Repr

/-- What a thread that asks for a class is told. -/
inductive Claim where
  /-- The class can be used: it is initialised, or this very thread is initialising it. -/
  | usable
  /-- The class failed to initialise and never will be. -/
  | failed (reason : String)
  /-- The class is now this thread's to initialise. -/
  | begun
  deriving DecidableEq, Inhabited, Repr

namespace InitState

/-- The answer to a thread that asks for a class, and the state it leaves; none while the
thread has to wait. -/
def claim (state : InitState) (thread : ThreadId) : Option (Claim × InitState) :=
  match state with
  | .unstarted => some (.begun, .running thread)
  | .running owner => if owner = thread then some (.usable, state) else none
  | .done => some (.usable, state)
  | .failed reason => some (.failed reason, state)

/-- The state after an initializer, by the failure it reported. -/
def settled : Option String -> InitState
  | none => .done
  | some reason => .failed reason

/-- The failure recorded for an initializer that unwinds. -/
def unwound : InitState := .failed "initializer panicked"

end InitState

end GuestTypes
