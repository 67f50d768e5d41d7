import GuestTypes.Program

/-!
# Threads

A machine runs programs side by side. In one step one thread does one thing, so every way of
choosing the next thread is an interleaving. A thread that runs a static initializer keeps
what it was doing in a frame; when the initializer ends, the class is settled and the frame
resumed, and when the thread panics, the classes of all its frames fail.
-/

namespace GuestTypes

/-- The host code that the store refers to by number. -/
structure HostCode (σ : Type) where
  initializer : CodeId -> ClassId -> Request σ Unit
  escalation : CodeId -> ClassId -> Request σ Representation
  /-- The body of a thread. -/
  body : CodeId -> Request σ Unit

/-- A program that waits for a static initializer. -/
structure Frame (σ : Type) where
  cls : ClassId
  resume : Option String -> Program σ (Except Fault Unit)

/-- The state of a thread. -/
inductive Thread (σ : Type) where
  | running (control : Program σ (Except Fault Unit)) (frames : List (Frame σ))
  | finished (outcome : Except Fault Unit)
  | panicked (message : String)

/-- How a thread has ended: the message if it panicked; none while it is running. -/
def Thread.ending? {σ : Type} : Thread σ -> Option (Option String)
  | running _ _ => none
  | finished _ => some none
  | panicked message => some (some message)

/-- Threads over one store. -/
structure Machine (σ : Type) where
  store : Store
  host : σ
  threads : Array (Thread σ) := #[]

namespace Machine

variable {σ : Type}

/-- Start a thread. -/
def start (machine : Machine σ) (request : Request σ Unit) : ThreadId × Machine σ :=
  (⟨machine.threads.size⟩,
    { machine with threads := machine.threads.push (.running request.run []) })

/-- How a thread has ended; none while it is running. One that never started has ended. -/
def ending? (machine : Machine σ) (thread : ThreadId) : Option (Option String) :=
  match machine.threads[thread.index]? with
  | some state => state.ending?
  | none => some none

def setThread (machine : Machine σ) (thread : ThreadId) (state : Thread σ) : Machine σ :=
  { machine with threads := machine.threads.setIfInBounds thread.index state }

/-- Fail the classes of all frames that a panic unwinds. -/
def unwind (store : Store) (frames : List (Frame σ)) : Store :=
  frames.foldl (fun sofar frame => sofar.settle frame.cls .unwound) store

/-- The next step of a thread with a control and frames; none if it has to wait. -/
def stepRunning (code : HostCode σ) (machine : Machine σ) (thread : ThreadId)
    (control : Program σ (Except Fault Unit)) (frames : List (Frame σ)) : Option (Machine σ) :=
  let goOn (machine : Machine σ) (control : Program σ (Except Fault Unit)) :=
    some (machine.setThread thread (.running control frames))
  match control with
  | .done outcome =>
      match frames with
      | [] => some (machine.setThread thread (.finished outcome))
      | frame :: outer =>
          let reason := match outcome with
            | .ok _ => none
            | .error fault => some (fault.message machine.store.hierarchy)
          some ({ machine with
              store := machine.store.settle frame.cls (.settled reason) }.setThread thread
            (.running (frame.resume reason) outer))
  | .act action next =>
      if action.isBarred machine.store then none
      else
        match action.perform thread machine.store with
        | none => none
        | some (answer, store) => goOn { machine with store } (next answer)
  | .host work next =>
      let (answer, host) := work machine.host machine.store
      goOn { machine with host } (next answer)
  | .initialise cls next =>
      match (machine.store.hierarchy.row cls).initializer with
      | none => goOn { machine with store := machine.store.settle cls .done } (next none)
      | some initializer =>
          some (machine.setThread thread
            (.running (code.initializer initializer cls).run ({ cls, resume := next } :: frames)))
  | .escalate foreign cls next => goOn machine ((code.escalation foreign cls).run.bind next)
  | .fork body next =>
      let (started, forked) := machine.start (code.body body)
      goOn forked (next started)
  | .join awaited next =>
      (machine.ending? awaited).bind fun message => goOn machine (next message)
  | .panic message =>
      some ({ machine with store := unwind machine.store frames }.setThread thread
        (.panicked message))

/-- The next step of a thread; none if it has ended or has to wait. -/
def step (code : HostCode σ) (machine : Machine σ) (thread : ThreadId) : Option (Machine σ) :=
  match machine.threads[thread.index]? with
  | some (.running control frames) => machine.stepRunning code thread control frames
  | some (.finished _) | some (.panicked _) | none => none

/-- Everything that can happen next. -/
inductive Step (code : HostCode σ) (before after : Machine σ) : Prop where
  | of (thread : ThreadId) (moved : before.step code thread = some after)

/-- Zero or more steps of any threads. -/
inductive Steps (code : HostCode σ) (start : Machine σ) : Machine σ -> Prop where
  | refl : Steps code start start
  | step {current next : Machine σ} (prior : Steps code start current)
      (last : Step code current next) : Steps code start next

/-- The step of the first thread, from a position on, that can move. -/
def stepFrom (code : HostCode σ) (machine : Machine σ) : Nat -> Nat -> Option (Machine σ)
  | 0, _ => none
  | remaining + 1, position =>
      match machine.step code ⟨position⟩ with
      | some moved => some moved
      | none => stepFrom code machine remaining (position + 1)

/-- Let the first thread that can move take steps, at most `fuel` of them, until none can. -/
def run (code : HostCode σ) : Nat -> Machine σ -> Machine σ
  | 0, machine => machine
  | fuel + 1, machine =>
      match machine.stepFrom code machine.threads.size 0 with
      | none => machine
      | some moved => run code fuel moved

/-- What is found by looking for a thread that can move is a step. -/
theorem step_of_stepFrom {code : HostCode σ} {machine moved : Machine σ} {remaining position : Nat}
    (found : machine.stepFrom code remaining position = some moved) : Step code machine moved := by
  induction remaining generalizing position with
  | zero => cases found
  | succ remaining inductionHypothesis =>
      unfold stepFrom at found
      split at found
      · rename_i next taken
        cases found
        exact .of _ taken
      · exact inductionHypothesis found

/-- A run takes steps. -/
theorem steps_run (code : HostCode σ) (fuel : Nat) (start machine : Machine σ)
    (reached : Steps code start machine) : Steps code start (run code fuel machine) := by
  induction fuel generalizing machine with
  | zero => exact reached
  | succ fuel inductionHypothesis =>
      unfold run
      split
      · exact reached
      · rename_i moved found
        exact inductionHypothesis moved (.step reached (step_of_stepFrom found))

end Machine

end GuestTypes
