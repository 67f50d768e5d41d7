import GuestTypes.Action
import GuestTypes.Fault

/-!
# Programs

A program is what a thread still has to do. Besides actions on the store it may run the
static initializer of a class or a foreign escalation, which are host code found by number,
and start or await other threads. Host code keeps a state of its own, `σ`, which the kernel
neither reads nor writes. A `Request` is a program that ends with an answer or a fault.
-/

namespace GuestTypes

/-- What a thread still has to do before it answers with an `α`. -/
inductive Program (σ α : Type) : Type 1 where
  | done (answer : α)
  | act {β : Type} (action : Action β) (next : β -> Program σ α)
  /-- Host code works on its own state, with a view of the store. -/
  | host {β : Type} (work : σ -> Store -> β × σ) (next : β -> Program σ α)
  /-- Run the static initializer of a class that this thread has claimed. It goes on with the
  reason if the initializer fails. -/
  | initialise (cls : ClassId) (next : Option String -> Program σ α)
  /-- Ask foreign code for the representation of a class. -/
  | escalate (code : CodeId) (cls : ClassId)
      (next : Except Fault Representation -> Program σ α)
  /-- Start a thread. -/
  | fork (code : CodeId) (next : ThreadId -> Program σ α)
  /-- Wait until a thread has ended. It goes on with the message if that thread panicked. -/
  | join (thread : ThreadId) (next : Option String -> Program σ α)
  /-- Give up, and with it all initializers that this thread is running. -/
  | panic (message : String)

namespace Program

variable {σ α β : Type}

/-- Go on with a second program. -/
def bind : Program σ α -> (α -> Program σ β) -> Program σ β
  | done answer, next => next answer
  | act action after, next => act action fun answer => (after answer).bind next
  | host work after, next => host work fun answer => (after answer).bind next
  | initialise cls after, next => initialise cls fun reason => (after reason).bind next
  | escalate code cls after, next => escalate code cls fun answer => (after answer).bind next
  | fork code after, next => fork code fun thread => (after thread).bind next
  | join thread after, next => join thread fun message => (after message).bind next
  | panic message, _ => panic message

instance : Monad (Program σ) where
  pure := done
  bind := bind

/-! ## Sequencing is associative, and doing nothing changes nothing -/

/-- A program that ends where it could go on is the same program. -/
theorem bind_done (program : Program σ α) : program.bind done = program := by
  induction program with
  | done answer => rfl
  | act action next inductionHypothesis => simp [bind, inductionHypothesis]
  | host work next inductionHypothesis => simp [bind, inductionHypothesis]
  | initialise cls next inductionHypothesis => simp [bind, inductionHypothesis]
  | escalate code cls next inductionHypothesis => simp [bind, inductionHypothesis]
  | fork code next inductionHypothesis => simp [bind, inductionHypothesis]
  | join thread next inductionHypothesis => simp [bind, inductionHypothesis]
  | panic message => rfl

/-- Programs that follow one another may be grouped in any way. -/
theorem bind_bind {γ : Type} (program : Program σ α) (middle : α -> Program σ β)
    (last : β -> Program σ γ) :
    (program.bind middle).bind last = program.bind fun answer => (middle answer).bind last := by
  induction program with
  | done answer => rfl
  | act action next inductionHypothesis => simp [bind, inductionHypothesis]
  | host work next inductionHypothesis => simp [bind, inductionHypothesis]
  | initialise cls next inductionHypothesis => simp [bind, inductionHypothesis]
  | escalate code cls next inductionHypothesis => simp [bind, inductionHypothesis]
  | fork code next inductionHypothesis => simp [bind, inductionHypothesis]
  | join thread next inductionHypothesis => simp [bind, inductionHypothesis]
  | panic message => rfl

instance : LawfulMonad (Program σ) :=
  LawfulMonad.mk' _ bind_done (fun _ _ => rfl) bind_bind

/-- The program of a single action. -/
def perform (action : Action α) : Program σ α := act action done

/-- Look at the store. -/
def observe (view : Store -> α) : Program σ α := perform (.observe view)

/-- Work of host code on its own state. -/
def hosted (work : σ -> Store -> α × σ) : Program σ α := host work done

end Program

/-- A program that may be refused. -/
abbrev Request (σ : Type) := ExceptT Fault (Program σ)

namespace Request

variable {σ α : Type}

/-- An action as part of a request. -/
def perform (action : Action α) : Request σ α := ExceptT.lift (Program.perform action)

/-- Look at the store. -/
def observe (view : Store -> α) : Request σ α := perform (.observe view)

/-- Do some work of which a fault is an answer, not an end. -/
def attempt (work : Request σ α) : Request σ (Except Fault α) := ExceptT.lift work.run

/-- A request whose answer or fault is known. -/
def ofExcept (outcome : Except Fault α) : Request σ α := ExceptT.mk (pure outcome)

end Request

end GuestTypes
