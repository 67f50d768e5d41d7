import GuestTypes.Proofs.Interference
import GuestTypes.Proofs.Turns

/-!
# Machines keep the rules

A machine whose host code keeps to a discipline keeps to it as a whole: every step of every
thread is one that the discipline allows (`Kept.step`), and so is every run (`Kept.steps`).
What is kept of a running thread is that the rest of its program is safe. A static
initializer that it runs was safe from its start, and the program that waits in the frame is
safe from wherever that initializer ends.
-/

namespace GuestTypes

namespace Discipline

variable {σ γ : Type} {rules : Discipline σ γ} {thread : ThreadId}

/-- The host code may be run by any idle thread, which it leaves idle. -/
structure Trusts (rules : Discipline σ γ) (code : HostCode σ) : Prop where
  initializer : forall thread initializer cls now, rules.Valid now -> rules.Idle thread now ->
    rules.Safe thread (code.initializer initializer cls).run
      (fun _ after => rules.Idle thread after ∧ rules.Leaves thread now after) now
  escalation : forall thread foreign cls now, rules.Valid now -> rules.Idle thread now ->
    rules.Safe thread (code.escalation foreign cls).run
      (fun _ after => rules.Idle thread after ∧ rules.Leaves thread now after) now
  body : forall thread body now, rules.Valid now -> rules.Idle thread now ->
    rules.Safe thread (code.body body).run
      (fun _ after => rules.Idle thread after ∧ rules.Leaves thread now after) now

/-- Each program that waits in a frame is safe once the code above it has ended. -/
def Awaited (rules : Discipline σ γ) (thread : ThreadId) :
    List (GuestTypes.Frame σ) -> Moment σ γ -> Prop
  | [], _ => True
  | frame :: outer, now => forall after reason, rules.Passes thread now after ->
      rules.Safe thread (frame.resume reason)
        (fun _ later => rules.Idle thread later ∧ Awaited rules thread outer later) after

/-- What the control of a thread must achieve for the frames below it. -/
abbrev Returns (rules : Discipline σ γ) (thread : ThreadId)
    (frames : List (GuestTypes.Frame σ)) : Except Fault Unit -> Moment σ γ -> Prop :=
  fun _ now => rules.Idle thread now ∧ rules.Awaited thread frames now

/-- The machine is at a moment of the discipline, and all its threads go on safely. -/
structure Kept (rules : Discipline σ γ) (machine : Machine σ) (now : Moment σ γ) : Prop where
  store : machine.store = now.store
  host : machine.host = now.host
  valid : rules.Valid now
  /-- Threads that will be started are idle. -/
  unborn : forall thread : ThreadId, machine.threads.size ≤ thread.index -> rules.Idle thread now
  running : forall thread control frames,
    machine.threads[thread.index]? = some (.running control frames) ->
      rules.Safe thread control (rules.Returns thread frames) now

namespace Kept

variable {machine : Machine σ} {now after : Moment σ γ}

/-- A thread took a step that is allowed, and goes on as it is safe to. -/
theorem moved (kept : rules.Kept machine now) {moved : Thread σ}
    (present : thread.index < machine.threads.size) (allowed : rules.Allows thread now after)
    (safe : forall control frames, moved = .running control frames ->
      rules.Safe thread control (rules.Returns thread frames) after) :
    rules.Kept
      ({ machine with store := after.store, host := after.host }.setThread thread moved)
      after where
  store := rfl
  host := rfl
  valid := allowed.valid
  unborn := by
    intro other beyond
    have beyond : machine.threads.size ≤ other.index := by
      simpa [Machine.setThread] using beyond
    have different : thread ≠ other := by
      rintro rfl
      omega
    exact rules.idle_moves different kept.valid allowed.moves (kept.unborn other beyond)
  running := by
    intro other control frames found
    by_cases same : thread = other
    · subst same
      simp only [Machine.setThread, Array.getElem?_setIfInBounds_self_of_lt present,
        Option.some.injEq] at found
      exact safe control frames found
    · have apart : thread.index ≠ other.index := by
        intro equal
        exact same (congrArg ThreadId.mk equal)
      simp only [Machine.setThread, Array.getElem?_setIfInBounds_ne apart] at found
      have around : rules.Around other now after :=
        .step .refl thread same kept.valid allowed
      exact (kept.running other control frames found).around around

/-- A thread is started. -/
theorem started (kept : rules.Kept machine now) {request : Request σ Unit}
    (safe : forall thread, rules.Idle thread now ->
      rules.Safe thread request.run (rules.Returns thread []) now) :
    rules.Kept (machine.start request).2 now where
  store := kept.store
  host := kept.host
  valid := kept.valid
  unborn := by
    intro other beyond
    apply kept.unborn other
    simp only [Machine.start, Array.size_push] at beyond
    omega
  running := by
    intro other control frames found
    simp only [Machine.start, Array.getElem?_push] at found
    split at found
    · rename_i last
      cases found
      exact safe other (kept.unborn other (by omega))
    · exact kept.running other control frames found

/-- The progress of initialisations changed, and nothing else. -/
theorem settled (progress : Table InitState) (valid : rules.Valid now)
    (idle : rules.Idle thread now) :
    rules.Allows thread now (now.withProgress progress) ∧
      rules.Passes thread now (now.withProgress progress) := by
  obtain ⟨stays, moves, stillIdle, leaves⟩ := rules.progress progress valid idle
  exact ⟨⟨stays, moves⟩, .step .refl thread trivial valid ⟨stays, moves⟩, leaves, stillIdle⟩

/-- One step of a machine is one step of the discipline. -/
theorem step {code : HostCode σ} (trusts : rules.Trusts code) {next : Machine σ}
    (kept : rules.Kept machine now) (stepped : machine.step code thread = some next) :
    exists after, rules.Allows thread now after ∧ rules.Kept next after := by
  have stays : rules.Allows thread now now := ⟨kept.valid, rules.moves_refl _ _⟩
  obtain ⟨store, host, threads⟩ := machine
  obtain ⟨rfl, rfl⟩ : store = now.store ∧ host = now.host := ⟨kept.store, kept.host⟩
  obtain ⟨control, frames, found, turn⟩ := Machine.step_eq_some_iff.mp stepped
  have present : thread.index < threads.size := (Array.getElem?_eq_some_iff.mp found).1
  have safe := kept.running thread control frames found
  cases turn with
  | ended outcome => exact ⟨now, stays, kept.moved present stays (by rintro _ _ ⟨⟩)⟩
  | resumed outcome frame outer =>
      obtain ⟨idle, awaited⟩ := safe now .refl
      obtain ⟨allowed, passes⟩ := settled _ kept.valid idle
      refine ⟨_, allowed, kept.moved present allowed ?_⟩
      rintro control frames ⟨⟩
      exact awaited _ _ passes
  | acted answer store performed =>
      obtain ⟨ghost, allowed, goesOn⟩ := safe now .refl answer store performed
      refine ⟨_, allowed, kept.moved present allowed ?_⟩
      rintro control frames ⟨⟩
      exact goesOn
  | worked work rest frames =>
      obtain ⟨-, ghost, allowed, goesOn⟩ := safe now .refl
      refine ⟨_, allowed, kept.moved present allowed ?_⟩
      rintro control frames ⟨⟩
      exact goesOn
  | settled none_ =>
      obtain ⟨idle, goesOn⟩ := safe now .refl
      obtain ⟨allowed, passes⟩ := settled _ kept.valid idle
      refine ⟨_, allowed, kept.moved present allowed ?_⟩
      rintro control frames ⟨⟩
      exact goesOn _ none passes
  | @entered cls rest _ initializer has =>
      obtain ⟨idle, goesOn⟩ := safe now .refl
      refine ⟨now, stays, kept.moved present stays ?_⟩
      rintro control frames ⟨⟩
      apply (trusts.initializer thread initializer cls now kept.valid idle).weaken kept.valid
      intro _ middle onward _ ended
      exact ⟨ended.1, fun after reason further =>
        goesOn after reason (Passes.trans ⟨onward, ended.2, ended.1⟩ further)⟩
  | escalated foreign cls rest frames =>
      obtain ⟨idle, goesOn⟩ := safe now .refl
      refine ⟨now, stays, kept.moved present stays ?_⟩
      rintro control frames ⟨⟩
      have trusted : rules.Safe thread (code.escalation foreign cls).run
          (fun _ after => rules.Passes thread now after) now :=
        (trusts.escalation thread foreign cls now kept.valid idle).weaken kept.valid
          fun _ after onward _ ended => ⟨onward, ended.2, ended.1⟩
      exact Safe.bind trusted kept.valid fun outcome after _ ended =>
        goesOn after outcome (ended after .refl)
  | forked body rest frames =>
      have trusted : forall thread, rules.Idle thread now ->
          rules.Safe thread (code.body body).run (rules.Returns thread []) now :=
        fun thread idle => (trusts.body thread body now kept.valid idle).weaken kept.valid
          fun _ _ _ _ ended => ⟨ended.1, trivial⟩
      have begun := kept.started trusted
      refine ⟨now, stays, begun.moved ?_ stays ?_⟩
      · simp only [Machine.start, Array.size_push]
        omega
      · rintro control frames ⟨⟩
        exact (safe now .refl).2 _
  | joined message heard =>
      refine ⟨now, stays, kept.moved present stays ?_⟩
      rintro control frames ⟨⟩
      exact (safe now .refl).2 message
  | panicked message frames =>
      have idle := safe now .refl
      obtain ⟨progress, unwound⟩ := Machine.unwind_progress now.store frames
      obtain ⟨allowed, -⟩ := settled progress kept.valid idle
      rw [unwound]
      exact ⟨_, allowed, kept.moved present allowed (by rintro _ _ ⟨⟩)⟩

/-- A run of a machine is a run of the discipline. -/
theorem steps {code : HostCode σ} (trusts : rules.Trusts code) {later : Machine σ}
    (kept : rules.Kept machine now) (steps : Machine.Steps code machine later) :
    exists after, rules.Onward now after ∧ rules.Kept later after := by
  induction steps with
  | refl => exact ⟨now, .refl, kept⟩
  | step _ last inductionHypothesis =>
      obtain ⟨middle, onward, reached⟩ := inductionHypothesis
      obtain ⟨mover, moved⟩ := last
      obtain ⟨after, allowed, next⟩ := reached.step trusts moved
      exact ⟨after, onward.step mover trivial reached.valid allowed, next⟩

end Kept

end Discipline

end GuestTypes
