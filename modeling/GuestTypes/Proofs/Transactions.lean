import GuestTypes.Proofs.CreationOutcome
import GuestTypes.Proofs.ForeignCode

/-!
# Requests to a factory are transactions

Whatever a request prepares in the workshop of a factory is published or discarded before the
request ends. So the workshop is empty whenever the lock is free, and what is found in it
otherwise comes from the request under way: the thread that holds the lock has found the workshop
empty, and nobody else has changed the factory since.
-/

namespace GuestTypes

variable {σ : Type} {thread : ThreadId} {factory : FactoryId} {cls : ClassId}

/-! ## Looking at rest -/

/-- What a factory at rest finds for a class is what its registry binds it to. -/
theorem Scene.AttainsOn.find {scene : Scene} (free : scene.factory.lock = .free)
    (resting : scene.factory.workshop = {}) :
    scene.Attains (σ := σ) thread factory (factory.find cls) fun outcome next =>
      outcome = .ok (scene.bound cls) ∧ next = scene := by
  apply locked free
  apply found
  have sees : scene.sees cls = scene.bound cls := by
    simp [Scene.sees, Workshop.prepared, resting]
  refine ⟨rfl, congrArg Except.ok sees, ?_⟩
  rw [← free]

/-! ## Runs under a lock -/

namespace Machine

/-- A call that has not been answered in the first machine has not been in the second one. -/
def Pends (before after : Machine (Clients σ)) : Prop :=
  forall (number : Nat) record, before.host.calls[number]? = some record ->
    record.answer = none -> after.host.calls[number]? = some record

/-- A run in which the factory is left alone by all threads but one, while this one answers no
call. -/
inductive Tenure (code : HostCode (Clients σ)) (factory : FactoryId) (thread : ThreadId)
    (start : Machine (Clients σ)) : Machine (Clients σ) -> Prop where
  | refl : Tenure code factory thread start start
  | step {mover : ThreadId} {current next : Machine (Clients σ)}
      (prior : Tenure code factory thread start current)
      (moved : current.step code mover = some next)
      (own : mover = thread -> current.Pends next)
      (others : mover ≠ thread -> next.store.factory factory = current.store.factory factory) :
      Tenure code factory thread start next

variable {code : ClientCode σ} {machine : Machine (Clients σ)}

/-- Who takes actions only, and runs no host code, answers no call. -/
theorem Undivided.tenure {code : HostCode (Clients σ)} {start : Machine (Clients σ)}
    (undivided : start.Undivided code factory thread machine) :
    start.Tenure code factory thread machine := by
  induction undivided with
  | refl => exact .refl
  | step prior moved own others inductionHypothesis =>
      refine .step inductionHypothesis moved (fun same => ?_) others
      subst same
      obtain ⟨control, frames, found, action⟩ := own rfl
      have present := (Array.getElem?_eq_some_iff.mp found).1
      have host := ((turn_of_running found moved).action present action).1
      intro number record pending _
      rw [host]
      exact pending

/-- Whoever holds the lock of a factory took it when the workshop was empty, and nobody else has
changed the factory since. -/
theorem Reachable.tenure (reachable : machine.Reachable code)
    (held : (machine.store.factory factory).lock.isHeldBy thread = true) :
    exists start : Machine (Clients σ), start.Reachable code ∧
      (start.store.factory factory).lock = .free ∧ (start.store.factory factory).workshop = {} ∧
        start.Tenure code.host factory thread machine := by
  obtain ⟨start, started, free, empty, -, undivided⟩ := reachable.undivided held
  exact ⟨start, started, free, empty, undivided.tenure⟩

/-- What the workshop of a factory owes to being changed by transactions only. -/
structure Transacts (code : ClientCode σ) (machine : Machine (Clients σ)) (factory : FactoryId) :
    Prop where
  /-- No request is open, none is followed, and nothing is prepared. -/
  resting : (machine.store.factory factory).lock = .free ->
    (machine.store.factory factory).workshop =
      ({ depth := 0, tasks := [], unpublished := [] } : Workshop)
  /-- Whatever a call is answered with, nothing of it is left behind: the workshop is empty, or
  another thread is at work in it. -/
  concluded : forall thread next (number : Nat) call outcome,
    machine.step code.host thread = some next ->
      machine.host.calls[number]? = some ⟨call, none⟩ ->
        next.host.calls[number]? = some ⟨call, some outcome⟩ ->
          (next.store.factory factory).workshop = {} ∨
            exists other, other ≠ thread ∧
              (next.store.factory factory).lock.isHeldBy other = true
  /-- All that is in the workshop comes from the call that is under way. -/
  tenure : forall thread, (machine.store.factory factory).lock.isHeldBy thread = true ->
    exists start : Machine (Clients σ), start.Reachable code ∧
      (start.store.factory factory).lock = .free ∧ (start.store.factory factory).workshop = {} ∧
        start.Tenure code.host factory thread machine
  /-- At rest, what is found is what is published. -/
  found : (machine.store.factory factory).lock = .free -> forall thread cls,
    (factory.find cls : Request (Clients σ) (Option Representation)).run.Delivers thread
      (Store.Spares factory) machine.store fun outcome after =>
        outcome = .ok (machine.bound (machine.registryOf factory) cls) ∧
          after.factory factory = machine.store.factory factory ∧
            after.bound factory = machine.store.bound factory
  /-- Nothing was ever found that was not published, and it still is. -/
  published : forall cls rep, machine.Answered (.find factory cls) (some rep) ->
    machine.bound (machine.registryOf factory) cls = some rep

/-- The workshop of a factory is a transaction. -/
theorem workshop_transacts (reachable : machine.Reachable code) (factory : FactoryId) :
    machine.Transacts code factory := by
  obtain ⟨now, kept⟩ := reachable.kept
  have resting : (machine.store.factory factory).lock = .free ->
      (machine.store.factory factory).workshop = {} := by
    rw [kept.store]
    exact fun free => (kept.valid.resting factory free).1
  refine ⟨resting, ?_, fun thread held => reachable.tenure held, ?_, ?_⟩
  · intro thread next number call outcome moved found answered
    obtain ⟨after, allowed, reached⟩ := kept.step (trusts_host code) moved
    rw [kept.host] at found
    rw [reached.host] at answered
    have idle : after.world.Idle thread :=
      World.Moves.concluded allowed.moves number _ _ found answered rfl rfl
    rw [reached.store]
    cases lock : (after.store.factory factory).lock with
    | free => exact .inl (reached.valid.resting factory lock).1
    | held other again =>
        refine .inr ⟨other, ?_, beq_self_eq_true other⟩
        rintro rfl
        exact idle factory ⟨again, lock⟩
  · intro free thread cls
    have attains : (machine.store.scene factory).Attains (σ := Clients σ) thread factory
        (factory.find cls) _ := .find free (resting free)
    apply (attains machine.store (machine.store.fits_scene factory)).weaken
    rintro outcome after ⟨next, ⟨rfl, rfl⟩, fits⟩
    exact ⟨rfl, fits.factory, fits.bound⟩
  · intro cls rep answered
    unfold Answered at answered
    unfold Machine.bound registryOf
    rw [kept.host] at answered
    rw [kept.store]
    exact (kept.valid.served _ answered).2

/-- Host code that is refused a type which would adopt a free class and a bound one, and asks for a
type of the free class then. -/
def refusingTexts : Client Unit (Except Fault Unit) :=
  .call (.makeFactory {}) fun
    | .error fault => .done (.error fault)
    | .ok factory =>
        .call (.create factory { name := "text", primary := Builtin.text }) fun _ =>
          .call (.create factory {
            name := "texts", primary := Builtin.dict, adopted := [Builtin.int64, Builtin.text] })
            fun _ => .call (.create factory { name := "wide", primary := Builtin.int64 })
              fun _ => .done (.ok ())

/-- Of the refused type neither the name nor the binding of the free class is left. -/
theorem workshop_transacts_refusingTexts :
    let rest := Machine.run ClientCode.quiet.host 57 (opening refusingTexts ())
    let machine := Machine.run ClientCode.quiet.host 14 rest
    (FactoryId.find ⟨0⟩ Builtin.int64 : Request (Clients Unit) _).run.Delivers ⟨0⟩
      (Store.Spares ⟨0⟩) rest.store (fun outcome _ => outcome = .ok none) ∧
    (machine.store.factory ⟨0⟩).workshop.context = some "wide" ∧
    (machine.store.factory ⟨0⟩).workshop.unpublished = [(Builtin.int64, .canonical ⟨4⟩)] ∧
      exists start : Machine (Clients Unit), (start.store.factory ⟨0⟩).workshop = {} ∧
        start.Tenure ClientCode.quiet.host ⟨0⟩ ⟨0⟩ machine := by
  intro rest machine
  have reachable : rest.Reachable ClientCode.quiet :=
    reachable_run ClientCode.quiet refusingTexts () 57
  have steps : Steps ClientCode.quiet.host rest machine :=
    steps_run ClientCode.quiet.host 14 _ _ .refl
  have free : (rest.store.factory ⟨0⟩).lock = .free := by decide +kernel
  have unbound : rest.bound (rest.registryOf ⟨0⟩) Builtin.int64 = none := by decide +kernel
  have held : (machine.store.factory ⟨0⟩).lock.isHeldBy ⟨0⟩ = true := by decide +kernel
  have context : (machine.store.factory ⟨0⟩).workshop.context = some "wide" := by decide +kernel
  have unpublished : (machine.store.factory ⟨0⟩).workshop.unpublished =
      [(Builtin.int64, .canonical ⟨4⟩)] := by decide +kernel
  clear_value rest machine
  refine ⟨?_, context, unpublished, ?_⟩
  · apply ((workshop_transacts reachable ⟨0⟩).found free ⟨0⟩ Builtin.int64).weaken
    rintro outcome after ⟨rfl, -⟩
    rw [unbound]
  · obtain ⟨start, -, -, empty, tenure⟩ :=
      (workshop_transacts (reachable.steps steps) ⟨0⟩).tenure ⟨0⟩ held
    exact ⟨start, empty, tenure⟩

end Machine

end GuestTypes
