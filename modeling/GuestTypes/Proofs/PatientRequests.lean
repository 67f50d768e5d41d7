import GuestTypes.Proofs.ForeignCode
import GuestTypes.Proofs.IndexTable

/-!
# Requests that only wait

A patient program reads the store, looks classes up, and waits for classes that are being
initialised. It enters no host code and asks no escalation, so what comes of it is decided by
what it finds. It relies on what other threads leave to it, and on two things that nothing undoes:
a class that somebody has begun to initialise stays begun, and a binding stays.
-/

namespace GuestTypes

variable {σ α β : Type} {thread mover : ThreadId} {cls : ClassId}

/-- The action reads the store, looks a class up, gives back the guard that it took for that, or
waits until a class is settled. -/
def Action.Patient : Action β -> Prop
  | .observe _ | .claim _ | .registry _ (.firstLookup _) | .release _ => True
  | _ => False

namespace Store

/-- What a patient thread relies on. -/
structure Endures (thread : ThreadId) (before after : Store) : Prop where
  leaves : before.Leaves thread after
  begun : forall cls, before.initState cls ≠ .unstarted -> after.initState cls ≠ .unstarted
  bindings : forall registry, HoldsOn registry before after

/-- A patient thread can endure that nothing happens. -/
theorem Endures.refl (thread : ThreadId) (store : Store) : store.Endures thread store :=
  ⟨.refl thread store, fun _ => id, fun _ _ _ => id⟩

/-- What can be endured twice in turn can be endured at once. -/
theorem Endures.trans {before middle after : Store} (first : before.Endures thread middle)
    (last : middle.Endures thread after) : before.Endures thread after where
  leaves := first.leaves.trans last.leaves
  begun := fun cls begun => last.begun cls (first.begun cls begun)
  bindings := fun registry cls rep bound =>
    last.bindings registry cls rep (first.bindings registry cls rep bound)

end Store

/-- An action changes the state of a class by claiming it at most. -/
theorem Action.initState_perform {action : Action β} {answer : β} {before after : Store}
    (performed : action.perform thread before = some (answer, after)) (cls : ClassId) :
    after.initState cls = before.initState cls ∨
      before.initState cls = .unstarted ∧ after.initState cls = .running thread := by
  cases action with
  | claim claimed =>
      obtain ⟨state, claims, rfl⟩ := performed_claim performed
      rw [Store.initState_settle]
      by_cases same : claimed = cls
      · subst same
        rw [if_pos rfl]
        by_cases begun : before.initState claimed = .unstarted
        · rw [begun] at claims
          cases claims
          exact .inr ⟨begun, rfl⟩
        · exact .inl (InitState.claim_begun claims begun)
      · exact .inl (if_neg same)
  | factory id step =>
      obtain ⟨changed, -, same⟩ := Option.map_eq_some_iff.mp performed
      cases same
      exact .inl rfl
  | _ =>
      cases performed
      exact .inl rfl

/-- A patient action disturbs nobody. -/
theorem Action.Patient.endures {action : Action β} {answer : β} {before after : Store}
    (patient : action.Patient) (performed : action.perform thread before = some (answer, after)) :
    before.Endures thread after := by
  refine ⟨Action.leaves performed thread, fun cls begun => ?_, fun registry other rep bound => ?_⟩
  · rw [(Action.begun_kept performed).2 cls begun]
    exact begun
  · cases action with
    | observe view =>
        cases performed
        exact bound
    | claim cls =>
        obtain ⟨state, -, rfl⟩ := Action.performed_claim performed
        exact bound
    | release id =>
        cases performed
        exact bound
    | registry asked step =>
        cases step with
        | firstLookup cls =>
            obtain ⟨-, rfl⟩ := perform_registry performed
            exact bound.step
        | _ => exact patient.elim
    | _ => exact patient.elim

/-! ## Patient programs -/

/-- The program takes patient actions only, and its answer meets the postcondition, whatever
happens meanwhile that the thread can endure. -/
def Program.Patient (thread : ThreadId) : Program σ α -> Store -> (α -> Store -> Prop) -> Prop
  | .done answer, now, post => forall later, now.Endures thread later -> post answer later
  | .act action next, now, post => action.Patient ∧ forall later, now.Endures thread later ->
      forall answer after, action.perform thread later = some (answer, after) ->
        Patient thread (next answer) after post
  | .host _ _, _, _ | .initialise _ _, _, _ | .escalate _ _ _, _, _ | .fork _ _, _, _
  | .join _ _, _, _ | .panic _, _, _ => False

namespace Program.Patient

variable {program : Program σ α} {now later : Store} {post other : α -> Store -> Prop}

/-- What a patient program can endure does not matter. -/
theorem around (patient : program.Patient thread now post) (endures : now.Endures thread later) :
    program.Patient thread later post := by
  cases program with
  | done answer => exact fun last further => patient last (endures.trans further)
  | act action next =>
      exact ⟨patient.1, fun last further => patient.2 last (endures.trans further)⟩
  | _ => exact patient.elim

/-- More may be promised than is needed. -/
theorem weaken (patient : program.Patient thread now post)
    (implies : forall answer after, post answer after -> other answer after) :
    program.Patient thread now other := by
  induction program generalizing now with
  | done answer => exact fun later endures => implies answer later (patient later endures)
  | act action next inductionHypothesis =>
      exact ⟨patient.1, fun later endures answer after performed =>
        inductionHypothesis answer (patient.2 later endures answer after performed)⟩
  | _ => exact patient.elim

/-- A patient program is followed by another one that goes on from its answer. -/
theorem bind {next : α -> Program σ β} {post : β -> Store -> Prop}
    (first : program.Patient thread now fun answer after =>
      (next answer).Patient thread after post) :
    (program.bind next).Patient thread now post := by
  induction program generalizing now with
  | done answer => exact first now (.refl thread now)
  | act action after inductionHypothesis =>
      exact ⟨first.1, fun later endures answer store performed =>
        inductionHypothesis answer (first.2 later endures answer store performed)⟩
  | _ => exact first.elim

end Program.Patient

/-- A request is followed by another one, or by nothing if it is refused. -/
def Request.Patiently (thread : ThreadId) (rest : α -> Request σ β)
    (post : Except Fault β -> Store -> Prop) : Except Fault α -> Store -> Prop
  | .ok answer, after => (rest answer).run.Patient thread after post
  | .error fault, after => forall later, after.Endures thread later -> post (.error fault) later

/-- A request is followed by another one, or by nothing if it is refused. -/
theorem Program.Patient.andThen {request : Request σ α} {rest : α -> Request σ β} {now : Store}
    {post : Except Fault β -> Store -> Prop}
    (first : request.run.Patient thread now (Request.Patiently thread rest post)) :
    (request >>= rest).run.Patient thread now post := by
  apply Program.Patient.bind
  apply first.weaken
  intro outcome after follows
  cases outcome with
  | ok answer => exact follows
  | error fault => exact follows

/-- One patient action. -/
theorem Program.Patient.perform {action : Action α} {now : Store}
    {post : Except Fault α -> Store -> Prop} (patient : action.Patient)
    (step : forall later, now.Endures thread later -> forall answer after,
      action.perform thread later = some (answer, after) ->
        forall last, after.Endures thread last -> post (.ok answer) last) :
    (Request.perform action : Request σ α).run.Patient thread now post :=
  ⟨patient, step⟩

/-! ## Steps -/

namespace Machine

section Steps

variable {code : HostCode σ} {machine next : Machine σ}

/-- How the state of a class changes in a step: it is claimed, or its initializer is left, or it
has none. -/
theorem initState_step (stepped : machine.step code thread = some next) (cls : ClassId) :
    next.store.initState cls = machine.store.initState cls ∨
      machine.store.initState cls = .unstarted ∧ next.store.initState cls = .running thread ∨
      machine.Inside thread cls ∧ (next.store.initState cls).Ended ∨
      next.store.initState cls = .done := by
  obtain ⟨control, frames, found, turn⟩ := step_eq_some_iff.mp stepped
  cases turn with
  | resumed outcome frame outer =>
      by_cases same : frame.cls = cls
      · right; right; left
        refine ⟨⟨_, _, found, by simp [same]⟩, ?_⟩
        show ((machine.store.settle frame.cls _).initState cls).Ended
        rw [Store.initState_settle, if_pos same]
        exact InitState.ended_settled _
      · left
        show (machine.store.settle frame.cls _).initState cls = _
        rw [Store.initState_settle, if_neg same]
  | acted answer store performed => exact (Action.initState_perform performed cls).imp_right .inl
  | @settled settled _ _ none_ =>
      by_cases same : settled = cls
      · right; right; right
        show (machine.store.settle settled .done).initState cls = .done
        rw [Store.initState_settle, if_pos same]
      · left
        show (machine.store.settle settled .done).initState cls = _
        rw [Store.initState_settle, if_neg same]
  | panicked message frames =>
      by_cases member : cls ∈ frames.map (·.cls)
      · right; right; left
        refine ⟨⟨_, _, found, member⟩, ?_⟩
        show ((unwind machine.store frames).initState cls).Ended
        rw [initState_unwind, if_pos member]
        trivial
      · left
        show (unwind machine.store frames).initState cls = _
        rw [initState_unwind, if_neg member]
  | ended _ | worked _ _ _ | entered _ _ | escalated _ _ _ _ | forked _ _ _ | joined _ _ =>
      exact .inl rfl

/-- A class that somebody has begun to initialise stays begun. -/
theorem begun_step (stepped : machine.step code mover = some next)
    (begun : machine.store.initState cls ≠ .unstarted) :
    next.store.initState cls ≠ .unstarted := by
  rcases initState_step stepped cls with same | ⟨unstarted, -⟩ | ⟨-, ended⟩ | done
  · rw [same]
    exact begun
  · exact absurd unstarted begun
  · intro unstarted
    rw [unstarted] at ended
    exact ended
  · rw [done]
    nofun

/-- Whoever is inside an initializer was so before the step, or has just entered it. -/
theorem inside_step {other : ThreadId} (stepped : machine.step code mover = some next)
    (inside : next.Inside other cls) :
    machine.Inside other cls ∨ other = mover ∧ machine.Entering mover cls := by
  obtain ⟨control, frames, found, turn⟩ := step_eq_some_iff.mp stepped
  have present : mover.index < machine.threads.size := (Array.getElem?_eq_some_iff.mp found).1
  obtain ⟨current, around, running, member⟩ := inside
  -- What the mover goes on with, in frames that it had.
  have went : forall (store : Store) (host : σ) (state : Thread σ),
      (forall control inner, state = .running control inner -> inner ⊆ frames) ->
      ({ machine with store, host }.setThread mover state).threads[other.index]? =
        some (.running current around) -> machine.Inside other cls := by
    intro store host state kept is
    by_cases same : other = mover
    · subst same
      have moved : ({ machine with store, host }.setThread other state).threads[other.index]? =
          some state := thread_self state present
      obtain rfl := Option.some.inj (moved.symm.trans is)
      exact ⟨_, _, found, List.map_subset _ (kept _ _ rfl) member⟩
    · exact ⟨_, _, (thread_other state same).symm.trans is, member⟩
  cases turn with
  | ended _ | panicked _ _ => exact .inl (went _ _ _ (by rintro _ _ ⟨⟩) running)
  | resumed outcome frame outer =>
      refine .inl (went _ _ _ ?_ running)
      rintro _ _ ⟨⟩
      exact List.subset_cons_self frame outer
  | @entered _ rest _ initializer has =>
      by_cases same : other = mover
      · subst same
        rw [thread_self _ present] at running
        cases running
        rcases List.mem_cons.mp member with rfl | member
        · exact .inr ⟨rfl, rest, frames, initializer, found, has⟩
        · exact .inl ⟨_, _, found, member⟩
      · exact .inl ⟨_, _, (thread_other _ same).symm.trans running, member⟩
  | forked body rest frames =>
      left
      by_cases same : other = mover
      · subst same
        rw [thread_self _ (by simp only [start, Array.size_push]; omega)] at running
        cases running
        exact ⟨_, _, found, member⟩
      · have started := (thread_other _ same).symm.trans running
        simp only [start, Array.getElem?_push] at started
        split at started
        · cases started
          cases member
        · exact ⟨_, _, started, member⟩
  | acted _ _ _ | worked _ _ _ | settled _ | escalated _ _ _ _ | joined _ _ =>
      refine .inl (went _ _ _ ?_ running)
      rintro _ _ ⟨⟩
      exact List.Subset.refl _

end Steps

section Reachable

variable {code : ClientCode σ} {machine next last : Machine (Clients σ)}
  {frames : List (GuestTypes.Frame (Clients σ))}

/-- What other threads do can be endured. -/
theorem Reachable.endures_step (reachable : machine.Reachable code)
    (moved : machine.step code.host mover = some next) (different : thread ≠ mover) :
    machine.store.Endures thread next.store where
  leaves := reachable.leaves_step moved different
  begun := fun _ => begun_step moved
  bindings := fun _ _ _ => reachable.bound_later (.step .refl ⟨mover, moved⟩)

/-- A thread that runs a patient program is on the way to its answer, or has gone on with it. -/
theorem Reachable.patient_steps {program : Program (Clients σ) α} {post : α -> Store -> Prop}
    {rest : α -> Program (Clients σ) (Except Fault Unit)}
    (reachable : machine.Reachable code) (patient : program.Patient thread machine.store post)
    (running : machine.threads[thread.index]? = some (.running (program.bind rest) frames))
    (steps : Machine.Steps code.host machine last) :
    (exists further : Program (Clients σ) α,
      last.threads[thread.index]? = some (.running (further.bind rest) frames) ∧
        further.Patient thread last.store post) ∨
    exists answer middle, Machine.Steps code.host machine middle ∧
      middle.threads[thread.index]? = some (.running (rest answer) frames) ∧
        post answer middle.store ∧ Machine.Steps code.host middle last := by
  induction steps with
  | refl => exact .inl ⟨program, running, patient⟩
  | @step current next prior last inductionHypothesis =>
      rcases inductionHypothesis with
        ⟨further, found, patient⟩ | ⟨answer, middle, before, found, meets, after⟩
      · obtain ⟨mover, moved⟩ := last
        by_cases own : thread = mover
        · subst own
          have present := (Array.getElem?_eq_some_iff.mp found).1
          cases further with
          | done answer =>
              exact .inr ⟨answer, current, prior, found, patient _ (.refl _ _),
                .step .refl ⟨thread, moved⟩⟩
          | act action after =>
              left
              cases turn_of_running found moved with
              | acted answer store performed =>
                  exact ⟨after answer, thread_self _ present,
                    patient.2 _ (.refl _ _) answer store performed⟩
          | _ => exact patient.elim
        · left
          refine ⟨further, thread_stepped own found moved, patient.around ?_⟩
          exact (reachable.steps prior).endures_step moved own
      · exact .inr ⟨answer, middle, before, found, meets, .step after last⟩

end Reachable

end Machine

end GuestTypes
