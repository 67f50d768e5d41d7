import GuestTypes.Proofs.Turns

/-!
# Guards of registries

A thread takes the guard of a registry with the action that reads or writes the bindings, and gives
it back with its next action. `Program.GivesBack` says so of a program, action by action. Where all
code of a machine does, the threads that hold a guard are those that are about to give it back
(`Machine.Guarded`). Then a thread that writes is alone with the bindings, no thread waits for a
guard for long (`Machine.Guarded.eases`), and none enters host code while it holds one.
-/

namespace GuestTypes

variable {σ α β : Type} {thread other : ThreadId} {registry : RegistryId} {access : Access}

namespace Guard

variable {guard : Guard}

/-- No thread holds the guard twice, and whoever writes is alone. -/
structure Sound (guard : Guard) : Prop where
  once : (guard.holders.map (·.1)).Nodup
  alone : forall thread, (thread, .writing) ∈ guard.holders -> guard.holders = [(thread, .writing)]

/-- A guard is held by the threads that are listed with it. -/
theorem isHeldBy_iff : guard.isHeldBy thread = true ↔ thread ∈ guard.holders.map (·.1) := by
  simp [isHeldBy, List.any_eq_true]

/-- A guard that is taken is held by the thread as well. -/
theorem isHeldBy_take :
    (guard.take thread access).isHeldBy other = true ↔
      other = thread ∨ guard.isHeldBy other = true := by
  simp [isHeldBy_iff, take]

/-- A guard that is given back is held by the others only. -/
theorem Sound.isHeldBy_give (sound : guard.Sound) :
    (guard.give thread).isHeldBy other = true ↔
      other ≠ thread ∧ guard.isHeldBy other = true := by
  have erased : (guard.give thread).holders.map (·.1) = (guard.holders.map (·.1)).erase thread := by
    rw [give, List.erase_eq_eraseP', List.eraseP_map]
    rfl
  rw [isHeldBy_iff, isHeldBy_iff, erased, sound.once.mem_erase_iff]

/-- A guard that nobody holds is sound. -/
theorem sound_free : ({} : Guard).Sound where
  once := List.nodup_nil
  alone := fun _ member => absurd member List.not_mem_nil

/-- A guard that admits a thread which does not hold it may be taken. -/
theorem Sound.take (sound : guard.Sound) (admitted : guard.admits access = true)
    (apart : guard.isHeldBy thread = false) : (guard.take thread access).Sound where
  once := by
    refine List.nodup_cons.mpr ⟨fun member => ?_, sound.once⟩
    cases apart.symm.trans (isHeldBy_iff.mpr member)
  alone := by
    intro writer member
    cases access with
    | writing =>
        have free : guard.holders = [] := List.isEmpty_iff.mp admitted
        simp only [Guard.take, free, List.mem_singleton] at member ⊢
        rw [member]
    | reading =>
        have reading := List.all_eq_true.mp admitted
        rcases List.mem_cons.mp member with same | member
        · cases same
        · cases reading _ member

/-- A sound guard is sound after a thread has given it back. -/
theorem Sound.give (sound : guard.Sound) (thread : ThreadId) : (guard.give thread).Sound where
  once := sound.once.sublist (List.eraseP_sublist.map _)
  alone := by
    intro writer member
    have found := List.mem_of_mem_eraseP member
    have holders := sound.alone writer found
    simp only [Guard.give, holders] at member ⊢
    by_cases same : writer = thread
    · simp [same] at member
    · simp [same]

end Guard

/-! ## Actions -/

namespace Action

/-- The registry whose guard the action takes. -/
def taken? : Action β -> Option RegistryId
  | .registry id step => step.access?.map fun _ => id
  | _ => none

/-- The registry whose guard the action gives back. -/
def given? : Action β -> Option RegistryId
  | .release id => some id
  | _ => none

/-- What an action of a thread does with the guards. -/
inductive Guards (thread : ThreadId) (action : Action β) (before after : Store) : Prop where
  | apart (taken : action.taken? = none) (given : action.given? = none)
      (same : forall registry, after.guard registry = before.guard registry)
  | takes (id : RegistryId) (access : Access) (taken : action.taken? = some id)
      (given : action.given? = none)
      (admitted : action.isBarred before = false -> (before.guard id).admits access = true)
      (guards : forall registry, after.guard registry =
        if id = registry then (before.guard id).take thread access else before.guard registry)
  | gives (id : RegistryId) (taken : action.taken? = none) (given : action.given? = some id)
      (guards : forall registry, after.guard registry =
        if id = registry then (before.guard id).give thread else before.guard registry)

/-- Changing the guard of a registry changes no other one. -/
theorem guard_set (store : Store) (id registry : RegistryId) (guard : Guard) :
    Store.guard { store with guards := store.guards.set id.index guard } registry =
      if id = registry then guard else store.guard registry := by
  unfold Store.guard
  rw [Table.get_set]
  cases id
  cases registry
  simp

/-- Every action does to the guards what it is said to do. -/
theorem guards_perform {action : Action β} {answer : β} {before after : Store}
    (performed : action.perform thread before = some (answer, after)) :
    action.Guards thread before after := by
  cases action with
  | claim cls =>
      obtain ⟨_, -, same⟩ := Option.map_eq_some_iff.mp performed
      cases same
      exact .apart rfl rfl fun _ => rfl
  | factory id step =>
      obtain ⟨_, -, same⟩ := Option.map_eq_some_iff.mp performed
      cases same
      exact .apart rfl rfl fun _ => rfl
  | release id =>
      cases performed
      exact .gives id rfl rfl (guard_set before id · _)
  | registry id step =>
      cases performed
      cases accesses : step.access? with
      | none =>
          refine .apart (by simp [taken?, accesses]) rfl fun registry => ?_
          refine (guard_set before id registry _).trans ?_
          simp only [Registry.Step.guarding, accesses]
          split
          · rename_i same
            rw [same]
          · rfl
      | some access =>
          refine .takes id access (by simp [taken?, accesses]) rfl (fun admitted => ?_)
            fun registry => ?_
          · simpa [isBarred, accesses] using admitted
          · refine (guard_set before id registry _).trans ?_
            simp only [Registry.Step.guarding, accesses]
  | _ =>
      cases performed
      exact .apart rfl rfl fun _ => rfl

namespace Guards

variable {action : Action β} {before after : Store}

/-- The thread holds just what the action took, if it held just what the action gives back. -/
theorem own (guards : action.Guards thread before after)
    (sound : forall registry, (before.guard registry).Sound)
    (held : forall registry, (before.guard registry).isHeldBy thread = true ↔
      action.given? = some registry) (registry : RegistryId) :
    (after.guard registry).isHeldBy thread = true ↔ action.taken? = some registry := by
  cases guards with
  | apart taken given same => rw [same, held, given, taken]
  | takes id access taken given admitted guards =>
      rw [guards, taken]
      by_cases same : id = registry
      · simp [same, Guard.isHeldBy_take]
      · simp [same, held, given]
  | gives id taken given guards =>
      rw [guards, taken]
      by_cases same : id = registry
      · simp [same, (sound registry).isHeldBy_give]
      · simp [same, held, given]

/-- Other threads hold what they held. -/
theorem others (guards : action.Guards thread before after)
    (sound : forall registry, (before.guard registry).Sound) (registry : RegistryId)
    (different : other ≠ thread) :
    (after.guard registry).isHeldBy other = true ↔
      (before.guard registry).isHeldBy other = true := by
  cases guards with
  | apart taken given same => rw [same]
  | takes id access taken given admitted guards =>
      rw [guards]
      by_cases same : id = registry
      · simp [same, Guard.isHeldBy_take, different]
      · simp [same]
  | gives id taken given guards =>
      rw [guards]
      by_cases same : id = registry
      · simp [same, (sound registry).isHeldBy_give, different]
      · simp [same]

/-- An action that is admitted leaves the guards sound, if a thread holds just the one that it gives
back. -/
theorem sound (guards : action.Guards thread before after)
    (sound : forall registry, (before.guard registry).Sound)
    (held : forall registry, (before.guard registry).isHeldBy thread = true ↔
      action.given? = some registry) (admitted : action.isBarred before = false)
    (registry : RegistryId) : (after.guard registry).Sound := by
  cases guards with
  | apart taken given same => exact same registry ▸ sound registry
  | takes id access taken given admits guards =>
      have apart : (before.guard id).isHeldBy thread = false := by
        rw [← Bool.not_eq_true, held, given]
        nofun
      rw [guards]
      split
      · exact (sound id).take (admits admitted) apart
      · exact sound registry
  | gives id taken given guards =>
      rw [guards]
      split
      · exact (sound id).give thread
      · exact sound registry

end Guards

end Action

/-! ## Programs -/

namespace Program

/-- The registry whose guard the program gives back with its next action. -/
def returned? : Program σ α -> Option RegistryId
  | .act action _ => action.given?
  | _ => none

/-- Whatever guard an action takes is given back by the next one, and no guard otherwise. -/
def GivesBack : Program σ α -> Prop
  | .done _ | .panic _ => True
  | .act action next => forall answer,
      (next answer).GivesBack ∧ (next answer).returned? = action.taken?
  | .host _ next => forall answer, (next answer).GivesBack ∧ (next answer).returned? = none
  | .initialise _ next => forall reason, (next reason).GivesBack ∧ (next reason).returned? = none
  | .escalate _ _ next => forall outcome,
      (next outcome).GivesBack ∧ (next outcome).returned? = none
  | .fork _ next => forall started, (next started).GivesBack ∧ (next started).returned? = none
  | .join _ next => forall message, (next message).GivesBack ∧ (next message).returned? = none

/-- The program holds no guard where it begins, nor where it ends. -/
structure Guarded (program : Program σ α) : Prop where
  givesBack : program.GivesBack
  free : program.returned? = none

/-- What is done holds no guard. -/
theorem Guarded.done (answer : α) : (Program.done answer : Program σ α).Guarded := ⟨trivial, rfl⟩

/-- What a program gives back first it gives back also when it is followed by another one. -/
theorem returned?_bind (program : Program σ α) {next : α -> Program σ β}
    (free : forall answer, (next answer).returned? = none) :
    (program.bind next).returned? = program.returned? := by
  cases program with
  | done answer => exact free answer
  | _ => rfl

/-- A program that gives back what it took may be followed by a guarded one. -/
theorem GivesBack.bind {program : Program σ α} {next : α -> Program σ β}
    (givesBack : program.GivesBack) (rest : forall answer, (next answer).Guarded) :
    (program.bind next).GivesBack := by
  have returned (further : Program σ α) : (further.bind next).returned? = further.returned? :=
    further.returned?_bind fun answer => (rest answer).free
  induction program with
  | done answer => exact (rest answer).givesBack
  | act action after inductionHypothesis =>
      exact fun answer => ⟨inductionHypothesis answer (givesBack answer).1,
        (returned _).trans (givesBack answer).2⟩
  | host work after inductionHypothesis =>
      exact fun answer => ⟨inductionHypothesis answer (givesBack answer).1,
        (returned _).trans (givesBack answer).2⟩
  | initialise cls after inductionHypothesis =>
      exact fun reason => ⟨inductionHypothesis reason (givesBack reason).1,
        (returned _).trans (givesBack reason).2⟩
  | escalate code cls after inductionHypothesis =>
      exact fun outcome => ⟨inductionHypothesis outcome (givesBack outcome).1,
        (returned _).trans (givesBack outcome).2⟩
  | fork code after inductionHypothesis =>
      exact fun started => ⟨inductionHypothesis started (givesBack started).1,
        (returned _).trans (givesBack started).2⟩
  | join awaited after inductionHypothesis =>
      exact fun message => ⟨inductionHypothesis message (givesBack message).1,
        (returned _).trans (givesBack message).2⟩
  | panic message => trivial

/-- Guarded programs follow one another. -/
theorem Guarded.bind {program : Program σ α} {next : α -> Program σ β}
    (guarded : program.Guarded) (rest : forall answer, (next answer).Guarded) :
    (program.bind next).Guarded where
  givesBack := guarded.givesBack.bind rest
  free := (program.returned?_bind fun answer => (rest answer).free).trans guarded.free

end Program

/-- All host code holds no guard where it begins, nor where it ends. -/
structure HostCode.Guarded (code : HostCode σ) : Prop where
  initializer : forall initializer cls, (code.initializer initializer cls).run.Guarded
  escalation : forall foreign cls, (code.escalation foreign cls).run.Guarded
  body : forall body, (code.body body).run.Guarded

/-! ## Machines -/

/-- The registry whose guard the thread is about to give back. -/
def Thread.returned? : Thread σ -> Option RegistryId
  | .running control _ => control.returned?
  | .finished _ | .panicked _ => none

namespace Machine

/-- The registry whose guard a thread is about to give back. -/
def returned? (machine : Machine σ) (thread : ThreadId) : Option RegistryId :=
  machine.threads[thread.index]?.bind Thread.returned?

/-- The holders of guards are the threads that are about to give one back. -/
structure Guarded (machine : Machine σ) : Prop where
  sound : forall registry, (machine.store.guard registry).Sound
  held : forall registry thread, (machine.store.guard registry).isHeldBy thread = true ↔
    machine.returned? thread = some registry
  running : forall (thread : ThreadId) control frames,
    machine.threads[thread.index]? = some (.running control frames) -> control.GivesBack
  frames : forall (thread : ThreadId) control frames,
    machine.threads[thread.index]? = some (.running control frames) ->
      forall frame, frame ∈ frames -> forall reason, (frame.resume reason).Guarded

section Steps

variable {code : HostCode σ} {machine next : Machine σ} {control : Program σ (Except Fault Unit)}
  {frames : List (Frame σ)}

/-- A running thread is about to give back what its program is. -/
theorem returned?_of_running
    (found : machine.threads[thread.index]? = some (.running control frames)) :
    machine.returned? thread = control.returned? := by
  unfold returned?
  rw [found]
  rfl

namespace Guarded

/-- A thread has gone on, and the guards are held as it is about to give them back. -/
theorem moved (guarded : machine.Guarded) {state : Thread σ} {store : Store} {host : σ}
    (present : thread.index < machine.threads.size)
    (sound : forall registry, (store.guard registry).Sound)
    (own : forall registry, (store.guard registry).isHeldBy thread = true ↔
      state.returned? = some registry)
    (others : forall registry other, other ≠ thread ->
      ((store.guard registry).isHeldBy other = true ↔
        (machine.store.guard registry).isHeldBy other = true))
    (going : forall control frames, state = .running control frames -> control.GivesBack ∧
      forall frame, frame ∈ frames -> forall reason, (frame.resume reason).Guarded) :
    Guarded ({ machine with store, host }.setThread thread state) := by
  have changed : ({ machine with store, host }.setThread thread state).threads[thread.index]? =
      some state := thread_self state present
  have stayed (other : ThreadId) (different : other ≠ thread) :
      ({ machine with store, host }.setThread thread state).threads[other.index]? =
        machine.threads[other.index]? := thread_other state different
  refine ⟨sound, fun registry other => ?_, fun other control frames found => ?_,
    fun other control frames found => ?_⟩
  · by_cases same : other = thread
    · subst same
      unfold returned?
      rw [changed]
      exact own registry
    · unfold returned?
      rw [stayed other same]
      exact (others registry other same).trans (guarded.held registry other)
  · by_cases same : other = thread
    · subst same
      exact (going control frames (Option.some.inj (changed.symm.trans found))).1
    · exact guarded.running other control frames ((stayed other same).symm.trans found)
  · by_cases same : other = thread
    · subst same
      exact (going control frames (Option.some.inj (changed.symm.trans found))).2
    · exact guarded.frames other control frames ((stayed other same).symm.trans found)

/-- A thread that holds no guard has gone on without taking one. -/
theorem stayed (guarded : machine.Guarded) {state : Thread σ} {store : Store} {host : σ}
    (present : thread.index < machine.threads.size) (guards : store.guards = machine.store.guards)
    (free : machine.returned? thread = none) (still : state.returned? = none)
    (going : forall control frames, state = .running control frames -> control.GivesBack ∧
      forall frame, frame ∈ frames -> forall reason, (frame.resume reason).Guarded) :
    Guarded ({ machine with store, host }.setThread thread state) := by
  have same (registry : RegistryId) : store.guard registry = machine.store.guard registry :=
    congrArg (·.get registry.index) guards
  refine guarded.moved present (fun registry => same registry ▸ guarded.sound registry)
    (fun registry => ?_) (fun registry other _ => by rw [same]) going
  rw [same, guarded.held, free, still]

/-- A thread that holds no guard goes on with a program that holds none either. -/
theorem goesOn (guarded : machine.Guarded) {store : Store} {host : σ}
    (present : thread.index < machine.threads.size) (guards : store.guards = machine.store.guards)
    (free : machine.returned? thread = none) (begins : control.Guarded)
    (waiting : forall frame, frame ∈ frames -> forall reason, (frame.resume reason).Guarded) :
    Guarded ({ machine with store, host }.setThread thread (.running control frames)) := by
  refine guarded.stayed present guards free begins.free ?_
  rintro control frames ⟨⟩
  exact ⟨begins.givesBack, waiting⟩

/-- A thread is started. It holds no guard. -/
theorem started (guarded : machine.Guarded) {request : Request σ Unit}
    (begins : request.run.Guarded) : (machine.start request).2.Guarded := by
  have threads (other : ThreadId) : (machine.start request).2.threads[other.index]? =
      if other.index = machine.threads.size then some (.running request.run [])
        else machine.threads[other.index]? := by
    simp only [start, Array.getElem?_push]
  refine ⟨guarded.sound, fun registry other => ?_, fun other control frames found => ?_,
    fun other control frames found => ?_⟩
  · refine (guarded.held registry other).trans ?_
    unfold returned?
    rw [threads]
    split
    · rename_i new
      simp [new, Thread.returned?, begins.free]
    · rfl
  · rw [threads] at found
    split at found
    · cases found
      exact begins.givesBack
    · exact guarded.running other control frames found
  · rw [threads] at found
    split at found
    · cases found
      exact fun _ member => absurd member List.not_mem_nil
    · exact guarded.frames other control frames found

/-- An action of a thread leaves the guards to those that are about to give them back. -/
theorem acted (guarded : machine.Guarded) {action : Action β}
    {rest : β -> Program σ (Except Fault Unit)} {answer : β} {store : Store}
    (found : machine.threads[thread.index]? = some (.running (.act action rest) frames))
    (performed : action.perform thread machine.store = some (answer, store))
    (admitted : action.isBarred machine.store = false) :
    Guarded ({ machine with store }.setThread thread (.running (rest answer) frames)) := by
  have present := (Array.getElem?_eq_some_iff.mp found).1
  obtain ⟨givesBack, returns⟩ := guarded.running thread _ frames found answer
  have held (registry : RegistryId) : (machine.store.guard registry).isHeldBy thread = true ↔
      action.given? = some registry := by
    rw [guarded.held, returned?_of_running found]
    rfl
  have guards := Action.guards_perform performed
  refine guarded.moved present (guards.sound guarded.sound held admitted) (fun registry => ?_)
    (fun registry other => guards.others guarded.sound registry) ?_
  · rw [guards.own guarded.sound held, ← returns]
    rfl
  · rintro control outer ⟨⟩
    exact ⟨givesBack, guarded.frames thread _ frames found⟩

/-- Every step leaves the guards to those that are about to give them back. -/
theorem step (guarded : machine.Guarded) (hosts : code.Guarded)
    (stepped : machine.step code thread = some next) : next.Guarded := by
  obtain ⟨control, frames, found, turn⟩ := step_eq_some_iff.mp stepped
  have present := (Array.getElem?_eq_some_iff.mp found).1
  have givesBack := guarded.running thread control frames found
  have waiting := guarded.frames thread control frames found
  have returned := returned?_of_running found
  cases turn with
  | ended outcome => exact guarded.stayed present rfl returned rfl nofun
  | resumed outcome frame outer =>
      have resumes := waiting frame List.mem_cons_self (machine.reason? outcome)
      exact guarded.goesOn present rfl returned resumes fun frame member =>
        waiting frame (List.mem_cons_of_mem _ member)
  | acted answer store performed admitted => exact guarded.acted found performed admitted
  | worked work rest frames =>
      exact guarded.goesOn present rfl returned ⟨(givesBack _).1, (givesBack _).2⟩ waiting
  | settled none_ =>
      exact guarded.goesOn present rfl returned ⟨(givesBack _).1, (givesBack _).2⟩ waiting
  | @entered cls rest frames initializer has =>
      refine guarded.goesOn present rfl returned (hosts.initializer initializer cls) ?_
      intro frame member reason
      rcases List.mem_cons.mp member with rfl | member
      · exact ⟨(givesBack reason).1, (givesBack reason).2⟩
      · exact waiting frame member reason
  | escalated foreign cls rest frames =>
      have goesOn : ((code.escalation foreign cls).run.bind rest).Guarded :=
        (hosts.escalation foreign cls).bind fun outcome =>
          ⟨(givesBack outcome).1, (givesBack outcome).2⟩
      exact guarded.goesOn present rfl returned goesOn waiting
  | forked body rest frames =>
      have found := thread_started (code.body body) found
      exact (guarded.started (hosts.body body)).goesOn (Array.getElem?_eq_some_iff.mp found).1 rfl
        (returned?_of_running found) ⟨(givesBack _).1, (givesBack _).2⟩ waiting
  | joined message heard =>
      exact guarded.goesOn present rfl returned ⟨(givesBack _).1, (givesBack _).2⟩ waiting
  | panicked message frames =>
      obtain ⟨progress, same⟩ := unwind_progress machine.store frames
      refine guarded.stayed present ?_ returned rfl nofun
      rw [same]

/-! ## Waiting for a guard -/

/-- Whoever holds a guard can take its next step, and gives the guard back with it. -/
theorem returns (guarded : machine.Guarded) (code : HostCode σ)
    (held : (machine.store.guard registry).isHeldBy thread = true) :
    exists next, machine.step code thread = some next ∧ next.host = machine.host ∧
      next.store = { machine.store with
        guards := machine.store.guards.set registry.index
          ((machine.store.guard registry).give thread) } := by
  have returned := (guarded.held registry thread).mp held
  obtain ⟨state, found, returned⟩ := Option.bind_eq_some_iff.mp returned
  cases state with
  | finished _ => cases returned
  | panicked _ => cases returned
  | running control frames =>
      cases control with
      | act action rest =>
          cases action with
          | release id =>
              cases returned
              exact ⟨_, step_eq_some_iff.mpr ⟨_, frames, found, .acted () _ rfl rfl⟩, rfl, rfl⟩
          | _ => cases returned
      | _ => cases returned

/-- Whatever guard bars the action of a thread, the others can give it back, and do nothing else
meanwhile. -/
theorem eases (guarded : machine.Guarded) (hosts : code.Guarded) {action : Action β}
    {rest : β -> Program σ (Except Fault Unit)}
    (found : machine.threads[thread.index]? = some (.running (.act action rest) frames)) :
    exists (eased : Machine σ) (guards : Table Guard), Steps code machine eased ∧ eased.Guarded ∧
      eased.store = { machine.store with guards } ∧ eased.host = machine.host ∧
        eased.threads[thread.index]? = some (.running (.act action rest) frames) ∧
          action.isBarred eased.store = false := by
  cases barred : action.isBarred machine.store with
  | false => exact ⟨machine, machine.store.guards, .refl, guarded, rfl, rfl, found, barred⟩
  | true =>
      cases action with
      | registry id step =>
          -- By induction on the holders, of which the first one gives the guard back.
          generalize holders : (machine.store.guard id).holders = list
          induction list generalizing machine with
          | nil =>
              have admits (access : Access) : (machine.store.guard id).admits access = true := by
                cases access <;> simp [Guard.admits, holders]
              simp [Action.isBarred, admits] at barred
          | cons holder others inductionHypothesis =>
              have held : (machine.store.guard id).isHeldBy holder.1 = true := by
                simp [Guard.isHeldBy, holders]
              have different : thread ≠ holder.1 := by
                intro same
                have returned := (guarded.held id holder.1).mp held
                rw [← same, returned?_of_running found] at returned
                cases returned
              obtain ⟨next, moved, host, store⟩ := guarded.returns code held
              obtain ⟨_, _, -, turn⟩ := step_eq_some_iff.mp moved
              have found := turn.thread_other different found
              have steps : Steps code machine next := .step .refl ⟨holder.1, moved⟩
              have guarded := guarded.step hosts moved
              have fewer : (next.store.guard id).holders = others := by
                rw [store, Action.guard_set, if_pos rfl]
                simp [Guard.give, holders]
              cases still : Action.isBarred (.registry id step) next.store with
              | false =>
                  exact ⟨next, next.store.guards, steps, guarded, by rw [store], host, found, still⟩
              | true =>
                  obtain ⟨eased, guards, further, guarded, after, same, found, admitted⟩ :=
                    inductionHypothesis guarded found still fewer
                  refine ⟨eased, guards, steps.trans further, guarded, ?_, same.trans host, found,
                    admitted⟩
                  rw [after, store]
      | _ => cases barred

end Guarded

end Steps

end Machine

end GuestTypes
