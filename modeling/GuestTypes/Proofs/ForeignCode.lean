import GuestTypes.Proofs.GuardedRuns
import GuestTypes.Proofs.InitialisedOnce
import GuestTypes.Proofs.SharedLayouts

/-!
# Host code runs without locks

Static initializers and escalations may run in the middle of a request, on any thread, and make
requests of their own. A thread that holds the lock of a factory is about to take an action of the
kernel, never to enter host code, to go on with it or to return from it. A thread that holds the
guard of a registry is about to give it back. So whatever host code asks for is asked for by a
thread without locks. When a request takes the lock of a factory, the factory is at rest, the
request is the outermost one, and it is alone with the factory until it gives the lock back.
-/

namespace GuestTypes

variable {σ α : Type} {thread mover : ThreadId} {factory : FactoryId}

/-! ## Where host code is next -/

/-- What the program does next is no action of the kernel: it enters host code, goes on with it,
or returns. -/
def Program.isForeign : Program σ α -> Bool
  | .act _ _ => false
  | .done _ | .host _ _ | .initialise _ _ | .escalate _ _ _ | .fork _ _ | .join _ _ | .panic _ =>
    true

/-- What the thread runs next is no action of the kernel. -/
def Thread.isForeign : Thread σ -> Bool
  | .running control _ => control.isForeign
  | .finished _ | .panicked _ => false

/-- How many pieces of code wait for what the thread runs. -/
def Thread.depth : Thread σ -> Nat
  | .running _ frames => frames.length
  | .finished _ | .panicked _ => 0

/-- There is something that the registry calls. -/
def Escalation.isCalled : Escalation -> Bool
  | .factory _ | .foreign _ => true
  | .none | .gone => false

/-- The thread holds neither the lock of a factory nor the guard of a registry. -/
structure Store.Unlocked (store : Store) (thread : ThreadId) : Prop where
  factories : forall factory, (store.factory factory).lock.isHeldBy thread = false
  registries : forall registry, (store.guard registry).isHeldBy thread = false

/-- A thread holds the lock of a factory just if the lock says so. -/
theorem World.holds_iff {world : World} :
    world.Holds thread factory ↔ (world.factory factory).lock.isHeldBy thread = true := by
  constructor
  · rintro ⟨again, held⟩
    rw [held]
    exact beq_self_eq_true thread
  · exact World.holds_of_isHeldBy

/-- A thread that is idle holds the lock of no factory. -/
theorem World.Idle.unheld {now : Instant σ} (idle : now.world.Idle thread) (factory : FactoryId) :
    (now.store.factory factory).lock.isHeldBy thread = false := by
  rw [← Bool.not_eq_true]
  exact fun held => idle factory (World.holds_iff.mpr held)

namespace Discipline.Safe

variable {γ : Type} {rules : Discipline σ γ} {program : Program σ α}
  {post : α -> Moment σ γ -> Prop} {now : Moment σ γ}

/-- Host code finds the thread idle. -/
theorem idle (safe : rules.Safe thread program post now) (foreign : program.isForeign = true)
    (ends : forall answer later, post answer later -> rules.Idle thread later) :
    rules.Idle thread now := by
  cases program with
  | done answer => exact ends answer now (safe now .refl)
  | act action next => cases foreign
  | host work next => exact (safe now .refl).1
  | initialise cls next => exact (safe now .refl).1
  | escalate code cls next => exact (safe now .refl).1
  | fork code next => exact (safe now .refl).1
  | join awaited next => exact (safe now .refl).1
  | panic message => exact safe now .refl

end Discipline.Safe

/-! ## Asking for host code -/

section Asking

variable {now : Instant σ} {post : Except Fault Unit -> Instant σ -> Prop} {cls : ClassId}

/-- The moment with no class initialised. Another thread might have led there, for the rules do
not speak of initialisation. -/
theorem around_unstarted (valid : now.world.Valid) :
    kernel.Around thread now (now.withProgress { fallback := .unstarted }) := by
  have different : (⟨thread.index + 1⟩ : ThreadId) ≠ thread := fun same =>
    absurd (congrArg ThreadId.index same) (Nat.succ_ne_self _)
  exact .step .refl _ different valid ⟨valid, .refl _ _⟩

/-- A program that may go on to an initializer is safe for idle threads only. -/
theorem idle_of_initialiseEach {classes : List ClassId}
    {next : Except Fault Unit -> Program (Clients σ) (Except Fault Unit)}
    (valid : now.world.Valid)
    (safe : kernel.Safe thread ((ClassId.initialiseEach (cls :: classes)).run.bind next) post now) :
    now.world.Idle thread := by
  have claims : (Action.claim cls).perform thread
      (now.withProgress { fallback := .unstarted }).store =
        some (.begun, (now.withProgress { fallback := .unstarted }).store.settle cls
          (.running thread)) := by
    simp [Action.perform, Store.initState, Moment.withProgress, Moment.withStore, Table.get,
      InitState.claim]
  obtain ⟨ghost, -, rest⟩ := safe _ (around_unstarted valid) _ _ claims
  exact (rest _ .refl).1

/-- A thread that asks for the initialisation of a class holds no lock. -/
theorem idle_of_ensureInitialised
    {next : Except Fault Unit -> Program (Clients σ) (Except Fault Unit)}
    (safe : kernel.Safe thread (cls.ensureInitialised.run.bind next) post now) :
    now.world.Idle thread := by
  obtain ⟨ghost, allowed, rest⟩ := safe now .refl _ _ rfl
  obtain ⟨root, above, order⟩ :
      exists root above, (now.store.hierarchy.lineage cls).reverse = root :: above := by
    apply List.exists_cons_of_ne_nil
    rw [Hierarchy.lineage_eq]
    simp
  have rest : kernel.Safe thread ((ClassId.initialiseEach
      (now.store.hierarchy.lineage cls).reverse).run.bind next) post _ := rest
  rw [order] at rest
  have idle := idle_of_initialiseEach allowed.valid rest
  exact idle

/-- A thread that asks a factory for a class holds no lock. -/
theorem idle_of_findOrCreate
    {next : Except Fault Representation -> Program (Clients σ) (Except Fault Unit)}
    (safe : kernel.Safe thread ((factory.findOrCreate cls).run.bind next) post now) :
    now.world.Idle thread := by
  have first : (factory.findOrCreate cls).run.bind next = cls.ensureInitialised.run.bind _ :=
    Program.bind_bind _ _ _
  rw [first] at safe
  exact idle_of_ensureInitialised safe

/-- A registry that turns elsewhere does so on behalf of an idle thread. -/
theorem idle_of_escalate {registry : RegistryId}
    {next : Except Fault Representation -> Program (Clients σ) (Except Fault Unit)}
    (turns : (now.store.registry registry).escalation.isCalled = true)
    (safe : kernel.Safe thread ((registry.escalate cls).run.bind next) post now) :
    now.world.Idle thread := by
  obtain ⟨ghost, allowed, rest⟩ := safe now .refl _ _ rfl
  cases escalation : (now.store.registry registry).escalation with
  | none => simp [escalation, Escalation.isCalled] at turns
  | gone => simp [escalation, Escalation.isCalled] at turns
  | factory factory =>
      have rest : kernel.Safe thread ((factory.findOrCreate cls).run.bind next) post
          ⟨now.store, now.host, ghost⟩ := by
        simp only [escalation] at rest
        exact rest
      have idle := idle_of_findOrCreate rest
      exact idle
  | foreign code =>
      have rest : kernel.Safe thread (.escalate code cls next) post
          ⟨now.store, now.host, ghost⟩ := by
        simp only [escalation] at rest
        exact rest
      exact (rest _ .refl).1

end Asking

/-! ## Steps -/

namespace Machine

section Steps

variable {code : HostCode σ} {machine next : Machine σ} {control : Program σ (Except Fault Unit)}
  {frames : List (GuestTypes.Frame σ)}

/-- Entering host code, going on with it or returning from it changes nothing that the kernel
keeps, but for the progress of static initialisations. -/
theorem Turn.progress (turn : machine.Turn code thread control frames next)
    (foreign : control.isForeign = true) :
    exists progress, next.store = { machine.store with progress } := by
  cases turn with
  | acted _ _ _ => cases foreign
  | panicked message frames => exact unwind_progress machine.store frames
  | _ => exact ⟨_, rfl⟩

/-- An action leaves host code and the frames of the thread as they were. -/
theorem Turn.action (turn : machine.Turn code thread control frames next)
    (present : thread.index < machine.threads.size) (action : control.isForeign = false) :
    next.host = machine.host ∧
      exists later, next.threads[thread.index]? = some (.running later frames) := by
  cases turn with
  | acted _ _ _ => exact ⟨rfl, _, thread_self _ present⟩
  | _ => cases action

/-- The step of another thread changes nothing for a thread. -/
theorem thread_stepped {state : Thread σ} (different : thread ≠ mover)
    (found : machine.threads[thread.index]? = some state)
    (stepped : machine.step code mover = some next) :
    next.threads[thread.index]? = some state := by
  obtain ⟨control, frames, -, turn⟩ := step_eq_some_iff.mp stepped
  exact turn.thread_other different found

end Steps

/-! ## Runs under a lock -/

/-- A run in which a thread takes actions of the kernel only, and the others leave the factory
alone. -/
inductive Undivided (code : HostCode σ) (factory : FactoryId) (thread : ThreadId)
    (start : Machine σ) : Machine σ -> Prop where
  | refl : Undivided code factory thread start start
  | step {mover : ThreadId} {current next : Machine σ}
      (prior : Undivided code factory thread start current)
      (moved : current.step code mover = some next)
      (own : mover = thread -> exists control frames,
        current.threads[thread.index]? = some (.running control frames) ∧
          control.isForeign = false)
      (others : mover ≠ thread -> next.store.factory factory = current.store.factory factory) :
      Undivided code factory thread start next

/-- No initializer is entered or left. -/
theorem Undivided.frames {code : HostCode σ} {start machine : Machine σ}
    {control : Program σ (Except Fault Unit)} {frames : List (GuestTypes.Frame σ)}
    (undivided : start.Undivided code factory thread machine)
    (running : start.threads[thread.index]? = some (.running control frames)) :
    exists later, machine.threads[thread.index]? = some (.running later frames) := by
  induction undivided with
  | refl => exact ⟨control, running⟩
  | @step mover current next prior moved own others inductionHypothesis =>
      obtain ⟨middle, found⟩ := inductionHypothesis
      by_cases same : mover = thread
      · obtain ⟨_, _, still, action⟩ := own same
        cases found.symm.trans still
        have turn := turn_of_running found (same ▸ moved)
        exact (turn.action (Array.getElem?_eq_some_iff.mp found).1 action).2
      · exact ⟨middle, thread_stepped (Ne.symm same) found moved⟩

section Locks

variable {code : ClientCode σ} {machine next : Machine (Clients σ)}

/-- An idle thread that is not about to give back a guard holds no lock. -/
theorem unlocked_of_idle {now : Instant σ} (kept : kernel.Kept machine now)
    (guarded : machine.Guarded) (idle : now.world.Idle thread)
    (free : machine.returned? thread = none) : machine.store.Unlocked thread where
  factories := kept.store ▸ idle.unheld
  registries := by
    intro registry
    rw [← Bool.not_eq_true, guarded.held, free]
    nofun

/-- Host code runs on threads that hold no lock. -/
theorem unlocked_of_foreign {now : Instant σ} (kept : kernel.Kept machine now)
    (guarded : machine.Guarded) {control : Program (Clients σ) (Except Fault Unit)}
    {frames : List (GuestTypes.Frame (Clients σ))}
    (running : machine.threads[thread.index]? = some (.running control frames))
    (foreign : control.isForeign = true) : machine.store.Unlocked thread := by
  have idle := (kept.running thread control frames running).idle foreign fun _ _ ended => ended.1
  refine unlocked_of_idle kept guarded idle ((returned?_of_running running).trans ?_)
  cases control with
  | act _ _ => cases foreign
  | _ => rfl

/-- A lock that is taken was free. -/
theorem free_of_taken {now after : Instant σ} (moves : World.Moves mover now.world after.world)
    (unheld : ¬ now.world.Holds thread factory) (holds : after.world.Holds thread factory) :
    mover = thread ∧ (now.world.factory factory).lock = .free := by
  have own : mover = thread := Decidable.byContradiction fun different =>
    unheld (moves.unlocked factory thread (Ne.symm different) holds)
  subst own
  refine ⟨rfl, ?_⟩
  cases lock : (now.world.factory factory).lock with
  | free => rfl
  | held owner again =>
      by_cases same : owner = mover
      · exact absurd ⟨again, same ▸ lock⟩ unheld
      · have stays := moves.locked factory owner same ⟨again, lock⟩
        obtain ⟨more, held⟩ := holds
        rw [stays, lock] at held
        cases held
        exact absurd rfl same

/-- A step after which a thread holds a lock is an action, if it is its own. -/
theorem action_of_held {now : Instant σ} (kept : kernel.Kept machine now)
    (guarded : machine.Guarded)
    (held : (next.store.factory factory).lock.isHeldBy thread = true)
    (stepped : machine.step code.host thread = some next) :
    exists control frames, machine.threads[thread.index]? = some (.running control frames) ∧
      control.isForeign = false := by
  obtain ⟨control, frames, found, turn⟩ := step_eq_some_iff.mp stepped
  refine ⟨control, frames, found, Bool.eq_false_iff.mpr fun foreign => ?_⟩
  have unlocked := (unlocked_of_foreign kept guarded found foreign).factories factory
  obtain ⟨progress, same⟩ := turn.progress foreign
  rw [same] at held
  cases unlocked.symm.trans held

/-- Whoever holds the lock of a factory took it when the factory was at rest, and has been alone
with the factory since, without running any host code. -/
theorem Reachable.undivided (reachable : machine.Reachable code)
    (held : (machine.store.factory factory).lock.isHeldBy thread = true) :
    exists start : Machine (Clients σ), start.Reachable code ∧
      (start.store.factory factory).lock = .free ∧ (start.store.factory factory).workshop = {} ∧
        (exists control frames,
          start.threads[thread.index]? = some (.running control frames)) ∧
            start.Undivided code.host factory thread machine := by
  induction reachable using Reachable.induction with
  | opens start opens =>
      obtain ⟨files, store⟩ := opens.store
      rw [store] at held
      simp [Store.factory, Table.get, Lock.isHeldBy] at held
      cases held
  | step mover current next reachable moved inductionHypothesis =>
      obtain ⟨now, kept⟩ := reachable.kept
      obtain ⟨after, allowed, reached⟩ := kept.step (trusts_host code) moved
      have moves : World.Moves mover now.world after.world := allowed.moves
      have acts : mover = thread -> _ := fun same =>
        action_of_held kept reachable.guarded held (same ▸ moved)
      rw [reached.store] at held
      have holds : after.world.Holds thread factory := World.holds_iff.mpr held
      by_cases before : now.world.Holds thread factory
      · obtain ⟨start, started, free, empty, running, undivided⟩ := inductionHypothesis (by
          rw [kept.store]
          exact World.holds_iff.mp before)
        refine ⟨start, started, free, empty, running,
          undivided.step moved acts fun different => ?_⟩
        rw [kept.store, reached.store]
        exact moves.locked factory thread (Ne.symm different) before
      · obtain ⟨own, free⟩ := free_of_taken moves before holds
        obtain ⟨control, frames, running, -⟩ := acts own
        refine ⟨current, reachable, ?_, ?_, ⟨control, frames, running⟩,
          .step .refl moved acts (absurd own ·)⟩
        · rw [kept.store]
          exact free
        · rw [kept.store]
          exact (kept.valid.resting factory free).1

end Locks

end Machine

/-! ## Host code and locks -/

/-- What a call that makes a type was to bind is bound. -/
def Store.Publishes (store : Store) : (call : Call) -> call.Answer -> Prop
  | .create factory wanted, type =>
      (wanted.isReplaceable = false -> forall cls rep, wanted.Claims type cls rep ->
        store.bound factory cls = some rep) ∧
      (wanted.isReplaceable = true -> exists shared,
        (store.types.row type).kind = .replaceable shared ∧
          store.bound factory wanted.primary = some (.shared shared))
  | .defineClass factory _ _ _ _, type => exists shared,
      (store.types.row type).kind = .replaceable shared ∧
        store.bound factory (store.types.row type).primary = some (.shared shared)
  | _, _ => True

/-- Whatever was answered for a type is bound. -/
theorem World.Served.publishes {now : Instant σ} {call : Call} {answer : call.Answer}
    (served : now.world.Served ⟨call, some (.ok answer)⟩) : now.store.Publishes call answer := by
  cases call with
  | create factory wanted =>
      refine ⟨fun fixed => (served.1 fixed).bound, fun replaceable => ?_⟩
      obtain ⟨shared, host, row, bound⟩ := (served.2 replaceable).shares
      exact ⟨shared, row.kind, bound⟩
  | defineClass factory name bases slots dict =>
      obtain ⟨-, -, ⟨shared, kind, bound, -⟩, -⟩ := served
      exact ⟨shared, kind, bound⟩
  | _ => trivial

namespace Machine

variable {code : ClientCode σ} {machine : Machine (Clients σ)}

/-- A thread of a machine runs no host code under a lock. -/
structure RunsUnlocked (code : ClientCode σ) (machine : Machine (Clients σ)) (thread : ThreadId) :
    Prop where
  /-- When an initializer or an escalation is entered, and whenever host code goes on or returns,
  the thread holds no lock. -/
  foreign : forall control frames,
    machine.threads[thread.index]? = some (.running control frames) ->
      control.isForeign = true -> machine.store.Unlocked thread
  /-- Nor does it hold one when it asks for a class to be initialised. -/
  initialising : forall (cls : ClassId) next frames,
    machine.threads[thread.index]? = some (.running (cls.ensureInitialised.run.bind next) frames) ->
      machine.store.Unlocked thread
  /-- Nor when a registry calls its escalation, a factory or foreign code. -/
  escalating : forall (registry : RegistryId) cls next frames,
    machine.threads[thread.index]? =
      some (.running ((registry.escalate cls).run.bind next) frames) ->
      (machine.store.registry registry).escalation.isCalled = true ->
        machine.store.Unlocked thread
  /-- The guard of a registry is given back with the very next step, for which the thread need not
  wait. -/
  returned : forall registry, (machine.store.guard registry).isHeldBy thread = true ->
    exists later, machine.step code.host thread = some later ∧ later.host = machine.host ∧
      (later.store.guard registry).isHeldBy thread = false
  /-- Whoever writes the bindings of a registry is alone in holding its guard. -/
  writes : forall later registry, machine.step code.host thread = some later ->
    registry.index < machine.store.registries.size ->
      (later.store.registry registry).lookup ≠ (machine.store.registry registry).lookup ->
        (later.store.guard registry).holders = [(thread, .writing)]
  /-- A call is begun and answered by a thread without locks. -/
  calls : forall later, machine.step code.host thread = some later ->
    later.host ≠ machine.host -> machine.store.Unlocked thread ∧ later.store = machine.store
  /-- A request that holds a lock is an outermost one: it has found the factory at rest, and has
  run no host code since. -/
  outermost : forall factory, (machine.store.factory factory).lock.isHeldBy thread = true ->
    exists start : Machine (Clients σ), start.Reachable code ∧
      (start.store.factory factory).lock = .free ∧ (start.store.factory factory).workshop = {} ∧
        start.Undivided code.host factory thread machine ∧
          exists frames, (exists control,
            start.threads[thread.index]? = some (.running control frames)) ∧
              exists control, machine.threads[thread.index]? = some (.running control frames)
  /-- What a call makes is bound before the call is answered. -/
  published : forall later (number : Nat) call answer,
    machine.step code.host thread = some later ->
      machine.host.calls[number]? = some ⟨call, none⟩ ->
        later.host.calls[number]? = some ⟨call, some (.ok answer)⟩ ->
          machine.store.Publishes call answer
  /-- It stays so. -/
  remains : forall call answer, machine.Answered call answer -> machine.store.Publishes call answer

/-- What a call made that was answered is bound. -/
theorem Reachable.publishes {call : Call} {answer : call.Answer}
    (reachable : machine.Reachable code) (answered : machine.Answered call answer) :
    machine.store.Publishes call answer := by
  obtain ⟨now, kept⟩ := reachable.kept
  unfold Answered at answered
  rw [kept.host] at answered
  rw [kept.store]
  exact World.Served.publishes (kept.valid.served _ answered)

/-- No thread runs host code under a lock. -/
theorem foreign_code_unlocked (reachable : machine.Reachable code) (thread : ThreadId) :
    machine.RunsUnlocked code thread := by
  obtain ⟨now, kept⟩ := reachable.kept
  have guarded := reachable.guarded
  constructor
  case foreign => exact fun control frames => unlocked_of_foreign kept guarded
  case initialising =>
    intro cls next frames running
    exact unlocked_of_idle kept guarded
      (idle_of_ensureInitialised (kept.running thread _ frames running))
      (returned?_of_running running)
  case escalating =>
    intro registry cls next frames running turns
    rw [kept.store] at turns
    exact unlocked_of_idle kept guarded
      (idle_of_escalate turns (kept.running thread _ frames running))
      (returned?_of_running running)
  case returned =>
    intro registry held
    obtain ⟨later, moved, host, store⟩ := guarded.returns code.host held
    refine ⟨later, moved, host, ?_⟩
    rw [store, Action.guard_set, if_pos rfl, ← Bool.not_eq_true,
      (guarded.sound registry).isHeldBy_give]
    exact fun still => still.1 rfl
  case writes =>
    intro later registry moved made changed
    obtain ⟨_, _, -, turn⟩ := step_eq_some_iff.mp moved
    exact turn.writes_alone made changed
  case calls =>
    intro later moved changed
    obtain ⟨control, frames, found, turn⟩ := step_eq_some_iff.mp moved
    refine ⟨unlocked_of_foreign kept guarded found ?_, turn.store_or_host.resolve_right changed⟩
    rw [← Bool.not_eq_false]
    intro action
    exact changed (turn.action (Array.getElem?_eq_some_iff.mp found).1 action).1
  case outermost =>
    intro factory held
    obtain ⟨start, started, free, empty, ⟨control, frames, running⟩, undivided⟩ :=
      reachable.undivided held
    exact ⟨start, started, free, empty, undivided, frames, ⟨control, running⟩,
      undivided.frames running⟩
  case published =>
    intro later number call answer moved pending answered
    obtain ⟨_, _, -, turn⟩ := step_eq_some_iff.mp moved
    have same : later.store = machine.store := by
      apply turn.store_or_host.resolve_right
      intro unchanged
      rw [unchanged, pending] at answered
      cases answered
    rw [← same]
    exact (reachable.steps (.step .refl ⟨thread, moved⟩)).publishes (List.mem_of_getElem? answered)
  case remains => exact fun call answer => reachable.publishes

/-- An initializer that makes a type of its class. -/
def claiming : ClientCode Unit where
  initializer _ cls :=
    .call (.create ⟨0⟩ { name := "own", primary := cls }) fun _ => .done (.ok ())
  escalation := ClientCode.quiet.escalation
  body := ClientCode.quiet.body

/-- Host code that asks a factory for the class of such an initializer. -/
def askingClaiming : Client Unit (Except Fault Unit) :=
  .call (.makeFactory {}) fun
    | .error fault => .done (.error fault)
    | .ok factory =>
        .call (.declare { name := "Own", initializer := some ⟨0⟩ }) fun
          | .error fault => .done (.error fault)
          | .ok cls => .call (.findOrCreate factory cls) fun _ => .done (.ok ())

/-- The request that the initializer makes, in the middle of another one, is an outermost one; and
the thread holds no lock when the initializer goes on. -/
theorem foreign_code_unlocked_askingClaiming :
    let machine := Machine.run claiming.host 32 (opening askingClaiming ())
    let later := Machine.run claiming.host 12 machine
    (exists start : Machine (Clients Unit), (start.store.factory ⟨0⟩).workshop.depth = 0 ∧
      start.Undivided claiming.host ⟨0⟩ ⟨0⟩ machine ∧
        exists control frames, start.threads[0]? = some (.running control frames) ∧
          frames.length = 1) ∧
    (machine.store.factory ⟨0⟩).workshop.depth = 1 ∧
    later.store.Unlocked ⟨0⟩ ∧ later.store.bound ⟨0⟩ firstDeclared = some (.canonical ⟨2⟩) := by
  intro machine later
  have reachable : machine.Reachable claiming := reachable_run claiming askingClaiming () 32
  have steps : Steps claiming.host machine later := steps_run claiming.host 12 _ _ .refl
  have held : (machine.store.factory ⟨0⟩).lock.isHeldBy ⟨0⟩ = true := by decide +kernel
  have depth : (machine.store.factory ⟨0⟩).workshop.depth = 1 := by decide +kernel
  have inside : machine.threads[0]?.map Thread.depth = some 1 := by decide +kernel
  have foreign : later.threads[0]?.map Thread.isForeign = some true := by decide +kernel
  have bound : later.store.bound ⟨0⟩ firstDeclared = some (.canonical ⟨2⟩) := by decide +kernel
  clear_value machine later
  refine ⟨?_, depth, ?_, bound⟩
  · obtain ⟨start, -, -, empty, undivided, frames, ⟨control, running⟩, middle, found⟩ :=
      (foreign_code_unlocked reachable ⟨0⟩).outermost ⟨0⟩ held
    have found : machine.threads[0]? = some (.running middle frames) := found
    rw [found] at inside
    exact ⟨start, by rw [empty], undivided, control, frames, running, Option.some.inj inside⟩
  · obtain ⟨next, found, foreign⟩ := Option.map_eq_some_iff.mp foreign
    cases next with
    | running control frames =>
        exact (foreign_code_unlocked (reachable.steps steps) ⟨0⟩).foreign _ _ found foreign
    | finished _ | panicked _ => cases foreign

end Machine

end GuestTypes
