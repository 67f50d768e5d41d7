import GuestTypes.Proofs.Trust

/-!
# Single publication

A registry binds a class once and for all. Whatever threads do in whatever order, with static
initializers and escalations that use the registry themselves, a binding is neither taken back
nor replaced, a refused batch has bound nothing, and a class that was resolved is bound to what
it was resolved to.
-/

namespace GuestTypes

variable {σ α β : Type} {thread : ThreadId}

/-- A thread takes a program to its answer. The path lists what each action of the thread found
and what it left; in between the store may change in any way. -/
inductive Program.Runs (thread : ThreadId) :
    Program σ α -> List (Store × Store) -> α -> Prop where
  | done (answer : α) : Runs thread (.done answer) [] answer
  | act {β : Type} {action : Action β} {next : β -> Program σ α} {answered : β}
      {before after : Store} {path : List (Store × Store)} {answer : α}
      (performed : action.perform thread before = some (answered, after))
      (rest : Runs thread (next answered) path answer) :
      Runs thread (.act action next) ((before, after) :: path) answer
  | host {β : Type} {work : σ -> Store -> β × σ} {next : β -> Program σ α} {own : σ}
      {store : Store} {path : List (Store × Store)} {answer : α}
      (rest : Runs thread (next (work own store).1) path answer) :
      Runs thread (.host work next) path answer
  | initialise {cls : ClassId} {next : Option String -> Program σ α} {reason : Option String}
      {path : List (Store × Store)} {answer : α} (rest : Runs thread (next reason) path answer) :
      Runs thread (.initialise cls next) path answer
  | escalate {code : CodeId} {cls : ClassId} {next : Except Fault Representation -> Program σ α}
      {outcome : Except Fault Representation} {path : List (Store × Store)} {answer : α}
      (rest : Runs thread (next outcome) path answer) :
      Runs thread (.escalate code cls next) path answer
  | fork {code : CodeId} {next : ThreadId -> Program σ α} {started : ThreadId}
      {path : List (Store × Store)} {answer : α} (rest : Runs thread (next started) path answer) :
      Runs thread (.fork code next) path answer
  | join {awaited : ThreadId} {next : Option String -> Program σ α} {message : Option String}
      {path : List (Store × Store)} {answer : α} (rest : Runs thread (next message) path answer) :
      Runs thread (.join awaited next) path answer

namespace Program.Runs

/-- A run of one program after another consists of a run of each. -/
theorem of_bind {program : Program σ α} {next : α -> Program σ β} {path : List (Store × Store)}
    {answer : β} (runs : (program.bind next).Runs thread path answer) :
    exists middle first last, path = first ++ last ∧ program.Runs thread first middle ∧
      (next middle).Runs thread last answer := by
  induction program generalizing path with
  | done middle => exact ⟨middle, [], path, rfl, .done middle, runs⟩
  | act action after inductionHypothesis =>
      cases runs with
      | act performed rest =>
          obtain ⟨middle, first, last, rfl, early, late⟩ := inductionHypothesis _ rest
          exact ⟨middle, _, last, rfl, .act performed early, late⟩
  | host work after inductionHypothesis =>
      cases runs with
      | host rest =>
          obtain ⟨middle, first, last, rfl, early, late⟩ := inductionHypothesis _ rest
          exact ⟨middle, first, last, rfl, .host early, late⟩
  | initialise cls after inductionHypothesis =>
      cases runs with
      | initialise rest =>
          obtain ⟨middle, first, last, rfl, early, late⟩ := inductionHypothesis _ rest
          exact ⟨middle, first, last, rfl, .initialise early, late⟩
  | escalate code cls after inductionHypothesis =>
      cases runs with
      | escalate rest =>
          obtain ⟨middle, first, last, rfl, early, late⟩ := inductionHypothesis _ rest
          exact ⟨middle, first, last, rfl, .escalate early, late⟩
  | fork body after inductionHypothesis =>
      cases runs with
      | fork rest =>
          obtain ⟨middle, first, last, rfl, early, late⟩ := inductionHypothesis _ rest
          exact ⟨middle, first, last, rfl, .fork early, late⟩
  | join awaited after inductionHypothesis =>
      cases runs with
      | join rest =>
          obtain ⟨middle, first, last, rfl, early, late⟩ := inductionHypothesis _ rest
          exact ⟨middle, first, last, rfl, .join early, late⟩
  | panic message => cases runs

/-- A refused request was refused at its start or after it. -/
theorem of_refused {request : Request σ α} {rest : α -> Request σ β}
    {path : List (Store × Store)} {fault : Fault}
    (runs : (request >>= rest).run.Runs thread path (.error fault)) :
    request.run.Runs thread path (.error fault) ∨
      exists answer first last, path = first ++ last ∧ request.run.Runs thread first (.ok answer) ∧
        (rest answer).run.Runs thread last (.error fault) := by
  obtain ⟨middle, first, last, rfl, early, late⟩ := of_bind runs
  cases middle with
  | ok answer => exact .inr ⟨answer, first, last, rfl, early, late⟩
  | error other =>
      cases late
      rw [List.append_nil]
      exact .inl early

/-- Looking at the store takes one step, which changes nothing. -/
theorem of_observe {view : Store -> α} {path : List (Store × Store)} {outcome : Except Fault α}
    (runs : (Request.observe view : Request σ α).run.Runs thread path outcome) :
    exists store, path = [(store, store)] ∧ outcome = .ok (view store) := by
  cases runs with
  | @act _ _ _ answered before after path _ performed rest =>
      cases performed
      cases rest
      exact ⟨before, rfl, rfl⟩

/-- A step of a registry is answered. After it only the guard is given back. -/
theorem of_step {registry : RegistryId} {step : Registry.Step α} {path : List (Store × Store)}
    {outcome : Except Fault α}
    (runs : (registry.step step : Request σ α).run.Runs thread path outcome) :
    exists answer before after last guards, outcome = .ok answer ∧
      (Action.registry registry step).perform thread before = some (answer, after) ∧
        path = [(before, after), (last, { last with guards })] := by
  cases runs with
  | act performed rest =>
      cases rest with
      | @act _ _ _ _ last _ _ _ released ended =>
          cases released
          cases ended
          exact ⟨_, _, _, last, _, rfl, performed, rfl⟩

end Program.Runs

/-- The two stores bind the same classes to the same representations, in every registry. -/
def Store.BindsAs (before after : Store) : Prop :=
  forall registry cls, (after.registry registry).lookup cls = (before.registry registry).lookup cls

/-- Records and guards are no bindings. -/
theorem Store.bindsAs_set (store : Store) (registry : RegistryId) (guards : Table Guard)
    (records : Array Record) :
    store.BindsAs { store with
      registries := store.registries.set registry.index (store.registry registry)
      guards, records } := by
  intro other cls
  show ((store.registries.set registry.index (store.registry registry)).get other.index).lookup cls
    = (store.registries.get other.index).lookup cls
  rw [Table.get_set]
  split
  · rename_i same
    rw [← same]
    rfl
  · rfl

/-- A batch of which a class is bound changes no binding. -/
theorem Store.bindsAs_clash {registry : RegistryId} {bindings : List (ClassId × Representation)}
    {clash : ClassId × Representation} {before after : Store}
    (performed : (Action.registry registry (.registerAll bindings)).perform thread before =
      some (some clash, after)) : before.BindsAs after := by
  obtain ⟨answer, rfl⟩ := perform_registry performed
  have kept : (Registry.Step.perform (.registerAll bindings) (before.registry registry)).2.1 =
      before.registry registry := by
    unfold Registry.Step.perform at answer ⊢
    dsimp only at answer ⊢
    cases clashes : (before.registry registry).clash? bindings with
    | none =>
        rw [clashes] at answer
        cases answer
    | some other => rfl
  rw [kept]
  exact before.bindsAs_set registry _ _

/-- A refused batch has bound nothing. -/
theorem RegistryId.registerAll_refused {registry : RegistryId}
    {bindings : List (ClassId × Representation)} {path : List (Store × Store)} {fault : Fault}
    (runs : (registry.registerAll bindings : Request σ Unit).run.Runs thread path (.error fault)) :
    forall step, step ∈ path -> step.1.BindsAs step.2 := by
  rcases Program.Runs.of_refused runs with refused | ⟨refused, first, last, rfl, stepped, rest⟩
  · obtain ⟨_, _, _, _, _, answered, -⟩ := Program.Runs.of_step refused
    cases answered
  · obtain ⟨_, before, after, later, guards, answered, performed, rfl⟩ :=
      Program.Runs.of_step stepped
    cases answered
    cases refused with
    | none => cases rest
    | some clash =>
        have looks : forall step, step ∈ last -> step.1.BindsAs step.2 := by
          cases rest with
          | act looked ended =>
              cases ended
              cases looked
              intro step member
              obtain rfl := List.mem_singleton.mp member
              exact fun _ _ => rfl
        intro step member
        simp only [List.cons_append, List.nil_append, List.mem_cons] at member
        rcases member with rfl | rfl | member
        · exact Store.bindsAs_clash performed
        · exact fun _ _ => rfl
        · exact looks step member

namespace Machine

variable {code : ClientCode σ} {machine later : Machine (Clients σ)} {registry : RegistryId}
  {cls : ClassId} {rep : Representation}

/-- A registry, or the factory of a registry, was asked for the representation of a class, and
has answered. -/
def Resolved (machine : Machine (Clients σ)) (registry : RegistryId) (cls : ClassId)
    (rep : Representation) : Prop :=
  machine.Answered (.resolve registry cls) rep ∨
    exists factory, machine.registryOf factory = registry ∧
      machine.Answered (.findOrCreate factory cls) rep

/-- A run of a reachable machine is a run of the rules. -/
theorem Reachable.onward (reachable : machine.Reachable code)
    (steps : Machine.Steps code.host machine later) :
    exists now after : Instant σ, kernel.Kept machine now ∧ kernel.Kept later after ∧
      kernel.Onward now after := by
  obtain ⟨now, kept⟩ := reachable.kept
  obtain ⟨after, onward, reached⟩ := kept.steps (trusts_host code) steps
  exact ⟨now, after, kept, reached, onward⟩

/-- A class once bound stays bound, to the same representation. -/
theorem Reachable.bound_later (reachable : machine.Reachable code)
    (steps : Machine.Steps code.host machine later)
    (bound : machine.bound registry cls = some rep) :
    later.bound registry cls = some rep := by
  obtain ⟨now, after, kept, reached, onward⟩ := reachable.onward steps
  unfold Machine.bound at bound ⊢
  rw [kept.store] at bound
  rw [reached.store]
  exact (World.persistent_bindings registry cls rep).onward onward bound

/-- What a class was resolved to is what it is bound to. -/
theorem Resolved.bound (resolved : machine.Resolved registry cls rep)
    (reachable : machine.Reachable code) : machine.bound registry cls = some rep := by
  obtain ⟨now, kept⟩ := reachable.kept
  unfold Resolved Answered registryOf at resolved
  unfold Machine.bound
  rw [kept.host, kept.store] at resolved
  rw [kept.store]
  rcases resolved with answered | ⟨factory, rfl, answered⟩
  · exact kept.valid.served _ answered
  · exact (kept.valid.served _ answered).2

/-- Every registry publishes once. -/
theorem single_publication (reachable : machine.Reachable code)
    (steps : Machine.Steps code.host machine later) :
    (forall registry cls rep, machine.bound registry cls = some rep ->
      later.bound registry cls = some rep) ∧
    (forall registry cls rep, machine.Resolved registry cls rep ->
      machine.bound registry cls = some rep ∧ later.bound registry cls = some rep) ∧
    (forall registry cls first second, machine.Resolved registry cls first ->
      later.Resolved registry cls second -> first = second) ∧
    (forall (registry : RegistryId) bindings thread path fault,
      (registry.registerAll bindings : Request (Clients σ) Unit).run.Runs thread path
        (.error fault) -> forall step, step ∈ path -> step.1.BindsAs step.2) ∧
    (forall (registry : RegistryId) cls rep thread path fault,
      (registry.register cls rep : Request (Clients σ) Unit).run.Runs thread path
        (.error fault) -> forall step, step ∈ path -> step.1.BindsAs step.2) := by
  refine ⟨fun _ _ _ => reachable.bound_later steps, fun _ _ _ resolved => ?_,
    fun _ _ _ _ resolved again => ?_, fun _ _ _ _ _ => RegistryId.registerAll_refused,
    fun _ _ _ _ _ _ => RegistryId.registerAll_refused⟩
  · exact ⟨resolved.bound reachable, reachable.bound_later steps (resolved.bound reachable)⟩
  · have bound := reachable.bound_later steps (resolved.bound reachable)
    exact Option.some.inj (bound.symm.trans (again.bound (reachable.steps steps)))

/-- Host code that binds a class twice, which is refused the second time, and resolves it. -/
def bindingTwice : Client Unit (Except Fault Unit) :=
  .call (.makeRegistry .none) fun
    | .error fault => .done (.error fault)
    | .ok registry =>
        .call (.register registry Builtin.text (.canonical ⟨0⟩)) fun _ =>
          .call (.register registry Builtin.text (.canonical ⟨1⟩)) fun _ =>
            .call (.resolve registry Builtin.text) fun _ => .done (.ok ())

/-- A class that was bound and then resolved stays bound after the refused registration. -/
theorem single_publication_bindingTwice :
    (Machine.run ClientCode.quiet.host 18 (opening bindingTwice ())).Resolved ⟨0⟩ Builtin.text
      (.canonical ⟨0⟩) ∧
    (Machine.run ClientCode.quiet.host 1
      (Machine.run ClientCode.quiet.host 18 (opening bindingTwice ()))).bound ⟨0⟩ Builtin.text =
        some (.canonical ⟨0⟩) := by
  have resolved : (Machine.run ClientCode.quiet.host 18 (opening bindingTwice ())).Resolved ⟨0⟩
      Builtin.text (.canonical ⟨0⟩) := .inl (List.mem_of_getElem? (i := 3) rfl)
  have published := single_publication (reachable_run ClientCode.quiet bindingTwice () 18)
    (steps_run ClientCode.quiet.host 1 _ _ .refl)
  exact ⟨resolved, (published.2.1 _ _ _ resolved).2⟩

end Machine

end GuestTypes
