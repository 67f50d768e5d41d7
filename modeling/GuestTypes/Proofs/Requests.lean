import GuestTypes.Proofs.Steps

/-!
# Requests under the rules of the kernel

The triple `Serves` is the one of the kernel's discipline for assertions about the world. The
rules below are those that every request is checked with; a request whose actions the rules do
not see at all is `Mild`, and keeps whatever lasts.
-/

namespace GuestTypes

namespace World

/-- The other threads keep an assertion once it holds. -/
def Lasting (thread : ThreadId) (assertion : World -> Prop) : Prop :=
  forall ⦃mover before after⦄, mover ≠ thread -> before.Valid -> Allows mover before after ->
    assertion before -> assertion after

/-- No step of any thread undoes an assertion. -/
def Persistent (assertion : World -> Prop) : Prop :=
  forall ⦃before after⦄, before.Valid -> Grows before after -> assertion before -> assertion after

variable {thread : ThreadId} {first second : World -> Prop}

/-- What holds for ever holds as long as the thread takes no step. -/
theorem Persistent.lasting (persistent : Persistent first) : Lasting thread first :=
  fun _ _ _ _ valid allowed holds => persistent valid allowed.moves.toGrows holds

/-- What holds for ever holds together. -/
theorem Persistent.and (left : Persistent first) (right : Persistent second) :
    Persistent fun world => first world ∧ second world :=
  fun _ _ valid grows holds => ⟨left valid grows holds.1, right valid grows holds.2⟩

theorem Persistent.const (fact : Prop) : Persistent fun _ => fact :=
  fun _ _ _ _ holds => holds

/-- What lasts lasts together. -/
theorem Lasting.and (left : Lasting thread first) (right : Lasting thread second) :
    Lasting thread fun world => first world ∧ second world :=
  fun _ _ _ different valid allowed holds =>
    ⟨left different valid allowed holds.1, right different valid allowed holds.2⟩

/-- What lasts whichever it is lasts for some. -/
theorem Lasting.exists {index : Type} {assertion : index -> World -> Prop}
    (lasting : forall chosen, Lasting thread (assertion chosen)) :
    Lasting thread fun world => exists chosen, assertion chosen world := by
  rintro mover before after different valid allowed ⟨chosen, holds⟩
  exact ⟨chosen, lasting chosen different valid allowed holds⟩

/-- Whether a thread is idle is for that thread to change. -/
theorem lasting_idle : Lasting thread (Idle · thread) :=
  fun _ _ _ different _ allowed idle => allowed.moves.idle different idle

/-- A class that is open to direct types stays open. -/
theorem persistent_open (cls : ClassId) : Persistent (Open · cls) :=
  fun _ _ valid grows opened => grows.opens valid opened

/-- A factory that is complete stays complete. -/
theorem persistent_complete (factory : FactoryId) : Persistent (Complete · factory) :=
  fun _ _ _ grows complete => grows.complete complete

end World

open World

variable {σ α β : Type} {thread : ThreadId} {call : Option Nat}

/-- What lasts is not disturbed by other threads. -/
theorem World.Lasting.stable {assertion : World -> Prop} (lasting : Lasting thread assertion) :
    (kernel (σ := σ)).Stable thread fun now => assertion now.world :=
  fun _ _ _ different valid allowed holds =>
    lasting different valid ⟨allowed.valid, allowed.moves⟩ holds

/-- What holds for ever outlasts what the thread does meanwhile. -/
theorem World.Persistent.frame {assertion : World -> Prop} (persistent : Persistent assertion) :
    (kernel (σ := σ)).Frame thread call fun now => assertion now.world :=
  .of_moves fun valid allowed holds => persistent valid allowed.moves.toGrows holds

/-- What holds for ever holds later. -/
theorem World.Persistent.onward {assertion : World -> Prop} (persistent : Persistent assertion)
    {now later : Instant σ} (onward : kernel.Onward now later) (holds : assertion now.world) :
    assertion later.world := by
  induction onward with
  | refl => exact holds
  | step _ _ _ valid allowed inductionHypothesis =>
      exact persistent valid allowed.moves.toGrows inductionHypothesis

/-- From the precondition a request of the kernel ends in its postcondition, whatever the other
threads do. -/
def Serves (thread : ThreadId) (call : Option Nat) (pre : World -> Prop)
    (request : Request (Clients σ) α) (post : α -> World -> Prop)
    (fails : Fault -> World -> Prop) : Prop :=
  kernel.Meets thread call (fun now => pre now.world) request
    (fun answer now => post answer now.world) (fun fault now => fails fault now.world)

namespace Serves

open Discipline

variable {pre : World -> Prop} {request : Request (Clients σ) α} {post : α -> World -> Prop}
  {fails : Fault -> World -> Prop}

theorem pure {answer : α} (lasting : Lasting thread (post answer))
    (holds : forall world, world.Valid -> pre world -> post answer world) :
    Serves (σ := σ) thread call pre (Pure.pure answer) post fails :=
  Meets.pure lasting.stable fun now => holds now.world

theorem throw {fault : Fault} (lasting : Lasting thread (fails fault))
    (holds : forall world, world.Valid -> pre world -> fails fault world) :
    Serves thread call pre (throw fault : Request (Clients σ) α) post fails :=
  Meets.throw lasting.stable fun now => holds now.world

/-- What is known of an outcome, by what is known of an answer and of a fault. -/
def Outcome (post : α -> World -> Prop) (fails : Fault -> World -> Prop) :
    Except Fault α -> World -> Prop
  | .ok answer => post answer
  | .error fault => fails fault

/-- What the first request leads to the second one starts from. -/
theorem bind {middle : α -> World -> Prop} {next : α -> Request (Clients σ) β}
    {post : β -> World -> Prop} (first : Serves thread call pre request middle fails)
    (rest : forall answer, Serves thread call (middle answer) (next answer) post fails) :
    Serves thread call pre (request >>= next) post fails :=
  Meets.bind first rest

/-- As `bind`, with the assertion in the middle written out. -/
theorem via (middle : α -> World -> Prop) {next : α -> Request (Clients σ) β}
    {post : β -> World -> Prop} (first : Serves thread call pre request middle fails)
    (rest : forall answer, Serves thread call (middle answer) (next answer) post fails) :
    Serves thread call pre (request >>= next) post fails :=
  bind first rest

/-- A fault of the work is an answer of the attempt. -/
theorem attempt {never : Fault -> World -> Prop}
    (work : Serves thread call pre request post fails) :
    Serves thread call pre request.attempt (Outcome post fails) never := by
  refine (Meets.attempt work).weaken (fun _ _ holds => holds) ?_ fun _ _ _ failed => failed
  intro outcome now _ ended
  cases outcome with
  | ok answer => exact ended
  | error fault => exact ended

/-- Less may be relied on, and more promised. -/
theorem weaken {weaker : World -> Prop} {stronger : α -> World -> Prop}
    {failing : Fault -> World -> Prop} (serves : Serves thread call weaker request stronger failing)
    (before : forall world, world.Valid -> pre world -> weaker world)
    (after : forall answer world, world.Valid -> stronger answer world -> post answer world)
    (refused : forall fault world, world.Valid -> failing fault world -> fails fault world) :
    Serves thread call pre request post fails :=
  Meets.weaken serves (fun now => before now.world) (fun answer now => after answer now.world)
    fun fault now => refused fault now.world

/-- A weaker precondition will do. -/
theorem given {weaker : World -> Prop} (serves : Serves thread call weaker request post fails)
    (before : forall world, world.Valid -> pre world -> weaker world) :
    Serves thread call pre request post fails :=
  serves.weaken before (fun _ _ _ ended => ended) fun _ _ _ failed => failed

/-- What is assumed of the start alone. -/
theorem assume {fact : Prop} (serves : fact -> Serves thread call pre request post fails) :
    Serves thread call (fun world => fact ∧ pre world) request post fails :=
  Meets.assume serves

/-- What exists at the start. -/
theorem choose {index : Type} {pre : index -> World -> Prop}
    (serves : forall chosen, Serves thread call (pre chosen) request post fails) :
    Serves thread call (fun world => exists chosen, pre chosen world) request post fails :=
  Meets.choose serves

/-- What no step undoes may be used before and after. -/
theorem keeping {kept : World -> Prop} (serves : Serves thread call pre request post fails)
    (persistent : Persistent kept) :
    Serves thread call (fun world => pre world ∧ kept world) request
      (fun answer world => post answer world ∧ kept world)
      (fun fault world => fails fault world ∧ kept world) :=
  Meets.framed serves persistent.frame

/-- An action that is allowed serves as it says. -/
theorem perform {action : Action α} (before : Lasting thread pre)
    (after : forall answer, Lasting thread (post answer))
    (step : forall (now : Instant σ) answer store, now.world.Valid -> pre now.world ->
      action.perform thread now.store = some (answer, store) ->
        Allows thread now.world (now.withStore store).world ∧
          post answer (now.withStore store).world) :
    Serves (σ := σ) thread call pre (Request.perform action) post fails := by
  apply Meets.perform before.stable (fun answer => (after answer).stable)
  intro now answer store valid holds performed
  obtain ⟨allowed, ended⟩ := step now answer store valid holds performed
  exact ⟨⟨allowed.valid, allowed.moves⟩, ended⟩

/-- To look at the store serves with what is seen. -/
theorem observe {view : Store -> α} (before : Lasting thread pre)
    (after : forall answer, Lasting thread (post answer))
    (sees : forall now : Instant σ, now.world.Valid -> pre now.world ->
      post (view now.store) now.world) :
    Serves (σ := σ) thread call pre (Request.observe view) post fails :=
  Meets.observe before.stable (fun answer => (after answer).stable) fun now => sees now

end Serves

/-! ## Requests that the rules do not see -/

/-- The action changes nothing that the rules are about. -/
def Action.Mild (action : Action β) : Prop :=
  forall {σ : Type} (thread : ThreadId) (now : Instant σ) answer store,
    action.perform thread now.store = some (answer, store) ->
      (now.withStore store).world = now.world

/-- Every action of the program is mild, and there is nothing else in it. -/
def Program.Mild : Program (Clients σ) α -> Prop
  | .done _ => True
  | .act action next => action.Mild ∧ forall answer, (next answer).Mild
  | .host _ _ | .initialise _ _ | .escalate _ _ _ | .fork _ _ | .join _ _ | .panic _ => False

/-- Every action of the request is mild. -/
def Request.Mild (request : Request (Clients σ) α) : Prop := request.run.Mild

/-- A mild program goes on with a mild one. -/
theorem Program.Mild.bind {program : Program (Clients σ) α} {next : α -> Program (Clients σ) β}
    (first : program.Mild) (rest : forall answer, (next answer).Mild) :
    (program.bind next).Mild := by
  induction program with
  | done answer => exact rest answer
  | act action after inductionHypothesis =>
      exact ⟨first.1, fun answer => inductionHypothesis answer (first.2 answer)⟩
  | _ => exact first.elim

/-- A mild program keeps whatever lasts. -/
theorem Program.Mild.safe {program : Program (Clients σ) α} {kept : World -> Prop}
    {framed : Instant σ -> Prop} {now : Instant σ} (mild : program.Mild)
    (lasting : Lasting thread kept) (frame : kernel.Frame thread none framed)
    (valid : now.world.Valid) (holds : kept now.world) (held : framed now) :
    kernel.Safe thread program (fun _ after => kept after.world ∧ framed after) now := by
  induction program generalizing now with
  | done answer =>
      intro later evolves
      exact ⟨lasting.stable.around evolves holds, frame.stable.around evolves held⟩
  | act action next inductionHypothesis =>
      intro later evolves answer store performed
      have valid : kernel.Valid later := evolves.valid valid
      have holds := lasting.stable.around evolves holds
      have same := mild.1 thread later answer store performed
      have allowed : kernel.Allows thread later (later.withStore store) := by
        refine ⟨?_, ?_⟩
        · show (later.withStore store).world.Valid
          rw [same]
          exact valid
        · show World.Moves thread later.world (later.withStore store).world
          rw [same]
          exact .refl _ _
      have stays : kept (later.withStore store).world := by
        rw [same]
        exact holds
      have held := frame.acts valid allowed (kernel.quiet_store _ _)
        (frame.stable.around evolves held)
      exact ⟨later.ghost, allowed,
        inductionHypothesis answer (mild.2 answer) allowed.valid stays held⟩
  | _ => exact mild.elim

namespace Request.Mild

/-- An outcome that is known takes no action. -/
theorem done (outcome : Except Fault α) :
    Request.Mild (Request.ofExcept outcome : Request (Clients σ) α) := trivial

theorem pure (answer : α) : Request.Mild (Pure.pure answer : Request (Clients σ) α) := trivial

theorem throw (fault : Fault) : Request.Mild (throw fault : Request (Clients σ) α) := trivial

/-- A mild action is a mild request. -/
theorem perform {action : Action α} (mild : action.Mild) :
    Request.Mild (Request.perform action : Request (Clients σ) α) :=
  ⟨mild, fun _ => trivial⟩

/-- To look at the store is mild. -/
theorem observe (view : Store -> α) : Request.Mild (Request.observe view : Request (Clients σ) α) :=
  perform fun _ _ _ _ performed => by cases performed; rfl

/-- Mild requests one after the other are mild. -/
theorem bind {request : Request (Clients σ) α} {next : α -> Request (Clients σ) β}
    (first : request.Mild) (rest : forall answer, (next answer).Mild) :
    Request.Mild (request >>= next) := by
  apply Program.Mild.bind first
  rintro (fault | answer)
  · trivial
  · exact rest answer

/-- A mild request keeps whatever lasts. -/
theorem serves {request : Request (Clients σ) α} (mild : request.Mild) {kept : World -> Prop}
    (lasting : Lasting thread kept) :
    Serves thread call kept request (fun _ => kept) (fun _ => kept) := by
  apply Discipline.Meets.within
  intro framed frame now valid holds held
  apply (Program.Mild.safe mild lasting frame valid holds held).weaken valid
  rintro (fault | answer) after - - ended
  · exact ended
  · exact ended

end Request.Mild

/-! ## Mild actions -/

namespace Action

/-- To record an event concerns no class and no type. -/
theorem mild_record (event : Record) : (Action.record event).Mild :=
  fun _ _ _ _ performed => by cases performed; rfl

/-- To give back a guard concerns no class and no type. -/
theorem mild_release (id : RegistryId) : (Action.release id).Mild :=
  fun _ _ _ _ performed => by cases performed; rfl

/-- To claim a class changes how far it is initialised, and nothing that is promised. -/
theorem mild_claim (cls : ClassId) : (Action.claim cls).Mild := by
  intro σ thread now answer store performed
  simp only [perform, Option.map_eq_some_iff] at performed
  obtain ⟨claimed, -, same⟩ := performed
  cases same
  rfl

/-- To add a loader is mild. -/
theorem mild_addLoader : Action.addLoader.Mild :=
  fun _ _ _ _ performed => by cases performed; rfl

/-- To add a synthesizer is mild. -/
theorem mild_addSynthesizer (config : Configuration) (loader : LoaderId) :
    (Action.addSynthesizer config loader).Mild :=
  fun _ _ _ _ performed => by cases performed; rfl

/-- To issue a name is mild. -/
theorem mild_synthesizer (id : SynthesizerId) (step : Synthesizer.Step β) :
    (Action.synthesizer id step).Mild :=
  fun _ _ _ _ performed => by cases performed; rfl

/-- To define a name is mild; the class is declared by another action. -/
theorem mild_loader (id : LoaderId) (step : Loader.Step β) : (Action.loader id step).Mild :=
  fun _ _ _ _ performed => by cases performed; rfl

/-- To make directories is mild. -/
theorem mild_makeDirectories (path : String) : (Action.makeDirectories path).Mild :=
  fun _ _ _ _ performed => by cases performed; rfl

/-- To write a file is mild. -/
theorem mild_writeFile (path text : String) : (Action.writeFile path text).Mild :=
  fun _ _ _ _ performed => by cases performed; rfl

/-- A change of fields that keeps the class is not seen. -/
theorem mild_modify {now : Instant σ} {object : ObjectId} {change : HeapObject -> HeapObject}
    (kept : forall object, (change object).hostClass = object.hostClass) :
    (now.withStore { now.store with
      heap := now.store.heap.modify object.index change }).world = now.world := by
  unfold Moment.world
  congr 1
  funext other
  show (Heap.object _ other).hostClass = (Heap.object _ other).hostClass
  unfold Heap.object Moment.withStore
  simp only [Table.get_modify]
  split
  · exact kept _
  · rfl

/-- To store in the fields of an object leaves its class alone. -/
theorem hostClass_modifyFields (object : HeapObject) {change : Instance -> Instance}
    (kept : forall fields, (change fields).cls = fields.cls) :
    (object.modifyFields change).hostClass = object.hostClass := by
  cases object with
  | dictionary entries => rfl
  | composite fields => exact kept fields

/-- To store the type of an object is mild. -/
theorem mild_storeType (object : ObjectId) (type : TypeId) :
    (Action.heap (.storeType object type)).Mild := by
  intro σ thread now answer store performed
  cases performed
  exact mild_modify fun object => hostClass_modifyFields object fun _ => rfl

/-- To store the dictionary of an object is mild. -/
theorem mild_storeDict (object : ObjectId) (dict : Value) :
    (Action.heap (.storeDict object dict)).Mild := by
  intro σ thread now answer store performed
  cases performed
  exact mild_modify fun object => hostClass_modifyFields object fun _ => rfl

/-- To store in a slot is mild. -/
theorem mild_exchangeSlot (object : ObjectId) (index : Nat) (value : Option Value) :
    (Action.heap (.exchangeSlot object index value)).Mild := by
  intro σ thread now answer store performed
  cases performed
  exact mild_modify fun object => hostClass_modifyFields object fun _ => rfl

/-- To store in a dictionary is mild. -/
theorem mild_exchangeEntry (object : ObjectId) (name : String) (value : Option Value) :
    (Action.heap (.exchangeEntry object name value)).Mild := by
  intro σ thread now answer store performed
  cases performed
  apply mild_modify
  intro object
  cases object <;> rfl

end Action

/-! ## Steps of registries and factories -/

/-- What a change of one registry is for the world. -/
theorem world_setRegistry {now : Instant σ} {id : RegistryId} {changed : Registry}
    {guards : Table Guard} {records : Array Record}
    (made : id.index < now.store.registries.size) :
    (now.withStore { now.store with
      registries := now.store.registries.set id.index changed, guards, records }).world =
    { now.world with
      bindings := fun other => if other = id then changed.lookup else now.world.bindings other
      escalation := fun other =>
        if other = id then changed.escalation else now.world.escalation other } := by
  have cell : forall other : RegistryId,
      (now.store.registries.set id.index changed).get other.index =
        if other = id then changed else now.store.registries.get other.index := by
    intro other
    rw [Table.get_set]
    cases id
    cases other
    simp [eq_comm]
  unfold Moment.world
  congr 1
  · exact Table.size_set changed made
  · funext other cls
    show ((now.store.registries.set id.index changed).get other.index).lookup cls = _
    rw [cell]
    split <;> rfl
  · funext other
    show ((now.store.registries.set id.index changed).get other.index).escalation = _
    rw [cell]
    split <;> rfl

/-- What new bindings in a registry are for the world. -/
theorem world_bindRegistry {now : Instant σ} {id : RegistryId} {changed : Registry}
    {guards : Table Guard} {records : Array Record}
    (made : id.index < now.store.registries.size)
    (escalation : changed.escalation = (now.store.registry id).escalation) :
    (now.withStore { now.store with
      registries := now.store.registries.set id.index changed, guards, records }).world =
    now.world.changingBindings id changed.lookup := by
  have escalations : (fun other => if other = id then (now.store.registry id).escalation
      else now.world.escalation other) = now.world.escalation := by
    funext other
    split
    · rename_i same
      rw [same]
      rfl
    · rfl
  rw [world_setRegistry made, escalation, escalations]
  rfl

/-- To give a registry the bindings that it has changes nothing. -/
theorem bindings_same (now : Instant σ) (id : RegistryId) :
    (fun other => if other = id then (now.store.registry id).lookup
      else now.world.bindings other) = now.world.bindings := by
  funext other
  split
  · rename_i same
    rw [same]
    rfl
  · rfl

/-- A reading of a registry is not seen. -/
theorem world_readRegistry {now : Instant σ} {id : RegistryId} {changed : Registry}
    {guards : Table Guard} {records : Array Record}
    (made : id.index < now.store.registries.size)
    (lookup : changed.lookup = (now.store.registry id).lookup)
    (escalation : changed.escalation = (now.store.registry id).escalation) :
    (now.withStore { now.store with
      registries := now.store.registries.set id.index changed, guards, records }).world =
      now.world := by
  rw [world_bindRegistry made escalation, lookup]
  unfold World.changingBindings
  rw [bindings_same]

/-- What a change of one factory is for the world. -/
theorem world_setFactory {now : Instant σ} {id : FactoryId} {changed : Factory}
    (made : id.index < now.store.factories.size) :
    (now.withStore { now.store with
      factories := now.store.factories.set id.index changed }).world =
    now.world.changingFactory id changed := by
  unfold World.changingFactory Moment.world
  congr 1
  · exact Table.size_set changed made
  · funext other
    show (now.store.factories.set id.index changed).get other.index = _
    rw [Table.get_set]
    cases id
    cases other
    simp only [FactoryId.mk.injEq, eq_comm]
    rfl

/-- What a step of a registry comes to, with the guard that it takes. -/
theorem perform_registry {id : RegistryId} {step : Registry.Step β} {answer : β}
    {before after : Store}
    (performed : (Action.registry id step).perform thread before = some (answer, after)) :
    answer = (step.perform (before.registry id)).1 ∧
      after = { before with
        registries := before.registries.set id.index (step.perform (before.registry id)).2.1
        guards := before.guards.set id.index (step.guarding thread (before.guard id))
        records := before.records ++ (step.perform (before.registry id)).2.2 } := by
  cases performed
  exact ⟨rfl, rfl⟩

/-- What a step of a factory comes to, if the thread need not wait for the lock. -/
theorem perform_factory {id : FactoryId} {step : Factory.Step β} {answer : β}
    {before after : Store}
    (performed : (Action.factory id step).perform thread before = some (answer, after)) :
    exists changed, step.perform thread (before.factory id) = some (answer, changed) ∧
      after = { before with factories := before.factories.set id.index changed } := by
  simp only [Action.perform, Option.map_eq_some_iff] at performed
  obtain ⟨⟨answered, changed⟩, stepped, same⟩ := performed
  cases same
  exact ⟨changed, stepped, rfl⟩

/-- A step of a registry that answers what a class is bound to, and changes no binding. -/
structure Registry.Step.Looks (step : Registry.Step (Option Representation)) (cls : ClassId) :
    Prop where
  answer : forall registry, (step.perform registry).1 = registry.lookup cls
  lookup : forall registry, (step.perform registry).2.1.lookup = registry.lookup
  escalation : forall registry, (step.perform registry).2.1.escalation = registry.escalation

/-- A lookup that is not counted looks. -/
theorem Registry.Step.looks_lookup (cls : ClassId) : (Registry.Step.lookup cls).Looks cls :=
  ⟨fun _ => rfl, fun _ => rfl, fun _ => rfl⟩

/-- So does the first lookup of a request. -/
theorem Registry.Step.looks_firstLookup (cls : ClassId) :
    (Registry.Step.firstLookup cls).Looks cls where
  answer := fun _ => rfl
  lookup := by
    intro registry
    unfold perform
    dsimp only
    split <;> rfl
  escalation := by
    intro registry
    unfold perform
    dsimp only
    split <;> rfl

/-- So does the second one. -/
theorem Registry.Step.looks_secondLookup (cls : ClassId) :
    (Registry.Step.secondLookup cls).Looks cls where
  answer := fun _ => rfl
  lookup := by
    intro registry
    unfold perform
    dsimp only
    split <;> rfl
  escalation := by
    intro registry
    unfold perform
    dsimp only
    split <;> rfl

namespace Serves

variable {pre : World -> Prop} {fails : Fault -> World -> Prop}

/-- A mild action keeps whatever lasts, and is not refused. -/
theorem quietly {action : Action α} (mild : action.Mild) {kept : World -> Prop}
    (lasting : Lasting thread kept) :
    Serves (σ := σ) thread call kept (Request.perform action) (fun _ => kept) fails := by
  apply perform lasting (fun _ => lasting)
  intro now answer store valid holds performed
  rw [mild thread now answer store performed]
  exact ⟨⟨valid, .refl _ _⟩, holds⟩

/-- Looking at the store keeps whatever lasts. -/
theorem glance {view : Store -> α} {kept : World -> Prop} (lasting : Lasting thread kept) :
    Serves (σ := σ) thread call kept (Request.observe view) (fun _ => kept) fails :=
  observe lasting (fun _ => lasting) fun _ _ holds => holds

/-- A step of a registry, after which the guard is given back. -/
theorem registryStep {registry : RegistryId} {step : Registry.Step α} {post : α -> World -> Prop}
    (before : Lasting thread pre) (after : forall answer, Lasting thread (post answer))
    (acts : forall (now : Instant σ) answer store, now.world.Valid -> pre now.world ->
      (Action.registry registry step).perform thread now.store = some (answer, store) ->
        Allows thread now.world (now.withStore store).world ∧
          post answer (now.withStore store).world) :
    Serves (σ := σ) thread call pre (registry.step step) post fails :=
  bind (perform before after acts) fun answer =>
    bind (quietly (Action.mild_release registry) (after answer)) fun _ =>
      pure (after answer) fun _ _ holds => holds

/-- Looking a class up. -/
theorem lookup {registry : RegistryId} {cls : ClassId}
    {post : Option Representation -> World -> Prop}
    {step : Registry.Step (Option Representation)} (looks : step.Looks cls)
    (before : Lasting thread pre) (after : forall answer, Lasting thread (post answer))
    (sees : forall world, world.Valid -> pre world -> registry.index < world.registryCount ∧
      post (world.bindings registry cls) world) :
    Serves (σ := σ) thread call pre (registry.step step) post fails := by
  apply registryStep before after
  intro now answer store valid holds performed
  obtain ⟨rfl, rfl⟩ := perform_registry performed
  obtain ⟨made, seen⟩ := sees now.world valid holds
  rw [world_readRegistry made (looks.lookup _) (looks.escalation _), looks.answer]
  exact ⟨⟨valid, .refl _ _⟩, seen⟩

end Serves

end GuestTypes
