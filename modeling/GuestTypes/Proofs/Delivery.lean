import GuestTypes.Proofs.Growth
import GuestTypes.Proofs.Guards
import GuestTypes.Protocol.Creation

/-!
# Programs that come to an answer

A program of the kernel delivers an answer when each of its steps can be taken and it ends, whatever
happens around it that spares what it relies on. It may have to wait for the guard of a registry,
which whoever holds it is about to give back. While a thread holds the lock of a factory, what it
relies on is the factory, the bindings of its registry, and all that classes and types have been
made. A `Scene` is this part of a store. What a request leads to is then said of scenes, one for
each outcome, with no word about other threads. A `Stage` says what happens around the thread, and
with that how much of the store is known: amid other threads the scene alone, and everything else
too while the thread is the only one that takes steps.
-/

namespace GuestTypes

variable {σ α β : Type} {thread : ThreadId}

/-- Every step of the program can be taken, as soon as the guard that it needs is not held, and its
answer meets the postcondition, if only what is allowed happens around it. Host code is no part of
it. -/
def Program.Delivers (thread : ThreadId) (around : Store -> Store -> Prop) :
    Program σ α -> Store -> (α -> Store -> Prop) -> Prop
  | .done answer, now, post => post answer now
  | .act action next, now, post => forall later, around now later ->
      exists answer after, action.perform thread later = some (answer, after) ∧
        Delivers thread around (next answer) after post
  | .host _ _, _, _ | .initialise _ _, _, _ | .escalate _ _ _, _, _ | .fork _ _, _, _
  | .join _ _, _, _ | .panic _, _, _ => False

/-- What comes of a program on its own, if it can go on to the end. -/
def Program.alone (thread : ThreadId) : Program σ α -> Store -> Option (α × Store)
  | .done answer, now => some (answer, now)
  | .act action next, now =>
      (action.perform thread now).bind fun (answer, after) => (next answer).alone thread after
  | _, _ => none

namespace Store

/-- The store once a thread has taken a step of a registry, the guard of which it holds. -/
def accessed (store : Store) (thread : ThreadId) (registry : RegistryId) (step : Registry.Step α) :
    Store :=
  { store with
    registries := store.registries.set registry.index (step.perform (store.registry registry)).2.1
    guards := store.guards.set registry.index (step.guarding thread (store.guard registry))
    records := store.records ++ (step.perform (store.registry registry)).2.2 }

/-- The store once a thread has given back the guard of a registry. -/
def relieved (store : Store) (thread : ThreadId) (registry : RegistryId) : Store :=
  { store with guards := store.guards.set registry.index ((store.guard registry).give thread) }

end Store

/-- No step of a factory moves it to another registry. -/
theorem Factory.Step.registry_perform {step : Factory.Step α} {answer : α}
    {before after : Factory} (performed : step.perform thread before = some (answer, after)) :
    after.registry = before.registry :=
  (keeps_perform performed).1

namespace Program.Delivers

variable {around : Store -> Store -> Prop} {post other : α -> Store -> Prop}

/-- A program that delivers is at its end, or takes an action, after which it delivers still. -/
@[elab_as_elim]
theorem induction_on
    {motive : forall program now, Program.Delivers (σ := σ) thread around program now post -> Prop}
    (done : forall answer now (ends : post answer now), motive (.done answer) now ends)
    (act : forall {β : Type} (action : Action β) (next : β -> Program σ α) now
      (delivers : (Program.act action next).Delivers thread around now post)
      (_ : forall answer after (rest : (next answer).Delivers thread around after post),
        motive (next answer) after rest),
      motive (.act action next) now delivers)
    {program : Program σ α} {now : Store} (delivers : program.Delivers thread around now post) :
    motive program now delivers := by
  induction program generalizing now with
  | done answer => exact done answer now delivers
  | act action next inductionHypothesis =>
      exact act action next now delivers fun answer after rest => inductionHypothesis answer rest
  | _ => exact delivers.elim

variable {program : Program σ α} {now : Store}

/-- More may be promised of an answer. -/
theorem weaken (delivers : program.Delivers thread around now post)
    (implies : forall answer after, post answer after -> other answer after) :
    program.Delivers thread around now other := by
  induction delivers using induction_on with
  | done answer now ends => exact implies answer now ends
  | act action next now delivers inductionHypothesis =>
      intro later spared
      obtain ⟨answer, after, performed, rest⟩ := delivers later spared
      exact ⟨answer, after, performed, inductionHypothesis answer after rest⟩

/-- A program that delivers goes on with one that does. -/
theorem bind {next : α -> Program σ β} {post : β -> Store -> Prop}
    (first : program.Delivers thread around now fun answer after =>
      (next answer).Delivers thread around after post) :
    (program.bind next).Delivers thread around now post := by
  induction first using induction_on with
  | done answer now ends => exact ends
  | act action after now first inductionHypothesis =>
      intro later spared
      obtain ⟨answer, store, performed, rest⟩ := first later spared
      exact ⟨answer, store, performed, inductionHypothesis answer store rest⟩

/-- With less happening around it, the program delivers all the more. -/
theorem narrow {wide : Store -> Store -> Prop} (delivers : program.Delivers thread wide now post)
    (narrower : forall before after, around before after -> wide before after) :
    program.Delivers thread around now post := by
  induction delivers using induction_on with
  | done answer now ends => exact ends
  | act action next now delivers inductionHypothesis =>
      intro later spared
      obtain ⟨answer, after, performed, rest⟩ := delivers later (narrower now later spared)
      exact ⟨answer, after, performed, inductionHypothesis answer after rest⟩

/-- What no action undoes is still true at the end. -/
theorem keeping {kept : Store -> Prop} (delivers : program.Delivers thread around now post)
    (holds : kept now) (spared : forall before after, around before after -> kept before ->
      kept after)
    (acts : forall {β : Type} (action : Action β) answer before after,
      action.perform thread before = some (answer, after) -> kept before -> kept after) :
    program.Delivers thread around now fun answer after => post answer after ∧ kept after := by
  induction delivers using induction_on with
  | done answer now ends => exact ⟨ends, holds⟩
  | act action next now delivers inductionHypothesis =>
      intro later around_
      obtain ⟨answer, after, performed, rest⟩ := delivers later around_
      exact ⟨answer, after, performed, inductionHypothesis answer after rest
        (acts action answer later after performed (spared now later around_ holds))⟩

/-- What a program delivers twice it delivers at once. -/
theorem and (delivers : program.Delivers thread around now post)
    (again : program.Delivers thread around now other) :
    program.Delivers thread around now
      fun answer after => post answer after ∧ other answer after := by
  induction delivers using induction_on with
  | done answer now ends => exact ⟨ends, again⟩
  | act action next now delivers inductionHypothesis =>
      intro later around_
      obtain ⟨answer, after, performed, rest⟩ := delivers later around_
      obtain ⟨_, _, same, restAgain⟩ := again later around_
      cases performed.symm.trans same
      exact ⟨answer, after, performed, inductionHypothesis answer after rest restAgain⟩

/-- A program that delivers comes to some answer. -/
theorem answers (delivers : program.Delivers thread around now post)
    (alone : forall store, around store store) : exists answer after, post answer after := by
  induction delivers using induction_on with
  | done answer now ends => exact ⟨answer, now, ends⟩
  | act action next now delivers inductionHypothesis =>
      obtain ⟨answer, after, -, rest⟩ := delivers now (alone now)
      exact inductionHypothesis answer after rest

/-- On its own the program comes to an answer that meets the postcondition. -/
theorem alone {answer : α} {after : Store} (delivers : program.Delivers thread around now post)
    (calm : forall store, around store store)
    (comes : program.alone thread now = some (answer, after)) : post answer after := by
  induction delivers using induction_on with
  | done _ now ends =>
      cases comes
      exact ends
  | act action next now delivers inductionHypothesis =>
      obtain ⟨_, _, performed, rest⟩ := delivers now (calm now)
      rw [Program.alone, performed] at comes
      exact inductionHypothesis _ _ rest comes

/-- A thread that takes steps while the others give back guards at most comes to the answer. -/
theorem steps {code : HostCode σ} {machine : Machine σ} {next : α -> Program σ (Except Fault Unit)}
    {frames : List (Frame σ)} (delivers : program.Delivers thread around machine.store post)
    (guarded : machine.Guarded) (hosts : code.Guarded)
    (calm : forall store guards, around store { store with guards })
    (running : machine.threads[thread.index]? = some (.running (program.bind next) frames)) :
    exists answer later, post answer later.store ∧ later.host = machine.host ∧
      later.threads[thread.index]? = some (.running (next answer) frames) ∧
        Machine.Steps code machine later := by
  generalize same : machine.store = now at delivers
  induction delivers using induction_on generalizing machine with
  | done answer now ends => exact ⟨answer, machine, same ▸ ends, rfl, running, .refl⟩
  | act action after now delivers inductionHypothesis =>
      subst same
      obtain ⟨eased, guards, waits, guarded, same, untouched, running, admitted⟩ :=
        guarded.eases hosts running
      obtain ⟨answer, store, performed, rest⟩ :=
        delivers eased.store (same ▸ calm machine.store guards)
      have present := (Array.getElem?_eq_some_iff.mp running).1
      let taken := { eased with store }.setThread thread
        (.running ((after answer).bind next) frames)
      have moved : eased.step code thread = some taken :=
        Machine.step_eq_some_iff.mpr ⟨_, frames, running, .acted answer store performed admitted⟩
      have goesOn : taken.threads[thread.index]? =
          some (.running ((after answer).bind next) frames) := Machine.thread_self _ present
      obtain ⟨final, later, ended, host, found, steps⟩ :=
        inductionHypothesis answer store rest (guarded.step hosts moved) goesOn rfl
      exact ⟨final, later, ended, host.trans untouched, found,
        (Machine.Steps.step waits ⟨thread, moved⟩).trans steps⟩

end Program.Delivers

/-! ## Requests -/

/-- A request is followed by another one, or by nothing if it is refused. -/
def Request.Followed (thread : ThreadId) (around : Store -> Store -> Prop)
    (rest : α -> Request σ β) (post : Except Fault β -> Store -> Prop) :
    Except Fault α -> Store -> Prop
  | .ok answer, after => (rest answer).run.Delivers thread around after post
  | .error fault, after => post (.error fault) after

namespace Program.Delivers

variable {around : Store -> Store -> Prop} {now : Store} {post : Except Fault α -> Store -> Prop}

/-- A request that is answered goes on with the next one. -/
theorem andThen {request : Request σ α} {rest : α -> Request σ β}
    {post : Except Fault β -> Store -> Prop}
    (first : request.run.Delivers thread around now (Request.Followed thread around rest post)) :
    (request >>= rest).run.Delivers thread around now post := by
  apply Program.Delivers.bind
  apply first.weaken
  intro outcome after follows
  cases outcome with
  | ok answer => exact follows
  | error fault => exact follows

/-- One action that need not wait. -/
theorem perform {action : Action α}
    (step : forall later, around now later -> exists answer after,
      action.perform thread later = some (answer, after) ∧ post (.ok answer) after) :
    (Request.perform action : Request σ α).run.Delivers thread around now post := by
  intro later spared
  obtain ⟨answer, after, performed, ends⟩ := step later spared
  exact ⟨answer, after, performed, ends⟩

/-- To look at the store delivers what is seen. -/
theorem observe {view : Store -> α}
    (sees : forall later, around now later -> post (.ok (view later)) later) :
    (Request.observe view : Request σ α).run.Delivers thread around now post :=
  perform fun later spared => ⟨view later, later, rfl, sees later spared⟩

/-- A step of a registry, after which the guard is given back. -/
theorem registryStep {registry : RegistryId} {step : Registry.Step α}
    (steps : forall later, around now later ->
      forall last, around (later.accessed thread registry step) last ->
        post (.ok (step.perform (later.registry registry)).1) (last.relieved thread registry)) :
    (registry.step step : Request σ α).run.Delivers thread around now post := by
  apply andThen
  apply perform
  intro later spared
  refine ⟨_, later.accessed thread registry step, rfl, ?_⟩
  apply andThen
  apply perform
  intro last still
  exact ⟨(), last.relieved thread registry, rfl, steps later spared last still⟩

end Program.Delivers

/-! ## Scenes -/

/-- What a thread that holds the lock of a factory relies on. -/
structure Scene where
  factory : Factory
  /-- What the registry of the factory binds a class to. -/
  bound : ClassId -> Option Representation
  hierarchy : Hierarchy
  types : TypeTable

namespace Store

/-- What the registry of a factory binds a class to. -/
def bound (store : Store) (factory : FactoryId) (cls : ClassId) : Option Representation :=
  (store.registry (store.factory factory).registry).lookup cls

def scene (store : Store) (factory : FactoryId) : Scene where
  factory := store.factory factory
  bound := store.bound factory
  hierarchy := store.hierarchy
  types := store.types

end Store

/-- The scene is what a store shows of a factory, with no class and no type that the store has
not. -/
structure Scene.Fits (scene : Scene) (id : FactoryId) (now : Store) : Prop where
  factory : now.factory id = scene.factory
  bound : now.bound id = scene.bound
  hierarchy : scene.hierarchy.Extends now.hierarchy
  types : scene.types.Extends now.types

/-- The factory and the bindings of its registry stay, and so do all classes and types. -/
def Store.Spares (factory : FactoryId) (before after : Store) : Prop :=
  (before.scene factory).Fits factory after

/-- A store fits the scene that it shows. -/
theorem Store.fits_scene (store : Store) (factory : FactoryId) :
    (store.scene factory).Fits factory store := ⟨rfl, rfl, .refl _, .refl _⟩

/-- Who holds which guard is not seen in a scene. -/
theorem Store.spares_guards (store : Store) (guards : Table Guard) (factory : FactoryId) :
    store.Spares factory { store with guards } := ⟨rfl, rfl, .refl _, .refl _⟩

/-! ## Stages -/

/-- A step of a thread that works with a factory: on its own, on the registry of the factory, or
on the types. -/
inductive Scene.Advances (id : FactoryId) (scene : Scene) (now : Store) :
    Scene -> Store -> Prop where
  | apart (guards : Table Guard) (records : Array Record) :
      Advances id scene now scene { now with guards, records }
  | factory (changed : Factory) (wired : changed.registry = scene.factory.registry) :
      Advances id scene now { scene with factory := changed }
        { now with factories := now.factories.set id.index changed }
  | types (types : TypeTable) (grown : now.types.Extends types) :
      Advances id scene now { scene with types } { now with types }
  | registry (changed : Registry) (guards : Table Guard) (records : Array Record)
      (rebinds : (now.registry scene.factory.registry).Rebinds changed) :
      Advances id scene now { scene with bound := changed.lookup } { now with
        registries := now.registries.set scene.factory.registry.index changed
        guards, records }

/-- What may happen around a thread that works with a factory, and how the store is known to it
between its steps. -/
structure Stage (id : FactoryId) where
  around : Store -> Store -> Prop
  fits : Scene -> Store -> Prop
  /-- The types of a scene, and those that are found there. -/
  finds : TypeTable -> TypeTable -> Prop
  shows : forall {scene now}, fits scene now -> scene.Fits id now
  found : forall {scene now}, fits scene now -> finds scene.types now.types
  spared : forall {scene now later}, fits scene now -> around now later -> fits scene later
  advances : forall {scene now next after}, fits scene now -> scene.Advances id now next after ->
    fits next after

/-- A scene fits as long as the factory is spared. -/
theorem Scene.Fits.spared {scene : Scene} {id : FactoryId} {now later : Store}
    (fits : scene.Fits id now) (spares : Store.Spares id now later) : scene.Fits id later where
  factory := spares.factory.trans fits.factory
  bound := spares.bound.trans fits.bound
  hierarchy := fits.hierarchy.trans spares.hierarchy
  types := fits.types.trans spares.types

/-- The registry of the factory binds what the scene says. -/
theorem Scene.Fits.lookup {scene : Scene} {id : FactoryId} {now : Store}
    (fits : scene.Fits id now) :
    (now.registry scene.factory.registry).lookup = scene.bound := by
  rw [← fits.bound, ← fits.factory]
  rfl

/-- A change of the factory's registry is seen in the bindings of the scene. -/
theorem Scene.Fits.registry {scene : Scene} {id : FactoryId} {now : Store}
    (fits : scene.Fits id now) (changed : Registry) (guards : Table Guard)
    (records : Array Record) :
    ({ scene with bound := changed.lookup } : Scene).Fits id { now with
      registries := now.registries.set scene.factory.registry.index changed
      guards, records } := by
  refine ⟨fits.factory, ?_, fits.hierarchy, fits.types⟩
  have wired : (now.factory id).registry = scene.factory.registry := by rw [fits.factory]
  ext1 cls
  simp [Store.bound, Store.factory, Store.registry, Table.get_set] at wired ⊢
  simp [wired]

/-- A step of the thread is seen in the scene. -/
theorem Scene.Fits.advances {scene next : Scene} {id : FactoryId} {now after : Store}
    (fits : scene.Fits id now) (advances : scene.Advances id now next after) :
    next.Fits id after := by
  cases advances with
  | apart guards records => exact ⟨fits.factory, fits.bound, fits.hierarchy, fits.types⟩
  | factory changed wired =>
      have cell : Store.factory
          { now with factories := now.factories.set id.index changed } id = changed := by
        simp [Store.factory, Table.get_set]
      refine ⟨cell, ?_, fits.hierarchy, fits.types⟩
      rw [← fits.bound]
      unfold Store.bound
      rw [cell, wired, fits.factory]
      rfl
  | types types grown => exact ⟨fits.factory, fits.bound, fits.hierarchy, .refl _⟩
  | registry changed guards records => exact fits.registry changed guards records

/-- Amid other threads, which leave the factory alone. -/
def Stage.amid (id : FactoryId) : Stage id where
  around := Store.Spares id
  fits scene := scene.Fits id
  finds before after := before.Extends after
  shows := fun fits => fits
  found := fun fits => fits.types
  spared := Scene.Fits.spared
  advances := Scene.Fits.advances

/-- From the scene the request comes to an outcome and a scene that it leads to. -/
def Scene.AttainsOn (scene : Scene) {id : FactoryId} (stage : Stage id) (thread : ThreadId)
    (request : Request σ α) (leads : Except Fault α -> Scene -> Prop) : Prop :=
  forall now, stage.fits scene now ->
    request.run.Delivers thread stage.around now fun outcome after =>
      exists next, leads outcome next ∧ stage.fits next after

/-- The request comes to an outcome amid other threads. -/
abbrev Scene.Attains (scene : Scene) (thread : ThreadId) (id : FactoryId) (request : Request σ α)
    (leads : Except Fault α -> Scene -> Prop) : Prop :=
  scene.AttainsOn (.amid id) thread request leads

/-- A request is followed by another one, or by nothing if it is refused. -/
def Scene.Then {id : FactoryId} (stage : Stage id) (thread : ThreadId) (rest : α -> Request σ β)
    (leads : Except Fault β -> Scene -> Prop) : Except Fault α -> Scene -> Prop
  | .ok answer, next => next.AttainsOn stage thread (rest answer) leads
  | .error fault, next => leads (.error fault) next

namespace Scene.AttainsOn

variable {scene : Scene} {id : FactoryId} {stage : Stage id}
    {leads : Except Fault α -> Scene -> Prop}

theorem pure {answer : α} (ends : leads (.ok answer) scene) :
    scene.AttainsOn (σ := σ) stage thread (Pure.pure answer) leads :=
  fun _ fits => ⟨scene, ends, fits⟩

theorem throw {fault : Fault} (ends : leads (.error fault) scene) :
    scene.AttainsOn stage thread (throw fault : Request σ α) leads :=
  fun _ fits => ⟨scene, ends, fits⟩

/-- An outcome that is known leads where it leads. -/
theorem ofExcept {outcome : Except Fault α} (ends : leads outcome scene) :
    scene.AttainsOn (σ := σ) stage thread (Request.ofExcept outcome) leads :=
  fun _ fits => ⟨scene, ends, fits⟩

/-- More outcomes may be allowed. -/
theorem weaken {request : Request σ α} {stronger : Except Fault α -> Scene -> Prop}
    (attains : scene.AttainsOn stage thread request stronger)
    (implies : forall outcome next, stronger outcome next -> leads outcome next) :
    scene.AttainsOn stage thread request leads := by
  intro now fits
  apply (attains now fits).weaken
  rintro outcome after ⟨next, ends, fits⟩
  exact ⟨next, implies outcome next ends, fits⟩

/-- A request leads where the next one leads from its answer. -/
theorem bind {request : Request σ α} {rest : α -> Request σ β}
    {leads : Except Fault β -> Scene -> Prop}
    (first : scene.AttainsOn stage thread request (Then stage thread rest leads)) :
    scene.AttainsOn stage thread (request >>= rest) leads := by
  intro now fits
  apply Program.Delivers.bind
  apply (first now fits).weaken
  rintro outcome after ⟨reached, follows, fits⟩
  cases outcome with
  | ok answer => exact follows after fits
  | error fault => exact ⟨reached, follows, fits⟩

/-- A fault of the work is an answer of the attempt. -/
theorem attempt {request : Request σ α} {leads : Except Fault (Except Fault α) -> Scene -> Prop}
    (attains : scene.AttainsOn stage thread request fun outcome => leads (.ok outcome)) :
    scene.AttainsOn stage thread request.attempt leads := by
  intro now fits
  apply Program.Delivers.bind
  exact attains now fits

/-! ## Single steps -/

/-- One action that can be taken at once. -/
theorem perform {action : Action α}
    (step : forall now, stage.fits scene now -> exists answer after next,
      action.perform thread now = some (answer, after) ∧ leads (.ok answer) next ∧
        scene.Advances id now next after) :
    scene.AttainsOn (σ := σ) stage thread (Request.perform action) leads := by
  intro now fits later spares
  have fits := stage.spared fits spares
  obtain ⟨answer, after, next, performed, ends, advances⟩ := step later fits
  exact ⟨answer, after, performed, next, ends, stage.advances fits advances⟩

/-- What is seen of the store. -/
theorem observe {view : Store -> α}
    (sees : forall now, stage.fits scene now -> leads (.ok (view now)) scene) :
    scene.AttainsOn (σ := σ) stage thread (Request.observe view) leads :=
  perform fun now fits => ⟨view now, now, scene, rfl, sees now fits, .apart now.guards now.records⟩

/-- What is seen of the factory is what the scene says. -/
theorem view {look : Factory -> α} (ends : leads (.ok (look scene.factory)) scene) :
    scene.AttainsOn (σ := σ) stage thread (id.view look) leads := by
  apply observe
  intro now fits
  rw [(stage.shows fits).factory]
  exact ends

/-- To record an event changes no scene. -/
theorem record {event : Record} {leads : Except Fault Unit -> Scene -> Prop}
    (ends : leads (.ok ()) scene) :
    scene.AttainsOn (σ := σ) stage thread (Request.perform (.record event)) leads :=
  perform fun now _ => ⟨(), _, scene, rfl, ends, .apart now.guards (now.records.push event)⟩

/-- A guard is given back. -/
theorem release {registry : RegistryId} {leads : Except Fault Unit -> Scene -> Prop}
    (ends : leads (.ok ()) scene) :
    scene.AttainsOn (σ := σ) stage thread (Request.perform (.release registry)) leads :=
  perform fun now _ => ⟨(), now.relieved thread registry, scene, rfl, ends, .apart _ now.records⟩

/-- A step of the factory that need not wait. -/
theorem step {step : Factory.Step α} {answer : α} {changed : Factory}
    (performed : step.perform thread scene.factory = some (answer, changed))
    (ends : leads (.ok answer) { scene with factory := changed }) :
    scene.AttainsOn (σ := σ) stage thread (id.step step) leads := by
  apply perform
  intro now fits
  have taken : (Action.factory id step).perform thread now =
      some (answer, { now with factories := now.factories.set id.index changed }) := by
    simp only [Action.perform, (stage.shows fits).factory, performed, Option.map_some]
  exact ⟨answer, _, _, taken, ends, .factory changed (Factory.Step.registry_perform performed)⟩

/-- A type is added to those that are found. -/
theorem addRow {type : GuestType} {leads : Except Fault TypeId -> Scene -> Prop}
    (ends : forall types, stage.finds scene.types types -> scene.types.Extends types ->
      leads (.ok (types.add type).1) { scene with types := (types.add type).2 }) :
    scene.AttainsOn (σ := σ) stage thread (Request.perform (.addType type)) leads :=
  perform fun now fits => ⟨_, _, _, rfl, ends now.types (stage.found fits) (stage.shows fits).types,
    .types _ (now.types.extends_add type)⟩

/-- A shared representation is added to those that are found. -/
theorem addShared {row : SharedRepresentation} {leads : Except Fault SharedId -> Scene -> Prop}
    (ends : forall types, stage.finds scene.types types -> scene.types.Extends types ->
      leads (.ok (types.addShared row).1) { scene with types := (types.addShared row).2 }) :
    scene.AttainsOn (σ := σ) stage thread (Request.perform (.addShared row)) leads :=
  perform fun now fits => ⟨_, _, _, rfl, ends now.types (stage.found fits) (stage.shows fits).types,
    .types _ (now.types.extends_addShared row)⟩

/-- A step of the factory's registry, which changes bindings at most. -/
theorem registryStep {step : Registry.Step α} {answer : α}
    {bound : ClassId -> Option Representation}
    (performed : forall registry : Registry, registry.lookup = scene.bound ->
      (step.perform registry).1 = answer ∧ (step.perform registry).2.1.lookup = bound ∧
        registry.Rebinds (step.perform registry).2.1)
    (ends : leads (.ok answer) { scene with bound }) :
    scene.AttainsOn (σ := σ) stage thread (scene.factory.registry.step step) leads := by
  apply bind
  apply perform
  intro now fits
  obtain ⟨rfl, rfl, rebinds⟩ := performed _ (stage.shows fits).lookup
  refine ⟨_, now.accessed thread scene.factory.registry step, _, rfl, ?_, .registry _ _ _ rebinds⟩
  exact bind (release (pure ends))

end Scene.AttainsOn

end GuestTypes
