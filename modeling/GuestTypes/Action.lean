import GuestTypes.Store

/-!
# Actions

An `Action` is what a thread does to the store at one instant; nothing happens between its
beginning and its end. `Action.perform` gives the answer and the changed store, or nothing
while the thread has to wait: for the initialisation of a class, or for the lock of a factory.
Whoever reads or writes the bindings of a registry takes its guard with that action, and holds it
until it is given back by another one. While others hold the guard, the action is barred.
-/

namespace GuestTypes

/-- One step that a thread takes on the store, with an answer. -/
inductive Action : Type -> Type 1 where
  /-- Look at the store. -/
  | observe {β : Type} (view : Store -> β) : Action β
  | declare (row : HostClass) : Action ClassId
  /-- Ask for the use of a class. -/
  | claim (cls : ClassId) : Action Claim
  | addType (type : GuestType) : Action TypeId
  | addShared (shared : SharedRepresentation) : Action SharedId
  | addRegistry (escalation : Escalation) : Action RegistryId
  | addLoader : Action LoaderId
  | addSynthesizer (config : Configuration) (loader : LoaderId) : Action SynthesizerId
  /-- Add a factory with a registry that turns to it. -/
  | addFactory (synthesizer : SynthesizerId) (objectType typeType : TypeId) : Action FactoryId
  /-- A step of a registry, for which the thread takes the guard. -/
  | registry {β : Type} (id : RegistryId) (step : Registry.Step β) : Action β
  /-- Give back the guard of a registry. -/
  | release (id : RegistryId) : Action Unit
  | factory {β : Type} (id : FactoryId) (step : Factory.Step β) : Action β
  | synthesizer {β : Type} (id : SynthesizerId) (step : Synthesizer.Step β) : Action β
  | loader {β : Type} (id : LoaderId) (step : Loader.Step β) : Action β
  | heap {β : Type} (step : Heap.Step β) : Action β
  | makeDirectories (path : String) : Action (Except FileProblem Unit)
  | writeFile (path text : String) : Action (Except FileProblem Unit)
  | record (record : Record) : Action Unit

namespace Action

/-- Whether others hold a guard that does not admit the thread. -/
def isBarred {β : Type} (action : Action β) (store : Store) : Bool :=
  match action with
  | registry id step => step.access?.any fun access => !(store.guard id).admits access
  | _ => false

/-- The answer to a thread and the changed store; none while the thread has to wait. -/
def perform {β : Type} (action : Action β) (thread : ThreadId) (store : Store) :
    Option (β × Store) :=
  match action with
  | observe view => some (view store, store)
  | declare row =>
      let (cls, hierarchy) := store.hierarchy.declare row
      some (cls, { store with hierarchy })
  | claim cls =>
      ((store.initState cls).claim thread).map fun (answer, state) =>
        (answer, store.settle cls state)
  | addType type =>
      let (id, types) := store.types.add type
      some (id, { store with types })
  | addShared shared =>
      let (id, types) := store.types.addShared shared
      some (id, { store with types })
  | addRegistry escalation =>
      some (⟨store.registries.size⟩,
        { store with registries := store.registries.push { escalation } })
  | addLoader =>
      some (⟨store.loaders.size⟩, { store with loaders := store.loaders.push {} })
  | addSynthesizer config definer =>
      some (⟨store.synthesizers.size⟩,
        { store with
          synthesizers := store.synthesizers.push
            { config, loader := definer, dumpDirectory := config.dumpDirectory } })
  | addFactory maker objectType typeType =>
      let id : FactoryId := ⟨store.factories.size⟩
      some (id,
        { store with
          registries := store.registries.push { escalation := .factory id }
          factories := store.factories.push
            { registry := ⟨store.registries.size⟩
              synthesizer := maker, objectType, typeType } })
  | registry id step =>
      let (answer, changed, records) := step.perform (store.registry id)
      some (answer,
        { store with
          registries := store.registries.set id.index changed
          guards := store.guards.set id.index (step.guarding thread (store.guard id))
          records := store.records ++ records })
  | release id =>
      some ((), { store with
        guards := store.guards.set id.index ((store.guard id).give thread) })
  | factory id step =>
      (step.perform thread (store.factory id)).map fun (answer, changed) =>
        (answer, { store with factories := store.factories.set id.index changed })
  | synthesizer id step =>
      let (answer, changed) := step.perform (store.synthesizer id)
      some (answer, { store with synthesizers := store.synthesizers.set id.index changed })
  | loader id step =>
      let (answer, changed) := step.perform (store.loader id)
      some (answer, { store with loaders := store.loaders.set id.index changed })
  | heap step =>
      let (answer, changed) := step.perform store.heap
      some (answer, { store with heap := changed })
  | makeDirectories path =>
      let (outcome, files) := store.files.makeDirectories path
      some (outcome, { store with files })
  | writeFile path text =>
      let (outcome, files) := store.files.write path text
      some (outcome, { store with files })
  | record event => some ((), { store with records := store.records.push event })

end Action

end GuestTypes
