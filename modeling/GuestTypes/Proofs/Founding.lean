import GuestTypes.Proofs.Definition
import GuestTypes.Proofs.Resolution

/-!
# Founding factories

A factory comes with a registry of its own, in which its two root types are bound in one step.
Until then the factory is incomplete, and nobody but its maker can name it.
-/

namespace GuestTypes

open World

variable {σ α : Type} {thread : ThreadId} {call : Option Nat} {factory : FactoryId}
  {known : World -> Prop} {fails : Fault -> World -> Prop}

/-! ## New registries and factories -/

/-- What a type was made over is never forgotten. -/
theorem persistent_madeOver (type : TypeId) (bases : List TypeId) :
    Persistent fun world => world.types.MadeOver type bases :=
  fun _ _ _ grows made => grows.types.madeOver made

/-- A new registry binds nothing. -/
theorem Registry.lookup_new (escalation : Escalation) (cls : ClassId) :
    ({ escalation } : Registry).lookup cls = none := by
  simp [lookup, Table.get]

/-- What a new registry is for the world. -/
theorem bindings_push {now : Instant σ} (valid : now.world.Valid) (escalation : Escalation) :
    (fun (registry : RegistryId) cls =>
      ((now.store.registries.push { escalation }).get registry.index).lookup cls) =
      now.world.bindings := by
  funext registry cls
  rw [Table.get_push]
  split
  · rename_i last
    rw [Registry.lookup_new, valid.unbound registry cls (Nat.le_of_eq last)]
  · rfl

/-- The table with a new registry, read as what registries turn to, is what it was with one more. -/
theorem escalation_push (now : Instant σ) (escalation : Escalation) :
    (fun registry : RegistryId =>
      ((now.store.registries.push { escalation }).get registry.index).escalation) =
      (now.world.addingRegistry escalation).escalation := by
  funext registry
  rw [Table.get_push]
  show _ = if registry.index = now.store.registries.size then _ else _
  simp only [eq_comm]
  split <;> rfl

/-- To the world, a new registry is one that binds nothing. -/
theorem world_addRegistry {now : Instant σ} (valid : now.world.Valid) (escalation : Escalation) :
    (now.withStore { now.store with
      registries := now.store.registries.push { escalation } }).world =
      now.world.addingRegistry escalation := by
  unfold Moment.world
  congr 1
  · exact Table.size_push _ _
  · exact bindings_push valid escalation
  · exact escalation_push now escalation

/-- To the world, a new factory is one whose registry comes with it. -/
theorem world_addFactory {now : Instant σ} (valid : now.world.Valid) (factory : Factory)
    (registry : factory.registry = ⟨now.store.registries.size⟩) :
    (now.withStore { now.store with
      registries := now.store.registries.push
        { escalation := .factory ⟨now.store.factories.size⟩ }
      factories := now.store.factories.push factory }).world =
      now.world.addingFactory factory := by
  have same : { factory with registry := ⟨now.world.registryCount⟩ } = factory := by
    cases factory
    cases registry
    rfl
  unfold Moment.world
  congr 1
  · exact Table.size_push _ _
  · exact bindings_push valid _
  · exact escalation_push now _
  · exact Table.size_push _ _
  · funext other
    show (now.store.factories.push factory).get other.index =
      if other.index = now.store.factories.size then
        { factory with registry := ⟨now.world.registryCount⟩ }
      else now.store.factory other
    rw [Table.get_push, same]
    simp only [eq_comm]
    rfl

namespace World

variable {world : World} {registry : RegistryId} {root meta_ : Representation}

/-- What the registry of a new factory binds first. -/
def rootBindings (root meta_ : Representation) : List (ClassId × Representation) :=
  [(Builtin.object, root), (Builtin.typeClass, meta_)]

/-- The first batch of a registry binds the root class and the class of types. -/
theorem batch_rootBindings (bound : ClassId -> Option Representation)
    (root meta_ : Representation) :
    Registry.batch bound (rootBindings root meta_) =
      extended (extended bound Builtin.object root) Builtin.typeClass meta_ := by
  funext cls
  show ((([(Builtin.typeClass, meta_), (Builtin.object, root)] :
    List (ClassId × Representation)).find? (·.1 == cls)).map (·.2)).or _ = _
  unfold extended
  by_cases last : cls = Builtin.typeClass
  · simp [last]
  · by_cases first : cls = Builtin.object
    · have apart : ¬ Builtin.object = Builtin.typeClass := by decide
      simp [first, apart, Ne.symm apart]
    · simp [first, last, Ne.symm first, Ne.symm last]

/-- What is known of a factory that is about to bind its root types. -/
structure Founded (world : World) (factory : FactoryId) (root meta_ : Representation) : Prop where
  founded : factory.index < world.factoryCount
  root : world.Hosts Builtin.object root
  meta_ : world.Hosts Builtin.typeClass meta_

/-- A factory that is about to bind its root types goes on to be so. -/
theorem persistent_founded (factory : FactoryId) (root meta_ : Representation) :
    Persistent (Founded · factory root meta_) := by
  rintro before after valid grows ⟨founded, root, meta_⟩
  exact ⟨Nat.lt_of_lt_of_le founded grows.factories, persistent_hosts _ _ valid grows root,
    persistent_hosts _ _ valid grows meta_⟩

/-- The root types may be bound while neither of their classes is. -/
theorem Founded.binds (known : world.Founded factory root meta_) (valid : world.Valid)
    (unbound : forall binding, binding ∈ rootBindings root meta_ ->
      world.published factory binding.1 = none) :
    world.Binds thread (world.factory factory).registry
      (Registry.batch (world.published factory) (rootBindings root meta_)) where
  made := (valid.founded factory known.founded).1
  kept := fun _ _ bound => Registry.batch_bound unbound bound
  opened := by
    intro cls before bound
    rw [batch_rootBindings] at bound
    unfold extended at bound
    split at bound
    · rename_i last
      exact .inl (last ▸ valid.builtins Builtin.typeClass (by decide))
    · split at bound
      · rename_i first
        exact .inl (first ▸ valid.builtins Builtin.object (by decide))
      · rw [show world.published factory cls = none from before] at bound
        cases bound
  confirmed := fun cls rep _ _ => .inr (valid.confirms known.founded cls rep)
  governed := by
    intro other founded same sealed
    obtain rfl := valid.ownRegistry known.founded founded same
    have governed := valid.governed other founded sealed
    have free : world.published other Builtin.object = none :=
      unbound (Builtin.object, root) List.mem_cons_self
    have last : world.published other Builtin.typeClass = none :=
      unbound (Builtin.typeClass, meta_) (List.mem_cons_of_mem _ List.mem_cons_self)
    rw [batch_rootBindings]
    refine (governed.extended free (known.root.governs _)).extended ?_ (known.meta_.governs _)
    exact (if_neg (by decide)).trans last
  unchanged := by
    intro other complete same _ _
    obtain rfl := valid.ownRegistry known.founded complete.1 same
    have free : world.published other Builtin.object = none :=
      unbound (Builtin.object, root) List.mem_cons_self
    have bound := complete.2
    rw [free] at bound
    cases bound

end World

namespace Serves

/-- A root type is made by an idle thread. -/
theorem addRoot {row : GuestType} (persistent : Persistent known)
    (builtin : row.primary.index < Builtin.hierarchy.rows.size)
    (bases : forall world, known world -> forall base, base ∈ row.bases -> world.types.Made base) :
    Serves (σ := σ) thread call (fun world => world.Idle thread ∧ known world)
      (Request.perform (.addType row))
      (fun type world => world.Idle thread ∧ known world ∧
        world.Hosts row.primary (.canonical type) ∧ world.types.MadeOver type row.bases) fails := by
  refine perform (lasting_idle.and persistent.lasting) (fun type => lasting_idle.and
    (persistent.and ((persistent_hosts _ _).and (persistent_madeOver _ _))).lasting) ?_
  rintro now type store valid ⟨idle, holds⟩ performed
  cases performed
  have allowed : Allows thread now.world _ :=
    valid.addType fun _ => valid.builtins row.primary builtin
  exact ⟨allowed, idle, persistent valid allowed.moves.toGrows holds,
    (now.world.hasRow_add row).canonical, TypeTable.madeOver_add (bases now.world holds)⟩

/-- Making a synthesizer is no matter of types and bindings. -/
theorem mild_makeSynthesizer {config : Configuration} :
    (SynthesizerId.make config : Request (Clients σ) SynthesizerId).Mild := by
  unfold SynthesizerId.make
  cases config.validate with
  | error problem => exact .throw _
  | ok _ =>
      exact .bind (.perform (Action.mild_record _)) fun _ =>
        .bind (.perform Action.mild_addLoader) fun loader =>
          .perform (Action.mild_addSynthesizer config loader)

/-- A factory is added with its registry. -/
theorem addFactory {synthesizer : SynthesizerId} {objectType typeType : TypeId}
    (persistent : Persistent known)
    (roots : forall world, known world -> world.types.MadeOver objectType [] ∧
      world.types.MadeOver typeType [objectType]) :
    Serves (σ := σ) thread call (fun world => world.Idle thread ∧ known world)
      (Request.perform (.addFactory synthesizer objectType typeType))
      (fun factory world => world.Idle thread ∧ factory.index < world.factoryCount ∧ known world)
      fails := by
  have founded : forall factory : FactoryId, Persistent fun world =>
      factory.index < world.factoryCount :=
    fun factory _ _ _ grows founded => Nat.lt_of_lt_of_le founded grows.factories
  refine perform (lasting_idle.and persistent.lasting)
    (fun factory => lasting_idle.and ((founded factory).and persistent).lasting) ?_
  rintro now factory store valid ⟨idle, holds⟩ performed
  cases performed
  let added : Factory := {
    registry := ⟨now.store.registries.size⟩, synthesizer, objectType, typeType }
  have allowed : Allows thread now.world (now.world.addingFactory added) :=
    valid.addFactory rfl rfl rfl (roots now.world holds)
  rw [world_addFactory valid added rfl]
  refine ⟨allowed, ?_, Nat.lt_succ_self _, persistent valid allowed.moves.toGrows holds⟩
  rintro other ⟨again, taken⟩
  by_cases last : other.index = now.world.factoryCount
  · cases (congrArg Factory.lock (if_pos last)).symm.trans taken
  · exact idle other ⟨again, (congrArg Factory.lock (if_neg last)).symm.trans taken⟩

/-- A factory is made. -/
theorem makeFactory {config : Configuration} :
    Serves (σ := σ) thread call (fun world => world.Idle thread) (FactoryId.make config)
      (fun _ world => world.Idle thread) (fun _ world => world.Idle thread) := by
  have hosts : forall cls rep, Persistent (Hosts · cls rep) := persistent_hosts
  apply bind (quietly (Action.mild_record _) lasting_idle)
  intro _
  apply bind (mild_makeSynthesizer.serves lasting_idle)
  intro synthesizer
  have builtin : Builtin.object.index < Builtin.hierarchy.rows.size ∧
      Builtin.typeClass.index < Builtin.hierarchy.rows.size := by decide
  refine bind ((addRoot (Persistent.const True) builtin.1 (by rintro _ - _ ⟨⟩)).given
    fun _ _ idle => ⟨idle, trivial⟩) fun objectType => ?_
  have object := (hosts Builtin.object (.canonical objectType)).and
    (persistent_madeOver objectType [])
  refine bind ((addRoot object builtin.2 (by
    rintro _ made base listed
    exact List.mem_singleton.mp listed ▸ made.2.made)).given
      fun _ _ holds => ⟨holds.1, holds.2.2⟩) fun typeType => ?_
  have roots := object.and ((hosts Builtin.typeClass (.canonical typeType)).and
    (persistent_madeOver typeType [objectType]))
  apply bind (addFactory roots fun _ known => ⟨known.1.2, known.2.2⟩)
  intro factory
  have founded := persistent_founded factory (.canonical objectType) (.canonical typeType)
  have wired : forall registry : RegistryId, Persistent fun world =>
      world.Founded factory (.canonical objectType) (.canonical typeType) ∧
        registry = (world.factory factory).registry := by
    rintro registry before after valid grows ⟨known, same⟩
    exact ⟨founded valid grows known, same.trans (grows.wiring factory known.founded).symm⟩
  refine bind ((observe (lasting_idle.and founded.lasting)
    (fun registry => lasting_idle.and (wired registry).lasting)
    fun now _ holds => ⟨holds.1, holds.2, rfl⟩).given
    fun _ _ holds => ⟨holds.1, holds.2.1, holds.2.2.1.1, holds.2.2.2.1⟩) fun registry => ?_
  refine bind ((registerAll (wired registry) ?_).weaken (fun _ _ holds => holds)
    (fun _ _ _ holds => holds.1) fun _ _ _ failed => failed.1) fun _ => ?_
  · rintro world valid ⟨known, rfl⟩
    exact ⟨(valid.founded factory known.founded).1, fun unbound => known.binds valid unbound⟩
  · exact pure lasting_idle fun _ _ idle => idle

end Serves

end GuestTypes
