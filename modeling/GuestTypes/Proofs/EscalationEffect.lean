import GuestTypes.Proofs.ResolutionOutcome

/-!
# What a factory does for a class, and nothing else

A request to find or create the representation of a class that nobody bound, and that is
initialised with all its superclasses, has exactly one of the effects that `Scene.Effect` lists.
Amid other threads the factory ends up as the effect says, and its registry binds no other class
than the effect says. A thread that takes steps alone leaves the rest of the store alone too
(`Store.Elsewhere`).
-/

namespace GuestTypes

/-! ## The rest of the store -/

namespace Store

variable {thread : ThreadId} {id : FactoryId} {before middle after : Store}

/-- Nothing happens, but that guards change hands, and for the way in which the progress of classes
is kept. -/
def Still (before after : Store) : Prop :=
  after.initState = before.initState ∧
    exists progress guards, after = { before with progress, guards }

/-- The stores differ in one factory, in what its registry binds, in types, in records and in guards
at most. -/
structure Elsewhere (id : FactoryId) (before after : Store) : Prop where
  hierarchy : after.hierarchy = before.hierarchy
  initState : after.initState = before.initState
  heap : after.heap = before.heap
  synthesizers : after.synthesizers = before.synthesizers
  loaders : after.loaders = before.loaders
  files : after.files = before.files
  factoryCount : after.factories.size = before.factories.size
  factories : forall other, other ≠ id -> after.factory other = before.factory other
  /-- The factory keeps its registry. -/
  wiring : (after.factory id).registry = (before.factory id).registry
  registryCount : after.registries.size = before.registries.size
  registries : forall other, other ≠ (before.factory id).registry ->
    after.registry other = before.registry other
  rebinds : (before.registry (before.factory id).registry).Rebinds
    (after.registry (before.factory id).registry)

/-- A store differs from itself nowhere. -/
theorem Elsewhere.refl (store : Store) : Elsewhere id store store where
  hierarchy := rfl
  initState := rfl
  heap := rfl
  synthesizers := rfl
  loaders := rfl
  files := rfl
  factoryCount := rfl
  factories := fun _ _ => rfl
  wiring := rfl
  registryCount := rfl
  registries := fun _ _ => rfl
  rebinds := ⟨_, rfl⟩

/-- What differs elsewhere differs there after nothing else happened. -/
theorem Elsewhere.still (elsewhere : Elsewhere id before middle) (still : middle.Still after) :
    Elsewhere id before after := by
  obtain ⟨same, progress, guards, rfl⟩ := still
  exact { elsewhere with initState := same.trans elsewhere.initState }

/-- A store in which nothing happens spares every factory. -/
theorem Still.spares (still : before.Still after) (factory : FactoryId) :
    Store.Spares factory before after := by
  obtain ⟨-, progress, guards, rfl⟩ := still
  exact ⟨rfl, rfl, .refl _, .refl _⟩

/-- That guards change hands is nothing that happens. -/
theorem still_guards (store : Store) (guards : Table Guard) : store.Still { store with guards } :=
  ⟨rfl, store.progress, guards, rfl⟩

/-- A thread that goes on alone may ask for classes that need not be initialised. -/
theorem calm_still (thread : ThreadId) : Store.Calm thread Still where
  refl store := store.still_guards store.guards
  trans := by
    rintro before _ _ ⟨same, progress, guards, rfl⟩ ⟨sameAgain, later, free, rfl⟩
    exact ⟨sameAgain.trans same, later, free, rfl⟩
  leaves := by
    rintro before _ ⟨same, progress, guards, rfl⟩
    refine ⟨.refl _, fun cls _ => congrFun same cls, fun cls running => ?_⟩
    exact (congrFun same cls).trans running
  claims := by
    intro cls answer before after performed settled
    obtain ⟨state, claims, rfl⟩ := Action.performed_claim performed
    refine ⟨?_, _, _, rfl⟩
    have kept : state = before.initState cls := by
      apply InitState.claim_begun claims
      rintro unstarted
      rw [unstarted] at claims
      cases claims
      exact settled rfl
    ext1 other
    rw [initState_settle, kept]
    split
    · rename_i same
      rw [same]
    · rfl

end Store

/-- A step with a factory leaves the rest of the store alone. -/
theorem Store.Elsewhere.advances {start now after : Store} {id : FactoryId} {scene next : Scene}
    (escalates : start.Escalates id)
    (elsewhere : start.Elsewhere id now) (fits : scene.Fits id now)
    (advances : scene.Advances id now next after) : start.Elsewhere id after := by
  have wired : scene.factory.registry = (start.factory id).registry := by
    rw [← fits.factory]
    exact elsewhere.wiring
  cases advances with
  | apart guards records => exact { elsewhere with }
  | types types grown => exact { elsewhere with }
  | factory changed same =>
      have cell : forall other : FactoryId,
          Store.factory { now with factories := now.factories.set id.index changed } other =
            if other = id then changed else now.factory other := by
        intro other
        cases id
        cases other
        simp [Store.factory, Table.get_set, eq_comm]
      refine { elsewhere with factoryCount := ?_, factories := ?_, wiring := ?_ }
      · rw [← elsewhere.factoryCount]
        exact Table.size_set changed (elsewhere.factoryCount ▸ escalates.founded)
      · intro other different
        rw [cell, if_neg different]
        exact elsewhere.factories other different
      · rw [cell, if_pos rfl]
        exact same.trans wired
  | registry changed guards records rebinds =>
      rw [wired] at rebinds ⊢
      have cell : forall other : RegistryId,
          Store.registry { now with
            registries := now.registries.set (start.factory id).registry.index changed
            guards, records } other =
            if other = (start.factory id).registry then changed else now.registry other := by
        intro other
        cases other
        cases (start.factory id).registry
        simp [Store.registry, Table.get_set, eq_comm]
      refine { elsewhere with registryCount := ?_, registries := ?_, rebinds := ?_ }
      · rw [← elsewhere.registryCount]
        exact Table.size_set changed (elsewhere.registryCount ▸ escalates.registered)
      · intro other different
        rw [cell, if_neg different]
        exact elsewhere.registries other different
      · rw [cell, if_pos rfl]
        obtain ⟨bound, same⟩ := elsewhere.rebinds
        obtain ⟨rebound, again⟩ := rebinds
        exact ⟨rebound, by rw [again, same]⟩

/-- Alone: all that is seen of the store is what the thread has done to it. -/
def Stage.alone (id : FactoryId) (start : Store) (escalates : start.Escalates id) : Stage id where
  around := Store.Still
  fits scene now := scene.Fits id now ∧ now.types = scene.types ∧ start.Elsewhere id now
  finds before after := after = before
  shows fits := fits.1
  found fits := fits.2.1
  spared := by
    rintro scene now later ⟨fits, types, elsewhere⟩ still
    refine ⟨fits.spared (still.spares id), ?_, elsewhere.still still⟩
    obtain ⟨-, progress, guards, rfl⟩ := still
    exact types
  advances := by
    rintro scene now next after ⟨fits, types, elsewhere⟩ advances
    refine ⟨fits.advances advances, ?_, elsewhere.advances escalates fits advances⟩
    cases advances with
    | types => rfl
    | apart | factory | registry => exact types

/-! ## Requests -/

namespace Scene.Effect

variable {before next : Scene} {found : TypeTable} {cls : ClassId} {rep : Representation}
  {outcome : Except Fault Representation}

/-- An escalation declares no class. -/
theorem hierarchy (effect : before.Effect found cls outcome next) :
    next.hierarchy = before.hierarchy := by
  cases effect <;> rfl

/-- If there are heirs, they take over. -/
theorem of_heirs {heirs : List ClassId} (effect : before.Effect found cls outcome next)
    (taken : before.Heirs cls heirs rep) : outcome = .ok rep ∧
      next = { before with
        bound := fun other => if other ∈ heirs then some rep else before.bound other } := by
  cases effect with
  | inherits also =>
      obtain ⟨rfl, rfl⟩ := taken.unique also
      exact ⟨rfl, rfl⟩
  | makes barren => exact absurd taken (barren _ _)
  | refused barren => exact absurd taken (barren _ _)

end Scene.Effect

/-- A factory at rest, and a class that its registry does not bind and that is initialised with
all its superclasses. -/
structure Store.Awaits (store : Store) (factory : FactoryId) (cls : ClassId) : Prop where
  founded : factory.index < store.factories.size
  free : (store.factory factory).lock = .free
  declared : store.hierarchy.Declared cls
  unbound : store.bound factory cls = none
  done : forall ancestor, ancestor ∈ store.hierarchy.lineage cls -> store.initState ancestor = .done

/-- A thread that goes on alone does for the class what there is to do, and no more. -/
theorem Scene.delivers_alone {σ : Type} {start : Store} {factory : FactoryId} {cls : ClassId}
    (awaits : start.Awaits factory cls) (rests : (start.scene factory).Rests start)
    (escalates : start.Escalates factory) (thread : ThreadId) :
    (factory.findOrCreate cls : Request σ Representation).run.Delivers thread Store.Still start
      fun outcome after =>
        (start.scene factory).Effect start.types cls outcome (after.scene factory) ∧
          start.Elsewhere factory after := by
  let stage : Stage factory := .alone factory start escalates
  have attains : (start.scene factory).AttainsOn (σ := σ) stage thread
      (factory.locked (factory.search cls)) _ :=
    .search rests.free rests.resting awaits.declared awaits.unbound rests.rooted
  have fits : stage.fits (start.scene factory) start :=
    ⟨start.fits_scene factory, rfl, .refl start⟩
  have usable : forall ancestor, ancestor ∈ start.hierarchy.lineage cls ->
      start.Usable thread ancestor := fun ancestor member => .inl (awaits.done ancestor member)
  rw [FactoryId.findOrCreate_eq]
  apply Program.Delivers.andThen
  apply (ClassId.delivers_ensureInitialised (Store.calm_still thread) awaits.declared usable).weaken
  rintro outcome middle ⟨rfl, still⟩
  apply (attains middle (stage.spared fits still)).weaken
  rintro outcome after ⟨next, ⟨found, rfl, -, effect⟩, shows, types, elsewhere⟩
  have seen : after.scene factory = next := by
    have hierarchy : after.hierarchy = next.hierarchy :=
      elsewhere.hierarchy.trans effect.hierarchy.symm
    unfold Store.scene
    rw [shows.factory, shows.bound, hierarchy, types]
  rw [seen]
  exact ⟨effect, elsewhere⟩

namespace Machine

variable {σ : Type} {code : ClientCode σ} {machine : Machine (Clients σ)} {factory : FactoryId}
  {cls : ClassId}

/-- A factory at rest that is asked for a class which its registry does not bind, and which is
initialised with all its superclasses, does for the class exactly what there is to do, whatever
the other threads do that spares it. When the thread goes on alone, nothing else changes. -/
theorem escalation_effect (reachable : machine.Reachable code)
    (awaits : machine.store.Awaits factory cls) (thread : ThreadId) :
    let scene := machine.store.scene factory
    let request : Request (Clients σ) Representation := factory.findOrCreate cls
    (request.run.Delivers thread (Store.Undisturbed thread factory) machine.store
      fun outcome after => exists found next, scene.types.Extends found ∧
        scene.Effect found cls outcome next ∧ next.Fits factory after) ∧
    (request.run.Delivers thread Store.Still machine.store fun outcome after =>
      scene.Effect scene.types cls outcome (after.scene factory) ∧
        machine.store.Elsewhere factory after) ∧
    forall next frames,
      machine.threads[thread.index]? = some (.running (request.run.bind next) frames) ->
        exists outcome later,
          (scene.Effect scene.types cls outcome (later.store.scene factory) ∧
            machine.store.Elsewhere factory later.store) ∧ later.host = machine.host ∧
              later.threads[thread.index]? = some (.running (next outcome) frames) ∧
                Machine.Steps code.host machine later := by
  intro scene request
  have rests := reachable.rests awaits.founded awaits.free
  have escalates := reachable.escalates awaits.founded
  constructor
  · have decides : machine.store.Decides thread cls (.ok ()) :=
      ⟨awaits.declared, fun ancestor member => .inl (awaits.done ancestor member)⟩
    have reaches : scene.Reaches thread factory machine.store request _ :=
      .findOrCreate rests decides awaits.unbound
    apply (reaches machine.store (machine.store.fits_scene factory) (.refl _ _) escalates).weaken
    rintro outcome after ⟨⟨next, ⟨found, grown, effect⟩, fits⟩, -⟩
    exact ⟨found, next, grown, effect, fits⟩
  · have delivers := Scene.delivers_alone (σ := Clients σ) awaits rests escalates thread
    exact ⟨delivers, fun next frames => delivers.steps reachable.guarded code.guarded_host
      Store.still_guards⟩

/-- Host code with a class that would take over from its superclass, which is bound. -/
def preparingDerived : Client Unit (Except Fault Unit) :=
  .call (.makeFactory {}) fun
    | .error fault => .done (.error fault)
    | .ok factory =>
        .call (.declare { name := "Base", interfaces := [Builtin.withClassAssignment] }) fun
          | .error fault => .done (.error fault)
          | .ok base =>
              .call (.create factory { name := "base", primary := base }) fun _ =>
                .call (.declare { name := "Derived", superclass := some base }) fun
                  | .error fault => .done (.error fault)
                  | .ok derived => .call (.ensureInitialised derived) fun _ => .done (.ok ())

/-- That class alone is bound then, to what its superclass is bound to. -/
theorem escalation_effect_preparingDerived :
    let machine := Machine.run ClientCode.quiet.host 80 (opening preparingDerived ())
    machine.store.Awaits ⟨0⟩ ⟨11⟩ ∧
      (FactoryId.findOrCreate ⟨0⟩ ⟨11⟩ : Request (Clients Unit) _).run.Delivers ⟨0⟩ Store.Still
        machine.store fun outcome after =>
          outcome = .ok (.canonical ⟨2⟩) ∧ after.bound ⟨0⟩ ⟨11⟩ = some (.canonical ⟨2⟩) ∧
            (forall other, other ≠ ⟨11⟩ -> after.bound ⟨0⟩ other = machine.store.bound ⟨0⟩ other) ∧
              machine.store.Elsewhere ⟨0⟩ after := by
  intro machine
  have reachable : machine.Reachable ClientCode.quiet :=
    reachable_run ClientCode.quiet preparingDerived () 80
  have awaits : machine.store.Awaits ⟨0⟩ ⟨11⟩ := by
    have declared : 11 < machine.store.hierarchy.rows.size := by decide +kernel
    refine ⟨?_, ?_, declared, ?_, ?_⟩ <;> decide +kernel
  have chain : machine.store.hierarchy.lineage ⟨11⟩ = [⟨11⟩, ⟨10⟩, Builtin.object] := by
    decide +kernel
  have rules : machine.store.bound ⟨0⟩ ⟨10⟩ = some (.canonical ⟨2⟩) := by decide +kernel
  have takes : FactoryId.takesOver machine.store.hierarchy ⟨11⟩ = true := by decide +kernel
  clear_value machine
  have taken : (machine.store.scene ⟨0⟩).Heirs ⟨11⟩ [⟨11⟩] (.canonical ⟨2⟩) := by
    refine ⟨⟨⟨10⟩, [Builtin.object], chain, rules⟩, ?_, ?_⟩
    · simpa [Store.scene] using awaits.unbound
    · simpa [Store.scene] using Hierarchy.takesOver_iff.mp takes
  refine ⟨awaits, (escalation_effect reachable awaits ⟨0⟩).2.1.weaken ?_⟩
  rintro outcome after ⟨effect, elsewhere⟩
  obtain ⟨answer, same⟩ := effect.of_heirs taken
  have bound : after.bound ⟨0⟩ = _ := congrArg (·.bound) same
  refine ⟨answer, ?_, fun other different => ?_, elsewhere⟩
  · simp [bound]
  · simp [bound, different, Store.scene]

end Machine

end GuestTypes
