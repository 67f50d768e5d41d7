import GuestTypes.Proofs.Creation

/-!
# Publishing what was prepared

The outermost request empties the workshop: it publishes all that was prepared, in one batch,
or nothing. While nobody else binds classes directly the registry is ruled before and after.
-/

namespace GuestTypes

open World

variable {σ α : Type} {thread : ThreadId} {call : Option Nat} {factory : FactoryId}
  {again depth : Nat} {fresh : Option ClassId} {assured : Prop} {cls : ClassId}
  {rep : Representation} {known : World -> Prop} {fails : Fault -> World -> Prop}
  {claims : ClassId -> Representation -> Prop}

namespace World

variable {world before after : World}

/-- All that is claimed is bound, or will be when the workshop is published. -/
def Promises (world : World) (factory : FactoryId) (claims : ClassId -> Representation -> Prop) :
    Prop :=
  forall cls rep, claims cls rep -> world.Promised factory cls rep

/-- Promises are kept by whatever spares the factory. -/
theorem steady_promises : Steady thread factory (Promises · factory claims) :=
  fun _ _ valid complete spares promises cls rep claimed =>
    steady_promised valid complete spares (promises cls rep claimed)

/-- All that is claimed is bound. -/
def Publishes (world : World) (factory : FactoryId) (claims : ClassId -> Representation -> Prop) :
    Prop :=
  forall cls rep, claims cls rep -> world.published factory cls = some rep

/-- What is bound stays bound. -/
theorem Publishes.grown (publishes : before.Publishes factory claims) (grows : Grows before after)
    (founded : factory.index < before.factoryCount) : after.Publishes factory claims :=
  fun cls rep claimed => grows.published founded (publishes cls rep claimed)

/-- The assertion says nothing about which requests are nested. -/
def Indifferent (factory : FactoryId) (assertion : World -> Prop) : Prop :=
  forall ⦃world : World⦄ (workshop : Workshop), world.Valid ->
    workshop.unpublished = (world.factory factory).workshop.unpublished ->
    Grows world (world.changingFactory factory { world.factory factory with workshop }) ->
    assertion world ->
      assertion (world.changingFactory factory { world.factory factory with workshop })

/-- What persists says nothing about nested requests. -/
theorem Persistent.indifferent (persistent : Persistent known) : Indifferent factory known :=
  fun _ _ valid _ grows holds => persistent valid grows holds

/-- Two facts that say nothing about them say nothing together. -/
theorem Indifferent.and {first second : World -> Prop} (left : Indifferent factory first)
    (right : Indifferent factory second) :
    Indifferent factory fun world => first world ∧ second world :=
  fun _ workshop valid same grows holds =>
    ⟨left workshop valid same grows holds.1, right workshop valid same grows holds.2⟩

/-- A promise says nothing about nested requests. -/
theorem indifferent_promised : Indifferent factory (Promised · factory cls rep) := by
  rintro world workshop - same - (bound | prepared)
  · exact .inl ((congrFun (published_rework _ _ _) _).trans bound)
  · refine .inr ?_
    rw [factory_rework, same]
    exact prepared

/-- Nor do several promises. -/
theorem indifferent_promises : Indifferent factory (Promises · factory claims) :=
  fun _ workshop valid same grows promises cls rep claimed =>
    indifferent_promised workshop valid same grows (promises cls rep claimed)

/-- Nor does what a description is promised. -/
theorem indifferent_describes {wanted : TypeDescription} :
    Indifferent factory (Describes · factory wanted assured) := by
  rintro world workshop valid same grows ⟨primary, opened, adopted, assures⟩
  refine ⟨grows.namable valid primary, fun kind => grows.opens valid (opened kind),
    fun cls member => grows.namable valid (adopted cls member), fun given => ?_⟩
  rcases assures given with ⟨shared, bound, made, host⟩ | ⟨secret, unprepared⟩
  · exact .inl ⟨shared, (congrFun (published_rework _ _ _) _).trans bound, made, host⟩
  · refine .inr ⟨secret.rework workshop, ?_⟩
    rw [factory_rework]
    unfold Workshop.prepared
    rw [same]
    exact unprepared

/-- The holder of the lock at rest, ready for any work. -/
theorem Ready.work (ready : world.Ready thread factory again fresh) :
    world.Working thread factory again 0 fresh assured :=
  { ready.working with
    secret := by
      intro _ binding member
      rw [ready.empty] at member
      cases member }

/-- What is steady lasts while the factory is ready. -/
theorem Steady.ready (steady : Steady thread factory known) :
    Lasting thread fun world => world.Ready thread factory again fresh ∧ known world := by
  rintro mover before after different valid allowed ⟨⟨working, empty⟩, holds⟩
  obtain ⟨working, empty, holds⟩ :=
    ((steady_factory fun current => current.workshop = {}).and steady).lasting different valid
      allowed ⟨working, empty, holds⟩
  exact ⟨⟨working, empty⟩, holds⟩

/-- What persists lasts while the factory is ready. -/
theorem Persistent.ready (persistent : Persistent known) :
    Lasting thread fun world => world.Ready thread factory again fresh ∧ known world :=
  persistent.steady.ready

/-- No other thread gets at a factory that is ready. -/
theorem lasting_ready : Lasting thread (Ready · thread factory again fresh) :=
  fun _ _ _ different valid allowed ready =>
    ((Persistent.const True).ready different valid allowed ⟨ready, trivial⟩).1

end World

namespace Serves

/-- A step that changes only which requests are nested. -/
theorem schedule {step : Factory.Step α} {answer : α} (next : Workshop -> Workshop)
    (steady : Steady thread factory known) (indifferent : Indifferent factory known)
    (kept : forall workshop, (next workshop).unpublished = workshop.unpublished)
    (performs : forall current, current.workshop.depth = depth ->
      step.perform thread current =
        some (answer, { current with workshop := next current.workshop }))
    {nested : Nat} (nesting : forall workshop : Workshop, workshop.depth = depth ->
      (next workshop).depth = nested) :
    Serves (σ := σ) thread call
      (fun world => world.Working thread factory again depth fresh assured ∧ known world)
      (factory.step step)
      (fun answered world => answered = answer ∧
        world.Working thread factory again nested fresh assured ∧ known world) fails := by
  apply rework steady.lasting (fun _ => (Persistent.const _).lasting.and steady.lasting)
  rintro world valid ⟨working, holds⟩
  have same := kept (world.factory factory).workshop
  refine ⟨⟨_, _, _, _, working⟩, answer, _, performs _ working.depth, rfl, ?_, ?_⟩
  · refine working.rework valid (nesting _ working.depth) ?_ ?_ ?_ ?_
    · rw [same]
      exact working.keys
    · rw [same]
      exact working.prepared
    · rw [same]
      exact working.secret
    · intro sealed
      have view : (fun cls => (world.published factory cls).or
          ((next (world.factory factory).workshop).prepared cls)) = world.view factory := by
        funext named
        unfold World.view Workshop.prepared
        rw [same]
      rw [view]
      exact working.governed sealed
  · exact indifferent _ valid same
      (valid.changeFactory (working.remakes valid _)).moves.toGrows holds

/-- A request begins by taking the lock, and finds the workshop empty if it is the outermost one. -/
theorem begin {task : Option String} (steady : Steady thread factory known)
    (indifferent : Indifferent factory known) :
    Serves (σ := σ) thread call
      (fun world => world.Working thread factory again depth fresh assured ∧ known world)
      (factory.step (.begin task))
      (fun _ world => world.Working thread factory again (depth + 1) fresh assured ∧ known world)
      fails := by
  refine (schedule (fun workshop => { workshop with
      depth := workshop.depth + 1, tasks := workshop.tasks ++ task.toList })
    steady indifferent (fun _ => rfl) (fun _ _ => rfl) fun _ same => congrArg (· + 1) same).weaken
    (fun _ _ holds => holds) (fun _ _ _ holds => holds.2) fun _ _ _ failed => failed

/-- A request ends by giving back the lock. -/
theorem finish (steady : Steady thread factory known) (indifferent : Indifferent factory known) :
    Serves (σ := σ) thread call
      (fun world => world.Working thread factory again (depth + 1) fresh assured ∧ known world)
      (factory.step .finish)
      (fun outermost world => outermost = (depth == 0) ∧
        world.Working thread factory again depth fresh assured ∧ known world) fails :=
  schedule (fun workshop => { workshop with depth := workshop.depth - 1 })
    steady indifferent (fun _ => rfl)
    (fun current same => by simp only [Factory.Step.perform, same, Nat.add_sub_cancel])
    fun _ same => by simp [same]

end Serves

/-! ## Emptying the workshop -/

namespace World

variable {world before after : World} {bindings fresher : List (ClassId × Representation)}

/-- What is known of the bindings that were taken out of the workshop. -/
structure Collected (world : World) (factory : FactoryId)
    (bindings : List (ClassId × Representation)) (assured : Prop) : Prop where
  keys : (bindings.map (·.1)).Nodup
  namable : forall binding, binding ∈ bindings -> world.Namable factory binding.1
  secret : assured -> forall binding, binding ∈ bindings -> world.Secret factory binding.1
  governed : world.Sealed factory -> world.Governed fun cls =>
    (world.published factory cls).or (({ unpublished := bindings } : Workshop).prepared cls)

/-- What is known of the bindings that were taken out is kept by whatever spares the factory. -/
theorem Collected.spared (collected : before.Collected factory bindings assured)
    (valid : before.Valid) (complete : before.Complete factory)
    (spares : Spares thread factory before after) :
    after.Collected factory bindings assured where
  keys := collected.keys
  namable := fun binding member => spares.namable valid (collected.namable binding member)
  secret := fun given binding member => spares.secret _ (collected.secret given binding member)
  governed := by
    intro sealed
    rw [spares.kept sealed]
    refine spares.governed (fun cls bound => ?_)
      (collected.governed (spares.sealed complete.1 sealed))
    cases published : before.published factory cls with
    | some rep => exact (valid.bound _ cls (Option.isSome_iff_exists.mpr ⟨rep, published⟩)).1
    | none =>
        rw [published, Option.none_or] at bound
        obtain ⟨rep, prepared⟩ := Option.isSome_iff_exists.mp bound
        exact (collected.namable _ (Workshop.mem_of_prepared prepared)).declared valid

/-- So it is for as long as the thread works there. -/
theorem steady_collected : Steady thread factory (Collected · factory bindings assured) :=
  fun _ _ valid complete spares collected => collected.spared valid complete spares

/-- The binding is published, or among those that were taken out of the workshop. -/
def Pending (world : World) (factory : FactoryId) (bindings : List (ClassId × Representation))
    (cls : ClassId) (rep : Representation) : Prop :=
  world.published factory cls = some rep ∨ (cls, rep) ∈ bindings

/-- A binding that is on its way is published, or goes on to be. -/
theorem steady_pending : Steady thread factory (Pending · factory bindings cls rep) := by
  rintro before after - complete spares (bound | listed)
  · exact .inl (spares.published complete.1 bound)
  · exact .inr listed

/-- The invariant when the workshop has been emptied. -/
theorem Working.emptied (working : world.Working thread factory again 0 fresh assured)
    (valid : world.Valid) :
    (world.changingFactory factory { world.factory factory with workshop := {} }).Ready
      thread factory again fresh where
  working := by
    refine working.rework valid rfl List.nodup_nil nofun nofun fun sealed => ?_
    have view : (fun cls => (world.published factory cls).or (({} : Workshop).prepared cls)) =
        world.published factory := by
      funext cls
      exact Option.or_none
    rw [view]
    exact valid.governed factory working.complete.1 sealed
  empty := by rw [factory_rework]

/-- The workshop is emptied into the bindings that are to be published. -/
theorem Working.collected (working : world.Working thread factory again depth fresh assured)
    (valid : world.Valid) (workshop : Workshop) :
    (world.changingFactory factory { world.factory factory with workshop }).Collected factory
      (world.factory factory).workshop.unpublished assured := by
  have grows := (valid.changeFactory (working.remakes valid workshop)).moves.toGrows
  refine ⟨working.keys, ?_, ?_, fun sealed => ?_⟩
  · exact fun binding member => grows.namable valid (working.prepared binding member)
  · exact fun given binding member => (working.secret given binding member).rework workshop
  · rw [published_rework]
    intro cls rep bound
    obtain ⟨made, hosted, accepted, descends⟩ :=
      working.governed (grows.sealed working.complete.1 sealed) cls rep bound
    exact ⟨made, hosted, accepted, descends⟩

end World

namespace Serves

variable {bindings fresher : List (ClassId × Representation)}

/-- The workshop is emptied for publication. -/
theorem collect :
    Serves (σ := σ) thread call
      (fun world => world.Working thread factory again 0 fresh assured ∧
        world.Promises factory claims)
      (factory.step .collect)
      (fun taken world => world.Ready thread factory again fresh ∧
        world.Collected factory taken.1 assured ∧
        forall cls rep, claims cls rep -> world.Pending factory taken.1 cls rep) fails := by
  have lasting : forall taken : List (ClassId × Representation) × Option String,
      Lasting thread fun world => world.Ready thread factory again fresh ∧
        world.Collected factory taken.1 assured ∧
        forall cls rep, claims cls rep -> world.Pending factory taken.1 cls rep := by
    rintro taken mover before after different valid allowed ⟨ready, collected, pending⟩
    have spares := allowed.moves.spares different ready.working.complete ready.working.holds
    exact ⟨lasting_ready different valid allowed ready,
      collected.spared valid ready.working.complete spares, fun cls rep claimed =>
        steady_pending valid ready.working.complete spares (pending cls rep claimed)⟩
  apply rework steady_promises.lasting lasting
  rintro world valid ⟨working, promises⟩
  refine ⟨⟨_, _, _, _, working⟩,
    ((world.factory factory).workshop.unpublished, (world.factory factory).workshop.context), {},
    ?_, working.emptied valid, working.collected valid {}, ?_⟩
  · rw [← Workshop.emptied working.depth]
    rfl
  · intro cls rep claimed
    rcases promises cls rep claimed with bound | listed
    · exact .inl ((congrFun (published_rework _ _ _) _).trans bound)
    · exact .inr listed

/-- The workshop is emptied without publication. -/
theorem discard :
    Serves (σ := σ) thread call (Working · thread factory again 0 fresh assured)
      (factory.step .discard) (fun _ => (Ready · thread factory again fresh)) fails := by
  apply rework lasting_working (fun _ => lasting_ready)
  intro world valid working
  refine ⟨⟨_, _, _, _, working⟩, (), {}, ?_, working.emptied valid⟩
  rw [← Workshop.emptied working.depth]
  rfl

/-- Those bindings are chosen that are not published yet. -/
theorem unpublished (bindings : List (ClassId × Representation))
    (steady : Steady thread factory known) :
    Serves (σ := σ) thread call
      (fun world => world.Working thread factory again depth fresh assured ∧ known world)
      (factory.unpublished bindings)
      (fun chosen world => world.Working thread factory again depth fresh assured ∧ known world ∧
        chosen.Sublist bindings ∧ forall binding, binding ∈ bindings ->
          world.Pending factory chosen binding.1 binding.2) fails := by
  have steadyPending : forall chosen bindings : List (ClassId × Representation),
      Steady thread factory fun world => forall binding, binding ∈ bindings ->
        world.Pending factory chosen binding.1 binding.2 :=
    fun chosen bindings before after valid complete spares holds binding member =>
      steady_pending valid complete spares (holds binding member)
  have after : forall chosen bindings : List (ClassId × Representation),
      Lasting thread fun world => world.Working thread factory again depth fresh assured ∧
        known world ∧ chosen.Sublist bindings ∧ forall binding, binding ∈ bindings ->
          world.Pending factory chosen binding.1 binding.2 :=
    fun chosen bindings =>
      (steady.and ((Persistent.const _).steady.and (steadyPending chosen bindings))).lasting
  induction bindings generalizing known with
  | nil =>
      exact pure (after [] []) fun world _ holds => ⟨holds.1, holds.2, .refl _, nofun⟩
  | cons binding rest inductionHypothesis =>
      obtain ⟨cls, rep⟩ := binding
      refine bind (published steady (Persistent.const True).steady fun _ _ _ _ => trivial)
        fun found => ?_
      have saw : Steady thread factory (Saw factory cls found) := steady_saw found
      have steadySaw := steady.and (saw.and (Persistent.const (found = none -> True)).steady)
      refine bind (inductionHypothesis steadySaw fun chosen bindings =>
        (steadySaw.and ((Persistent.const _).steady.and (steadyPending chosen bindings))).lasting)
        fun others => ?_
      apply pure (after _ _)
      rintro world - ⟨working, ⟨holds, saw, -⟩, shorter, pending⟩
      by_cases same : found = some rep
      · subst same
        rw [if_pos (by simp)]
        refine ⟨working, holds, shorter.cons _, fun binding member => ?_⟩
        rcases List.mem_cons.mp member with rfl | later
        · exact .inl saw
        · exact pending binding later
      · rw [if_neg (by simpa using same)]
        refine ⟨working, holds, shorter.cons_cons _, fun binding member => ?_⟩
        rcases List.mem_cons.mp member with rfl | later
        · exact .inr List.mem_cons_self
        · exact (pending binding later).imp id (List.mem_cons_of_mem _)

end Serves

/-! ## Binding a batch -/

namespace World

variable {world before after : World} {bindings chosen : List (ClassId × Representation)}

/-- A registry belongs to one factory. -/
theorem Valid.ownRegistry (valid : world.Valid) {other : FactoryId}
    (founded : factory.index < world.factoryCount) (also : other.index < world.factoryCount)
    (same : (world.factory other).registry = (world.factory factory).registry) :
    other = factory := by
  have first := (valid.founded factory founded).2
  have second := (valid.founded other also).2
  rw [same, first] at second
  exact (Escalation.factory.inj second).symm

/-- A factory answers for all that is bound in its own registry. -/
theorem Valid.confirms (valid : world.Valid) (founded : factory.index < world.factoryCount)
    (cls : ClassId) (rep : Representation) :
    world.Confirms (world.factory factory).registry cls rep := by
  intro other turns
  cases (valid.founded factory founded).2.symm.trans turns
  exact ⟨founded, .inr rfl⟩

/-- What is chosen of the collected bindings may be published. -/
theorem Collected.binds (collected : world.Collected factory bindings assured) (valid : world.Valid)
    (ready : world.Ready thread factory again fresh) (shorter : chosen.Sublist bindings)
    (pending : forall binding, binding ∈ bindings ->
      world.Pending factory chosen binding.1 binding.2)
    (unbound : forall binding, binding ∈ chosen -> world.published factory binding.1 = none) :
    world.Binds thread (world.factory factory).registry
      (Registry.batch (world.published factory) chosen) where
  made := (valid.founded factory ready.working.complete.1).1
  kept := fun _ _ bound => Registry.batch_bound unbound bound
  opened := by
    intro cls before bound
    unfold Registry.batch at bound
    rw [show world.published factory cls = none from before, Option.or_none] at bound
    obtain ⟨rep, prepared⟩ := Option.isSome_iff_exists.mp bound
    have member := shorter.subset (List.mem_reverse.mp (Workshop.mem_of_prepared prepared))
    rcases collected.namable _ member with opened | ⟨call, made⟩
    · exact .inl opened
    · exact .inr ⟨factory, call, made, ready.working.holds, rfl⟩
  confirmed := fun cls rep _ _ => .inr (valid.confirms ready.working.complete.1 cls rep)
  governed := by
    intro other founded same sealed
    obtain rfl := valid.ownRegistry ready.working.complete.1 founded same
    have view : Registry.batch (world.published other) chosen = fun cls =>
        (world.published other cls).or (({ unpublished := bindings } : Workshop).prepared cls) := by
      funext cls
      cases published : world.published other cls with
      | some rep => exact Registry.batch_bound unbound published
      | none =>
          unfold Registry.batch
          rw [published, Option.or_none, Option.none_or]
          cases prepared : ({ unpublished := bindings } : Workshop).prepared cls with
          | some rep =>
              have member := Workshop.mem_of_prepared prepared
              rcases pending _ member with bound | listed
              · cases published.symm.trans bound
              · refine Workshop.prepared_of_mem ?_ (List.mem_reverse.mpr listed)
                show ((chosen.reverse).map (·.1)).Nodup
                rw [List.map_reverse]
                exact List.nodup_reverse.mpr (collected.keys.sublist (shorter.map _))
          | none =>
              apply Workshop.prepared_eq_none.mpr
              intro binding member
              exact Workshop.prepared_eq_none.mp prepared binding
                (shorter.subset (List.mem_reverse.mp member))
    rw [view]
    exact collected.governed sealed
  unchanged := by
    intro other complete same _ outside
    obtain rfl := valid.ownRegistry ready.working.complete.1 complete.1 same
    exact absurd ready.working.holds outside

/-- The invariant after a publication by the holder of the lock. -/
theorem Ready.published (ready : world.Ready thread factory again fresh) (valid : world.Valid)
    {registry : RegistryId} {next : ClassId -> Option Representation}
    (binds : world.Binds thread registry next) :
    (world.changingBindings registry next).Ready thread factory again fresh := by
  have allowed := valid.changeBindings binds
  have grows := allowed.moves.toGrows
  refine ⟨?_, ready.empty⟩
  exact {
    complete := grows.complete ready.working.complete
    lock := ready.working.lock
    alone := ready.working.alone
    depth := ready.working.depth
    keys := ready.working.keys
    prepared := fun binding member => grows.namable valid (ready.working.prepared binding member)
    secret := nofun
    governed := by
      intro sealed
      have view : (world.changingBindings registry next).view factory =
          (world.changingBindings registry next).published factory := by
        funext cls
        unfold World.view
        rw [show ((world.changingBindings registry next).factory factory).workshop = {} from
          ready.empty]
        exact Option.or_none
      rw [view]
      exact allowed.valid.governed factory (grows.complete ready.working.complete).1 sealed
    layouts := by
      intro entry member
      rcases ready.working.layouts entry member with backed | last
      · exact .inl (grows.backed ready.working.complete.1 backed)
      · exact .inr last }

end World

namespace Serves

variable {bindings chosen : List (ClassId × Representation)}

/-- To bind classes in the registry of a factory publishes them. -/
theorem published_changingBindings {world : World} {next : ClassId -> Option Representation} :
    (world.changingBindings (world.factory factory).registry next).published factory = next :=
  if_pos rfl

/-- All that was prepared is published, in one step; assured work is not refused. -/
theorem registerChosen (factory : FactoryId) (again : Nat) (fresh : Option ClassId) (assured : Prop)
    (bindings chosen : List (ClassId × Representation)) {registry : RegistryId} :
    Serves (σ := σ) thread call
      (fun world => world.Working thread factory again 0 fresh False ∧
        (world.Collected factory bindings assured ∧ (world.factory factory).workshop = {} ∧
          chosen.Sublist bindings ∧
          forall binding, binding ∈ bindings -> world.Pending factory chosen binding.1 binding.2) ∧
        registry = (world.factory factory).registry)
      (registry.step (.registerAll chosen))
      (fun clash world => world.Ready thread factory again fresh ∧ (clash.isSome -> ¬ assured) ∧
        (clash = none -> forall binding, binding ∈ bindings ->
          world.published factory binding.1 = some binding.2)) fails := by
  have steadyPending : Steady thread factory fun world => forall binding, binding ∈ bindings ->
      world.Pending factory chosen binding.1 binding.2 :=
    fun before after valid complete spares holds binding member =>
      steady_pending valid complete spares (holds binding member)
  have before : Steady thread factory fun world =>
      (world.Collected factory bindings assured ∧ (world.factory factory).workshop = {} ∧
        chosen.Sublist bindings ∧ forall binding, binding ∈ bindings ->
          world.Pending factory chosen binding.1 binding.2) ∧
        registry = (world.factory factory).registry :=
    (steady_collected.and ((steady_factory fun current => current.workshop = {}).and
      ((Persistent.const _).steady.and steadyPending))).and
      (steady_factory fun current => registry = current.registry)
  have after : forall clash : Option (ClassId × Representation), Lasting thread fun world =>
      world.Ready thread factory again fresh ∧ (clash.isSome -> ¬ assured) ∧
        (clash = none -> forall binding, binding ∈ bindings ->
          world.published factory binding.1 = some binding.2) := by
    rintro clash mover earlier later different valid allowed ⟨ready, sure, bound⟩
    refine ⟨lasting_ready different valid allowed ready, sure, fun none binding member => ?_⟩
    exact allowed.moves.published ready.working.complete.1 (bound none binding member)
  apply registryStep before.lasting after
  rintro now answer store valid ⟨working, ⟨collected, empty, shorter, pending⟩, rfl⟩ performed
  have ready : now.world.Ready thread factory again fresh := ⟨working, empty⟩
  have made := (valid.founded factory working.complete.1).1
  obtain ⟨rfl, rfl⟩ := perform_registry performed
  cases clashes : (now.store.registry (now.world.factory factory).registry).clash? chosen with
  | some clash =>
      simp only [Registry.Step.perform, clashes]
      rw [world_readRegistry made rfl rfl]
      refine ⟨⟨valid, .refl _ _⟩, ready, fun _ known => ?_, nofun⟩
      have unbound := fun binding member =>
        (collected.secret known binding (shorter.subset member)).1
      cases clashes.symm.trans (Registry.clash?_eq_none.mpr unbound)
  | none =>
      simp only [Registry.Step.perform, clashes]
      have unbound := Registry.clash?_eq_none.mp clashes
      have binds := collected.binds valid ready shorter pending unbound
      rw [world_bindRegistry made (Registry.escalation_bindAll _ _), Registry.lookup_batch]
      refine ⟨valid.changeBindings binds, ready.published valid binds, nofun, ?_⟩
      intro _ binding member
      rw [published_changingBindings]
      rcases pending binding member with bound | listed
      · exact Registry.batch_bound unbound bound
      · exact Registry.batch_chosen (collected.keys.sublist (shorter.map _)) listed

/-- All that was prepared is published, or nothing; assured work is not refused. -/
theorem publishAll :
    Serves (σ := σ) thread call
      (fun world => world.Working thread factory again 0 fresh assured ∧
        world.Promises factory claims)
      factory.publishAll
      (fun _ world => world.Ready thread factory again fresh ∧ world.Publishes factory claims)
      (fun _ world => world.Ready thread factory again fresh ∧ ¬ assured) := by
  apply bind collect
  intro taken
  obtain ⟨taken, context⟩ := taken
  have steadyPending : Steady thread factory fun world =>
      forall cls rep, claims cls rep -> world.Pending factory taken cls rep :=
    fun before after valid complete spares pending cls rep claimed =>
      steady_pending valid complete spares (pending cls rep claimed)
  have pending : Steady thread factory fun world => world.Collected factory taken assured ∧
      (world.factory factory).workshop = {} ∧
      forall cls rep, claims cls rep -> world.Pending factory taken cls rep :=
    steady_collected.and ((steady_factory fun current => current.workshop = {}).and steadyPending)
  refine bind ((unpublished taken pending).given fun world _ holds =>
    ⟨holds.1.working, holds.2.1, holds.1.empty, holds.2.2⟩) fun chosen => ?_
  have kept : Persistent fun world => world.Complete factory ∧
      forall cls rep, claims cls rep -> world.Pending factory taken cls rep := by
    rintro before after valid grows ⟨complete, pending⟩
    exact ⟨grows.complete complete, fun cls rep claimed =>
      (pending cls rep claimed).imp (grows.published complete.1) id⟩
  refine bind (view (pending.and ((Persistent.const _).steady.and
    fun before after valid complete spares holds binding member =>
      steady_pending valid complete spares (holds binding member)))) fun registry => ?_
  refine bind (((registerChosen factory again fresh assured taken chosen).keeping kept).weaken ?_
    (fun _ _ _ holds => holds) fun _ _ _ failed => failed.1) fun clashed => ?_
  · rintro world - ⟨working, ⟨⟨collected, empty, pending⟩, shorter, chosen⟩, registry⟩
    exact ⟨⟨working, ⟨collected, empty, shorter, chosen⟩, registry⟩, working.complete, pending⟩
  · cases clashed with
    | none =>
        refine pure ?_ ?_
        · rintro mover before after different valid allowed ⟨ready, publishes⟩
          exact ⟨lasting_ready different valid allowed ready,
            publishes.grown allowed.moves.toGrows ready.working.complete.1⟩
        · rintro world - ⟨⟨ready, -, bound⟩, -, pending⟩
          refine ⟨ready, fun cls rep claimed => ?_⟩
          rcases pending cls rep claimed with published | listed
          · exact published
          · exact bound rfl _ listed
    | some existing =>
        refine (clash (fun world => world.Ready thread factory again fresh ∧ ¬ assured)
          (Persistent.const _).ready).given ?_
        exact fun world _ holds => ⟨holds.1.1, holds.1.2.1 rfl⟩

/-- The outermost request publishes on success and discards on failure. -/
theorem conclude {index : Type} (assured : Prop) {work : Request (Clients σ) α}
    {pre : World -> Prop} (claimed : α -> index -> ClassId -> Representation -> Prop)
    (kept : α -> index -> World -> Prop)
    (persistent : forall answer chosen, Persistent (kept answer chosen))
    (serves : Serves thread call pre work
      (fun answer world => world.Working thread factory again 1 fresh assured ∧
        exists chosen, kept answer chosen world ∧ world.Promises factory (claimed answer chosen))
      (fun _ world => world.Working thread factory again 1 fresh assured ∧ ¬ assured)) :
    Serves thread call pre (factory.conclude work)
      (fun answer world => world.Ready thread factory again fresh ∧
        exists chosen, kept answer chosen world ∧ world.Publishes factory (claimed answer chosen))
      (fun _ world => world.Ready thread factory again fresh ∧ ¬ assured) := by
  apply bind serves.attempt
  intro outcome
  cases outcome with
  | error fault =>
      refine bind (finish (Persistent.const (¬ assured)).steady
        (Persistent.const _).indifferent) fun outermost => ?_
      apply assume
      intro outermost
      subst outermost
      refine bind ((discard.keeping (Persistent.const (¬ assured))).weaken (fun _ _ holds => holds)
        (fun _ _ _ holds => holds) fun _ _ _ failed => failed.1) fun _ => ?_
      exact throw (Persistent.const _).ready fun _ _ holds => holds
  | ok answer =>
      refine (choose fun chosen => ?_).given fun world _ ⟨working, chosen, holds⟩ =>
        (⟨chosen, working, holds⟩ : exists chosen,
          world.Working thread factory again 1 fresh assured ∧ kept answer chosen world ∧
            world.Promises factory (claimed answer chosen))
      refine bind (finish ((persistent answer chosen).steady.and steady_promises)
        ((persistent answer chosen).indifferent.and indifferent_promises)) fun outermost => ?_
      apply assume
      intro outermost
      subst outermost
      refine bind ((publishAll.keeping (persistent answer chosen)).weaken
        (fun world _ holds => ⟨⟨holds.1, holds.2.2⟩, holds.2.1⟩)
        (fun _ _ _ holds => holds) fun _ _ _ failed => failed.1) fun _ => ?_
      refine pure ?_ fun world _ holds => ⟨holds.1.1, chosen, holds.2, holds.1.2⟩
      rintro mover before after different valid allowed ⟨ready, chosen, holds, publishes⟩
      exact ⟨lasting_ready different valid allowed ready, chosen,
        persistent answer chosen valid allowed.moves.toGrows holds,
        publishes.grown allowed.moves.toGrows ready.working.complete.1⟩

end Serves

end GuestTypes
