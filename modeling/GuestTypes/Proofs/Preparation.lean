import GuestTypes.Proofs.Workshop

/-!
# Preparing bindings

What the requests of a factory do to its workshop. A class is looked for among what is
published and what is prepared; if it is found in neither, a binding may be prepared for it. A
type's own classes are bound to representations that they host themselves, so the view of
published and prepared bindings stays ruled.
-/

namespace GuestTypes

namespace World

variable {world : World} {thread : ThreadId} {factory : FactoryId} {again depth : Nat}
  {fresh : Option ClassId} {assured : Prop} {cls : ClassId} {rep : Representation}

/-- A view with one more binding. -/
def extended (view : ClassId -> Option Representation) (cls : ClassId) (rep : Representation) :
    ClassId -> Option Representation :=
  fun other => if other = cls then some rep else view other

/-- A ruled view stays ruled when a class that had no binding gets one that rules it. -/
theorem Governed.extended {view : ClassId -> Option Representation} (governed : world.Governed view)
    (unbound : view cls = none)
    (rules : Governs world.hierarchy world.types (extended view cls rep) cls rep) :
    world.Governed (extended view cls rep) := by
  intro other bound seen
  by_cases same : other = cls
  · subst same
    cases (if_pos rfl).symm.trans seen
    exact rules
  · replace seen : view other = some bound := (if_neg same).symm.trans seen
    have apart : forall named rep, view named = some rep -> named ≠ cls := by
      rintro named rep found rfl
      cases unbound.symm.trans found
    obtain ⟨made, hosted, accepted, below, above, chain, taken⟩ := governed other bound seen
    refine ⟨made, (if_neg (apart _ _ hosted)).trans hosted, accepted, below, above, chain, ?_⟩
    intro lower member
    obtain ⟨takes, found⟩ := taken lower member
    exact ⟨takes, (if_neg (apart _ _ found)).trans found⟩

/-- The representation is made for the class itself. -/
structure Hosts (world : World) (cls : ClassId) (rep : Representation) : Prop where
  made : world.types.MadeFor rep
  host : world.types.hostClass rep = cls
  bound : world.types.isAccepted rep = false

/-- A representation that is made for a class goes on to be. -/
theorem persistent_hosts (cls : ClassId) (rep : Representation) :
    Persistent (Hosts · cls rep) := by
  rintro before after - grows ⟨made, host, bound⟩
  exact ⟨grows.types.madeFor made, (grows.types.hostClass made).trans host,
    (grows.types.isAccepted made).trans bound⟩

/-- A representation rules the class that it is made for. -/
theorem Hosts.governs (hosts : world.Hosts cls rep) (view : ClassId -> Option Representation) :
    Governs world.hierarchy world.types (extended view cls rep) cls rep where
  made := hosts.made
  hosted := if_pos hosts.host
  bound := hosts.bound
  descends := by
    refine ⟨[], (world.hierarchy.superclass cls).elim [] world.hierarchy.lineage, ?_,
      fun _ member => nomatch member⟩
    rw [hosts.host]
    exact Hierarchy.lineage_eq _ _

/-- A class takes over what rules its superclass. -/
theorem governs_inherited {view : ClassId -> Option Representation} {super : ClassId}
    (chosen : world.hierarchy.superclass cls = some super)
    (takes : FactoryId.takesOver world.hierarchy cls = true) (unbound : view cls = none)
    (rules : Governs world.hierarchy world.types view super rep) :
    Governs world.hierarchy world.types (extended view cls rep) cls rep := by
  have apart : forall named rep, view named = some rep -> named ≠ cls := by
    rintro named rep found rfl
    cases unbound.symm.trans found
  obtain ⟨made, hosted, bound, below, above, chain, taken⟩ := rules
  refine ⟨made, (if_neg (apart _ _ hosted)).trans hosted, bound, cls :: below, above, ?_, ?_⟩
  · rw [Hierarchy.lineage_eq, chosen]
    exact congrArg (cls :: ·) chain
  · intro lower member
    rcases List.mem_cons.mp member with rfl | lower'
    · exact ⟨takes, if_pos rfl⟩
    · obtain ⟨takes, found⟩ := taken lower lower'
      exact ⟨takes, (if_neg (apart _ _ found)).trans found⟩

/-! ## Changing the workshop -/

/-- A factory whose workshop is changed is what it was made. -/
theorem factory_rework (world : World) (factory : FactoryId) (next : Factory) :
    (world.changingFactory factory next).factory factory = next := if_pos rfl

/-- No class is published by a change of the workshop. -/
theorem published_rework (world : World) (factory : FactoryId) (workshop : Workshop) :
    (world.changingFactory factory { world.factory factory with workshop }).published factory =
      world.published factory := by
  unfold World.published
  rw [factory_rework]
  rfl

/-- After a change of the workshop a class is seen as published, or as prepared there. -/
theorem view_rework (world : World) (factory : FactoryId) (workshop : Workshop) (cls : ClassId) :
    (world.changingFactory factory { world.factory factory with workshop }).view factory cls =
      (world.published factory cls).or (workshop.prepared cls) := by
  unfold World.view
  rw [published_rework, factory_rework]

/-- A class that is still to be bound stays so while the workshop is changed. -/
theorem Secret.rework (secret : world.Secret factory cls) (workshop : Workshop) :
    (world.changingFactory factory { world.factory factory with workshop }).Secret factory cls :=
  ⟨(congrFun (published_rework _ _ _) _).trans secret.1, secret.2⟩

/-- Whoever works in a factory may change its workshop. -/
theorem Working.remakes (working : world.Working thread factory again depth fresh assured)
    (valid : world.Valid) (workshop : Workshop) :
    world.Remakes thread factory { world.factory factory with workshop } where
  founded := working.complete.1
  registry := rfl
  root := rfl
  twin := rfl
  mine := fun _ different holds => different (Holds.unique working.holds holds)
  stillMine := fun _ _ held => by cases working.lock.symm.trans held; rfl
  kept := List.Subset.refl _
  shapes := valid.shapes factory
  layouts := fun _ member => .inl member
  resting := fun free => nomatch working.lock.symm.trans free

/-- The invariant after a change of the workshop. -/
theorem Working.rework (working : world.Working thread factory again depth fresh assured)
    (valid : world.Valid) {workshop : Workshop} {nested : Nat} {sure : Prop}
    (nesting : workshop.depth = nested)
    (keys : (workshop.unpublished.map (·.1)).Nodup)
    (prepared : forall binding, binding ∈ workshop.unpublished -> world.Namable factory binding.1)
    (secret : sure -> forall binding, binding ∈ workshop.unpublished ->
      world.Secret factory binding.1)
    (governed : world.Sealed factory ->
      world.Governed fun cls => (world.published factory cls).or (workshop.prepared cls)) :
    (world.changingFactory factory { world.factory factory with workshop }).Working
      thread factory again nested fresh sure := by
  have grows := (valid.changeFactory (working.remakes valid workshop)).moves.toGrows
  have own := world.factory_rework factory { world.factory factory with workshop }
  refine ⟨grows.complete working.complete, ?_, ?_, ?_, ?_, ?_, ?_, ?_, ?_⟩
  · rw [own]
    exact working.lock
  · rintro other different ⟨more, taken⟩
    refine working.alone other different ⟨more, ?_⟩
    rw [← taken]
    exact congrArg Factory.lock (if_neg different).symm
  · rw [own]
    exact nesting
  · rw [own]
    exact keys
  · rw [own]
    exact fun binding member => grows.namable valid (prepared binding member)
  · rw [own]
    exact fun known binding member => (secret known binding member).rework workshop
  · intro sealed
    rw [funext (view_rework world factory workshop)]
    have before := governed (grows.sealed working.complete.1 sealed)
    intro named bound seen
    obtain ⟨made, hosted, accepted, descends⟩ := before named bound seen
    exact ⟨made, hosted, accepted, descends⟩
  · rw [own]
    intro entry member
    rcases working.layouts entry member with backed | last
    · exact .inl (grows.backed working.complete.1 backed)
    · exact .inr last

end World

open World

variable {σ α : Type} {thread : ThreadId} {call : Option Nat} {factory : FactoryId}
  {again depth : Nat} {fresh : Option ClassId} {assured : Prop} {cls : ClassId}
  {rep : Representation} {known : World -> Prop} {fails : Fault -> World -> Prop}

namespace Serves

/-- A step of the factory by the holder of its lock, which changes the workshop. -/
theorem rework {step : Factory.Step α} {pre : World -> Prop} {post : α -> World -> Prop}
    (before : Lasting thread pre) (after : forall answer, Lasting thread (post answer))
    (effect : forall world, world.Valid -> pre world ->
      (exists again depth fresh sure, world.Working thread factory again depth fresh sure) ∧
        exists answer workshop, step.perform thread (world.factory factory) =
            some (answer, { world.factory factory with workshop }) ∧
          post answer (world.changingFactory factory { world.factory factory with workshop })) :
    Serves (σ := σ) thread call pre (factory.step step) post fails := by
  apply perform before after
  intro now answer store valid holds performed
  obtain ⟨⟨again, depth, fresh, sure, working⟩, given, workshop, stepped, ended⟩ :=
    effect now.world valid holds
  obtain ⟨changed, found, rfl⟩ := perform_factory performed
  cases stepped.symm.trans found
  rw [world_setFactory working.complete.1]
  exact ⟨valid.changeFactory (working.remakes valid workshop), ended⟩

/-- The holder of the lock looks at the factory. -/
theorem view {view : Factory -> α} (steady : Steady thread factory known) :
    Serves (σ := σ) thread call
      (fun world => world.Working thread factory again depth fresh assured ∧ known world)
      (factory.view view)
      (fun answer world => world.Working thread factory again depth fresh assured ∧
        known world ∧ answer = view (world.factory factory)) fails :=
  observe steady.lasting
    (fun _ => (steady.and (steady_factory fun current => _ = view current)).lasting)
    fun _ _ holds => ⟨holds.1, holds.2, rfl⟩

/-- A step of the holder of the lock that spares the factory. -/
theorem sparing {action : Action α} {answered : α -> World -> Prop}
    (before : Steady thread factory known)
    (after : forall answer, Steady thread factory (answered answer))
    (step : forall (now : Instant σ) answer store, now.world.Valid ->
      now.world.Working thread factory again depth fresh assured -> known now.world ->
      action.perform thread now.store = some (answer, store) ->
        Allows thread now.world (now.withStore store).world ∧
          Spares thread factory now.world (now.withStore store).world ∧
          answered answer (now.withStore store).world) :
    Serves (σ := σ) thread call
      (fun world => world.Working thread factory again depth fresh assured ∧ known world)
      (Request.perform action)
      (fun answer world => world.Working thread factory again depth fresh assured ∧
        known world ∧ answered answer world) fails := by
  apply perform before.lasting (fun answer => (before.and (after answer)).lasting)
  intro now answer store valid ⟨working, holds⟩ performed
  obtain ⟨allowed, spares, ended⟩ := step now answer store valid working holds performed
  exact ⟨allowed, working.spared valid spares, before valid working.complete spares holds, ended⟩

/-- The holder of the lock looks at the store. -/
theorem look {view : Store -> α} {seen : α -> World -> Prop} (before : Steady thread factory known)
    (after : forall answer, Steady thread factory (seen answer))
    (sees : forall now : Instant σ, now.world.Valid -> known now.world ->
      seen (view now.store) now.world) :
    Serves (σ := σ) thread call
      (fun world => world.Working thread factory again depth fresh assured ∧ known world)
      (Request.observe view)
      (fun answer world => world.Working thread factory again depth fresh assured ∧
        known world ∧ seen answer world) fails :=
  observe before.lasting (fun answer => (before.and (after answer)).lasting)
    fun now valid holds => ⟨holds.1, holds.2, sees now valid holds.2⟩

/-- What the holder of the lock learns about the publication of a class. -/
def Saw (factory : FactoryId) (cls : ClassId) (found : Option Representation) (world : World) :
    Prop :=
  match found with
  | some rep => world.published factory cls = some rep
  | none => world.Sealed factory -> world.published factory cls = none

/-- What was learned about the publication of a class is kept. -/
theorem steady_saw (found : Option Representation) :
    Steady thread factory (Saw factory cls found) := by
  intro before after valid complete spares saw
  cases found with
  | some rep => exact spares.published complete.1 saw
  | none =>
      intro sealed
      rw [spares.kept sealed]
      exact saw (spares.sealed complete.1 sealed)

/-- The holder of the lock looks at what is published. What is missing may be known for more
reasons than the answer. -/
theorem published {missing : World -> Prop} (steady : Steady thread factory known)
    (steadyMissing : Steady thread factory missing)
    (misses : forall world, world.Valid -> known world -> world.published factory cls = none ->
      missing world) :
    Serves (σ := σ) thread call
      (fun world => world.Working thread factory again depth fresh assured ∧ known world)
      (factory.published cls)
      (fun found world => world.Working thread factory again depth fresh assured ∧
        known world ∧ Saw factory cls found world ∧ (found = none -> missing world)) fails := by
  apply bind (view steady)
  intro registry
  refine lookup (Registry.Step.looks_lookup cls)
    (steady.and (steady_factory fun current => registry = current.registry)).lasting
    (fun found => (steady.and ((steady_saw found).and steadyMissing.imp)).lasting) ?_
  rintro world valid ⟨working, holds, rfl⟩
  refine ⟨(valid.founded factory working.complete.1).1, working, holds, ?_,
    misses world valid holds⟩
  show Saw factory cls (world.published factory cls) world
  cases bound : world.published factory cls with
  | none => exact fun _ => bound
  | some rep => exact bound

/-- What the holder of the lock learns about a class. -/
def Found (factory : FactoryId) (cls : ClassId) (found : Option Representation) (world : World) :
    Prop :=
  match found with
  | some rep => world.Promised factory cls rep ∧
      (world.Sealed factory -> world.view factory cls = some rep)
  | none => (world.Sealed factory -> world.view factory cls = none) ∧
      (world.factory factory).workshop.prepared cls = none

/-- What was learned about a class is kept. -/
theorem steady_found (found : Option Representation) :
    Steady thread factory (Found factory cls found) := by
  cases found with
  | some rep => exact steady_promised.and (steady_view (· = some rep))
  | none =>
      exact (steady_view (· = none)).and
        (steady_factory fun current => current.workshop.prepared cls = none)

/-- A class that is not published is looked for among what is prepared. -/
theorem foundOr {missing : World -> Prop} (steady : Steady thread factory known)
    (steadyMissing : Steady thread factory missing)
    (misses : forall world, world.Valid -> known world -> world.published factory cls = none ->
      missing world) :
    Serves (σ := σ) thread call
      (fun world => world.Working thread factory again depth fresh assured ∧ known world)
      (factory.found cls)
      (fun found world => world.Working thread factory again depth fresh assured ∧
        known world ∧ Found factory cls found world ∧ (found = none -> missing world)) fails := by
  apply bind (published steady steadyMissing misses)
  intro found
  cases found with
  | some rep =>
      apply pure (steady.and ((steady_found (some rep)).and steadyMissing.imp)).lasting
      rintro world - ⟨working, holds, bound, -⟩
      refine ⟨working, holds, ⟨.inl bound, fun _ => ?_⟩, nofun⟩
      unfold World.view
      rw [show world.published factory cls = some rep from bound]
      rfl
  | none =>
      refine weaken (view (steady.and ((steady_saw none).and steadyMissing)))
        (fun _ _ holds => ⟨holds.1, holds.2.1, holds.2.2.1, holds.2.2.2 rfl⟩) ?_
        (fun _ _ _ failed => failed)
      rintro found world - ⟨working, ⟨holds, unbound, missing⟩, rfl⟩
      have view : world.Sealed factory -> world.view factory cls =
          (world.factory factory).workshop.prepared cls := by
        intro sealed
        unfold World.view
        rw [unbound sealed]
        rfl
      refine ⟨working, holds, ?_, fun _ => missing⟩
      cases prepared : (world.factory factory).workshop.prepared cls with
      | some rep =>
          exact ⟨.inr (Workshop.mem_of_prepared prepared), fun sealed =>
            (view sealed).trans prepared⟩
      | none => exact ⟨fun sealed => (view sealed).trans prepared, prepared⟩

/-- The holder of the lock learns what is published or prepared for a class. -/
theorem found (steady : Steady thread factory known) :
    Serves (σ := σ) thread call
      (fun world => world.Working thread factory again depth fresh assured ∧ known world)
      (factory.found cls)
      (fun found world => world.Working thread factory again depth fresh assured ∧
        known world ∧ Found factory cls found world) fails :=
  (foundOr steady (Persistent.const True).steady fun _ _ _ _ => trivial).weaken
    (fun _ _ holds => holds) (fun _ _ _ holds => ⟨holds.1, holds.2.1, holds.2.2.1⟩)
    fun _ _ _ failed => failed

/-- Reporting a clash changes nothing. -/
theorem clash (known : World -> Prop) {mode : ClashMode} {existing : Representation}
    {context : Option String} {post : α -> World -> Prop} (lasting : Lasting thread known) :
    Serves (σ := σ) thread call known (FactoryId.clash mode cls existing context) post
      (fun _ => known) := by
  apply bind ((Request.Mild.observe _).serves lasting)
  intro label
  exact throw lasting fun _ _ holds => holds

end Serves

/-! ## Preparing -/

namespace World

variable {world : World} {thread : ThreadId}

/-- The representation may be prepared for the class: it is made for it, or the class takes it
over from its superclass. -/
def Fits (world : World) (factory : FactoryId) (cls : ClassId) (rep : Representation) : Prop :=
  world.Hosts cls rep ∨ exists super, world.hierarchy.Declared cls ∧
    world.hierarchy.superclass cls = some super ∧
    FactoryId.takesOver world.hierarchy cls = true ∧
    (world.Sealed factory -> world.view factory super = some rep)

/-- A representation that fits a class goes on to fit it. -/
theorem steady_fits : Steady thread factory (Fits · factory cls rep) := by
  apply (persistent_hosts cls rep).steady.or
  rintro before after valid complete spares ⟨super, declared, chosen, takes, viewed⟩
  exact ⟨super, spares.hierarchy.declared declared,
    (spares.hierarchy.superclass declared).trans chosen,
    (spares.hierarchy.takesOver declared).trans takes,
    (steady_view (· = some rep) : Steady thread factory _) valid complete spares viewed⟩

/-- What must be known to prepare a binding. -/
structure Preparable (world : World) (factory : FactoryId) (cls : ClassId) (rep : Representation)
    (assured : Prop) : Prop where
  namable : world.Namable factory cls
  fits : world.Fits factory cls rep
  secret : assured -> world.Secret factory cls

/-- What is needed to prepare a binding is kept. -/
theorem steady_preparable : Steady thread factory (Preparable · factory cls rep assured) := by
  rintro before after valid complete spares ⟨namable, fits, secret⟩
  exact ⟨spares.namable valid namable, steady_fits valid complete spares fits,
    fun known => spares.secret cls (secret known)⟩

/-- The invariant after a binding was prepared for a class without one. -/
theorem Working.prepare (working : world.Working thread factory again depth fresh assured)
    (valid : world.Valid) (unviewed : world.Sealed factory -> world.view factory cls = none)
    (unprepared : (world.factory factory).workshop.prepared cls = none)
    (preparable : world.Preparable factory cls rep assured) :
    (world.changingFactory factory { world.factory factory with
      workshop := (world.factory factory).workshop.prepare cls rep }).Working
        thread factory again depth fresh assured := by
  have added := Workshop.unpublished_prepare rep unprepared
  refine working.rework valid working.depth ?_ ?_ ?_ ?_
  · rw [added, List.map_append]
    refine List.nodup_append.mpr ⟨working.keys, List.nodup_cons.mpr ⟨List.not_mem_nil, .nil⟩, ?_⟩
    intro key member other last
    obtain rfl := List.mem_singleton.mp last
    obtain ⟨binding, listed, rfl⟩ := List.mem_map.mp member
    exact Workshop.prepared_eq_none.mp unprepared binding listed
  · rw [added]
    intro binding member
    rcases List.mem_append.mp member with old | last
    · exact working.prepared binding old
    · obtain rfl := List.mem_singleton.mp last
      exact preparable.namable
  · rw [added]
    intro known binding member
    rcases List.mem_append.mp member with old | last
    · exact working.secret known binding old
    · obtain rfl := List.mem_singleton.mp last
      exact preparable.secret known
  · intro sealed
    have unviewed := unviewed sealed
    have unbound : world.published factory cls = none := by
      unfold World.view at unviewed
      exact (Option.or_eq_none_iff.mp unviewed).1
    have view : (fun named => (world.published factory named).or
        (((world.factory factory).workshop.prepare cls rep).prepared named)) =
        extended (world.view factory) cls rep := by
      funext named
      rw [Workshop.prepared_prepare unprepared]
      unfold extended
      by_cases same : named = cls
      · rw [if_pos same, if_pos same, same, unbound]
        rfl
      · rw [if_neg same, if_neg same]
        rfl
    rw [view]
    apply (working.governed sealed).extended unviewed
    rcases preparable.fits with hosts | ⟨super, -, chosen, takes, viewed⟩
    · exact hosts.governs _
    · exact governs_inherited chosen takes unviewed
        (working.governed sealed super rep (viewed sealed))

/-- No binding is promised to a secret that is not prepared. -/
theorem Secret.unpromised (secret : world.Secret factory cls)
    (unprepared : (world.factory factory).workshop.prepared cls = none) :
    ¬ world.Promised factory cls rep := by
  rintro (bound | prepared)
  · cases secret.1.symm.trans bound
  · exact Workshop.prepared_eq_none.mp unprepared _ prepared rfl

/-- The world after a binding was prepared. -/
abbrev preparing (world : World) (factory : FactoryId) (cls : ClassId) (rep : Representation) :
    World :=
  world.changingFactory factory { world.factory factory with
    workshop := (world.factory factory).workshop.prepare cls rep }

/-- The assertion survives that a binding is prepared for a class that had none. -/
def Outlasts (factory : FactoryId) (cls : ClassId) (rep : Representation)
    (assertion : World -> Prop) : Prop :=
  forall ⦃world : World⦄, world.Valid -> Serves.Found factory cls none world ->
    Grows world (world.preparing factory cls rep) -> factory.index < world.factoryCount ->
      assertion world -> assertion (world.preparing factory cls rep)

/-- What persists survives a preparation. -/
theorem Persistent.outlasts {assertion : World -> Prop} (persistent : Persistent assertion) :
    Outlasts factory cls rep assertion :=
  fun _ valid _ grows _ holds => persistent valid grows holds

/-- What survives a preparation survives it together. -/
theorem Outlasts.and {first second : World -> Prop} (left : Outlasts factory cls rep first)
    (right : Outlasts factory cls rep second) :
    Outlasts factory cls rep fun world => first world ∧ second world :=
  fun _ valid missing grows founded both =>
    ⟨left valid missing grows founded both.1, right valid missing grows founded both.2⟩

/-- What survives it for each choice survives it for all. -/
theorem Outlasts.forall {index : Type} {assertion : index -> World -> Prop}
    (outlasts : forall chosen, Outlasts factory cls rep (assertion chosen)) :
    Outlasts factory cls rep fun world => forall chosen, assertion chosen world :=
  fun _ valid missing grows founded holds chosen =>
    outlasts chosen valid missing grows founded (holds chosen)

/-- What survives it survives it under a condition. -/
theorem Outlasts.imp {fact : Prop} {assertion : World -> Prop}
    (outlasts : Outlasts factory cls rep assertion) :
    Outlasts factory cls rep fun world => fact -> assertion world :=
  fun _ valid missing grows founded holds given =>
    outlasts valid missing grows founded (holds given)

/-- More is promised when more is prepared. -/
theorem outlasts_promised {other : ClassId} {bound : Representation} :
    Outlasts factory cls rep (Promised · factory other bound) := by
  rintro world - ⟨-, unprepared⟩ - - (published | prepared)
  · exact .inl ((congrFun (published_rework _ _ _) _).trans published)
  · refine .inr ?_
    rw [factory_rework]
    show _ ∈ ((world.factory factory).workshop.prepare cls rep).unpublished
    rw [Workshop.unpublished_prepare rep unprepared]
    exact List.mem_append_left _ prepared

/-- Nothing is prepared for other classes. -/
theorem outlasts_missing {other : ClassId} (apart : other ≠ cls) :
    Outlasts factory cls rep (Serves.Found factory other none) := by
  rintro world - ⟨unviewed, unprepared⟩ grows founded ⟨unseen, missing⟩
  constructor
  · intro sealed
    have sealed := grows.sealed founded sealed
    have unbound := unviewed sealed
    unfold World.view at unbound
    rw [view_rework, Workshop.prepared_prepare unprepared, if_neg apart]
    exact unseen sealed
  · rw [factory_rework]
    show ((world.factory factory).workshop.prepare cls rep).prepared other = none
    rw [Workshop.prepared_prepare unprepared, if_neg apart]
    exact missing

/-- What was prepared for a class is found for it. -/
theorem found_preparing (missing : Serves.Found factory cls none world)
    (grows : Grows world (world.preparing factory cls rep))
    (founded : factory.index < world.factoryCount) :
    Serves.Found factory cls (some rep) (world.preparing factory cls rep) := by
  obtain ⟨unviewed, unprepared⟩ := missing
  constructor
  · refine .inr ?_
    rw [factory_rework]
    show _ ∈ ((world.factory factory).workshop.prepare cls rep).unpublished
    rw [Workshop.unpublished_prepare rep unprepared]
    exact List.mem_append_right _ (List.mem_singleton.mpr rfl)
  · intro sealed
    have unbound := unviewed (grows.sealed founded sealed)
    unfold World.view at unbound
    rw [view_rework, Workshop.prepared_prepare unprepared, if_pos rfl,
      (Option.or_eq_none_iff.mp unbound).1]
    rfl

end World

namespace Serves

/-- Preparing a binding for a class that has none. -/
theorem prepareStep (again depth : Nat) (fresh : Option ClassId) (assured : Prop) (cls : ClassId)
    (rep : Representation) (steady : Steady thread factory known)
    (outlasts : Outlasts factory cls rep known) :
    Serves (σ := σ) thread call
      (fun world => world.Working thread factory again depth fresh assured ∧
        world.Preparable factory cls rep assured ∧ Found factory cls none world ∧ known world)
      (factory.step (.prepare cls rep))
      (fun _ world => world.Working thread factory again depth fresh assured ∧
        Found factory cls (some rep) world ∧ known world) fails := by
  refine rework (steady_preparable.and ((steady_found none).and steady)).lasting
    (fun _ => ((steady_found (some rep)).and steady).lasting) ?_
  rintro world valid ⟨working, preparable, missing, holds⟩
  have grows := (valid.changeFactory (working.remakes valid
    ((world.factory factory).workshop.prepare cls rep))).moves.toGrows
  exact ⟨⟨_, _, _, _, working⟩, (), _, rfl,
    working.prepare valid missing.1 missing.2 preparable,
    found_preparing missing grows working.complete.1,
    outlasts valid missing grows working.complete.1 holds⟩

/-- A binding is prepared, or refused because the class has one. Assured work is not refused. -/
theorem prepare (again depth : Nat) (fresh : Option ClassId) (assured : Prop) (cls : ClassId)
    (rep : Representation) (steady : Steady thread factory known)
    (outlasts : Outlasts factory cls rep known) :
    Serves (σ := σ) thread call
      (fun world => world.Working thread factory again depth fresh assured ∧
        world.Preparable factory cls rep assured ∧
        (assured -> (world.factory factory).workshop.prepared cls = none) ∧ known world)
      (factory.prepare cls rep)
      (fun _ world => world.Working thread factory again depth fresh assured ∧
        Found factory cls (some rep) world ∧ known world)
      (fun _ world => world.Working thread factory again depth fresh assured ∧ ¬ assured ∧
        known world) := by
  have steadyAll : Steady thread factory fun world => world.Preparable factory cls rep assured ∧
      (assured -> (world.factory factory).workshop.prepared cls = none) ∧ known world :=
    steady_preparable.and
      ((steady_factory fun current => current.workshop.prepared cls = none).imp.and steady)
  apply bind (found steadyAll)
  intro found
  cases found with
  | none =>
      exact (prepareStep again depth fresh assured cls rep steady outlasts).given
        fun world _ holds => ⟨holds.1, holds.2.1.1, holds.2.2, holds.2.1.2.2⟩
  | some existing =>
      apply bind (view (steadyAll.and (steady_found (some existing))))
      intro context
      refine (clash (fun world => world.Working thread factory again depth fresh assured ∧
        ¬ assured ∧ known world) ((Persistent.const _).steady.and steady).lasting).given ?_
      rintro world - ⟨working, ⟨⟨preparable, unprepared, holds⟩, promised, -⟩, -⟩
      exact ⟨working, fun known =>
        (preparable.secret known).unpromised (unprepared known) promised, holds⟩

end Serves

end GuestTypes
