import GuestTypes.Proofs.FactoryRequests
import GuestTypes.Protocol.Resolution

/-!
# Resolution under the rules

Static initializers and escalations are host code, so a request runs them while its thread is
idle, and relies afterwards only on what no step undoes. A class that a registry or a factory
answers for is bound there, and stays so.
-/

namespace GuestTypes

open World

variable {σ α : Type} {thread : ThreadId} {call : Option Nat} {factory : FactoryId}
  {registry : RegistryId} {cls : ClassId} {rep : Representation} {known : World -> Prop}

namespace Serves

/-! ## Static initialisation -/

/-- Initializers run while the thread is idle. -/
theorem initialise (persistent : Persistent known) :
    Serves (σ := σ) thread call (fun world => world.Idle thread ∧ known world)
      cls.initialise (fun _ world => world.Idle thread ∧ known world)
      (fun _ world => world.Idle thread ∧ known world) := by
  have lasting : Lasting thread fun world => world.Idle thread ∧ known world :=
    lasting_idle.and persistent.lasting
  have refused : forall reason : String,
      Serves (σ := σ) thread call (fun world => world.Idle thread ∧ known world)
        (cls.initialisationFault reason) (fun _ world => world.Idle thread ∧ known world)
        (fun _ world => world.Idle thread ∧ known world) :=
    fun reason => bind (glance lasting) fun name => throw lasting fun _ _ holds => holds
  apply bind (quietly (Action.mild_claim cls) lasting)
  intro claimed
  cases claimed with
  | usable => exact pure lasting fun _ _ holds => holds
  | failed reason => exact refused reason
  | begun =>
      refine via (fun _ world => world.Idle thread ∧ known world) ?_ fun reason => ?_
      · refine Discipline.Meets.initialise lasting.stable (fun _ => lasting.stable)
          (fun _ _ holds => holds.1) ?_
        exact fun now later _ _ holds passes _ =>
          ⟨passes.idle, persistent.onward passes.onward holds.2⟩
      · cases reason with
        | none => exact pure lasting fun _ _ holds => holds
        | some reason => exact refused reason

/-- A thread without locks may have a class initialised, and holds none afterwards. -/
theorem ensureInitialised (persistent : Persistent known) :
    Serves (σ := σ) thread call (fun world => world.Idle thread ∧ known world)
      cls.ensureInitialised (fun _ world => world.Idle thread ∧ known world)
      (fun _ world => world.Idle thread ∧ known world) := by
  have lasting : Lasting thread fun world => world.Idle thread ∧ known world :=
    lasting_idle.and persistent.lasting
  apply bind (glance lasting)
  intro lineage
  generalize lineage.reverse = classes
  induction classes with
  | nil => exact pure lasting fun _ _ holds => holds
  | cons cls rest inductionHypothesis =>
      exact bind (initialise persistent) fun _ => inductionHypothesis

end Serves

/-! ## Factories -/

namespace World

/-- The factory was founded, and its registry binds the class. -/
def Settled (world : World) (factory : FactoryId) (cls : ClassId) (rep : Representation) : Prop :=
  factory.index < world.factoryCount ∧ world.published factory cls = some rep

/-- What is settled for a class stays so. -/
theorem persistent_settled (factory : FactoryId) (cls : ClassId) (rep : Representation) :
    Persistent (Settled · factory cls rep) :=
  fun _ _ _ grows settled =>
    ⟨Nat.lt_of_lt_of_le settled.1 grows.factories, grows.published settled.1 settled.2⟩

end World

namespace Serves

/-- A representation is inherited or made, and promised to the class. -/
theorem inheritOrMake {again depth : Nat} {fresh : Option ClassId} :
    Serves (σ := σ) thread call
      (fun world => world.Working thread factory again depth fresh False ∧ world.Open cls)
      (do
        match <- factory.inherited (<- Request.observe (·.hierarchy.lineage cls)) with
        | some rep => return rep
        | none => factory.makeRepresentation cls)
      (fun rep world => world.Working thread factory again depth fresh False ∧
        world.Promised factory cls rep)
      (fun _ world => world.Working thread factory again depth fresh False) := by
  have steady : Steady thread factory (Open · cls) := (persistent_open cls).steady
  refine bind (look steady (fun classes => ((Persistent.const
      (classes.Nodup ∧ classes.head? = some cls)).and (persistent_chain classes)).steady) ?_)
    fun classes => ?_
  · intro now valid opened
    refine ⟨⟨Hierarchy.nodup_lineage _ _, ?_⟩, valid.chain opened⟩
    rw [Hierarchy.lineage_eq]
    rfl
  refine (assume fun (fact : classes.Nodup ∧ classes.head? = some cls) => ?_).given
    fun world _ holds => (⟨holds.2.2.1, holds.1, holds.2.2.2, holds.2.1⟩ :
      _ ∧ world.Working thread factory again depth fresh False ∧ world.Chain classes ∧
        world.Open cls)
  refine bind (((inherited (fun _ => False) classes fact.1 fun _ _ => id).keeping
    (persistent_open cls)).weaken (fun _ _ holds =>
      ⟨⟨holds.1, holds.2.1, fun _ no => no.elim⟩, holds.2.2⟩) (fun _ _ _ holds => holds)
    fun _ _ _ failed => failed.1) fun found => ?_
  cases found with
  | some rep =>
      apply pure steady_promised.lasting
      rintro world - ⟨⟨working, -, found⟩, -⟩
      obtain ⟨first, head, promised, -⟩ := found rep rfl
      cases fact.2.symm.trans head
      exact ⟨working, promised⟩
  | none => exact makeRepresentation.given fun _ _ holds => ⟨holds.1.1, holds.2⟩

/-- A factory that is asked for a class settles it. -/
theorem findOrCreate :
    Serves (σ := σ) thread call
      (fun world => world.Idle thread ∧ world.Complete factory ∧ world.Open cls)
      (factory.findOrCreate cls)
      (fun rep world => world.Idle thread ∧ world.Settled factory cls rep)
      (fun _ world => world.Idle thread) := by
  have named : Persistent fun world => world.Complete factory ∧ world.Open cls :=
    (persistent_complete factory).and (persistent_open cls)
  have opened : Persistent (Open · cls) := persistent_open cls
  refine bind ((ensureInitialised named).weaken (fun _ _ holds => holds) (fun _ _ _ holds => holds)
    fun _ _ _ failed => failed.1) fun _ => ?_
  refine (locked (fun rep world => world.Settled factory cls rep) (fun _ _ => True) opened
    (persistent_settled factory cls) (fun _ => Persistent.const _) ?_).weaken
    (fun _ _ holds => holds) (fun _ _ _ holds => holds) fun _ _ _ failed => failed.1
  have empty : Steady thread factory fun world =>
      (world.factory factory).workshop = {} ∧ world.Open cls :=
    (steady_factory fun current => current.workshop = {}).and opened.steady
  refine bind ((published empty (Persistent.const True).steady fun _ _ _ _ => trivial).given
    fun world _ holds => ⟨holds.1.working, holds.1.empty, holds.2⟩) fun found => ?_
  cases found with
  | some rep =>
      apply pure (persistent_settled factory cls rep).ready
      exact fun world _ holds =>
        ⟨⟨holds.1, holds.2.1.1⟩, holds.1.complete.1, holds.2.2.1⟩
  | none =>
      refine bind ((begin opened.steady opened.indifferent).given
        fun _ _ holds => ⟨holds.1, holds.2.1.2⟩) fun _ => ?_
      refine (conclude False (fun rep (_ : Unit) named bound => named = cls ∧ bound = rep)
        (fun _ _ _ => True) (fun _ _ => Persistent.const _) ?_).weaken (fun _ _ holds => holds) ?_
        fun _ _ _ failed => ⟨failed.1, trivial⟩
      · apply bind (glance opened.steady.lasting)
        intro depth
        apply bind (quietly (Action.mild_record _) opened.steady.lasting)
        intro _
        exact inheritOrMake.weaken (fun _ _ holds => holds)
          (fun rep world _ holds => ⟨holds.1, (), trivial, by
            rintro _ _ ⟨rfl, rfl⟩
            exact holds.2⟩)
          fun _ _ _ failed => ⟨failed, id⟩
      · rintro rep world - ⟨ready, -, -, bound⟩
        exact ⟨ready, ready.working.complete.1, bound cls rep ⟨rfl, rfl⟩⟩

end Serves

/-! ## Registries -/

namespace World

variable {world : World}

/-- Everybody may use the registry: it belongs to no factory in the making. -/
structure Usable (world : World) (registry : RegistryId) : Prop where
  made : registry.index < world.registryCount
  turns : forall factory, world.escalation registry = .factory factory -> world.Complete factory

/-- A registry that everybody may use stays so. -/
theorem persistent_usable (registry : RegistryId) : Persistent (Usable · registry) := by
  rintro before after - grows ⟨made, turns⟩
  refine ⟨Nat.lt_of_lt_of_le made grows.registries, fun factory escalation => ?_⟩
  exact grows.complete (turns factory ((grows.escalations registry factory made).mp escalation))

/-- A binding stays. -/
theorem persistent_bindings (registry : RegistryId) (cls : ClassId) (rep : Representation) :
    Persistent fun world => world.bindings registry cls = some rep :=
  fun _ _ _ grows bound => grows.bindings _ _ _ bound

/-- What an escalation found may be published: a factory that the registry turns to has
published it itself. -/
structure Offered (world : World) (registry : RegistryId) (cls : ClassId) (rep : Representation) :
    Prop where
  made : registry.index < world.registryCount
  opened : world.Open cls
  settled : forall factory, world.escalation registry = .factory factory ->
    world.Settled factory cls rep

/-- What an escalation offers goes on to be offered. -/
theorem persistent_offered (registry : RegistryId) (cls : ClassId) (rep : Representation) :
    Persistent (Offered · registry cls rep) := by
  rintro before after valid grows ⟨made, opened, settled⟩
  refine ⟨Nat.lt_of_lt_of_le made grows.registries, grows.opens valid opened,
    fun factory turns => ?_⟩
  exact persistent_settled factory cls rep valid grows
    (settled factory ((grows.escalations registry factory made).mp turns))

/-- Nothing is offered to the registry of a factory that it does not hold. -/
theorem Offered.bound (offered : world.Offered registry cls rep) (valid : world.Valid)
    (founded : factory.index < world.factoryCount)
    (own : (world.factory factory).registry = registry) :
    world.bindings registry cls = some rep := by
  have turns := (valid.founded factory founded).2
  subst own
  exact (offered.settled factory turns).2

/-- What is offered for an unbound class may be bound. -/
theorem Offered.binds (offered : world.Offered registry cls rep) (valid : world.Valid)
    (unbound : world.bindings registry cls = none) (thread : ThreadId) :
    world.Binds thread registry (extended (world.bindings registry) cls rep) where
  made := offered.made
  kept := by
    intro other bound found
    refine (if_neg ?_).trans found
    rintro rfl
    cases unbound.symm.trans found
  opened := by
    intro other before bound
    by_cases same : other = cls
    · exact .inl (same ▸ offered.opened)
    · have unchanged : extended (world.bindings registry) cls rep other = none :=
        (if_neg same).trans before
      rw [unchanged] at bound
      cases bound
  confirmed := by
    intro other bound before found
    by_cases same : other = cls
    · obtain rfl : rep = bound := Option.some.inj ((if_pos same).symm.trans found)
      subst same
      exact .inr fun factory turns =>
        ⟨(offered.settled factory turns).1, .inl (offered.settled factory turns).2⟩
    · cases before.symm.trans ((if_neg same).symm.trans found)
  governed := by
    intro factory founded own
    cases unbound.symm.trans (offered.bound valid founded own)
  unchanged := by
    intro factory complete own
    cases unbound.symm.trans (offered.bound valid complete.1 own)

/-- What the registry turns to, as far as factories are concerned. -/
def Turns (world : World) (registry : RegistryId) (escalation : Escalation) : Prop :=
  registry.index < world.registryCount ∧
    forall factory, world.escalation registry = .factory factory ↔ escalation = .factory factory

/-- What a registry turns to stays the same, or is lost. -/
theorem persistent_turns (registry : RegistryId) (escalation : Escalation) :
    Persistent (Turns · registry escalation) :=
  fun _ _ _ grows turns => ⟨Nat.lt_of_lt_of_le turns.1 grows.registries, fun factory =>
    (grows.escalations registry factory turns.1).trans (turns.2 factory)⟩

end World

namespace Serves

/-- Publishing what an escalation found. What was published first stays. -/
theorem publish :
    Serves (σ := σ) thread call
      (fun world => world.Idle thread ∧ world.Offered registry cls rep)
      (registry.step (.publish cls rep))
      (fun rep world => world.Idle thread ∧ world.bindings registry cls = some rep)
      (fun _ world => world.Idle thread) := by
  refine registryStep (lasting_idle.and (persistent_offered registry cls rep).lasting)
    (fun rep => lasting_idle.and (persistent_bindings registry cls rep).lasting) ?_
  rintro now answer store valid ⟨idle, offered⟩ performed
  obtain ⟨rfl, rfl⟩ := perform_registry performed
  cases bound : (now.store.registry registry).lookup cls with
  | some existing =>
      simp only [Registry.Step.perform, bound]
      rw [world_readRegistry offered.made rfl rfl]
      exact ⟨⟨valid, .refl _ _⟩, idle, bound⟩
  | none =>
      simp only [Registry.Step.perform, bound]
      have lookup : ((now.store.registry registry).bind cls rep).lookup =
          extended (now.world.bindings registry) cls rep := by
        funext other
        rw [Registry.lookup_bind]
        unfold extended
        simp only [eq_comm]
        rfl
      rw [world_bindRegistry offered.made (by rfl), lookup]
      refine ⟨valid.changeBindings (offered.binds valid bound thread), idle, ?_⟩
      exact (congrFun (if_pos rfl) cls).trans (if_pos rfl)

/-- What an escalation finds is offered to the registry. -/
theorem escalate :
    Serves (σ := σ) thread call
      (fun world => world.Idle thread ∧ world.Usable registry ∧ world.Open cls)
      (registry.escalate cls)
      (fun rep world => world.Idle thread ∧ world.Offered registry cls rep)
      (fun _ world => world.Idle thread) := by
  have known : forall escalation : Escalation, Persistent fun world =>
      (world.Usable registry ∧ world.Open cls) ∧ world.Turns registry escalation :=
    fun escalation => ((persistent_usable registry).and (persistent_open cls)).and
      (persistent_turns registry escalation)
  have idle : forall escalation : Escalation, Lasting thread fun world => world.Idle thread ∧
      (world.Usable registry ∧ world.Open cls) ∧ world.Turns registry escalation :=
    fun escalation => lasting_idle.and (known escalation).lasting
  refine bind (observe (lasting_idle.and ((persistent_usable registry).and
    (persistent_open cls)).lasting) idle fun now _ holds =>
      ⟨holds.1, holds.2, holds.2.1.made, fun factory => Iff.rfl⟩) fun escalation => ?_
  cases escalation with
  | none => exact throw lasting_idle fun _ _ holds => holds.1
  | gone => exact throw lasting_idle fun _ _ holds => holds.1
  | factory factory =>
      refine (findOrCreate.keeping (known (.factory factory))).weaken ?_ ?_
        fun _ _ _ failed => failed.1
      · rintro world - ⟨idle, ⟨usable, opened⟩, turns⟩
        exact ⟨⟨idle, usable.turns factory ((turns.2 factory).mpr rfl), opened⟩,
          ⟨usable, opened⟩, turns⟩
      · rintro rep world - ⟨⟨idle, settled⟩, ⟨usable, opened⟩, turns⟩
        refine ⟨idle, usable.made, opened, fun other same => ?_⟩
        cases (turns.2 other).mp same
        exact settled
  | foreign code =>
      refine Discipline.Meets.escalate (idle (.foreign code)).stable
        (fun rep => (lasting_idle.and (persistent_offered registry cls rep).lasting).stable)
        (fun _ => lasting_idle.stable) (fun _ _ holds => holds.1) ?_
      intro now later outcome valid holds passes _
      obtain ⟨⟨usable, opened⟩, turns⟩ := (known (.foreign code)).onward passes.onward holds.2
      cases outcome with
      | error fault => exact passes.idle
      | ok rep =>
          refine ⟨passes.idle, usable.made, opened, fun factory same => ?_⟩
          cases (turns.2 factory).mp same

/-- A class is resolved to what the registry binds it to. -/
theorem resolve :
    Serves (σ := σ) thread call
      (fun world => world.Idle thread ∧ world.Usable registry ∧ world.Open cls)
      (registry.resolve cls)
      (fun rep world => world.Idle thread ∧ world.bindings registry cls = some rep)
      (fun _ world => world.Idle thread) := by
  have known : Persistent fun world => world.Usable registry ∧ world.Open cls :=
    (persistent_usable registry).and (persistent_open cls)
  have idle : Lasting thread fun world =>
      world.Idle thread ∧ world.Usable registry ∧ world.Open cls := lasting_idle.and known.lasting
  have looked : forall {step : Registry.Step (Option Representation)}, step.Looks cls ->
      Serves (σ := σ) thread call
        (fun world => world.Idle thread ∧ world.Usable registry ∧ world.Open cls)
        (registry.step step)
        (fun found world => (world.Idle thread ∧ world.Usable registry ∧ world.Open cls) ∧
          forall rep, found = some rep -> world.bindings registry cls = some rep)
        (fun _ world => world.Idle thread) := by
    intro step looks
    refine lookup looks idle (fun found => ?_) ?_
    · rintro mover before after different valid allowed ⟨holds, bound⟩
      exact ⟨idle different valid allowed holds, fun rep same =>
        allowed.moves.bindings _ _ _ (bound rep same)⟩
    · exact fun world _ holds => ⟨holds.2.1.made, holds, fun rep bound => bound⟩
  have answer : forall rep, Serves (σ := σ) thread call
      (fun world => (world.Idle thread ∧ world.Usable registry ∧ world.Open cls) ∧
        forall other, some rep = some other -> world.bindings registry cls = some other)
      (Pure.pure rep) (fun rep world => world.Idle thread ∧ world.bindings registry cls = some rep)
      (fun _ world => world.Idle thread) :=
    fun rep => pure (lasting_idle.and (persistent_bindings registry cls rep).lasting)
      fun _ _ holds => ⟨holds.1.1, holds.2 rep rfl⟩
  apply bind (looked (Registry.Step.looks_firstLookup cls))
  intro found
  cases found with
  | some rep => exact answer rep
  | none =>
      refine bind ((ensureInitialised known).weaken (fun _ _ holds => holds.1)
        (fun _ _ _ holds => holds) fun _ _ _ failed => failed.1) fun _ => ?_
      apply bind (looked (Registry.Step.looks_secondLookup cls))
      intro found
      cases found with
      | some rep => exact answer rep
      | none =>
          exact bind (escalate.given fun _ _ holds => holds.1) fun rep => publish

/-- The class of a value is resolved as any other. -/
theorem resolveValue {value : Value} :
    Serves (σ := σ) thread call
      (fun world => world.Idle thread ∧ world.Usable registry)
      (registry.resolveValue value)
      (fun _ world => world.Idle thread) (fun _ world => world.Idle thread) := by
  refine bind (observe (lasting_idle.and (persistent_usable registry).lasting)
    (fun cls => lasting_idle.and ((persistent_usable registry).and (persistent_open cls)).lasting)
    ?_) fun cls => resolve.weaken (fun _ _ holds => holds) (fun _ _ _ holds => holds.1)
      fun _ _ _ failed => failed
  intro now valid holds
  refine ⟨holds.1, holds.2, ?_⟩
  cases value with
  | object id => exact valid.objects id
  | int32 _ => exact valid.builtins Builtin.int32 (by decide)
  | int64 _ => exact valid.builtins Builtin.int64 (by decide)
  | float64 _ => exact valid.builtins Builtin.float64 (by decide)
  | bool _ => exact valid.builtins Builtin.bool (by decide)
  | text _ => exact valid.builtins Builtin.text (by decide)
  | typeObject _ => exact valid.builtins Builtin.typeClass (by decide)

/-- The type of a value is that of its representation. -/
theorem typeOf {value : Value} :
    Serves (σ := σ) thread call
      (fun world => world.Idle thread ∧ world.Usable registry)
      (registry.typeOf value)
      (fun _ world => world.Idle thread) (fun _ world => world.Idle thread) := by
  refine bind resolveValue fun rep => Request.Mild.serves ?_ lasting_idle
  unfold Representation.typeOf
  cases rep.fixedType with
  | some type => exact .pure type
  | none =>
      refine .bind (.observe _) fun found => ?_
      cases found with
      | some type => exact .pure type
      | none => exact .bind (.observe _) fun fault => .throw fault

/-! ## Batches -/

/-- A batch is bound as a whole, or refused. -/
theorem registerAll {bindings : List (ClassId × Representation)} (persistent : Persistent known)
    (binds : forall world, world.Valid -> known world -> registry.index < world.registryCount ∧
      ((forall binding, binding ∈ bindings -> world.bindings registry binding.1 = none) ->
        world.Binds thread registry (Registry.batch (world.bindings registry) bindings))) :
    Serves (σ := σ) thread call
      (fun world => world.Idle thread ∧ known world)
      (registry.registerAll bindings)
      (fun _ world => world.Idle thread ∧ known world)
      (fun _ world => world.Idle thread ∧ known world) := by
  have lasting : Lasting thread fun world => world.Idle thread ∧ known world :=
    lasting_idle.and persistent.lasting
  refine bind (registryStep lasting (fun _ => lasting) ?_) fun refused => ?_
  · rintro now answer store valid ⟨idle, holds⟩ performed
    obtain ⟨made, binds⟩ := binds now.world valid holds
    obtain ⟨rfl, rfl⟩ := perform_registry performed
    cases clashes : (now.store.registry registry).clash? bindings with
    | some clash =>
        simp only [Registry.Step.perform, clashes]
        rw [world_readRegistry made rfl rfl]
        exact ⟨⟨valid, .refl _ _⟩, idle, holds⟩
    | none =>
        simp only [Registry.Step.perform, clashes]
        rw [world_bindRegistry made (Registry.escalation_bindAll _ _), Registry.lookup_batch]
        have allowed := valid.changeBindings (binds (Registry.clash?_eq_none.mp clashes))
        exact ⟨allowed, idle, persistent valid allowed.moves.toGrows holds⟩
  · cases refused with
    | none => exact pure lasting fun _ _ holds => holds
    | some binding => exact clash _ lasting

end Serves

end GuestTypes
