import GuestTypes.Proofs.Founding
import GuestTypes.Proofs.Instances

/-!
# Every call under the rules

Each request that host code may ask for keeps to the rules when it is asked for with what host
code may name, and leaves the thread able to answer.
-/

namespace GuestTypes

open World

variable {σ : Type} {thread : ThreadId} {number : Nat} {call : Call}

namespace World

variable {world before after : World}

/-- Whatever the call names may be used in it. -/
structure Entitled (world : World) (call : Call) : Prop where
  classes : forall cls, cls ∈ call.classes -> world.Open cls
  instantiated : forall type, call.instantiated = some type ->
    world.types.Made type ∧ world.Open (world.types.row type).primary
  factory : forall factory, call.factory? = some factory -> world.Complete factory
  registry : forall registry, call.registry? = some registry -> world.Usable registry
  asked : exists record, record ∈ world.calls ∧ record.call = call

/-- What a call names may be used at any later moment. -/
theorem persistent_entitled (call : Call) : Persistent (Entitled · call) := by
  rintro before after valid grows ⟨classes, instantiated, factory, registry, record, member, same⟩
  refine ⟨fun cls named => grows.opens valid (classes cls named), fun type named => ?_,
    fun id named => grows.complete (factory id named),
    fun id named => persistent_usable id valid grows (registry id named), ?_⟩
  · obtain ⟨made, primary⟩ := instantiated type named
    rw [grows.types.row type made]
    exact ⟨grows.types.made made, grows.opens valid primary⟩
  · obtain ⟨position, found⟩ := List.mem_iff_getElem?.mp member
    obtain ⟨later, still, kept, -⟩ := grows.calls position record found
    exact ⟨later, List.mem_iff_getElem?.mpr ⟨position, still⟩, kept.trans same⟩

/-- The thread may answer its call with an outcome. -/
structure Answers (world : World) (thread : ThreadId) (number : Nat) (call : Call)
    (outcome : Except Fault call.Answer) : Prop where
  calling : world.Calling thread number call
  served : world.Served { call, answer := some outcome }
  derived : world.Derived number { call, answer := some outcome }
  made : forall cls factory, world.maker cls = some (factory, number) ->
    world.MadeBy factory cls { call, answer := some outcome }

/-- A fault promises nothing. -/
theorem served_error (world : World) (call : Call) (fault : Fault) :
    world.Served { call, answer := some (.error fault) } := by
  cases call with
  | makeRegistry escalation => cases escalation <;> trivial
  | _ => trivial

/-- A fault is derived from nothing. -/
theorem derived_error (world : World) (number : Nat) (call : Call) (fault : Fault) :
    world.Derived number { call, answer := some (.error fault) } := by
  cases call <;> trivial

/-- What is answered to a call that defines no guest class is derived from nothing. -/
theorem derived_undefining (world : World) (number : Nat)
    (undefining : forall factory, call.definesWith factory = false)
    (outcome : Except Fault call.Answer) :
    world.Derived number { call, answer := some outcome } := by
  cases call with
  | defineClass factory name bases slots dict =>
      cases (beq_self_eq_true factory).symm.trans (undefining factory)
  | _ => trivial

/-- A call that owns no class may be answered with what was achieved. -/
theorem Owing.answers {outcome : Except Fault call.Answer}
    (owing : world.Owing thread number call none)
    (served : world.Served { call, answer := some outcome })
    (derived : world.Derived number { call, answer := some outcome }) :
    world.Answers thread number call outcome where
  calling := owing.toCalling
  served := served
  derived := derived
  made := fun cls factory is => nomatch owing.alone factory cls is

/-- A call that owns no class may be answered with a fault. -/
theorem Owing.refuses (owing : world.Owing thread number call none) (fault : Fault) :
    world.Answers thread number call (.error fault) :=
  owing.answers (world.served_error call fault) (world.derived_error number call fault)

end World

namespace Serves

/-- What a request achieves for its call, when it does nothing on behalf of it. -/
theorem answer (undefining : forall factory, call.definesWith factory = false)
    (serves : Serves (σ := σ) thread none
      (fun world => world.Idle thread ∧ world.Entitled call) call.request
      (fun answer world => world.Idle thread ∧
        world.Served { call, answer := some (.ok answer) })
      (fun _ world => world.Idle thread)) :
    Serves (σ := σ) thread (some number)
      (fun world => (world.Idle thread ∧ world.Entitled call) ∧
        world.Owing thread number call none) call.request
      (fun answer world => world.Idle thread ∧ world.Answers thread number call (.ok answer))
      (fun fault world => world.Idle thread ∧ world.Answers thread number call (.error fault)) :=
  serves.owing.weaken (fun _ _ holds => holds)
    (fun _ world _ holds =>
      ⟨holds.1.1, holds.2.answers holds.1.2 (world.derived_undefining number undefining _)⟩)
    fun fault _ _ failed => ⟨failed.1, failed.2.refuses fault⟩

section

variable {α : Type} {request : Request (Clients σ) α}

/-- A request that leaves the thread idle, for a call that allows what it needs. -/
theorem idly {needs : World -> Prop}
    (serves : Serves thread none (fun world => world.Idle thread ∧ needs world) request
      (fun _ world => world.Idle thread) (fun _ world => world.Idle thread))
    (allowed : forall world, world.Entitled call -> needs world) :
    Serves thread none (fun world => world.Idle thread ∧ world.Entitled call) request
      (fun _ world => world.Idle thread ∧ True) (fun _ world => world.Idle thread) :=
  serves.weaken (fun world _ holds => ⟨holds.1, allowed world holds.2⟩)
    (fun _ _ _ idle => ⟨idle, trivial⟩) fun _ _ _ idle => idle

/-- A mild request leaves the thread idle. -/
theorem mildly (mild : request.Mild) :
    Serves thread none (fun world => world.Idle thread ∧ world.Entitled call) request
      (fun _ world => world.Idle thread ∧ True) (fun _ world => world.Idle thread) :=
  idly ((mild.serves lasting_idle).given fun _ _ holds => holds.1)
    fun _ (_ : _) => trivial

end

/-- A registry is made on behalf of host code. -/
theorem makeRegistry {escalation : Escalation} :
    Serves (σ := σ) thread none (fun world => world.Idle thread)
      (Request.perform (.addRegistry escalation))
      (fun registry world => world.Idle thread ∧ world.Turns registry escalation)
      (fun _ world => world.Idle thread) := by
  apply perform lasting_idle
    (fun registry => lasting_idle.and (persistent_turns registry escalation).lasting)
  rintro now answer store valid idle performed
  cases performed
  rw [world_addRegistry valid]
  refine ⟨valid.addRegistry escalation, idle, Nat.lt_succ_self _, fun factory => ?_⟩
  exact (congrArg (· = _) (if_pos rfl)).to_iff

/-- What a registry turns to may be lost at any time. -/
theorem loseEscalation {registry : RegistryId} :
    Serves (σ := σ) thread none
      (fun world => world.Idle thread ∧ world.Usable registry)
      (Request.perform (.registry registry .loseEscalation)) (fun _ world => world.Idle thread)
      (fun _ world => world.Idle thread) := by
  apply perform (lasting_idle.and (persistent_usable registry).lasting) (fun _ => lasting_idle)
  rintro now answer store valid ⟨idle, usable⟩ performed
  obtain ⟨rfl, rfl⟩ := perform_registry performed
  cases turns : (now.store.registry registry).escalation with
  | none | factory _ | gone =>
      simp only [Registry.Step.perform, turns]
      rw [world_readRegistry usable.made rfl rfl]
      exact ⟨⟨valid, .refl _ _⟩, idle⟩
  | foreign code =>
      simp only [Registry.Step.perform, turns]
      have allowed : Allows thread now.world _ := valid.loseEscalation turns
      rw [world_setRegistry usable.made]
      show Allows thread now.world { now.world with
        bindings := fun other => if other = registry then (now.store.registry registry).lookup
          else now.world.bindings other
        escalation := _ } ∧ _
      rw [bindings_same]
      exact ⟨allowed, idle⟩

/-- Host code binds classes directly. The history tells of it, so no factory of that registry is
sealed. -/
theorem registerDirectly {registry : RegistryId} {bindings : List (ClassId × Representation)}
    (direct : call.registersIn registry = true) (named : call.registry? = some registry)
    (classes : bindings.map (·.1) = call.classes) :
    Serves (σ := σ) thread none
      (fun world => world.Idle thread ∧ world.Entitled call)
      (registry.registerAll bindings)
      (fun _ world => world.Idle thread ∧ True) (fun _ world => world.Idle thread) := by
  refine (registerAll (persistent_entitled call) ?_).weaken (fun _ _ holds => holds)
    (fun _ _ _ holds => ⟨holds.1, trivial⟩) fun _ _ _ failed => failed.1
  intro world valid entitled
  have usable := entitled.registry registry named
  obtain ⟨record, member, asked⟩ := entitled.asked
  have unsealed : forall factory, (world.factory factory).registry = registry ->
      ¬ world.Sealed factory := by
    intro factory own sealed
    have indirect := sealed record member
    rw [own, asked, direct] at indirect
    cases indirect
  refine ⟨usable.made, fun unbound => {
    made := usable.made
    kept := fun _ _ bound => Registry.batch_bound unbound bound
    opened := ?_
    confirmed := fun _ _ _ _ => .inl ⟨record, member, asked ▸ direct⟩
    governed := fun factory _ own sealed => absurd sealed (unsealed factory own)
    unchanged := fun factory _ own sealed => absurd sealed (unsealed factory own) }⟩
  intro cls before bound
  unfold Registry.batch at bound
  rw [before, Option.or_none] at bound
  obtain ⟨rep, prepared⟩ := Option.isSome_iff_exists.mp bound
  have listed := List.mem_reverse.mp (Workshop.mem_of_prepared prepared)
  refine .inl (entitled.classes cls ?_)
  rw [← classes]
  exact List.mem_map.mpr ⟨_, listed, rfl⟩

/-- A definition answers with a type of the class that was declared on behalf of it. -/
theorem answerDefining {factory : FactoryId} (defines : call.definesWith factory = true) :
    Serves (σ := σ) thread (some number)
      (fun world => (world.Idle thread ∧ world.Entitled call) ∧
        world.Owing thread number call none) call.request
      (fun answer world => world.Idle thread ∧ world.Answers thread number call (.ok answer))
      (fun fault world => world.Idle thread ∧ world.Answers thread number call (.error fault)) := by
  cases call with
  | defineClass used name bases slots dict =>
      obtain rfl : used = factory := eq_of_beq defines
      refine (defineClass defines).weaken
        (fun _ _ holds => ⟨⟨holds.1.1, holds.1.2.factory used rfl⟩, holds.2⟩) ?_
        fun fault _ _ failed => ⟨failed.1, failed.2.refuses fault⟩
      rintro type world - ⟨spec, ⟨cls, fresh⟩, ⟨⟨idle, ⟨defined, primary, kept⟩, last⟩, owing⟩,
        root, drafts⟩
      refine ⟨idle, owing.toCalling, defined, ⟨root, spec, drafts, primary ▸ kept⟩,
        fun own maker is => ?_⟩
      obtain ⟨owned, some, same⟩ := Option.map_eq_some_iff.mp (owing.alone maker own is)
      cases same
      refine ⟨defines, fun _ => ⟨type, if_pos rfl, defined.made, ?_⟩⟩
      rcases last with none | only
      · cases none.symm.trans some
      · cases only.symm.trans some
        exact primary
  | _ => cases defines

/-- Every call that defines no guest class leaves its thread idle, and achieves what was asked. -/
theorem achieve (call : Call) (undefining : forall factory, call.definesWith factory = false) :
    Serves (σ := σ) thread none (fun world => world.Idle thread ∧ world.Entitled call) call.request
      (fun answer world => world.Idle thread ∧ world.Served { call, answer := some (.ok answer) })
      (fun _ world => world.Idle thread) := by
  cases call with
  | declare row =>
      refine (declare { row with layout := none } nofun).given ?_
      rintro world valid ⟨idle, entitled⟩
      refine ⟨idle, ?_⟩
      cases chosen : row.superclass with
      | none => exact valid.builtins Builtin.object (by decide)
      | some super =>
          refine entitled.classes super (List.mem_append_left _ ?_)
          rw [chosen]
          exact List.mem_singleton.mpr rfl
  | ensureInitialised cls =>
      exact (ensureInitialised (Persistent.const True)).weaken
        (fun _ _ holds => ⟨holds.1, trivial⟩) (fun _ _ _ holds => holds)
        fun _ _ _ failed => failed.1
  | makeRegistry escalation =>
      refine makeRegistry.weaken (fun _ _ holds => holds.1) ?_ fun _ _ _ idle => idle
      rintro registry world - ⟨idle, made, turns⟩
      cases escalation with
      | factory factory => exact ⟨idle, made, (turns factory).mpr rfl⟩
      | none | foreign _ | gone => exact ⟨idle, trivial⟩
  | loseEscalation registry =>
      exact idly loseEscalation fun _ entitled => entitled.registry registry rfl
  | lookup registry cls =>
      refine lookup (Registry.Step.looks_lookup cls)
        (lasting_idle.and (persistent_entitled _).lasting)
        (fun _ => lasting_idle.and (Persistent.const True).lasting) ?_
      exact fun world _ holds => ⟨(holds.2.registry registry rfl).made, holds.1, trivial⟩
  | resolve registry cls =>
      exact resolve.given fun _ _ holds =>
        ⟨holds.1, holds.2.registry registry rfl, holds.2.classes cls List.mem_cons_self⟩
  | resolveValue registry value =>
      exact idly resolveValue fun _ entitled => entitled.registry registry rfl
  | typeOf registry value => exact idly typeOf fun _ entitled => entitled.registry registry rfl
  | register registry cls rep => exact registerDirectly (beq_self_eq_true registry) rfl rfl
  | registerAll registry bindings => exact registerDirectly (beq_self_eq_true registry) rfl rfl
  | makeFactory config =>
      exact makeFactory.weaken (fun _ _ holds => holds.1) (fun _ _ _ idle => ⟨idle, trivial⟩)
        fun _ _ _ idle => idle
  | create factory wanted =>
      refine create.given fun world _ ⟨idle, entitled⟩ =>
        ⟨idle, entitled.factory factory rfl, fun cls member => entitled.classes cls ?_⟩
      exact List.mem_append_left wanted.accepted member
  | find factory cls =>
      refine find.weaken (fun _ _ holds => ⟨holds.1, holds.2.factory factory rfl⟩) ?_
        fun _ _ _ idle => idle
      rintro found world - ⟨idle, bound⟩
      cases found with
      | none => exact ⟨idle, trivial⟩
      | some rep => exact ⟨idle, bound rep rfl⟩
  | findOrCreate factory cls =>
      exact findOrCreate.given fun _ _ holds =>
        ⟨holds.1, holds.2.factory factory rfl, holds.2.classes cls List.mem_cons_self⟩
  | defineClass factory name bases slots dict =>
      cases (beq_self_eq_true factory).symm.trans (undefining factory)
  | newInstance type => exact idly newInstance fun _ entitled => entitled.instantiated type rfl
  | makeSynthesizer config => exact mildly mild_makeSynthesizer
  | uniqueName synthesizer base => exact mildly mild_uniqueName
  | synthesize synthesizer spec =>
      refine (synthesize (lasting_idle.and (persistent_named spec).lasting)
        fun name layout source => declareRealised name source).weaken ?_ (fun _ _ _ holds => holds)
        fun _ _ _ failed => failed.1
      exact fun world _ holds => ⟨holds.1, holds.2.classes spec.base List.mem_cons_self,
        fun iface member => holds.2.classes iface (List.mem_cons_of_mem _ member)⟩
  | redirect synthesizer directory =>
      exact mildly (.perform (Action.mild_synthesizer synthesizer _))
  | makeLoader => exact mildly (.perform Action.mild_addLoader)
  | defineBody loader body =>
      refine (define (lasting_idle.and (persistent_open body.base).lasting)
        fun layout source => declare (LoaderId.hostClass body layout)
          (ClassBody.lawful_hostClass source)).weaken ?_ (fun _ _ _ holds => holds)
        fun _ _ _ failed => failed.1
      exact fun world _ holds => ⟨holds.1, holds.2.classes body.base List.mem_cons_self⟩
  | allocate object =>
      refine (allocate (persistent_entitled (.allocate object)) ?_).weaken
        (fun _ _ holds => holds) (fun _ _ _ holds => ⟨holds.1, trivial⟩) fun _ _ _ failed => failed
      exact fun world _ entitled => entitled.classes object.hostClass List.mem_cons_self
  | makeObject cls type =>
      exact idly makeObject fun _ entitled => entitled.classes cls List.mem_cons_self
  | slot object name => exact mildly ObjectId.mild_slot
  | setSlot object name value => exact mildly ObjectId.mild_setSlot
  | deleteSlot object name => exact mildly ObjectId.mild_deleteSlot
  | setType object type => exact mildly ObjectId.mild_setType
  | setDict object dict => exact mildly ObjectId.mild_setDict
  | exchangeEntry object name value =>
      exact mildly (.perform (Action.mild_exchangeEntry object name value))

/-- Every call leaves its thread idle and able to answer. -/
theorem request (call : Call) :
    Serves (σ := σ) thread (some number)
      (fun world => (world.Idle thread ∧ world.Entitled call) ∧
        world.Owing thread number call none) call.request
      (fun answer world => world.Idle thread ∧ world.Answers thread number call (.ok answer))
      (fun fault world => world.Idle thread ∧ world.Answers thread number call (.error fault)) := by
  by_cases defines : exists factory, call.definesWith factory = true
  · obtain ⟨factory, defines⟩ := defines
    exact answerDefining defines
  · have undefining : forall factory, call.definesWith factory = false := fun factory =>
      Bool.eq_false_iff.mpr fun used => defines ⟨factory, used⟩
    exact answer undefining (achieve call undefining)

end Serves

end GuestTypes
