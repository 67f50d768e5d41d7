import GuestTypes.Proofs.Calls
import GuestTypes.Proofs.CreationOutcome

/-!
# Registering a batch

A batch of bindings is registered as a whole: if one of its classes is bound already then
nothing is bound, and otherwise everything is. The classes of a batch are compared with what is
bound before it and not with each other, so of two bindings that it lists for one class the last
one is kept. Whoever registers the same bindings one after another is refused at the second of
the two. For classes that are all different there is no difference.
-/

namespace GuestTypes

variable {σ : Type} {thread : ThreadId} {registry : RegistryId}
  {chosen : List (ClassId × Representation)} {cls : ClassId} {rep : Representation}

/-- Bind classes one after another, up to the first that is bound already. -/
def RegistryId.registerEach (registry : RegistryId) :
    List (ClassId × Representation) -> Request σ Unit
  | [] => return ()
  | (cls, rep) :: rest => do
      registry.register cls rep
      registry.registerEach rest

/-! ## Batches of bindings -/

namespace Registry

variable {bound : ClassId -> Option Representation}

/-- The representation that a batch lists for a class, the last one if there are several. -/
def Lists (chosen : List (ClassId × Representation)) (cls : ClassId) (rep : Representation) :
    Prop :=
  exists earlier later, chosen = earlier ++ (cls, rep) :: later ∧ cls ∉ later.map (·.1)

/-- One batch after another binds what both together bind. -/
theorem batch_append (bound : ClassId -> Option Representation)
    (first last : List (ClassId × Representation)) :
    batch (batch bound first) last = batch bound (first ++ last) := by
  funext cls
  unfold batch Workshop.prepared
  simp only [List.reverse_append, List.find?_append]
  cases last.reverse.find? (·.1 == cls) <;> rfl

/-- A batch of one binding binds its class. -/
theorem batch_singleton (bound : ClassId -> Option Representation) (cls : ClassId)
    (rep : Representation) : batch bound [(cls, rep)] cls = some rep :=
  batch_chosen (List.nodup_singleton _) List.mem_cons_self

/-- A batch of one binding leaves unbound what was unbound, but for its class. -/
theorem batch_singleton_eq_none {other : ClassId} :
    batch bound [(cls, rep)] other = none ↔ other ≠ cls ∧ bound other = none := by
  by_cases same : other = cls
  · rw [same, batch_singleton]
    simp
  · rw [batch_absent (by simpa using same)]
    simp [same]

/-- The last binding that a batch lists for a class is the one that is found. -/
theorem batch_lists (lists : Lists chosen cls rep) : batch bound chosen cls = some rep := by
  obtain ⟨earlier, later, rfl, last⟩ := lists
  rw [List.append_cons, ← batch_append, batch_absent last, ← batch_append]
  exact batch_singleton _ cls rep

/-- Every binding of a batch is the last one for its class if the classes are all different. -/
theorem lists_of_mem (distinct : (chosen.map (·.1)).Nodup) (member : (cls, rep) ∈ chosen) :
    Lists chosen cls rep := by
  obtain ⟨earlier, later, rfl⟩ := List.append_of_mem member
  refine ⟨earlier, later, rfl, ?_⟩
  rw [List.map_append, List.map_cons] at distinct
  exact (List.nodup_cons.mp (List.nodup_append.mp distinct).2.1).1

/-- A clash is the first class of the batch that is bound. -/
theorem split_of_clash? {registry : Registry} {existing : Representation}
    (clash : registry.clash? chosen = some (cls, existing)) :
    exists earlier rep later, chosen = earlier ++ (cls, rep) :: later ∧
      (forall binding, binding ∈ earlier -> registry.lookup binding.1 = none) ∧
        registry.lookup cls = some existing := by
  obtain ⟨earlier, ⟨_, rep⟩, later, rfl, found, free⟩ := List.findSome?_eq_some_iff.mp clash
  obtain ⟨_, bound, same⟩ := Option.map_eq_some_iff.mp found
  cases same
  refine ⟨earlier, rep, later, rfl, fun binding member => ?_, bound⟩
  exact Option.map_eq_none_iff.mp (free binding member)

end Registry

/-! ## Registering at once -/

namespace Store

/-- What the registry binds classes to. -/
def bindingsOf (store : Store) (registry : RegistryId) : ClassId -> Option Representation :=
  (store.registry registry).lookup

/-- The bindings of the registry stay, and so do all types. -/
structure Preserves (registry : RegistryId) (before after : Store) : Prop where
  bindings : after.bindingsOf registry = before.bindingsOf registry
  types : before.types.Extends after.types

/-- The fault says that the class is bound. The text is that of its representation, in a store
with all types of the table. -/
def Bars (types : TypeTable) (bound : ClassId -> Option Representation) (cls : ClassId)
    (fault : Fault) : Prop :=
  exists (existing : Representation) (seen : Store), bound cls = some existing ∧
    types.Extends seen.types ∧
      fault = .clash { mode := .existing, cls, existing := some (seen.label existing) }

/-- What bars a class when all types are known barred it before. -/
theorem Bars.earlier {earlier types : TypeTable} {bound : ClassId -> Option Representation}
    {fault : Fault} (barred : Bars types bound cls fault) (grown : earlier.Extends types) :
    Bars earlier bound cls fault := by
  obtain ⟨existing, seen, found, further, same⟩ := barred
  exact ⟨existing, seen, found, grown.trans further, same⟩

/-- What comes of a batch. -/
inductive Registers (before : Store) (registry : RegistryId)
    (chosen : List (ClassId × Representation)) : Except Fault Unit -> Store -> Prop where
  | accepted {after : Store}
      (free : forall binding, binding ∈ chosen -> before.bindingsOf registry binding.1 = none)
      (bound : after.bindingsOf registry = Registry.batch (before.bindingsOf registry) chosen)
      (grown : before.types.Extends after.types) : Registers before registry chosen (.ok ()) after
  | refused {earlier later : List (ClassId × Representation)} {cls : ClassId}
      {rep : Representation} {fault : Fault} {after : Store}
      (split : chosen = earlier ++ (cls, rep) :: later)
      (free : forall binding, binding ∈ earlier -> before.bindingsOf registry binding.1 = none)
      (barred : Bars before.types (before.bindingsOf registry) cls fault)
      (kept : after.bindingsOf registry = before.bindingsOf registry) :
      Registers before registry chosen (.error fault) after

/-- What a step of a registry leaves of its own bindings. -/
theorem bindingsOf_accessed (store : Store) (thread : ThreadId) (registry : RegistryId)
    (step : Registry.Step α) :
    (store.accessed thread registry step).bindingsOf registry =
      (step.perform (store.registry registry)).2.1.lookup := by
  simp [bindingsOf, accessed, Store.registry, Table.get_set]

end Store

/-- A batch comes to its outcome by what is bound before it. -/
theorem RegistryId.delivers_registerAll (registry : RegistryId)
    (chosen : List (ClassId × Representation)) (before : Store) :
    (registry.registerAll chosen : Request σ Unit).run.Delivers thread (Store.Preserves registry)
      before (before.Registers registry chosen) := by
  apply Program.Delivers.andThen
  apply Program.Delivers.registryStep
  intro now preserves last still
  have same : (now.registry registry).lookup = before.bindingsOf registry := preserves.bindings
  have types : before.types.Extends last.types := preserves.types.trans still.types
  have left := still.bindings.trans (now.bindingsOf_accessed thread registry (.registerAll chosen))
  unfold Registry.Step.perform at left ⊢
  dsimp only at left ⊢
  cases clash : (now.registry registry).clash? chosen with
  | none =>
      have free := Registry.clash?_eq_none.mp clash
      rw [same] at free
      refine .accepted free ?_ types
      rw [clash, Registry.lookup_batch, same] at left
      exact left
  | some found =>
      obtain ⟨cls, existing⟩ := found
      obtain ⟨earlier, rep, later, split, free, bound⟩ := Registry.split_of_clash? clash
      rw [same] at free bound
      rw [clash] at left
      apply Program.Delivers.andThen
      apply Program.Delivers.observe
      intro seen spared
      refine .refused split free ⟨existing, seen, bound, ?_, rfl⟩ ?_
      · exact types.trans spared.types
      · exact spared.bindings.trans (left.trans same)

/-! ## Registering in turn -/

/-- What comes of registering bindings one after another. -/
inductive Store.RegistersEach (registry : RegistryId) :
    Store -> List (ClassId × Representation) -> Except Fault Unit -> Store -> Prop where
  | done {store : Store} : RegistersEach registry store [] (.ok ()) store
  | refused {before after : Store} {cls : ClassId} {rep : Representation}
      {rest : List (ClassId × Representation)} {fault : Fault}
      (barred : Bars before.types (before.bindingsOf registry) cls fault)
      (kept : after.bindingsOf registry = before.bindingsOf registry) :
      RegistersEach registry before ((cls, rep) :: rest) (.error fault) after
  | step {before middle after : Store} {cls : ClassId} {rep : Representation}
      {rest : List (ClassId × Representation)} {outcome : Except Fault Unit}
      (free : before.bindingsOf registry cls = none)
      (bound : middle.bindingsOf registry =
        Registry.batch (before.bindingsOf registry) [(cls, rep)])
      (grown : before.types.Extends middle.types)
      (later : RegistersEach registry middle rest outcome after) :
      RegistersEach registry before ((cls, rep) :: rest) outcome after

/-- Classes that are registered one after another are bound up to the first refusal. -/
theorem RegistryId.delivers_registerEach (registry : RegistryId)
    (chosen : List (ClassId × Representation)) (before : Store) :
    (registry.registerEach chosen : Request σ Unit).run.Delivers thread (Store.Preserves registry)
      before (before.RegistersEach registry chosen) := by
  induction chosen generalizing before with
  | nil => exact .done
  | cons binding rest inductionHypothesis =>
      obtain ⟨cls, rep⟩ := binding
      apply Program.Delivers.andThen
      apply (registry.delivers_registerAll [(cls, rep)] before).weaken
      intro outcome middle registers
      cases registers with
      | accepted free bound grown =>
          apply (inductionHypothesis middle).weaken
          exact fun outcome after later => .step (free _ List.mem_cons_self) bound grown later
      | @refused earlier _ _ _ _ _ split _ barred kept =>
          cases earlier with
          | nil =>
              cases split
              exact .refused barred kept
          | cons _ _ => simp at split

namespace Store.RegistersEach

variable {before after : Store} {outcome : Except Fault Unit}

/-- Without a refusal, registering one after another binds what the batch would. -/
theorem bound (registers : before.RegistersEach registry chosen (.ok ()) after) :
    after.bindingsOf registry = Registry.batch (before.bindingsOf registry) chosen := by
  generalize ends : (Except.ok () : Except Fault Unit) = outcome at registers
  induction registers with
  | done => rfl
  | refused _ _ => cases ends
  | step _ bound _ _ inductionHypothesis =>
      rw [inductionHypothesis ends, bound, Registry.batch_append]
      rfl

/-- Each binding finds its class unbound, by those before it too. -/
theorem accepted_iff (registers : before.RegistersEach registry chosen outcome after) :
    outcome = .ok () ↔ (chosen.map (·.1)).Nodup ∧
      forall binding, binding ∈ chosen -> before.bindingsOf registry binding.1 = none := by
  induction registers with
  | done => simp
  | refused barred _ =>
      obtain ⟨existing, _, bound, -, -⟩ := barred
      simp [bound]
  | @step before _ _ cls rep rest _ free bound _ _ inductionHypothesis =>
      have unbound : forall binding : ClassId × Representation,
          Registry.batch (before.bindingsOf registry) [(cls, rep)] binding.1 = none ↔
            binding.1 ≠ cls ∧ before.bindingsOf registry binding.1 = none :=
        fun binding => Registry.batch_singleton_eq_none
      rw [inductionHypothesis, bound]
      simp only [unbound, List.map_cons, List.nodup_cons, List.mem_cons, forall_eq_or_imp, free,
        true_and]
      constructor
      · rintro ⟨distinct, others⟩
        refine ⟨⟨?_, distinct⟩, fun binding member => (others binding member).2⟩
        intro listed
        obtain ⟨binding, member, same⟩ := List.mem_map.mp listed
        exact (others binding member).1 same
      · rintro ⟨⟨apart, distinct⟩, others⟩
        refine ⟨distinct, fun binding member => ⟨?_, others binding member⟩⟩
        rintro rfl
        exact apart (List.mem_map_of_mem member)

/-- The first class that is bound, or listed before, is refused; what comes before it stays
bound. -/
theorem refused_at {fault : Fault}
    (registers : before.RegistersEach registry chosen (.error fault) after) :
    exists earlier cls rep later, chosen = earlier ++ (cls, rep) :: later ∧
      after.bindingsOf registry = Registry.batch (before.bindingsOf registry) earlier ∧
        Bars before.types (after.bindingsOf registry) cls fault := by
  generalize ends : (Except.error fault : Except Fault Unit) = outcome at registers
  induction registers with
  | done => cases ends
  | @refused before _ cls rep rest _ barred kept =>
      cases ends
      refine ⟨[], cls, rep, rest, rfl, kept, ?_⟩
      rw [kept]
      exact barred
  | step free bound grown _ inductionHypothesis =>
      obtain ⟨earlier, cls, rep, later, rfl, kept, barred⟩ := inductionHypothesis ends
      refine ⟨_ :: earlier, cls, rep, later, rfl, ?_, barred.earlier grown⟩
      rw [kept, bound, Registry.batch_append]
      rfl

end Store.RegistersEach

/-! ## The two compared -/

namespace Store

/-- What is promised of a batch that is registered at once. -/
structure BindsTogether (before : Store) (registry : RegistryId)
    (chosen : List (ClassId × Representation)) (outcome : Except Fault Unit) (after : Store) :
    Prop where
  accepts : outcome = .ok () ↔
    forall binding, binding ∈ chosen -> before.bindingsOf registry binding.1 = none
  binds : outcome = .ok () -> forall cls rep, Registry.Lists chosen cls rep ->
    after.bindingsOf registry cls = some rep
  others : forall cls, cls ∉ chosen.map (·.1) ->
    after.bindingsOf registry cls = before.bindingsOf registry cls
  refuses : forall fault, outcome = .error fault ->
    after.bindingsOf registry = before.bindingsOf registry ∧
      exists earlier cls rep later, chosen = earlier ++ (cls, rep) :: later ∧
        (forall binding, binding ∈ earlier -> before.bindingsOf registry binding.1 = none) ∧
          Bars before.types (before.bindingsOf registry) cls fault

/-- What is promised of bindings that are registered one after another. -/
structure BindsInTurn (before : Store) (registry : RegistryId)
    (chosen : List (ClassId × Representation)) (outcome : Except Fault Unit) (after : Store) :
    Prop where
  accepts : outcome = .ok () ↔ (chosen.map (·.1)).Nodup ∧
    forall binding, binding ∈ chosen -> before.bindingsOf registry binding.1 = none
  binds : outcome = .ok () -> forall cls rep, (cls, rep) ∈ chosen ->
    after.bindingsOf registry cls = some rep
  others : forall cls, cls ∉ chosen.map (·.1) ->
    after.bindingsOf registry cls = before.bindingsOf registry cls
  refuses : forall fault, outcome = .error fault ->
    exists earlier cls rep later, chosen = earlier ++ (cls, rep) :: later ∧
      after.bindingsOf registry = Registry.batch (before.bindingsOf registry) earlier ∧
        Bars before.types (after.bindingsOf registry) cls fault

variable {before after : Store} {outcome : Except Fault Unit}

/-- Registering a batch at once keeps what is promised of it. -/
theorem Registers.together (registers : before.Registers registry chosen outcome after) :
    before.BindsTogether registry chosen outcome after := by
  cases registers with
  | accepted free bound _ =>
      refine ⟨iff_of_true rfl free, fun _ cls rep lists => ?_, fun cls absent => ?_, nofun⟩
      · rw [bound, Registry.batch_lists lists]
      · rw [bound, Registry.batch_absent absent]
  | @refused earlier later cls rep fault _ split free barred kept =>
      refine ⟨iff_of_false nofun ?_, nofun, fun cls _ => congrFun kept cls, ?_⟩
      · intro unbound
        obtain ⟨existing, _, bound, -, -⟩ := barred
        have member : (cls, rep) ∈ chosen := split ▸ List.mem_append_right _ List.mem_cons_self
        cases (unbound _ member).symm.trans bound
      · rintro _ ⟨⟩
        exact ⟨kept, earlier, cls, rep, later, split, free, barred⟩

/-- Registering one after another keeps what is promised of that. -/
theorem RegistersEach.inTurn (registers : before.RegistersEach registry chosen outcome after) :
    before.BindsInTurn registry chosen outcome after := by
  refine ⟨registers.accepted_iff, ?_, ?_, ?_⟩
  · rintro rfl cls rep member
    rw [registers.bound]
    exact Registry.batch_chosen (registers.accepted_iff.mp rfl).1 member
  · intro cls absent
    cases outcome with
    | ok _ => rw [registers.bound, Registry.batch_absent absent]
    | error fault =>
        obtain ⟨earlier, _, _, later, rfl, kept, -⟩ := registers.refused_at
        rw [kept, Registry.batch_absent]
        rw [List.map_append] at absent
        exact fun listed => absent (List.mem_append_left _ listed)
  · rintro fault rfl
    exact registers.refused_at

/-- Where both ways of registering are taken from one store, they differ only in what the batch
lists twice. -/
theorem BindsTogether.compare {together inTurn : Store} {atOnce each : Except Fault Unit}
    (whole : before.BindsTogether registry chosen atOnce together)
    (turns : before.BindsInTurn registry chosen each inTurn) :
    (each = .ok () ↔ (chosen.map (·.1)).Nodup ∧ atOnce = .ok ()) ∧
      (each = .ok () -> inTurn.bindingsOf registry = together.bindingsOf registry) := by
  constructor
  · rw [turns.accepts, whole.accepts]
  · rintro accepted
    obtain ⟨distinct, free⟩ := turns.accepts.mp accepted
    funext cls
    by_cases listed : cls ∈ chosen.map (·.1)
    · obtain ⟨⟨_, rep⟩, member, rfl⟩ := List.mem_map.mp listed
      have lists := Registry.lists_of_mem distinct member
      rw [turns.binds accepted _ rep member, whole.binds (whole.accepts.mpr free) _ rep lists]
    · rw [turns.others cls listed, whole.others cls listed]

end Store

/-- A batch binds all its classes, or none if one is bound. It does what registering the classes
one after another does, unless it lists a class twice. -/
theorem batch_registration (registry : RegistryId) (chosen : List (ClassId × Representation))
    (thread : ThreadId) (before : Store) :
    (registry.registerAll chosen : Request σ Unit).run.Delivers thread (Store.Preserves registry)
      before (before.BindsTogether registry chosen) ∧
    (registry.registerEach chosen : Request σ Unit).run.Delivers thread (Store.Preserves registry)
      before (before.BindsInTurn registry chosen) ∧
    forall atOnce each together inTurn,
      before.BindsTogether registry chosen atOnce together ->
      before.BindsInTurn registry chosen each inTurn ->
      (each = .ok () ↔ (chosen.map (·.1)).Nodup ∧ atOnce = .ok ()) ∧
        (each = .ok () -> inTurn.bindingsOf registry = together.bindingsOf registry) := by
  refine ⟨?_, ?_, fun _ _ _ _ whole turns => whole.compare turns⟩
  · apply (registry.delivers_registerAll chosen before).weaken
    exact fun _ _ registers => registers.together
  · apply (registry.delivers_registerEach chosen before).weaken
    exact fun _ _ registers => registers.inTurn

/-- What came of a call that registers classes. -/
def CallRecord.registration? : CallRecord -> Option (Except Fault Unit)
  | ⟨.register _ _ _, outcome⟩ | ⟨.registerAll _ _, outcome⟩ => outcome
  | _ => none

/-- Host code that registers a class twice: in one batch, and then with one call after another. -/
def registeringTwice : Client Unit (Except Fault Unit) :=
  .call (.makeFactory {}) fun _ =>
    .call (.makeRegistry .none) fun _ =>
      .call (.makeRegistry .none) fun _ =>
        .call (.registerAll ⟨1⟩
            [(Builtin.text, .canonical ⟨0⟩), (Builtin.text, .canonical ⟨1⟩)]) fun _ =>
          .call (.register ⟨2⟩ Builtin.text (.canonical ⟨0⟩)) fun _ =>
            .call (.register ⟨2⟩ Builtin.text (.canonical ⟨1⟩)) fun _ => .done (.ok ())

/-- A batch that lists a class twice is not refused, and the first of the two bindings is lost. -/
theorem batch_keeps_last :
    let machine := Machine.run ClientCode.quiet.host 60 (Machine.opening registeringTwice ())
    machine.host.calls.filterMap (·.registration?) = [.ok (), .ok (), .error (.clash {
      mode := .existing, cls := Builtin.text, existing := some "object" })] ∧
    machine.bound ⟨1⟩ Builtin.text = some (.canonical ⟨1⟩) ∧
    machine.bound ⟨2⟩ Builtin.text = some (.canonical ⟨0⟩) := by
  intro machine
  decide +kernel

end GuestTypes
