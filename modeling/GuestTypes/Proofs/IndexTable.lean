import GuestTypes.Proofs.CreationOutcome
import GuestTypes.Proofs.SinglePublication
import GuestTypes.Proofs.Typing

/-!
# The places of a type

A type that shares no representation has one for each of its classes, at the same place: first
itself, then those of the adopted classes, then those of the accepted ones. As long as nobody
binds classes directly, the registry of the factory has the classes up to the last adopted one
bound to what the type has at their places, and no class bound to anything behind it.
-/

namespace GuestTypes

variable {type : TypeId} {index : Nat} {cls : ClassId} {kind : NativeKind}

/-! ## Representations by their places -/

/-- The representation at a place of a type that shares none. -/
def Representation.atPlace (type : TypeId) : Nat -> Representation
  | 0 => .canonical type
  | place + 1 => .adopted type (place + 1)

namespace Representation

/-- A representation at a place has that index. -/
@[simp] theorem index_atPlace (type : TypeId) (index : Nat) :
    (atPlace type index).index = index := by
  cases index <;> rfl

/-- A representation at a place is of that type. -/
@[simp] theorem fixedType_atPlace (type : TypeId) (index : Nat) :
    (atPlace type index).fixedType = some type := by
  cases index <;> rfl

end Representation

namespace GuestType

variable {row : GuestType}

/-- The representations run through the places of the classes. -/
theorem representations_eq (fixed : row.sharedRepresentation = none) (type : TypeId) :
    row.representations type =
      (List.range row.selfClasses.length).map (Representation.atPlace type) := by
  unfold sharedRepresentation at fixed
  cases kind : row.kind with
  | simple | adoptive _ =>
      simp [representations, kind, selfClasses, List.range_succ_eq_map, Function.comp_def,
        Representation.atPlace]
  | replaceable shared =>
      rw [kind] at fixed
      cases fixed

/-- A class that is listed once is found where it is. -/
theorem indexOf_of_nodup (distinct : row.selfClasses.Nodup)
    (placed : row.selfClasses[index]? = some cls) : row.indexOf cls = some index := by
  obtain ⟨within, same⟩ := List.getElem?_eq_some_iff.mp placed
  refine List.findIdx?_eq_some_iff_getElem.mpr ⟨within, by simpa using same, ?_⟩
  intro earlier before
  have apart : row.selfClasses[earlier] ≠ row.selfClasses[index] := fun again =>
    Nat.ne_of_lt before ((List.Nodup.getElem_inj_iff distinct).mp again)
  simpa [same] using apart

end GuestType

namespace TypeTable

variable {types : TypeTable} {hierarchy : Hierarchy}

/-- A representation at a place has the class there for its host. -/
theorem hostClass_atPlace (placed : (types.row type).selfClasses[index]? = some cls) :
    types.hostClass (.atPlace type index) = cls := by
  cases index with
  | zero => exact Option.some.inj placed
  | succ place => exact congrArg (Option.getD · _) placed

/-- A representation beyond the adopted classes is an accepted one. -/
theorem isAccepted_atPlace (types : TypeTable) (type : TypeId) (index : Nat) :
    types.isAccepted (.atPlace type index) = decide ((types.row type).adoptedCount < index) := by
  cases index with
  | zero => simp [Representation.atPlace, isAccepted]
  | succ place => rfl

/-- Only the adopted classes with the marker are exact. -/
theorem isExact_atPlace (placed : (types.row type).selfClasses[index]? = some cls) :
    types.isExact hierarchy (.atPlace type index) kind = true ↔
      1 ≤ index ∧ index ≤ (types.row type).adoptedCount ∧
        (hierarchy.row cls).native = some kind := by
  cases index with
  | zero => simp [Representation.atPlace, isExact]
  | succ place =>
      have accepted := isAccepted_atPlace types type (place + 1)
      have host := hostClass_atPlace placed
      simp only [Representation.atPlace] at accepted host
      simp [Representation.atPlace, isExact, accepted, host]

end TypeTable

/-! ## Created types -/

namespace World.Created

variable {world : World} {factory : FactoryId} {wanted : TypeDescription}

/-- A type has the classes that are described. -/
theorem selfClasses (created : world.Created factory wanted type) :
    (world.types.row type).selfClasses = wanted.classes := by
  unfold GuestType.selfClasses TypeDescription.classes
  rw [created.row.primary, created.row.others]
  rfl

/-- A type with fixed classes shares no representation. -/
theorem fixed (created : world.Created factory wanted type) :
    (world.types.row type).sharedRepresentation = none := by
  unfold GuestType.sharedRepresentation
  rw [created.row.kind]
  cases wanted.isSimple <;> rfl

/-- A type adopts as many classes as are described. -/
theorem adoptedCount (created : world.Created factory wanted type) :
    (world.types.row type).adoptedCount = wanted.adopted.length := by
  unfold GuestType.adoptedCount
  rw [created.row.kind]
  cases simple : wanted.isSimple with
  | true =>
      have none_ : wanted.adopted = [] := List.isEmpty_iff.mp (Bool.and_eq_true_iff.mp simple).1
      simp [none_]
  | false => rfl

/-- A type accepts as many classes as are described. -/
theorem acceptedCount (created : world.Created factory wanted type) :
    (world.types.row type).acceptedCount = wanted.accepted.length := by
  unfold GuestType.acceptedCount
  rw [created.row.kind]
  cases simple : wanted.isSimple with
  | true =>
      have none_ : wanted.accepted = [] := List.isEmpty_iff.mp (Bool.and_eq_true_iff.mp simple).2
      simp [none_]
  | false => simp [created.row.others]

/-- The primary class and the adopted ones are bound to what is at their places. -/
theorem bound_atPlace (created : world.Created factory wanted type)
    (placed : wanted.classes[index]? = some cls) (adopted : index ≤ wanted.adopted.length) :
    world.published factory cls = some (.atPlace type index) := by
  apply created.bound
  cases index with
  | zero => exact .inl ⟨(Option.some.inj placed).symm, rfl⟩
  | succ place =>
      refine .inr ⟨place, ?_, rfl⟩
      exact (List.getElem?_append_left adopted).symm.trans placed

end World.Created

/-! ## Hits -/

namespace Store

/-- A registry has answered a thread for a class that was bound, for which the thread took the
guard, and nothing else has changed. -/
def hit (store : Store) (thread : ThreadId) (registry : RegistryId) : Store :=
  { store with
    registries := store.registries.modify registry.index Registry.countHit
    guards := store.guards.modify registry.index (·.take thread .reading) }

/-- What a registry binds stays bound. -/
def HoldsOn (registry : RegistryId) (before after : Store) : Prop :=
  forall cls rep, before.Binds registry cls rep -> after.Binds registry cls rep

end Store

/-- The first lookup of a class that is bound counts a hit. -/
theorem Registry.Step.perform_firstLookup {registry : Registry} {cls : ClassId}
    (found : (registry.lookup cls).isSome = true) :
    (Registry.Step.firstLookup cls).perform registry =
      (registry.lookup cls, registry.countHit, []) := by
  simp [perform, found]

/-- To look up a class that is bound counts a hit, and takes the guard of the registry. -/
theorem Store.accessed_firstLookup {store : Store} {thread : ThreadId} {registry : RegistryId}
    (found : ((store.registry registry).lookup cls).isSome = true) :
    store.accessed thread registry (.firstLookup cls) = store.hit thread registry := by
  unfold accessed
  rw [Registry.Step.perform_firstLookup found]
  simp [hit, Table.modify, Store.registry, Store.guard, Registry.Step.guarding,
    Registry.Step.access?]

/-- The request for a class that is bound takes one step, which counts a hit, and another one that
gives the guard back. -/
theorem RegistryId.resolve_hits {σ : Type} {registry : RegistryId} {rep : Representation}
    {thread : ThreadId} {now : Store} (bound : now.Binds registry cls rep) :
    (registry.resolve cls : Request σ Representation).run.Delivers thread
      (Store.HoldsOn registry) now fun outcome after =>
        outcome = .ok rep ∧ exists asked last, Store.HoldsOn registry now asked ∧
          Store.HoldsOn registry (asked.hit thread registry) last ∧
            after = last.relieved thread registry := by
  refine .andThen (.registryStep fun later holds last still => ?_)
  have found : (later.registry registry).lookup cls = some rep := holds cls rep bound
  have present := Option.isSome_of_eq_some found
  rw [Store.accessed_firstLookup present] at still
  rw [Registry.Step.perform_firstLookup present, found]
  exact ⟨rfl, later, last, holds, still, rfl⟩

/-! ## Reachable machines -/

/-- The type that a factory created for a call, with its description. -/
def CallRecord.created? (factory : FactoryId) : CallRecord -> Option (TypeDescription × TypeId)
  | ⟨.create used wanted, some (.ok type)⟩ =>
      if used = factory then some (wanted, type) else none
  | _ => none

/-- A type is read off the call that created it. -/
theorem CallRecord.of_created? {record : CallRecord} {factory : FactoryId}
    {wanted : TypeDescription} (created : record.created? factory = some (wanted, type)) :
    record = { call := .create factory wanted, answer := some (.ok type) } := by
  unfold created? at created
  split at created
  · split at created
    · rename_i same
      cases created
      subst same
      rfl
    · cases created
  · cases created

/-- What a type has at a place agrees with its class there, with where the type finds that class,
and with what a registry binds. -/
structure Store.Agrees (store : Store) (registry : RegistryId) (type : TypeId) (index : Nat)
    (rep : Representation) (cls : ClassId) : Prop where
  place : rep.index = index
  host : store.types.hostClass rep = cls
  fixed : rep.fixedType = some type
  found : (store.types.row type).indexOf cls = some index
  bound : index ≤ (store.types.row type).adoptedCount -> store.Binds registry cls rep
  /-- The class is answered for without its initializer and without an escalation. -/
  resolved : index ≤ (store.types.row type).adoptedCount -> forall (σ : Type) thread,
    (registry.resolve cls : Request σ Representation).run.Delivers thread
      (Store.HoldsOn registry) store fun outcome after =>
        outcome = .ok rep ∧ exists asked last, Store.HoldsOn registry store asked ∧
          Store.HoldsOn registry (asked.hit thread registry) last ∧
            after = last.relieved thread registry
  accepted : (store.types.row type).adoptedCount < index ->
    store.types.isAccepted rep = true ∧
      (forall kind, store.types.isExact store.hierarchy rep kind = false) ∧
        forall other, ¬ store.Binds registry other rep
  native : forall kind, store.types.isExact store.hierarchy rep kind = true ↔
    1 ≤ index ∧ index ≤ (store.types.row type).adoptedCount ∧
      (store.hierarchy.row cls).native = some kind

namespace World.Created

variable {σ : Type} {now : Instant σ} {factory : FactoryId} {wanted : TypeDescription}

/-- What a created type has at its places, while nobody binds classes directly. -/
theorem agrees (created : now.world.Created factory wanted type) (valid : now.world.Valid)
    (sealed : now.world.Sealed factory) (placed : wanted.classes[index]? = some cls) :
    now.store.Agrees (now.store.factory factory).registry type index (.atPlace type index) cls := by
  have row : (now.store.types.row type).selfClasses[index]? = some cls := by
    rw [← placed]
    exact congrArg (·[index]?) created.selfClasses
  have distinct : (now.store.types.row type).selfClasses.Nodup := by
    rw [show (now.store.types.row type).selfClasses = _ from created.selfClasses]
    exact TypeDescription.nodup_of_repeated? created.once
  have count : (now.store.types.row type).adoptedCount = _ := created.adoptedCount
  have bound : index ≤ (now.store.types.row type).adoptedCount ->
      now.store.Binds (now.store.factory factory).registry cls (.atPlace type index) :=
    fun adopted => created.bound_atPlace placed (count ▸ adopted)
  have native : forall kind,
      now.store.types.isExact now.store.hierarchy (.atPlace type index) kind = true ↔
        1 ≤ index ∧ index ≤ (now.store.types.row type).adoptedCount ∧
          (now.store.hierarchy.row cls).native = some kind :=
    fun kind => TypeTable.isExact_atPlace row
  exact {
    place := Representation.index_atPlace type index
    host := TypeTable.hostClass_atPlace row
    fixed := Representation.fixedType_atPlace type index
    found := GuestType.indexOf_of_nodup distinct row
    bound
    resolved := fun adopted σ thread => RegistryId.resolve_hits (bound adopted)
    accepted := by
      intro beyond
      have accepted : now.store.types.isAccepted (.atPlace type index) = true := by
        rw [TypeTable.isAccepted_atPlace]
        exact decide_eq_true beyond
      refine ⟨accepted, fun kind => ?_, fun other bound => ?_⟩
      · rw [Bool.eq_false_iff]
        exact fun exact_ => Nat.not_le_of_lt beyond ((native kind).mp exact_).2.1
      · have governs := valid.governed factory created.founded sealed other _ bound
        cases accepted.symm.trans governs.bound
    native }

end World.Created

namespace Machine

variable {σ : Type} {code : ClientCode σ} {machine later : Machine (Clients σ)}
  {factory : FactoryId} {wanted : TypeDescription}

/-- The types that a factory has created, with their descriptions, in the order of the calls. -/
def createdTypes (machine : Machine (Clients σ)) (factory : FactoryId) :
    List (TypeDescription × TypeId) :=
  machine.host.calls.filterMap (·.created? factory)

/-- A type that is listed was answered. -/
theorem answered_of_mem (member : (wanted, type) ∈ machine.createdTypes factory) :
    machine.Answered (.create factory wanted) type := by
  obtain ⟨record, listed, created⟩ := List.mem_filterMap.mp member
  rw [CallRecord.of_created? created] at listed
  exact listed

/-- For ever after a type was created, its representations, its classes, its index table and the
registry of the factory agree. -/
theorem representations_agree (reachable : machine.Reachable code)
    (created : (wanted, type) ∈ machine.createdTypes factory)
    (fixed : wanted.isReplaceable = false) (steps : Steps code.host machine later)
    (direct : forall record, record ∈ later.host.calls ->
      record.call.registersIn (later.registryOf factory) = false) :
    let row := later.store.types.row type
    (row.representations type).length = 1 + row.adoptedCount + row.acceptedCount ∧
      forall index, index < (row.representations type).length -> exists rep cls,
        (row.representations type)[index]? = some rep ∧ row.selfClasses[index]? = some cls ∧
          later.store.Agrees (later.registryOf factory) type index rep cls := by
  obtain ⟨now, after, kept, reached, onward⟩ := reachable.onward steps
  have answered : { call := .create factory wanted, answer := some (.ok type) } ∈ now.host.calls :=
    kept.host ▸ answered_of_mem created
  have still : after.world.Created factory wanted type :=
    ((World.persistent_published factory wanted type).onward onward
      (kept.valid.served _ answered)).1 fixed
  have sealed : after.world.Sealed factory := by
    unfold registryOf at direct
    rw [reached.host, reached.store] at direct
    exact direct
  unfold registryOf
  rw [reached.store]
  intro row
  have classes : row.selfClasses = wanted.classes := still.selfClasses
  have listed : row.representations type =
      (List.range wanted.classes.length).map (.atPlace type) := by
    rw [← classes]
    exact GuestType.representations_eq still.fixed type
  have length : (row.representations type).length = wanted.classes.length := by
    rw [listed, List.length_map, List.length_range]
  refine ⟨?_, fun index within => ?_⟩
  · rw [length, show row.adoptedCount = _ from still.adoptedCount,
      show row.acceptedCount = _ from still.acceptedCount]
    simp only [TypeDescription.classes, List.cons_append, List.length_cons, List.length_append]
    omega
  · rw [length] at within
    have placed : wanted.classes[index]? = some wanted.classes[index] :=
      List.getElem?_eq_getElem within
    refine ⟨.atPlace type index, wanted.classes[index], ?_, by rw [classes, placed],
      still.agrees reached.valid sealed placed⟩
    rw [listed, List.getElem?_map, List.getElem?_range within]
    rfl

/-- Host code that makes a type of integers, of which the narrow ones are only accepted, and asks
for the wide ones afterwards. -/
def adoptingIntegers : Client Unit (Except Fault Unit) :=
  .call (.makeFactory {}) fun
    | .error fault => .done (.error fault)
    | .ok factory =>
        .call (.declare { name := "Integer" }) fun
          | .error fault => .done (.error fault)
          | .ok primary =>
              .call (.create factory {
                name := "int", primary, adopted := [Builtin.int64], accepted := [Builtin.int32] })
                fun _ => .call (.findOrCreate factory Builtin.int64) fun _ => .done (.ok ())

/-- The wide integers are exact and bound; the narrow ones are neither, for all their marker. -/
theorem representations_agree_adoptingIntegers :
    let machine := Machine.run ClientCode.quiet.host 46 (opening adoptingIntegers ())
    let later := Machine.run ClientCode.quiet.host 20 machine
    later.store.Agrees (later.registryOf ⟨0⟩) ⟨2⟩ 1 (.adopted ⟨2⟩ 1) Builtin.int64 ∧
      later.store.Agrees (later.registryOf ⟨0⟩) ⟨2⟩ 2 (.adopted ⟨2⟩ 2) Builtin.int32 ∧
        (later.store.types.row ⟨2⟩).adoptedCount = 1 := by
  intro machine later
  have reachable : machine.Reachable ClientCode.quiet :=
    reachable_run ClientCode.quiet adoptingIntegers () 46
  have steps : Steps ClientCode.quiet.host machine later :=
    steps_run ClientCode.quiet.host 20 _ _ .refl
  let wanted : TypeDescription := {
    name := "int", primary := ⟨10⟩, adopted := [Builtin.int64], accepted := [Builtin.int32] }
  have created : (wanted, ⟨2⟩) ∈ machine.createdTypes ⟨0⟩ := by decide +kernel
  have fixed : wanted.isReplaceable = false := by decide +kernel
  have direct : forall record, record ∈ later.host.calls ->
      record.call.registersIn (later.registryOf ⟨0⟩) = false := by decide +kernel
  have length : ((later.store.types.row ⟨2⟩).representations ⟨2⟩).length = 3 := by decide +kernel
  have first : ((later.store.types.row ⟨2⟩).representations ⟨2⟩)[1]? = some (.adopted ⟨2⟩ 1) ∧
      (later.store.types.row ⟨2⟩).selfClasses[1]? = some Builtin.int64 := by decide +kernel
  have last : ((later.store.types.row ⟨2⟩).representations ⟨2⟩)[2]? = some (.adopted ⟨2⟩ 2) ∧
      (later.store.types.row ⟨2⟩).selfClasses[2]? = some Builtin.int32 := by decide +kernel
  have count : (later.store.types.row ⟨2⟩).adoptedCount = 1 := by decide +kernel
  clear_value machine later
  obtain ⟨-, agree⟩ := representations_agree reachable created fixed steps direct
  obtain ⟨rep, cls, rep_, cls_, adopted⟩ := agree 1 (by omega)
  cases rep_.symm.trans first.1
  cases cls_.symm.trans first.2
  obtain ⟨rep, cls, rep_, cls_, accepted⟩ := agree 2 (by omega)
  cases rep_.symm.trans last.1
  cases cls_.symm.trans last.2
  exact ⟨adopted, accepted, count⟩

end Machine

end GuestTypes
