import GuestTypes.Proofs.AttributedRuns

/-!
# Types below the root of their factory

Along every run a type has the bases that were given for it, or else the root type of the factory
that it was made for. Which factory this is, and which bases were given, is read off the run
(`Machine.origins`): a type is made in the innermost call of its thread that has not been answered,
whether that call describes it or asks for the representation of a class.

So a type is below the root type of its factory if no bases were given for it, or if one of those
that were given is below it. Types that were made over types of the factory alone, all the way up,
are below it (`Machine.Belongs`). That the given bases themselves were made for the factory is not
enough: they may have been made over types of another factory alone.
-/

namespace GuestTypes

open Discipline Attributing

namespace Machine

variable {σ : Type}

/-- The type is one of the two that came with the factory, or was made for it. -/
def IsOf (machine : Machine (Clients σ)) (origins : List (Option Origin)) (factory : FactoryId)
    (type : TypeId) : Prop :=
  type = (machine.store.factory factory).objectType ∨
    type = (machine.store.factory factory).typeType ∨
    exists given, origins[type.index]? = some (some ⟨factory, given⟩)

/-- The type belongs to the factory: it came with it, or was made for it over given bases that all
belong to it. -/
inductive Belongs (machine : Machine (Clients σ)) (origins : List (Option Origin))
    (factory : FactoryId) : TypeId -> Prop where
  | objectType : Belongs machine origins factory (machine.store.factory factory).objectType
  | typeType : Belongs machine origins factory (machine.store.factory factory).typeType
  | made {type : TypeId} {given : List TypeId}
      (origin : origins[type.index]? = some (some ⟨factory, given⟩))
      (bases : forall base, base ∈ given -> Belongs machine origins factory base) :
      Belongs machine origins factory type

/-- What holds of the bases of all types, by what they were made for. -/
structure RootsTypes (machine : Machine (Clients σ)) (origins : List (Option Origin)) : Prop where
  /-- Subtypes are ordered, by what is reached through bases. -/
  ordered : machine.store.types.Ordered
  /-- It is known of every type what it was made for, unless it came with its factory. -/
  every : origins.length = machine.store.types.types.size
  /-- A call that describes a type is answered with one that was made for what the call names. -/
  answered : forall (number : Nat) record type, machine.host.calls[number]? = some record ->
    record.made? = some type -> origins[type.index]? = some (record.call.origin? machine.store)
  /-- A type that was made for a factory has the given bases, or else the root type. -/
  bases : forall type origin, origins[type.index]? = some (some origin) ->
    (machine.store.types.row type).bases = origin.bases machine.store
  /-- It is below the root type exactly if no bases were given, or one of them is below it. -/
  descends : forall type factory given, origins[type.index]? = some (some ⟨factory, given⟩) ->
    (machine.store.types.isSubtypeOf type (machine.store.factory factory).objectType = true ↔
      given = [] ∨ exists base, base ∈ given ∧
        machine.store.types.isSubtypeOf base (machine.store.factory factory).objectType = true)
  /-- A type that belongs to a factory is below its root type. -/
  rooted : forall factory type, machine.Belongs origins factory type ->
    machine.store.types.isSubtypeOf type (machine.store.factory factory).objectType = true

end Machine

/-! ## Bases and the root type -/

/-- The root type of every factory has no bases, and the type of types has the root type alone. -/
def Store.Roots (store : Store) : Prop :=
  forall factory, factory.index < store.factories.size ->
    (store.types.row (store.factory factory).objectType).bases = [] ∧
      (store.types.row (store.factory factory).typeType).bases =
        [(store.factory factory).objectType]

section Bases

variable {store : Store} {type : TypeId} {origin : Origin}

/-- The bases of a type are those that were given, or the root type if there were none. -/
theorem Origin.mem_bases {base : TypeId} : base ∈ origin.bases store ↔
    origin.given = [] ∧ base = (store.factory origin.factory).objectType ∨ base ∈ origin.given := by
  unfold Origin.bases
  cases origin.given with
  | nil => simp
  | cons first rest => simp

/-- A type with the bases of what it was made for is below the root type exactly if no bases were
given for it, or one of them is below it. -/
theorem Store.isSubtypeOf_root_iff (roots : store.Roots)
    (founded : origin.factory.index < store.factories.size)
    (bases : (store.types.row type).bases = origin.bases store) :
    store.types.isSubtypeOf type (store.factory origin.factory).objectType = true ↔
      origin.given = [] ∨ exists base, base ∈ origin.given ∧
        store.types.isSubtypeOf base (store.factory origin.factory).objectType = true := by
  have apart : type ≠ (store.factory origin.factory).objectType := by
    rintro rfl
    have empty : (origin.bases store).isEmpty = true := by
      rw [← bases, (roots origin.factory founded).1]
      rfl
    cases empty.symm.trans (origin.isEmpty_bases store)
  have listed : forall base, store.types.HasBase type base ↔ base ∈ origin.bases store := by
    intro base
    rw [TypeTable.HasBase, bases]
  rw [TypeTable.isSubtypeOf_iff_bases, or_iff_right apart]
  simp only [listed, Origin.mem_bases]
  constructor
  · rintro ⟨base, ⟨none, -⟩ | given, below⟩
    · exact .inl none
    · exact .inr ⟨base, given, below⟩
  · rintro (none | ⟨base, given, below⟩)
    · exact ⟨_, .inl ⟨none, rfl⟩, TypeTable.isSubtypeOf_iff.mpr .refl⟩
    · exact ⟨base, .inr given, below⟩

end Bases

namespace Machine

variable {σ : Type} {code : ClientCode σ} {start machine : Machine (Clients σ)}
  {schedule : List ThreadId} {origins : List (Option Origin)} {factory : FactoryId} {type : TypeId}

/-- The type of types is below the root type. A factory that was not made has one and the same type
for both. -/
theorem typeType_rooted (roots : machine.store.Roots)
    (unfounded : machine.store.factories.size ≤ factory.index ->
      machine.store.factory factory = default) :
    machine.store.types.isSubtypeOf (machine.store.factory factory).typeType
      (machine.store.factory factory).objectType = true := by
  rw [TypeTable.isSubtypeOf_iff]
  by_cases founded : factory.index < machine.store.factories.size
  · refine .single ?_
    rw [TypeTable.HasBase, (roots factory founded).2]
    exact List.mem_singleton_self _
  · rw [unfounded (Nat.le_of_not_lt founded)]
    exact .refl

/-- By induction on how the type belongs to the factory. -/
theorem Belongs.rooted (belongs : machine.Belongs origins factory type)
    (roots : machine.store.Roots)
    (unfounded : machine.store.factories.size ≤ factory.index ->
      machine.store.factory factory = default)
    (based : forall type origin, origins[type.index]? = some (some origin) ->
      origin.factory.index < machine.store.factories.size ∧
        (machine.store.types.row type).bases = origin.bases machine.store) :
    machine.store.types.isSubtypeOf type (machine.store.factory factory).objectType = true := by
  induction belongs with
  | objectType => exact TypeTable.isSubtypeOf_iff.mpr .refl
  | typeType => exact typeType_rooted roots unfounded
  | @made type given origin _ inductionHypothesis =>
      obtain ⟨founded, bases⟩ := based type _ origin
      rw [Store.isSubtypeOf_root_iff roots founded bases]
      cases given with
      | nil => exact .inl rfl
      | cons first rest =>
          exact .inr ⟨first, List.mem_cons_self, inductionHypothesis first List.mem_cons_self⟩

/-- Whatever the schedule, subtypes are ordered, and types that belong to a factory are below its
root type. -/
theorem subtypes_rooted (opens : start.Opens)
    (followed : start.follow code.host schedule = some machine)
    (genuine : start.forges code.host schedule = false) :
    machine.RootsTypes (Machine.origins code.host [] schedule start) := by
  obtain ⟨_, known⟩ := opens.kept
  obtain ⟨now, recounts⟩ := attributed_follow opens.attributed known followed
  have kept := recounts.kept
  have valid : Valid now := kept.valid
  have read : now.ghost.origins = Machine.origins code.host [] schedule start := recounts.origins
  obtain ⟨instant, known⟩ := recounts.known
  have world : instant.world.Valid := known.valid
  have roots : machine.store.Roots := by
    intro factory founded
    rw [known.store] at founded ⊢
    exact (world.roots factory founded).imp (·.bases) (·.bases)
  have unfounded : forall factory : FactoryId, machine.store.factories.size ≤ factory.index ->
      machine.store.factory factory = default := by
    rw [known.store]
    exact world.unfounded
  have based : forall type origin, now.ghost.origins[type.index]? = some (some origin) ->
      origin.factory.index < machine.store.factories.size ∧
        (machine.store.types.row type).bases = origin.bases machine.store := by
    rw [kept.store]
    exact valid.based (recounts.genuine trivial genuine)
  rw [← read]
  exact {
    ordered := machine.store.types.ordered
    every := by rw [kept.store, valid.traced]
    answered := by
      rw [kept.host, kept.store]
      intro number record type found made
      have described := valid.answered number record type found made
      obtain ⟨other, same, -, origin⟩ := valid.asked _ _ described
      cases found.symm.trans same
      exact origin
    bases := fun type origin found => (based type origin found).2
    descends := fun type factory given found =>
      have ⟨founded, bases⟩ := based type ⟨factory, given⟩ found
      Store.isSubtypeOf_root_iff roots founded bases
    rooted := fun factory type belongs => belongs.rooted roots (unfounded factory) based }

/-- Host code that makes a type, and a guest class over it, and then has a type made for a class. -/
def makingBelow : Client Unit (Except Fault Unit) :=
  .call (.makeFactory {}) fun _ =>
    .call (.create ⟨0⟩ { name := "text", primary := Builtin.text }) fun
      | .error fault => .done (.error fault)
      | .ok base => .call (.defineClass ⟨0⟩ "Leaf" [base] none false) fun _ =>
          .call (.resolve ⟨0⟩ Builtin.bool) fun _ => .done (.ok ())

set_option maxRecDepth 20000 in
/-- A guest class over a type is rooted as that type is. -/
theorem subtypes_rooted_makingBelow : exists machine,
    (opening makingBelow ()).follow ClientCode.quiet.host (List.replicate 138 ⟨0⟩) = some machine ∧
      machine.store.types.types.toList.map (·.bases) = [[], [⟨0⟩], [⟨0⟩], [⟨2⟩], [⟨0⟩]] ∧
      machine.RootsTypes [none, none, some ⟨⟨0⟩, []⟩, some ⟨⟨0⟩, [⟨2⟩]⟩, some ⟨⟨0⟩, []⟩] := by
  have read : Machine.origins ClientCode.quiet.host [] (List.replicate 138 ⟨0⟩)
      (opening makingBelow ()) =
        [none, none, some ⟨⟨0⟩, []⟩, some ⟨⟨0⟩, [⟨2⟩]⟩, some ⟨⟨0⟩, []⟩] := by decide +kernel
  have genuine : (opening makingBelow ()).forges ClientCode.quiet.host (List.replicate 138 ⟨0⟩) =
      false := by decide +kernel
  have bases : ((opening makingBelow ()).follow ClientCode.quiet.host (List.replicate 138 ⟨0⟩)).map
      (·.store.types.types.toList.map (·.bases)) = some [[], [⟨0⟩], [⟨0⟩], [⟨2⟩], [⟨0⟩]] := by
    decide +kernel
  obtain ⟨machine, followed, bases⟩ := Option.map_eq_some_iff.mp bases
  refine ⟨machine, followed, bases, ?_⟩
  rw [← read]
  exact subtypes_rooted (opens_opening makingBelow ()) followed genuine

/-- Host code that makes a type of one factory over the root type of another one, and a type of the
first factory over that. -/
def straying : Client Unit (Except Fault Unit) :=
  .call (.makeFactory {}) fun _ => .call (.makeFactory {}) fun _ =>
    .call (.create ⟨0⟩ { name := "B", primary := Builtin.text, bases := [⟨2⟩] }) fun
      | .error fault => .done (.error fault)
      | .ok base =>
          .call (.create ⟨0⟩ { name := "T", primary := Builtin.dict, bases := [base] }) fun _ =>
            .done (.ok ())

set_option maxRecDepth 20000 in
/-- A type need not be below the root type of the factory that all its given bases were made for. -/
theorem not_rooted_straying : exists machine,
    (opening straying ()).follow ClientCode.quiet.host (List.replicate 71 ⟨0⟩) = some machine ∧
      ¬ forall type given,
        (Machine.origins ClientCode.quiet.host [] (List.replicate 71 ⟨0⟩)
          (opening straying ()))[type.index]? = some (some ⟨⟨0⟩, given⟩) ->
        (forall base, base ∈ given -> machine.IsOf (Machine.origins ClientCode.quiet.host []
          (List.replicate 71 ⟨0⟩) (opening straying ())) ⟨0⟩ base) ->
        machine.store.types.isSubtypeOf type (machine.store.factory ⟨0⟩).objectType = true := by
  have read : Machine.origins ClientCode.quiet.host [] (List.replicate 71 ⟨0⟩)
      (opening straying ()) =
        [none, none, none, none, some ⟨⟨0⟩, [⟨2⟩]⟩, some ⟨⟨0⟩, [⟨4⟩]⟩] := by decide +kernel
  have apart : ((opening straying ()).follow ClientCode.quiet.host (List.replicate 71 ⟨0⟩)).map
      (fun machine => machine.store.types.isSubtypeOf ⟨5⟩ (machine.store.factory ⟨0⟩).objectType) =
        some false := by
    decide +kernel
  obtain ⟨machine, followed, apart⟩ := Option.map_eq_some_iff.mp apart
  refine ⟨machine, followed, fun rooted => ?_⟩
  rw [read] at rooted
  have below := rooted ⟨5⟩ [⟨4⟩] rfl fun base listed => by
    obtain rfl := List.mem_singleton.mp listed
    exact .inr (.inr ⟨[⟨2⟩], rfl⟩)
  cases apart.symm.trans below

end Machine

end GuestTypes
