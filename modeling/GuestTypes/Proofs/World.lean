import GuestTypes.Proofs.Calls
import GuestTypes.Proofs.Growth
import GuestTypes.Proofs.Interference
import GuestTypes.Proofs.Layouts

/-!
# The rules of the kernel

What the threads of the kernel can rely on. A `World` is the part of a moment that matters
here: classes, types, the bindings of each registry, the factories and the history of calls.
`World.Valid` holds at every instant, `World.Moves` bounds one step of a thread, and `kernel`
is the discipline made of both.

A class that a factory synthesizes for a layout is nobody's before it is bound: until then only
the thread that holds the factory's lock can name it. A ghost remembers for which factory and
in which call such a class was made. All other classes are `Open`.
-/

namespace GuestTypes

/-- What proofs keep beside the store. -/
structure Ghost where
  /-- The factory and the call that a layout class was synthesized for. -/
  maker : ClassId -> Option (FactoryId × Nat) := fun _ => none
  /-- The thread that made a call. -/
  caller : Nat -> Option ThreadId := fun _ => none
  /-- The history when a call began. -/
  past : Nat -> List CallRecord := fun _ => []

/-- What the rules of the kernel are about. -/
structure World where
  hierarchy : Hierarchy
  types : TypeTable
  /-- The host class of each object. -/
  objectClass : ObjectId -> ClassId
  registryCount : Nat
  bindings : RegistryId -> ClassId -> Option Representation
  escalation : RegistryId -> Escalation
  factoryCount : Nat
  factory : FactoryId -> Factory
  calls : List CallRecord
  maker : ClassId -> Option (FactoryId × Nat)
  caller : Nat -> Option ThreadId
  past : Nat -> List CallRecord

/-- The moments of threads that run host code. -/
abbrev Instant (σ : Type) := Moment (Clients σ) Ghost

/-- The part of a moment that the rules are about. -/
def Moment.world {σ : Type} (now : Instant σ) : World where
  hierarchy := now.store.hierarchy
  types := now.store.types
  objectClass object := (now.store.heap.object object).hostClass
  registryCount := now.store.registries.size
  bindings registry cls := (now.store.registry registry).lookup cls
  escalation registry := (now.store.registry registry).escalation
  factoryCount := now.store.factories.size
  factory := now.store.factory
  calls := now.host.calls
  maker := now.ghost.maker
  caller := now.ghost.caller
  past := now.ghost.past

/-- The row of a class is what a layout class for a shape gets. -/
structure Hierarchy.Realises (hierarchy : Hierarchy) (cls : ClassId) (shape : Shape) : Prop where
  base : hierarchy.superclass cls = some shape.base
  layout : (hierarchy.row cls).layout = some shape.layout
  interfaces : shape.interfaces = []

/-- Later declarations change nothing about it. -/
theorem Hierarchy.Realises.mono {before after : Hierarchy} {cls : ClassId} {shape : Shape}
    (realises : before.Realises cls shape) (extends_ : before.Extends after) :
    after.Realises cls shape := by
  have declared : before.Declared cls := (superclass_lt realises.base).1
  exact ⟨(extends_.superclass declared).trans realises.base,
    (congrArg HostClass.layout (extends_.row cls declared)).trans realises.layout,
    realises.interfaces⟩

/-- The class extends a base with a layout. It declares the given interfaces, the one of objects
that carry their type, and the one of objects with a dictionary if the layout has one. -/
structure Hierarchy.Equips (hierarchy : Hierarchy) (cls base : ClassId) (layout : Layout)
    (interfaces : List ClassId) : Prop where
  interfaces : forall iface, iface ∈ (hierarchy.row cls).interfaces ↔ iface ∈ interfaces ∨
    iface = Builtin.withClassAssignment ∨
      layout.hasDict = true ∧ iface = Builtin.withDictAssignment
  base : hierarchy.superclass cls = some base
  layout : (hierarchy.row cls).layout = some layout

/-- What a class is equipped with does not change. -/
theorem Hierarchy.Equips.mono {before after : Hierarchy} {cls base : ClassId} {layout : Layout}
    {interfaces : List ClassId} (equips : before.Equips cls base layout interfaces)
    (extends_ : before.Extends after) : after.Equips cls base layout interfaces := by
  have row := extends_.row cls (superclass_lt equips.base).1
  exact ⟨by rw [row]; exact equips.interfaces,
    (congrArg HostClass.superclass row).trans equips.base,
    (congrArg HostClass.layout row).trans equips.layout⟩

/-- The representation of a class rules it: it is the representation of its own host class,
and every class below that one, down to this class, took it over. -/
structure Governs (hierarchy : Hierarchy) (types : TypeTable)
    (view : ClassId -> Option Representation) (cls : ClassId) (rep : Representation) : Prop where
  made : types.MadeFor rep
  hosted : view (types.hostClass rep) = some rep
  bound : types.isAccepted rep = false
  descends : exists below above,
    hierarchy.lineage cls = below ++ types.hostClass rep :: above ∧
      forall lower, lower ∈ below ->
        FactoryId.takesOver hierarchy lower = true ∧ view lower = some rep

/-- What is bound for a type that is described, is not replaceable and has the given identity:
its primary class, and the classes that it adopts. -/
def TypeDescription.Claims (wanted : TypeDescription) (type : TypeId) (cls : ClassId)
    (rep : Representation) : Prop :=
  cls = wanted.primary ∧ rep = .canonical type ∨
    exists place, wanted.adopted[place]? = some cls ∧ rep = .adopted type (place + 1)

namespace World

variable (world : World)

/-! ## Views -/

/-- What the registry of a factory binds. -/
def published (factory : FactoryId) (cls : ClassId) : Option Representation :=
  world.bindings (world.factory factory).registry cls

/-- What is published or prepared. -/
def view (factory : FactoryId) (cls : ClassId) : Option Representation :=
  (world.published factory cls).or ((world.factory factory).workshop.prepared cls)

/-- The class can be named by everybody: it is no layout class that is still to be bound. -/
def Open (cls : ClassId) : Prop :=
  world.hierarchy.Declared cls ∧ forall factory call, world.maker cls = some (factory, call) ->
    (world.published factory cls).isSome

/-- The factory was handed out. -/
def Complete (factory : FactoryId) : Prop :=
  factory.index < world.factoryCount ∧ (world.published factory Builtin.object).isSome

/-- The thread holds the lock of the factory. -/
def Holds (thread : ThreadId) (factory : FactoryId) : Prop :=
  exists again, (world.factory factory).lock = .held thread again

/-- The thread holds no lock. -/
def Idle (thread : ThreadId) : Prop := forall factory, ¬ world.Holds thread factory

/-- Nobody has bound classes in the registry of the factory directly. -/
def Sealed (factory : FactoryId) : Prop :=
  forall record, record ∈ world.calls ->
    record.call.registersIn (world.factory factory).registry = false

/-- Host code has bound classes in the registry directly. -/
def Written (registry : RegistryId) : Prop :=
  exists record, record ∈ world.calls ∧ record.call.registersIn registry = true

/-- A factory that the registry turns to answers for the binding: it has published it itself,
or the registry is its own. -/
def Confirms (registry : RegistryId) (cls : ClassId) (rep : Representation) : Prop :=
  forall factory, world.escalation registry = .factory factory ->
    factory.index < world.factoryCount ∧
      (world.published factory cls = some rep ∨ (world.factory factory).registry = registry)

/-- Every binding of a view is ruled by its representation. -/
def Governed (view : ClassId -> Option Representation) : Prop :=
  forall cls rep, view cls = some rep -> Governs world.hierarchy world.types view cls rep

/-- The layout class is bound to a shared representation of its own. -/
def Backed (factory : FactoryId) (cls : ClassId) : Prop :=
  exists shared, world.published factory cls = some (.shared shared) ∧
    world.types.MadeShared shared ∧ (world.types.sharedRow shared).hostClass = cls

/-- The type was defined as a guest class: it has a layout class and shares its
representation. -/
structure Defined (factory : FactoryId) (type : TypeId) : Prop where
  founded : factory.index < world.factoryCount
  made : world.types.Made type
  shares : exists shared, (world.types.row type).kind = .replaceable shared ∧
    world.published factory (world.types.row type).primary = some (.shared shared) ∧
    world.types.MadeShared shared ∧
    (world.types.sharedRow shared).hostClass = (world.types.row type).primary
  layout : exists shape, (shape, (world.types.row type).primary) ∈ (world.factory factory).layouts

/-- What the row of a type says about its classes. -/
structure HasRow (type : TypeId) (primary : ClassId) (others : List ClassId)
    (kind : TypeKind) : Prop where
  made : world.types.Made type
  primary : (world.types.row type).primary = primary
  others : (world.types.row type).others = others
  kind : (world.types.row type).kind = kind

/-- The type was made for a description that asks for no replaceable one: it has the described
classes, each once, and what it claims is bound. -/
structure Created (factory : FactoryId) (wanted : TypeDescription) (type : TypeId) : Prop where
  founded : factory.index < world.factoryCount
  once : wanted.repeated? = none
  row : world.HasRow type wanted.primary (wanted.adopted ++ wanted.accepted)
    (if wanted.isSimple then .simple else .adoptive wanted.adopted.length)
  bound : forall cls rep, wanted.Claims type cls rep -> world.published factory cls = some rep

/-- The type was made for a description that asks for a replaceable one: it shares the
representation that the described class is bound to. -/
structure Joined (factory : FactoryId) (wanted : TypeDescription) (type : TypeId) : Prop where
  founded : factory.index < world.factoryCount
  simple : wanted.isSimple = true
  shares : exists shared host, world.HasRow type host [] (.replaceable shared) ∧
    world.published factory wanted.primary = some (.shared shared)

/-- The class realises the specification, and everybody may name it. -/
def Realised (spec : Specification) (cls : ClassId) : Prop :=
  world.Open cls ∧ exists layout, layout.hasDict = spec.hasDict ∧
    world.hierarchy.Equips cls spec.base layout spec.interfaces

/-- What an answered call achieved, for good. -/
def Served : CallRecord -> Prop
  | ⟨.declare _, some (.ok cls)⟩ => world.Open cls
  | ⟨.synthesize _ spec, some (.ok cls)⟩ => world.Realised spec cls
  | ⟨.defineBody _ _, some (.ok cls)⟩ => world.Open cls
  | ⟨.makeRegistry (.factory factory), some (.ok registry)⟩ =>
      registry.index < world.registryCount ∧ world.escalation registry = .factory factory
  | ⟨.resolve registry cls, some (.ok rep)⟩ => world.bindings registry cls = some rep
  | ⟨.find factory cls, some (.ok (some rep))⟩ =>
      factory.index < world.factoryCount ∧ world.published factory cls = some rep
  | ⟨.findOrCreate factory cls, some (.ok rep)⟩ =>
      factory.index < world.factoryCount ∧ world.published factory cls = some rep
  | ⟨.create factory wanted, some (.ok type)⟩ =>
      (wanted.isReplaceable = false -> world.Created factory wanted type) ∧
        (wanted.isReplaceable = true -> world.Joined factory wanted type)
  | ⟨.defineClass factory _ _ _ _, some (.ok type)⟩ => world.Defined factory type
  | _ => True

/-- The base was a guest class when the tables were read: its layout class, with its layout and
superclass, is found there. -/
structure Settles (hierarchy : Hierarchy) (types : TypeTable) (base : TypeId) : Prop where
  made : types.Made base
  shares : exists shared, (types.row base).kind = .replaceable shared ∧ types.MadeShared shared ∧
    (types.sharedRow shared).hostClass = (types.row base).primary
  declared : hierarchy.Declared (types.row base).primary

/-- Tables that were read after a call had begun. They know all guest classes that had been
answered with by then. -/
structure Readings (number : Nat) (hierarchy : Hierarchy) (types : TypeTable) : Prop where
  classes : hierarchy.Extends world.hierarchy
  rows : types.Extends world.types
  begun : number < world.calls.length
  known : forall record, record ∈ world.past number -> forall factory base,
    record.defined? factory = some base -> Settles hierarchy types base

/-- The frozen specification is what the bases of a guest class add up to, by tables that were
read after the call had begun. -/
def Drafts (number : Nat) (name : String) (bases : List TypeId) (slots : Option (List String))
    (dict : Bool) (spec : Specification) : Prop :=
  exists hierarchy types inheritance draft, world.Readings number hierarchy types ∧
    Inheritance.ofBases hierarchy types (bases.map types.row) = some inheritance ∧
    hierarchy.Declared inheritance.base ∧
    inheritance.specification name slots dict = .ok draft ∧ spec = draft.freeze

/-- What a guest class that a call was answered with was derived from. -/
def Derived (number : Nat) : CallRecord -> Prop
  | ⟨.defineClass factory name bases slots dict, some (.ok type)⟩ =>
      exists root spec,
        world.Drafts number name (if bases.isEmpty then [root] else bases) slots dict spec ∧
        (spec.shape, (world.types.row type).primary) ∈ (world.factory factory).layouts
  | _ => True

/-- The call that made a layout class defines guest classes with the factory, and answers with
a type of that class if it answers at all. -/
def MadeBy (factory : FactoryId) (cls : ClassId) (record : CallRecord) : Prop :=
  record.call.definesWith factory = true ∧
    (record.answer.isSome -> exists type, record.defined? factory = some type ∧
      world.types.Made type ∧ (world.types.row type).primary = cls)

/-! ## What always holds -/

structure Valid : Prop where
  builtins : forall cls : ClassId, cls.index < Builtin.hierarchy.rows.size -> world.Open cls
  superclasses : forall cls super, world.hierarchy.superclass cls = some super -> world.Open super
  lawful : forall cls layout, (world.hierarchy.row cls).layout = some layout -> layout.Lawful
  shared : forall shared, world.types.MadeShared shared ->
    world.hierarchy.Declared (world.types.sharedRow shared).hostClass ∧
      (world.types.sharedRow shared).canonicalClass =
        world.hierarchy.superclass (world.types.sharedRow shared).hostClass
  unshared : forall shared, ¬ world.types.MadeShared shared ->
    (world.types.sharedRow shared).canonicalClass = none
  primaries : forall type, (world.types.row type).sharedRepresentation = none ->
    world.Open (world.types.row type).primary
  objects : forall object, world.Open (world.objectClass object)
  bound : forall registry cls, (world.bindings registry cls).isSome -> world.Open cls
  unbound : forall registry cls, world.registryCount ≤ registry.index ->
    world.bindings registry cls = none
  unfounded : forall factory, world.factoryCount ≤ factory.index ->
    world.factory factory = default
  served : forall record, record ∈ world.calls -> world.Served record
  derived : forall (number : Nat) record, world.calls[number]? = some record ->
    world.Derived number record
  pasts : forall number record, record ∈ world.past number -> record.answer.isSome ->
    record ∈ world.calls
  founded : forall factory, factory.index < world.factoryCount ->
    (world.factory factory).registry.index < world.registryCount ∧
      world.escalation (world.factory factory).registry = .factory factory
  /-- The root type of a factory has no bases, and the type of types has the root type alone. -/
  roots : forall factory, factory.index < world.factoryCount ->
    world.types.MadeOver (world.factory factory).objectType [] ∧
      world.types.MadeOver (world.factory factory).typeType [(world.factory factory).objectType]
  /-- A factory at rest has an empty workshop, and all its layout classes are bound. -/
  resting : forall factory, (world.factory factory).lock = .free ->
    (world.factory factory).workshop = {} ∧
      forall entry, entry ∈ (world.factory factory).layouts -> world.Backed factory entry.2
  governed : forall factory, factory.index < world.factoryCount -> world.Sealed factory ->
    world.Governed (world.published factory)
  makers : forall cls factory call, world.maker cls = some (factory, call) ->
    world.hierarchy.Declared cls ∧ factory.index < world.factoryCount ∧
      exists record, world.calls[call]? = some record ∧ world.MadeBy factory cls record
  /-- A class that was made for a guest class declares no interfaces but those of its layout. -/
  equipped : forall cls made, world.maker cls = some made ->
    exists base layout, world.hierarchy.Equips cls base layout []
  shapes : forall factory, ((world.factory factory).layouts.map (·.1)).Nodup
  layouts : forall factory entry, entry ∈ (world.factory factory).layouts ->
    (exists call, world.maker entry.2 = some (factory, call)) ∧
      world.hierarchy.Realises entry.2 entry.1

/-- The root type of a factory was made before the factory. -/
theorem Valid.rooted {world : World} (valid : world.Valid) (factory : FactoryId)
    (founded : factory.index < world.factoryCount) :
    world.types.Made (world.factory factory).objectType :=
  (valid.roots factory founded).1.made

/-! ## What a step may do -/

/-- What a step of any thread keeps. -/
structure Grows (before after : World) : Prop where
  hierarchy : before.hierarchy.Extends after.hierarchy
  types : before.types.Extends after.types
  registries : before.registryCount ≤ after.registryCount
  factories : before.factoryCount ≤ after.factoryCount
  bindings : forall registry cls rep, before.bindings registry cls = some rep ->
    after.bindings registry cls = some rep
  escalations : forall registry factory, registry.index < before.registryCount ->
    (after.escalation registry = .factory factory ↔ before.escalation registry = .factory factory)
  wiring : forall factory, factory.index < before.factoryCount ->
    (after.factory factory).registry = (before.factory factory).registry
  layouts : forall factory, factory.index < before.factoryCount ->
    (before.factory factory).layouts ⊆ (after.factory factory).layouts
  makers : forall cls made, before.maker cls = some made -> after.maker cls = some made
  unmade : forall cls made, after.maker cls = some made ->
    before.maker cls = some made ∨ ¬ before.hierarchy.Declared cls
  calls : forall (number : Nat) record, before.calls[number]? = some record ->
    exists later, after.calls[number]? = some later ∧ later.call = record.call ∧
      (record.answer.isSome -> later = record)
  callers : forall number, number < before.calls.length ->
    after.caller number = before.caller number
  pasts : forall number, number < before.calls.length -> after.past number = before.past number
  /-- A call remembers what was answered before it began. -/
  begun : forall number record, before.calls.length ≤ number -> number < after.calls.length ->
    record ∈ before.calls -> record.answer.isSome -> record ∈ after.past number

/-- What a step of one thread may do. -/
structure Moves (thread : ThreadId) (before after : World) : Prop extends Grows before after where
  opened : forall registry cls, before.bindings registry cls = none ->
    (after.bindings registry cls).isSome -> before.Open cls ∨
      exists factory call, before.maker cls = some (factory, call) ∧ before.Holds thread factory ∧
        registry = (before.factory factory).registry
  /-- What is bound in a registry is confirmed, unless host code writes to the registry. -/
  confirmed : forall registry cls rep, before.bindings registry cls = none ->
    after.bindings registry cls = some rep -> registry.index < before.registryCount ∧
      (before.Written registry ∨ before.Confirms registry cls rep)
  locked : forall factory other, other ≠ thread -> before.Holds other factory ->
    after.factory factory = before.factory factory
  unlocked : forall factory other, other ≠ thread -> after.Holds other factory ->
    before.Holds other factory
  kept : forall factory, before.Complete factory -> after.Sealed factory ->
    ¬ before.Holds thread factory -> after.published factory = before.published factory
  made : forall cls factory call, after.maker cls = some (factory, call) ->
    before.maker cls = some (factory, call) ∨
      before.Holds thread factory ∧ before.caller call = some thread
  answered : forall (number : Nat) record, before.calls[number]? = some record ->
    before.caller number ≠ some thread -> after.calls[number]? = some record
  /-- A thread answers a call when it holds no lock. -/
  concluded : forall (number : Nat) record later, before.calls[number]? = some record ->
    after.calls[number]? = some later -> record.answer = none -> later.answer.isSome ->
      after.Idle thread
  /-- A class synthesized under a lock has a shape that the factory has no class for. -/
  synthesized : forall factory cls, before.Holds thread factory ->
    ¬ before.hierarchy.Declared cls -> after.hierarchy.Declared cls ->
      forall entry, entry ∈ (before.factory factory).layouts ->
        ¬ after.hierarchy.Realises cls entry.1

/-- Host code that a thread runs leaves the calls alone that the thread is in. -/
def Leaves (thread : ThreadId) (before after : World) : Prop :=
  forall (number : Nat) record, before.calls[number]? = some record ->
    before.caller number = some thread -> record.answer = none ->
      after.calls[number]? = some record ∧ after.caller number = some thread ∧
        forall cls factory, after.maker cls = some (factory, number) ->
          before.maker cls = some (factory, number)

/-- What a step on behalf of a call leaves of the history. -/
structure Quiet (call : Option Nat) (before after : World) : Prop where
  calls : after.calls = before.calls
  caller : after.caller = before.caller
  maker : forall cls factory other, call ≠ some other ->
    after.maker cls = some (factory, other) -> before.maker cls = some (factory, other)

/-! ## Growth is a preorder, and keeps what it should -/

namespace Grows

variable {world} {before middle after : World}

theorem refl (world : World) : Grows world world where
  hierarchy := .refl _
  types := .refl _
  registries := Nat.le_refl _
  factories := Nat.le_refl _
  bindings := fun _ _ _ bound => bound
  escalations := fun _ _ _ => Iff.rfl
  wiring := fun _ _ => rfl
  layouts := fun _ _ => List.Subset.refl _
  makers := fun _ _ made => made
  unmade := fun _ _ made => .inl made
  calls := fun _ record found => ⟨record, found, rfl, fun _ => rfl⟩
  callers := fun _ _ => rfl
  pasts := fun _ _ => rfl
  begun := fun _ _ beyond below => absurd below (Nat.not_lt_of_le beyond)

variable {factory : FactoryId} {cls : ClassId} {rep : Representation} {type : TypeId}

/-- What a factory has published stays published. -/
theorem published (grows : Grows before after) (founded : factory.index < before.factoryCount)
    (bound : before.published factory cls = some rep) :
    after.published factory cls = some rep := by
  unfold World.published
  rw [grows.wiring factory founded]
  exact grows.bindings _ _ _ bound

/-- No call is forgotten. -/
theorem length (grows : Grows before after) : before.calls.length ≤ after.calls.length := by
  apply Nat.le_of_not_lt
  intro shorter
  obtain ⟨record, found⟩ : exists record, before.calls[after.calls.length]? = some record :=
    ⟨_, List.getElem?_eq_getElem shorter⟩
  obtain ⟨later, still, -, -⟩ := grows.calls _ _ found
  rw [List.getElem?_eq_none (Nat.le_refl _)] at still
  cases still

theorem trans (first : Grows before middle) (last : Grows middle after) : Grows before after where
  hierarchy := first.hierarchy.trans last.hierarchy
  types := first.types.trans last.types
  registries := Nat.le_trans first.registries last.registries
  factories := Nat.le_trans first.factories last.factories
  bindings := fun registry cls rep bound => last.bindings _ _ _ (first.bindings _ _ _ bound)
  escalations := fun registry factory made =>
    (last.escalations registry factory (Nat.lt_of_lt_of_le made first.registries)).trans
      (first.escalations registry factory made)
  wiring := fun factory founded =>
    (last.wiring factory (Nat.lt_of_lt_of_le founded first.factories)).trans
      (first.wiring factory founded)
  layouts := fun factory founded => List.Subset.trans (first.layouts factory founded)
    (last.layouts factory (Nat.lt_of_lt_of_le founded first.factories))
  makers := fun cls made was => last.makers cls made (first.makers cls made was)
  unmade := by
    intro cls made is
    rcases last.unmade cls made is with was | absent
    · exact first.unmade cls made was
    · exact .inr fun declared => absent (first.hierarchy.declared declared)
  calls := by
    intro number record found
    obtain ⟨next, still, call, same⟩ := first.calls number record found
    obtain ⟨later, kept, lastCall, equal⟩ := last.calls number next still
    refine ⟨later, kept, lastCall.trans call, fun answered => ?_⟩
    obtain rfl := same answered
    exact equal answered
  callers := fun number below =>
    (last.callers number (Nat.lt_of_lt_of_le below first.length)).trans
      (first.callers number below)
  pasts := fun number below =>
    (last.pasts number (Nat.lt_of_lt_of_le below first.length)).trans (first.pasts number below)
  begun := by
    intro number record beyond below member answered
    by_cases inside : number < middle.calls.length
    · rw [last.pasts number inside]
      exact first.begun number record beyond inside member answered
    · obtain ⟨position, found⟩ := List.mem_iff_getElem?.mp member
      obtain ⟨later, still, -, same⟩ := first.calls position record found
      obtain rfl := same answered
      exact last.begun number _ (Nat.le_of_not_lt inside) below
        (List.mem_iff_getElem?.mpr ⟨position, still⟩) answered

/-- A factory that was handed out stays so. -/
theorem complete (grows : Grows before after) (complete : before.Complete factory) :
    after.Complete factory := by
  obtain ⟨founded, bound⟩ := complete
  obtain ⟨rep, bound⟩ := Option.isSome_iff_exists.mp bound
  exact ⟨Nat.lt_of_lt_of_le founded grows.factories,
    Option.isSome_iff_exists.mpr ⟨rep, grows.published founded bound⟩⟩

/-- A registry in which nobody has bound classes by now had none bound earlier. -/
theorem sealed (grows : Grows before after) (founded : factory.index < before.factoryCount)
    (sealed : after.Sealed factory) : before.Sealed factory := by
  intro record member
  obtain ⟨number, found⟩ := List.mem_iff_getElem?.mp member
  obtain ⟨later, still, call, -⟩ := grows.calls number record found
  rw [← grows.wiring factory founded, ← call]
  exact sealed later (List.mem_iff_getElem?.mpr ⟨number, still⟩)

/-- A class that everybody may name stays so. -/
theorem opens (grows : Grows before after) (valid : before.Valid) (opened : before.Open cls) :
    after.Open cls := by
  refine ⟨grows.hierarchy.declared opened.1, fun factory call made => ?_⟩
  rcases grows.unmade cls _ made with was | absent
  · obtain ⟨-, founded, -⟩ := valid.makers cls factory call was
    obtain ⟨rep, bound⟩ := Option.isSome_iff_exists.mp (opened.2 factory call was)
    exact Option.isSome_iff_exists.mpr ⟨rep, grows.published founded bound⟩
  · exact absurd opened.1 absent

/-- A layout class stays bound to its representation. -/
theorem backed (grows : Grows before after) (founded : factory.index < before.factoryCount)
    (backed : before.Backed factory cls) : after.Backed factory cls := by
  obtain ⟨shared, bound, made, own⟩ := backed
  refine ⟨shared, grows.published founded bound, grows.types.madeShared made, ?_⟩
  rw [grows.types.sharedRow shared made]
  exact own

/-- A guest class stays defined. -/
theorem defined (grows : Grows before after) (defined : before.Defined factory type) :
    after.Defined factory type := by
  obtain ⟨founded, made, ⟨shared, kind, bound, madeShared, own⟩, shape, kept⟩ := defined
  have row := grows.types.row type made
  refine ⟨Nat.lt_of_lt_of_le founded grows.factories, grows.types.made made,
    ⟨shared, ?_⟩, shape, ?_⟩
  · rw [row, grows.types.sharedRow shared madeShared]
    exact ⟨kind, grows.published founded bound, grows.types.madeShared madeShared, own⟩
  · rw [row]
    exact grows.layouts factory founded kept

/-- The row of a type stays as it was. -/
theorem hasRow (grows : Grows before after) {primary : ClassId} {others : List ClassId}
    {kind : TypeKind} (row : before.HasRow type primary others kind) :
    after.HasRow type primary others kind := by
  obtain ⟨made, primary, others, kind⟩ := row
  have row := grows.types.row type made
  exact ⟨grows.types.made made, by rw [row]; exact primary, by rw [row]; exact others,
    by rw [row]; exact kind⟩

/-- A type stays what was created for its description. -/
theorem created (grows : Grows before after) {wanted : TypeDescription}
    (created : before.Created factory wanted type) : after.Created factory wanted type where
  founded := Nat.lt_of_lt_of_le created.founded grows.factories
  once := created.once
  row := grows.hasRow created.row
  bound := fun cls rep claimed => grows.published created.founded (created.bound cls rep claimed)

/-- A type stays what was joined for its description. -/
theorem joined (grows : Grows before after) {wanted : TypeDescription}
    (joined : before.Joined factory wanted type) : after.Joined factory wanted type where
  founded := Nat.lt_of_lt_of_le joined.founded grows.factories
  simple := joined.simple
  shares := by
    obtain ⟨shared, host, row, bound⟩ := joined.shares
    exact ⟨shared, host, grows.hasRow row, grows.published joined.founded bound⟩

/-- A class stays what realises its specification. -/
theorem realised (grows : Grows before after) (valid : before.Valid) {spec : Specification}
    (realised : before.Realised spec cls) : after.Realised spec cls := by
  obtain ⟨opened, layout, dict, equips⟩ := realised
  exact ⟨grows.opens valid opened, layout, dict, equips.mono grows.hierarchy⟩

/-- What a call achieved it has achieved for good. -/
theorem served (grows : Grows before after) (valid : before.Valid) {record : CallRecord}
    (served : before.Served record) : after.Served record := by
  unfold Served at served ⊢
  split at served
  · exact grows.opens valid served
  · exact grows.realised valid served
  · exact grows.opens valid served
  · exact ⟨Nat.lt_of_lt_of_le served.1 grows.registries,
      (grows.escalations _ _ served.1).mpr served.2⟩
  · exact grows.bindings _ _ _ served
  · exact ⟨Nat.lt_of_lt_of_le served.1 grows.factories, grows.published served.1 served.2⟩
  · exact ⟨Nat.lt_of_lt_of_le served.1 grows.factories, grows.published served.1 served.2⟩
  · exact ⟨fun kind => grows.created (served.1 kind), fun kind => grows.joined (served.2 kind)⟩
  · exact grows.defined served
  · trivial

/-- Tables that were read in a call stay good for it. -/
theorem readings (grows : Grows before after) {number : Nat} {hierarchy : Hierarchy}
    {types : TypeTable} (readings : before.Readings number hierarchy types) :
    after.Readings number hierarchy types where
  classes := readings.classes.trans grows.hierarchy
  rows := readings.rows.trans grows.types
  begun := Nat.lt_of_lt_of_le readings.begun grows.length
  known := by
    rw [grows.pasts number readings.begun]
    exact readings.known

/-- A specification stays what the bases add up to. -/
theorem drafts (grows : Grows before after) {number : Nat} {name : String} {bases : List TypeId}
    {slots : Option (List String)} {dict : Bool} {spec : Specification}
    (drafts : before.Drafts number name bases slots dict spec) :
    after.Drafts number name bases slots dict spec := by
  obtain ⟨hierarchy, types, inheritance, draft, readings, sums⟩ := drafts
  exact ⟨hierarchy, types, inheritance, draft, grows.readings readings, sums⟩

/-- What a guest class was derived from does not change. -/
theorem derived (grows : Grows before after) {number : Nat} {record : CallRecord}
    (served : before.Served record) (derived : before.Derived number record) :
    after.Derived number record := by
  unfold Derived at derived ⊢
  split at derived
  · obtain ⟨root, spec, drafts, kept⟩ := derived
    have defined : before.Defined _ _ := served
    refine ⟨root, spec, grows.drafts drafts, ?_⟩
    rw [grows.types.row _ defined.made]
    exact grows.layouts _ defined.founded kept
  · trivial

/-- What holds of all records still holds while no call is made or answered. -/
theorem derivations (grows : Grows before after) (valid : before.Valid)
    (same : after.calls = before.calls) (number : Nat) (record : CallRecord)
    (found : after.calls[number]? = some record) : after.Derived number record := by
  rw [same] at found
  exact grows.derived (valid.served record (List.mem_of_getElem? found))
    (valid.derived number record found)

/-- The call that made a layout class stays the same. -/
theorem madeBy (grows : Grows before after) {record : CallRecord}
    (madeBy : before.MadeBy factory cls record) : after.MadeBy factory cls record := by
  refine ⟨madeBy.1, fun answered => ?_⟩
  obtain ⟨type, defined, made, primary⟩ := madeBy.2 answered
  exact ⟨type, defined, grows.types.made made, by rw [grows.types.row type made]; exact primary⟩

/-- A ruled view stays ruled while it does not change. -/
theorem governed (grows : Grows before after) {view : ClassId -> Option Representation}
    (declared : forall cls, (view cls).isSome -> before.hierarchy.Declared cls)
    (governed : before.Governed view) : after.Governed view := by
  intro cls rep bound
  obtain ⟨made, hosted, accepted, below, above, chain, taken⟩ := governed cls rep bound
  have host := grows.types.hostClass made
  have existing := declared cls (by rw [bound]; rfl)
  refine ⟨grows.types.madeFor made, by rw [host]; exact hosted, ?_, below, above, ?_, ?_⟩
  · rw [grows.types.isAccepted made]
    exact accepted
  · rw [host, grows.hierarchy.lineage existing]
    exact chain
  · intro lower member
    obtain ⟨takes, same⟩ := taken lower member
    have low := declared lower (by rw [same]; rfl)
    exact ⟨by rw [grows.hierarchy.takesOver low]; exact takes, same⟩

end Grows

variable {thread mover : ThreadId} {before middle after : World}

/-- A step of a thread that keeps to the rules and to what always holds. -/
structure Allows (thread : ThreadId) (before after : World) : Prop where
  valid : after.Valid
  moves : Moves thread before after

/-- No call is answered while the history stays as it is. -/
theorem concluded_of_same (same : after.calls = before.calls) (number : Nat)
    (record later : CallRecord) (found : before.calls[number]? = some record)
    (still : after.calls[number]? = some later) (unanswered : record.answer = none)
    (answered : later.answer.isSome) : after.Idle thread := by
  rw [same, found] at still
  cases still
  rw [unanswered] at answered
  cases answered

theorem Moves.refl (thread : ThreadId) (world : World) : Moves thread world world where
  toGrows := .refl world
  opened := by
    intro registry cls unbound bound
    rw [unbound] at bound
    cases bound
  confirmed := fun _ _ _ unbound bound => nomatch unbound.symm.trans bound
  locked := fun _ _ _ _ => rfl
  unlocked := fun _ _ _ holds => holds
  kept := fun _ _ _ _ => rfl
  made := fun _ _ _ made => .inl made
  answered := fun _ _ found _ => found
  concluded := concluded_of_same rfl
  synthesized := fun _ _ _ absent declared => absurd declared absent

/-- A thread that holds no lock is given none by another one. -/
theorem Moves.idle (moves : Moves mover before after) (different : mover ≠ thread)
    (idle : before.Idle thread) : after.Idle thread :=
  fun factory holds => idle factory (moves.unlocked factory thread different.symm holds)

theorem Leaves.refl (thread : ThreadId) (world : World) : Leaves thread world world :=
  fun _ _ found made _ => ⟨found, made, fun _ _ was => was⟩

/-- Host code that leaves calls alone twice leaves them alone. -/
theorem Leaves.trans (first : Leaves thread before middle) (last : Leaves thread middle after) :
    Leaves thread before after := by
  intro number record found made unanswered
  obtain ⟨found, made, first⟩ := first number record found made unanswered
  obtain ⟨found, made, last⟩ := last number record found made unanswered
  exact ⟨found, made, fun cls factory is => first cls factory (last cls factory is)⟩

/-- What another thread does leaves the calls of a thread alone. -/
theorem Moves.leaves (moves : Moves mover before after) (different : mover ≠ thread) :
    Leaves thread before after := by
  intro number record found made unanswered
  have other : before.caller number ≠ some mover := by
    rw [made]
    exact fun same => different (Option.some.inj same).symm
  have below : number < before.calls.length := (List.getElem?_eq_some_iff.mp found).1
  refine ⟨moves.answered number record found other, (moves.callers number below).trans made, ?_⟩
  intro cls factory is
  rcases moves.made cls factory number is with was | ⟨-, own⟩
  · exact was
  · exact absurd own other

end World

/-- The rules that the threads of the kernel keep. -/
def kernel {σ : Type} : Discipline (Clients σ) Ghost where
  Valid now := now.world.Valid
  Moves thread before after := World.Moves thread before.world after.world
  Idle thread now := now.world.Idle thread
  Leaves thread before after := World.Leaves thread before.world after.world
  Quiet call before after := World.Quiet call before.world after.world
  moves_refl thread now := .refl thread now.world
  quiet_store := fun _ _ => ⟨rfl, rfl, fun _ _ _ _ made => made⟩
  quiet_none := fun quiet => ⟨quiet.calls, quiet.caller, fun cls factory other _ =>
    quiet.maker cls factory other nofun⟩
  leaves_refl thread now := .refl thread now.world
  leaves_trans := .trans
  leaves_moves := fun different _ moves => moves.leaves different
  idle_moves := fun different _ moves idle => moves.idle different idle
  progress := fun _ valid idle => ⟨valid, .refl _ _, idle, .refl _ _⟩

end GuestTypes
