import GuestTypes.Proofs.Initialisation
import GuestTypes.Proofs.Requests

/-!
# The types that objects carry

What an object carries is its own, but not every type will do: a replacement is checked against
the type held before it is stored, and other threads may store in between. The rules below say
what remains true all the same. An object that carries a type with a shared representation goes
on to carry types with that one, unless somebody set out to store a type of the object before it
had one; such an object is `loose`. A type with a shared representation has the host class of it
as primary class, unless some class was bound to the representation before it existed; such a
representation is `forged`. Host code that does not guess identities makes neither.
-/

namespace GuestTypes

variable {σ α β : Type} {thread : ThreadId}

/-! ## Single steps -/

/-- A table reads the fallback beyond its end. -/
theorem Table.get_of_size_le {table : Table α} {index : Nat} (beyond : table.size ≤ index) :
    table.get index = table.fallback := by
  unfold get
  rw [Array.getElem?_eq_none beyond]
  rfl

/-- A table keeps its fallback. -/
theorem Table.fallback_set (table : Table α) (index : Nat) (value : α) :
    (table.set index value).fallback = table.fallback := by
  unfold set
  split <;> rfl

/-- The binding that a step prepares. -/
def Factory.Step.prepares? : Factory.Step β -> Option (ClassId × Representation)
  | .prepare cls rep => some (cls, rep)
  | .acquire | .release | .begin _ | .finish | .collect | .discard | .cacheLayout _ _ => none

/-- What a step leaves prepared was so before, or is what it prepares. -/
theorem Factory.Step.unpublished_perform {step : Factory.Step β} {answer : β}
    {before after : Factory} (performed : step.perform thread before = some (answer, after))
    (binding : ClassId × Representation) (member : binding ∈ after.workshop.unpublished) :
    binding ∈ before.workshop.unpublished ∨ step.prepares? = some binding := by
  cases step with
  | acquire =>
      obtain ⟨lock, -, same⟩ := Option.map_eq_some_iff.mp performed
      cases same
      exact .inl member
  | prepare cls rep =>
      cases performed
      rcases List.mem_append.mp member with kept | last
      · exact .inl (List.mem_filter.mp kept).1
      · cases List.mem_singleton.mp last
        exact .inr rfl
  | release | begin _ | finish | cacheLayout _ _ =>
      cases performed
      exact .inl member
  | collect | discard =>
      cases performed
      cases member

/-- No step of a registry undoes a binding. -/
theorem Registry.Step.lookup_perform {step : Registry.Step β} {registry : Registry} {cls : ClassId}
    {rep : Representation} (bound : registry.lookup cls = some rep) :
    (step.perform registry).2.1.lookup cls = some rep := by
  cases step with
  | lookup other => exact bound
  | firstLookup other => rw [(looks_firstLookup other).lookup]; exact bound
  | secondLookup other => rw [(looks_secondLookup other).lookup]; exact bound
  | publish other offered =>
      unfold perform
      dsimp only
      split
      · exact bound
      · rename_i free
        show (registry.bind other offered).lookup cls = some rep
        rw [lookup_bind, if_neg]
        · exact bound
        · rintro rfl
          cases free.symm.trans bound
  | registerAll bindings =>
      unfold perform
      dsimp only
      split
      · exact bound
      · rename_i free
        show (registry.bindAll bindings).lookup cls = some rep
        have absent : bindings.reverse.find? (·.1 == cls) = none := by
          rw [List.find?_eq_none]
          intro binding member
          have unbound := clash?_eq_none.mp free binding (List.mem_reverse.mp member)
          rintro same
          rw [eq_of_beq same] at unbound
          cases unbound.symm.trans bound
        rw [lookup_bindAll, absent]
        exact bound
  | loseEscalation =>
      unfold perform
      dsimp only
      split <;> exact bound

namespace Store

/-- The shared representation of the type that an object carries. -/
def sharing (store : Store) (object : ObjectId) : Option SharedId :=
  (store.heap.typeOf? (.object object)).bind fun type => (store.types.row type).sharedRepresentation

/-- The registry binds the class to the representation. -/
def Binds (store : Store) (registry : RegistryId) (cls : ClassId) (rep : Representation) : Prop :=
  (store.registry registry).lookup cls = some rep

/-- No step of any registry undoes a binding. -/
theorem Binds.step {store : Store} {registry id : RegistryId} {cls : ClassId}
    {rep : Representation} {step : Registry.Step β} {guards : Table Guard} {records : Array Record}
    (bound : store.Binds registry cls rep) :
    Binds { store with
      registries := store.registries.set id.index (step.perform (store.registry id)).2.1
      guards, records } registry cls rep := by
  unfold Binds Store.registry at bound ⊢
  rw [Table.get_set]
  split
  · rename_i chosen
    rw [← chosen] at bound
    exact Registry.Step.lookup_perform bound
  · exact bound

/-- The shared representation exists, or at least some class is bound to it. -/
def Known (store : Store) (shared : SharedId) : Prop :=
  store.types.MadeShared shared ∨ exists registry cls, store.Binds registry cls (.shared shared)

/-- The object exists, and carries a type with the shared representation. -/
def Carries (store : Store) (object : ObjectId) (shared : SharedId) : Prop :=
  object.index < store.heap.size ∧ store.sharing object = some shared

end Store

/-- A type that shares its representation exists. -/
theorem TypeTable.made_of_sharedRepresentation {types : TypeTable} {type : TypeId}
    {shared : SharedId} (shares : (types.row type).sharedRepresentation = some shared) :
    types.Made type := by
  apply Classical.byContradiction
  intro absent
  unfold row at shares
  rw [Array.getElem?_eq_none (Nat.le_of_not_lt absent)] at shares
  cases shares

/-- Two types have the same layout if they share the same representation. -/
theorem TypeTable.hasSameLayout_iff {types : TypeTable} {type other : TypeId} :
    types.hasSameLayout type other = true ↔
      exists shared, (types.row type).sharedRepresentation = some shared ∧
        (types.row other).sharedRepresentation = some shared := by
  unfold hasSameLayout GuestType.hasSameLayout
  constructor
  · intro same
    split at same
    · rename_i mine theirs first last
      rw [← eq_of_beq same] at last
      exact ⟨mine, first, last⟩
    · cases same
  · rintro ⟨shared, first, last⟩
    rw [first, last]
    exact beq_self_eq_true shared

/-- The type that an object carries is in its fields. -/
theorem Heap.typeOf?_object (heap : Heap) (object : ObjectId) :
    heap.typeOf? (.object object) = (heap.object object).fields.type := by
  unfold typeOf?
  simp only [fields?]
  cases heap.object object <;> rfl

/-- An object that carries a shared representation has a type with it. -/
theorem Store.Carries.type {store : Store} {object : ObjectId} {shared : SharedId}
    (carries : store.Carries object shared) :
    exists type, (store.heap.object object).fields.type = some type ∧
      (store.types.row type).sharedRepresentation = some shared := by
  obtain ⟨type, carried, shares⟩ := Option.bind_eq_some_iff.mp carries.2
  rw [Heap.typeOf?_object] at carried
  exact ⟨type, carried, shares⟩

/-- An object whose type shares a representation carries that. -/
theorem Store.Carries.of_type {store : Store} {object : ObjectId} {type : TypeId}
    {shared : SharedId} (lies : object.index < store.heap.size)
    (carried : (store.heap.object object).fields.type = some type)
    (shares : (store.types.row type).sharedRepresentation = some shared) :
    store.Carries object shared := by
  refine ⟨lies, Option.bind_eq_some_iff.mpr ⟨type, ?_, shares⟩⟩
  rw [Heap.typeOf?_object]
  exact carried

/-- An object made with a layout carries a type, and it has a dictionary if the layout has one. -/
structure HeapObject.Furnished (object : HeapObject) (layout : Layout) : Prop where
  type : object.fields.type.isSome = true
  dict : object.fields.dict.isSome = layout.hasDict

/-- The objects agree on everything but their slots and entries, and on whether they have a
dictionary. -/
structure HeapObject.Agrees (before after : HeapObject) : Prop where
  cls : after.hostClass = before.hostClass
  layout : after.fields.layout = before.fields.layout
  type : after.fields.type = before.fields.type
  dict : after.fields.dict.isSome = before.fields.dict.isSome

theorem HeapObject.Agrees.refl (object : HeapObject) : object.Agrees object := ⟨rfl, rfl, rfl, rfl⟩

namespace HeapObject.Furnished

variable {object : HeapObject} {layout : Layout}

/-- An object stays furnished while nothing but its slots and entries change. -/
theorem agreeing {after : HeapObject} (furnished : object.Furnished layout)
    (agrees : object.Agrees after) : after.Furnished layout where
  type := (congrArg Option.isSome agrees.type).trans furnished.type
  dict := agrees.dict.trans furnished.dict

/-- Its type may be replaced. -/
theorem storeType (furnished : object.Furnished layout) (type : TypeId) :
    (object.modifyFields ({ · with type := some type })).Furnished layout := by
  cases object with
  | dictionary entries => exact furnished
  | composite fields => exact ⟨rfl, furnished.dict⟩

end HeapObject.Furnished

/-- The object whose type a call sets out to store. -/
def Call.assigned? : Call -> Option ObjectId
  | setType object _ => some object
  | _ => none

/-! ## The rules -/

/-- What the proofs remember of the identities that host code has guessed. -/
structure Marks where
  loose : ObjectId -> Prop := fun _ => False
  forged : SharedId -> Prop := fun _ => False

/-- The moments that the rules are about. -/
abbrev Sight (σ : Type) := Moment (Clients σ) Marks

namespace Typing

/-- The object was made with the layout of the class. -/
structure Built (now : Sight σ) (cls : ClassId) (object : ObjectId) : Prop where
  lies : object.index < now.store.heap.size
  layout : exists layout, (now.store.hierarchy.row cls).layout = some layout ∧
    (now.store.heap.object object).fields.layout = some layout ∧
      (now.store.heap.object object).Furnished layout
  cls : (now.store.heap.object object).hostClass = cls

/-- The object was made as an instance of the type, and unless it is loose it carries a type with
the representation of that one. -/
structure InstanceOf (now : Sight σ) (type : TypeId) (object : ObjectId) : Prop where
  built : Built now (now.store.types.row type).primary object
  shares : exists shared, (now.store.types.row type).sharedRepresentation = some shared ∧
    (now.ghost.loose object ∨ now.store.sharing object = some shared)

/-- The class is the host class of the shared representation, unless that is forged. -/
def Suits (shared : SharedId) (cls : ClassId) (now : Sight σ) : Prop :=
  now.ghost.forged shared ∨
    now.store.types.MadeShared shared ∧ (now.store.types.sharedRow shared).hostClass = cls

/-- The object may be given the type: it is loose, or the type has the representation of the types
that it carries. -/
def Takes (object : ObjectId) (type : TypeId) (now : Sight σ) : Prop :=
  now.ghost.loose object ∨ exists shared, now.store.Carries object shared ∧
    (now.store.types.row type).sharedRepresentation = some shared

/-- What a call achieves: an object that is made has the layout of its class, and is an instance of
its type. -/
def Achieves : (call : Call) -> call.Answer -> Sight σ -> Prop
  | .newInstance type, object, now => InstanceOf now type object
  | .makeObject cls _, object, now => Built now cls object
  | _, _, _ => True

/-- What always holds. -/
structure Valid (now : Sight σ) : Prop where
  registries : now.store.registries.fallback = {}
  factories : now.store.factories.fallback = default
  /-- Somebody set out to store a type of a loose object. -/
  loose : forall object, now.ghost.loose object ->
    exists record, record ∈ now.host.calls ∧ record.call.assigned? = some object
  forged : forall shared, now.ghost.forged shared ->
    exists registry cls, now.store.Binds registry cls (.shared shared)
  rows : forall type shared, (now.store.types.row type).sharedRepresentation = some shared ->
    Suits shared (now.store.types.row type).primary now
  prepared : forall factory cls shared,
    (cls, .shared shared) ∈ (now.store.factory factory).workshop.unpublished ->
      now.store.Known shared
  served : forall call answer, { call, answer := some (.ok answer) } ∈ now.host.calls ->
    Achieves call answer now

/-- What a step of any thread may do. -/
structure Moves (before after : Sight σ) : Prop where
  hierarchy : before.store.hierarchy.Extends after.store.hierarchy
  types : before.store.types.Extends after.store.types
  heap : before.store.heap.size ≤ after.store.heap.size
  objects : forall object, object.index < before.store.heap.size ->
    (after.store.heap.object object).hostClass = (before.store.heap.object object).hostClass ∧
      (after.store.heap.object object).fields.layout =
        (before.store.heap.object object).fields.layout
  furnished : forall object layout, object.index < before.store.heap.size ->
    (before.store.heap.object object).Furnished layout ->
      (after.store.heap.object object).Furnished layout
  carried : forall object shared, ¬ before.ghost.loose object ->
    before.store.Carries object shared ->
      ¬ after.ghost.loose object ∧ after.store.Carries object shared
  loose : forall object, before.ghost.loose object -> after.ghost.loose object
  forged : forall shared, before.ghost.forged shared -> after.ghost.forged shared
  genuine : forall shared, before.store.types.MadeShared shared ->
    ¬ before.ghost.forged shared -> ¬ after.ghost.forged shared
  bindings : forall registry cls rep, before.store.Binds registry cls rep ->
    after.store.Binds registry cls rep
  calls : forall (number : Nat) record, before.host.calls[number]? = some record ->
    exists later, after.host.calls[number]? = some later ∧ later.call = record.call

namespace Moves

variable {before middle after : Sight σ}

theorem refl (now : Sight σ) : Moves now now where
  hierarchy := .refl _
  types := .refl _
  heap := Nat.le_refl _
  objects := fun _ _ => ⟨rfl, rfl⟩
  furnished := fun _ _ _ => id
  carried := fun _ _ tight carries => ⟨tight, carries⟩
  loose := fun _ => id
  forged := fun _ => id
  genuine := fun _ _ => id
  bindings := fun _ _ _ => id
  calls := fun _ record found => ⟨record, found, rfl⟩

/-- A shared representation that is known stays so. -/
theorem known (moves : Moves before after) {shared : SharedId} (known : before.store.Known shared) :
    after.store.Known shared :=
  known.imp moves.types.madeShared fun ⟨registry, cls, bound⟩ =>
    ⟨registry, cls, moves.bindings registry cls _ bound⟩

/-- A type goes on to share its representation. -/
theorem shares (moves : Moves before after) {type : TypeId} {shared : SharedId}
    (shares : (before.store.types.row type).sharedRepresentation = some shared) :
    (after.store.types.row type).sharedRepresentation = some shared := by
  rw [moves.types.row type (TypeTable.made_of_sharedRepresentation shares)]
  exact shares

/-- A shared representation goes on to suit its class. -/
theorem suits (moves : Moves before after) {shared : SharedId} {cls : ClassId}
    (suits : Suits shared cls before) : Suits shared cls after := by
  obtain forged | ⟨made, host⟩ := suits
  · exact .inl (moves.forged shared forged)
  · refine .inr ⟨moves.types.madeShared made, ?_⟩
    rw [moves.types.sharedRow shared made]
    exact host

/-- An object keeps the layout of its class. -/
theorem built (moves : Moves before after) {cls : ClassId} {object : ObjectId}
    (built : Built before cls object) : Built after cls object := by
  obtain ⟨lies, ⟨layout, declared, laid, furnished⟩, own⟩ := built
  obtain ⟨sameClass, sameLayout⟩ := moves.objects object lies
  refine ⟨Nat.lt_of_lt_of_le lies moves.heap, ⟨layout, ?_, sameLayout.trans laid,
    moves.furnished object layout lies furnished⟩, sameClass.trans own⟩
  have exists_ : before.store.hierarchy.Declared cls := by
    apply Classical.byContradiction
    intro absent
    rw [Hierarchy.row_eq_root absent] at declared
    cases declared
  rw [moves.hierarchy.row _ exists_]
  exact declared

/-- An instance of a type goes on to be one. -/
theorem instanceOf (moves : Moves before after) {type : TypeId} {object : ObjectId}
    (made : InstanceOf before type object) : InstanceOf after type object := by
  obtain ⟨built, shared, shares, carries⟩ := made
  have row := moves.types.row type (TypeTable.made_of_sharedRepresentation shares)
  refine ⟨?_, shared, moves.shares shares, ?_⟩
  · rw [row]
    exact moves.built built
  · by_cases loose : before.ghost.loose object
    · exact .inl (moves.loose object loose)
    · exact .inr (moves.carried object shared loose ⟨built.lies, carries.resolve_left loose⟩).2.2

/-- What a call has achieved is not undone. -/
theorem achieves (moves : Moves before after) {call : Call} {answer : call.Answer}
    (achieves : Achieves call answer before) : Achieves call answer after := by
  cases call with
  | newInstance type => exact moves.instanceOf achieves
  | makeObject cls type => exact moves.built achieves
  | _ => trivial

end Moves

/-- Initialising classes changes nothing that the rules are about. -/
theorem Valid.progress {now : Sight σ} (valid : Valid now) (progress : Table InitState) :
    Valid (now.withProgress progress) ∧ Moves now (now.withProgress progress) := by
  have moves : Moves now (now.withProgress progress) := {
    Moves.refl now with
    carried := fun _ _ tight carries => ⟨tight, carries⟩ }
  exact ⟨⟨valid.registries, valid.factories, valid.loose, valid.forged, valid.rows, valid.prepared,
    fun call answer made => moves.achieves (valid.served call answer made)⟩, moves⟩

end Typing

/-- The rules that keep what objects carry. -/
def typing {σ : Type} : Discipline (Clients σ) Marks where
  Valid := Typing.Valid
  Moves _ := Typing.Moves
  Idle _ _ := True
  Leaves _ _ _ := True
  Quiet _ _ _ := True
  moves_refl _ := .refl
  quiet_store _ _ := trivial
  quiet_none _ := trivial
  leaves_refl _ _ := trivial
  leaves_trans _ _ := trivial
  leaves_moves _ _ _ := trivial
  idle_moves _ _ _ _ := trivial
  progress progress valid _ := by
    obtain ⟨valid, moves⟩ := Typing.Valid.progress valid progress
    exact ⟨valid, moves, trivial, trivial⟩

/-! ## Heaps -/

/-- Nothing but dictionaries and slots of objects changed, and objects were made. -/
structure Heap.Keeps (before after : Heap) : Prop where
  size : before.size ≤ after.size
  objects : forall object, object.index < before.size ->
    (before.object object).Agrees (after.object object)

namespace Heap.Keeps

theorem refl (heap : Heap) : heap.Keeps heap := ⟨Nat.le_refl _, fun _ _ => .refl _⟩

/-- One object changed, but not what is kept. -/
theorem modify (heap : Heap) (changed : ObjectId) {change : HeapObject -> HeapObject}
    (kept : forall object : HeapObject, object.Agrees (change object)) :
    heap.Keeps (heap.modify changed.index change) where
  size := heap.size_le_set _ _
  objects := by
    intro object _
    unfold Heap.object
    rw [Table.get_modify]
    split
    · exact kept _
    · exact .refl _

/-- To make an object leaves the others alone. -/
theorem allocate (heap : Heap) (made : HeapObject) : heap.Keeps (heap.push made) where
  size := by simp
  objects := by
    intro object lies
    unfold Heap.object
    rw [Table.get_push, if_neg (Nat.ne_of_gt lies)]
    exact .refl _

/-- Whatever does not store a type keeps the types of objects. -/
theorem perform {step : Heap.Step β}
    (modest : (Action.heap step).Modest False True True True) (heap : Heap) :
    heap.Keeps (step.perform heap).2 := by
  cases step with
  | allocate made => exact allocate heap made
  | storeType object type => exact modest.elim
  | storeDict object dict =>
      dsimp only [Step.perform]
      refine modify heap object fun found => ?_
      cases found with
      | dictionary entries => exact .refl _
      | composite fields => exact ⟨rfl, rfl, rfl, Option.isSome_map⟩
  | exchangeSlot object index value =>
      dsimp only [Step.perform]
      refine modify heap object fun found => ?_
      cases found <;> exact ⟨rfl, rfl, rfl, rfl⟩
  | exchangeEntry object name value =>
      dsimp only [Step.perform]
      refine modify heap object fun found => ?_
      cases found <;> exact ⟨rfl, rfl, rfl, rfl⟩

end Heap.Keeps

/-- One object is changed, and all others stay. -/
theorem Heap.object_modify (heap : Heap) (object : ObjectId) (change : HeapObject -> HeapObject)
    (other : ObjectId) : Heap.object (heap.modify object.index change) other =
      if object = other then change (heap.object other) else heap.object other := by
  unfold Heap.object
  rw [Table.get_modify]
  cases object
  cases other
  simp

/-- The type of one object is stored, and all others stay. -/
theorem Heap.object_storeType (heap : Heap) (object : ObjectId) (type : TypeId) (other : ObjectId) :
    Heap.object (Heap.Step.perform (.storeType object type) heap).2 other =
      if object = other then (heap.object other).modifyFields ({ · with type := some type })
      else heap.object other :=
  heap.object_modify object (·.modifyFields ({ · with type := some type })) other

/-- An object that carries a type carries the one that is stored then. -/
theorem HeapObject.type_modifyFields {object : HeapObject} {held type : TypeId}
    (carried : object.fields.type = some held) :
    (object.modifyFields ({ · with type := some type })).fields.type = some type := by
  cases object with
  | dictionary entries => cases carried
  | composite fields => rfl

/-! ## Actions -/

namespace Typing

variable {now : Sight σ} {store : Store}

/-- A change of the store, by what it does to the parts that the rules are about. -/
theorem Moves.ofStore (hierarchy : now.store.hierarchy.Extends store.hierarchy)
    (types : now.store.types.Extends store.types) (heap : now.store.heap.Keeps store.heap)
    (bindings : forall registry cls rep, now.store.Binds registry cls rep ->
      store.Binds registry cls rep) : Moves now (now.withStore store) where
  hierarchy := hierarchy
  types := types
  heap := heap.size
  objects := fun object lies => ⟨(heap.objects object lies).cls, (heap.objects object lies).layout⟩
  furnished := fun object layout lies furnished => furnished.agreeing (heap.objects object lies)
  carried := by
    intro object shared tight carries
    obtain ⟨type, carried, shares⟩ := carries.type
    refine ⟨tight, .of_type (Nat.lt_of_lt_of_le carries.1 heap.size)
      ((heap.objects object carries.1).type.trans carried) ?_⟩
    rw [← types.row type (TypeTable.made_of_sharedRepresentation shares)] at shares
    exact shares
  loose := fun _ => id
  forged := fun _ => id
  genuine := fun _ _ => id
  bindings := bindings
  calls := fun _ record found => ⟨record, found, rfl⟩

/-- A change of the store that keeps to the rules. -/
theorem Valid.acts (valid : Valid now) (moves : Moves now (now.withStore store))
    (registries : store.registries.fallback = {}) (factories : store.factories.fallback = default)
    (rows : forall type shared, (store.types.row type).sharedRepresentation = some shared ->
      Suits shared (store.types.row type).primary (now.withStore store))
    (prepared : forall factory cls shared,
      (cls, .shared shared) ∈ (store.factory factory).workshop.unpublished ->
        store.Known shared) :
    typing.Allows thread now (now.withStore store) where
  moves := moves
  valid := {
    registries
    factories
    loose := valid.loose
    forged := fun shared forged =>
      let ⟨registry, cls, bound⟩ := valid.forged shared forged
      ⟨registry, cls, moves.bindings registry cls _ bound⟩
    rows
    prepared
    served := fun call answer made => moves.achieves (valid.served call answer made) }

/-- The types that there were suit as they did. -/
theorem Valid.rows_later (valid : Valid now) (moves : Moves now (now.withStore store))
    {type : TypeId} {shared : SharedId}
    (shares : (now.store.types.row type).sharedRepresentation = some shared) :
    Suits shared (store.types.row type).primary (now.withStore store) := by
  have suits := moves.suits (valid.rows type shared shares)
  rw [← moves.types.row type (TypeTable.made_of_sharedRepresentation shares)] at suits
  exact suits

/-- A change of the store that the rules do not see. -/
theorem Valid.unseen (valid : Valid now) (hierarchy : store.hierarchy = now.store.hierarchy)
    (types : store.types = now.store.types) (heap : store.heap = now.store.heap)
    (registries : store.registries = now.store.registries)
    (factories : store.factories = now.store.factories) :
    typing.Allows thread now (now.withStore store) := by
  obtain ⟨hierarchy_, progress, types_, heap_, registries_, factories_, rest⟩ := store
  cases hierarchy
  cases types
  cases heap
  cases registries
  cases factories
  exact valid.acts (.ofStore (.refl _) (.refl _) (.refl _) fun _ _ _ => id) valid.registries
    valid.factories valid.rows valid.prepared

/-- A type is made. -/
theorem Valid.addType (valid : Valid now) {row : GuestType}
    (suits : forall shared, row.sharedRepresentation = some shared ->
      Suits shared row.primary now) :
    typing.Allows thread now
      (now.withStore { now.store with types := (now.store.types.add row).2 }) := by
  have moves : Moves now (now.withStore { now.store with types := (now.store.types.add row).2 }) :=
    .ofStore (.refl _) (TypeTable.extends_add _ _) (.refl _) fun _ _ _ => id
  refine valid.acts moves valid.registries valid.factories ?_ fun factory cls shared member =>
    moves.known (valid.prepared factory cls shared member)
  intro type shared shares
  have found := TypeTable.row_add now.store.types row type
  by_cases last : type.index = now.store.types.types.size
  · rw [if_pos last] at found
    have suits := moves.suits (suits shared
      ((congrArg GuestType.sharedRepresentation found).symm.trans shares))
    rw [found]
    exact suits
  · rw [if_neg last] at found
    exact valid.rows_later moves
      ((congrArg GuestType.sharedRepresentation found).symm.trans shares)

/-- A shared representation is made. -/
theorem Valid.addShared (valid : Valid now) {row : SharedRepresentation} :
    typing.Allows thread now
      (now.withStore { now.store with types := (now.store.types.addShared row).2 }) := by
  have moves : Moves now
      (now.withStore { now.store with types := (now.store.types.addShared row).2 }) :=
    .ofStore (.refl _) (TypeTable.extends_addShared _ _) (.refl _) fun _ _ _ => id
  exact valid.acts moves valid.registries valid.factories
    (fun type shared shares => valid.rows_later moves shares)
    fun factory cls shared member => moves.known (valid.prepared factory cls shared member)

/-- A representation that some class is bound to turns out not to exist. -/
theorem Valid.forge (valid : Valid now) {shared : SharedId} (known : now.store.Known shared)
    (absent : ¬ now.store.types.MadeShared shared) :
    typing.Allows thread now ⟨now.store, now.host,
      { now.ghost with forged := fun other => other = shared ∨ now.ghost.forged other }⟩ := by
  have moves : Moves now ⟨now.store, now.host,
      { now.ghost with forged := fun other => other = shared ∨ now.ghost.forged other }⟩ := {
    Moves.refl now with
    forged := fun _ => .inr
    genuine := by
      rintro other made genuine (rfl | forged)
      · exact absent made
      · exact genuine forged }
  exact {
    valid := {
      registries := valid.registries
      factories := valid.factories
      loose := valid.loose
      forged := by
        rintro other (rfl | forged)
        · exact known.resolve_left absent
        · exact valid.forged other forged
      rows := fun type other shares => (valid.rows type other shares).imp_left .inr
      prepared := valid.prepared
      served := fun call answer made => moves.achieves (valid.served call answer made) }
    moves }

/-- A registry is made, which binds nothing. -/
theorem Valid.binds_push (valid : Valid now) {escalation : Escalation} {registry : RegistryId}
    {cls : ClassId} {rep : Representation} (bound : now.store.Binds registry cls rep) :
    ((now.store.registries.push { escalation }).get registry.index).lookup cls = some rep := by
  rw [Table.get_push, if_neg]
  · exact bound
  · intro last
    unfold Store.Binds Store.registry at bound
    rw [Table.get_of_size_le (Nat.le_of_eq last), valid.registries] at bound
    have none_ : ({} : Registry).lookup cls = none := by simp [Registry.lookup, Table.get]
    cases none_.symm.trans bound

/-- A registry takes a step. -/
theorem Valid.registry (valid : Valid now) {id : RegistryId} {step : Registry.Step β}
    {answer : β}
    (performed : (Action.registry id step).perform thread now.store = some (answer, store)) :
    typing.Allows thread now (now.withStore store) := by
  obtain ⟨-, same⟩ := perform_registry performed
  subst same
  have moves : Moves now (now.withStore { now.store with
      registries := now.store.registries.set id.index (step.perform (now.store.registry id)).2.1
      guards := now.store.guards.set id.index (step.guarding thread (now.store.guard id))
      records := now.store.records ++ (step.perform (now.store.registry id)).2.2 }) :=
    .ofStore (.refl _) (.refl _) (.refl _) fun _ _ _ bound => bound.step
  refine valid.acts moves ?_ valid.factories valid.rows fun factory cls shared member =>
    moves.known (valid.prepared factory cls shared member)
  exact (Table.fallback_set _ _ _).trans valid.registries

/-- A factory takes a step, and what it prepares is known. -/
theorem Valid.factory (valid : Valid now) {id : FactoryId} {step : Factory.Step β} {answer : β}
    (performed : (Action.factory id step).perform thread now.store = some (answer, store))
    (known : forall cls shared, step.prepares? = some (cls, .shared shared) ->
      now.store.Known shared) :
    typing.Allows thread now (now.withStore store) := by
  obtain ⟨changed, stepped, rfl⟩ := perform_factory performed
  refine valid.acts (.ofStore (.refl _) (.refl _) (.refl _) fun _ _ _ bound => bound)
    valid.registries ?_ valid.rows ?_
  · exact (Table.fallback_set _ _ _).trans valid.factories
  · intro factory cls shared member
    unfold Store.factory at member
    rw [Table.get_set] at member
    split at member
    · rcases step.unpublished_perform stepped (cls, .shared shared) member with was | prepares
      · exact valid.prepared id cls shared was
      · exact known cls shared prepares
    · exact valid.prepared factory cls shared member

/-- The type of an object is stored, which must be one that it takes. -/
theorem Valid.storeType (valid : Valid now) {object : ObjectId} {type : TypeId}
    (takes : Takes object type now) :
    typing.Allows thread now (now.withStore { now.store with
      heap := (Heap.Step.perform (.storeType object type) now.store.heap).2 }) := by
  have heap := now.store.heap.object_storeType object type
  have size : now.store.heap.size ≤
      Table.size (Heap.Step.perform (.storeType object type) now.store.heap).2 :=
    now.store.heap.size_le_set _ _
  generalize (Heap.Step.perform (.storeType object type) now.store.heap).2 = changed at heap size
  have moves : Moves now (now.withStore { now.store with heap := changed }) := {
    Moves.refl now with
    heap := size
    objects := by
      intro other _
      show (changed.object other).hostClass = _ ∧ (changed.object other).fields.layout = _
      rw [heap]
      split
      · cases now.store.heap.object other <;> exact ⟨rfl, rfl⟩
      · exact ⟨rfl, rfl⟩
    furnished := by
      intro other layout _ furnished
      show (changed.object other).Furnished layout
      rw [heap]
      split
      · exact furnished.storeType type
      · exact furnished
    carried := by
      intro other shared tight carries
      refine ⟨tight, ?_⟩
      obtain ⟨held, carried, shares⟩ := carries.type
      have lies := Nat.lt_of_lt_of_le carries.1 size
      by_cases same : object = other
      · subst same
        obtain ⟨own, carriesOwn, fits⟩ := takes.resolve_left tight
        cases carriesOwn.2.symm.trans carries.2
        refine .of_type lies ?_ fits
        show (changed.object object).fields.type = some type
        rw [heap, if_pos rfl]
        exact HeapObject.type_modifyFields carried
      · refine .of_type lies ?_ shares
        show (changed.object other).fields.type = some held
        rw [heap, if_neg same]
        exact carried }
  exact valid.acts moves valid.registries valid.factories valid.rows valid.prepared

/-- A modest action keeps to the rules. -/
theorem Valid.modest (valid : Valid now) {action : Action β} {answer : β}
    (modest : action.Modest False True True True)
    (performed : action.perform thread now.store = some (answer, store)) :
    typing.Allows thread now (now.withStore store) := by
  cases action with
  | declare row =>
      cases performed
      exact valid.acts
        (.ofStore (Hierarchy.extends_declare _ _) (.refl _) (.refl _) fun _ _ _ => id)
        valid.registries valid.factories valid.rows valid.prepared
  | claim cls =>
      obtain ⟨state, -, rfl⟩ := Action.performed_claim performed
      exact valid.unseen rfl rfl rfl rfl rfl
  | addType row =>
      cases performed
      refine valid.addType fun shared shares => ?_
      cases (modest.1.resolve_right not_false).symm.trans shares
  | addShared row =>
      cases performed
      exact valid.addShared
  | addRegistry escalation =>
      cases performed
      have moves : Moves now (now.withStore { now.store with
          registries := now.store.registries.push { escalation } }) :=
        .ofStore (.refl _) (.refl _) (.refl _) fun _ _ _ bound => valid.binds_push bound
      exact valid.acts moves valid.registries valid.factories valid.rows
        fun factory cls shared member => moves.known (valid.prepared factory cls shared member)
  | addFactory maker objectType typeType =>
      obtain ⟨-, rfl⟩ := Prod.mk.inj (Option.some.inj performed)
      have moves : Moves now (now.withStore { now.store with
          registries := now.store.registries.push
            { escalation := .factory ⟨now.store.factories.size⟩ }
          factories := now.store.factories.push
            { registry := ⟨now.store.registries.size⟩
              synthesizer := maker, objectType, typeType } }) :=
        .ofStore (.refl _) (.refl _) (.refl _) fun _ _ _ bound => valid.binds_push bound
      refine valid.acts moves valid.registries valid.factories valid.rows ?_
      intro factory cls shared member
      unfold Store.factory at member
      rw [Table.get_push] at member
      split at member
      · cases member
      · exact moves.known (valid.prepared factory cls shared member)
  | registry id step => exact valid.registry performed
  | factory id step =>
      refine valid.factory performed fun cls shared prepares => ?_
      cases step with
      | prepare other rep =>
          cases prepares
          cases modest.resolve_right not_false
      | _ => cases prepares
  | heap step =>
      cases performed
      exact valid.acts (.ofStore (.refl _) (.refl _) (.perform modest _) fun _ _ _ => id)
        valid.registries valid.factories valid.rows valid.prepared
  | observe _ | addLoader | addSynthesizer _ _ | release _ | synthesizer _ _ | loader _ _
  | makeDirectories _ | writeFile _ _ | record _ =>
      cases performed
      exact valid.unseen rfl rfl rfl rfl rfl

end Typing

end GuestTypes
