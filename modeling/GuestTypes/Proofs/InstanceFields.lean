import GuestTypes.Proofs.Delivery
import GuestTypes.Proofs.Realisation
import GuestTypes.Proofs.Trust
import GuestTypes.Proofs.Typing

/-!
# Fields of an instance

An instance is a record of cells: its type, its dictionary and one cell for each slot of its
layout, under a name and an index. What each call on it answers follows from the calls before:
a cell holds what was last stored in it, and a call that is refused stores nothing.

The fields of an instance are computed from its history (`Blank.fields`), so the whole effect of
a call is one step of that history. Other threads may do what they like meanwhile, but for storing
in the same instance: `Store.PassesBy` says what they leave of it.
-/

namespace GuestTypes

variable {σ α β : Type} {thread : ThreadId}

/-! ## Calls and what they answer -/

/-- What can be asked of an instance. -/
inductive FieldCall where
  | slotAt (index : Nat)
  | setSlotAt (index : Nat) (value : Option Value)
  | slot (name : String)
  | setSlot (name : String) (value : Value)
  | deleteSlot (name : String)
  | type
  | setType (offered : TypeId)
  | dict
  | setDict (offered : Value)

namespace FieldCall

abbrev Answer : FieldCall -> Type
  | slotAt _ | setSlotAt _ _ | slot _ | setSlot _ _ | deleteSlot _ | dict => Option Value
  | type => Option TypeId
  | setType _ | setDict _ => Unit

def request (object : ObjectId) : (call : FieldCall) -> Request σ call.Answer
  | slotAt index => object.slotAt index
  | setSlotAt index value => object.setSlotAt index value
  | slot name => object.slot name
  | setSlot name value => object.setSlot name value
  | deleteSlot name => object.deleteSlot name
  | type => object.view (·.type)
  | setType offered => object.setType offered
  | dict => object.view (·.dict)
  | setDict offered => object.setDict offered

/-- What the call offers is there. -/
def Known (store : Store) : FieldCall -> Prop
  | setType offered => store.types.Made offered
  | setDict offered => (forall object, offered = .object object -> object.index < store.heap.size) ∧
      store.hierarchy.Declared (store.heap.hostClass offered)
  | slotAt _ | setSlotAt _ _ | slot _ | setSlot _ _ | deleteSlot _ | type | dict => True

end FieldCall

/-- A call on an instance, with what it was answered. -/
structure FieldRecord where
  call : FieldCall
  answer : Except Fault call.Answer

namespace FieldRecord

/-- What is stored in the named slot, if anything is. -/
def slot? (layout : Layout) (name : String) : FieldRecord -> Option (Option Value)
  | ⟨.setSlotAt index value, .ok _⟩ => if layout.slots[index]? = some name then some value else none
  | ⟨.setSlot other value, .ok _⟩ => if other = name then some (some value) else none
  | ⟨.deleteSlot other, .ok _⟩ => if other = name then some none else none
  | _ => none

/-- The type that is stored, if one is. -/
def type? : FieldRecord -> Option TypeId
  | ⟨.setType offered, .ok _⟩ => some offered
  | _ => none

/-- The dictionary that is stored, if one is. -/
def dict? : FieldRecord -> Option Value
  | ⟨.setDict offered, .ok _⟩ => some offered
  | _ => none

/-- A type is stored by one kind of call, when it succeeds. -/
theorem of_type? {past : FieldRecord} {offered : TypeId} (stored : past.type? = some offered) :
    past = ⟨.setType offered, .ok ()⟩ := by
  unfold type? at stored
  split at stored
  · cases stored
    rfl
  · cases stored

/-- A dictionary is stored by one kind of call, when it succeeds. -/
theorem of_dict? {past : FieldRecord} {offered : Value} (stored : past.dict? = some offered) :
    past = ⟨.setDict offered, .ok ()⟩ := by
  unfold dict? at stored
  split at stored
  · cases stored
    rfl
  · cases stored

/-- No call stores in two slots. -/
theorem slot?_unique {past : FieldRecord} {layout : Layout} {name other : String}
    {value another : Option Value}
    (stored : past.slot? layout name = some value) (also : past.slot? layout other = some another) :
    name = other := by
  obtain ⟨call, _ | _⟩ := past
  all_goals cases call with
  | setSlotAt _ _ | setSlot _ _ | deleteSlot _ => simp_all [slot?]
  | _ => cases stored

end FieldRecord

/-- An instance as it was made: all slots are empty. -/
structure Blank where
  cls : ClassId
  layout : Layout
  type : TypeId
  dict : Option Value

namespace Blank

variable (blank : Blank) (history : List FieldRecord)

/-! What a cell holds after some calls, of which the last comes first. -/

/-- The slot holds what was last stored under its name or at its index. -/
def slotHeld (name : String) : Option Value :=
  (history.findSome? (·.slot? blank.layout name)).getD none

def typeHeld : TypeId := (history.findSome? (·.type?)).getD blank.type

def dictHeld : Option Value := blank.dict.map fun made => (history.findSome? (·.dict?)).getD made

/-- The fields that the calls leave. -/
def fields : Instance where
  cls := blank.cls
  layout := some blank.layout
  type := some (blank.typeHeld history)
  dict := blank.dictHeld history
  slots := blank.layout.slots.map (blank.slotHeld history)

/-- What is at an index, which may be none of a slot. -/
def atIndex (store : Store) (index : Nat) : Except Fault (Option Value) :=
  match blank.layout.slots[index]? with
  | some name => .ok (blank.slotHeld history name)
  | none => .error (.internal (.found (.slotOutOfRange index (store.hierarchy.name blank.cls))))

/-- What is under a name, which may be none of a slot. -/
def atName (store : Store) (name : String) : Except Fault (Option Value) :=
  if name ∈ blank.layout.slots then .ok (blank.slotHeld history name)
  else .error (.internal (.found (.notASlot name (store.hierarchy.name blank.cls))))

end Blank

/-- What a call is to be answered after some calls. -/
def FieldCall.due (store : Store) (blank : Blank) (history : List FieldRecord) :
    (call : FieldCall) -> Except Fault call.Answer
  | slotAt index | setSlotAt index _ => blank.atIndex history store index
  | slot name | setSlot name _ | deleteSlot name => blank.atName history store name
  | type => .ok (some (blank.typeHeld history))
  | setType offered =>
      let held := blank.typeHeld history
      if store.types.hasSameLayout held offered then .ok ()
      else .error (.classAssignment (store.types.name held) (store.types.name offered))
  | dict => .ok (blank.dictHeld history)
  | setDict offered =>
      if store.heap.isDictionary offered then .ok ()
      else .error (.dictAssignment (.found {
        cls := store.hierarchy.name (store.heap.hostClass offered) }))

namespace Blank

variable {blank : Blank} {history : List FieldRecord} {call : FieldCall} {past : FieldRecord}

/-! ## What a call adds to the history -/

/-- A slot holds what the history says of its name. -/
theorem slots_fields {index : Nat} {name : String}
    (found : blank.layout.slots[index]? = some name) :
    ((blank.fields history).slots[index]?).join = blank.slotHeld history name := by
  simp [fields, found]

/-- One more call stores a type, or leaves the one before. -/
theorem typeHeld_cons :
    blank.typeHeld (past :: history) = past.type?.getD (blank.typeHeld history) := by
  unfold typeHeld
  rw [List.findSome?_cons]
  cases past.type? <;> rfl

/-- One more call stores a dictionary, or leaves the one before. -/
theorem dictHeld_cons : blank.dictHeld (past :: history) =
    (blank.dictHeld history).map fun held => past.dict?.getD held := by
  unfold dictHeld
  rw [List.findSome?_cons, Option.map_map]
  cases past.dict? <;> rfl

/-- A call that stores nothing leaves the fields as they are. -/
theorem fields_same (slot : forall name, past.slot? blank.layout name = none)
    (type : past.type? = none) (dict : past.dict? = none) :
    blank.fields (past :: history) = blank.fields history := by
  have held : blank.slotHeld (past :: history) = blank.slotHeld history := by
    funext name
    simp only [slotHeld, List.findSome?_cons, slot]
  simp only [fields, held, typeHeld, dictHeld, List.findSome?_cons, type, dict]

/-- A call that is refused stores nothing. -/
theorem fields_refused (fault : Fault) :
    blank.fields (⟨call, .error fault⟩ :: history) = blank.fields history := by
  apply fields_same
  case slot => exact fun _ => by cases call <;> rfl
  case type => cases call <;> rfl
  case dict => cases call <;> rfl

/-- A call that stores in a slot changes the value at its index. -/
theorem fields_slot {index : Nat} {name : String} {value : Option Value}
    (distinct : blank.layout.slots.Nodup) (found : blank.layout.slots[index]? = some name)
    (slot : forall other, past.slot? blank.layout other = if name = other then some value else none)
    (type : past.type? = none) (dict : past.dict? = none) :
    blank.fields (past :: history) =
      { blank.fields history with slots := (blank.fields history).slots.set index value } := by
  obtain ⟨bound, named⟩ := List.getElem?_eq_some_iff.mp found
  have held : forall other, blank.slotHeld (past :: history) other =
      if name = other then value else blank.slotHeld history other := by
    intro other
    simp only [slotHeld, List.findSome?_cons, slot]
    split <;> simp_all
  have slots : blank.layout.slots.map (blank.slotHeld (past :: history)) =
      (blank.layout.slots.map (blank.slotHeld history)).set index value := by
    refine List.ext_getElem (by simp) fun place within _ => ?_
    have inside : place < blank.layout.slots.length := by simpa using within
    have same : name = blank.layout.slots[place] ↔ index = place := by
      rw [← named]
      exact distinct.getElem_inj_iff
    simp only [List.getElem_map, List.getElem_set, held, same]
  simp only [fields, slots, typeHeld, dictHeld, List.findSome?_cons, type, dict]

/-- A type that is stored is the type of the object. -/
theorem fields_setType (offered : TypeId) :
    blank.fields (⟨.setType offered, .ok ()⟩ :: history) =
      { blank.fields history with type := some offered } := rfl

/-- A dictionary that is stored takes the place of the former one. -/
theorem fields_setDict (offered : Value) :
    blank.fields (⟨.setDict offered, .ok ()⟩ :: history) =
      { blank.fields history with dict := (blank.fields history).dict.map fun _ => offered } := by
  simp only [fields, dictHeld_cons]
  rfl

end Blank

/-! ## What happens meanwhile -/

namespace Store

/-- All layouts are those of classes that were loaded. -/
def Lawful (store : Store) : Prop :=
  forall cls layout, (store.hierarchy.row cls).layout = some layout -> layout.Lawful

/-- Time has passed: more classes, types and objects may have been made. -/
structure Ages (before after : Store) : Prop where
  hierarchy : before.hierarchy.Extends after.hierarchy
  lawful : before.Lawful -> after.Lawful
  types : before.types.Extends after.types
  size : before.heap.size ≤ after.heap.size
  /-- An object stays a dictionary, or none, of its class. -/
  kinds : forall object : ObjectId, object.index < before.heap.size ->
    (after.heap.object object).isDictionary = (before.heap.object object).isDictionary ∧
      (after.heap.object object).hostClass = (before.heap.object object).hostClass

/-- Nothing was stored in the object. -/
structure PassesBy (object : ObjectId) (before after : Store) : Prop extends Ages before after where
  object : after.heap.object object = before.heap.object object

/-- What may happen around a call on the object. -/
structure Foreign (object : ObjectId) (around : Store -> Store -> Prop) : Prop where
  refl : forall store, around store store
  trans : forall {before middle after}, around before middle -> around middle after ->
    around before after
  passes : forall {before after}, around before after -> PassesBy object before after

theorem Ages.refl (store : Store) : store.Ages store :=
  ⟨.refl _, id, .refl _, Nat.le_refl _, fun _ _ => ⟨rfl, rfl⟩⟩

theorem Ages.trans {before middle after : Store} (first : before.Ages middle)
    (last : middle.Ages after) : before.Ages after where
  hierarchy := first.hierarchy.trans last.hierarchy
  lawful := last.lawful ∘ first.lawful
  types := first.types.trans last.types
  size := Nat.le_trans first.size last.size
  kinds := fun object lies =>
    have later := last.kinds object (Nat.lt_of_lt_of_le lies first.size)
    have earlier := first.kinds object lies
    ⟨later.1.trans earlier.1, later.2.trans earlier.2⟩

/-- The kind and the class of a value stay. -/
theorem Ages.value {before after : Store} {value : Value} (ages : before.Ages after)
    (present : forall object, value = .object object -> object.index < before.heap.size) :
    after.heap.isDictionary value = before.heap.isDictionary value ∧
      after.heap.hostClass value = before.heap.hostClass value := by
  cases value with
  | object object => exact ages.kinds object (present object rfl)
  | _ => exact ⟨rfl, rfl⟩

/-- Around a call on an object others may do all but store in it. -/
theorem foreign_passes (object : ObjectId) : Foreign object (PassesBy object) where
  refl := fun store => ⟨.refl store, rfl⟩
  trans := fun first last => ⟨first.toAges.trans last.toAges, last.object.trans first.object⟩
  passes := id

end Store

namespace FieldCall

variable {blank : Blank} {history : List FieldRecord} {call : FieldCall} {now later : Store}

/-- What a call offers goes on to be there. -/
theorem Known.ages (known : call.Known now) (ages : now.Ages later) : call.Known later := by
  cases call with
  | setType offered => exact ages.types.made known
  | setDict offered =>
      refine ⟨fun object same => Nat.lt_of_lt_of_le (known.1 object same) ages.size, ?_⟩
      rw [(ages.value known.1).2]
      exact ages.hierarchy.declared known.2
  | _ => trivial

/-- Once what matters for it is there, time does not change what is due. -/
theorem due_ages (call : FieldCall) (declared : now.hierarchy.Declared blank.cls)
    (typed : now.types.Made (blank.typeHeld history)) (known : call.Known now)
    (ages : now.Ages later) : call.due later blank history = call.due now blank history := by
  have name : later.hierarchy.name blank.cls = now.hierarchy.name blank.cls :=
    congrArg HostClass.name (ages.hierarchy.row _ declared)
  cases call with
  | slotAt _ | setSlotAt _ _ => simp only [FieldCall.due, Blank.atIndex, name]
  | slot _ | setSlot _ _ | deleteSlot _ => simp only [FieldCall.due, Blank.atName, name]
  | type | dict => rfl
  | setType offered =>
      have held := ages.types.row _ typed
      have offers := ages.types.row _ known
      simp only [FieldCall.due, TypeTable.hasSameLayout, TypeTable.name, held, offers]
      rfl
  | setDict offered =>
      obtain ⟨dictionary, cls⟩ := ages.value known.1
      have row := ages.hierarchy.row _ known.2
      simp only [FieldCall.due, Hierarchy.name, dictionary, cls, row]

end FieldCall

/-! ## Requests that only look -/

/-- The request comes to the outcome and changes nothing. -/
def Request.Looks (thread : ThreadId) (around : Store -> Store -> Prop) (now : Store)
    (request : Request σ α) (outcome : Except Fault α) : Prop :=
  request.run.Delivers thread around now fun answer after => answer = outcome ∧ around now after

namespace Request.Looks

variable {around : Store -> Store -> Prop} {now : Store} {request : Request σ α} {answer : α}
  {fault : Fault} {rest : α -> Request σ β} {outcome : Except Fault β}

/-- To look at the store comes to what is seen there. -/
theorem observe {view : Store -> α} (same : forall later, around now later -> view later = answer) :
    (Request.observe view : Request σ α).Looks thread around now (.ok answer) :=
  Program.Delivers.observe fun later near => ⟨congrArg Except.ok (same later near), near⟩

theorem pure (near : around now now) :
    (Pure.pure answer : Request σ α).Looks thread around now (.ok answer) := ⟨rfl, near⟩

theorem throw (near : around now now) :
    (throw fault : Request σ α).Looks thread around now (.error fault) := ⟨rfl, near⟩

/-- A request that looks goes on with the next one. -/
theorem andThen {post : Except Fault β -> Store -> Prop}
    (looks : request.Looks thread around now (.ok answer))
    (onward : forall later, around now later ->
      (rest answer).run.Delivers thread around later post) :
    (request >>= rest).run.Delivers thread around now post := by
  refine .andThen (looks.weaken ?_)
  rintro _ after ⟨rfl, near⟩
  exact onward after near

/-- Requests that look one after the other look. -/
theorem bind
    (trans : forall {before middle after}, around before middle -> around middle after ->
      around before after)
    (looks : request.Looks thread around now (.ok answer))
    (onward : forall later, around now later -> (rest answer).Looks thread around later outcome) :
    (request >>= rest).Looks thread around now outcome :=
  looks.andThen fun later near => (onward later near).weaken fun _ _ ⟨same, further⟩ =>
    ⟨same, trans near further⟩

/-- A request that is refused is not gone on with. -/
theorem refused (looks : request.Looks thread around now (.error fault)) :
    (request >>= rest).Looks thread around now (.error fault) := by
  refine Program.Delivers.andThen (looks.weaken ?_)
  rintro _ after ⟨rfl, near⟩
  exact ⟨rfl, near⟩

end Request.Looks

/-! ## The instance in the store -/

/-- Writing what was read changes nothing. -/
theorem Table.set_get {table : Table α} {index : Nat} (within : index < table.size) :
    table.set index (table.get index) = table := by
  have inside : index < table.cells.size := within
  have same : table.cells.setIfInBounds index (table.get index) = table.cells := by
    refine Array.ext_getElem? fun place => ?_
    rw [Array.getElem?_setIfInBounds]
    split
    · rename_i here
      simp [← here, inside, get]
    · rfl
  rw [set, if_pos inside, same]

namespace ObjectId

/-- The store with other fields of the object, and nothing else changed. -/
def put (object : ObjectId) (fields : Instance) (store : Store) : Store :=
  { store with heap := store.heap.set object.index (.composite fields) }

/-- To put back what was there changes nothing. -/
theorem put_same {object : ObjectId} {fields : Instance} {store : Store}
    (lies : object.index < store.heap.size) (held : store.heap.object object = .composite fields) :
    object.put fields store = store := by
  have same : store.heap.set object.index (.composite fields) = store.heap := by
    rw [← held]
    exact Table.set_get lies
  rw [put, same]

/-- A change of the fields, as the heap makes it. -/
theorem modify_eq_put {object : ObjectId} {fields : Instance} {store : Store}
    (held : store.heap.object object = .composite fields) (change : Instance -> Instance) :
    { store with heap := store.heap.modify object.index (·.modifyFields change) } =
      object.put (change fields) store := by
  have cell : store.heap.get object.index = .composite fields := held
  rw [put, Table.modify, cell]
  rfl

/-- One object is put, and all others stay. -/
theorem object_put (object : ObjectId) (fields : Instance) (store : Store) (other : ObjectId) :
    (object.put fields store).heap.object other =
      if object = other then .composite fields else store.heap.object other := by
  unfold put Heap.object
  rw [Table.get_set]
  cases object
  cases other
  simp

end ObjectId

/-- The object lies on the heap as the calls have left it. -/
structure Blank.Holds (blank : Blank) (object : ObjectId) (history : List FieldRecord)
    (store : Store) : Prop where
  lies : object.index < store.heap.size
  fields : store.heap.object object = .composite (blank.fields history)
  declared : store.hierarchy.Declared blank.cls
  increasing : blank.layout.slots.Pairwise (· < ·)
  typed : store.types.Made (blank.typeHeld history)
  supplied : forall dict, blank.dictHeld history = some dict ->
    exists place : ObjectId, dict = .object place ∧ place.index < store.heap.size ∧
      (store.heap.object place).isDictionary = true

/-- What a call leads to: it is answered as is due, and the object is left with the fields that
the history says. All else that is different was changed by others. -/
def FieldCall.Leads (call : FieldCall) (object : ObjectId) (blank : Blank)
    (history : List FieldRecord) (around : Store -> Store -> Prop) (now : Store)
    (answer : Except Fault call.Answer) (after : Store) : Prop :=
  answer = call.due now blank history ∧ exists meanwhile, around now meanwhile ∧
    after = object.put (blank.fields (⟨call, answer⟩ :: history)) meanwhile

namespace Blank.Holds

variable {blank : Blank} {object : ObjectId} {history : List FieldRecord} {now later after : Store}
  {around : Store -> Store -> Prop} {call : FieldCall}

/-- An object holds its fields while nothing is stored in it. -/
theorem passes (holds : blank.Holds object history now) (passes : Store.PassesBy object now later) :
    blank.Holds object history later where
  lies := Nat.lt_of_lt_of_le holds.lies passes.size
  fields := passes.object.trans holds.fields
  declared := passes.hierarchy.declared holds.declared
  increasing := holds.increasing
  typed := passes.types.made holds.typed
  supplied := by
    intro dict held
    obtain ⟨place, same, lies, dictionary⟩ := holds.supplied dict held
    exact ⟨place, same, Nat.lt_of_lt_of_le lies passes.size,
      (passes.kinds place lies).1.trans dictionary⟩

/-- The slots of an object are different. -/
theorem distinct (holds : blank.Holds object history now) : blank.layout.slots.Nodup :=
  holds.increasing.imp fun low => String.ne_of_lt low

/-- The class of an object goes on to have its name. -/
theorem name (holds : blank.Holds object history now) (passes : Store.PassesBy object now later) :
    later.hierarchy.name blank.cls = now.hierarchy.name blank.cls :=
  congrArg HostClass.name (passes.hierarchy.row _ holds.declared)

/-- Only dictionaries are accepted as such. -/
theorem dictionary_of_due {offered : Value} {answer : Unit}
    (due : FieldCall.due now blank history (.setDict offered) = .ok answer) :
    exists place : ObjectId, offered = .object place ∧
      (now.heap.object place).isDictionary = true := by
  cases dictionary : now.heap.isDictionary offered with
  | false => simp [FieldCall.due, dictionary] at due
  | true =>
      cases offered with
      | object place => exact ⟨place, rfl, dictionary⟩
      | _ => cases dictionary

/-- What is due does not depend on what happens meanwhile. -/
theorem due_passes (holds : blank.Holds object history now)
    (passes : Store.PassesBy object now later)
    (known : call.Known now) : call.due later blank history = call.due now blank history :=
  call.due_ages holds.declared holds.typed known passes.toAges

/-- Time passes when the fields are stored. -/
theorem ages_put (holds : blank.Holds object history now) (other : List FieldRecord) :
    now.Ages (object.put (blank.fields other) now) where
  hierarchy := .refl _
  lawful := id
  types := .refl _
  size := now.heap.size_le_set _ _
  kinds := by
    intro place _
    rw [ObjectId.object_put]
    split
    · rename_i here
      rw [← here, holds.fields]
      exact ⟨rfl, rfl⟩
    · exact ⟨rfl, rfl⟩

/-- The object is left as the history says. -/
theorem leads (holds : blank.Holds object history now) (foreign : Store.Foreign object around)
    (known : call.Known now) {answer : Except Fault call.Answer}
    (leads : call.Leads object blank history around now answer after) :
    blank.Holds object (⟨call, answer⟩ :: history) after := by
  obtain ⟨due, meanwhile, near, rfl⟩ := leads
  have passes := foreign.passes near
  have held := holds.passes passes
  have grown := held.ages_put (⟨call, answer⟩ :: history)
  exact {
    lies := Nat.lt_of_lt_of_le held.lies grown.size
    fields := by rw [ObjectId.object_put, if_pos rfl]
    declared := held.declared
    increasing := held.increasing
    typed := by
      show meanwhile.types.Made _
      rw [Blank.typeHeld_cons]
      cases stored : FieldRecord.type? ⟨call, answer⟩ with
      | none => exact held.typed
      | some offered =>
          cases FieldRecord.of_type? stored
          exact passes.types.made known
    supplied := by
      intro dict is
      rw [Blank.dictHeld_cons] at is
      obtain ⟨was, given, rfl⟩ := Option.map_eq_some_iff.mp is
      cases stored : FieldRecord.dict? ⟨call, answer⟩ with
      | none =>
          obtain ⟨place, same, lies, dictionary⟩ := held.supplied was given
          exact ⟨place, same, Nat.lt_of_lt_of_le lies grown.size,
            (grown.kinds place lies).1.trans dictionary⟩
      | some offered =>
          cases FieldRecord.of_dict? stored
          obtain ⟨place, rfl, dictionary⟩ := dictionary_of_due due.symm
          have later := passes.toAges.trans grown
          have lies := known.1 place rfl
          exact ⟨place, rfl, Nat.lt_of_lt_of_le lies later.size,
            (later.kinds place lies).1.trans dictionary⟩ }

end Blank.Holds

/-! ## What each call leads to -/

namespace Blank.Holds

variable {blank : Blank} {object : ObjectId} {history : List FieldRecord} {now : Store}
  {around : Store -> Store -> Prop} {index : Nat} {name : String} {value : Option Value}

section Looking

variable (holds : blank.Holds object history now) (foreign : Store.Foreign object around)
include holds foreign

/-- The fields are seen as the history says. -/
theorem view (look : Instance -> α) :
    (object.view look : Request σ α).Looks thread around now
      (.ok (look (blank.fields history))) :=
  .observe fun later near => by
    rw [(holds.passes (foreign.passes near)).fields]
    rfl

/-- A refusal that names the class of the object. -/
theorem refuses (fault : String -> Fault) :
    (do throw (fault (<- object.className)) : Request σ α).Looks thread around now
      (.error (fault (now.hierarchy.name blank.cls))) := by
  have named : (object.className : Request σ String).Looks thread around now
      (.ok (now.hierarchy.name blank.cls)) := .observe fun later near => by
    rw [(holds.passes (foreign.passes near)).fields]
    exact holds.name (foreign.passes near)
  exact .bind foreign.trans named fun later _ => .throw (foreign.refl later)

/-- An index is checked against the slots. -/
theorem checkIndex (index : Nat) :
    (object.checkIndex index : Request σ Unit).Looks thread around now
      (match blank.layout.slots[index]? with
      | some _ => .ok ()
      | none =>
          .error (.internal (.found (.slotOutOfRange index (now.hierarchy.name blank.cls))))) := by
  refine .bind foreign.trans (holds.view foreign _) fun later near => ?_
  have passes := foreign.passes near
  show Request.Looks thread around later
    (if blank.layout.slots.length ≤ index then _ else _) _
  by_cases within : index < blank.layout.slots.length
  · rw [if_neg (Nat.not_le_of_lt within), List.getElem?_eq_getElem within]
    exact .pure (foreign.refl later)
  · rw [if_pos (Nat.le_of_not_lt within), List.getElem?_eq_none (Nat.le_of_not_lt within),
      ← holds.name passes]
    exact (holds.passes passes).refuses foreign fun cls =>
      .internal (.found (.slotOutOfRange index cls))

/-- A slot is found by its name where it stands. -/
theorem slotIndex (name : String) :
    (object.slotIndex name : Request σ Nat).Looks thread around now
      (match placeOf name blank.layout.slots with
      | some index => .ok index
      | none => .error (.internal (.found (.notASlot name (now.hierarchy.name blank.cls))))) := by
  refine .bind foreign.trans (holds.view foreign _) fun later near => ?_
  have passes := foreign.passes near
  show Request.Looks thread around later (match blank.layout.slotIndex name with
    | some _ => _ | none => _) _
  rw [Layout.slotIndex_eq holds.increasing]
  cases placeOf name blank.layout.slots with
  | some index => exact .pure (foreign.refl later)
  | none =>
      dsimp only
      rw [← holds.name passes]
      exact (holds.passes passes).refuses foreign fun cls => .internal (.found (.notASlot name cls))

/-- A name that no slot has is refused. -/
theorem slotIndex_refused (unlisted : name ∉ blank.layout.slots) :
    (object.slotIndex name : Request σ Nat).Looks thread around now
      (.error (.internal (.found (.notASlot name (now.hierarchy.name blank.cls))))) := by
  have searched : (object.slotIndex name : Request σ Nat).Looks thread around now _ :=
    holds.slotIndex foreign name
  cases found : placeOf name blank.layout.slots with
  | none => rwa [found] at searched
  | some index =>
      exact absurd (List.mem_of_getElem? ((placeOf_eq_some_iff holds.distinct).mp found)) unlisted

/-- To read at an index comes to what is at it. -/
theorem slotAt (index : Nat) :
    (object.slotAt index : Request σ (Option Value)).Looks thread around now
      (blank.atIndex history now index) := by
  have checked : (object.checkIndex index : Request σ Unit).Looks thread around now _ :=
    holds.checkIndex foreign index
  unfold Blank.atIndex ObjectId.slotAt
  cases found : blank.layout.slots[index]? with
  | none =>
      rw [found] at checked
      exact checked.refused
  | some name =>
      rw [found] at checked
      refine .bind foreign.trans checked fun later near => ?_
      dsimp only
      rw [← blank.slots_fields found]
      exact (holds.passes (foreign.passes near)).view foreign fun fields =>
        (fields.slots[index]?).join

/-- To read under a name comes to what is under it. -/
theorem slot (name : String) :
    (object.slot name : Request σ (Option Value)).Looks thread around now
      (blank.atName history now name) := by
  have searched : (object.slotIndex name : Request σ Nat).Looks thread around now _ :=
    holds.slotIndex foreign name
  unfold Blank.atName ObjectId.slot
  cases found : placeOf name blank.layout.slots with
  | none =>
      rw [found] at searched
      rw [if_neg (not_mem_of_placeOf found)]
      exact searched.refused
  | some index =>
      rw [found] at searched
      have placed := (placeOf_eq_some_iff holds.distinct).mp found
      rw [if_pos (List.mem_of_getElem? placed)]
      refine .bind foreign.trans searched fun later near => ?_
      have looked : (object.slotAt index : Request σ (Option Value)).Looks thread around later _ :=
        (holds.passes (foreign.passes near)).slotAt foreign index
      rwa [Blank.atIndex, placed] at looked

end Looking

/-! Calls that store. -/

/-- The answer is given, and the fields are changed. -/
def Stores (object : ObjectId) (around : Store -> Store -> Prop) (now : Store) (fields : Instance)
    (given : α) (answer : Except Fault α) (after : Store) : Prop :=
  answer = .ok given ∧ exists meanwhile, around now meanwhile ∧ after = object.put fields meanwhile

/-- What happens first may as well happen before. -/
theorem Stores.earlier {fields : Instance} {given : α} {later after : Store}
    {answer : Except Fault α} (stores : Stores object around later fields given answer after)
    (foreign : Store.Foreign object around) (near : around now later) :
    Stores object around now fields given answer after := by
  obtain ⟨same, meanwhile, further, ends⟩ := stores
  exact ⟨same, meanwhile, foreign.trans near further, ends⟩

section Storing

variable (holds : blank.Holds object history now) (foreign : Store.Foreign object around)
include holds foreign

/-- A step of the heap that changes the fields of the object. -/
theorem change {step : Heap.Step α} {given : α} (change : Instance -> Instance)
    (performed : forall heap : Heap, heap.object object = .composite (blank.fields history) ->
      step.perform heap = (given, heap.modify object.index (·.modifyFields change))) :
    (Request.perform (.heap step) : Request σ α).run.Delivers thread around now
      (Stores object around now (change (blank.fields history)) given) :=
  .perform fun later near => by
    have held := (holds.passes (foreign.passes near)).fields
    refine ⟨given, _, ?_, rfl, later, near, ObjectId.modify_eq_put held change⟩
    simp only [Action.perform, performed later.heap held]

/-- To store at an index is answered with what was there. -/
theorem setSlotAt (found : blank.layout.slots[index]? = some name) (value : Option Value) :
    (object.setSlotAt index value : Request σ (Option Value)).run.Delivers thread around now
      (Stores object around now { blank.fields history with
        slots := (blank.fields history).slots.set index value } (blank.slotHeld history name)) := by
  have checked : (object.checkIndex index : Request σ Unit).Looks thread around now _ :=
    holds.checkIndex foreign index
  rw [found] at checked
  refine checked.andThen fun later near => ?_
  have answers : forall heap : Heap, heap.object object = .composite (blank.fields history) ->
      (Heap.Step.exchangeSlot object index value).perform heap = (blank.slotHeld history name,
        heap.modify object.index (·.modifyFields fun fields =>
          { fields with slots := fields.slots.set index value })) := by
    intro heap held
    show ((heap.object object).fields.slots[index]?.join, _) = _
    rw [held, ← blank.slots_fields found]
    rfl
  exact ((holds.passes (foreign.passes near)).change foreign _ answers).weaken
    fun _ _ stores => stores.earlier foreign near

/-- A named slot that there is has a place, at which the value is stored. -/
theorem setNamed (listed : name ∈ blank.layout.slots) (value : Option Value) :
    exists index, blank.layout.slots[index]? = some name ∧
      (do object.setSlotAt (<- object.slotIndex name) value :
        Request σ (Option Value)).run.Delivers thread around now
          (Stores object around now { blank.fields history with
            slots := (blank.fields history).slots.set index value }
                (blank.slotHeld history name)) := by
  have searched : (object.slotIndex name : Request σ Nat).Looks thread around now _ :=
    holds.slotIndex foreign name
  cases found : placeOf name blank.layout.slots with
  | none => exact absurd listed (not_mem_of_placeOf found)
  | some index =>
      rw [found] at searched
      have placed := (placeOf_eq_some_iff holds.distinct).mp found
      refine ⟨index, placed, searched.andThen fun later near => ?_⟩
      exact ((holds.passes (foreign.passes near)).setSlotAt foreign placed value).weaken
        fun _ _ stores => stores.earlier foreign near

/-- The check of a type passes it or refuses it as is due. -/
theorem checkClassAssignment {offered : TypeId}
    (known : FieldCall.Known now (.setType offered)) :
    (object.checkClassAssignment offered : Request σ Unit).Looks thread around now
      (FieldCall.due now blank history (.setType offered)) := by
  refine .bind foreign.trans (holds.view foreign _) fun later near => ?_
  refine Program.Delivers.andThen (.observe fun seen further => ?_)
  rw [← holds.due_passes (foreign.passes (foreign.trans near further)) known]
  unfold Request.Followed FieldCall.due
  dsimp only
  cases seen.types.hasSameLayout (blank.typeHeld history) offered with
  | true => exact ⟨rfl, further⟩
  | false => exact ⟨rfl, further⟩

omit holds in
/-- The check of a dictionary passes it or refuses it as is due. -/
theorem checkDictAssignment {offered : Value}
    (known : FieldCall.Known now (.setDict offered)) :
    (ObjectId.checkDictAssignment offered : Request σ Unit).Looks thread around now
      (FieldCall.due now blank history (.setDict offered)) := by
  refine .bind foreign.trans (.observe fun later near =>
    ((foreign.passes near).value known.1).1) fun later near => ?_
  unfold FieldCall.due
  dsimp only
  cases now.heap.isDictionary offered with
  | true => exact .pure (foreign.refl later)
  | false =>
      refine .bind foreign.trans (.observe fun last further => ?_) fun last _ =>
        .throw (foreign.refl last)
      have passes := foreign.passes (foreign.trans near further)
      rw [(passes.value known.1).2]
      exact congrArg HostClass.name (passes.hierarchy.row _ known.2)

end Storing

/-- A call that looks leads to its answer. -/
theorem leads_of_looks {call : FieldCall} (holds : blank.Holds object history now)
    (foreign : Store.Foreign object around)
    (looks : (call.request object : Request σ call.Answer).Looks thread around now
      (call.due now blank history))
    (same : blank.fields (⟨call, call.due now blank history⟩ :: history) = blank.fields history) :
    (call.request object : Request σ call.Answer).run.Delivers thread around now
      (call.Leads object blank history around now) := by
  refine looks.weaken ?_
  rintro answer after ⟨rfl, near⟩
  have held := holds.passes (foreign.passes near)
  exact ⟨rfl, after, near, by rw [same, ObjectId.put_same held.lies held.fields]⟩

/-- So does a call that is refused. -/
theorem leads_of_refused {call : FieldCall} {fault : Fault}
    (holds : blank.Holds object history now) (foreign : Store.Foreign object around)
    (due : call.due now blank history = .error fault)
    (looks : (call.request object : Request σ call.Answer).Looks thread around now (.error fault)) :
    (call.request object : Request σ call.Answer).run.Delivers thread around now
      (call.Leads object blank history around now) := by
  rw [← due] at looks
  refine holds.leads_of_looks foreign looks ?_
  rw [due]
  exact Blank.fields_refused fault

/-- A call that stores leads to the fields that the history says. -/
theorem leads_of_stores {call : FieldCall} {given : call.Answer} {fields : Instance}
    (due : call.due now blank history = .ok given)
    (same : blank.fields (⟨call, .ok given⟩ :: history) = fields)
    (stores : (call.request object : Request σ call.Answer).run.Delivers thread around now
      (Stores object around now fields given)) :
    (call.request object : Request σ call.Answer).run.Delivers thread around now
      (call.Leads object blank history around now) := by
  refine stores.weaken ?_
  rintro answer after ⟨rfl, meanwhile, near, rfl⟩
  exact ⟨due.symm, meanwhile, near, by rw [same]⟩

/-- Whatever is asked of the instance is answered as is due, and changes no cell but its own. -/
theorem delivers (holds : blank.Holds object history now) (foreign : Store.Foreign object around)
    {call : FieldCall} (known : call.Known now) :
    (call.request object : Request σ call.Answer).run.Delivers thread around now
      (call.Leads object blank history around now) := by
  cases call with
  | slotAt index =>
      exact holds.leads_of_looks foreign (holds.slotAt foreign index)
        (Blank.fields_same (fun _ => rfl) rfl rfl)
  | slot name =>
      exact holds.leads_of_looks foreign (holds.slot foreign name)
        (Blank.fields_same (fun _ => rfl) rfl rfl)
  | type =>
      exact holds.leads_of_looks foreign (holds.view foreign _)
        (Blank.fields_same (fun _ => rfl) rfl rfl)
  | dict =>
      exact holds.leads_of_looks foreign (holds.view foreign _)
        (Blank.fields_same (fun _ => rfl) rfl rfl)
  | setSlotAt index value =>
      cases found : blank.layout.slots[index]? with
      | none =>
          have checked : (object.checkIndex index : Request σ Unit).Looks thread around now _ :=
            holds.checkIndex foreign index
          rw [found] at checked
          refine holds.leads_of_refused foreign ?_ checked.refused
          simp only [FieldCall.due, Blank.atIndex, found]
      | some name =>
          refine leads_of_stores ?_ ?_ (holds.setSlotAt foreign found value)
          · simp only [FieldCall.due, Blank.atIndex, found]
          · refine Blank.fields_slot holds.distinct found (fun other => ?_) rfl rfl
            simp only [FieldRecord.slot?, found, Option.some.injEq]
  | setSlot name value =>
      by_cases listed : name ∈ blank.layout.slots
      · obtain ⟨index, found, stores⟩ := holds.setNamed foreign listed (some value)
        refine leads_of_stores ?_ ?_ stores
        · simp only [FieldCall.due, Blank.atName, if_pos listed]
        · exact Blank.fields_slot holds.distinct found (fun _ => rfl) rfl rfl
      · refine holds.leads_of_refused foreign ?_ (holds.slotIndex_refused foreign listed).refused
        simp only [FieldCall.due, Blank.atName, if_neg listed]
  | deleteSlot name =>
      by_cases listed : name ∈ blank.layout.slots
      · obtain ⟨index, found, stores⟩ := holds.setNamed foreign listed none
        refine leads_of_stores ?_ ?_ stores
        · simp only [FieldCall.due, Blank.atName, if_pos listed]
        · exact Blank.fields_slot holds.distinct found (fun _ => rfl) rfl rfl
      · refine holds.leads_of_refused foreign ?_ (holds.slotIndex_refused foreign listed).refused
        simp only [FieldCall.due, Blank.atName, if_neg listed]
  | setType offered =>
      have checked :
          (object.checkClassAssignment offered : Request σ Unit).Looks thread around now _ :=
        holds.checkClassAssignment foreign known
      cases due : FieldCall.due now blank history (.setType offered) with
      | error fault =>
          rw [due] at checked
          exact holds.leads_of_refused foreign due checked.refused
      | ok _ =>
          rw [due] at checked
          refine leads_of_stores due (Blank.fields_setType offered) (checked.andThen
            fun later near => ?_)
          exact ((holds.passes (foreign.passes near)).change foreign
            ({ · with type := some offered }) fun _ _ => rfl).weaken
              fun _ _ stores => stores.earlier foreign near
  | setDict offered =>
      have checked : (ObjectId.checkDictAssignment offered : Request σ Unit).Looks thread around now
          (FieldCall.due now blank history (.setDict offered)) := checkDictAssignment foreign known
      cases due : FieldCall.due now blank history (.setDict offered) with
      | error fault =>
          rw [due] at checked
          exact holds.leads_of_refused foreign due checked.refused
      | ok _ =>
          rw [due] at checked
          refine leads_of_stores due (Blank.fields_setDict offered) (checked.andThen
            fun later near => ?_)
          exact ((holds.passes (foreign.passes near)).change foreign
            (fun fields => { fields with dict := fields.dict.map fun _ => offered })
            fun _ _ => rfl).weaken fun _ _ stores => stores.earlier foreign near

end Blank.Holds

end GuestTypes
