import GuestTypes.Proofs.ForeignCode
import GuestTypes.Proofs.InstanceFields

/-!
# The life of an instance

From the moment it is made on, an instance is called upon and time passes. Whatever the sequence
of calls is, each was answered as the earlier ones made it due, and so will be the next one.
-/

namespace GuestTypes

variable {σ α β : Type} {thread : ThreadId}

/-- A program comes to an answer if only what is allowed happens around it. -/
inductive Program.Comes (thread : ThreadId) (around : Store -> Store -> Prop) :
    Program σ α -> Store -> α -> Store -> Prop where
  | done {answer : α} {now : Store} : Comes thread around (.done answer) now answer now
  | act {β : Type} {action : Action β} {next : β -> Program σ α} {answered : β} {answer : α}
      {now later store after : Store} (near : around now later)
      (performed : action.perform thread later = some (answered, store))
      (rest : Comes thread around (next answered) store answer after) :
      Comes thread around (.act action next) now answer after

namespace Program.Delivers

variable {around : Store -> Store -> Prop} {program : Program σ α} {now after : Store} {answer : α}
  {post : α -> Store -> Prop}

/-- What a program delivers holds however it comes to its answer. -/
theorem of_comes (delivers : program.Delivers thread around now post)
    (comes : program.Comes thread around now answer after) : post answer after := by
  induction comes with
  | done => exact delivers
  | act near performed _ inductionHypothesis =>
      obtain ⟨_, _, same, rest⟩ := delivers _ near
      cases performed.symm.trans same
      exact inductionHypothesis rest

/-- A program that delivers comes to an answer even on its own. -/
theorem comes (delivers : program.Delivers thread around now post)
    (alone : forall store, around store store) :
    exists answer after, program.Comes thread around now answer after ∧ post answer after := by
  induction delivers using induction_on with
  | done answer now ends => exact ⟨answer, now, .done, ends⟩
  | act action next now delivers inductionHypothesis =>
      obtain ⟨answered, store, performed, rest⟩ := delivers now (alone now)
      obtain ⟨answer, after, comes, holds⟩ := inductionHypothesis answered store rest
      exact ⟨answer, after, .act (alone now) performed comes, holds⟩

end Program.Delivers

/-! ## Objects on the heap -/

namespace Heap

/-- Objects keep their kinds, and all but one keep what is stored in them. -/
structure Passes (stored : Option ObjectId) (before after : Heap) : Prop where
  size : before.size ≤ after.size
  kinds : forall object : ObjectId, object.index < before.size ->
    (after.object object).isDictionary = (before.object object).isDictionary ∧
      (after.object object).hostClass = (before.object object).hostClass
  objects : forall object : ObjectId, object.index < before.size -> stored ≠ some object ->
    after.object object = before.object object

variable {heap : Heap} {stored : Option ObjectId}

theorem Passes.refl : heap.Passes stored heap :=
  ⟨Nat.le_refl _, fun _ _ => ⟨rfl, rfl⟩, fun _ _ _ => rfl⟩

/-- To make an object leaves the others as they are. -/
theorem passes_push (object : HeapObject) : heap.Passes stored (heap.push object) := by
  have same : forall other : ObjectId, other.index < heap.size ->
      Heap.object (heap.push object) other = heap.object other := by
    intro other lies
    unfold Heap.object
    rw [Table.get_push, if_neg (Nat.ne_of_gt lies)]
  refine ⟨by simp, fun other lies => ?_, fun other lies _ => same other lies⟩
  rw [same other lies]
  exact ⟨rfl, rfl⟩

/-- One object changes, and keeps its kind. -/
theorem passes_modify (target : ObjectId) {change : HeapObject -> HeapObject}
    (keeps : forall object : HeapObject, (change object).isDictionary = object.isDictionary ∧
      (change object).hostClass = object.hostClass) :
    heap.Passes (some target) (heap.modify target.index change) where
  size := heap.size_le_set _ _
  kinds := by
    intro other _
    rw [object_modify]
    split
    · exact keeps _
    · exact ⟨rfl, rfl⟩
  objects := fun other _ different => by
    rw [object_modify, if_neg fun same => different (congrArg some same)]

namespace Step

/-- The object that the step stores something in. -/
def stored? : Step β -> Option ObjectId
  | allocate _ => none
  | storeType object _ | storeDict object _ | exchangeSlot object _ _ | exchangeEntry object _ _ =>
      some object

/-- A step of the heap stores in one object at most. -/
theorem passes (step : Step β) (heap : Heap) : heap.Passes step.stored? (step.perform heap).2 := by
  cases step with
  | allocate object => exact passes_push object
  | storeType object _ | storeDict object _ | exchangeSlot object _ _ | exchangeEntry object _ _ =>
      dsimp only [perform, stored?]
      apply passes_modify
      intro held
      cases held <;> exact ⟨rfl, rfl⟩

end Step

end Heap

/-- Time passes when an object is made. -/
theorem Store.ages_allocate (store : Store) (object : HeapObject) :
    store.Ages { store with heap := store.heap.push object } where
  hierarchy := .refl _
  lawful := id
  types := .refl _
  size := ((Heap.Step.allocate object).passes store.heap).size
  kinds := ((Heap.Step.allocate object).passes store.heap).kinds

/-! ## Making an instance -/

/-- The blank is that of an instance of the type. -/
structure Blank.Of (blank : Blank) (type : TypeId) (store : Store) : Prop where
  made : blank.type = type
  cls : blank.cls = (store.types.row type).primary
  layout : (store.hierarchy.row blank.cls).layout = some blank.layout
  dict : blank.dict.isSome = blank.layout.hasDict

/-- The type is one of guest classes whose instances the kernel makes. -/
def Store.Instantiable (store : Store) (type : TypeId) : Prop :=
  (store.types.row type).isReplaceable = true ∧
    store.hierarchy.isSynthesized (store.types.row type).primary = true

/-- The slots of a class that was loaded are strictly in order. -/
theorem Layout.Lawful.increasing {layout : Layout} (lawful : layout.Lawful) :
    layout.slots.Pairwise (· < ·) := by
  have sorted : layout.slots.mergeSort (fun left right => decide (left ≤ right)) = layout.slots :=
    congrArg Layout.slots lawful.ordered
  rw [← sorted]
  exact Specification.increasing_mergeSort lawful.distinct

namespace Store

variable {store : Store} {type : TypeId}

/-- A type that shares a representation was made. -/
theorem made_of_isReplaceable (replaceable : (store.types.row type).isReplaceable = true) :
    store.types.Made type :=
  have ⟨_, shares⟩ := Option.isSome_iff_exists.mp replaceable
  TypeTable.made_of_sharedRepresentation shares

/-- A class with a layout was declared. -/
theorem declared_of_layout {cls : ClassId} {layout : Layout}
    (laid : (store.hierarchy.row cls).layout = some layout) : store.hierarchy.Declared cls := by
  by_contra absent
  rw [Hierarchy.row_eq_root absent] at laid
  cases laid

end Store

/-- Without calls the dictionary is that of the blank. -/
theorem Blank.dictHeld_nil (blank : Blank) : blank.dictHeld [] = blank.dict := Option.map_id'

/-- The blank of an instance goes on to be that. -/
theorem Blank.Of.ages {blank : Blank} {type : TypeId} {now later : Store} (of : blank.Of type now)
    (made : now.types.Made type) (ages : now.Ages later) : blank.Of type later where
  made := of.made
  cls := of.cls.trans (congrArg GuestType.primary (ages.types.row type made)).symm
  layout := (congrArg HostClass.layout
    (ages.hierarchy.row _ (Store.declared_of_layout of.layout))).trans of.layout
  dict := of.dict

section Making

variable {type : TypeId} {cls : ClassId} {layout : Layout} {now : Store}

/-- The object that is allocated lies there as it was made. -/
theorem Blank.holds_push {blank : Blank} (declared : now.hierarchy.Declared blank.cls)
    (increasing : blank.layout.slots.Pairwise (· < ·)) (made : now.types.Made blank.type)
    (supplied : forall dict, blank.dict = some dict -> exists place : ObjectId,
      dict = .object place ∧ place.index < now.heap.size ∧
        (now.heap.object place).isDictionary = true) :
    blank.Holds ⟨now.heap.size⟩ [] { now with heap := now.heap.push (.composite {
      cls := blank.cls, layout := some blank.layout, type := some blank.type, dict := blank.dict
      slots := List.replicate blank.layout.slots.length none }) } where
  lies := by simp
  fields := by
    have slots : blank.layout.slots.map (blank.slotHeld []) =
        List.replicate blank.layout.slots.length none := List.map_const' ..
    unfold Heap.object
    rw [Table.get_push, if_pos rfl, fields, slots, dictHeld_nil]
    rfl
  declared := declared
  increasing := increasing
  typed := made
  supplied := by
    intro dict held
    rw [dictHeld_nil] at held
    obtain ⟨place, same, lies, dictionary⟩ := supplied dict held
    refine ⟨place, same, by simpa using Nat.lt_succ_of_lt lies, ?_⟩
    unfold Heap.object
    rw [Table.get_push, if_neg (Nat.ne_of_gt lies)]
    exact dictionary

/-- What becomes of the wish for an instance: there is one, with nothing stored in it yet, or the
type was not such that the kernel makes any. -/
def TypeId.Makes (type : TypeId) (now : Store) : Except Fault ObjectId -> Store -> Prop
  | .ok object, after => now.Ages after ∧
      exists blank : Blank, blank.Of type after ∧ blank.Holds object [] after
  | .error _, _ => ¬ now.Instantiable type

/-- An object is made with the layout of its class, and a dictionary if that has one. -/
theorem delivers_make (lawful : now.Lawful) (made : now.types.Made type)
    (primary : (now.types.row type).primary = cls)
    (laid : (now.hierarchy.row cls).layout = some layout) :
    (ObjectId.make cls type : Request σ ObjectId).run.Delivers thread Store.Ages now
      fun outcome after => exists object blank, outcome = .ok object ∧ now.Ages after ∧
        Blank.Of blank type after ∧ blank.Holds object [] after := by
  have declared := Store.declared_of_layout laid
  refine .andThen (.observe fun seen ages => ?_)
  unfold Request.Followed
  dsimp only
  rw [ages.hierarchy.row cls declared, laid]
  -- From here on only the table of objects grows, but for what others add.
  have allocates : forall {later : Store} (dict : Option Value), now.Ages later ->
      dict.isSome = layout.hasDict ->
      (forall value, dict = some value -> exists place : ObjectId, value = .object place ∧
        place.index < later.heap.size ∧ (later.heap.object place).isDictionary = true) ->
      (Request.perform (.heap (.allocate (.composite {
        cls, layout := some layout, type := some type, dict
        slots := List.replicate layout.slots.length none }))) :
          Request σ ObjectId).run.Delivers thread Store.Ages later
        fun outcome after => exists object blank, outcome = .ok object ∧ now.Ages after ∧
          Blank.Of blank type after ∧ blank.Holds object [] after := by
    intro later dict ages same supplied
    refine .perform fun last further => ⟨_, _, rfl, _, { cls, layout, type, dict }, rfl,
      (ages.trans further).trans (Store.ages_allocate last _), ?_, ?_⟩
    · have ages := ages.trans further
      exact ⟨rfl, primary.symm.trans (congrArg GuestType.primary (ages.types.row type made)).symm,
        (congrArg HostClass.layout (ages.hierarchy.row cls declared)).trans laid, same⟩
    · have ages := ages.trans further
      refine Blank.holds_push (ages.hierarchy.declared declared) (lawful cls layout laid).increasing
        (ages.types.made made) fun value is => ?_
      obtain ⟨place, same, lies, dictionary⟩ := supplied value is
      exact ⟨place, same, Nat.lt_of_lt_of_le lies further.size,
        (further.kinds place lies).1.trans dictionary⟩
  dsimp only
  cases has : layout.hasDict with
  | false => exact allocates none ages has.symm nofun
  | true =>
      refine .andThen (.andThen (.perform fun later near => ⟨_, _, rfl, ?_⟩))
      have grown := Store.ages_allocate later (.dictionary [])
      refine allocates _ ((ages.trans near).trans grown) has.symm ?_
      rintro _ ⟨⟩
      refine ⟨_, rfl, by simp, ?_⟩
      unfold Heap.object
      rw [Table.get_push, if_pos rfl]
      rfl

/-- The kernel makes an instance of each type that it can make instances of, and of no other. -/
theorem delivers_newInstance (lawful : now.Lawful) :
    (type.newInstance : Request σ ObjectId).run.Delivers thread Store.Ages now
      (type.Makes now) := by
  refine .andThen (.observe fun first ages => ?_)
  refine .andThen (.observe fun second near => ?_)
  have later := ages.trans near
  unfold Request.Followed
  dsimp only
  by_cases both : ((first.types.row type).isReplaceable &&
      second.hierarchy.isSynthesized (first.types.row type).primary) = true
  · rw [if_pos both]
    obtain ⟨replaceable, synthesized⟩ := Bool.and_eq_true_iff.mp both
    have made := Store.made_of_isReplaceable replaceable
    obtain ⟨layout, laid⟩ := Option.isSome_iff_exists.mp synthesized
    refine (delivers_make (later.lawful lawful) (near.types.made made)
      (congrArg GuestType.primary (near.types.row type made)) laid).weaken ?_
    rintro _ after ⟨object, blank, rfl, grown, of, holds⟩
    exact ⟨later.trans grown, blank, of, holds⟩
  · rw [if_neg both]
    rintro ⟨replaceable, synthesized⟩
    obtain ⟨layout, laid⟩ := Option.isSome_iff_exists.mp synthesized
    have row := ages.types.row type (Store.made_of_isReplaceable replaceable)
    have declared := later.hierarchy.row _ (Store.declared_of_layout laid)
    apply both
    rw [row, Bool.and_eq_true_iff]
    exact ⟨replaceable, (congrArg (·.layout.isSome) declared).trans synthesized⟩

end Making

/-! ## Steps of any thread -/

/-- The object that the action stores something in. -/
def Action.stored? : Action β -> Option ObjectId
  | .heap step => step.stored?
  | _ => none

/-- No action changes the kind of an object, or more than one object. -/
theorem Action.heap_passes {action : Action β} {answer : β} {before after : Store}
    (performed : action.perform thread before = some (answer, after)) :
    before.heap.Passes action.stored? after.heap := by
  cases action with
  | claim cls =>
      obtain ⟨_, -, same⟩ := Option.map_eq_some_iff.mp performed
      cases same
      exact .refl
  | factory id step =>
      obtain ⟨_, -, same⟩ := Option.map_eq_some_iff.mp performed
      cases same
      exact .refl
  | heap step =>
      cases performed
      exact step.passes before.heap
  | _ =>
      cases performed
      exact .refl

namespace Machine

/-- The object that the next step of a thread stores something in. -/
def stored? (machine : Machine σ) (thread : ThreadId) : Option ObjectId :=
  match machine.threads[thread.index]? with
  | some (.running (.act action _) _) => action.stored?
  | _ => none

/-- Steps of threads, none of which stores anything in the object. -/
inductive PassesBy (code : HostCode σ) (object : ObjectId) : Machine σ -> Machine σ -> Prop where
  | refl {machine : Machine σ} : PassesBy code object machine machine
  | step {start machine next : Machine σ} {thread : ThreadId}
      (passes : PassesBy code object start machine)
      (moved : machine.step code thread = some next)
      (spares : machine.stored? thread ≠ some object) : PassesBy code object start next

variable {code : ClientCode σ} {machine next later : Machine (Clients σ)} {object : ObjectId}

/-- Steps that spare an object are steps. -/
theorem PassesBy.steps (passes : machine.PassesBy code.host object later) :
    Steps code.host machine later := by
  induction passes with
  | refl => exact .refl
  | step _ moved _ inductionHypothesis => exact .step inductionHypothesis ⟨_, moved⟩

/-- A step of any thread changes no more of the heap than the object that it stores in. -/
theorem heap_passes (moved : machine.step code.host thread = some next) :
    machine.store.heap.Passes (machine.stored? thread) next.store.heap := by
  obtain ⟨control, frames, running, turn⟩ := step_eq_some_iff.mp moved
  unfold stored?
  rw [running]
  cases foreign : control.isForeign with
  | true =>
      obtain ⟨progress, same⟩ := turn.progress foreign
      rw [same]
      exact .refl
  | false =>
      cases turn with
      | acted answer store performed => exact Action.heap_passes performed
      | _ => cases foreign

/-- Amid other threads an object is passed by, as long as none stores anything in it. -/
theorem Reachable.passes_step (reachable : machine.Reachable code)
    (moved : machine.step code.host thread = some next)
    (lies : object.index < machine.store.heap.size)
    (spares : machine.stored? thread ≠ some object) :
    Store.PassesBy object machine.store next.store := by
  obtain ⟨now, kept⟩ := reachable.kept
  obtain ⟨after, allowed, reached⟩ := kept.step (trusts_host code) moved
  have grows : World.Grows now.world after.world := allowed.moves.toGrows
  have valid : after.world.Valid := reached.valid
  have passes := heap_passes moved
  exact {
    hierarchy := by
      rw [kept.store, reached.store]
      exact grows.hierarchy
    types := by
      rw [kept.store, reached.store]
      exact grows.types
    lawful := fun _ => by
      rw [reached.store]
      exact valid.lawful
    size := passes.size
    kinds := passes.kinds
    object := passes.objects object lies spares }

/-- So it is by a run of the machine. -/
theorem Reachable.passes_run (reachable : machine.Reachable code)
    (lies : object.index < machine.store.heap.size)
    (passes : machine.PassesBy code.host object later) :
    Store.PassesBy object machine.store later.store := by
  induction passes with
  | refl => exact (Store.foreign_passes object).refl _
  | step run moved spares inductionHypothesis =>
      exact (Store.foreign_passes object).trans inductionHypothesis
        ((reachable.steps run.steps).passes_step moved
          (Nat.lt_of_lt_of_le lies inductionHypothesis.size) spares)

end Machine

/-! ## Calls and time -/

/-- What an instance of a type has been asked since it was made, the last call first. -/
inductive ObjectId.Life (code : ClientCode σ) (type : TypeId) (object : ObjectId) :
    List FieldRecord -> Store -> Prop where
  | made {thread : ThreadId} {machine : Machine (Clients σ)} {after : Store}
      (reachable : machine.Reachable code)
      (comes : (type.newInstance : Request (Clients σ) ObjectId).run.Comes thread Store.Ages
        machine.store (.ok object) after) :
      Life code type object [] after
  | passes {history : List FieldRecord} {before after : Store}
      (life : Life code type object history before) (passes : Store.PassesBy object before after) :
      Life code type object history after
  | called {thread : ThreadId} {history : List FieldRecord} {call : FieldCall}
      {answer : Except Fault call.Answer} {now after : Store}
      (life : Life code type object history now) (known : call.Known now)
      (comes : (call.request object : Request (Clients σ) call.Answer).run.Comes thread
        (Store.PassesBy object) now answer after) :
      Life code type object (⟨call, answer⟩ :: history) after

/-- The object is a record of the cells of the blank. -/
structure ObjectId.IsRecord (σ : Type) (object : ObjectId) (blank : Blank)
    (history : List FieldRecord) (now : Store) : Prop where
  /-- Each slot has one name and one index. -/
  indices : forall name index, blank.layout.slotIndex name = some index ↔
    blank.layout.slots[index]? = some name
  /-- No call stores in two slots. -/
  single : forall (past : FieldRecord) name other value another,
    past.slot? blank.layout name = some value -> past.slot? blank.layout other = some another ->
      name = other
  fields : now.heap.object object = .composite (blank.fields history)
  dictionary : forall dict, blank.dictHeld history = some dict -> now.heap.isDictionary dict = true
  /-- Whatever was asked was answered as the calls before it had made it due. -/
  answers : forall later past earlier, history = later ++ past :: earlier ->
    past.answer = past.call.due now blank earlier
  /-- So will be whatever is asked next, whatever happens around it. -/
  next : forall (thread : ThreadId) (around : Store -> Store -> Prop) (call : FieldCall),
    Store.Foreign object around -> call.Known now ->
      (call.request object : Request σ call.Answer).run.Delivers thread around now
        (call.Leads object blank history around now)
  refused : forall (call : FieldCall) fault,
    object.put (blank.fields (⟨call, .error fault⟩ :: history)) now = now
  others : forall fields other, other ≠ object ->
    (object.put fields now).heap.object other = now.heap.object other

/-- A call was answered as was due, for reasons that time does not change. -/
structure FieldRecord.Settled (past : FieldRecord) (blank : Blank) (earlier : List FieldRecord)
    (now : Store) : Prop where
  answer : past.answer = past.call.due now blank earlier
  known : past.call.Known now
  typed : now.types.Made (blank.typeHeld earlier)

/-- What was due stays so. -/
theorem FieldRecord.Settled.ages {past : FieldRecord} {blank : Blank} {earlier : List FieldRecord}
    {now later : Store} (settled : past.Settled blank earlier now)
    (declared : now.hierarchy.Declared blank.cls) (ages : now.Ages later) :
    past.Settled blank earlier later where
  answer := settled.answer.trans
    (past.call.due_ages declared settled.typed settled.known ages).symm
  known := settled.known.ages ages
  typed := ages.types.made settled.typed

/-- What is known of an instance all its life. -/
structure Blank.Lives (blank : Blank) (type : TypeId) (object : ObjectId)
    (history : List FieldRecord) (now : Store) : Prop where
  of : blank.Of type now
  made : now.types.Made type
  holds : blank.Holds object history now
  settled : forall later past earlier, history = later ++ past :: earlier ->
    past.Settled blank earlier now

namespace Blank.Lives

variable {blank : Blank} {type : TypeId} {object : ObjectId} {history : List FieldRecord}
  {now later : Store}

/-- Nothing is stored in the instance. -/
theorem passes (lives : blank.Lives type object history now)
    (passes : Store.PassesBy object now later) : blank.Lives type object history later where
  of := lives.of.ages lives.made passes.toAges
  made := passes.types.made lives.made
  holds := lives.holds.passes passes
  settled := fun behind past ahead split =>
    (lives.settled behind past ahead split).ages lives.holds.declared passes.toAges

/-- The instance is called upon. -/
theorem called {around : Store -> Store -> Prop} {call : FieldCall}
    {answer : Except Fault call.Answer} {after : Store}
    (lives : blank.Lives type object history now) (foreign : Store.Foreign object around)
    (known : call.Known now) (leads : call.Leads object blank history around now answer after) :
    blank.Lives type object (⟨call, answer⟩ :: history) after := by
  have ages : now.Ages after := by
    obtain ⟨-, meanwhile, near, rfl⟩ := leads
    have passes := foreign.passes near
    exact passes.toAges.trans ((lives.holds.passes passes).ages_put _)
  exact {
    of := lives.of.ages lives.made ages
    made := ages.types.made lives.made
    holds := lives.holds.leads foreign known leads
    settled := by
      intro behind past ahead split
      cases behind with
      | nil =>
          cases split
          exact FieldRecord.Settled.ages ⟨leads.1, known, lives.holds.typed⟩
            lives.holds.declared ages
      | cons _ between =>
          exact (lives.settled between past ahead (List.cons.inj split).2).ages lives.holds.declared
            ages }

/-- What an instance is all its life. -/
theorem isRecord (lives : blank.Lives type object history now) :
    object.IsRecord σ blank history now where
  indices := fun name index => by
    rw [Layout.slotIndex_eq lives.holds.increasing, placeOf_eq_some_iff lives.holds.distinct]
  single := fun _ _ _ _ _ stored also => FieldRecord.slot?_unique stored also
  fields := lives.holds.fields
  dictionary := by
    intro dict held
    obtain ⟨place, rfl, -, dictionary⟩ := lives.holds.supplied dict held
    exact dictionary
  answers := fun behind past ahead split => (lives.settled behind past ahead split).answer
  next := fun _ _ _ foreign known => lives.holds.delivers foreign known
  refused := fun call fault => by
    rw [Blank.fields_refused, ObjectId.put_same lives.holds.lies lives.holds.fields]
  others := fun fields other different => by
    rw [ObjectId.object_put, if_neg (Ne.symm different)]

end Blank.Lives

section Life

variable {code : ClientCode σ} {type : TypeId} {object : ObjectId} {history : List FieldRecord}
  {now : Store}

/-- What is known of an instance is known all its life. -/
theorem ObjectId.Life.lives (life : object.Life code type history now) :
    exists blank : Blank, blank.Lives type object history now := by
  induction life with
  | made reachable comes =>
      obtain ⟨moment, kept⟩ := reachable.kept
      have valid : moment.world.Valid := kept.valid
      have lawful : moment.store.Lawful := valid.lawful
      rw [← kept.store] at lawful
      obtain ⟨-, blank, of, holds⟩ := (delivers_newInstance lawful).of_comes comes
      exact ⟨blank, of, of.made ▸ holds.typed, holds, fun _ _ _ split => by simp at split⟩
  | passes _ passes inductionHypothesis =>
      obtain ⟨blank, lives⟩ := inductionHypothesis
      exact ⟨blank, lives.passes passes⟩
  | called _ known comes inductionHypothesis =>
      obtain ⟨blank, lives⟩ := inductionHypothesis
      have foreign := Store.foreign_passes object
      have leads := (lives.holds.delivers foreign known).of_comes comes
      exact ⟨blank, lives.called foreign known leads⟩

/-- Time passes between two calls as a machine runs of which no thread stores anything in the
instance. -/
theorem ObjectId.Life.run {machine later : Machine (Clients σ)} (reachable : machine.Reachable code)
    (life : object.Life code type history machine.store)
    (passes : machine.PassesBy code.host object later) :
    object.Life code type history later.store := by
  obtain ⟨blank, lives⟩ := life.lives
  exact life.passes (reachable.passes_run lives.holds.lies passes)

/-- Whatever an instance has been asked since it was made, it is a record of independent cells. -/
theorem instances_are_records (life : object.Life code type history now) :
    exists blank : Blank, blank.Of type now ∧ object.IsRecord σ blank history now := by
  obtain ⟨blank, lives⟩ := life.lives
  exact ⟨blank, lives.of, lives.isRecord⟩

end Life

/-- Host code that defines a guest class with one slot. -/
def definingCounter : Client Unit (Except Fault Unit) :=
  .call (.makeFactory {}) fun
    | .error fault => .done (.error fault)
    | .ok factory =>
        .call (.defineClass factory "Counter" [] (some ["count"]) true) fun _ => .done (.ok ())

/-- A value is stored under a name and read at the index of that. -/
theorem instances_are_records_definingCounter : exists (object : ObjectId) (now : Store),
    let history : List FieldRecord :=
      [⟨.slotAt 0, .ok (some (.int32 7))⟩, ⟨.setSlot "count" (.int32 7), .ok none⟩]
    object.Life ClientCode.quiet ⟨2⟩ history now ∧
      exists blank : Blank, blank.Of ⟨2⟩ now ∧ object.IsRecord Unit blank history now := by
  let machine := Machine.run ClientCode.quiet.host 60 (Machine.opening definingCounter ())
  have reachable : machine.Reachable ClientCode.quiet :=
    Machine.reachable_run ClientCode.quiet definingCounter () 60
  have replaceable : (machine.store.types.row ⟨2⟩).isReplaceable = true := by decide +kernel
  have laid : (machine.store.hierarchy.row (machine.store.types.row ⟨2⟩).primary).layout =
      some { hasDict := true, slots := ["count"] } := by decide +kernel
  -- What follows is not computed, so the machine need not be unfolded again.
  clear_value machine
  obtain ⟨moment, kept⟩ := reachable.kept
  have valid : moment.world.Valid := kept.valid
  have lawful : moment.store.Lawful := valid.lawful
  rw [← kept.store] at lawful
  have made : ((⟨2⟩ : TypeId).newInstance : Request (Clients Unit) ObjectId).run.Delivers ⟨0⟩
    Store.Ages machine.store _ := delivers_newInstance lawful
  obtain ⟨outcome, first, making, makes⟩ := made.comes Store.Ages.refl
  cases outcome with
  | error fault => exact absurd ⟨replaceable, congrArg Option.isSome laid⟩ makes
  | ok object =>
      obtain ⟨ages, blank, of, holds⟩ := makes
      have layout : blank.layout = { hasDict := true, slots := ["count"] } := by
        have row := ages.types.row ⟨2⟩ (Store.made_of_isReplaceable replaceable)
        have cls := ages.hierarchy.row _ (Store.declared_of_layout laid)
        have same := of.layout
        rw [of.cls, row, cls, laid] at same
        exact (Option.some.inj same).symm
      have foreign := Store.foreign_passes object
      let store : FieldCall := .setSlot "count" (.int32 7)
      let load : FieldCall := .slotAt 0
      have known : store.Known first := trivial
      have storing : (store.request object : Request (Clients Unit) store.Answer).run.Delivers ⟨0⟩
        _ first _ := holds.delivers foreign known
      obtain ⟨before, second, stored, leads⟩ := storing.comes foreign.refl
      have held := holds.leads foreign known leads
      have absent : before = .ok none := by
        rw [leads.1]
        show Blank.atName blank [] first "count" = _
        simp [Blank.atName, layout, Blank.slotHeld]
      have seen : load.Known second := trivial
      have reading : (load.request object : Request (Clients Unit) load.Answer).run.Delivers ⟨0⟩
        _ second _ := held.delivers foreign seen
      obtain ⟨after, third, read, leads⟩ := reading.comes foreign.refl
      have present : after = .ok (some (.int32 7)) := by
        rw [leads.1, absent]
        show Blank.atIndex blank _ second 0 = _
        simp [Blank.atIndex, layout, Blank.slotHeld, FieldRecord.slot?, store]
      have life := ((ObjectId.Life.made reachable making).called known stored).called seen read
      rw [absent, present] at life
      exact ⟨object, third, life, instances_are_records life⟩

end GuestTypes
