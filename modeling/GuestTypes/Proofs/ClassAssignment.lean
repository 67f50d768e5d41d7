import GuestTypes.Proofs.Delivery
import GuestTypes.Proofs.SharedLayouts
import GuestTypes.Proofs.SinglePublication
import GuestTypes.Proofs.TypingRequests

/-!
# Assignment of `__class__`

An instance of a type that a factory defined goes on to carry types with the shared
representation of that one, whatever threads assign types to it at the same time. So an
assignment is accepted for what the types are and not for when it happens, and the registry of
the factory answers with whatever the object carries.
-/

namespace GuestTypes

open Discipline Typing

variable {σ α : Type} {thread : ThreadId} {call : Call} {now later : Sight σ}

/-! ## Host code -/

/-- Whoever sets out to store a type of an object without one makes it loose. -/
def Marks.beginning (call : Call) (now : Sight σ) : Marks :=
  { now.ghost with
    loose := fun object => now.ghost.loose object ∨
      call.assigned? = some object ∧ forall shared, ¬ now.store.Carries object shared }

namespace Typing

/-- A call begins. -/
theorem Valid.begin (valid : Valid now) (call : Call) :
    typing.Allows thread now ⟨now.store,
      { now.host with calls := now.host.calls ++ [{ call }] }, .beginning call now⟩ := by
  have moves : Moves now ⟨now.store,
      { now.host with calls := now.host.calls ++ [{ call }] }, .beginning call now⟩ := {
    Moves.refl now with
    carried := by
      rintro object shared tight carries
      refine ⟨?_, carries⟩
      rintro (loose | ⟨-, untyped⟩)
      · exact tight loose
      · exact untyped shared carries
    loose := fun _ => .inl
    calls := fun _ record found => Asked.append ⟨record, found, rfl⟩ rfl }
  refine ⟨?_, moves⟩
  exact {
    registries := valid.registries
    factories := valid.factories
    loose := by
      rintro object (loose | ⟨assigned, -⟩)
      · obtain ⟨record, member, assigned⟩ := valid.loose object loose
        exact ⟨record, List.mem_append_left _ member, assigned⟩
      · exact ⟨{ call }, List.mem_append_right _ List.mem_cons_self, assigned⟩
    forged := valid.forged
    rows := valid.rows
    prepared := valid.prepared
    served := by
      intro call answer member
      rcases List.mem_append.mp member with was | last
      · exact moves.achieves (valid.served call answer was)
      · cases List.mem_singleton.mp last }

/-- What the call needs is there when it has begun. -/
theorem needs_beginning (call : Call) (clients : Clients σ) :
    Needs call ⟨now.store, clients, .beginning call now⟩ := by
  cases call with
  | setType object type =>
      by_cases carries : exists shared, now.store.Carries object shared
      · exact .inr carries
      · exact .inl (.inr ⟨rfl, fun shared own => carries ⟨shared, own⟩⟩)
  | _ => trivial

/-- Host code works on its own state. -/
theorem Valid.work (valid : Valid now) (own : σ) :
    typing.Allows thread now ⟨now.store, { now.host with own }, now.ghost⟩ := by
  have moves : Moves now ⟨now.store, { now.host with own }, now.ghost⟩ := {
    Moves.refl now with calls := fun _ record found => ⟨record, found, rfl⟩ }
  exact {
    valid := ⟨valid.registries, valid.factories, valid.loose, valid.forged, valid.rows,
      valid.prepared, fun call answer made => moves.achieves (valid.served call answer made)⟩
    moves }

/-- A call ends with what it achieves. -/
theorem Valid.finish (valid : Valid now) {number : Nat} {outcome : Except Fault call.Answer}
    (asked : Asked number call now)
    (achieves : forall answer, outcome = .ok answer -> Achieves call answer now) :
    typing.Allows thread now ⟨now.store, now.host.finish number call outcome, now.ghost⟩ := by
  have kept : forall (position : Nat) other, now.host.calls[position]? = some other ->
      Asked position other.call ⟨now.store, now.host.finish number call outcome, now.ghost⟩ :=
    fun position other was => asked.finish ⟨other, was, rfl⟩ rfl
  have moves : Moves now ⟨now.store, now.host.finish number call outcome, now.ghost⟩ :=
    { Moves.refl now with calls := kept }
  refine ⟨?_, moves⟩
  exact {
    registries := valid.registries
    factories := valid.factories
    loose := by
      intro object loose
      obtain ⟨other, member, assigned⟩ := valid.loose object loose
      obtain ⟨position, was⟩ := List.mem_iff_getElem?.mp member
      obtain ⟨later, still, same⟩ := kept position other was
      exact ⟨later, List.mem_iff_getElem?.mpr ⟨position, still⟩, same ▸ assigned⟩
    forged := valid.forged
    rows := valid.rows
    prepared := valid.prepared
    served := by
      intro other answer member
      apply moves.achieves
      rcases List.mem_or_eq_of_mem_set member with was | last
      · exact valid.served other answer was
      · cases last
        exact achieves answer rfl }

end Typing

/-- Host code keeps to the rules. -/
theorem typing_hosts : (typing (σ := σ)).Hosts (fun _ _ => Needs)
    fun _ _ call outcome now => forall answer, outcome = .ok answer ->
      Achieves call answer now where
  work := fun _ _ own valid => ⟨Typing.Valid.work valid own, trivial⟩
  begin := fun _ _ call valid _ =>
    ⟨_, Typing.Valid.begin valid call, Typing.needs_beginning call _, fun _ _ _ => trivial⟩
  request := fun _ _ call =>
    have heeds : Request.Heeds (σ := σ) _ (Needs call) call.request (Achieves call) :=
      call.heeds_request
    Meets.weaken heeds (fun _ _ => id) (fun answer _ _ achieves _ same => by
      cases same
      exact achieves) fun _ _ _ _ => nofun
  leaves := fun _ _ _ => trivial
  asked := by
    rintro mover before after allowed number call ⟨record, found, rfl⟩
    exact allowed.moves.calls number record found
  finish := fun valid asked achieves => Typing.Valid.finish valid asked achieves

/-- All host code is trusted. -/
theorem trusts_clients (code : ClientCode σ) : (typing (σ := σ)).Trusts code.host :=
  typing_hosts.trusts typing_free code

/-! ## What other threads leave -/

/-- What no thread changes about an object, once it carries a type with a shared representation,
and about the bindings of a registry. -/
structure Store.Minds (object : ObjectId) (registry : RegistryId)
    (before after : Store) : Prop where
  types : before.types.Extends after.types
  bindings : forall cls rep, before.Binds registry cls rep -> after.Binds registry cls rep
  cls : (after.heap.object object).hostClass = (before.heap.object object).hostClass
  layout : (after.heap.object object).fields.layout = (before.heap.object object).fields.layout
  carries : forall shared, before.Carries object shared -> after.Carries object shared

namespace Store.Minds

variable {object : ObjectId} {registry : RegistryId} {shared : SharedId} {type : TypeId}
  {before middle after : Store}

/-- What nobody changes twice is unchanged. -/
theorem trans (first : Store.Minds object registry before middle)
    (last : Store.Minds object registry middle after) :
    Store.Minds object registry before after where
  types := first.types.trans last.types
  bindings := fun cls rep bound => last.bindings cls rep (first.bindings cls rep bound)
  cls := last.cls.trans first.cls
  layout := last.layout.trans first.layout
  carries := fun shared carries => last.carries shared (first.carries shared carries)

/-- A step of a registry touches no object. -/
theorem accessed {id : RegistryId} {step : Registry.Step α} :
    Store.Minds object registry before (before.accessed thread id step) where
  types := .refl _
  bindings := fun _ _ bound => bound.step
  cls := rfl
  layout := rfl
  carries := fun _ carries => carries

/-- Nor does a guard that is given back. -/
theorem relieved {id : RegistryId} :
    Store.Minds object registry before (before.relieved thread id) where
  types := .refl _
  bindings := fun _ _ bound => bound
  cls := rfl
  layout := rfl
  carries := fun _ carries => carries

/-- The row of a type is unchanged. -/
theorem row (minds : Store.Minds object registry before after) (made : before.types.Made type) :
    after.types.row type = before.types.row type := minds.types.row type made

/-- A type goes on to share its representation. -/
theorem shares (minds : Store.Minds object registry before after)
    (shares : (before.types.row type).sharedRepresentation = some shared) :
    (after.types.row type).sharedRepresentation = some shared := by
  rw [minds.row (TypeTable.made_of_sharedRepresentation shares)]
  exact shares

end Store.Minds

/-- No step changes about an object what the rules keep. -/
theorem Typing.Moves.minds {before after : Sight σ} {object : ObjectId} {registry : RegistryId}
    (moves : Typing.Moves before after) (tight : ¬ before.ghost.loose object)
    (lies : object.index < before.store.heap.size) :
    Store.Minds object registry before.store after.store where
  types := moves.types
  bindings := moves.bindings registry
  cls := (moves.objects object lies).1
  layout := (moves.objects object lies).2
  carries := fun shared carries => (moves.carried object shared tight carries).2

/-! ## Assignment -/

namespace ObjectId

variable {object : ObjectId} {registry : RegistryId} {shared : SharedId} {held offered : TypeId}
  {now : Store}

/-- What becomes of an assignment: the type is stored if it has the shared representation, and
else refused in favour of one that has it. -/
def Assigns (object : ObjectId) (shared : SharedId) (offered : TypeId) (row : GuestType) :
    Except Fault Unit -> Store -> Prop
  | .ok _, after => row.sharedRepresentation = some shared ∧
      after.heap.typeOf? (.object object) = some offered
  | .error fault, after => row.sharedRepresentation ≠ some shared ∧
      exists held, (after.types.row held).sharedRepresentation = some shared ∧
        fault = .classAssignment (after.types.name held) row.name

/-- An assignment succeeds just if the type has the representation that the object carries. -/
theorem Assigns.decided {row : GuestType} {outcome : Except Fault Unit} {after : Store}
    (assigns : Assigns object shared offered row outcome after) :
    outcome = .ok () ↔ row.sharedRepresentation = some shared := by
  cases outcome with
  | ok _ => exact ⟨fun _ => assigns.1, fun _ => rfl⟩
  | error fault => exact ⟨nofun, fun shares => absurd shares assigns.1⟩

/-- The check passes what the assignment stores. -/
def Passes (object : ObjectId) (shared : SharedId) (offered : TypeId) (row : GuestType) :
    Except Fault Unit -> Store -> Prop
  | .ok _, after => row.sharedRepresentation = some shared ∧ after.Carries object shared
  | .error fault, after => Assigns object shared offered row (.error fault) after

/-- A type is checked by the representation that it shares. -/
theorem delivers_checkType (made : now.types.Made offered) (carries : now.Carries object shared)
    (shares : (now.types.row held).sharedRepresentation = some shared) :
    (checkType held offered : Request σ Unit).run.Delivers thread (Store.Minds object registry) now
      (Passes object shared offered (now.types.row offered)) := by
  refine .andThen (.observe fun later minds => ?_)
  rw [← minds.row made]
  have holds : (later.types.row held).sharedRepresentation = some shared := minds.shares shares
  unfold Request.Followed
  dsimp only
  cases same : later.types.hasSameLayout held offered with
  | true =>
      obtain ⟨own, first, last⟩ := TypeTable.hasSameLayout_iff.mp same
      cases first.symm.trans holds
      exact ⟨last, minds.carries _ carries⟩
  | false =>
      refine ⟨fun fits => ?_, held, holds, rfl⟩
      exact Bool.noConfusion
        (same.symm.trans (TypeTable.hasSameLayout_iff.mpr ⟨shared, holds, fits⟩))

/-- A type is checked against the one that the object carries. -/
theorem delivers_checkClassAssignment (made : now.types.Made offered)
    (carries : now.Carries object shared) :
    (object.checkClassAssignment offered : Request σ Unit).run.Delivers thread
      (Store.Minds object registry) now (Passes object shared offered (now.types.row offered)) := by
  refine .andThen (.observe fun later minds => ?_)
  have carries := minds.carries _ carries
  obtain ⟨held, holds, shares⟩ := carries.type
  unfold Request.Followed
  dsimp only
  rw [holds, ← minds.row made]
  exact delivers_checkType (minds.types.made made) carries shares

/-- An assignment is decided by the type that is offered. -/
theorem delivers_setType (made : now.types.Made offered) (carries : now.Carries object shared) :
    (object.setType offered : Request σ Unit).run.Delivers thread (Store.Minds object registry) now
      (Assigns object shared offered (now.types.row offered)) := by
  refine .andThen ((delivers_checkClassAssignment made carries).weaken ?_)
  intro outcome checked passes
  cases outcome with
  | error fault => exact passes
  | ok _ =>
      refine .perform fun later minds => ⟨(), _, rfl, passes.1, ?_⟩
      obtain ⟨held, holds, -⟩ := (minds.carries _ passes.2).type
      rw [Heap.typeOf?_object]
      show (Heap.object (Heap.Step.perform (.storeType object offered) later.heap).2
        object).fields.type
        = some offered
      rw [Heap.object_storeType, if_pos rfl]
      exact HeapObject.type_modifyFields holds

/-- The check changes nothing. -/
theorem checkClassAssignment_refused {path : List (Store × Store)} {fault : Fault}
    (runs : (object.checkClassAssignment offered : Request σ Unit).run.Runs thread path
      (.error fault)) : forall step, step ∈ path -> step.2 = step.1 := by
  rcases Program.Runs.of_refused runs with looked | ⟨held, first, last, rfl, looked, checked⟩
  · obtain ⟨store, rfl, never⟩ := looked.of_observe
    cases never
  · obtain ⟨store, rfl, -⟩ := looked.of_observe
    cases held with
    | none => cases checked
    | some held =>
        rcases Program.Runs.of_refused checked with looked | ⟨types, _, _, rfl, looked, ended⟩
        · obtain ⟨store, rfl, never⟩ := looked.of_observe
          cases never
        · obtain ⟨seen, rfl, -⟩ := looked.of_observe
          split at ended
          · cases ended
            simp
          · cases ended

/-- A refused assignment has changed nothing. -/
theorem setType_refused {path : List (Store × Store)} {fault : Fault}
    (runs : (object.setType offered : Request σ Unit).run.Runs thread path (.error fault)) :
    forall step, step ∈ path -> step.2 = step.1 := by
  rcases Program.Runs.of_refused runs with checked | ⟨_, first, last, rfl, -, stored⟩
  · exact checkClassAssignment_refused checked
  · cases stored with
    | act performed ended => cases ended

end ObjectId

namespace RegistryId

variable {object : ObjectId} {registry : RegistryId} {shared : SharedId} {cls : ClassId}
  {rep : Representation} {now : Store}

/-- A class that is bound is resolved to what it is bound to. -/
theorem delivers_resolve (bound : now.Binds registry cls rep) :
    (registry.resolve cls : Request σ Representation).run.Delivers thread
      (Store.Minds object registry) now fun outcome after =>
        outcome = .ok rep ∧ Store.Minds object registry now after := by
  refine .andThen (.registryStep fun later minds last still => ?_)
  have answered : ((Registry.Step.firstLookup cls).perform (later.registry registry)).1 =
    some rep :=
    minds.bindings _ _ bound
  rw [answered]
  exact ⟨rfl, (minds.trans .accessed).trans (still.trans .relieved)⟩

/-- The registry of the factory answers with the type that the object carries. -/
theorem delivers_typeOf (carries : now.Carries object shared)
    (bound : now.Binds registry (now.heap.object object).hostClass (.shared shared)) :
    (registry.typeOf (.object object) : Request σ TypeId).run.Delivers thread
      (Store.Minds object registry) now fun outcome after =>
        exists held, outcome = .ok held ∧ after.heap.typeOf? (.object object) = some held := by
  refine .andThen (.andThen (.observe fun later minds => ?_))
  have carries := minds.carries _ carries
  have bound : later.Binds registry (later.heap.object object).hostClass (.shared shared) := by
    rw [minds.cls]
    exact minds.bindings _ _ bound
  apply (delivers_resolve bound).weaken
  rintro outcome resolved ⟨rfl, minds⟩
  refine .andThen (.observe fun last further => ?_)
  obtain ⟨held, holds, -⟩ := ((minds.trans further).carries _ carries).type
  have carried : last.heap.typeOf? (.object object) = some held :=
    (Heap.typeOf?_object _ _).trans holds
  unfold Request.Followed
  dsimp only
  rw [carried]
  exact ⟨held, rfl, carried⟩

end RegistryId

/-! ## Reachable machines -/

/-- The instance that was made for a call, with its type. -/
def CallRecord.instance? : CallRecord -> Option (TypeId × ObjectId)
  | ⟨.newInstance type, some (.ok object)⟩ => some (type, object)
  | _ => none

/-- An instance is read off the call that made it. -/
theorem CallRecord.of_instance? {record : CallRecord} {type : TypeId} {object : ObjectId}
    (made : record.instance? = some (type, object)) :
    record = { call := .newInstance type, answer := some (.ok object) } := by
  unfold instance? at made
  split at made
  · cases made
    rfl
  · cases made

/-- Whether everything that the table answers with passes a check. -/
def Table.every (table : Table α) (check : α -> Bool) : Bool :=
  check table.fallback && table.cells.all check

/-- What is checked for a whole table holds of what is read there. -/
theorem Table.every_get {table : Table α} {check : α -> Bool} (every : table.every check = true)
    (index : Nat) : check (table.get index) = true := by
  obtain ⟨fallback, cells⟩ := Bool.and_eq_true_iff.mp every
  unfold get
  cases found : table.cells[index]? with
  | none => exact fallback
  | some cell =>
      obtain ⟨within, rfl⟩ := Array.getElem?_eq_some_iff.mp found
      exact Array.all_eq_true.mp cells index within

/-- A moment at which nothing was made and nothing was called. -/
theorem Typing.valid_initial (files : FileTree) (own : σ) :
    Typing.Valid { store := { files }, host := { own }, ghost := {} } where
  registries := rfl
  factories := rfl
  loose := fun _ loose => loose.elim
  forged := fun _ forged => forged.elim
  rows := by
    intro type shared shares
    cases (TypeTable.made_of_sharedRepresentation shares : type.index < 0)
  prepared := by
    intro factory cls shared member
    have empty : (({ files } : Store).factory factory).workshop.unpublished = [] := by
      simp [Store.factory, Table.get]
      rfl
    rw [empty] at member
    cases member
  served := fun _ _ member => nomatch member

namespace Machine

variable {code : ClientCode σ} {machine later next : Machine (Clients σ)} {factory : FactoryId}
  {type held offered : TypeId} {shared : SharedId} {object : ObjectId}

/-- The instances that were made, with their types, in the order of the calls. -/
def instances (machine : Machine (Clients σ)) : List (TypeId × ObjectId) :=
  machine.host.calls.filterMap (·.instance?)

/-- A machine before its first step keeps the rules. -/
theorem Opens.typed (opens : machine.Opens) : exists now : Sight σ, typing.Kept machine now := by
  obtain ⟨files, store⟩ := opens.store
  have valid : Typing.Valid ⟨machine.store, machine.host, {}⟩ := by
    rw [store, opens.host]
    exact Typing.valid_initial files machine.host.own
  exact ⟨_, typing_hosts.kept typing_free opens valid⟩

/-- Every machine that host code can lead to stands at a valid moment of the rules. -/
theorem Reachable.typed (reachable : machine.Reachable code) :
    exists now : Sight σ, typing.Kept machine now := by
  obtain ⟨start, opens, steps⟩ := reachable
  obtain ⟨now, kept⟩ := opens.typed
  obtain ⟨later, -, kept⟩ := kept.steps (trusts_clients code) steps
  exact ⟨later, kept⟩

/-- The shared representation was made before any class was bound to it. So it is when host code
binds classes only to representations that it was given, and guesses none. -/
def Genuine (code : ClientCode σ) (machine : Machine (Clients σ)) (shared : SharedId) : Prop :=
  exists start : Machine (Clients σ), start.Reachable code ∧
    start.store.types.MadeShared shared ∧
    (forall registry cls, ¬ start.store.Binds registry cls (.shared shared)) ∧
    Steps code.host start machine

/-- The primary class of a type with a genuine shared representation is the host class of that. -/
theorem Genuine.hostClass (genuine : machine.Genuine code shared)
    (shares : (machine.store.types.row held).sharedRepresentation = some shared) :
    (machine.store.types.sharedRow shared).hostClass = (machine.store.types.row held).primary := by
  obtain ⟨start, reachable, made, unbound, steps⟩ := genuine
  obtain ⟨now, kept⟩ := reachable.typed
  obtain ⟨after, onward, reached⟩ := kept.steps (trusts_clients code) steps
  rw [kept.store] at made unbound
  rw [reached.store] at shares ⊢
  have valid : Typing.Valid now := kept.valid
  have genuine : ¬ now.ghost.forged shared := by
    intro forged
    obtain ⟨registry, cls, bound⟩ := valid.forged shared forged
    exact unbound registry cls bound
  have persists : Typing.Persists fun now : Sight σ =>
      now.store.types.MadeShared shared ∧ ¬ now.ghost.forged shared :=
    fun _ _ moves holds =>
      ⟨moves.types.madeShared holds.1, moves.genuine shared holds.1 holds.2⟩
  have still := (persists.onward onward ⟨made, genuine⟩).2
  have valid : Typing.Valid after := reached.valid
  exact ((valid.rows held shared shares).resolve_left still).2

/-- What holds of an object that was made as an instance of a type that the factory defined. -/
structure Retypes (code : ClientCode σ) (machine : Machine (Clients σ)) (factory : FactoryId)
    (type : TypeId) (shared : SharedId) (object : ObjectId) : Prop where
  shares : (machine.store.types.row type).sharedRepresentation = some shared
  /-- The object carries a type with the shared representation of the first one. -/
  carries : exists held, machine.store.heap.typeOf? (.object object) = some held ∧
    (machine.store.types.row held).sharedRepresentation = some shared
  cls : (machine.store.heap.object object).hostClass = (machine.store.types.row type).primary
  layout : exists layout,
    (machine.store.hierarchy.row (machine.store.types.row type).primary).layout = some layout ∧
      (machine.store.heap.object object).fields.layout = some layout
  /-- All types with the shared representation have one primary class. -/
  primary : machine.Genuine code shared -> forall held,
    (machine.store.types.row held).sharedRepresentation = some shared ->
      (machine.store.types.row held).primary = (machine.store.types.row type).primary
  /-- What no step of any thread changes. -/
  steps : forall thread next, machine.step code.host thread = some next ->
    Store.Minds object (machine.registryOf factory) machine.store next.store
  /-- An assignment is decided by the type that is offered, whatever happens meanwhile. -/
  assigned : forall thread offered, machine.store.types.Made offered ->
    (object.setType offered : Request (Clients σ) Unit).run.Delivers thread
      (Store.Minds object (machine.registryOf factory)) machine.store fun outcome after =>
        (outcome = .ok () ↔
          (machine.store.types.row offered).sharedRepresentation = some shared) ∧
        object.Assigns shared offered (machine.store.types.row offered) outcome after
  /-- A refused assignment has changed nothing. -/
  refused : forall thread offered path fault,
    (object.setType offered : Request (Clients σ) Unit).run.Runs thread path (.error fault) ->
      forall step, step ∈ path -> step.2 = step.1
  /-- The registry of the factory answers with the type that the object carries. -/
  answered : forall thread,
    ((machine.registryOf factory).typeOf (.object object) : Request (Clients σ) TypeId).run.Delivers
      thread (Store.Minds object (machine.registryOf factory)) machine.store fun outcome after =>
        exists held, outcome = .ok held ∧ after.heap.typeOf? (.object object) = some held

/-- An object that carries a type with the shared representation of the first one keeps to it. -/
theorem retypes {now : Instant σ} {sight : Sight σ} (kept : kernel.Kept machine now)
    (typed : typing.Kept machine sight) (defined : now.world.Defined factory type)
    (made : Typing.InstanceOf sight type object) (tight : ¬ sight.ghost.loose object)
    (shares : (machine.store.types.row type).sharedRepresentation = some shared) :
    machine.Retypes code factory type shared object := by
  have present := made.built.lies
  obtain ⟨⟨lies, ⟨layout, declared, laid, -⟩, cls⟩, own, sharesOwn, carries⟩ := made
  rw [← typed.store] at lies cls declared laid sharesOwn carries
  cases sharesOwn.symm.trans shares
  have carries : machine.store.Carries object shared := ⟨lies, carries.resolve_left tight⟩
  obtain ⟨held, kind, bound, -, host⟩ := defined.shares
  obtain rfl : held = shared := by
    have listed : (now.world.types.row type).sharedRepresentation = some shared := by
      rw [← shares, kept.store]
      rfl
    unfold GuestType.sharedRepresentation at listed
    rw [kind] at listed
    exact Option.some.inj listed
  have bound : machine.store.Binds (machine.registryOf factory)
      (machine.store.heap.object object).hostClass (.shared held) := by
    rw [cls, registryOf, kept.store]
    exact bound
  exact {
    shares
    carries := Option.bind_eq_some_iff.mp carries.2
    cls
    layout := ⟨layout, declared, laid⟩
    primary := by
      intro genuine other fits
      rw [← genuine.hostClass fits, genuine.hostClass shares]
    steps := by
      intro thread next moved
      obtain ⟨after, allowed, reached⟩ := typed.step (trusts_clients code) moved
      have moves : Typing.Moves sight after := allowed.moves
      rw [typed.store, reached.store]
      exact moves.minds tight present
    assigned := fun thread offered exists_ =>
      (ObjectId.delivers_setType exists_ carries).weaken fun outcome after assigns =>
        ⟨assigns.decided, assigns⟩
    refused := fun thread offered path fault => ObjectId.setType_refused
    answered := fun thread => RegistryId.delivers_typeOf carries bound }

/-- An object that was made as an instance of a type that a factory defined goes on to carry
types with the shared representation of that one, whatever threads assign types to it. -/
theorem class_assignment_sound (reachable : machine.Reachable code)
    (defined : type ∈ machine.definedTypes factory)
    (made : (type, object) ∈ machine.instances)
    (fresh : forall record, record ∈ machine.host.calls -> record.call.assigned? ≠ some object) :
    exists shared, forall later, Steps code.host machine later ->
      later.Retypes code factory type shared object := by
  obtain ⟨now, kept⟩ := reachable.kept
  obtain ⟨sight, typed⟩ := reachable.typed
  have listed : now.world.Defined factory type := defined_of_mem kept defined
  have valid : Typing.Valid sight := typed.valid
  have instance_ : Typing.InstanceOf sight type object := by
    unfold instances at made
    rw [typed.host] at made
    obtain ⟨record, member, answered⟩ := List.mem_filterMap.mp made
    rw [CallRecord.of_instance? answered] at member
    exact valid.served (.newInstance type) object member
  have tight : ¬ sight.ghost.loose object := by
    intro loose
    obtain ⟨record, member, assigned⟩ := valid.loose object loose
    rw [← typed.host] at member
    exact fresh record member assigned
  obtain ⟨shared, shares, carries⟩ := instance_.shares
  have carries : sight.store.Carries object shared :=
    ⟨instance_.built.lies, carries.resolve_left tight⟩
  refine ⟨shared, fun later steps => ?_⟩
  obtain ⟨after, onward, reached⟩ := kept.steps (trusts_host code) steps
  obtain ⟨last, evolves, ended⟩ := typed.steps (trusts_clients code) steps
  have persists : Typing.Persists fun now : Sight σ => Typing.InstanceOf now type object ∧
      (now.store.types.row type).sharedRepresentation = some shared ∧
        ¬ now.ghost.loose object ∧ now.store.Carries object shared :=
    fun _ _ moves ⟨made, shares, tight, carries⟩ => ⟨moves.instanceOf made, moves.shares shares,
      moves.carried object shared tight carries⟩
  obtain ⟨made, shares, tight, -⟩ :=
    persists.onward evolves ⟨instance_, shares, tight, carries⟩
  have persistent : World.Persistent fun world => world.Defined factory type :=
    fun _ _ _ grows defined => grows.defined defined
  rw [← ended.store] at shares
  exact retypes reached ended (persistent.onward onward listed) made tight shares

/-- Host code that makes an instance of a guest class and assigns it to another one. -/
def retypingOnce : Client Unit (Except Fault Unit) :=
  .call (.makeFactory {}) fun
    | .error fault => .done (.error fault)
    | .ok factory =>
        .call (.defineClass factory "First" [] none false) fun
          | .error fault => .done (.error fault)
          | .ok first =>
              .call (.defineClass factory "Second" [] none false) fun
                | .error fault => .done (.error fault)
                | .ok second =>
                    .call (.newInstance first) fun
                      | .error fault => .done (.error fault)
                      | .ok object => .call (.setType object second) fun _ => .done (.ok ())

/-- An instance of one guest class is assigned to another one, and carries that type. -/
theorem class_assignment_sound_retypingOnce :
    let start := Machine.run ClientCode.quiet.host 40 (opening retypingOnce ())
    let machine := Machine.run ClientCode.quiet.host 52 start
    let later := Machine.run ClientCode.quiet.host 5 machine
    later.Retypes ClientCode.quiet ⟨0⟩ ⟨2⟩ ⟨0⟩ ⟨1⟩ ∧ later.Genuine ClientCode.quiet ⟨0⟩ ∧
      later.store.heap.typeOf? (.object ⟨1⟩) = some ⟨3⟩ := by
  intro start machine later
  have begun : start.Reachable ClientCode.quiet :=
    reachable_run ClientCode.quiet retypingOnce () 40
  have early : Steps ClientCode.quiet.host start machine :=
    steps_run ClientCode.quiet.host 52 _ _ .refl
  have late : Steps ClientCode.quiet.host machine later :=
    steps_run ClientCode.quiet.host 5 _ _ .refl
  have sharing : start.store.types.MadeShared ⟨0⟩ := by
    show 0 < start.store.types.shared.size
    decide +kernel
  have unbound : start.store.registries.every
      (fun registry => registry.bound.every (· != some (.shared ⟨0⟩))) = true := by decide +kernel
  have defined : ⟨2⟩ ∈ machine.definedTypes ⟨0⟩ := by decide +kernel
  have made : (⟨2⟩, ⟨1⟩) ∈ machine.instances := by decide +kernel
  have fresh : (machine.host.calls.all (·.call.assigned? != some ⟨1⟩)) = true := by
    decide +kernel
  have shares : (later.store.types.row ⟨2⟩).sharedRepresentation = some ⟨0⟩ := by decide +kernel
  have retyped : later.store.heap.typeOf? (.object ⟨1⟩) = some ⟨3⟩ := by decide +kernel
  -- What follows is not computed, so the machines need not be unfolded again.
  clear_value start machine later
  have reachable := begun.steps early
  obtain ⟨shared, sound⟩ := class_assignment_sound reachable defined made fun record member =>
    bne_iff_ne.mp (List.all_eq_true.mp fresh record member)
  have kept := sound later late
  cases kept.shares.symm.trans shares
  refine ⟨kept, ⟨start, begun, sharing, fun registry cls bound => ?_, early.trans late⟩, retyped⟩
  exact bne_iff_ne.mp (Table.every_get (Table.every_get unbound registry.index) cls.index) bound

end Machine

end GuestTypes
