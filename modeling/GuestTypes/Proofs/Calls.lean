import GuestTypes.Proofs.Turns
import GuestTypes.Protocol.Definition
import GuestTypes.Protocol.Objects

/-!
# Host code and its calls

What host code can do, and what is remembered of it. Host code is a `Client`: besides work on
its own state it makes calls, each of which runs one request of the kernel, and it may start
and await threads. Clients run by `Client.program` as threads, as static initializers and as
escalations, so a call may be made in the middle of another one.

Identities are not forged. A call may name a class that every program starts with, one that
host code was given by an earlier call, or one that a registry binds; it may name the
factories that were handed out and the registries that do not belong to a factory still in the
making. Every call is remembered with its answer (`Clients.calls`), so that a property of a
history is a property of the state it leads to.
-/

namespace GuestTypes

/-- What host code may ask of the kernel. -/
inductive Call where
  | declare (row : HostClass)
  | ensureInitialised (cls : ClassId)
  | makeRegistry (escalation : Escalation)
  | loseEscalation (registry : RegistryId)
  | lookup (registry : RegistryId) (cls : ClassId)
  | resolve (registry : RegistryId) (cls : ClassId)
  | resolveValue (registry : RegistryId) (value : Value)
  | typeOf (registry : RegistryId) (value : Value)
  | register (registry : RegistryId) (cls : ClassId) (rep : Representation)
  | registerAll (registry : RegistryId) (bindings : List (ClassId × Representation))
  | makeFactory (config : Configuration)
  | create (factory : FactoryId) (wanted : TypeDescription)
  | find (factory : FactoryId) (cls : ClassId)
  | findOrCreate (factory : FactoryId) (cls : ClassId)
  | defineClass (factory : FactoryId) (name : String) (bases : List TypeId)
      (slots : Option (List String)) (dict : Bool)
  | newInstance (type : TypeId)
  | makeSynthesizer (config : Configuration)
  | uniqueName (synthesizer : SynthesizerId) (base : String)
  | synthesize (synthesizer : SynthesizerId) (spec : Specification)
  | redirect (synthesizer : SynthesizerId) (directory : Option String)
  | makeLoader
  | defineBody (loader : LoaderId) (body : ClassBody)
  | allocate (object : HeapObject)
  | makeObject (cls : ClassId) (type : TypeId)
  | slot (object : ObjectId) (name : String)
  | setSlot (object : ObjectId) (name : String) (value : Value)
  | deleteSlot (object : ObjectId) (name : String)
  | setType (object : ObjectId) (type : TypeId)
  | setDict (object : ObjectId) (dict : Value)
  | exchangeEntry (object : ObjectId) (name : String) (value : Option Value)

namespace Call

variable {σ : Type}

/-- What a call is answered with when it is not refused. -/
abbrev Answer : Call -> Type
  | declare _ | synthesize _ _ | defineBody _ _ => ClassId
  | ensureInitialised _ | register _ _ _ | registerAll _ _ | redirect _ _ | setType _ _
  | setDict _ _ => Unit
  | makeRegistry _ => RegistryId
  | loseEscalation _ => Bool
  | lookup _ _ | find _ _ => Option Representation
  | resolve _ _ | resolveValue _ _ | findOrCreate _ _ => Representation
  | typeOf _ _ | create _ _ | defineClass _ _ _ _ _ => TypeId
  | makeFactory _ => FactoryId
  | newInstance _ | allocate _ | makeObject _ _ => ObjectId
  | makeSynthesizer _ => SynthesizerId
  | uniqueName _ _ => String
  | makeLoader => LoaderId
  | slot _ _ | setSlot _ _ _ | deleteSlot _ _ | exchangeEntry _ _ _ => Option Value

/-- The request that a call runs. Only the kernel makes synthesized classes, so a class that
host code declares has no layout. -/
def request : (call : Call) -> Request σ call.Answer
  | declare row => Request.perform (.declare { row with layout := none })
  | ensureInitialised cls => cls.ensureInitialised
  | makeRegistry escalation => Request.perform (.addRegistry escalation)
  | loseEscalation registry => Request.perform (.registry registry .loseEscalation)
  | lookup registry cls => registry.lookup cls
  | resolve registry cls => registry.resolve cls
  | resolveValue registry value => registry.resolveValue value
  | typeOf registry value => registry.typeOf value
  | register registry cls rep => registry.register cls rep
  | registerAll registry bindings => registry.registerAll bindings
  | makeFactory config => FactoryId.make config
  | create factory wanted => factory.create wanted
  | find factory cls => factory.find cls
  | findOrCreate factory cls => factory.findOrCreate cls
  | defineClass factory name bases slots dict => factory.defineClass name bases slots dict
  | newInstance type => type.newInstance
  | makeSynthesizer config => SynthesizerId.make config
  | uniqueName synthesizer base => synthesizer.uniqueName base
  | synthesize synthesizer spec => synthesizer.synthesize spec
  | redirect synthesizer directory =>
      Request.perform (.synthesizer synthesizer (.redirect directory))
  | makeLoader => Request.perform .addLoader
  | defineBody loader body => loader.define body
  | allocate object => Request.perform (.heap (.allocate object))
  | makeObject cls type => ObjectId.make cls type
  | slot object name => object.slot name
  | setSlot object name value => object.setSlot name value
  | deleteSlot object name => object.deleteSlot name
  | setType object type => object.setType type
  | setDict object dict => object.setDict dict
  | exchangeEntry object name value => Request.perform (.heap (.exchangeEntry object name value))

/-! ## What a call names -/

/-- The classes that a call names. -/
def classes : Call -> List ClassId
  | declare row => row.superclass.toList ++ row.interfaces
  | ensureInitialised cls | lookup _ cls | resolve _ cls | register _ cls _ | find _ cls
  | findOrCreate _ cls | makeObject cls _ => [cls]
  | registerAll _ bindings => bindings.map (·.1)
  | create _ wanted => wanted.primary :: wanted.adopted ++ wanted.accepted
  | synthesize _ spec => spec.base :: spec.interfaces
  | defineBody _ body => body.base :: body.interfaces
  | allocate object => [object.hostClass]
  | makeRegistry _ | loseEscalation _ | resolveValue _ _ | typeOf _ _ | makeFactory _
  | defineClass _ _ _ _ _ | newInstance _ | makeSynthesizer _ | uniqueName _ _ | redirect _ _
  | makeLoader | slot _ _ | setSlot _ _ _ | deleteSlot _ _ | setType _ _ | setDict _ _
  | exchangeEntry _ _ _ => []

/-- The type that a call makes an instance of. -/
def instantiated : Call -> Option TypeId
  | newInstance type => some type
  | _ => none

/-- The factory that a call names. -/
def factory? : Call -> Option FactoryId
  | makeRegistry (.factory factory) => some factory
  | create factory _ | find factory _ | findOrCreate factory _ | defineClass factory _ _ _ _ =>
      some factory
  | _ => none

/-- The registry that a call names. -/
def registry? : Call -> Option RegistryId
  | loseEscalation registry | lookup registry _ | resolve registry _ | resolveValue registry _
  | typeOf registry _ | register registry _ _ | registerAll registry _ => some registry
  | _ => none

/-- Whether a call binds classes of a registry directly. -/
def registersIn (registry : RegistryId) : Call -> Bool
  | register used _ _ | registerAll used _ => used == registry
  | _ => false

/-- Whether a call defines a guest class with a factory. -/
def definesWith (factory : FactoryId) : Call -> Bool
  | defineClass used _ _ _ _ => used == factory
  | _ => false

end Call

/-- A call and its answer, once there is one. -/
structure CallRecord where
  call : Call
  answer : Option (Except Fault call.Answer) := none

namespace CallRecord

/-- The class that host code was given by a call. -/
def given? : CallRecord -> Option ClassId
  | ⟨.declare _, some (.ok cls)⟩ => some cls
  | ⟨.synthesize _ _, some (.ok cls)⟩ => some cls
  | ⟨.defineBody _ _, some (.ok cls)⟩ => some cls
  | _ => none

/-- The type that a factory defined for a call. -/
def defined? (factory : FactoryId) : CallRecord -> Option TypeId
  | ⟨.defineClass used _ _ _ _, some (.ok type)⟩ => if used = factory then some type else none
  | _ => none

end CallRecord

/-- The state of host code: its own, and the history of its calls. -/
structure Clients (σ : Type) where
  own : σ
  calls : List CallRecord := []

namespace Clients

variable {σ : Type} (clients : Clients σ) (store : Store)

/-- Whether host code may name a class. -/
def knowsClass (cls : ClassId) : Bool :=
  decide (cls.index < Builtin.hierarchy.rows.size)
    || clients.calls.any (·.given? == some cls)
    || (List.range store.registries.size).any fun index =>
        ((store.registry ⟨index⟩).lookup cls).isSome

/-- Whether host code may make instances of a type. -/
def knowsType (type : TypeId) : Bool :=
  decide (type.index < store.types.types.size)
    && clients.knowsClass store (store.types.row type).primary

end Clients

namespace Store

/-- Whether a factory was handed out: its own types are bound. -/
def knowsFactory (store : Store) (factory : FactoryId) : Bool :=
  decide (factory.index < store.factories.size)
    && ((store.registry (store.factory factory).registry).lookup Builtin.object).isSome

/-- Whether host code may name a registry. -/
def knowsRegistry (store : Store) (registry : RegistryId) : Bool :=
  decide (registry.index < store.registries.size)
    && match (store.registry registry).escalation with
      | .factory factory => store.knowsFactory factory
      | .none | .foreign _ | .gone => true

end Store

namespace Clients

variable {σ : Type} (clients : Clients σ)

/-- Whether a call names only what host code may name. -/
def mayCall (store : Store) (call : Call) : Bool :=
  call.classes.all (clients.knowsClass store)
    && call.instantiated.all (clients.knowsType store)
    && call.factory?.all store.knowsFactory
    && call.registry?.all store.knowsRegistry

/-- Begin a call, if it is allowed; the answer is its number. -/
def begin (call : Call) (store : Store) : Option Nat × Clients σ :=
  if clients.mayCall store call then
    (some clients.calls.length, { clients with calls := clients.calls ++ [{ call }] })
  else (none, clients)

/-- Remember the answer to a call. -/
def finish (number : Nat) (call : Call) (answer : Except Fault call.Answer) : Clients σ :=
  { clients with calls := clients.calls.set number { call, answer := some answer } }

end Clients

/-- Host code that answers with an `α`. -/
inductive Client (σ α : Type) : Type 1 where
  | done (answer : α)
  /-- Work on its own state, with a view of the store. -/
  | work {β : Type} (change : σ -> Store -> β × σ) (next : β -> Client σ α)
  | call (asked : Call) (next : Except Fault asked.Answer -> Client σ α)
  /-- Start a thread. -/
  | fork (code : CodeId) (next : ThreadId -> Client σ α)
  /-- Wait until a thread has ended. It goes on with the message if that thread panicked. -/
  | join (thread : ThreadId) (next : Option String -> Client σ α)
  | panic (message : String)

namespace Client

variable {σ α : Type}

/-- The program that makes a call and remembers the answer. Host code that names what it was
not given ends there. -/
def asking (asked : Call) : Program (Clients σ) (Except Fault asked.Answer) := do
  match <- Program.hosted fun clients store => clients.begin asked store with
  | none => Program.panic "identity was not given"
  | some number =>
      let answer <- (asked.request : Request (Clients σ) asked.Answer).run
      Program.hosted fun clients _ => ((), clients.finish number asked answer)
      return answer

/-- The program of host code. -/
def program : Client σ α -> Program (Clients σ) α
  | done answer => .done answer
  | work change next =>
      .host (fun clients store =>
        let (answer, own) := change clients.own store
        (answer, { clients with own })) fun answer => (next answer).program
  | call asked next => (asking asked).bind fun answer => (next answer).program
  | fork code next => .fork code fun thread => (next thread).program
  | join thread next => .join thread fun message => (next message).program
  | panic message => .panic message

end Client

/-- The host code that the store refers to by number, as clients. -/
structure ClientCode (σ : Type) where
  initializer : CodeId -> ClassId -> Client σ (Except Fault Unit)
  escalation : CodeId -> ClassId -> Client σ (Except Fault Representation)
  /-- The body of a thread. -/
  body : CodeId -> Client σ (Except Fault Unit)

/-- The programs of host code. -/
def ClientCode.host {σ : Type} (code : ClientCode σ) : HostCode (Clients σ) where
  initializer initializer cls := ExceptT.mk (code.initializer initializer cls).program
  escalation foreign cls := ExceptT.mk (code.escalation foreign cls).program
  body body := ExceptT.mk (code.body body).program

/-- No class needs host code to be initialised, no escalation finds anything, and threads that
are started end at once. -/
def ClientCode.quiet : ClientCode Unit where
  initializer _ _ := .done (.ok ())
  escalation _ cls := .done (.error (.clash { mode := .missing, cls }))
  body _ := .done (.ok ())

/-- A machine before its first step: nothing was made, nothing was called, and every thread is
at the beginning of some host code. -/
structure Machine.Opens {σ : Type} (machine : Machine (Clients σ)) : Prop where
  store : exists files, machine.store = { files }
  calls : machine.host.calls = []
  threads : forall thread, thread ∈ machine.threads ->
    exists client : Client σ (Except Fault Unit), thread = .running client.program []

/-- The machines that host code can lead to, by any order of the steps of its threads. -/
def Machine.Reachable {σ : Type} (code : ClientCode σ) (machine : Machine (Clients σ)) : Prop :=
  exists start : Machine (Clients σ), start.Opens ∧ Machine.Steps code.host start machine

namespace Machine

variable {σ : Type} {code : ClientCode σ} {machine later : Machine (Clients σ)}

/-- What a reachable machine leads to is reachable. -/
theorem Reachable.steps (reachable : machine.Reachable code)
    (steps : Machine.Steps code.host machine later) : later.Reachable code := by
  obtain ⟨start, opens, before⟩ := reachable
  exact ⟨start, opens, before.trans steps⟩

/-- What holds before the first step and is kept by every step holds of every machine that host code
can lead to. -/
@[elab_as_elim]
theorem Reachable.induction
    {motive : forall machine : Machine (Clients σ), machine.Reachable code -> Prop}
    (opens : forall start (opens : start.Opens), motive start ⟨start, opens, .refl⟩)
    (step : forall thread current next (reached : current.Reachable code)
      (moved : current.step code.host thread = some next), motive current reached ->
        motive next (reached.steps (.step .refl ⟨thread, moved⟩)))
    (reachable : machine.Reachable code) : motive machine reachable := by
  obtain ⟨start, opening, steps⟩ := reachable
  induction steps with
  | refl => exact opens start opening
  | @step current next prior last inductionHypothesis =>
      obtain ⟨thread, moved⟩ := last
      exact step thread current next ⟨start, opening, prior⟩ moved inductionHypothesis

/-- A machine before its first step has no history of calls. -/
theorem Opens.host (opens : machine.Opens) : machine.host = { own := machine.host.own } := by
  rw [← opens.calls]

/-- Let threads take steps in the order of a schedule; none if one of them cannot. -/
def follow (code : HostCode σ) : List ThreadId -> Machine σ -> Option (Machine σ)
  | [], machine => some machine
  | thread :: schedule, machine => (machine.step code thread).bind (follow code schedule)

/-- A single thread at the beginning of some host code. -/
def opening (client : Client σ (Except Fault Unit)) (own : σ) : Machine (Clients σ) where
  store := {}
  host := { own }
  threads := #[.running client.program []]

/-- A single thread at its beginning opens. -/
theorem opens_opening (client : Client σ (Except Fault Unit)) (own : σ) :
    (opening client own).Opens where
  store := ⟨{}, rfl⟩
  calls := rfl
  threads := fun _ member => ⟨client, Array.mem_singleton.mp member⟩

/-- Whatever a single thread runs to is reachable. -/
theorem reachable_run (code : ClientCode σ) (client : Client σ (Except Fault Unit)) (own : σ)
    (fuel : Nat) : (Machine.run code.host fuel (opening client own)).Reachable code :=
  ⟨_, opens_opening client own, steps_run code.host fuel _ _ .refl⟩

/-- What a registry binds a class to. -/
def bound (machine : Machine σ) (registry : RegistryId) (cls : ClassId) : Option Representation :=
  (machine.store.registry registry).lookup cls

/-- The registry of a factory. -/
def registryOf (machine : Machine σ) (factory : FactoryId) : RegistryId :=
  (machine.store.factory factory).registry

/-- A call has been answered without a fault. -/
def Answered (machine : Machine (Clients σ)) (call : Call) (answer : call.Answer) : Prop :=
  { call, answer := some (.ok answer) } ∈ machine.host.calls

end Machine

end GuestTypes
