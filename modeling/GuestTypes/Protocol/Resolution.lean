import GuestTypes.Protocol.Creation

/-!
# Resolving classes

How a registry answers for a class: it looks, initialises the class, looks again, escalates,
and publishes what the escalation found. The guard of the registry is only ever held for one reading
or writing, so initializers and escalations may use it. Of two threads that publish for one
class the first wins, and both get what the first published.
-/

namespace GuestTypes

namespace RegistryId

variable {σ α : Type}

/-- Turn elsewhere for the representation of a class. -/
def escalate (registry : RegistryId) (cls : ClassId) : Request σ Representation := do
  match <- Request.observe fun store => (store.registry registry).escalation with
  | .none => throw (.clash { mode := .missing, cls })
  | .gone => throw (.internal (.found .factoryGone))
  | .factory factory => factory.findOrCreate cls
  | .foreign code => ExceptT.mk (Program.escalate code cls .done)

/-- The representation of a class, made if necessary. -/
def resolve (registry : RegistryId) (cls : ClassId) : Request σ Representation := do
  if let some rep <- registry.step (.firstLookup cls) then return rep
  cls.ensureInitialised
  if let some rep <- registry.step (.secondLookup cls) then return rep
  let rep <- registry.escalate cls
  registry.step (.publish cls rep)

/-- The representation of the class of a value. -/
def resolveValue (registry : RegistryId) (value : Value) : Request σ Representation := do
  registry.resolve (<- Request.observe (·.heap.hostClass value))

/-- Bind classes that are all unbound. -/
def registerAll (registry : RegistryId) (bindings : List (ClassId × Representation)) :
    Request σ Unit := do
  match <- registry.step (.registerAll bindings) with
  | none => return ()
  | some (cls, existing) => FactoryId.clash .existing cls existing none

/-- Bind a class that is unbound. -/
def register (registry : RegistryId) (cls : ClassId) (rep : Representation) : Request σ Unit :=
  registry.registerAll [(cls, rep)]

end RegistryId

namespace Representation

variable {σ : Type}

/-- The fault of an object of a shared class that does not carry its type. -/
def sharingFault (rep : Representation) (value : Value) : Request σ TypeId := do
  let fault <- Request.observe fun store =>
    Fault.notShared (store.hierarchy.name (store.heap.hostClass value)) (store.label rep)
  throw fault

/-- The guest type of an object of the class that a representation governs. -/
def typeOf (rep : Representation) (value : Value) : Request σ TypeId := do
  match rep.fixedType with
  | some type => return type
  | none =>
      match <- Request.observe (·.heap.typeOf? value) with
      | some type => return type
      | none => rep.sharingFault value

/-- As `typeOf`; without an object only a fixed type is known. -/
def probe (rep : Representation) (value : Option Value) : Request σ (Option TypeId) := do
  match value with
  | some value => return some (<- rep.typeOf value)
  | none => return rep.fixedType

/-- Whether the guest type of an object has features. -/
def hasFeature (rep : Representation) (value : Value) (wanted : TypeFlags) : Request σ Bool := do
  let type <- rep.typeOf value
  Request.observe fun store => (store.types.row type).features.contains wanted

/-- Whether the guest type of an object has kernel features. -/
def hasKernelFeature (rep : Representation) (value : Value) (wanted : KernelFlags) :
    Request σ Bool := do
  let type <- rep.typeOf value
  Request.observe fun store => (store.types.row type).kernel.contains wanted

end Representation

/-- The guest type of a value. -/
def RegistryId.typeOf {σ : Type} (registry : RegistryId) (value : Value) : Request σ TypeId := do
  (<- registry.resolveValue value).typeOf value

end GuestTypes
