import GuestTypes.Representation
import GuestTypes.Specification

/-!
# Type factories

A factory makes types for one registry. Its lock is re-entrant: the thread that holds it may
take it again, and has to give it back as often. What is made under the lock is kept in the
workshop and published together when the outermost request ends. `Factory.Step` lists
everything that can happen to a factory at one instant.
-/

namespace GuestTypes

/-- A lock that its holder may take again. -/
inductive Lock where
  | free
  /-- Taken by a thread, and `again` more times by the same one. -/
  | held (owner : ThreadId) (again : Nat)
  deriving DecidableEq, Inhabited, Repr

namespace Lock

/-- The lock once a thread has taken it; none while the thread has to wait. -/
def acquire (lock : Lock) (thread : ThreadId) : Option Lock :=
  match lock with
  | free => some (held thread 0)
  | held owner again => if owner = thread then some (held owner (again + 1)) else none

/-- The lock once a thread has given it back once. -/
def release (lock : Lock) (thread : ThreadId) : Lock :=
  match lock with
  | free => free
  | held owner again =>
      if owner = thread then
        match again with
        | 0 => free
        | fewer + 1 => held owner fewer
      else lock

def isHeldBy (lock : Lock) (thread : ThreadId) : Bool :=
  match lock with
  | free => false
  | held owner _ => owner == thread

end Lock

/-- Bindings made but not published, and the requests they are made for. -/
structure Workshop where
  /-- How many requests are nested. -/
  depth : Nat := 0
  /-- The type descriptions followed since the outermost request began, that one's first. -/
  tasks : List String := []
  unpublished : List (ClassId × Representation) := []
  deriving DecidableEq, Inhabited, Repr

namespace Workshop

/-- The binding prepared for a class. -/
def prepared (workshop : Workshop) (cls : ClassId) : Option Representation :=
  (workshop.unpublished.find? (·.1 == cls)).map (·.2)

/-- Prepare a binding in place of an earlier one of the class. -/
def prepare (workshop : Workshop) (cls : ClassId) (rep : Representation) : Workshop :=
  { workshop with
    unpublished := workshop.unpublished.filter (·.1 != cls) ++ [(cls, rep)] }

/-- The description that the outermost request follows. -/
def context (workshop : Workshop) : Option String := workshop.tasks.head?

end Workshop

/-- A maker of guest types. -/
structure Factory where
  registry : RegistryId
  synthesizer : SynthesizerId
  /-- The root of the guest types. -/
  objectType : TypeId
  /-- The type of type objects. -/
  typeType : TypeId
  lock : Lock := .free
  workshop : Workshop := {}
  /-- The classes synthesized so far, by shape. -/
  layouts : List (Shape × ClassId) := []
  deriving Inhabited

namespace Factory

/-- The class synthesized for a shape. -/
def layoutClass? (factory : Factory) (shape : Shape) : Option ClassId :=
  (factory.layouts.find? (·.1 == shape)).map (·.2)

/-- One change of a factory. -/
inductive Step : Type -> Type where
  /-- Take the lock, or wait for it. -/
  | acquire : Step Unit
  | release : Step Unit
  /-- Enter a request, which may follow a type description. -/
  | begin (task : Option String) : Step Unit
  /-- Leave a request. The answer is whether it was the outermost one. -/
  | finish : Step Bool
  | prepare (cls : ClassId) (rep : Representation) : Step Unit
  /-- Empty the workshop for publication. The answer is what was prepared, and its context. -/
  | collect : Step (List (ClassId × Representation) × Option String)
  /-- Empty the workshop without publication. -/
  | discard : Step Unit
  | cacheLayout (shape : Shape) (cls : ClassId) : Step Unit

namespace Step

/-- The answer to a thread and the changed factory; none while the thread has to wait. -/
def perform {β : Type} (step : Step β) (thread : ThreadId) (factory : Factory) :
    Option (β × Factory) :=
  let workshop := factory.workshop
  match step with
  | acquire => (factory.lock.acquire thread).map fun lock => ((), { factory with lock })
  | release => some ((), { factory with lock := factory.lock.release thread })
  | begin task =>
      some ((), { factory with
        workshop := { workshop with
          depth := workshop.depth + 1
          tasks := workshop.tasks ++ task.toList } })
  | finish =>
      let depth := workshop.depth - 1
      some (depth == 0, { factory with workshop := { workshop with depth } })
  | prepare cls rep => some ((), { factory with workshop := workshop.prepare cls rep })
  | collect =>
      some ((workshop.unpublished, workshop.context),
        { factory with workshop := { workshop with tasks := [], unpublished := [] } })
  | discard =>
      some ((), { factory with workshop := { workshop with tasks := [], unpublished := [] } })
  | cacheLayout shape cls =>
      some ((), { factory with layouts := factory.layouts ++ [(shape, cls)] })

end Step

end Factory

end GuestTypes
