import GuestTypes.Record
import GuestTypes.Table

/-!
# Registries

A registry binds host classes to representations. A binding is never removed and never
replaced except within one batch that lists a class twice. `Registry.Step` lists everything
that can happen to a registry at one instant; the protocols that combine these steps live
elsewhere. The bindings are read and written under the guard of the registry.
-/

namespace GuestTypes

/-- Where a registry turns for a class that nobody bound. -/
inductive Escalation where
  /-- Nowhere: only what was registered is known. -/
  | none
  | factory (factory : FactoryId)
  | foreign (code : CodeId)
  /-- What it turned to does not exist any more. -/
  | gone
  deriving DecidableEq, Inhabited, Repr

/-! ## Guards -/

/-- What a thread does with the bindings of a registry while it holds the guard. -/
inductive Access where
  | reading
  | writing
  deriving DecidableEq, Inhabited, Repr

/-- The guard of a registry: who holds it, and for what. -/
structure Guard where
  holders : List (ThreadId × Access) := []
  deriving DecidableEq, Inhabited, Repr

namespace Guard

/-- Any number of threads may read at once; whoever writes is alone. -/
def admits (guard : Guard) : Access -> Bool
  | .reading => guard.holders.all (·.2 == .reading)
  | .writing => guard.holders.isEmpty

def take (guard : Guard) (thread : ThreadId) (access : Access) : Guard :=
  { holders := (thread, access) :: guard.holders }

def give (guard : Guard) (thread : ThreadId) : Guard :=
  { holders := guard.holders.eraseP (·.1 == thread) }

def isHeldBy (guard : Guard) (thread : ThreadId) : Bool :=
  guard.holders.any (·.1 == thread)

end Guard

/-! ## Registries -/

/-- How often a registry was asked. The counters wrap around. -/
structure LookupCounts where
  /-- Requests for a class that was bound already. -/
  hits : UInt64 := 0
  /-- Requests for a class that was not. -/
  misses : UInt64 := 0
  /-- Requests for a class that was not bound after its initialisation either. -/
  escalations : UInt64 := 0
  deriving DecidableEq, Inhabited, Repr

/-- Bindings, and how they were asked for. -/
structure Registry where
  escalation : Escalation := .none
  /-- The representation of each class, by the position of the class. -/
  bound : Table (Option Representation) := { fallback := Option.none }
  counts : LookupCounts := {}
  deriving Inhabited

namespace Registry

def hits (registry : Registry) : Nat := registry.counts.hits.toNat

def misses (registry : Registry) : Nat := registry.counts.misses.toNat

def escalations (registry : Registry) : Nat := registry.counts.escalations.toNat

def countHit (registry : Registry) : Registry :=
  { registry with counts := { registry.counts with hits := registry.counts.hits + 1 } }

def countMiss (registry : Registry) : Registry :=
  { registry with counts := { registry.counts with misses := registry.counts.misses + 1 } }

def countEscalation (registry : Registry) : Registry :=
  { registry with
    counts := { registry.counts with escalations := registry.counts.escalations + 1 } }

/-- The representation of a class, if it is bound. -/
def lookup (registry : Registry) (cls : ClassId) : Option Representation :=
  registry.bound.get cls.index

/-- Bind a class, whatever it was bound to. -/
def bind (registry : Registry) (cls : ClassId) (rep : Representation) : Registry :=
  { registry with bound := registry.bound.set cls.index (some rep) }

/-- A binding is seen at its own class and nowhere else. -/
theorem lookup_bind (registry : Registry) (cls other : ClassId) (rep : Representation) :
    (registry.bind cls rep).lookup other =
      if cls = other then some rep else registry.lookup other := by
  simp only [bind, lookup, Table.get_set]
  cases cls
  cases other
  simp

/-- Bind the classes of a batch in order. -/
def bindAll (registry : Registry) (bindings : List (ClassId × Representation)) : Registry :=
  bindings.foldl (fun sofar binding => sofar.bind binding.1 binding.2) registry

/-- The first class of a batch that is bound already, with its representation. -/
def clash? (registry : Registry) (bindings : List (ClassId × Representation)) :
    Option (ClassId × Representation) :=
  bindings.findSome? fun binding => (registry.lookup binding.1).map (binding.1, ·)

/-- Every class that is bound, in the order of identities. -/
def classes (registry : Registry) : List ClassId :=
  (List.range registry.bound.size).filterMap fun index =>
    (registry.bound.get index).map fun _ => ⟨index⟩

/-- The number of bound classes. -/
def size (registry : Registry) : Nat := registry.classes.length

/-- One reading or writing of a registry. -/
inductive Step : Type -> Type where
  | lookup (cls : ClassId) : Step (Option Representation)
  /-- The lookup that opens a request, which counts as a hit or a miss. -/
  | firstLookup (cls : ClassId) : Step (Option Representation)
  /-- The lookup after initialisation, which counts the requests that must escalate. -/
  | secondLookup (cls : ClassId) : Step (Option Representation)
  /-- Bind a class unless it is bound. The answer is what it is bound to now. -/
  | publish (cls : ClassId) (rep : Representation) : Step Representation
  /-- Bind all classes of a batch, or none if one is bound; the answer is the first clash. -/
  | registerAll (bindings : List (ClassId × Representation)) :
      Step (Option (ClassId × Representation))
  /-- Lose what a foreign escalation turns to. The answer is whether there was one. -/
  | loseEscalation : Step Bool

namespace Step

/-- What a step does with the bindings, which takes the guard; none if it does not touch them. -/
def access? {β : Type} : Step β -> Option Access
  | lookup _ | firstLookup _ | secondLookup _ => some .reading
  | publish _ _ | registerAll _ => some .writing
  | loseEscalation => none

/-- The guard once a thread has begun with a step. -/
def guarding {β : Type} (step : Step β) (thread : ThreadId) (guard : Guard) : Guard :=
  match step.access? with
  | some access => guard.take thread access
  | none => guard

def perform {β : Type} (step : Step β) (registry : Registry) : β × Registry × List Record :=
  match step with
  | lookup cls => (registry.lookup cls, registry, [])
  | firstLookup cls =>
      let found := registry.lookup cls
      (found,
        if found.isSome then registry.countHit else registry.countMiss, [])
  | secondLookup cls =>
      let found := registry.lookup cls
      (found,
        if found.isSome then registry else registry.countEscalation, [])
  | publish cls rep =>
      match registry.lookup cls with
      | some existing => (existing, registry, [])
      | none => (rep, registry.bind cls rep, [.published cls rep])
  | registerAll bindings =>
      match registry.clash? bindings with
      | some clash => (some clash, registry, [])
      | none =>
          (none, registry.bindAll bindings,
            bindings.map fun binding => .published binding.1 binding.2)
  | loseEscalation =>
      match registry.escalation with
      | .foreign _ => (true, { registry with escalation := .gone }, [])
      | .none | .factory _ | .gone => (false, registry, [])

end Step

end Registry

end GuestTypes
