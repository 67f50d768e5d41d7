import GuestTypes.Description
import GuestTypes.Protocol.Bindings
import GuestTypes.Protocol.Initialisation

/-!
# Creating types

The requests that make types. All of them work under the lock of the factory and prepare
their bindings in its workshop; the outermost request publishes what was prepared, or
discards it when it is refused. A static initializer runs before the lock is taken, so it may
make types itself.
-/

namespace GuestTypes

/-- The first class that a description names a second time, and in which of its lists. -/
def TypeDescription.repeated? (wanted : TypeDescription) : Option (AddingAct × ClassId) :=
  let rec search (seen : List ClassId) :
      List (AddingAct × ClassId) -> Option (AddingAct × ClassId)
    | [] => none
    | (act, cls) :: rest =>
        if seen.contains cls then some (act, cls) else search (cls :: seen) rest
  search [wanted.primary]
    (wanted.adopted.map (AddingAct.adopt, ·) ++ wanted.accepted.map (AddingAct.accept, ·))

/-- Whether a description names its primary class alone. -/
def TypeDescription.isSimple (wanted : TypeDescription) : Bool :=
  wanted.adopted.isEmpty && wanted.accepted.isEmpty

namespace FactoryId

variable {σ α : Type}

/-- A step of the factory as part of a request. -/
def step (factory : FactoryId) (step : Factory.Step α) : Request σ α :=
  Request.perform (.factory factory step)

/-- Look at the factory. -/
def view (factory : FactoryId) (view : Factory -> α) : Request σ α :=
  Request.observe fun store => view (store.factory factory)

/-- Do some work under the lock. -/
def locked (factory : FactoryId) (work : Request σ α) : Request σ α := do
  factory.step .acquire
  let outcome <- work.attempt
  factory.step .release
  Request.ofExcept outcome

/-- What is published for a class in the factory's registry. -/
def published (factory : FactoryId) (cls : ClassId) : Request σ (Option Representation) := do
  (<- factory.view (·.registry)).lookup cls

/-- What is published or prepared for a class; to be asked under the lock. -/
def found (factory : FactoryId) (cls : ClassId) : Request σ (Option Representation) := do
  match <- factory.published cls with
  | some rep => return some rep
  | none => factory.view (·.workshop.prepared cls)

/-- The fault of a class that is bound to something that does not suit. -/
def clash (mode : ClashMode) (cls : ClassId) (existing : Representation)
    (context : Option String) : Request σ α := do
  let existing <- Request.observe (·.label existing)
  throw (.clash { mode, cls, existing := some existing, context })

/-- Prepare the binding of a class that is neither bound nor prepared. -/
def prepare (factory : FactoryId) (cls : ClassId) (rep : Representation) : Request σ Unit := do
  match <- factory.found cls with
  | some existing => clash .existing cls existing (<- factory.view (·.workshop.context))
  | none => factory.step (.prepare cls rep)

/-! ## Publication -/

/-- The prepared bindings that the registry does not hold yet. -/
def unpublished (factory : FactoryId) :
    List (ClassId × Representation) -> Request σ (List (ClassId × Representation))
  | [] => return []
  | (cls, rep) :: rest => do
      let published <- factory.published cls
      let others <- factory.unpublished rest
      return if published == some rep then others else (cls, rep) :: others

/-- Publish all that was prepared. -/
def publishAll (factory : FactoryId) : Request σ Unit := do
  let (prepared, context) <- factory.step .collect
  let fresh <- factory.unpublished prepared
  match <- (<- factory.view (·.registry)).step (.registerAll fresh) with
  | none => return ()
  | some (cls, existing) => clash .existing cls existing context

/-- Leave a request; the outermost one publishes on success and discards on failure. -/
def conclude (factory : FactoryId) (work : Request σ α) : Request σ α := do
  let outcome <- work.attempt
  let outermost <- factory.step .finish
  match outcome with
  | .ok answer =>
      if outermost then factory.publishAll
      return answer
  | .error fault =>
      if outermost then factory.step .discard
      throw fault

/-! ## Types -/

/-- Add a type with the attributes of a description. Without bases it has the root type as its
base. -/
def addType (factory : FactoryId) (wanted : TypeDescription) (primary : ClassId)
    (others : List ClassId) (kind : TypeKind) : Request σ TypeId := do
  let root <- factory.view (·.objectType)
  let bases := if wanted.bases.isEmpty then [root] else wanted.bases
  let kernel <- Request.observe (·.types.effectiveKernel wanted.kernel bases)
  let features :=
    match kind with
    | .replaceable _ => wanted.features.union .replaceable
    | .simple | .adoptive _ => wanted.features
  Request.perform (.addType { name := wanted.name, bases, features, kernel, primary, others, kind })

/-- The shared representation of a class, made anew unless the class is bound to one. -/
def shareClass (factory : FactoryId) (wanted : TypeDescription) : Request σ SharedId := do
  match <- factory.found wanted.primary with
  | some (.shared shared) => return shared
  | some existing => clash .notSharable wanted.primary existing (some wanted.name)
  | none =>
      let canonicalClass <- Request.observe (·.hierarchy.superclass wanted.primary)
      let shared <- Request.perform (.addShared { hostClass := wanted.primary, canonicalClass })
      factory.prepare wanted.primary (.shared shared)
      return shared

/-- Prepare the adopted classes of a type, from a place on. All are offered, and the first
refusal is the answer. -/
def adopt (factory : FactoryId) (owner : TypeId) :
    Nat -> List ClassId -> Request σ (Option Fault)
  | _, [] => return none
  | place, cls :: rest => do
      let outcome <- (factory.prepare cls (.adopted owner place)).attempt
      let later <- factory.adopt owner (place + 1) rest
      match outcome with
      | .error fault => return some fault
      | .ok _ => return later

/-- Make the type of a description and prepare its bindings. -/
def addPartial (factory : FactoryId) (wanted : TypeDescription) : Request σ TypeId := do
  if let some (act, cls) := wanted.repeated? then
    throw (.misuse (.repeated wanted.name act (<- Request.observe (·.hierarchy.name cls))))
  if wanted.isReplaceable then
    if !wanted.isSimple then throw (.internal (.found (.adoptingReplaceable wanted.name)))
    let shared <- factory.shareClass wanted
    let primary <- Request.observe fun store => (store.types.sharedRow shared).hostClass
    factory.addType wanted primary [] (.replaceable shared)
  else if wanted.isSimple then
    let type <- factory.addType wanted wanted.primary [] .simple
    factory.prepare wanted.primary (.canonical type)
    return type
  else
    let type <- factory.addType wanted wanted.primary (wanted.adopted ++ wanted.accepted)
      (.adoptive wanted.adopted.length)
    if let some fault <- factory.adopt type 1 wanted.adopted then throw fault
    factory.prepare wanted.primary (.canonical type)
    return type

/-! ## Requests -/

/-- Create the type of a description and publish its representations. -/
def create (factory : FactoryId) (wanted : TypeDescription) : Request σ TypeId :=
  factory.locked do
    factory.step (.begin (some wanted.name))
    factory.conclude do
      Request.perform (.record (.typeBegun (<- factory.view (·.workshop.depth)) wanted.name))
      factory.addPartial wanted

/-- The representation of a class, if it is published or prepared. -/
def find (factory : FactoryId) (cls : ClassId) : Request σ (Option Representation) :=
  factory.locked (factory.found cls)

/-- Whether a class takes over the representation of its superclass: host code made it, and
its instances carry their type. -/
def takesOver (hierarchy : Hierarchy) (cls : ClassId) : Bool :=
  hierarchy.implements cls Builtin.withClassAssignment && !hierarchy.isSynthesized cls

/-- The representation of the first of a class and its superclasses, as long as each takes
over that of the next. Those passed by are prepared to have it too. -/
def inherited (factory : FactoryId) : List ClassId -> Request σ (Option Representation)
  | [] => return none
  | cls :: above => do
      if let some rep <- factory.found cls then return some rep
      if !(<- Request.observe fun store => takesOver store.hierarchy cls) then return none
      match <- factory.inherited above with
      | none => return none
      | some rep =>
          factory.step (.prepare cls rep)
          return some rep

/-- The description of the type that a class gets when nobody described one. -/
def plainDescription (name : String) (cls : ClassId) : TypeDescription :=
  { name, primary := cls, features := .immutableType }

/-- Make a representation for a class that has none to inherit. -/
def makeRepresentation (factory : FactoryId) (cls : ClassId) : Request σ Representation := do
  let row <- Request.observe (·.hierarchy.row cls)
  if row.isSynthesized then
    let shared <- Request.perform
      (.addShared { hostClass := cls, canonicalClass := row.superclass })
    factory.prepare cls (.shared shared)
    return .shared shared
  if row.isInterface then throw (.internal (.found (.interfaceAsClass row.name)))
  factory.step (.begin (some row.name))
  let outcome <- (factory.addPartial (plainDescription row.name cls)).attempt
  let _ <- factory.step .finish
  let _ <- Request.ofExcept outcome
  match <- factory.found cls with
  | some rep => return rep
  | none => throw (.clash { mode := .missing, cls })

/-- Find or make, and publish, the representation of a class. -/
def findOrCreate (factory : FactoryId) (cls : ClassId) : Request σ Representation := do
  cls.ensureInitialised
  factory.locked do
    if let some rep <- factory.published cls then return rep
    factory.step (.begin none)
    factory.conclude do
      Request.perform (.record (.resolutionBegun (<- factory.view (·.workshop.depth)) cls))
      match <- factory.inherited (<- Request.observe (·.hierarchy.lineage cls)) with
      | some rep => return rep
      | none => factory.makeRepresentation cls

end FactoryId

end GuestTypes
