import GuestTypes.Protocol.Resolution
import GuestTypes.Protocol.Synthesis

/-!
# Defining guest classes

A guest class needs a host class with the slots of its bases and its own. Guest classes of
one layout share the host class, and with it the shared representation, so their instances
can be reassigned among them.
-/

namespace GuestTypes

/-- What the bases of a guest class add up to. -/
structure Inheritance where
  /-- The most derived host class among those the bases stand for. -/
  base : ClassId := Builtin.object
  slots : List String := []
  dict : Bool := false
  deriving DecidableEq, Inhabited, Repr

namespace Inheritance

/-- The host class that a base stands for: its own, or the one its shared class was derived
from. -/
def canonicalClass (types : TypeTable) (base : GuestType) : ClassId :=
  match base.sharedRepresentation with
  | some shared => (types.sharedRow shared).canonicalClass.getD Builtin.object
  | none => base.primary

/-- The layout that a base passes on; only types that share their class do. -/
def layout? (hierarchy : Hierarchy) (base : GuestType) : Option Layout :=
  if base.isReplaceable then (hierarchy.row base.primary).layout else none

/-- Take in another base; none if its host class is unrelated to the one so far. -/
def add (hierarchy : Hierarchy) (types : TypeTable) (sofar : Inheritance) (base : GuestType) :
    Option Inheritance :=
  let layout := (layout? hierarchy base).getD { hasDict := false, slots := [] }
  let slots := layout.slots.foldl (fun slots slot =>
    if slots.contains slot then slots else slots ++ [slot]) sofar.slots
  let dict := sofar.dict || layout.hasDict
  let canonical := canonicalClass types base
  if hierarchy.isSubclassOf canonical sofar.base then some { base := canonical, slots, dict }
  else if hierarchy.isSubclassOf sofar.base canonical then some { sofar with slots, dict }
  else none

/-- What bases add up to; none if two of them are unrelated. -/
def ofBases (hierarchy : Hierarchy) (types : TypeTable) (bases : List GuestType) :
    Option Inheritance :=
  bases.foldlM (add hierarchy types) {}

/-- The specification of a layout class, before it is frozen. A class that declares no slots
of its own has a dictionary when it inherits slots; without any slots, freezing gives it one. -/
def specification (inheritance : Inheritance) (name : String) (declared : Option (List String))
    (dict : Bool) : Except Misuse Specification := do
  let start : Specification := { name, base := inheritance.base }
  let inherited :=
    if inheritance.slots.isEmpty then start else { start with added := some inheritance.slots }
  let own := (declared.getD []).filter (!inheritance.slots.contains ·)
  let slotted <- own.foldlM (·.addSlot ·) inherited
  slotted.addDictIf
    (dict || inheritance.dict || (declared.isNone && !inheritance.slots.isEmpty))

end Inheritance

namespace FactoryId

variable {σ : Type}

/-- The frozen specification of the layout class for a guest class. -/
def layoutSpecification (name : String) (bases : List TypeId) (slots : Option (List String))
    (dict : Bool) : Request σ Specification := do
  let types <- Request.observe (·.types)
  let hierarchy <- Request.observe (·.hierarchy)
  match Inheritance.ofBases hierarchy types (bases.map types.row) with
  | none => throw (.layoutConflict name (bases.map types.name))
  | some inheritance =>
      match inheritance.specification name slots dict with
      | .error misuse => throw (.misuse misuse)
      | .ok spec => return spec.freeze

/-- The class kept for the shape of a frozen specification, synthesized if there is none; to
be asked under the lock. -/
def layoutClass (factory : FactoryId) (spec : Specification) : Request σ ClassId := do
  match <- factory.view (·.layoutClass? spec.shape) with
  | some cls => return cls
  | none =>
      let cls <- (<- factory.view (·.synthesizer)).synthesize spec
      factory.step (.cacheLayout spec.shape cls)
      return cls

/-- Define a guest class. Without bases it extends the root type; `slots` is none when the
class declares none. -/
def defineClass (factory : FactoryId) (name : String) (bases : List TypeId)
    (slots : Option (List String)) (dict : Bool) : Request σ TypeId := do
  let root <- factory.view (·.objectType)
  let bases := if bases.isEmpty then [root] else bases
  let spec <- layoutSpecification name bases slots dict
  factory.locked do
    let primary <- factory.layoutClass spec
    factory.create {
      name, primary, bases
      features := TypeFlags.replaceable.union (TypeFlags.baseType.union .instantiable) }

/-- The features of the root type and of the type of types. -/
def rootFeatures : TypeFlags :=
  TypeFlags.baseType.union (TypeFlags.instantiable.union .immutableType)

/-- Make a factory that holds the root type and the type of types. -/
def make (config : Configuration) : Request σ FactoryId := do
  Request.perform (.record .factoryBegun)
  let synthesizer <- SynthesizerId.make config
  let objectType <- Request.perform
    (.addType { name := "object", features := rootFeatures, primary := Builtin.object })
  let typeType <- Request.perform
    (.addType {
      name := "type", bases := [objectType], features := rootFeatures
      primary := Builtin.typeClass })
  let factory <- Request.perform (.addFactory synthesizer objectType typeType)
  (<- factory.view (·.registry)).registerAll
    [(Builtin.object, .canonical objectType), (Builtin.typeClass, .canonical typeType)]
  return factory

end FactoryId

end GuestTypes
