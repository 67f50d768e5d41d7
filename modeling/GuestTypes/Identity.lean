/-!
# Identities

Classes, types, shared representations, objects and machines are compared by identity and
never by content: two classes with one name are two classes. An identity is a position in
the table that holds the thing, so equality of identities is equality of positions.
-/

namespace GuestTypes

/-- A host class. -/
structure ClassId where
  index : Nat
  deriving DecidableEq, Inhabited, Hashable, Repr

/-- A guest type. -/
structure TypeId where
  index : Nat
  deriving DecidableEq, Inhabited, Hashable, Repr

/-- A shared representation. -/
structure SharedId where
  index : Nat
  deriving DecidableEq, Inhabited, Hashable, Repr

/-- An object on the heap: a dictionary or an instance. -/
structure ObjectId where
  index : Nat
  deriving DecidableEq, Inhabited, Hashable, Repr

/-- A registry of representations. -/
structure RegistryId where
  index : Nat
  deriving DecidableEq, Inhabited, Hashable, Repr

/-- A type factory. -/
structure FactoryId where
  index : Nat
  deriving DecidableEq, Inhabited, Hashable, Repr

/-- A synthesizer of layout classes. -/
structure SynthesizerId where
  index : Nat
  deriving DecidableEq, Inhabited, Hashable, Repr

/-- A loader of class bodies. -/
structure LoaderId where
  index : Nat
  deriving DecidableEq, Inhabited, Hashable, Repr

/-- A piece of host code: an initializer, an escalation or the body of a thread. -/
structure CodeId where
  index : Nat
  deriving DecidableEq, Inhabited, Hashable, Repr

/-- A thread of control. -/
structure ThreadId where
  index : Nat
  deriving DecidableEq, Inhabited, Hashable, Repr

end GuestTypes
