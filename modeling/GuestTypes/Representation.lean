import GuestTypes.Identity

/-!
# Representations

A representation says how the guest type of an object follows from its host class: the class
is the primary class of a type (`canonical`), or a secondary class of one (`adopted`), or it
backs many types and the object itself tells which (`shared`). Two representations are the
same when they are about the same type and place, or are the same shared one.
-/

namespace GuestTypes

/-- The mapping from one host class to the guest type of its instances. -/
inductive Representation where
  /-- A type standing for its own primary class. -/
  | canonical (type : TypeId)
  /-- A secondary class of a type, by its place among the type's classes. -/
  | adopted (owner : TypeId) (index : Nat)
  /-- A class whose instances carry their type. -/
  | shared (shared : SharedId)
  deriving DecidableEq, Inhabited, Repr

namespace Representation

/-- The place among the owning type's representations. -/
def index : Representation -> Nat
  | adopted _ index => index
  | canonical _ | shared _ => 0

/-- The type fixed by the class, if the class fixes one. -/
def fixedType : Representation -> Option TypeId
  | canonical type => some type
  | adopted owner _ => some owner
  | shared _ => none

def isShared : Representation -> Bool
  | shared _ => true
  | canonical _ | adopted _ _ => false

end Representation

/-- One host class for many guest types. -/
structure SharedRepresentation where
  hostClass : ClassId
  /-- The class that the shared class was derived from, when there is one. -/
  canonicalClass : Option ClassId
  deriving DecidableEq, Inhabited, Repr

end GuestTypes
