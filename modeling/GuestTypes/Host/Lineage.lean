import GuestTypes.Host.Class

/-!
# Superclasses and interfaces

The three questions asked of a hierarchy: the superclass chain of a class (`lineage`),
whether a class declares an interface somewhere (`implements`), and whether instances of one
class are instances of another (`isSubclassOf`). Each walk is bounded by the position of the
class it starts from, which `Hierarchy.grounded` makes enough.
-/

namespace GuestTypes.Hierarchy

/-- At most `steps` superclasses above a class, the class itself first. -/
def lineageWithin (hierarchy : Hierarchy) : Nat -> ClassId -> List ClassId
  | 0, cls => [cls]
  | steps + 1, cls =>
      match hierarchy.superclass cls with
      | none => [cls]
      | some super => cls :: lineageWithin hierarchy steps super

/-- A class and its superclasses, nearest first. -/
def lineage (hierarchy : Hierarchy) (cls : ClassId) : List ClassId :=
  hierarchy.lineageWithin cls.index cls

/-- Whether a class reaches an interface in at most `steps` declarations. -/
def implementsWithin (hierarchy : Hierarchy) (iface : ClassId) : Nat -> ClassId -> Bool
  | 0, _ => false
  | steps + 1, cls =>
      (hierarchy.lineage cls).any fun ancestor =>
        (hierarchy.row ancestor).interfaces.any fun declared =>
          declared == iface || implementsWithin hierarchy iface steps declared

/-- Whether a class or one of its superclasses declares an interface, itself or through an
interface that it declares. -/
def implements (hierarchy : Hierarchy) (cls iface : ClassId) : Bool :=
  hierarchy.implementsWithin iface (cls.index + 1) cls

/-- Whether instances of `cls` are instances of `other`. -/
def isSubclassOf (hierarchy : Hierarchy) (cls other : ClassId) : Bool :=
  if hierarchy.isInterface other then
    cls == other || hierarchy.implements cls other
  else
    (hierarchy.lineage cls).contains other

end GuestTypes.Hierarchy
