import GuestTypes.Identity
import GuestTypes.Layout
import GuestTypes.Text.Dotted

/-!
# Host classes

The run-time classes of the values the kernel handles. A `Hierarchy` holds every class that
was ever declared; rows are never changed or removed, and a row mentions earlier rows only
(`Hierarchy.grounded`), so a walk along superclasses or interfaces comes to an end.
-/

namespace GuestTypes

/-- Whether a host class has instances or is only a capability. -/
inductive ClassKind where
  | concrete
  | interface
  deriving DecidableEq, Inhabited, Repr

/-- The marker of the built-in numeric fast paths. -/
inductive NativeKind where
  | int
  | float
  deriving DecidableEq, Inhabited, Repr

/-- What is fixed about a host class when it is declared. -/
structure HostClass where
  name : String
  kind : ClassKind := .concrete
  superclass : Option ClassId := none
  /-- The interfaces it declares itself, as they were listed. -/
  interfaces : List ClassId := []
  native : Option NativeKind := none
  /-- The host code of its static initializer. -/
  initializer : Option CodeId := none
  /-- Present on synthesized classes only. -/
  layout : Option Layout := none
  deriving Inhabited, Repr

namespace HostClass

/-- The row of the root of every class hierarchy. -/
def root : HostClass := { name := "object" }

def isInterface (row : HostClass) : Bool := row.kind == .interface

/-- Synthesized classes are those with a layout. -/
def isSynthesized (row : HostClass) : Bool := row.layout.isSome

def simpleName (row : HostClass) : String := Text.simpleName row.name

def packageName (row : HostClass) : String := Text.packageName row.name

/-- The row mentions earlier rows only. -/
def Grounded (row : HostClass) (position : Nat) : Prop :=
  (forall super, row.superclass = some super -> super.index < position) ∧
    forall iface, iface ∈ row.interfaces -> iface.index < position

/-- The row without the classes it mentions that do not exist yet. -/
def groundedAt (row : HostClass) (position : Nat) : HostClass :=
  { row with
    superclass := row.superclass.filter (·.index < position)
    interfaces := row.interfaces.filter (·.index < position) }

/-- A row that was grounded is so. -/
theorem grounded_groundedAt (row : HostClass) (position : Nat) :
    (row.groundedAt position).Grounded position := by
  constructor
  · intro super chosen
    simp only [groundedAt, Option.filter_eq_some_iff] at chosen
    simpa using chosen.2
  · intro iface member
    simp only [groundedAt, List.mem_filter] at member
    simpa using member.2

end HostClass

/-- Every host class declared so far. -/
structure Hierarchy where
  rows : Array HostClass
  grounded : forall (position : Nat) (row : HostClass),
    rows[position]? = some row -> row.Grounded position

namespace Hierarchy

/-- The identity of the root class. -/
def object : ClassId := ⟨0⟩

/-- The row of a class. An identity that was never given out reads as the root. -/
def row (hierarchy : Hierarchy) (cls : ClassId) : HostClass :=
  hierarchy.rows[cls.index]?.getD .root

def name (hierarchy : Hierarchy) (cls : ClassId) : String := (hierarchy.row cls).name

def simpleName (hierarchy : Hierarchy) (cls : ClassId) : String := (hierarchy.row cls).simpleName

def superclass (hierarchy : Hierarchy) (cls : ClassId) : Option ClassId :=
  (hierarchy.row cls).superclass

def isInterface (hierarchy : Hierarchy) (cls : ClassId) : Bool := (hierarchy.row cls).isInterface

def isSynthesized (hierarchy : Hierarchy) (cls : ClassId) : Bool :=
  (hierarchy.row cls).isSynthesized

/-- An interface has no superclass, and a class that names none extends the root. -/
def completed (row : HostClass) : HostClass :=
  match row.kind with
  | .interface => { row with superclass := none }
  | .concrete => { row with superclass := some (row.superclass.getD object) }

/-- Declare a class. Its identity is new; classes it mentions that do not exist are dropped. -/
def declare (hierarchy : Hierarchy) (row : HostClass) : ClassId × Hierarchy :=
  let accepted := (completed row).groundedAt hierarchy.rows.size
  (⟨hierarchy.rows.size⟩,
    { rows := hierarchy.rows.push accepted
      grounded := by
        intro position row found
        rw [Array.getElem?_push] at found
        split at found
        · rename_i last
          cases found
          rw [last]
          exact HostClass.grounded_groundedAt _ _
        · exact hierarchy.grounded position row found })

/-- The hierarchy that holds the root alone. -/
def rootOnly : Hierarchy where
  rows := #[.root]
  grounded := by
    intro position row found
    cases position with
    | zero =>
        cases found
        exact ⟨by simp [HostClass.root], by simp [HostClass.root]⟩
    | succ later => simp at found

instance : Inhabited Hierarchy := ⟨rootOnly⟩

end Hierarchy

/-! ## The classes every program starts with -/

namespace Builtin

/-- The root class. -/
def object : ClassId := Hierarchy.object
/-- The class of type objects. -/
def typeClass : ClassId := ⟨1⟩
/-- The class of instance dictionaries. -/
def dict : ClassId := ⟨2⟩
/-- The class of 32-bit integers. -/
def int32 : ClassId := ⟨3⟩
/-- The class of 64-bit integers. -/
def int64 : ClassId := ⟨4⟩
/-- The class of 64-bit floating-point numbers. -/
def float64 : ClassId := ⟨5⟩
/-- The class of truth values. -/
def bool : ClassId := ⟨6⟩
/-- The class of texts. -/
def text : ClassId := ⟨7⟩
/-- The interface of instances that carry their guest type. -/
def withClassAssignment : ClassId := ⟨8⟩
/-- The interface of instances that carry an instance dictionary. -/
def withDictAssignment : ClassId := ⟨9⟩

/-- The rows after the root, in the order of the identities above. -/
def rows : List HostClass := [
  { name := "type" },
  { name := "dict" },
  { name := "i32", native := some .int },
  { name := "i64", native := some .int },
  { name := "f64", native := some .float },
  { name := "bool" },
  { name := "String" },
  { name := "typeforge.WithClassAssignment", kind := .interface },
  { name := "typeforge.WithDictAssignment", kind := .interface }]

/-- The hierarchy of the built-in classes. -/
def hierarchy : Hierarchy :=
  rows.foldl (fun sofar row => (sofar.declare row).2) Hierarchy.rootOnly

end Builtin

end GuestTypes
