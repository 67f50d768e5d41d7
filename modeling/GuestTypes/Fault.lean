import GuestTypes.ClassBody
import GuestTypes.Configuration

/-!
# Faults

Everything an operation of the kernel can be refused with. Callers treat four families
differently: misuse of a specification, clashes over a host class, faults of the type system
itself, and requests of guest code that are turned down. `Fault.message` is the text of each.
-/

namespace GuestTypes

/-- What stood in the way of binding a host class. -/
inductive ClashMode where
  /-- The class is bound already. -/
  | existing
  /-- The class is bound, to a representation that cannot be shared. -/
  | notSharable
  /-- The class should be bound, but is not. -/
  | missing
  deriving DecidableEq, Inhabited, Repr

/-- A host class that could not be bound as requested. -/
structure Clash where
  mode : ClashMode
  cls : ClassId
  /-- The representation that the class is bound to. -/
  existing : Option String := none
  /-- The type description that was being followed. -/
  context : Option String := none
  deriving DecidableEq, Inhabited, Repr

/-- The clash as met while following a type description. -/
def Clash.within (clash : Clash) (context : Option String) : Clash :=
  { clash with context := context.or clash.context }

def Clash.message (hierarchy : Hierarchy) (clash : Clash) : String :=
  let found := clash.existing.getD "nothing"
  let name := hierarchy.name clash.cls
  (match clash.context with
    | some context => "interpreting specification " ++ context ++ ", the type system found "
    | none => "")
  ++ match clash.mode with
    | .existing => "class " ++ name ++ " was already bound to " ++ found
    | .notSharable => "class " ++ name ++ " was bound to non-shared " ++ found
    | .missing => "no representation for class " ++ name

/-- A cause that the kernel finds itself, or one that host code reports in its own words. -/
inductive Cause (α : Type) where
  | found (cause : α)
  | reported (text : String)
  deriving DecidableEq, Inhabited, Repr

def Cause.message {α : Type} (describe : α -> String) : Cause α -> String
  | found cause => describe cause
  | reported text => text

/-- A broken invariant of the type system. -/
inductive InternalFault where
  /-- A specification must be frozen before a class is synthesized for it. -/
  | unfrozen (specification : String)
  | malformedBody (cls : String) (defect : BodyDefect)
  | duplicateClass (cls : String)
  | unwrittenListing (path : String) (problem : FileProblem)
  | adoptingReplaceable (type : String)
  | interfaceAsClass (cls : String)
  /-- The factory that a registry turns to is gone. -/
  | factoryGone
  | notSynthesized (cls : String)
  | notASlot (slot cls : String)
  | slotOutOfRange (index : Nat) (cls : String)
  deriving DecidableEq, Inhabited, Repr

def InternalFault.message : InternalFault -> String
  | unfrozen specification =>
      "specification " ++ specification ++ " reached the subclass factory unfrozen"
  | malformedBody cls defect => "class " ++ cls ++ ": " ++ defect.message
  | duplicateClass cls => "duplicate class definition " ++ cls
  | unwrittenListing path problem => "writing class file " ++ path ++ ": " ++ problem.message
  | adoptingReplaceable type => "replaceable type " ++ type ++ " cannot adopt or accept classes"
  | interfaceAsClass cls => "interface " ++ cls ++ " cannot be the class of an object"
  | factoryGone => "type factory no longer exists"
  | notSynthesized cls => cls ++ " is not a synthesized class"
  | notASlot slot cls => "'" ++ slot ++ "' is not a slot of " ++ cls
  | slotOutOfRange index cls => "slot index " ++ toString index ++ " out of range for " ++ cls

/-- A value that cannot serve as an instance dictionary, by the name of its class. -/
structure NotDictionary where
  cls : String
  deriving DecidableEq, Inhabited, Repr

def NotDictionary.message (refused : NotDictionary) : String :=
  "__dict__ must be set to a dictionary, not a '" ++ refused.cls ++ "'"

/-- A type whose instances cannot be made yet. -/
structure NotInstantiable where
  type : String
  deriving DecidableEq, Inhabited, Repr

def NotInstantiable.message (refused : NotInstantiable) : String :=
  "creating instances of '" ++ refused.type ++ "'"

/-- Why an operation was refused. -/
inductive Fault where
  | misuse (error : Misuse)
  | clash (met : Clash)
  /-- An object of a shared class cannot tell its type. -/
  | notShared (cls representation : String)
  /-- The static initialisation of a class failed. -/
  | initialisation (cls reason : String)
  | internal (cause : Cause InternalFault)
  /-- The held type and the offered one differ in layout. -/
  | classAssignment (held offered : String)
  | dictAssignment (cause : Cause NotDictionary)
  | layoutConflict (name : String) (bases : List String)
  | unsupported (cause : Cause NotInstantiable)
  | configuration (cause : Cause ConfigurationProblem)
  deriving DecidableEq, Inhabited, Repr

namespace Fault

/-- Whether the type system itself is inconsistent, rather than the request unsuitable. -/
def isInternal : Fault -> Bool
  | clash _ | notShared _ _ | initialisation _ _ | internal _ => true
  | misuse _ | classAssignment _ _ | dictAssignment _ | layoutConflict _ _ | unsupported _
  | configuration _ => false

/-- Whether the fault wraps one of its own family that can be asked for. -/
def hasSource : Fault -> Bool
  | misuse _ | clash _ | notShared _ _ | initialisation _ _ | internal _ => true
  | classAssignment _ _ | dictAssignment _ | layoutConflict _ _ | unsupported _
  | configuration _ => false

/-- The number of characters of a class name that an unsharable class is reported with. -/
def nameLimit : Nat := 100

def message (hierarchy : Hierarchy) : Fault -> String
  | misuse error => error.message
  | clash met => met.message hierarchy
  | notShared cls representation =>
      "internal error: unsharable class " ++ String.ofList (cls.toList.take nameLimit)
        ++ " registered as " ++ representation
  | initialisation cls reason =>
      "internal error: failed to initialise class " ++ cls ++ ": " ++ reason
  | internal cause => "internal error: " ++ cause.message InternalFault.message
  | classAssignment held offered =>
      "__class__ assignment: '" ++ offered ++ "' object layout differs from '" ++ held ++ "'"
  | dictAssignment cause => "__dict__ assignment: " ++ cause.message NotDictionary.message
  | layoutConflict name bases =>
      "class " ++ name ++ ": multiple bases have instance lay-out conflict ("
        ++ String.intercalate ", " bases ++ ")"
  | unsupported cause => "not yet supported: " ++ cause.message NotInstantiable.message
  | configuration cause =>
      "kernel configuration error: " ++ cause.message ConfigurationProblem.message

end Fault

end GuestTypes
