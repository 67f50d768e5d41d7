import GuestTypes.Flags
import GuestTypes.Host.Lineage
import GuestTypes.Representation
import GuestTypes.Table

/-!
# Guest types

| Kind        | Representations                      | Host classes               |
|-------------|--------------------------------------|----------------------------|
| simple      | itself                               | primary                    |
| adoptive    | itself, the adopted, the accepted    | primary, adopted, accepted |
| replaceable | the one shared representation        | the shared class           |

A `TypeTable` holds every type and every shared representation ever made. Rows are never
changed, and a type's bases come before it (`TypeTable.grounded`), so a search of the bases
comes to an end.
-/

namespace GuestTypes

/-- How a type relates to host classes. -/
inductive TypeKind where
  | simple
  | adoptive (adoptedCount : Nat)
  | replaceable (shared : SharedId)
  deriving DecidableEq, Inhabited, Repr

/-- A type defined in, or exposed to, the guest language. -/
structure GuestType where
  name : String
  bases : List TypeId := []
  features : TypeFlags := .none
  /-- The kernel flags of the type, those acquired from the bases included. -/
  kernel : KernelFlags := .none
  primary : ClassId
  /-- The adopted classes, then the accepted ones. -/
  others : List ClassId := []
  kind : TypeKind := .simple
  deriving Inhabited, Repr

namespace GuestType

/-- The host classes of a type, in the order of its representations. -/
def selfClasses (type : GuestType) : List ClassId := type.primary :: type.others

def adoptedCount (type : GuestType) : Nat :=
  match type.kind with
  | .adoptive adopted => adopted
  | .simple | .replaceable _ => 0

def acceptedCount (type : GuestType) : Nat :=
  match type.kind with
  | .adoptive adopted => type.others.length - adopted
  | .simple | .replaceable _ => 0

def isAdoptive (type : GuestType) : Bool :=
  match type.kind with
  | .adoptive _ => true
  | .simple | .replaceable _ => false

/-- The shared representation of a replaceable type. -/
def sharedRepresentation (type : GuestType) : Option SharedId :=
  match type.kind with
  | .replaceable shared => some shared
  | .simple | .adoptive _ => none

def isReplaceable (type : GuestType) : Bool := type.sharedRepresentation.isSome

/-- Whether attributes of the type object may change. -/
def isMutable (type : GuestType) : Bool :=
  !type.isReplaceable && !type.features.contains .immutableType

/-- The place of a class among the type's classes. -/
def indexOf (type : GuestType) (cls : ClassId) : Option Nat :=
  type.selfClasses.findIdx? (· == cls)

/-- The representations of a type whose identity is `self`, in index order. -/
def representations (type : GuestType) (self : TypeId) : List Representation :=
  match type.kind with
  | .replaceable shared => [.shared shared]
  | .simple | .adoptive _ =>
      .canonical self :: (List.range type.others.length).map fun place =>
        .adopted self (place + 1)

/-- Whether instances of the two types have one layout: both share one representation. -/
def hasSameLayout (type other : GuestType) : Bool :=
  match type.sharedRepresentation, other.sharedRepresentation with
  | some mine, some theirs => mine == theirs
  | _, _ => false

/-- A type's bases all precede it. -/
def Grounded (type : GuestType) (position : Nat) : Prop :=
  forall base, base ∈ type.bases -> base.index < position

/-- The type without bases that do not exist yet. -/
def groundedAt (type : GuestType) (position : Nat) : GuestType :=
  { type with bases := type.bases.filter (·.index < position) }

/-- A type that was grounded is so. -/
theorem grounded_groundedAt (type : GuestType) (position : Nat) :
    (type.groundedAt position).Grounded position := by
  intro base member
  simp only [groundedAt, List.mem_filter] at member
  simpa using member.2

/-- All types of an empty table are grounded. -/
theorem grounded_empty (position : Nat) (type : GuestType)
    (found : (#[] : Array GuestType)[position]? = some type) : type.Grounded position := by
  simp at found

end GuestType

/-- Everything asked for when a guest type is created. -/
structure TypeDescription where
  name : String
  primary : ClassId
  /-- Classes whose instances are instances of the type. -/
  adopted : List ClassId := []
  /-- Classes accepted where the type is expected, but never bound to it. -/
  accepted : List ClassId := []
  bases : List TypeId := []
  features : TypeFlags := .none
  kernel : KernelFlags := .none
  deriving DecidableEq, Inhabited, Repr

/-- Whether a replaceable type is asked for. -/
def TypeDescription.isReplaceable (description : TypeDescription) : Bool :=
  description.features.contains .replaceable

/-- Every guest type and every shared representation made so far. -/
structure TypeTable where
  types : Array GuestType := #[]
  grounded : forall (position : Nat) (type : GuestType),
    types[position]? = some type -> type.Grounded position := by
      exact GuestType.grounded_empty
  shared : Table SharedRepresentation := { fallback := default }

namespace TypeTable

instance : Inhabited TypeTable := ⟨{}⟩

/-- The row of a type. -/
def row (table : TypeTable) (type : TypeId) : GuestType :=
  table.types[type.index]?.getD default

def name (table : TypeTable) (type : TypeId) : String := (table.row type).name

/-- The row of a shared representation. -/
def sharedRow (table : TypeTable) (shared : SharedId) : SharedRepresentation :=
  table.shared.get shared.index

/-- Add a type. Its identity is new; bases that do not exist are dropped. -/
def add (table : TypeTable) (type : GuestType) : TypeId × TypeTable :=
  let accepted := type.groundedAt table.types.size
  (⟨table.types.size⟩,
    { table with
      types := table.types.push accepted
      grounded := by
        intro position row found
        rw [Array.getElem?_push] at found
        split at found
        · rename_i last
          cases found
          rw [last]
          exact GuestType.grounded_groundedAt _ _
        · exact table.grounded position row found })

/-- Add a shared representation; its identity is new. -/
def addShared (table : TypeTable) (shared : SharedRepresentation) : SharedId × TypeTable :=
  (⟨table.shared.size⟩, { table with shared := table.shared.push shared })

/-- The kernel flags of a type with the given own flags and bases. -/
def effectiveKernel (table : TypeTable) (own : KernelFlags) (bases : List TypeId) : KernelFlags :=
  bases.foldl (fun flags base => flags.union (table.row base).kernel.heritable) own

/-- Whether `other` is among the types at most `steps` bases away. -/
def isSubtypeWithin (table : TypeTable) (other : TypeId) : Nat -> TypeId -> Bool
  | 0, type => type == other
  | steps + 1, type =>
      type == other || (table.row type).bases.any (isSubtypeWithin table other steps)

/-- Whether `other` is the type itself or is reached through bases. -/
def isSubtypeOf (table : TypeTable) (type other : TypeId) : Bool :=
  table.isSubtypeWithin other type.index type

/-- Whether instances of the two types have one layout. -/
def hasSameLayout (table : TypeTable) (type other : TypeId) : Bool :=
  (table.row type).hasSameLayout (table.row other)

/-- The host class that a representation governs. -/
def hostClass (table : TypeTable) : Representation -> ClassId
  | .canonical type => (table.row type).primary
  | .adopted owner index => ((table.row owner).selfClasses[index]?).getD (table.row owner).primary
  | .shared shared => (table.sharedRow shared).hostClass

/-- Whether a representation is accepted only: it is never bound to its class. -/
def isAccepted (table : TypeTable) : Representation -> Bool
  | .adopted owner index => (table.row owner).adoptedCount < index
  | .canonical _ | .shared _ => false

/-- Whether instances are exactly the guest numbers of a kind: the class is adopted and
carries the marker. -/
def isExact (table : TypeTable) (hierarchy : Hierarchy) (rep : Representation)
    (kind : NativeKind) : Bool :=
  match rep with
  | .adopted _ _ =>
      !table.isAccepted rep && (hierarchy.row (table.hostClass rep)).native == some kind
  | .canonical _ | .shared _ => false

end TypeTable

end GuestTypes
