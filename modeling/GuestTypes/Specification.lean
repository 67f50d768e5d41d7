import GuestTypes.Host.Class

/-!
# Specifications of layout classes

A specification describes the host class wanted for a guest class: its base, the interfaces
it implements, its named slots and whether it has an instance dictionary. It is built up one
item at a time and then frozen. What a frozen specification stands for is its `Shape`; the
name is provisional and no part of it.

Freezing fixes the layout. Without any slot ever added, the instances are ordinary objects
with a dictionary; otherwise the slots are put in order and the dictionary stays as asked.
-/

namespace GuestTypes

/-- The operations that refuse an item given twice. -/
inductive AddingAct where
  | addInterface
  | addSlot
  | adopt
  | accept
  deriving DecidableEq, Inhabited, Repr

def AddingAct.label : AddingAct -> String
  | addInterface => "add_interface"
  | addSlot => "add_slot"
  | adopt => "adopt"
  | accept => "accept"

/-- Misuse of a specification by the code that builds it. -/
inductive Misuse where
  | frozen (specification : String)
  | notInterface (specification cls : String)
  | repeated (specification : String) (act : AddingAct) (item : String)
  deriving DecidableEq, Inhabited, Repr

def Misuse.message : Misuse -> String
  | frozen specification => "specification " ++ specification ++ " already frozen"
  | notInterface specification cls =>
      "specification " ++ specification ++ ": " ++ cls ++ " is not an interface"
  | repeated specification act item =>
      "specification " ++ specification ++ ": repeated " ++ act.label ++ "(" ++ item ++ ")"

/-- A description of a wanted layout class, open to additions until it is frozen. -/
structure Specification where
  name : String
  base : ClassId
  /-- In the order they were added. -/
  interfaces : List ClassId := []
  /-- None until the first slot is added. -/
  added : Option (List String) := none
  dict : Bool := false
  /-- The layout, once frozen. -/
  frozen : Option Layout := none
  deriving DecidableEq, Inhabited, Repr

/-- An item that is fed to a hasher. -/
inductive Fed where
  /-- A class, by its identity. -/
  | identity (cls : ClassId)
  | flag (value : Bool)
  /-- The number of items that follow. -/
  | length (count : Nat)
  | text (value : String)
  deriving DecidableEq, Inhabited, Repr

/-- What equal specifications agree on. -/
structure Shape where
  base : ClassId
  layout : Layout
  /-- In the order of identities. -/
  interfaces : List ClassId
  deriving DecidableEq, Inhabited, Repr

namespace Specification

def isFrozen (spec : Specification) : Bool := spec.frozen.isSome

/-- The slots: in order once frozen, as they were added before. -/
def slots (spec : Specification) : List String :=
  match spec.frozen with
  | some layout => layout.slots
  | none => spec.added.getD []

/-- Whether instances have a dictionary, as far as is decided. -/
def hasDict (spec : Specification) : Bool :=
  match spec.frozen with
  | some layout => layout.hasDict
  | none => spec.dict

/-- The layout that freezing fixes. -/
def layout (spec : Specification) : Layout :=
  match spec.frozen with
  | some layout => layout
  | none =>
      match spec.added with
      | none => { hasDict := true, slots := [] }
      | some slots => .ofFields spec.dict slots

/-- Fix the layout; a frozen specification stays as it is. -/
def freeze (spec : Specification) : Specification :=
  { spec with frozen := some spec.layout }

/-- The interfaces in the order of identities. -/
def sortedInterfaces (spec : Specification) : List ClassId :=
  spec.interfaces.mergeSort (fun left right => decide (left.index ≤ right.index))

/-- The shape of the specification when frozen. -/
def shape (spec : Specification) : Shape :=
  { base := spec.base, layout := spec.layout, interfaces := spec.sortedInterfaces }

/-- Whether two specifications describe one shape. -/
def isEqual (spec other : Specification) : Bool := spec.shape == other.shape

/-! ## Comparison -/

/-- Compare two specifications item by item. Both are frozen for it and come back frozen. -/
def compare (spec other : Specification) : Bool × Specification × Specification :=
  let left := spec.freeze
  let right := other.freeze
  (left.base == right.base && left.hasDict == right.hasDict && left.slots == right.slots
    && left.sortedInterfaces == right.sortedInterfaces, left, right)

/-- Feed the specification to a hasher: the items in their order. It comes back frozen. -/
def feed (spec : Specification) : List Fed × Specification :=
  let frozen := spec.freeze
  (.identity frozen.base :: .flag frozen.hasDict ::
    .length frozen.slots.length :: frozen.slots.map .text ++
    .length frozen.sortedInterfaces.length :: frozen.sortedInterfaces.map .identity, frozen)

/-! ## Building -/

/-- The misuse of changing a specification that is frozen. -/
def openOrMisuse (spec : Specification) : Except Misuse Unit :=
  if spec.isFrozen then .error (.frozen spec.name) else .ok ()

def rename (spec : Specification) (name : String) : Except Misuse Specification := do
  spec.openOrMisuse
  return { spec with name }

/-- Add an interface that the class must implement. -/
def addInterface (hierarchy : Hierarchy) (spec : Specification) (iface : ClassId) :
    Except Misuse Specification := do
  spec.openOrMisuse
  if !hierarchy.isInterface iface then
    throw (.notInterface spec.name (hierarchy.name iface))
  if spec.interfaces.contains iface then
    throw (.repeated spec.name .addInterface (hierarchy.name iface))
  return { spec with interfaces := spec.interfaces ++ [iface] }

/-- Add a named slot. -/
def addSlot (spec : Specification) (slot : String) : Except Misuse Specification := do
  spec.openOrMisuse
  let slots := spec.added.getD []
  if slots.contains slot then
    throw (.repeated spec.name .addSlot slot)
  return { spec with added := some (slots ++ [slot]) }

/-- Ask for an instance dictionary if the condition holds. -/
def addDictIf (spec : Specification) (condition : Bool) : Except Misuse Specification := do
  spec.openOrMisuse
  return { spec with dict := spec.dict || condition }

/-- Add items one after the other up to the first that is refused; those before it stay. -/
def addEach {α : Type} (add : Specification -> α -> Except Misuse Specification) :
    Specification -> List α -> Specification × Option Misuse
  | spec, [] => (spec, none)
  | spec, item :: rest =>
      match add spec item with
      | .error misuse => (spec, some misuse)
      | .ok changed => addEach add changed rest

/-- Add a batch; even an empty batch is refused by a frozen specification. -/
def addAll {α : Type} (add : Specification -> α -> Except Misuse Specification)
    (spec : Specification) (items : List α) : Specification × Option Misuse :=
  match spec.openOrMisuse with
  | .error misuse => (spec, some misuse)
  | .ok _ => addEach add spec items

def addInterfaces (hierarchy : Hierarchy) (spec : Specification) (ifaces : List ClassId) :
    Specification × Option Misuse :=
  addAll (addInterface hierarchy) spec ifaces

def addSlots (spec : Specification) (slots : List String) : Specification × Option Misuse :=
  addAll addSlot spec slots

/-! ## Text -/

/-- The specification on one line. -/
def describe (hierarchy : Hierarchy) (spec : Specification) : String :=
  spec.name ++ " extends " ++ hierarchy.simpleName spec.base
    ++ (if spec.interfaces.isEmpty then "" else
      " implements " ++ String.intercalate ", " (spec.interfaces.map hierarchy.simpleName))
    ++ (if spec.hasDict then " +dict" else "")
    ++ (if spec.added.isSome then " +slots(" ++ String.intercalate ", " spec.slots ++ ")" else "")

end Specification

end GuestTypes
