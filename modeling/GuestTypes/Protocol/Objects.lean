import GuestTypes.Description
import GuestTypes.Program

/-!
# Objects and their fields

Making instances of synthesized classes, reading and writing their slots, and replacing the
type or the dictionary of an object. A replacement is checked and then stored, in two steps:
another thread may store in between.
-/

namespace GuestTypes

namespace ObjectId

variable {σ α : Type}

/-- Look at the fields of an object. -/
def view (object : ObjectId) (view : Instance -> α) : Request σ α :=
  Request.observe fun store => view (store.heap.object object).fields

/-- The name of the class of an object. -/
def className (object : ObjectId) : Request σ String :=
  Request.observe fun store => store.hierarchy.name (store.heap.object object).hostClass

/-- Make an instance of a synthesized class; its slots and its dictionary are empty. -/
def make (cls : ClassId) (type : TypeId) : Request σ ObjectId := do
  let row <- Request.observe (·.hierarchy.row cls)
  match row.layout with
  | none => throw (.internal (.found (.notSynthesized row.name)))
  | some layout =>
      let dict <-
        if layout.hasDict then
          let dict <- Request.perform (.heap (.allocate (.dictionary [])))
          pure (some (Value.object dict))
        else pure none
      Request.perform (.heap (.allocate (.composite {
        cls, layout := some layout, type := some type, dict
        slots := List.replicate layout.slots.length none })))

/-! ## Slots -/

/-- The number of slots. -/
def slotCount (object : ObjectId) : Request σ Nat :=
  object.view fun fields => (fields.layout.map (·.slots.length)).getD 0

/-- Refuse an index beyond the slots. -/
def checkIndex (object : ObjectId) (index : Nat) : Request σ Unit := do
  if (<- object.slotCount) ≤ index then
    throw (.internal (.found (.slotOutOfRange index (<- object.className))))

/-- The index of a named slot. -/
def slotIndex (object : ObjectId) (name : String) : Request σ Nat := do
  match <- object.view fun fields => fields.layout.bind (·.slotIndex name) with
  | some index => return index
  | none => throw (.internal (.found (.notASlot name (<- object.className))))

/-- The value of a slot. -/
def slotAt (object : ObjectId) (index : Nat) : Request σ (Option Value) := do
  object.checkIndex index
  object.view fun fields => (fields.slots[index]?).join

/-- Replace the value of a slot; the answer is what it held. -/
def setSlotAt (object : ObjectId) (index : Nat) (value : Option Value) :
    Request σ (Option Value) := do
  object.checkIndex index
  Request.perform (.heap (.exchangeSlot object index value))

/-- The value of a named slot. -/
def slot (object : ObjectId) (name : String) : Request σ (Option Value) := do
  object.slotAt (<- object.slotIndex name)

/-- Replace the value of a named slot; the answer is what it held. -/
def setSlot (object : ObjectId) (name : String) (value : Value) : Request σ (Option Value) := do
  object.setSlotAt (<- object.slotIndex name) (some value)

/-- Empty a named slot; the answer is what it held. -/
def deleteSlot (object : ObjectId) (name : String) : Request σ (Option Value) := do
  object.setSlotAt (<- object.slotIndex name) none

/-! ## Type and dictionary -/

/-- Refuse a type whose instances have another layout than the type held. -/
def checkType (held offered : TypeId) : Request σ Unit := do
  let types <- Request.observe (·.types)
  if !types.hasSameLayout held offered then
    throw (.classAssignment (types.name held) (types.name offered))

/-- Check whether a type could replace that of an object. An object without a type has none
to replace. -/
def checkClassAssignment (object : ObjectId) (offered : TypeId) : Request σ Unit := do
  if let some held <- object.view (·.type) then checkType held offered

/-- Replace the type of an object. -/
def setType (object : ObjectId) (offered : TypeId) : Request σ Unit := do
  object.checkClassAssignment offered
  Request.perform (.heap (.storeType object offered))

/-- Refuse a value that is not a dictionary. -/
def checkDictAssignment (offered : Value) : Request σ Unit := do
  if !(<- Request.observe (·.heap.isDictionary offered)) then
    let cls <- Request.observe fun store => store.hierarchy.name (store.heap.hostClass offered)
    throw (.dictAssignment (.found { cls }))

/-- Replace the dictionary of an object. -/
def setDict (object : ObjectId) (offered : Value) : Request σ Unit := do
  checkDictAssignment offered
  Request.perform (.heap (.storeDict object offered))

end ObjectId

/-- Make an instance of a type that was defined as a guest class. -/
def TypeId.newInstance {σ : Type} (type : TypeId) : Request σ ObjectId := do
  let row <- Request.observe (·.types.row type)
  if row.isReplaceable && (<- Request.observe (·.hierarchy.isSynthesized row.primary)) then
    ObjectId.make row.primary type
  else throw (.unsupported (.found { type := row.name }))

end GuestTypes
