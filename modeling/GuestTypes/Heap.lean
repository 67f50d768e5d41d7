import GuestTypes.Host.Class
import GuestTypes.Table

/-!
# Objects

Values, and the objects that hold them. A dictionary maps names to values; an instance may
carry its guest type, an instance dictionary and slots. `Heap.Step` lists everything that can
happen to an object at one instant.
-/

namespace GuestTypes

/-- Any value the interpreter handles. -/
inductive Value where
  | int32 (value : Int32)
  | int64 (value : Int64)
  /-- A floating-point number, by its bits. -/
  | float64 (bits : UInt64)
  | bool (value : Bool)
  | text (value : String)
  | typeObject (type : TypeId)
  | object (object : ObjectId)
  deriving DecidableEq, Inhabited

/-- The fields of an instance. -/
structure Instance where
  cls : ClassId
  /-- Present on instances of synthesized classes that the kernel made. -/
  layout : Option Layout := none
  /-- The type, on an instance that carries its own. -/
  type : Option TypeId := none
  /-- The instance dictionary, on an instance that has one. -/
  dict : Option Value := none
  slots : List (Option Value) := []
  deriving Inhabited

/-- What lies on the heap. -/
inductive HeapObject where
  | dictionary (entries : List (String × Value))
  | composite (fields : Instance)
  deriving Inhabited

abbrev Heap := Table HeapObject

namespace HeapObject

def hostClass : HeapObject -> ClassId
  | dictionary _ => Builtin.dict
  | composite fields => fields.cls

/-- The entries of a dictionary; anything else has none. -/
def entries : HeapObject -> List (String × Value)
  | dictionary entries => entries
  | composite _ => []

/-- The fields of an instance; a dictionary has none. -/
def fields : HeapObject -> Instance
  | dictionary _ => { cls := Builtin.dict }
  | composite fields => fields

def isDictionary : HeapObject -> Bool
  | dictionary _ => true
  | composite _ => false

/-- Change the fields of an instance. -/
def modifyFields (object : HeapObject) (change : Instance -> Instance) : HeapObject :=
  match object with
  | dictionary entries => dictionary entries
  | composite fields => composite (change fields)

end HeapObject

namespace Heap

def object (heap : Heap) (id : ObjectId) : HeapObject := heap.get id.index

/-- The host class of a value. -/
def hostClass (heap : Heap) : Value -> ClassId
  | .int32 _ => Builtin.int32
  | .int64 _ => Builtin.int64
  | .float64 _ => Builtin.float64
  | .bool _ => Builtin.bool
  | .text _ => Builtin.text
  | .typeObject _ => Builtin.typeClass
  | .object id => (heap.object id).hostClass

/-- Whether a value is a dictionary. -/
def isDictionary (heap : Heap) : Value -> Bool
  | .object id => (heap.object id).isDictionary
  | _ => false

/-- The fields of a value that is an instance. -/
def fields? (heap : Heap) : Value -> Option Instance
  | .object id =>
      match heap.object id with
      | .composite fields => some fields
      | .dictionary _ => none
  | _ => none

/-- The type that a value carries. -/
def typeOf? (heap : Heap) (value : Value) : Option TypeId := (heap.fields? value).bind (·.type)

/-- The value that a dictionary holds under a name. -/
def held? (entries : List (String × Value)) (name : String) : Option Value :=
  (entries.find? (·.1 == name)).map (·.2)

/-- One change of one object. -/
inductive Step : Type -> Type where
  | allocate (object : HeapObject) : Step ObjectId
  | storeType (object : ObjectId) (type : TypeId) : Step Unit
  /-- Replace the dictionary of an object that has one. -/
  | storeDict (object : ObjectId) (dict : Value) : Step Unit
  /-- Replace the value of a slot; the answer is what it held. -/
  | exchangeSlot (object : ObjectId) (index : Nat) (value : Option Value) : Step (Option Value)
  /-- Replace the entry of a dictionary; the answer is what it held. -/
  | exchangeEntry (object : ObjectId) (name : String) (value : Option Value) : Step (Option Value)

namespace Step

def perform {β : Type} (step : Step β) (heap : Heap) : β × Heap :=
  match step with
  | allocate object => (⟨heap.size⟩, heap.push object)
  | storeType object type =>
      ((), heap.modify object.index (·.modifyFields ({ · with type := some type })))
  | storeDict object dict =>
      ((), heap.modify object.index (·.modifyFields fun fields =>
        { fields with dict := fields.dict.map fun _ => dict }))
  | exchangeSlot object index value =>
      (((heap.object object).fields.slots[index]?).join,
        heap.modify object.index (·.modifyFields fun fields =>
          { fields with slots := fields.slots.set index value }))
  | exchangeEntry object name value =>
      let before := (heap.object object).entries
      let others := before.filter (·.1 != name)
      let after := match value with
        | some value => others ++ [(name, value)]
        | none => others
      (held? before name,
        heap.modify object.index fun
          | .dictionary _ => .dictionary after
          | .composite fields => .composite fields)

end Step

end Heap

end GuestTypes
