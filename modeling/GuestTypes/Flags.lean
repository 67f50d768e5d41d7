import GuestTypes.Text.Quoted

/-!
# Feature flags

Two families of thirty-two flags: those a guest type exposes to guest code and those the
interpreter tests on its fast paths. Bits without a name are kept. A subtype acquires the
`KernelFlags.heritable` part of its bases' kernel flags and nothing of their features.
-/

namespace GuestTypes

/-- Features a guest type exposes to guest code. -/
structure TypeFlags where
  bits : BitVec 32
  deriving DecidableEq, Inhabited, Repr

namespace TypeFlags

/-- No feature. -/
def none : TypeFlags := ⟨0⟩
/-- Guest classes may subclass the type. -/
def baseType : TypeFlags := ⟨0x01⟩
/-- Attributes of the type object cannot be set or deleted. -/
def immutableType : TypeFlags := ⟨0x02⟩
/-- Instances share a layout and may have their class reassigned. -/
def replaceable : TypeFlags := ⟨0x04⟩
/-- The type can be called to create instances. -/
def instantiable : TypeFlags := ⟨0x08⟩
/-- Instances match a sequence pattern. -/
def sequence : TypeFlags := ⟨0x10⟩
/-- Instances match a mapping pattern. -/
def mapping : TypeFlags := ⟨0x20⟩
/-- Instances are method descriptors. -/
def methodDescriptor : TypeFlags := ⟨0x40⟩

/-- The features of both. -/
def union (left right : TypeFlags) : TypeFlags := ⟨left.bits ||| right.bits⟩

/-- Whether every feature of `wanted` is present; the empty set always is. -/
def contains (flags wanted : TypeFlags) : Bool := flags.bits &&& wanted.bits == wanted.bits

/-- The features that have a name, lowest bit first. -/
def named : List (String × TypeFlags) := [
  ("BASETYPE", baseType), ("IMMUTABLE", immutableType), ("REPLACEABLE", replaceable),
  ("INSTANTIABLE", instantiable), ("SEQUENCE", sequence), ("MAPPING", mapping),
  ("METHOD_DESCR", methodDescriptor)]

/-- The names of the features present, then the unnamed bits as one hexadecimal number. -/
def describe (flags : TypeFlags) : String :=
  let present := named.filter (fun entry => flags.contains entry.2)
  let unnamed := named.foldl (fun bits entry => bits &&& ~~~entry.2.bits) flags.bits
  let parts := present.map (·.1) ++
    if unnamed = 0 then [] else ["0x" ++ Text.hexadecimal unnamed.toNat]
  let inner := if parts.isEmpty then "0x0" else String.intercalate " | " parts
  "TypeFlags(" ++ inner ++ ")"

end TypeFlags

/-- Features the interpreter tests on its fast paths. -/
structure KernelFlags where
  bits : BitVec 32
  deriving DecidableEq, Inhabited, Repr

namespace KernelFlags

/-- No feature. -/
def none : KernelFlags := ⟨0⟩
/-- Instances match the class pattern by themselves. -/
def matchSelf : KernelFlags := ⟨0x001⟩
/-- Instances support subscription. -/
def hasGetItem : KernelFlags := ⟨0x002⟩
/-- Instances can be iterated over. -/
def hasIter : KernelFlags := ⟨0x004⟩
/-- Instances are iterators. -/
def hasNext : KernelFlags := ⟨0x008⟩
/-- Instances convert to an index. -/
def hasIndex : KernelFlags := ⟨0x010⟩
/-- Instances are read through the descriptor protocol. -/
def hasGet : KernelFlags := ⟨0x020⟩
/-- Instances are written through the descriptor protocol. -/
def hasSet : KernelFlags := ⟨0x040⟩
/-- Instances are deleted through the descriptor protocol. -/
def hasDelete : KernelFlags := ⟨0x080⟩
/-- Instances are descriptors. -/
def isDescriptor : KernelFlags := ⟨0x100⟩
/-- Instances are data descriptors. -/
def isDataDescriptor : KernelFlags := ⟨0x200⟩

/-- The features of both. -/
def union (left right : KernelFlags) : KernelFlags := ⟨left.bits ||| right.bits⟩

/-- Whether every feature of `wanted` is present; the empty set always is. -/
def contains (flags wanted : KernelFlags) : Bool := flags.bits &&& wanted.bits == wanted.bits

/-- The features a subtype acquires from its bases: all named ones but `matchSelf`. -/
def heritableMask : KernelFlags :=
  [hasGetItem, hasIter, hasNext, hasIndex, hasGet, hasSet, hasDelete, isDescriptor,
    isDataDescriptor].foldl union none

/-- The part of these flags that a subtype acquires. -/
def heritable (flags : KernelFlags) : KernelFlags := ⟨flags.bits &&& heritableMask.bits⟩

end KernelFlags

end GuestTypes
