import GuestTypes.Proofs.ClassAssignment
import GuestTypes.Proofs.DistinctNames
import GuestTypes.Proofs.InheritedLayouts
import GuestTypes.Proofs.OrderIndependence

/-!
# Capabilities of synthesized classes

What an instance of a synthesized class can do is said twice. The class says it by the interfaces
that it and its ancestors declare, and the instance shows it by what it carries, which its layout
decides. Both always agree on the type. They agree on the dictionary unless the layout has none,
while the base of the class or an interface that was asked for brings the interface of objects with
a dictionary: then the class promises what its instances do not have.
-/

namespace GuestTypes

/-! ## What a class implements -/

namespace Hierarchy

variable {hierarchy : Hierarchy} {cls base iface : ClassId} {interfaces : List ClassId}
  {layout : Layout}

/-- A class declares an interface, directly, through an interface that it declares, or through its
superclass. -/
inductive Implements (hierarchy : Hierarchy) : ClassId -> ClassId -> Prop where
  | direct {cls iface : ClassId} (listed : iface ∈ (hierarchy.row cls).interfaces) :
      Implements hierarchy cls iface
  | through {cls between iface : ClassId} (listed : between ∈ (hierarchy.row cls).interfaces)
      (further : Implements hierarchy between iface) : Implements hierarchy cls iface
  | inherited {cls super iface : ClassId} (chosen : hierarchy.superclass cls = some super)
      (above : Implements hierarchy super iface) : Implements hierarchy cls iface

/-- An interface was declared before the classes that declare it. -/
theorem index_lt_of_listed (listed : iface ∈ (hierarchy.row cls).interfaces) :
    iface.index < cls.index := by
  by_cases declared : hierarchy.Declared cls
  · exact (hierarchy.row_grounded declared).2 iface listed
  · rw [row_eq_root declared] at listed
    cases listed

/-- More steps than there are classes below find nothing more. -/
theorem implementsWithin_eq (steps : Nat) (enough : cls.index < steps) :
    hierarchy.implementsWithin iface steps cls = hierarchy.implements cls iface := by
  obtain ⟨index, same⟩ : exists index, cls.index = index := ⟨_, rfl⟩
  induction index using Nat.strongRecOn generalizing cls steps with
  | ind index inductionHypothesis =>
      obtain ⟨fewer, rfl⟩ : exists fewer, steps = fewer + 1 := ⟨steps - 1, by omega⟩
      unfold implements implementsWithin
      refine Extends.any_congr_mem fun ancestor above =>
        Extends.any_congr_mem fun listed member => ?_
      have lower : listed.index < cls.index :=
        Nat.lt_of_lt_of_le (index_lt_of_listed member) (index_le_of_mem_lineage above)
      rw [inductionHypothesis listed.index (same ▸ lower) fewer (by omega) rfl,
        inductionHypothesis listed.index (same ▸ lower) cls.index lower rfl]

/-- Along the superclasses of a class, what the interfaces declare that each of them lists. -/
theorem implements_eq_any (cls : ClassId) : hierarchy.implements cls iface =
    (hierarchy.lineage cls).any fun ancestor => (hierarchy.row ancestor).interfaces.any
      fun listed => listed == iface || hierarchy.implements listed iface := by
  unfold implements implementsWithin
  refine Extends.any_congr_mem fun ancestor above => Extends.any_congr_mem fun listed member => ?_
  have lower : listed.index < cls.index :=
    Nat.lt_of_lt_of_le (index_lt_of_listed member) (index_le_of_mem_lineage above)
  rw [implementsWithin_eq cls.index lower]
  rfl

/-- A class implements what it lists, what that implements, and what its superclass implements. -/
theorem implements_step : hierarchy.implements cls iface = true ↔
    (exists listed, listed ∈ (hierarchy.row cls).interfaces ∧
      (listed = iface ∨ hierarchy.implements listed iface = true)) ∨
    exists super, hierarchy.superclass cls = some super ∧
      hierarchy.implements super iface = true := by
  rw [implements_eq_any, lineage_eq, List.any_cons, Bool.or_eq_true]
  have own : ((hierarchy.row cls).interfaces.any fun listed =>
      listed == iface || hierarchy.implements listed iface) = true ↔
        exists listed, listed ∈ (hierarchy.row cls).interfaces ∧
          (listed = iface ∨ hierarchy.implements listed iface = true) := by
    simp
  rw [own]
  cases chosen : hierarchy.superclass cls with
  | none => simp
  | some super =>
      have above : hierarchy.implements super iface = _ := implements_eq_any super
      simp [← above]

/-- The walk along superclasses and interfaces finds what a class implements, and nothing else. -/
theorem implements_iff :
    hierarchy.implements cls iface = true ↔ hierarchy.Implements cls iface := by
  constructor
  · obtain ⟨index, same⟩ : exists index, cls.index = index := ⟨_, rfl⟩
    induction index using Nat.strongRecOn generalizing cls with
    | ind index inductionHypothesis =>
        intro found
        rcases implements_step.mp found with ⟨listed, member, rfl | further⟩ |
          ⟨super, chosen, above⟩
        · exact .direct member
        · exact .through member
            (inductionHypothesis _ (same ▸ index_lt_of_listed member) rfl further)
        · exact .inherited chosen
            (inductionHypothesis _ (same ▸ (superclass_lt chosen).2) rfl above)
  · intro declares
    induction declares with
    | direct listed => exact implements_step.mpr (.inl ⟨_, listed, .inl rfl⟩)
    | through listed _ further => exact implements_step.mpr (.inl ⟨_, listed, .inr further⟩)
    | inherited chosen _ above => exact implements_step.mpr (.inr ⟨_, chosen, above⟩)

/-- A base or one of the given interfaces brings an interface along. -/
def Brings (hierarchy : Hierarchy) (base : ClassId) (interfaces : List ClassId) (iface : ClassId) :
    Prop :=
  hierarchy.implements base iface = true ∨ exists listed, listed ∈ interfaces ∧
    (listed = iface ∨ hierarchy.implements listed iface = true)

/-- The interface of objects that carry their type extends no other. -/
theorem implements_withClassAssignment (builtins : Builtin.hierarchy.Extends hierarchy) :
    hierarchy.implements Builtin.withClassAssignment iface = false := by
  have declared : Builtin.hierarchy.Declared Builtin.withClassAssignment := by
    show Builtin.withClassAssignment.index < Builtin.hierarchy.rows.size
    decide
  have row := builtins.row Builtin.withClassAssignment declared
  have interfaces : (hierarchy.row Builtin.withClassAssignment).interfaces = [] :=
    congrArg HostClass.interfaces row
  rw [Bool.eq_false_iff]
  intro found
  cases implements_iff.mp found with
  | direct listed => simp [interfaces] at listed
  | through listed _ => simp [interfaces] at listed
  | inherited chosen _ => cases (congrArg HostClass.superclass row).symm.trans chosen

namespace Equips

/-- A class that is equipped implements the interface of objects that carry their type. -/
theorem type (equips : hierarchy.Equips cls base layout interfaces) :
    hierarchy.implements cls Builtin.withClassAssignment = true :=
  implements_iff.mpr (.direct ((equips.interfaces _).mpr (.inr (.inl rfl))))

/-- It implements the interface of objects with a dictionary if its layout has one, and if that is
brought along. -/
theorem dict (equips : hierarchy.Equips cls base layout interfaces)
    (builtins : Builtin.hierarchy.Extends hierarchy) :
    hierarchy.implements cls Builtin.withDictAssignment = true ↔
      layout.hasDict = true ∨ hierarchy.Brings base interfaces Builtin.withDictAssignment := by
  constructor
  · intro found
    cases implements_iff.mp found with
    | direct listed =>
        rcases (equips.interfaces _).mp listed with asked | same | ⟨has, -⟩
        · exact .inr (.inr ⟨_, asked, .inl rfl⟩)
        · cases same
        · exact .inl has
    | through listed further =>
        have further := implements_iff.mpr further
        rcases (equips.interfaces _).mp listed with asked | rfl | ⟨has, -⟩
        · exact .inr (.inr ⟨_, asked, .inr further⟩)
        · cases (implements_withClassAssignment builtins).symm.trans further
        · exact .inl has
    | inherited chosen above =>
        cases equips.base.symm.trans chosen
        exact .inr (.inl (implements_iff.mpr above))
  · rintro (has | inherited | ⟨listed, asked, rfl | further⟩)
    · exact implements_iff.mpr (.direct ((equips.interfaces _).mpr (.inr (.inr ⟨has, rfl⟩))))
    · exact implements_iff.mpr (.inherited equips.base (implements_iff.mp inherited))
    · exact implements_iff.mpr (.direct ((equips.interfaces _).mpr (.inl asked)))
    · exact implements_iff.mpr
        (.through ((equips.interfaces _).mpr (.inl asked)) (implements_iff.mp further))

end Equips

end Hierarchy

/-! ## Calls -/

namespace CallRecord

/-- The class that was synthesized for a call, with the specification of it. -/
def synthesized? : CallRecord -> Option (Specification × ClassId)
  | ⟨.synthesize _ spec, some (.ok cls)⟩ => some (spec, cls)
  | _ => none

/-- The object that was made for a call, with the class that the call named. -/
def object? : CallRecord -> Option (ClassId × ObjectId)
  | ⟨.makeObject cls _, some (.ok object)⟩ => some (cls, object)
  | _ => none

end CallRecord

/-! ## What host code obtains -/

namespace Machine

variable {σ : Type} {code : ClientCode σ} {machine : Machine (Clients σ)} {cls base : ClassId}
  {interfaces : List ClassId} {dict : Bool} {object : ObjectId}

/-- The classes that were synthesized for calls, with their specifications. -/
def synthesizedClasses (machine : Machine (Clients σ)) : List (Specification × ClassId) :=
  machine.host.calls.filterMap (·.synthesized?)

/-- The objects that were made for calls, with the classes named in them. -/
def madeObjects (machine : Machine (Clients σ)) : List (ClassId × ObjectId) :=
  machine.host.calls.filterMap (·.object?)

/-- A class that is listed as synthesized was the answer to a call. -/
theorem answered_of_synthesized {spec : Specification}
    (member : (spec, cls) ∈ machine.synthesizedClasses) :
    exists synthesizer, machine.Answered (.synthesize synthesizer spec) cls := by
  obtain ⟨record, listed, made⟩ := List.mem_filterMap.mp member
  unfold CallRecord.synthesized? at made
  split at made
  · cases made
    exact ⟨_, listed⟩
  · cases made

/-- An object that is listed as made was the answer to a call. -/
theorem answered_of_madeObject (member : (cls, object) ∈ machine.madeObjects) :
    exists type, machine.Answered (.makeObject cls type) object := by
  obtain ⟨record, listed, made⟩ := List.mem_filterMap.mp member
  unfold CallRecord.object? at made
  split at made
  · cases made
    exact ⟨_, listed⟩
  · cases made

/-- An object that is listed as an instance was the answer to a call. -/
theorem answered_of_instance {type : TypeId} (member : (type, object) ∈ machine.instances) :
    machine.Answered (.newInstance type) object := by
  obtain ⟨record, listed, made⟩ := List.mem_filterMap.mp member
  rw [CallRecord.of_instance? made] at listed
  exact listed

/-- Host code has obtained a class by synthesis or with a guest class. It has a base and interfaces
that it was asked to implement, and perhaps a dictionary in its layout. -/
inductive Obtains (machine : Machine (Clients σ)) :
    ClassId -> ClassId -> List ClassId -> Bool -> Prop where
  | synthesized {spec : Specification} {cls : ClassId}
      (member : (spec, cls) ∈ machine.synthesizedClasses) :
      Obtains machine cls spec.base spec.interfaces spec.hasDict
  | defined {factory : FactoryId} {type : TypeId} (member : type ∈ machine.definedTypes factory) :
      Obtains machine (machine.store.types.row type).primary
        ((machine.store.hierarchy.superclass (machine.store.types.row type).primary).getD
          Builtin.object) []
        ((machine.store.hierarchy.row (machine.store.types.row type).primary).layout.any
          (·.hasDict))

/-- The kernel has made the object as an instance of the class. -/
inductive Instantiates (machine : Machine (Clients σ)) (object : ObjectId) : ClassId -> Prop where
  | ofClass {cls : ClassId} (member : (cls, object) ∈ machine.madeObjects) :
      Instantiates machine object cls
  | ofType {type : TypeId} (member : (type, object) ∈ machine.instances) :
      Instantiates machine object (machine.store.types.row type).primary

/-- What an instance of a class shows of its capabilities. -/
structure Exposes (machine : Machine (Clients σ)) (object : ObjectId) (cls : ClassId)
    (dict : Bool) :
    Prop where
  host : (machine.store.heap.object object).hostClass = cls
  /-- It carries its type. -/
  type : (machine.store.heap.typeOf? (.object object)).isSome = true
  /-- It has a dictionary if its class has one in the layout. -/
  dict : (machine.store.heap.object object).fields.dict.isSome = dict

/-- What a class says of its capabilities, and what its instances show of them. -/
structure Capable (machine : Machine (Clients σ)) (cls base : ClassId) (interfaces : List ClassId)
    (dict : Bool) : Prop where
  type : machine.store.hierarchy.implements cls Builtin.withClassAssignment = true
  supplied : machine.store.hierarchy.implements cls Builtin.withDictAssignment = true ↔
    dict = true ∨ machine.store.hierarchy.Brings base interfaces Builtin.withDictAssignment
  exposes : forall object, machine.Instantiates object cls -> machine.Exposes object cls dict
  /-- The class and the instance agree on the dictionary exactly if none is brought along that the
  layout does not have. -/
  agrees : forall object, machine.Instantiates object cls ->
    (((machine.store.heap.object object).fields.dict.isSome = true ↔
        machine.store.hierarchy.implements cls Builtin.withDictAssignment = true) ↔
      dict = true ∨ ¬ machine.store.hierarchy.Brings base interfaces Builtin.withDictAssignment)

/-- A class that was obtained is equipped for what it was asked for. -/
theorem Obtains.equips (obtains : machine.Obtains cls base interfaces dict)
    (reachable : machine.Reachable code) : exists layout, layout.hasDict = dict ∧
      machine.store.hierarchy.Equips cls base layout interfaces := by
  obtain ⟨now, kept⟩ := reachable.kept
  have valid : now.world.Valid := kept.valid
  cases obtains with
  | synthesized member =>
      obtain ⟨synthesizer, answered⟩ := answered_of_synthesized member
      rw [Answered, kept.host] at answered
      obtain ⟨-, layout, dict, equips⟩ : now.world.Realised _ _ := valid.served _ answered
      rw [kept.store]
      exact ⟨layout, dict, equips⟩
  | defined member =>
      obtain ⟨shape, entry⟩ := (defined_of_mem kept member).layout
      obtain ⟨call, made⟩ := (valid.layouts _ _ entry).1
      obtain ⟨base, layout, equips⟩ := valid.equipped _ _ made
      rw [kept.store]
      have super : now.store.hierarchy.superclass (now.store.types.row _).primary = some base :=
        equips.base
      have laid : (now.store.hierarchy.row (now.store.types.row _).primary).layout = some layout :=
        equips.layout
      rw [super, laid]
      exact ⟨layout, rfl, equips⟩

/-- An instance was made with the layout of its class. -/
theorem Instantiates.built {now : Sight σ} (instantiates : machine.Instantiates object cls)
    (kept : typing.Kept machine now) : Typing.Built now cls object := by
  have valid : Typing.Valid now := kept.valid
  cases instantiates with
  | ofClass member =>
      obtain ⟨type, answered⟩ := answered_of_madeObject member
      rw [Answered, kept.host] at answered
      exact valid.served (.makeObject cls type) object answered
  | @ofType type member =>
      have answered := answered_of_instance member
      rw [Answered, kept.host] at answered
      have instance_ : Typing.InstanceOf now type object :=
        valid.served (.newInstance type) object answered
      rw [kept.store]
      exact instance_.built

/-- Its layout decides what the instance shows. -/
theorem Instantiates.exposes {layout : Layout} (instantiates : machine.Instantiates object cls)
    (reachable : machine.Reachable code)
    (laid : (machine.store.hierarchy.row cls).layout = some layout) :
    machine.Exposes object cls layout.hasDict := by
  obtain ⟨now, kept⟩ := reachable.typed
  obtain ⟨-, ⟨own, declared, -, furnished⟩, host⟩ := instantiates.built kept
  rw [← kept.store] at declared furnished host
  obtain rfl : layout = own := Option.some.inj (laid.symm.trans declared)
  refine ⟨host, ?_, furnished.dict⟩
  rw [Heap.typeOf?_object]
  exact furnished.type

/-- A class that host code has obtained and all its instances carry a type. They have a dictionary
if the layout has one, and the class says so also if its base or an interface brings that along. -/
theorem capabilities (reachable : machine.Reachable code)
    (obtains : machine.Obtains cls base interfaces dict) :
    machine.Capable cls base interfaces dict := by
  obtain ⟨layout, rfl, equips⟩ := obtains.equips reachable
  have promises := equips.dict reachable.builtins
  have exposes : forall object, machine.Instantiates object cls ->
      machine.Exposes object cls layout.hasDict :=
    fun object instantiates => instantiates.exposes reachable equips.layout
  refine ⟨equips.type, promises, exposes, fun object instantiates => ?_⟩
  rw [(exposes object instantiates).dict, promises]
  cases has : layout.hasDict <;> simp

/-- A specification without a dictionary that asks for the interface of objects that have one. -/
def claimingDict : Specification :=
  { name := "Claiming", base := Builtin.object, interfaces := [Builtin.withDictAssignment]
    added := some ["x"] : Specification }.freeze

/-- A class is synthesized for it, and an instance of that is made. -/
def claimingCalls : List Call :=
  [.makeFactory {}, .synthesize firstSynthesizer claimingDict, .makeObject firstDeclared ⟨0⟩]

/-- Asking for the interface of dictionaries, without one, leads to an instance that implements the
interface and exposes no dictionary. -/
theorem capabilities_claimingCalls :
    let machine := Machine.run ClientCode.quiet.host 40 (opening (calling claimingCalls) ())
    machine.Capable firstDeclared Builtin.object [Builtin.withDictAssignment] false ∧
      machine.Instantiates ⟨0⟩ firstDeclared := by
  intro machine
  have reachable : machine.Reachable ClientCode.quiet :=
    reachable_run ClientCode.quiet (calling claimingCalls) () 40
  have synthesized : (claimingDict, firstDeclared) ∈ machine.synthesizedClasses := by
    decide +kernel
  have made : (firstDeclared, ⟨0⟩) ∈ machine.madeObjects := by decide +kernel
  exact ⟨capabilities reachable (.synthesized synthesized), .ofClass made⟩

/-- A class may promise a dictionary that its instances do not have. -/
theorem claimed_dict :
    let machine := Machine.run ClientCode.quiet.host 40 (opening (calling claimingCalls) ())
    (claimingDict, firstDeclared) ∈ machine.synthesizedClasses ∧
      (firstDeclared, ⟨0⟩) ∈ machine.madeObjects ∧
      machine.store.hierarchy.implements firstDeclared Builtin.withDictAssignment = true ∧
      (machine.store.heap.object ⟨0⟩).fields.dict = none := by
  intro machine
  decide +kernel

end Machine

end GuestTypes
