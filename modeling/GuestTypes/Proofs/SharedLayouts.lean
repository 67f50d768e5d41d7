import GuestTypes.Proofs.Trust
import Mathlib.Data.List.Dedup
import Mathlib.Data.List.TFAE
import Mathlib.Tactic.TFAE

/-!
# Layout classes are shared

Guest classes that one factory defined have the same layout exactly when they have the same
primary class, and that is so exactly when their primary classes have one shape: the same
superclass, the same slots, and a dictionary both or neither. A factory keeps one layout class
for each shape, so it never synthesizes a second one.
-/

namespace GuestTypes

/-- The superclass of a class and, if it is synthesized, its slots in order and whether it has
a dictionary. -/
def Hierarchy.shapeOf (hierarchy : Hierarchy) (cls : ClassId) :
    Option ClassId × Option (List String × Bool) :=
  (hierarchy.superclass cls, (hierarchy.row cls).layout.map fun layout =>
    (layout.slots.mergeSort (fun left right => decide (left ≤ right)), layout.hasDict))

/-- The shape of a class that exists does not change. -/
theorem Hierarchy.Extends.shapeOf {before after : Hierarchy} (extends_ : before.Extends after)
    {cls : ClassId} (declared : before.Declared cls) :
    after.shapeOf cls = before.shapeOf cls := by
  unfold Hierarchy.shapeOf
  rw [extends_.superclass declared, extends_.row cls declared]

/-- A class with the shape of another one realises what that one realises. -/
theorem Hierarchy.Realises.transfer {hierarchy : Hierarchy} {cls other : ClassId} {shape : Shape}
    (ordered : forall cls layout, (hierarchy.row cls).layout = some layout -> layout.Ordered)
    (realises : hierarchy.Realises other shape)
    (same : hierarchy.shapeOf cls = hierarchy.shapeOf other) : hierarchy.Realises cls shape := by
  obtain ⟨superclass, layouts⟩ := Prod.mk.inj same
  refine ⟨superclass.trans realises.base, ?_, realises.interfaces⟩
  rw [realises.layout, Option.map_some] at layouts
  obtain ⟨layout, held, equal⟩ := Option.map_eq_some_iff.mp layouts
  obtain ⟨slots, dict⟩ := Prod.mk.inj equal
  have mine := ordered cls layout held
  have theirs := ordered other shape.layout realises.layout
  rw [held]
  refine congrArg some (mine.symm.trans (Eq.trans ?_ theirs))
  exact congrArg₂ Layout.mk dict slots

namespace World

variable {world : World} {factory : FactoryId} {first second : TypeId}

/-- The factory keeps one class for each shape. -/
theorem Valid.oneClass (valid : world.Valid) {entry other : Shape × ClassId}
    (kept : entry ∈ (world.factory factory).layouts)
    (also : other ∈ (world.factory factory).layouts)
    (same : world.hierarchy.shapeOf entry.2 = world.hierarchy.shapeOf other.2) : entry = other := by
  have realises := (valid.layouts factory entry kept).2
  have transferred := (valid.layouts factory other also).2.transfer
    (fun cls layout has => (valid.lawful cls layout has).ordered) same
  exact List.inj_on_of_nodup_map (valid.shapes factory) kept also (realises.unique transferred)

/-- The three ways to say that two guest classes have the same layout. -/
theorem Defined.sameLayout (defined : world.Defined factory first) (valid : world.Valid)
    (also : world.Defined factory second) :
    [world.types.hasSameLayout first second = true,
      (world.types.row first).primary = (world.types.row second).primary,
      world.hierarchy.shapeOf (world.types.row first).primary =
        world.hierarchy.shapeOf (world.types.row second).primary].TFAE := by
  obtain ⟨mine, kind, bound, -, own⟩ := defined.shares
  obtain ⟨theirs, otherKind, otherBound, -, otherOwn⟩ := also.shares
  have shares : world.types.hasSameLayout first second = true ↔ mine = theirs := by
    unfold TypeTable.hasSameLayout GuestType.hasSameLayout GuestType.sharedRepresentation
    rw [kind, otherKind]
    exact beq_iff_eq
  tfae_have 1 → 2 := by
    intro same
    rw [← own, ← otherOwn, shares.mp same]
  tfae_have 2 → 1 := by
    intro same
    rw [same, otherBound] at bound
    exact shares.mpr (Representation.shared.inj (Option.some.inj bound)).symm
  tfae_have 2 → 3 := fun same => congrArg world.hierarchy.shapeOf same
  tfae_have 3 → 2 := by
    intro same
    obtain ⟨_, kept⟩ := defined.layout
    obtain ⟨_, otherKept⟩ := also.layout
    exact congrArg Prod.snd (valid.oneClass kept otherKept same)
  tfae_finish

/-- A thread holds the lock of a factory in which it is listed. -/
theorem holds_of_isHeldBy {thread : ThreadId}
    (held : (world.factory factory).lock.isHeldBy thread = true) : world.Holds thread factory := by
  unfold Lock.isHeldBy at held
  split at held
  · cases held
  · rename_i owner again taken
    cases eq_of_beq held
    exact ⟨again, taken⟩

/-- While no definition is under way, every class that the factory keeps is the primary class of
a type that it defined. -/
theorem Valid.cached (valid : world.Valid)
    (settled : forall record, record ∈ world.calls -> record.call.definesWith factory = true ->
      record.answer.isSome)
    {entry : Shape × ClassId} (kept : entry ∈ (world.factory factory).layouts) :
    exists record, record ∈ world.calls ∧ exists type, record.defined? factory = some type ∧
      (world.types.row type).primary = entry.2 := by
  obtain ⟨⟨call, made⟩, -⟩ := valid.layouts factory entry kept
  obtain ⟨-, -, record, found, defines, answered⟩ := valid.makers _ _ _ made
  have member := List.mem_of_getElem? found
  obtain ⟨type, defined, -, primary⟩ := answered (settled record member defines)
  exact ⟨record, member, type, defined, primary⟩

end World

namespace Machine

variable {σ : Type} {code : ClientCode σ} {machine next : Machine (Clients σ)}
  {factory : FactoryId} {type : TypeId}

/-- The types that a factory has answered with for guest classes, in the order of the calls. -/
def definedTypes (machine : Machine (Clients σ)) (factory : FactoryId) : List TypeId :=
  machine.host.calls.filterMap (·.defined? factory)

/-- The shape of the primary class of a type. -/
def shapeOf (machine : Machine σ) (type : TypeId) :
    Option ClassId × Option (List String × Bool) :=
  machine.store.hierarchy.shapeOf (machine.store.types.row type).primary

/-- How many classes a factory has synthesized. -/
def layoutCount (machine : Machine σ) (factory : FactoryId) : Nat :=
  (machine.store.factory factory).layouts.length

/-- A type that a factory has answered with for a guest class was defined. -/
theorem defined_of_mem {now : Instant σ} (kept : kernel.Kept machine now)
    (member : type ∈ machine.definedTypes factory) : now.world.Defined factory type := by
  unfold definedTypes at member
  rw [kept.host] at member
  obtain ⟨record, listed, answered⟩ := List.mem_filterMap.mp member
  exact kept.valid.defined listed answered

/-- Under the lock of a factory, no class is synthesized in the shape of a guest class that the
factory defined before. -/
theorem shape_fresh {thread : ThreadId} {cls : ClassId} (reachable : machine.Reachable code)
    (moved : machine.step code.host thread = some next)
    (holds : (machine.store.factory factory).lock.isHeldBy thread = true)
    (absent : ¬ machine.store.hierarchy.Declared cls) (present : next.store.hierarchy.Declared cls)
    (member : type ∈ machine.definedTypes factory) :
    next.store.hierarchy.shapeOf cls ≠ machine.shapeOf type := by
  obtain ⟨now, kept⟩ := reachable.kept
  obtain ⟨after, allowed, reached⟩ := kept.step (trusts_host code) moved
  have defined := defined_of_mem kept member
  unfold shapeOf
  rw [kept.store] at holds absent ⊢
  rw [reached.store] at present ⊢
  intro same
  obtain ⟨shape, cached⟩ := defined.layout
  have moves : World.Moves thread now.world after.world := allowed.moves
  have valid : after.world.Valid := allowed.valid
  have realises := (kept.valid.layouts factory _ cached).2
  obtain ⟨call, made⟩ := (kept.valid.layouts factory _ cached).1
  have declared := (kept.valid.makers _ _ _ made).1
  refine moves.synthesized factory cls (World.holds_of_isHeldBy holds) absent present _ cached ?_
  refine (realises.mono moves.hierarchy).transfer
    (fun cls layout has => (valid.lawful cls layout has).ordered) (same.trans ?_)
  exact (moves.hierarchy.shapeOf declared).symm

/-- While no definition is under way, a factory keeps one class for each shape that it defined
guest classes in. -/
theorem layoutCount_eq (reachable : machine.Reachable code)
    (settled : forall record, record ∈ machine.host.calls ->
      record.call.definesWith factory = true -> record.answer.isSome) :
    machine.layoutCount factory =
      ((machine.definedTypes factory).map machine.shapeOf).dedup.length := by
  obtain ⟨now, kept⟩ := reachable.kept
  have valid : now.world.Valid := kept.valid
  rw [kept.host] at settled
  let cached := (now.world.factory factory).layouts
  have count : machine.layoutCount factory =
      (cached.map fun entry => now.world.hierarchy.shapeOf entry.2).length := by
    rw [List.length_map]
    unfold layoutCount
    rw [kept.store]
    rfl
  have shape : forall type, machine.shapeOf type =
      now.world.hierarchy.shapeOf (now.world.types.row type).primary := by
    intro type
    unfold shapeOf
    rw [kept.store]
    rfl
  have distinct : (cached.map fun entry => now.world.hierarchy.shapeOf entry.2).Nodup := by
    refine List.Nodup.map_on (fun entry member other also same => ?_)
      (List.Nodup.of_map _ (valid.shapes factory))
    exact valid.oneClass member also same
  rw [count]
  refine ((List.perm_ext_iff_of_nodup distinct (List.nodup_dedup _)).mpr fun wanted => ?_).length_eq
  rw [List.mem_dedup, List.mem_map, List.mem_map]
  constructor
  · rintro ⟨entry, member, rfl⟩
    obtain ⟨record, listed, type, answered, primary⟩ := valid.cached settled member
    refine ⟨type, ?_, by rw [shape, primary]⟩
    unfold definedTypes
    rw [kept.host]
    exact List.mem_filterMap.mpr ⟨record, listed, answered⟩
  · rintro ⟨type, member, rfl⟩
    obtain ⟨defined, entry⟩ := (defined_of_mem kept member).layout
    exact ⟨_, entry, (shape type).symm⟩

/-- Guest classes of one factory share their layout exactly when they share their primary class,
and exactly when their primary classes have one shape. A class is synthesized only for a shape
that no guest class was defined in before, and between definitions the factory keeps one class
for each shape. -/
theorem layout_sharing_exact (reachable : machine.Reachable code) (factory : FactoryId) :
    (forall first, first ∈ machine.definedTypes factory ->
      forall second, second ∈ machine.definedTypes factory ->
        [machine.store.types.hasSameLayout first second = true,
          (machine.store.types.row first).primary = (machine.store.types.row second).primary,
          machine.shapeOf first = machine.shapeOf second].TFAE) ∧
    (forall thread next, machine.step code.host thread = some next ->
      (machine.store.factory factory).lock.isHeldBy thread = true ->
        forall cls, ¬ machine.store.hierarchy.Declared cls -> next.store.hierarchy.Declared cls ->
          forall type, type ∈ machine.definedTypes factory ->
            next.store.hierarchy.shapeOf cls ≠ machine.shapeOf type) ∧
    ((forall record, record ∈ machine.host.calls -> record.call.definesWith factory = true ->
        record.answer.isSome) ->
      machine.layoutCount factory =
        ((machine.definedTypes factory).map machine.shapeOf).dedup.length) := by
  refine ⟨fun first mine second also => ?_, fun thread next moved holds cls absent present type =>
    shape_fresh reachable moved holds absent present, layoutCount_eq reachable⟩
  obtain ⟨now, kept⟩ := reachable.kept
  have same := (defined_of_mem kept mine).sameLayout kept.valid (defined_of_mem kept also)
  unfold shapeOf
  rw [kept.store]
  exact same

/-- Host code that defines two guest classes without slots and one with a slot. -/
def definingThrice : Client Unit (Except Fault Unit) :=
  .call (.makeFactory {}) fun
    | .error fault => .done (.error fault)
    | .ok factory =>
        .call (.defineClass factory "Plain" [] none false) fun _ =>
          .call (.defineClass factory "Other" [] none false) fun _ =>
            .call (.defineClass factory "Slotted" [] (some ["slot"]) false) fun _ =>
              .done (.ok ())

/-- Three guest classes of one factory have two layouts. -/
theorem layout_sharing_exact_definingThrice :
    let machine := Machine.run ClientCode.quiet.host 101 (opening definingThrice ())
    let last := Machine.run ClientCode.quiet.host 133 (opening definingThrice ())
    (machine.store.types.hasSameLayout ⟨2⟩ ⟨3⟩ = true ∧ machine.shapeOf ⟨2⟩ = machine.shapeOf ⟨3⟩) ∧
      (exists next, machine.step ClientCode.quiet.host ⟨0⟩ = some next ∧
        next.store.hierarchy.shapeOf ⟨11⟩ ≠ machine.shapeOf ⟨2⟩) ∧
      last.layoutCount ⟨0⟩ = 2 := by
  intro machine last
  have reachable : machine.Reachable ClientCode.quiet :=
    reachable_run ClientCode.quiet definingThrice () 101
  have ended : last.Reachable ClientCode.quiet :=
    reachable_run ClientCode.quiet definingThrice () 133
  have plain : ⟨2⟩ ∈ machine.definedTypes ⟨0⟩ := by decide +kernel
  have other : ⟨3⟩ ∈ machine.definedTypes ⟨0⟩ := by decide +kernel
  have shared : machine.store.types.hasSameLayout ⟨2⟩ ⟨3⟩ = true := by decide +kernel
  have holds : (machine.store.factory ⟨0⟩).lock.isHeldBy ⟨0⟩ = true := by decide +kernel
  have absent : ¬ 11 < machine.store.hierarchy.rows.size := by decide +kernel
  have synthesizes : ((machine.step ClientCode.quiet.host ⟨0⟩).any fun next =>
      decide (11 < next.store.hierarchy.rows.size)) = true := by decide +kernel
  have settled : forall record, record ∈ last.host.calls ->
      record.call.definesWith ⟨0⟩ = true -> record.answer.isSome := by decide +kernel
  have shapes : ((last.definedTypes ⟨0⟩).map last.shapeOf).dedup.length = 2 := by decide +kernel
  -- What follows is not computed, so the machines need not be unfolded again.
  clear_value machine last
  obtain ⟨next, moved, declared⟩ := (Option.any_eq_true _ _).mp synthesizes
  have present : 11 < next.store.hierarchy.rows.size := of_decide_eq_true declared
  have sharing := layout_sharing_exact reachable ⟨0⟩
  have same := ((sharing.1 _ plain _ other).out 0 2).mp shared
  have fresh := sharing.2.1 ⟨0⟩ next moved holds ⟨11⟩ absent present _ plain
  exact ⟨⟨shared, same⟩, ⟨next, moved, fresh⟩,
    ((layout_sharing_exact ended ⟨0⟩).2.2 settled).trans shapes⟩

end Machine

end GuestTypes
