import GuestTypes.Proofs.Inheritance
import GuestTypes.Proofs.SharedLayouts

/-!
# Layouts grow down the hierarchies of guest classes

A definition reads the tables after its call has begun, so it finds the layout classes of all the
bases that host code was given before: what they add up to covers the layout of each. From one
link to the next the layouts only grow, along chains of any length, and grown layouts stay.
-/

namespace GuestTypes

/-! ## Layout classes -/

/-- The lower class has all the slots of the upper one, a dictionary if that one has one, and a
superclass below the superclass of that one. -/
structure Hierarchy.Outgrows (hierarchy : Hierarchy) (lower upper : ClassId) : Prop where
  layouts : exists wide narrow, (hierarchy.row lower).layout = some wide ∧
    (hierarchy.row upper).layout = some narrow ∧ narrow.slots ⊆ wide.slots ∧
      (narrow.hasDict = true -> wide.hasDict = true)
  superclasses : exists below above, hierarchy.superclass lower = some below ∧
    hierarchy.superclass upper = some above ∧ hierarchy.isInterface above = false ∧
      hierarchy.isSubclassOf below above = true

namespace Hierarchy.Outgrows

variable {hierarchy later : Hierarchy} {lower middle upper : ClassId}

/-- Outgrowing is transitive. -/
theorem trans (first : hierarchy.Outgrows lower middle) (last : hierarchy.Outgrows middle upper) :
    hierarchy.Outgrows lower upper where
  layouts := by
    obtain ⟨wide, between, wideLayout, layout, slots, dict⟩ := first.layouts
    obtain ⟨same, narrow, again, narrowLayout, moreSlots, moreDict⟩ := last.layouts
    cases layout.symm.trans again
    exact ⟨wide, narrow, wideLayout, narrowLayout, List.Subset.trans moreSlots slots,
      dict ∘ moreDict⟩
  superclasses := by
    obtain ⟨below, between, lowest, super, concrete, first⟩ := first.superclasses
    obtain ⟨same, above, again, highest, topmost, last⟩ := last.superclasses
    cases super.symm.trans again
    refine ⟨below, above, lowest, highest, topmost, ?_⟩
    rw [isSubclassOf_iff concrete] at first
    rw [isSubclassOf_iff topmost] at last ⊢
    exact lineage_subset first last

/-- Later declarations change nothing about it. -/
theorem mono (outgrows : hierarchy.Outgrows lower upper) (extends_ : hierarchy.Extends later) :
    later.Outgrows lower upper := by
  obtain ⟨layouts, below, above, lowest, highest, concrete, subclass⟩ := outgrows
  have declared := (superclass_lt lowest).1
  have upperDeclared := (superclass_lt highest).1
  have belowDeclared := Declared.superclass lowest
  have topmost : later.isInterface above = false := by
    unfold isInterface at concrete ⊢
    rw [extends_.row above (Declared.superclass highest)]
    exact concrete
  refine ⟨?_, below, above, ?_, ?_, topmost, ?_⟩
  · rw [extends_.row lower declared, extends_.row upper upperDeclared]
    exact layouts
  · rw [extends_.superclass declared]
    exact lowest
  · rw [extends_.superclass upperDeclared]
    exact highest
  · rw [isSubclassOf_iff concrete] at subclass
    rw [isSubclassOf_iff topmost, extends_.lineage belowDeclared]
    exact subclass

end Hierarchy.Outgrows

/-! ## One definition -/

/-- A call that answers with a defined type is the definition of a guest class. -/
theorem CallRecord.of_defined? {record : CallRecord} {factory : FactoryId} {type : TypeId}
    (answered : record.defined? factory = some type) : exists name bases slots dict,
      record =
        { call := .defineClass factory name bases slots dict, answer := some (.ok type) } := by
  unfold defined? at answered
  split at answered
  · split at answered
    · rename_i same
      cases answered
      subst same
      exact ⟨_, _, _, _, rfl⟩
    · cases answered
  · cases answered

/-- The guest class that was defined for a call, with the bases that it was given. -/
def CallRecord.derivation? : CallRecord -> Option (List TypeId × TypeId)
  | ⟨.defineClass _ _ bases _ _, some (.ok type)⟩ => some (bases, type)
  | _ => none

/-- A call that derives a type from bases is the definition of a guest class over these. -/
theorem CallRecord.of_derivation? {record : CallRecord} {bases : List TypeId} {type : TypeId}
    (derived : record.derivation? = some (bases, type)) : exists factory name slots dict,
      record =
        { call := .defineClass factory name bases slots dict, answer := some (.ok type) } := by
  unfold derivation? at derived
  split at derived
  · cases derived
    exact ⟨_, _, _, _, rfl⟩
  · cases derived

namespace World

variable {world : World} {factory : FactoryId} {number : Nat} {name : String}
  {bases : List TypeId} {slots : Option (List String)} {dict : Bool} {type base : TypeId}

/-- A class has the layout and the superclass that bases added up to in tables that were read after
a call had begun. -/
structure SumsUp (world : World) (number : Nat) (bases : List TypeId) (cls : ClassId)
    (hierarchy : Hierarchy) (types : TypeTable) (sum : Inheritance) (layout : Layout) : Prop where
  readings : world.Readings number hierarchy types
  covers : forall base, base ∈ bases -> Inheritance.Covers hierarchy types sum (types.row base)
  declared : hierarchy.Declared sum.base
  concrete : world.hierarchy.isInterface sum.base = false
  superclass : world.hierarchy.superclass cls = some sum.base
  laidOut : (world.hierarchy.row cls).layout = some layout
  slots : sum.slots ⊆ layout.slots
  dict : sum.dict = true -> layout.hasDict = true

/-- The layout class of every guest class that was answered with is what its bases added up to. -/
theorem Valid.sumsUp (valid : world.Valid) (proper : world.hierarchy.Proper)
    (root : world.hierarchy.isInterface Builtin.object = false)
    (found : world.calls[number]? = some {
      call := .defineClass factory name bases slots dict, answer := some (.ok type) }) :
    exists root hierarchy types sum layout,
      world.SumsUp number (if bases.isEmpty then [root] else bases)
        (world.types.row type).primary hierarchy types sum layout := by
  obtain ⟨first, spec,
    ⟨hierarchy, types, sum, draft, readings, added, declared, built, rfl⟩, kept⟩ :=
      valid.derived number _ found
  obtain ⟨-, realises⟩ := valid.layouts factory _ kept
  obtain ⟨concrete, covers⟩ := Inheritance.ofBases_covers (readings.classes.proper proper)
    (readings.classes.concrete root) added
  obtain ⟨base, slots, dict⟩ := Inheritance.specification_covers built
  refine ⟨first, hierarchy, types, sum, draft.layout, readings,
    fun base member => covers _ (List.mem_map_of_mem member), declared, ?_, ?_, realises.layout,
    slots, dict⟩
  · unfold Hierarchy.isInterface at concrete ⊢
    rw [readings.classes.row sum.base declared]
    exact concrete
  · rw [← base]
    exact realises.base

/-- A guest class outgrows each base that host code was given before its definition began. -/
theorem Valid.outgrows (valid : world.Valid) (proper : world.hierarchy.Proper)
    (root : world.hierarchy.isInterface Builtin.object = false)
    (found : world.calls[number]? = some {
      call := .defineClass factory name bases slots dict, answer := some (.ok type) })
    (given : base ∈ bases) {maker : FactoryId} {record : CallRecord}
    (before : record ∈ world.past number) (made : record.defined? maker = some base) :
    world.hierarchy.Outgrows (world.types.row type).primary (world.types.row base).primary := by
  obtain ⟨first, hierarchy, types, sum, wide, sums⟩ := valid.sumsUp proper root found
  have given : base ∈ (if bases.isEmpty then [first] else bases) := by
    rw [if_neg (by simpa using List.ne_nil_of_mem given)]
    exact given
  -- The base has a layout and a superclass by the definition that it comes from.
  obtain ⟨name, others, slots, dict, rfl⟩ := CallRecord.of_defined? made
  obtain ⟨position, known⟩ := List.mem_iff_getElem?.mp (valid.pasts number _ before rfl)
  obtain ⟨_, _, _, above, narrow, upper⟩ := valid.sumsUp proper root known
  -- Both were in the tables that the sum was read from.
  obtain ⟨typed, ⟨shared, kind, sharedMade, host⟩, declared⟩ :=
    sums.readings.known _ before maker base made
  have row : types.row base = world.types.row base := (sums.readings.rows.row base typed).symm
  have canonical : Inheritance.canonicalClass types (types.row base) = above.base := by
    have chosen : (types.sharedRow shared).canonicalClass = some above.base := by
      have same := (valid.shared shared (sums.readings.rows.madeShared sharedMade)).2
      rw [sums.readings.rows.sharedRow shared sharedMade, host, row, upper.superclass] at same
      exact same
    simp [Inheritance.canonicalClass, GuestType.sharedRepresentation, kind, chosen]
  have passed : Inheritance.layout? hierarchy (types.row base) = some narrow := by
    have replaceable : (types.row base).isReplaceable = true := by
      simp [GuestType.isReplaceable, GuestType.sharedRepresentation, kind]
    rw [Inheritance.layout?, if_pos replaceable, ← sums.readings.classes.row _ declared, row]
    exact upper.laidOut
  have covers := sums.covers base given
  refine ⟨⟨wide, narrow, sums.laidOut, upper.laidOut, ?_, ?_⟩, sum.base, above.base,
    sums.superclass, upper.superclass, upper.concrete, ?_⟩
  · exact List.Subset.trans (covers.slots narrow passed) sums.slots
  · exact fun has => sums.dict (covers.dict narrow passed has)
  · have below := covers.above (canonical ▸ sums.readings.classes.concrete upper.concrete)
    rw [Hierarchy.isSubclassOf_iff upper.concrete, sums.readings.classes.lineage sums.declared,
      ← canonical]
    exact below

/-! ## Chains of definitions -/

/-- A guest class that was answered with has outgrown another one. -/
structure Below (world : World) (lower upper : TypeId) : Prop where
  answered : exists factory record, record ∈ world.calls ∧ record.defined? factory = some lower
  defined : exists factory, world.Defined factory upper
  outgrows : world.hierarchy.Outgrows (world.types.row lower).primary
    (world.types.row upper).primary

variable {before after : World} {lower middle upper : TypeId}

/-- A guest class that has outgrown another one goes on to do so. -/
theorem persistent_below (lower upper : TypeId) : Persistent (Below · lower upper) := by
  rintro before after valid grows ⟨⟨factory, record, member, answered⟩, ⟨maker, defined⟩, outgrows⟩
  obtain ⟨position, found⟩ := List.mem_iff_getElem?.mp member
  obtain ⟨later, still, -, same⟩ := grows.calls position record found
  obtain rfl := same (answered_of_defined answered)
  refine ⟨⟨factory, later, List.mem_of_getElem? still, answered⟩,
    ⟨maker, grows.defined defined⟩, ?_⟩
  rw [grows.types.row lower (valid.defined member answered).made,
    grows.types.row upper defined.made]
  exact outgrows.mono grows.hierarchy

/-- One link more: what is defined below a guest class has outgrown all that this one has. -/
theorem Below.derive (below : before.Below middle upper) (known : before.Valid)
    (grows : Grows before after) (valid : after.Valid) (proper : after.hierarchy.Proper)
    (root : after.hierarchy.isInterface Builtin.object = false)
    (fresh : before.calls.length ≤ number)
    (found : after.calls[number]? = some {
      call := .defineClass factory name bases slots dict, answer := some (.ok lower) })
    (given : middle ∈ bases) : after.Below lower upper := by
  obtain ⟨maker, record, member, answered⟩ := below.answered
  have remembered : record ∈ after.past number :=
    grows.begun number record fresh (List.getElem?_eq_some_iff.mp found).1 member
      (answered_of_defined answered)
  have later := persistent_below middle upper known grows below
  exact {
    answered := ⟨factory, _, List.mem_of_getElem? found, if_pos rfl⟩
    defined := later.defined
    outgrows := (valid.outgrows proper root found given remembered answered).trans later.outgrows }

end World

namespace Machine

variable {σ : Type} {code : ClientCode σ} {machine later : Machine (Clients σ)}
  {factory : FactoryId} {type derived base : TypeId}

/-- A chain of guest classes: each was given as a base to the definition of the next one, in a call
that began after it had been answered with. -/
inductive Descends (code : ClientCode σ) : Machine (Clients σ) -> TypeId -> TypeId -> Prop where
  | self {machine : Machine (Clients σ)} {factory : FactoryId} {type : TypeId}
      (reachable : machine.Reachable code) (defined : type ∈ machine.definedTypes factory) :
      Descends code machine type type
  | derive {earlier later : Machine (Clients σ)} {bases : List TypeId}
      {derived middle base : TypeId} {number : Nat} (above : Descends code earlier middle base)
      (steps : Steps code.host earlier later) (fresh : earlier.host.calls.length ≤ number)
      (found : later.host.calls[number]?.bind (·.derivation?) = some (bases, derived))
      (given : middle ∈ bases) : Descends code later derived base

/-- The root class is no interface. -/
theorem Reachable.concrete_object (reachable : machine.Reachable code) :
    machine.store.hierarchy.isInterface Builtin.object = false := by
  have declared : Builtin.hierarchy.Declared Builtin.object := by
    show 0 < Builtin.hierarchy.rows.size
    decide
  unfold Hierarchy.isInterface
  rw [reachable.builtins.row _ declared]
  decide

/-- The classes of a reachable machine are proper, and the root class is no interface. -/
theorem proper_of_kept {now : Instant σ} (kept : kernel.Kept machine now)
    (reachable : machine.Reachable code) : now.world.hierarchy.Proper ∧
      now.world.hierarchy.isInterface Builtin.object = false := by
  have proper := reachable.proper
  have root := reachable.concrete_object
  rw [kept.store] at proper root
  exact ⟨proper, root⟩

/-- Down a chain, from the last link to the first, each guest class outgrows what is above it. -/
theorem Descends.kept (descends : machine.Descends code derived base) :
    machine.Reachable code ∧
      exists now : Instant σ, kernel.Kept machine now ∧ now.world.Below derived base := by
  induction descends with
  | @self machine factory type reachable defined =>
      obtain ⟨now, kept⟩ := reachable.kept
      obtain ⟨proper, root⟩ := proper_of_kept kept reachable
      unfold definedTypes at defined
      rw [kept.host] at defined
      obtain ⟨record, member, answered⟩ := List.mem_filterMap.mp defined
      obtain ⟨name, bases, slots, dict, rfl⟩ := CallRecord.of_defined? answered
      obtain ⟨number, found⟩ := List.mem_iff_getElem?.mp member
      obtain ⟨_, _, _, sum, layout, sums⟩ := World.Valid.sumsUp kept.valid proper root found
      refine ⟨reachable, now, kept, ⟨factory, _, member, answered⟩,
        ⟨factory, World.Valid.defined kept.valid member answered⟩, ?_⟩
      refine ⟨⟨layout, layout, sums.laidOut, sums.laidOut, List.Subset.refl _, id⟩, sum.base,
        sum.base, sums.superclass, sums.superclass, sums.concrete, ?_⟩
      rw [Hierarchy.isSubclassOf_iff sums.concrete]
      exact Hierarchy.mem_lineage_self _ _
  | derive above steps fresh found given inductionHypothesis =>
      obtain ⟨reachable, now, kept, below⟩ := inductionHypothesis
      obtain ⟨after, onward, reached⟩ := kept.steps (trusts_host code) steps
      have grows : World.Grows now.world after.world :=
        World.Persistent.onward (fun _ _ _ grows sofar => sofar.trans grows) onward (.refl _)
      have reachable := reachable.steps steps
      obtain ⟨proper, root⟩ := proper_of_kept reached reachable
      obtain ⟨record, found, derived⟩ := Option.bind_eq_some_iff.mp found
      obtain ⟨factory, name, slots, dict, rfl⟩ := CallRecord.of_derivation? derived
      rw [kept.host] at fresh
      rw [reached.host] at found
      exact ⟨reachable, after, reached,
        below.derive kept.valid grows reached.valid proper root fresh found given⟩

/-- Along any chain of guest classes, and for ever after, layouts grow from the last one down to the
first. -/
theorem layouts_grow (descends : machine.Descends code derived base)
    (steps : Steps code.host machine later) :
    later.store.hierarchy.Outgrows (later.store.types.row derived).primary
      (later.store.types.row base).primary := by
  obtain ⟨-, now, kept, below⟩ := descends.kept
  obtain ⟨after, onward, reached⟩ := kept.steps (trusts_host code) steps
  rw [reached.store]
  exact ((World.persistent_below derived base).onward onward below).outgrows

/-- Host code that derives guest classes from one another: the first one has a slot, the second one
declares none, and the last one declares that it has none of its own. -/
def derivingTwice : Client Unit (Except Fault Unit) :=
  .call (.makeFactory {}) fun
    | .error fault => .done (.error fault)
    | .ok factory =>
        .call (.defineClass factory "First" [] (some ["x"]) false) fun
          | .error fault => .done (.error fault)
          | .ok first =>
              .call (.defineClass factory "Second" [first] none false) fun
                | .error fault => .done (.error fault)
                | .ok second =>
                    .call (.defineClass factory "Third" [second] (some []) false) fun _ =>
                      .done (.ok ())

/-- The last one has the slot of the first one, and the dictionary that the second one got. -/
theorem layouts_grow_derivingTwice :
    let first := Machine.run ClientCode.quiet.host 60 (opening derivingTwice ())
    let second := Machine.run ClientCode.quiet.host 48 first
    let third := Machine.run ClientCode.quiet.host 48 second
    third.Descends ClientCode.quiet ⟨4⟩ ⟨2⟩ ∧
      third.store.hierarchy.Outgrows (third.store.types.row ⟨4⟩).primary
        (third.store.types.row ⟨2⟩).primary ∧
      (third.store.hierarchy.row (third.store.types.row ⟨2⟩).primary).layout =
        some { hasDict := false, slots := ["x"] } ∧
      (third.store.hierarchy.row (third.store.types.row ⟨4⟩).primary).layout =
        some { hasDict := true, slots := ["x"] } := by
  intro first second third
  have reachable : first.Reachable ClientCode.quiet :=
    reachable_run ClientCode.quiet derivingTwice () 60
  have early : Steps ClientCode.quiet.host first second :=
    steps_run ClientCode.quiet.host 48 _ _ .refl
  have late : Steps ClientCode.quiet.host second third :=
    steps_run ClientCode.quiet.host 48 _ _ .refl
  have defined : ⟨2⟩ ∈ first.definedTypes ⟨0⟩ := by decide +kernel
  have two : first.host.calls.length ≤ 2 ∧
      second.host.calls[2]?.bind (·.derivation?) = some ([⟨2⟩], ⟨3⟩) := by decide +kernel
  have three : second.host.calls.length ≤ 3 ∧
      third.host.calls[3]?.bind (·.derivation?) = some ([⟨3⟩], ⟨4⟩) := by decide +kernel
  have narrow : (third.store.hierarchy.row (third.store.types.row ⟨2⟩).primary).layout =
      some { hasDict := false, slots := ["x"] } := by decide +kernel
  have wide : (third.store.hierarchy.row (third.store.types.row ⟨4⟩).primary).layout =
      some { hasDict := true, slots := ["x"] } := by decide +kernel
  clear_value first second third
  have descends : third.Descends ClientCode.quiet ⟨4⟩ ⟨2⟩ :=
    .derive (.derive (.self reachable defined) early two.1 two.2 List.mem_cons_self) late three.1
      three.2 List.mem_cons_self
  exact ⟨descends, layouts_grow descends .refl, narrow, wide⟩

end Machine

end GuestTypes
