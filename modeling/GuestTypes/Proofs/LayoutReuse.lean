import GuestTypes.Proofs.DefinedLayouts
import GuestTypes.Proofs.EscalationEffect
import Mathlib.Data.List.Sort

/-!
# Guest classes that add nothing

A definition over a guest class and guest classes above that one, with no slot that the guest class
has not, drafts the shape which the class of that guest class was synthesized for. So the factory
finds the class among those that it keeps, and the new type joins it.
-/

namespace GuestTypes

open Inheritance

/-- The first class kept for a shape is the only one. -/
theorem Factory.layoutClass?_of_mem {factory : Factory} {shape : Shape} {cls : ClassId}
    (distinct : (factory.layouts.map (·.1)).Nodup) (member : (shape, cls) ∈ factory.layouts) :
    factory.layoutClass? shape = some cls := by
  cases found : factory.layoutClass? shape with
  | none => exact absurd rfl (Factory.layoutClass?_eq_none found _ member)
  | some other =>
      have same : (shape, other) = (shape, cls) :=
        List.inj_on_of_nodup_map distinct (Factory.mem_layouts found) member rfl
      rw [(Prod.mk.inj same).2]

attribute [ext] Layout

/-! ## One base above all others -/

/-- Of some bases one stands for the lowest class and passes on all that they pass on. -/
structure Store.SumsTo (store : Store) (bases : List TypeId) (shape : Shape) : Prop where
  concrete : forall cls, cls ∈ store.candidates bases -> store.hierarchy.isInterface cls = false
  candidate : shape.base ∈ store.candidates bases
  lowest : forall cls, cls ∈ store.candidates bases -> cls ∈ store.hierarchy.lineage shape.base
  slots : forall slot, store.Inherits bases slot ↔ slot ∈ shape.layout.slots
  dict : store.InheritsDict bases ↔ shape.layout.hasDict = true

/-- The shape of a class that was synthesized for a guest class. -/
structure Shape.Settled (shape : Shape) : Prop where
  increasing : shape.layout.slots.Pairwise (· < ·)
  equipped : shape.layout.slots = [] -> shape.layout.hasDict = true
  interfaces : shape.interfaces = []

/-- If no slot is declared that the bases do not pass on, their shape is drafted again. -/
theorem Store.SumsTo.drafted {store : Store} {bases : List TypeId} {shape : Shape}
    (sums : store.SumsTo bases shape) (settled : shape.Settled) {slots : List String}
    (old : slots ⊆ shape.layout.slots) (name : String) :
    exists spec, Inheritance.drafted store.hierarchy store.types name bases (some slots) false =
      .ok spec ∧ spec.shape = shape := by
  have drafts : store.Drafts bases name (some slots) false _ := drafts_drafted sums.concrete
  generalize same : Inheritance.drafted store.hierarchy store.types name bases (some slots) false =
    draft at drafts
  cases drafts with
  | conflict conflicts =>
      obtain ⟨one, other, here, there, unrelated⟩ := conflicts
      exact absurd (Hierarchy.related_of_lineage (sums.concrete one here)
        (sums.concrete other there)
        (sums.lowest one here) (sums.lowest other there)) unrelated
  | repeated related repeats =>
      obtain ⟨slot, twice, apart⟩ := repeats
      have declared : slot ∈ slots :=
        List.count_pos_iff.mp (Nat.lt_of_lt_of_le Nat.zero_lt_two twice)
      exact absurd ((sums.slots slot).mpr (old declared)) apart
  | @drafted spec related distinct derived asDrafted =>
      obtain ⟨inheritance, draft, -, -, -, plain, -⟩ := of_drafted same
      have base : spec.base = shape.base :=
        Hierarchy.eq_of_lineage
          ((Hierarchy.isSubclassOf_iff (sums.concrete _ sums.candidate)).mp
            (derived.2 _ sums.candidate))
          (sums.lowest _ derived.1)
      have members : forall slot, slot ∈ spec.layout.slots ↔ slot ∈ shape.layout.slots := by
        intro slot
        rw [asDrafted.slots, sums.slots]
        exact ⟨fun has => has.elim id (old ·), .inl⟩
      have slots_ : spec.layout.slots = shape.layout.slots :=
        asDrafted.increasing.eq_of_mem_iff settled.increasing members
      have dict : spec.layout.hasDict = shape.layout.hasDict := by
        rw [Bool.eq_iff_iff, asDrafted.dict, sums.dict, slots_]
        constructor
        · rintro (asked | undeclared | inherited | none_)
          · cases asked
          · cases undeclared
          · exact inherited
          · exact settled.equipped none_
        · exact fun has => .inr (.inr (.inl has))
      have layout : spec.layout = shape.layout := Layout.ext dict slots_
      have shape_ : spec.shape = ⟨spec.base, spec.layout, spec.shape.interfaces⟩ := rfl
      rw [base, layout, plain.interfaces_shape, ← settled.interfaces] at shape_
      exact ⟨spec, rfl, shape_⟩

/-! ## Guest classes as bases -/

/-- A type that stands for the superclass of its own class and passes on the layout. -/
structure Store.PassesOn (store : Store) (type : TypeId) (shape : Shape) : Prop where
  whole : Whole store.hierarchy store.types type
  realises : store.hierarchy.Realises (store.types.row type).primary shape
  canonical : canonicalClass store.types (store.types.row type) = shape.base
  layout : layout? store.hierarchy (store.types.row type) = some shape.layout

/-- A type adds nothing to a shape as a base: it stands for a class that the base of the shape is
below, and passes on no more than the layout has. -/
structure Store.Within (store : Store) (type : TypeId) (shape : Shape) : Prop where
  concrete : store.hierarchy.isInterface
    (canonicalClass store.types (store.types.row type)) = false
  above : canonicalClass store.types (store.types.row type) ∈ store.hierarchy.lineage shape.base
  slots : forall layout, layout? store.hierarchy (store.types.row type) = some layout ->
    layout.slots ⊆ shape.layout.slots
  dict : forall layout, layout? store.hierarchy (store.types.row type) = some layout ->
    layout.hasDict = true -> shape.layout.hasDict = true

/-- What a class outgrows adds nothing to the shape of the class. -/
theorem Store.PassesOn.within {store : Store} {base : TypeId} {lower : ClassId}
    {upper shape : Shape}
    (passes : store.PassesOn base upper) (realises : store.hierarchy.Realises lower shape)
    (outgrows : store.hierarchy.Outgrows lower (store.types.row base).primary) :
    store.Within base shape := by
  obtain ⟨⟨wide, narrow, wideLayout, narrowLayout, slots, dict⟩,
    lowest, highest, lowestSuper, highestSuper, concrete, subclass⟩ := outgrows
  cases wideLayout.symm.trans realises.layout
  cases narrowLayout.symm.trans passes.realises.layout
  cases lowestSuper.symm.trans realises.base
  cases highestSuper.symm.trans passes.realises.base
  refine ⟨passes.canonical ▸ concrete,
    passes.canonical ▸ (Hierarchy.isSubclassOf_iff concrete).mp subclass, ?_, ?_⟩
  · intro layout passed
    cases passed.symm.trans passes.layout
    exact slots
  · intro layout passed
    cases passed.symm.trans passes.layout
    exact dict

/-- Bases of which one has a shape, to which no other adds anything, sum to that shape. -/
theorem Store.SumsTo.of_within {store : Store} {bases : List TypeId} {type : TypeId} {shape : Shape}
    (root : store.hierarchy.isInterface Builtin.object = false)
    (rooted : Builtin.object ∈ store.hierarchy.lineage shape.base) (given : type ∈ bases)
    (canonical : canonicalClass store.types (store.types.row type) = shape.base)
    (layout : layout? store.hierarchy (store.types.row type) = some shape.layout)
    (within : forall base, base ∈ bases -> store.Within base shape) : store.SumsTo bases shape where
  concrete := by
    intro cls candidate
    rcases Store.mem_candidates.mp candidate with rfl | ⟨base, given, rfl⟩
    · exact root
    · exact (within base given).concrete
  candidate := Store.mem_candidates.mpr (.inr ⟨type, given, canonical⟩)
  lowest := by
    intro cls candidate
    rcases Store.mem_candidates.mp candidate with rfl | ⟨base, given, rfl⟩
    · exact rooted
    · exact (within base given).above
  slots := fun slot => ⟨fun ⟨base, given, other, passed, has⟩ =>
    (within base given).slots other passed has, fun has => ⟨type, given, _, layout, has⟩⟩
  dict := ⟨fun ⟨base, given, other, passed, has⟩ => (within base given).dict other passed has,
    fun has => ⟨type, given, _, layout, has⟩⟩

/-- A definition was answered with a new type that has the layout of a type that was there, and the
factory is as it was. -/
def Store.Reuses (before : Store) (factory : FactoryId) (type : TypeId)
    (outcome : Except Fault TypeId) (after : Store) : Prop :=
  exists derived, outcome = .ok derived ∧ ¬ before.types.Made derived ∧ after.types.Made derived ∧
    (after.types.row derived).primary = (after.types.row type).primary ∧
      after.types.hasSameLayout derived type = true ∧
        after.factory factory = before.factory factory

namespace World

variable {world : World} {factory : FactoryId} {type : TypeId}

/-- The shape that the class of a guest class is kept for. -/
theorem Defined.keptFor (defined : world.Defined factory type) (valid : world.Valid) :
    exists shape, (shape, (world.types.row type).primary) ∈ (world.factory factory).layouts ∧
      world.hierarchy.Realises (world.types.row type).primary shape := by
  obtain ⟨shape, kept⟩ := defined.layout
  exact ⟨shape, kept, (valid.layouts factory _ kept).2⟩

/-- What a guest class is as a base. -/
theorem Defined.asBase (defined : world.Defined factory type) (valid : world.Valid) {shape : Shape}
    (realises : world.hierarchy.Realises (world.types.row type).primary shape) :
    Whole world.hierarchy world.types type ∧
      canonicalClass world.types (world.types.row type) = shape.base ∧
        layout? world.hierarchy (world.types.row type) = some shape.layout := by
  obtain ⟨shared, kind, -, made, host⟩ := defined.shares
  have shares : (world.types.row type).sharedRepresentation = some shared := by
    simp [GuestType.sharedRepresentation, kind]
  have chosen : (world.types.sharedRow shared).canonicalClass = some shape.base := by
    rw [(valid.shared shared made).2, host]
    exact realises.base
  refine ⟨⟨defined.made, (Hierarchy.superclass_lt realises.base).1, fun other also => ?_⟩, ?_, ?_⟩
  · cases shares.symm.trans also
    exact made
  · simp [canonicalClass, shares, chosen]
  · rw [layout?, if_pos (by simp [GuestType.isReplaceable, shares])]
    exact realises.layout

/-- The shape of a guest class that a call was answered with. -/
theorem Valid.settledShape {number : Nat} {name : String} {bases : List TypeId}
    {slots : Option (List String)} {dict : Bool} (valid : world.Valid)
    (proper : world.hierarchy.Proper)
    (root : world.hierarchy.isInterface Builtin.object = false)
    (found : world.calls[number]? = some {
      call := .defineClass factory name bases slots dict, answer := some (.ok type) }) :
    exists shape, (shape, (world.types.row type).primary) ∈ (world.factory factory).layouts ∧
      shape.Settled ∧ Builtin.object ∈ world.hierarchy.lineage shape.base := by
  obtain ⟨first, spec,
    ⟨hierarchy, types, sum, draft, readings, added, declared, built, rfl⟩, kept⟩ :=
      valid.derived number _ found
  have known := keeps_specification built
  obtain ⟨-, distinct, -⟩ := ofBases_passes added
  obtain ⟨increasing, -, has⟩ := layout_specification distinct built
  have rooted := ofBases_rooted (readings.classes.proper proper) (readings.classes.concrete root)
    added
  refine ⟨_, kept, ⟨increasing, fun none_ => has.mpr (.inr (.inr (.inr none_))), ?_⟩, ?_⟩
  · exact (Specification.plain_freeze known.frozen known.interfaces).interfaces_shape
  · show Builtin.object ∈ world.hierarchy.lineage draft.base
    rw [known.base, readings.classes.lineage declared]
    exact rooted

end World

namespace Machine

variable {σ : Type} {code : ClientCode σ} {machine : Machine (Clients σ)} {factory : FactoryId}
  {type base : TypeId} {bases : List TypeId}

/-- What a guest class is as a base, and that the lower one outgrows it. -/
theorem Descends.passesOn (descends : machine.Descends code type base) :
    exists shape, machine.store.PassesOn base shape ∧
      machine.store.hierarchy.Outgrows (machine.store.types.row type).primary
        (machine.store.types.row base).primary := by
  obtain ⟨-, now, kept, below⟩ := descends.kept
  obtain ⟨maker, defined⟩ := below.defined
  obtain ⟨shape, -, realises⟩ := defined.keptFor kept.valid
  obtain ⟨whole, canonical, layout⟩ := defined.asBase kept.valid realises
  rw [kept.store]
  exact ⟨shape, ⟨whole, realises, canonical, layout⟩, below.outgrows⟩

/-- A factory keeps the class of a guest class for the shape that the guest class sums to with guest
classes above it. -/
theorem Reachable.sumsTo (reachable : machine.Reachable code)
    (guest : type ∈ machine.definedTypes factory) (given : type ∈ bases)
    (below : forall base, base ∈ bases -> machine.Descends code type base) :
    exists shape, machine.store.SumsTo bases shape ∧ shape.Settled ∧
      (machine.store.hierarchy.row (machine.store.types.row type).primary).layout =
        some shape.layout ∧
      (machine.store.factory factory).layoutClass? shape =
        some (machine.store.types.row type).primary := by
  obtain ⟨now, kept⟩ := reachable.kept
  have valid : now.world.Valid := kept.valid
  obtain ⟨proper, root⟩ := proper_of_kept kept reachable
  have passes := fun base member => (below base member).passesOn
  unfold definedTypes at guest
  rw [kept.host] at guest
  rw [kept.store] at passes ⊢
  obtain ⟨record, listed, answered⟩ := List.mem_filterMap.mp guest
  obtain ⟨name, others, declared, dict, rfl⟩ := CallRecord.of_defined? answered
  obtain ⟨number, found⟩ := List.mem_iff_getElem?.mp listed
  obtain ⟨shape, member, settled, rooted⟩ := valid.settledShape proper root found
  have realises := (valid.layouts factory _ member).2
  obtain ⟨-, own, ownLayout⟩ := (valid.defined listed answered).asBase valid realises
  have within : forall base, base ∈ bases -> now.store.Within base shape := by
    intro base given
    obtain ⟨upper, passes, outgrows⟩ := passes base given
    exact passes.within realises outgrows
  exact ⟨shape, .of_within root rooted given own ownLayout within, settled, realises.layout,
    Factory.layoutClass?_of_mem (valid.shapes factory) member⟩

/-- The shared representation of a guest class. -/
theorem Reachable.shares (reachable : machine.Reachable code)
    (guest : type ∈ machine.definedTypes factory) :
    factory.index < machine.store.factories.size ∧ machine.store.types.Made type ∧
      exists shared, (machine.store.types.row type).kind = .replaceable shared ∧
        machine.store.bound factory (machine.store.types.row type).primary =
          some (.shared shared) := by
  obtain ⟨now, kept⟩ := reachable.kept
  obtain ⟨founded, made, ⟨shared, kind, bound, -⟩, -⟩ := defined_of_mem kept guest
  rw [kept.store]
  exact ⟨founded, made, shared, kind, bound⟩

/-- What joins the class of a guest class has its layout. -/
theorem Reachable.reuses {derived : TypeId} {next : Scene} {after : Store}
    (reachable : machine.Reachable code) (guest : type ∈ machine.definedTypes factory)
    (joins :
      (machine.store.scene factory).Joins (machine.store.types.row type).primary derived next)
    (fits : next.Fits factory after) : machine.store.Reuses factory type (.ok derived) after := by
  obtain ⟨-, typed, shared, kind, bound⟩ := reachable.shares guest
  obtain ⟨made, primary, other, also, rebound⟩ := joins.shown fits
  have row : after.types.row type = machine.store.types.row type :=
    (joins.types.trans fits.types).row type typed
  obtain rfl : shared = other := by
    have stays := joins.kept _ _ bound
    rw [← fits.bound] at stays
    cases stays.symm.trans rebound
    rfl
  refine ⟨derived, rfl, joins.fresh, made, by rw [primary, row], ?_,
    fits.factory.trans joins.factory⟩
  simp [TypeTable.hasSameLayout, GuestType.hasSameLayout, GuestType.sharedRepresentation, row, kind,
    also]

/-- On any stage, a definition that adds nothing lets a new type join the class of the guest
class. -/
theorem Reachable.delivers_reuse {stage : Stage factory} {thread : ThreadId} {name : String}
    {slots : List String} {layout : Layout} {post : Except Fault TypeId -> Store -> Prop}
    (reachable : machine.Reachable code) (free : (machine.store.factory factory).lock = .free)
    (guest : type ∈ machine.definedTypes factory) (given : type ∈ bases)
    (below : forall base, base ∈ bases -> machine.Descends code type base)
    (laidOut : (machine.store.hierarchy.row (machine.store.types.row type).primary).layout =
      some layout)
    (old : slots ⊆ layout.slots)
    (spares : forall before after, stage.around before after -> Store.Spares factory before after)
    (fits : stage.fits (machine.store.scene factory) machine.store)
    (ends : forall derived next after, (machine.store.scene factory).Joins
        (machine.store.types.row type).primary derived next -> stage.fits next after ->
      post (.ok derived) after) :
    (factory.defineClass name bases (some slots) false : Request (Clients σ) TypeId).run.Delivers
      thread stage.around machine.store post := by
  obtain ⟨shape, sums, settled, same, kept⟩ := reachable.sumsTo guest given below
  cases laidOut.symm.trans same
  obtain ⟨spec, drafts, rfl⟩ := sums.drafted settled old name
  obtain ⟨root, canonical⟩ := reachable.canonical
  have effective : (machine.store.scene factory).factory.effectiveBases bases = bases :=
    if_neg (by simpa using List.ne_nil_of_mem given)
  have whole : forall base, base ∈ bases ->
      Whole machine.store.hierarchy machine.store.types base := by
    intro base member
    obtain ⟨shape, passes, -⟩ := (below base member).passesOn
    exact passes.whole
  refine Scene.delivers_define (· = .ok spec) spares fits (reachable.poised free) ?_ ?_ ?_ ?_ ?_ ?_
  · intro first second fits further
    rw [effective]
    exact (Scene.drafted_later (stage.shows further).hierarchy (stage.shows fits).types root whole
      canonical).trans drafts
  · rintro _ ⟨⟩
    exact declared_drafted drafts root canonical
  · rintro fault after ⟨⟩
  · rintro _ cls derived next after ⟨⟩ kept' joins fits
    cases kept.symm.trans kept'
    exact ends derived next after joins fits
  · rintro _ begun ⟨⟩ unkept
    cases kept.symm.trans unkept
  · rintro _ cls hierarchy derived next after ⟨⟩ unkept
    cases kept.symm.trans unkept

/-- A definition over a guest class and guest classes above it, which asks for no dictionary and
declares only slots that the guest class has, is answered with a new type of the same layout, and
the factory keeps no class more, whatever the other threads do that spares it. When the thread goes
on alone, no class is made and no name is issued. -/
theorem layout_reused {slots : List String} {layout : Layout} (reachable : machine.Reachable code)
    (free : (machine.store.factory factory).lock = .free)
    (guest : type ∈ machine.definedTypes factory) (given : type ∈ bases)
    (below : forall base, base ∈ bases -> machine.Descends code type base)
    (laidOut : (machine.store.hierarchy.row (machine.store.types.row type).primary).layout =
      some layout)
    (old : slots ⊆ layout.slots) (name : String) (thread : ThreadId) :
    let request : Request (Clients σ) TypeId := factory.defineClass name bases (some slots) false
    let leaves (outcome : Except Fault TypeId) (after : Store) : Prop :=
      machine.store.Reuses factory type outcome after ∧ machine.store.Elsewhere factory after
    request.run.Delivers thread (Store.Spares factory) machine.store
      (machine.store.Reuses factory type) ∧
    request.run.Delivers thread Store.Still machine.store leaves ∧
    forall next frames,
      machine.threads[thread.index]? = some (.running (request.run.bind next) frames) ->
        exists outcome later, leaves outcome later.store ∧
          later.layoutCount factory = machine.layoutCount factory ∧ later.host = machine.host ∧
            later.threads[thread.index]? = some (.running (next outcome) frames) ∧
              Machine.Steps code.host machine later := by
  intro request leaves
  have amid : request.run.Delivers thread (Stage.amid factory).around machine.store
      (machine.store.Reuses factory type) :=
    reachable.delivers_reuse free guest given below laidOut old (fun _ _ spares => spares)
      (machine.store.fits_scene factory) fun _ _ _ joins fits => reachable.reuses guest joins fits
  let stage : Stage factory :=
    .alone factory machine.store (reachable.escalates (reachable.shares guest).1)
  have alone : request.run.Delivers thread stage.around machine.store leaves :=
    reachable.delivers_reuse free guest given below laidOut old
      (fun _ _ still => still.spares factory)
      ⟨machine.store.fits_scene factory, rfl, .refl _⟩
      fun _ _ _ joins fits => ⟨reachable.reuses guest joins fits.1, fits.2.2⟩
  refine ⟨amid, alone, fun next frames running => ?_⟩
  obtain ⟨outcome, later, left, host, goesOn, steps⟩ :=
    alone.steps reachable.guarded code.guarded_host Store.still_guards running
  obtain ⟨derived, -, -, -, -, -, same⟩ := left.1
  exact ⟨outcome, later, left, congrArg (·.layouts.length) same, host, goesOn, steps⟩

/-- A third guest class over both of the others, which declares their slot twice, has the layout of
the second one. -/
theorem layout_reused_derivingTwice :
    let first := Machine.run ClientCode.quiet.host 60 (opening derivingTwice ())
    let machine := Machine.run ClientCode.quiet.host 48 first
    (FactoryId.defineClass ⟨0⟩ "Third" [⟨2⟩, ⟨3⟩] (some ["x", "x"]) false :
        Request (Clients Unit) TypeId).run.Delivers ⟨0⟩ Store.Still machine.store
      fun outcome after => machine.store.Reuses ⟨0⟩ ⟨3⟩ outcome after ∧
        machine.store.Elsewhere ⟨0⟩ after := by
  intro first machine
  have reachable : first.Reachable ClientCode.quiet :=
    reachable_run ClientCode.quiet derivingTwice () 60
  have onward : Steps ClientCode.quiet.host first machine :=
    steps_run ClientCode.quiet.host 48 _ _ .refl
  have earlier : ⟨2⟩ ∈ first.definedTypes ⟨0⟩ ∧ first.host.calls.length ≤ 2 := by decide +kernel
  have shape : (machine.host.calls[2]?.bind (·.derivation?) = some ([⟨2⟩], ⟨3⟩) ∧
      ⟨3⟩ ∈ machine.definedTypes ⟨0⟩) ∧ (machine.store.factory ⟨0⟩).lock = .free ∧
        (machine.store.hierarchy.row (machine.store.types.row ⟨3⟩).primary).layout =
          some { hasDict := true, slots := ["x"] } := by decide +kernel
  clear_value first machine
  obtain ⟨defined, few⟩ := earlier
  obtain ⟨⟨derived, guest⟩, free, laidOut⟩ := shape
  have later : machine.Reachable ClientCode.quiet := reachable.steps onward
  have below : forall base, base ∈ ([⟨2⟩, ⟨3⟩] : List TypeId) ->
      machine.Descends ClientCode.quiet ⟨3⟩ base := by
    intro base given
    simp only [List.mem_cons, List.not_mem_nil, or_false] at given
    rcases given with rfl | rfl
    · exact .derive (.self reachable defined) onward few derived List.mem_cons_self
    · exact .self later guest
  exact (layout_reused later free guest (by simp) below laidOut (by simp) "Third" ⟨0⟩).2.1

end Machine

end GuestTypes
