import GuestTypes.Proofs.Capabilities
import GuestTypes.Proofs.LayoutReuse
import Mathlib.Data.List.Induction

/-!
# The order of bases

Bases are taken in one after the other, and what they add up to is always a class. So a base that
stands for an interface is refused unless a class that implements it was taken in before. In all
else the order makes no difference: whether two classes are unrelated, which class is the lowest
one, and what slots and dictionary are passed on is the same in each order.
-/

namespace GuestTypes

open Inheritance

/-- What a class implements, the classes below it implement. -/
theorem Hierarchy.implements_of_lineage {hierarchy : Hierarchy} {cls lower iface : ClassId}
    (above : cls ∈ hierarchy.lineage lower) (implements : hierarchy.implements cls iface = true) :
    hierarchy.implements lower iface = true := by
  induction lower using lineage_induction hierarchy with
  | step lower inductionHypothesis =>
      rw [lineage_eq] at above
      rcases List.mem_cons.mp above with rfl | above
      · exact implements
      · cases chosen : hierarchy.superclass lower with
        | none => simp [chosen] at above
        | some super =>
            rw [chosen] at above
            exact implements_step.mpr (.inr ⟨super, chosen, inductionHypothesis super chosen above⟩)

namespace Inheritance

variable {hierarchy : Hierarchy} {types : TypeTable} {sofar after : Inheritance}
  {bases earlier later : List GuestType} {base : GuestType}

/-- The classes, not interfaces, that bases stand for, and the root class. -/
def classes (hierarchy : Hierarchy) (types : TypeTable) (bases : List GuestType) : List ClassId :=
  (candidates types bases).filter (!hierarchy.isInterface ·)

/-- The classes that bases stand for are the candidates that are not interfaces. -/
theorem mem_classes {cls : ClassId} : cls ∈ classes hierarchy types bases ↔
    cls ∈ candidates types bases ∧ hierarchy.isInterface cls = false := by
  simp [classes]

/-- A base stands for an interface that no class implements for which an earlier base stands. -/
def Premature (hierarchy : Hierarchy) (types : TypeTable) (bases : List GuestType) : Prop :=
  exists earlier base later, bases = earlier ++ base :: later ∧
    hierarchy.isInterface (canonicalClass types base) = true ∧
      forall cls, cls ∈ classes hierarchy types earlier ->
        hierarchy.implements cls (canonicalClass types base) = false

/-- Taking in one base more than others. -/
theorem ofBases_snoc : ofBases hierarchy types (earlier ++ base :: later) =
    (ofBases hierarchy types earlier).bind fun middle =>
      (add hierarchy types middle base).bind fun next =>
        later.foldlM (add hierarchy types) next := by
  unfold ofBases
  rw [List.foldlM_append]
  rfl

/-- Bases that add up to nothing do so at one of them. -/
theorem of_ofBases_none (none_ : ofBases hierarchy types bases = none) :
    exists earlier base later middle, bases = earlier ++ base :: later ∧
      ofBases hierarchy types earlier = some middle ∧ add hierarchy types middle base = none := by
  induction bases using List.reverseRecOn with
  | nil => cases none_
  | append_singleton bases last inductionHypothesis =>
      cases sofar : ofBases hierarchy types bases with
      | none =>
          obtain ⟨earlier, base, later, middle, rfl, added, refused⟩ := inductionHypothesis sofar
          exact ⟨earlier, base, later ++ [last], middle, by simp, added, refused⟩
      | some middle =>
          rw [ofBases_snoc, sofar] at none_
          refine ⟨bases, last, [], middle, rfl, sofar, ?_⟩
          simpa [Pure.pure] using none_

/-- Bases add up to the lowest of the classes that they stand for. -/
theorem ofBases_lowest_class (proper : hierarchy.Proper)
    (root : hierarchy.isInterface Builtin.object = false)
    (added : ofBases hierarchy types bases = some after) :
    after.base ∈ classes hierarchy types bases ∧
      forall cls, cls ∈ classes hierarchy types bases -> cls ∈ hierarchy.lineage after.base := by
  obtain ⟨concrete, covers⟩ := ofBases_covers proper root added
  constructor
  · refine mem_classes.mpr ⟨?_, concrete⟩
    exact satisfies_base List.mem_cons_self
      (fun base member => List.mem_cons_of_mem _ (List.mem_map_of_mem member)) added
  · intro cls candidate
    obtain ⟨candidate, class_⟩ := mem_classes.mp candidate
    rcases List.mem_cons.mp candidate with rfl | candidate
    · exact ofBases_rooted proper root added
    · obtain ⟨base, member, rfl⟩ := List.mem_map.mp candidate
      exact (covers base member).above class_

/-- A base that stands for an interface is refused unless the class kept implements it. -/
theorem add_interface_eq_none_iff (proper : hierarchy.Proper)
    (concrete : hierarchy.isInterface sofar.base = false)
    (iface : hierarchy.isInterface (canonicalClass types base) = true) :
    add hierarchy types sofar base = none ↔
      hierarchy.implements sofar.base (canonicalClass types base) = false := by
  have apart : sofar.base ≠ canonicalClass types base := by
    intro same
    rw [← same, concrete] at iface
    cases iface
  have above : hierarchy.isSubclassOf (canonicalClass types base) sofar.base = false := by
    rw [Bool.eq_false_iff]
    intro below
    cases (add_concrete proper concrete below).symm.trans iface
  have below : hierarchy.isSubclassOf sofar.base (canonicalClass types base) =
      hierarchy.implements sofar.base (canonicalClass types base) := by
    simp [Hierarchy.isSubclassOf, iface, apart]
  rw [add_eq_none_iff, Hierarchy.Related, above, below]
  simp

/-- Bases add up to nothing exactly if two classes are unrelated or an interface comes before the
classes that implement it. -/
theorem ofBases_none_iff (proper : hierarchy.Proper)
    (root : hierarchy.isInterface Builtin.object = false) :
    ofBases hierarchy types bases = none ↔
      (exists one other, one ∈ classes hierarchy types bases ∧
        other ∈ classes hierarchy types bases ∧ ¬ hierarchy.Related one other) ∨
      Premature hierarchy types bases := by
  constructor
  · intro none_
    obtain ⟨earlier, base, later, middle, rfl, added, refused⟩ := of_ofBases_none none_
    obtain ⟨candidate, lowest⟩ := ofBases_lowest_class proper root added
    obtain ⟨member, class_⟩ := mem_classes.mp candidate
    cases iface : hierarchy.isInterface (canonicalClass types base) with
    | false =>
        refine .inl ⟨canonicalClass types base, middle.base, ?_, ?_, add_eq_none_iff.mp refused⟩
        · exact mem_classes.mpr ⟨by simp [candidates], iface⟩
        · refine mem_classes.mpr ⟨?_, class_⟩
          simp only [candidates, List.map_append, List.mem_cons, List.mem_append] at member ⊢
          exact member.imp_right .inl
    | true =>
        have lacks := (add_interface_eq_none_iff proper class_ iface).mp refused
        refine .inr ⟨earlier, base, later, rfl, iface, fun cls before => ?_⟩
        rw [Bool.eq_false_iff]
        intro implements
        cases lacks.symm.trans (Hierarchy.implements_of_lineage (lowest cls before) implements)
  · intro conflicts
    cases added : ofBases hierarchy types bases with
    | none => rfl
    | some after =>
        rcases conflicts with ⟨one, other, here, there, unrelated⟩ |
          ⟨earlier, base, later, rfl, iface, unimplemented⟩
        · obtain ⟨-, lowest⟩ := ofBases_lowest_class proper root added
          exact absurd (Hierarchy.related_of_lineage (mem_classes.mp here).2
            (mem_classes.mp there).2
            (lowest one here) (lowest other there)) unrelated
        · rw [ofBases_snoc] at added
          obtain ⟨middle, sofar, added⟩ := Option.bind_eq_some_iff.mp added
          obtain ⟨next, taken, -⟩ := Option.bind_eq_some_iff.mp added
          obtain ⟨candidate, -⟩ := ofBases_lowest_class proper root sofar
          have refused := (add_interface_eq_none_iff proper (mem_classes.mp candidate).2 iface).mpr
            (unimplemented _ candidate)
          cases taken.symm.trans refused

end Inheritance

/-! ## Orders of the same bases -/

namespace Store

variable {store before after : Store} {bases order : List TypeId} {name : String}
  {declared : Option (List String)} {dict : Bool} {spec other : Specification}

/-- Two of the classes that the bases stand for, with the root class, are unrelated. Interfaces do
not count. -/
def Unrelated (store : Store) (bases : List TypeId) : Prop :=
  let classes := Inheritance.classes store.hierarchy store.types (bases.map store.types.row)
  exists one other, one ∈ classes ∧ other ∈ classes ∧ ¬ store.hierarchy.Related one other

/-- A base stands for an interface that neither the root class nor a class implements for which an
earlier base stands. -/
def Premature (store : Store) (bases : List TypeId) : Prop :=
  Inheritance.Premature store.hierarchy store.types (bases.map store.types.row)

/-- What a definition over bases in some order comes to. -/
structure LaysOut (before : Store) (bases order : List TypeId) (name : String) (base : ClassId)
    (layout : Layout) (outcome : Except Fault TypeId) (after : Store) : Prop where
  conflict : (exists names, outcome = .error (.layoutConflict name names)) ↔
    before.Unrelated bases ∨ before.Premature order
  superclass : forall type, outcome = .ok type ->
    after.hierarchy.superclass (after.types.row type).primary = some base
  layout : forall type, outcome = .ok type ->
    (after.hierarchy.row (after.types.row type).primary).layout = some layout

/-- Only a base that stands for an interface can be premature. -/
theorem not_premature (concrete : forall base, base ∈ bases ->
      store.hierarchy.isInterface (canonicalClass store.types (store.types.row base)) = false) :
    ¬ store.Premature bases := by
  rintro ⟨earlier, row, later, split, iface, -⟩
  have member : row ∈ bases.map store.types.row :=
    split ▸ List.mem_append_right _ List.mem_cons_self
  obtain ⟨base, given, rfl⟩ := List.mem_map.mp member
  cases (concrete base given).symm.trans iface

/-- Which slots are inherited does not depend on the order of bases. -/
theorem inherits_perm (permuted : order.Perm bases) {slot : String} :
    store.Inherits order slot ↔ store.Inherits bases slot := by
  simp [Inherits, permuted.mem_iff]

/-- Whether a dictionary is inherited does not depend on the order of bases. -/
theorem inheritsDict_perm (permuted : order.Perm bases) :
    store.InheritsDict order ↔ store.InheritsDict bases := by
  simp [InheritsDict, permuted.mem_iff]

/-- Which classes bases stand for does not depend on their order. -/
theorem mem_classes_perm (permuted : order.Perm bases) {cls : ClassId} :
    cls ∈ Inheritance.classes store.hierarchy store.types (order.map store.types.row) ↔
      cls ∈ Inheritance.classes store.hierarchy store.types (bases.map store.types.row) := by
  rw [Inheritance.mem_classes, Inheritance.mem_classes]
  exact and_congr_left' (((permuted.map _).map _).cons _).mem_iff

/-- Whether bases stand for unrelated classes does not depend on their order. -/
theorem unrelated_perm (permuted : order.Perm bases) :
    store.Unrelated order ↔ store.Unrelated bases := by
  simp only [Unrelated, mem_classes_perm permuted]

/-- What is drafted for the same bases in two orders has the same superclass and layout. -/
theorem drafted_perm (proper : store.hierarchy.Proper)
    (root : store.hierarchy.isInterface Builtin.object = false) (permuted : order.Perm bases)
    (drafts : drafted store.hierarchy store.types name bases declared dict = .ok spec)
    (also : drafted store.hierarchy store.types name order declared dict = .ok other) :
    other.base = spec.base ∧ other.layout = spec.layout := by
  obtain ⟨inheritance, -, added, -, -, -, base⟩ := of_drafted drafts
  obtain ⟨otherInheritance, -, alsoAdded, -, -, -, otherBase⟩ := of_drafted also
  obtain ⟨member, lowest⟩ := ofBases_lowest_class proper root added
  obtain ⟨otherMember, otherLowest⟩ := ofBases_lowest_class proper root alsoAdded
  have slots := (draftedAs drafts).slots
  have members : forall slot, slot ∈ other.layout.slots ↔ slot ∈ spec.layout.slots := by
    intro slot
    rw [(draftedAs also).slots, slots, inherits_perm permuted]
  have sameSlots : other.layout.slots = spec.layout.slots :=
    (draftedAs also).increasing.eq_of_mem_iff (draftedAs drafts).increasing members
  constructor
  · rw [base, otherBase]
    exact Hierarchy.eq_of_lineage (otherLowest _ ((mem_classes_perm permuted).mpr member))
      (lowest _ ((mem_classes_perm permuted).mp otherMember))
  · refine Layout.ext ?_ sameSlots
    rw [Bool.eq_iff_iff, (draftedAs also).dict, (draftedAs drafts).dict,
      inheritsDict_perm permuted, sameSlots]

/-- Nothing is drafted for a conflict exactly if two classes are unrelated or an interface comes too
early. -/
theorem drafted_conflict_iff (proper : store.hierarchy.Proper)
    (root : store.hierarchy.isInterface Builtin.object = false) :
    (exists names, drafted store.hierarchy store.types name bases declared dict =
      .error (.layoutConflict name names)) ↔ store.Unrelated bases ∨ store.Premature bases := by
  have none_iff : ofBases store.hierarchy store.types (bases.map store.types.row) = none ↔
      store.Unrelated bases ∨ store.Premature bases := ofBases_none_iff proper root
  rw [← none_iff]
  unfold drafted
  cases ofBases store.hierarchy store.types (bases.map store.types.row) with
  | none => simp
  | some inheritance => cases built : inheritance.specification name declared dict <;> simp [built]

/-- Whatever is drafted for the same bases, in any order, has one superclass and one layout. -/
theorem drafted_common (proper : store.hierarchy.Proper)
    (root : store.hierarchy.isInterface Builtin.object = false) (bases : List TypeId)
    (name : String)
    (declared : Option (List String)) (dict : Bool) :
    exists base layout, forall order spec, order.Perm bases ->
      drafted store.hierarchy store.types name order declared dict = .ok spec ->
        spec.base = base ∧ spec.layout = layout := by
  by_cases some_ : exists order spec, order.Perm bases ∧
      drafted store.hierarchy store.types name order declared dict = .ok spec
  · obtain ⟨first, spec, permuted, drafts⟩ := some_
    exact ⟨spec.base, spec.layout, fun order other also drafted =>
      drafted_perm proper root (also.trans permuted.symm) drafts drafted⟩
  · exact ⟨Builtin.object, default, fun order spec permuted drafts =>
      absurd ⟨order, spec, permuted, drafts⟩ some_⟩

/-- What a definition concludes with, by the specification that was drafted. -/
theorem laysOut_of_concludes {fails : Specification -> Prop} {outcome : Except Fault TypeId}
    {base : ClassId} {layout : Layout} (proper : before.hierarchy.Proper)
    (root : before.hierarchy.isInterface Builtin.object = false) (permuted : order.Perm bases)
    (same : forall spec,
      drafted before.hierarchy before.types name order declared dict = .ok spec ->
      spec.base = base ∧ spec.layout = layout)
    (concludes : Scene.Concludes (drafted before.hierarchy before.types name order declared dict)
      fails outcome after) :
    before.LaysOut bases order name base layout outcome after := by
  have conflict : (exists names, drafted before.hierarchy before.types name order declared dict =
      .error (.layoutConflict name names)) ↔ before.Unrelated bases ∨ before.Premature order := by
    rw [← unrelated_perm permuted]
    exact drafted_conflict_iff proper root
  cases concludes with
  | refused drafts =>
      refine ⟨?_, nofun, nofun⟩
      rw [← conflict, drafts]
      simp
  | failed drafts _ =>
      refine ⟨?_, nofun, nofun⟩
      rw [← conflict, drafts]
      simp
  | defined drafts made realises _ =>
      obtain ⟨rfl, rfl⟩ := same _ drafts
      refine ⟨?_, ?_, ?_⟩
      · rw [← conflict, drafts]
        simp
      · rintro _ ⟨⟩
        exact realises.base
      · rintro _ ⟨⟩
        exact realises.layout

end Store

/-- Bases in another order are other bases in that order, none for none. -/
theorem Factory.effectiveBases_perm (factory : Factory) {bases order : List TypeId}
    (permuted : order.Perm bases) :
    (factory.effectiveBases order).Perm (factory.effectiveBases bases) := by
  cases bases with
  | nil => rw [List.perm_nil.mp permuted]
  | cons base rest =>
      cases order with
      | nil => cases List.nil_perm.mp permuted
      | cons first others => exact permuted

/-- A definition may be asked for over the same bases in another order. -/
theorem Store.Offers.perm {store : Store} {factory : FactoryId} {bases order : List TypeId}
    (offers : store.Offers factory bases) (permuted : order.Perm bases) :
    store.Offers factory order where
  free := offers.free
  whole := fun base given => offers.whole base
    (((store.factory factory).effectiveBases_perm permuted).mem_iff.mp given)

namespace Machine

variable {σ : Type} {code : ClientCode σ} {machine : Machine (Clients σ)} {factory : FactoryId}
  {bases order : List TypeId} {base : ClassId} {layout : Layout}

/-- A definition over bases in some order comes to what the tables say, amid other threads. -/
theorem Reachable.delivers_laysOut (reachable : machine.Reachable code)
    (offers : machine.store.Offers factory order)
    (permuted : order.Perm bases) (name : String) (declared : Option (List String)) (dict : Bool)
    (thread : ThreadId)
    (same : forall spec, drafted machine.store.hierarchy machine.store.types name
        ((machine.store.factory factory).effectiveBases order) declared dict = .ok spec ->
      spec.base = base ∧ spec.layout = layout) :
    (factory.defineClass name order declared dict : Request (Clients σ) TypeId).run.Delivers thread
      (Stage.amid factory).around machine.store
      (machine.store.LaysOut ((machine.store.factory factory).effectiveBases bases)
        ((machine.store.factory factory).effectiveBases order) name base layout) := by
  refine (reachable.delivers_definition (fun _ => True) offers (fun _ _ spares => spares)
    (machine.store.fits_scene factory) fun spec begun drafts base fits => ?_).weaken ?_
  · obtain ⟨-, -, -, -, -, plain, -⟩ := of_drafted drafts
    exact (Scene.delivers_synthesize plain base fits).weaken fun _ _ _ _ => trivial
  · exact fun _ _ => Store.laysOut_of_concludes reachable.proper reachable.concrete_object
      (Factory.effectiveBases_perm _ permuted) same

/-- Whether a definition is refused for a conflict, the bases decide in their order. -/
theorem Reachable.delivers_conflict (reachable : machine.Reachable code)
    (offers : machine.store.Offers factory bases) (name : String) (declared : Option (List String))
    (dict : Bool) (thread : ThreadId) :
    (factory.defineClass name bases declared dict : Request (Clients σ) TypeId).run.Delivers thread
      (Stage.amid factory).around machine.store fun outcome _ =>
        (exists names, outcome = .error (.layoutConflict name names)) ↔
          ofBases machine.store.hierarchy machine.store.types
            (((machine.store.factory factory).effectiveBases bases).map machine.store.types.row) =
              none := by
  obtain ⟨base, layout, common⟩ := Store.drafted_common reachable.proper reachable.concrete_object
    ((machine.store.factory factory).effectiveBases bases) name declared dict
  apply (reachable.delivers_laysOut offers (.refl bases) name declared dict thread
    fun spec => common _ spec (.refl _)).weaken
  intro outcome after laysOut
  exact laysOut.conflict.trans (ofBases_none_iff reachable.proper reachable.concrete_object).symm

/-- Whatever the order of the bases, there is one superclass and one layout that a guest class over
them is given. The definition is refused for a layout conflict exactly if two classes are unrelated,
which does not depend on the order, or if a base that stands for an interface comes before each base
that stands for a class with that interface, whatever the other threads do that spares the
factory. -/
theorem order_of_bases (reachable : machine.Reachable code)
    (offers : machine.store.Offers factory bases) (name : String)
    (declared : Option (List String)) (dict : Bool) (thread : ThreadId) :
    exists base layout, forall order, order.Perm bases ->
      let request : Request (Clients σ) TypeId := factory.defineClass name order declared dict
      let effective := (machine.store.factory factory).effectiveBases
      let laysOut := machine.store.LaysOut (effective bases) (effective order) name base layout
      request.run.Delivers thread (Store.Spares factory) machine.store laysOut ∧
      forall next frames,
        machine.threads[thread.index]? = some (.running (request.run.bind next) frames) ->
          exists outcome later, laysOut outcome later.store ∧ later.host = machine.host ∧
            later.threads[thread.index]? = some (.running (next outcome) frames) ∧
              Machine.Steps code.host machine later := by
  let effective := (machine.store.factory factory).effectiveBases
  obtain ⟨base, layout, common⟩ := Store.drafted_common reachable.proper reachable.concrete_object
    (effective bases) name declared dict
  refine ⟨base, layout, fun order permuted => ?_⟩
  have delivers := reachable.delivers_laysOut (offers.perm permuted) permuted name declared dict
    thread fun spec => common (effective order) spec (Factory.effectiveBases_perm _ permuted)
  exact ⟨delivers, fun _ _ => delivers.steps reachable.guarded code.guarded_host
    (Store.spares_guards · · factory)⟩

/-- Host code with types over an interface and over a class with that interface, and with a guest
class over the latter. -/
def typingInterface : Client Unit (Except Fault Unit) :=
  .call (.makeFactory {}) fun _ =>
    .call (.declare { name := "Sized", kind := .interface }) fun _ =>
      .call (.declare { name := "Block", interfaces := [⟨10⟩] }) fun _ =>
        .call (.create ⟨0⟩ { name := "Sized", primary := ⟨10⟩ }) fun _ =>
          .call (.create ⟨0⟩ { name := "Block", primary := ⟨11⟩ }) fun _ =>
            .call (.defineClass ⟨0⟩ "Heap" [⟨3⟩] (some ["top"]) false) fun _ => .done (.ok ())

/-- Over the two types that stand for classes, there is no conflict in either order, and the guest
class has the same superclass and layout. -/
theorem order_of_bases_typingInterface :
    let machine := Machine.run ClientCode.quiet.host 112 (opening typingInterface ())
    exists base layout, forall order : List TypeId, order.Perm [⟨3⟩, ⟨4⟩] ->
      (FactoryId.defineClass ⟨0⟩ "Arena" order none false :
          Request (Clients Unit) TypeId).run.Delivers ⟨0⟩ (Store.Spares ⟨0⟩) machine.store
        fun outcome after => (forall names, outcome ≠ .error (.layoutConflict "Arena" names)) ∧
          forall type, outcome = .ok type ->
            after.hierarchy.superclass (after.types.row type).primary = some base ∧
              (after.hierarchy.row (after.types.row type).primary).layout = some layout := by
  intro machine
  have reachable : machine.Reachable ClientCode.quiet :=
    reachable_run ClientCode.quiet typingInterface () 112
  have free : (machine.store.factory ⟨0⟩).lock = .free := by decide +kernel
  have made : forall base : TypeId, base ∈ ([⟨3⟩, ⟨4⟩] : List TypeId) ->
      base.index < machine.store.types.types.size ∧
        (machine.store.types.row base).primary.index < machine.store.hierarchy.rows.size ∧
        (forall shared, shared ∈ (machine.store.types.row base).sharedRepresentation ->
          shared.index < machine.store.types.shared.size) ∧
        machine.store.hierarchy.isInterface
          (canonicalClass machine.store.types (machine.store.types.row base)) = false := by
    decide +kernel
  have some_ : (ofBases machine.store.hierarchy machine.store.types
      (([⟨3⟩, ⟨4⟩] : List TypeId).map machine.store.types.row)).isNone = false := by decide +kernel
  clear_value machine
  have offers : machine.store.Offers ⟨0⟩ [⟨3⟩, ⟨4⟩] := by
    refine ⟨free, fun base given => ?_⟩
    obtain ⟨type, primary, shared, -⟩ := made base given
    exact ⟨type, primary, shared⟩
  have related : ¬ machine.store.Unrelated [⟨3⟩, ⟨4⟩] := by
    intro unrelated
    rw [(ofBases_none_iff reachable.proper reachable.concrete_object).mpr (.inl unrelated)] at some_
    cases some_
  obtain ⟨base, layout, orders⟩ := order_of_bases reachable offers "Arena" none false ⟨0⟩
  refine ⟨base, layout, fun order permuted => (orders order permuted).1.weaken ?_⟩
  rintro outcome after laysOut
  refine ⟨fun names conflict => ?_, fun type made =>
    ⟨laysOut.superclass type made, laysOut.layout type made⟩⟩
  rcases laysOut.conflict.mp ⟨names, conflict⟩ with unrelated | premature
  · exact related unrelated
  · refine Store.not_premature (fun base given => (made base ?_).2.2.2) premature
    exact (((machine.store.factory ⟨0⟩).effectiveBases_perm permuted).mem_iff.mp given)

/-- Over the types that stand for the interface and for the class, the order decides whether there
is a conflict. -/
theorem order_matters_typingInterface :
    let machine := Machine.run ClientCode.quiet.host 112 (opening typingInterface ())
    let defines (order : List TypeId) (post : Except Fault TypeId -> Prop) : Prop :=
      (FactoryId.defineClass ⟨0⟩ "Arena" order none false :
        Request (Clients Unit) TypeId).run.Delivers ⟨0⟩ (Store.Spares ⟨0⟩) machine.store
          fun outcome _ => post outcome
    machine.Reachable ClientCode.quiet ∧ machine.store.Offers ⟨0⟩ [⟨2⟩, ⟨3⟩] ∧
      ([⟨3⟩, ⟨2⟩] : List TypeId).Perm [⟨2⟩, ⟨3⟩] ∧
      defines [⟨2⟩, ⟨3⟩] (fun outcome => exists names,
        outcome = .error (.layoutConflict "Arena" names)) ∧
      defines [⟨3⟩, ⟨2⟩] fun outcome => ¬ exists names,
        outcome = .error (.layoutConflict "Arena" names) := by
  intro machine defines
  have reachable : machine.Reachable ClientCode.quiet :=
    reachable_run ClientCode.quiet typingInterface () 112
  have free : (machine.store.factory ⟨0⟩).lock = .free := by decide +kernel
  have made : forall base : TypeId, base ∈ ([⟨2⟩, ⟨3⟩] : List TypeId) ->
      base.index < machine.store.types.types.size ∧
        (machine.store.types.row base).primary.index < machine.store.hierarchy.rows.size ∧
        (forall shared, shared ∈ (machine.store.types.row base).sharedRepresentation ->
          shared.index < machine.store.types.shared.size) := by
    decide +kernel
  have refused : (ofBases machine.store.hierarchy machine.store.types
      (([⟨2⟩, ⟨3⟩] : List TypeId).map machine.store.types.row)).isNone = true := by decide +kernel
  have taken : (ofBases machine.store.hierarchy machine.store.types
      (([⟨3⟩, ⟨2⟩] : List TypeId).map machine.store.types.row)).isNone = false := by decide +kernel
  clear_value machine
  have offers : machine.store.Offers ⟨0⟩ [⟨2⟩, ⟨3⟩] := by
    refine ⟨free, fun base given => ?_⟩
    obtain ⟨type, primary, shared⟩ := made base given
    exact ⟨type, primary, shared⟩
  have swap : ([⟨3⟩, ⟨2⟩] : List TypeId).Perm [⟨2⟩, ⟨3⟩] := .swap _ _ _
  refine ⟨reachable, offers, swap,
    (reachable.delivers_conflict offers "Arena" none false ⟨0⟩).weaken ?_,
    (reachable.delivers_conflict (offers.perm swap) "Arena" none false ⟨0⟩).weaken ?_⟩
  · intro outcome after conflict
    exact conflict.mpr (Option.isNone_iff_eq_none.mp refused)
  · intro outcome after conflict names
    cases taken.symm.trans (Option.isNone_iff_eq_none.mpr (conflict.mp names))

end Machine

end GuestTypes
