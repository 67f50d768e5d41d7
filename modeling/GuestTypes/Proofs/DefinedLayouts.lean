import GuestTypes.Proofs.DefinitionOutcome
import GuestTypes.Proofs.LayoutGrowth

/-!
# The layouts of guest classes

What a definition comes to is decided by what its bases stand for and pass on, by the slots that
it declares, and by the wish for a dictionary: whether it is refused and why, the host class that
the new type's class extends, the slots of its layout and whether that has a dictionary.
-/

namespace GuestTypes

open Inheritance

/-! ## What bases pass on -/

namespace Store

variable {store : Store} {bases : List TypeId} {slot : String}

/-- The host classes that bases stand for, and the root class. -/
def candidates (store : Store) (bases : List TypeId) : List ClassId :=
  Inheritance.candidates store.types (bases.map store.types.row)

/-- One of the bases passes on a slot. -/
def Inherits (store : Store) (bases : List TypeId) (slot : String) : Prop :=
  exists base, base ∈ bases ∧ Passes store.hierarchy (store.types.row base) slot

/-- One of the bases passes on a dictionary. -/
def InheritsDict (store : Store) (bases : List TypeId) : Prop :=
  exists base, base ∈ bases ∧ PassesDict store.hierarchy (store.types.row base)

/-- Two of the classes that the bases stand for are unrelated. -/
def Conflicts (store : Store) (bases : List TypeId) : Prop :=
  exists one other, one ∈ store.candidates bases ∧ other ∈ store.candidates bases ∧
    ¬ store.hierarchy.Related one other

/-- The class is below all that the bases stand for. -/
def MostDerived (store : Store) (bases : List TypeId) (cls : ClassId) : Prop :=
  cls ∈ store.candidates bases ∧ forall other, other ∈ store.candidates bases ->
    store.hierarchy.isSubclassOf cls other = true

/-- A slot is declared twice that the bases do not pass on. -/
def Repeats (store : Store) (bases : List TypeId) (declared : Option (List String)) : Prop :=
  exists slot, 2 ≤ (declared.getD []).count slot ∧ ¬ store.Inherits bases slot

/-- A slot that is inherited or declared has the name of a hidden field. -/
def Reserved (store : Store) (bases : List TypeId) (declared : Option (List String)) : Prop :=
  exists slot, (slot = ClassBody.typeField ∨ slot = ClassBody.dictField) ∧
    (store.Inherits bases slot ∨ slot ∈ declared.getD [])

/-- What was drafted for bases, in the words of what they stand for and pass on. -/
structure DraftedAs (store : Store) (bases : List TypeId) (declared : Option (List String))
    (dict : Bool) (spec : Specification) : Prop where
  base : spec.base ∈ store.candidates bases
  increasing : spec.layout.slots.Pairwise (· < ·)
  slots : forall slot, slot ∈ spec.layout.slots ↔
    store.Inherits bases slot ∨ slot ∈ declared.getD []
  dict : spec.layout.hasDict = true ↔ dict = true ∨ declared = none ∨ store.InheritsDict bases ∨
    spec.layout.slots = []

variable {name : String} {declared : Option (List String)} {dict : Bool} {spec : Specification}

/-- The candidates are the root class and the classes that bases stand for. -/
theorem mem_candidates {cls : ClassId} : cls ∈ store.candidates bases ↔ cls = Builtin.object ∨
    exists base, base ∈ bases ∧ canonicalClass store.types (store.types.row base) = cls := by
  simp [Store.candidates, Inheritance.candidates]

/-- Inheriting from rows is inheriting from the types. -/
theorem inherits_iff : (exists row, row ∈ bases.map store.types.row ∧
    Passes store.hierarchy row slot) ↔ store.Inherits bases slot := by
  simp [Inherits]

/-- Rows of bases pass a dictionary on just if bases do. -/
theorem inheritsDict_iff : (exists row, row ∈ bases.map store.types.row ∧
    PassesDict store.hierarchy row) ↔ store.InheritsDict bases := by
  simp [InheritsDict]

/-- A specification that was drafted is what the bases stand for and pass on. -/
theorem draftedAs (drafts :
    drafted store.hierarchy store.types name bases declared dict = .ok spec) :
    store.DraftedAs bases declared dict spec := by
  obtain ⟨inheritance, draft, added, built, rfl, -, base⟩ := of_drafted drafts
  obtain ⟨passed, distinct, dictionary⟩ := ofBases_passes added
  obtain ⟨increasing, slots, has⟩ := layout_specification distinct built
  have layout : draft.freeze.layout = draft.layout := rfl
  rw [inheritsDict_iff] at dictionary
  refine ⟨?_, increasing, fun slot => ?_, ?_⟩
  · rw [base]
    exact satisfies_base (mem_candidates.mpr (.inl rfl)) (List.forall_mem_map.mpr fun type given =>
      mem_candidates.mpr (.inr ⟨type, given, rfl⟩)) added
  · rw [layout, slots, passed, inherits_iff]
  · rw [layout, has, dictionary]
    exact or_congr_right or_left_comm

end Store

/-! ## Dictionaries -/

/-- A type has a dictionary exactly if one was asked for, if it declares no slots, if one of its
bases passes one on, or if it has no slots at all. -/
def Store.EquipsBy (before : Store) (bases : List TypeId) (declared : Option (List String))
    (dict : Bool) (type : TypeId) (after : Store) : Prop :=
  exists layout, (after.hierarchy.row (after.types.row type).primary).layout = some layout ∧
    (layout.hasDict = true ↔ dict = true ∨ declared = none ∨ before.InheritsDict bases ∨
      layout.slots = [])

namespace Machine

variable {σ : Type} {code : ClientCode σ} {machine : Machine (Clients σ)} {factory : FactoryId}
  {bases : List TypeId}

/-- Every guest class that a definition answers with has a dictionary exactly if one was asked for,
if no slots were declared, if one of the bases that share their class has one, or if there is no
slot at all, whatever the other threads do that spares the factory. -/
theorem dictionary_exact (reachable : machine.Reachable code)
    (offers : machine.store.Offers factory bases) (name : String)
    (declared : Option (List String)) (dict : Bool) (thread : ThreadId) :
    let request : Request (Clients σ) TypeId := factory.defineClass name bases declared dict
    let effective := (machine.store.factory factory).effectiveBases bases
    let equips (outcome : Except Fault TypeId) (after : Store) : Prop :=
      forall type, outcome = .ok type ->
        machine.store.EquipsBy effective declared dict type after
    request.run.Delivers thread (Store.Spares factory) machine.store equips ∧
    forall next frames,
      machine.threads[thread.index]? = some (.running (request.run.bind next) frames) ->
        exists outcome later, equips outcome later.store ∧ later.host = machine.host ∧
          later.threads[thread.index]? = some (.running (next outcome) frames) ∧
            Machine.Steps code.host machine later := by
  intro request effective equips
  have delivers : request.run.Delivers thread (Stage.amid factory).around machine.store equips := by
    refine (reachable.delivers_definition (fun _ => True) offers (fun _ _ spares => spares)
      (machine.store.fits_scene factory) fun spec begun drafts base fits => ?_).weaken ?_
    · obtain ⟨-, -, -, -, -, plain, -⟩ := of_drafted drafts
      exact (Scene.delivers_synthesize plain base fits).weaken fun _ _ _ _ => trivial
    · rintro _ after concluded type rfl
      cases concluded with
      | defined drafts made realises unreserved =>
          exact ⟨_, realises.layout, (Store.draftedAs drafts).dict⟩
  exact ⟨delivers, fun _ _ => delivers.steps reachable.guarded code.guarded_host
    (Store.spares_guards · · factory)⟩

/-- Host code that shares a class: a guest class is to have a slot and a dictionary, and a type with
the same host class is made directly. Another guest class declares no slots. -/
def sharingDirectly : Client Unit (Except Fault Unit) :=
  .call (.makeFactory {}) fun _ =>
    .call (.defineClass ⟨0⟩ "Bare" [] (some []) false) fun _ =>
      .call (.defineClass ⟨0⟩ "Wide" [] (some ["x"]) true) fun _ =>
        .call (.create ⟨0⟩
            { name := "Sharing", primary := ⟨11⟩, features := .replaceable }) fun _ =>
          .call (.defineClass ⟨0⟩ "Narrow" [⟨4⟩] (some ["x"]) false) fun _ => .done (.ok ())

/-- What is defined over the type that was made directly gets a dictionary like that of its
class. -/
theorem dictionary_exact_sharingDirectly :
    let machine := Machine.run ClientCode.quiet.host 128 (opening sharingDirectly ())
    (FactoryId.defineClass ⟨0⟩ "Narrow" [⟨4⟩] (some ["x"]) false :
        Request (Clients Unit) TypeId).run.Delivers ⟨0⟩ (Store.Spares ⟨0⟩) machine.store
      fun outcome after => forall type, outcome = .ok type ->
        exists layout, (after.hierarchy.row (after.types.row type).primary).layout = some layout ∧
          layout.hasDict = true := by
  intro machine
  have reachable : machine.Reachable ClientCode.quiet :=
    reachable_run ClientCode.quiet sharingDirectly () 128
  have base : (machine.store.factory ⟨0⟩).lock = .free ∧ 4 < machine.store.types.types.size ∧
      (machine.store.types.row ⟨4⟩).primary.index < machine.store.hierarchy.rows.size ∧
        (machine.store.types.row ⟨4⟩).sharedRepresentation = some ⟨1⟩ ∧
          1 < machine.store.types.shared.size := by decide +kernel
  have passes : layout? machine.store.hierarchy (machine.store.types.row ⟨4⟩) =
      some { hasDict := true, slots := ["x"] } := by decide +kernel
  clear_value machine
  obtain ⟨free, made, primary, shared, sharedMade⟩ := base
  have offers : machine.store.Offers ⟨0⟩ [⟨4⟩] := by
    refine ⟨free, fun base given => ?_⟩
    obtain rfl := List.mem_singleton.mp given
    refine ⟨made, primary, fun other also => ?_⟩
    cases shared.symm.trans also
    exact sharedMade
  have inherits : machine.store.InheritsDict [⟨4⟩] := ⟨⟨4⟩, List.mem_cons_self, _, passes, rfl⟩
  apply (dictionary_exact reachable offers "Narrow" (some ["x"]) false ⟨0⟩).1.weaken
  intro outcome after equips type answer
  obtain ⟨layout, found, has⟩ := equips type answer
  exact ⟨layout, found, has.mpr (.inr (.inr (.inl inherits)))⟩

/-- No dictionary was asked for, slots are declared, if only an empty list of them, and there are no
bases, but there is a dictionary. Nor need it be inherited from a guest class. -/
theorem dictionary_unasked :
    let machine := Machine.run ClientCode.quiet.host 152 (opening sharingDirectly ())
    let layout (type : TypeId) :=
      (machine.store.hierarchy.row (machine.store.types.row type).primary).layout
    (machine.host.calls[1]?.bind (·.definition?) =
        some
          { name := "Bare", bases := [], declared := some [], dict := false, outcome := .ok ⟨2⟩ } ∧
      layout ⟨2⟩ = some { hasDict := true, slots := [] }) ∧
    machine.host.calls[4]?.bind (·.definition?) =
        some { name := "Narrow", bases := [⟨4⟩], declared := some ["x"], dict := false
               outcome := .ok ⟨5⟩ } ∧
      layout ⟨5⟩ = some { hasDict := true, slots := ["x"] } ∧
        ⟨4⟩ ∉ machine.definedTypes ⟨0⟩ := by
  intro machine layout
  decide +kernel

end Machine

/-! ## Refusals and slots -/

namespace Store

variable {store before middle after : Store} {bases : List TypeId} {name : String}
  {declared : Option (List String)} {dict : Bool} {spec : Specification}

/-- The class of the new type extends the most derived class that the bases stand for, and its
slots, in order, are those that the bases pass on and those declared. -/
structure DefinesOver (before : Store) (bases : List TypeId) (declared : Option (List String))
    (type : TypeId) (after : Store) : Prop where
  base : exists base, after.hierarchy.superclass (after.types.row type).primary = some base ∧
    before.MostDerived bases base
  slots : exists layout, (after.hierarchy.row (after.types.row type).primary).layout = some layout ∧
    layout.slots.Pairwise (· < ·) ∧
      forall slot, slot ∈ layout.slots ↔ before.Inherits bases slot ∨ slot ∈ declared.getD []

/-- What a definition comes to, condition by condition: each holds only where no earlier one
does. -/
structure Determines (before : Store) (bases : List TypeId) (name : String)
    (declared : Option (List String)) (outcome : Except Fault TypeId) (after : Store) : Prop where
  conflict : (exists names, outcome = .error (.layoutConflict name names)) ↔ before.Conflicts bases
  repeated : ¬ before.Conflicts bases ->
    ((exists slot, outcome = .error (.misuse (.repeated name .addSlot slot))) ↔
      before.Repeats bases declared)
  reserved : ¬ before.Conflicts bases -> ¬ before.Repeats bases declared ->
    ((exists cause, outcome = .error (.internal cause)) ↔ before.Reserved bases declared)
  defined : ¬ before.Conflicts bases -> ¬ before.Repeats bases declared ->
    ¬ before.Reserved bases declared ->
      exists type, outcome = .ok type ∧ before.DefinesOver bases declared type after

/-- What may be drafted, each under its condition. -/
inductive Drafts (store : Store) (bases : List TypeId) (name : String)
    (declared : Option (List String)) (dict : Bool) : Except Fault Specification -> Prop where
  | conflict {names : List String} (conflicts : store.Conflicts bases) :
      Drafts store bases name declared dict (.error (.layoutConflict name names))
  | repeated {slot : String} (related : ¬ store.Conflicts bases)
      (repeats : store.Repeats bases declared) :
      Drafts store bases name declared dict (.error (.misuse (.repeated name .addSlot slot)))
  | drafted {spec : Specification} (related : ¬ store.Conflicts bases)
      (distinct : ¬ store.Repeats bases declared) (base : store.MostDerived bases spec.base)
      (drafts : store.DraftedAs bases declared dict spec) :
      Drafts store bases name declared dict (.ok spec)

/-- Over bases without interfaces, a draft has the conditions that are listed. -/
theorem drafts_drafted (concrete : forall cls, cls ∈ store.candidates bases ->
      store.hierarchy.isInterface cls = false) :
    store.Drafts bases name declared dict
      (drafted store.hierarchy store.types name bases declared dict) := by
  have conflicts : ofBases store.hierarchy store.types (bases.map store.types.row) = none ↔
      store.Conflicts bases := ofBases_eq_none_iff concrete
  have lowest := ofBases_lowest concrete
  cases added : ofBases store.hierarchy store.types (bases.map store.types.row) with
  | none =>
      simp only [drafted, added]
      exact .conflict (conflicts.mp added)
  | some inheritance =>
      have related : ¬ store.Conflicts bases := by
        rw [← conflicts, added]
        nofun
      rw [added] at lowest
      obtain ⟨passed, distinct, -⟩ := ofBases_passes added
      have repeats : store.Repeats bases declared ↔ ¬ (inheritance.own declared).Nodup := by
        rw [nodup_own_iff, not_not]
        simp only [Repeats, passed, inherits_iff]
      by_cases once : (inheritance.own declared).Nodup
      · obtain ⟨spec, built⟩ :
            exists spec, inheritance.specification name declared dict = .ok spec :=
          (specification_isOk_iff distinct).mpr once
        have draft : drafted store.hierarchy store.types name bases declared dict =
            .ok spec.freeze := by simp [drafted, added, built]
        have base : spec.freeze.base = inheritance.base := (keeps_specification built).base
        rw [draft]
        refine .drafted related (repeats.not.mpr (not_not.mpr once)) ?_ (draftedAs draft)
        rw [base]
        refine ⟨lowest.1, fun other member => ?_⟩
        exact (Hierarchy.isSubclassOf_iff (concrete other member)).mpr (lowest.2 other member)
      · obtain ⟨slot, -, refused⟩ : exists slot, _ ∧
            inheritance.specification name declared dict = .error (.repeated name .addSlot slot) :=
          specification_error distinct once
        simp only [drafted, added, refused]
        exact .repeated related (repeats.mpr once)

/-- What a definition comes to is decided by its conditions, if a synthesis fails only for a
reserved name. -/
theorem Determines.of_concludes {outcome : Except Fault TypeId}
    (concrete : forall cls, cls ∈ before.candidates bases ->
      before.hierarchy.isInterface cls = false)
    (concludes : Scene.Concludes (drafted before.hierarchy before.types name bases declared dict)
      (fun _ => before.Reserved bases declared) outcome after) :
    before.Determines bases name declared outcome after := by
  have drafts : before.Drafts bases name declared dict _ := drafts_drafted concrete
  generalize drafted before.hierarchy before.types name bases declared dict = draft
    at concludes drafts
  cases drafts with
  | conflict conflicts =>
      cases concludes with
      | refused drafts =>
          cases drafts
          exact ⟨⟨fun _ => conflicts, fun _ => ⟨_, rfl⟩⟩, fun not => absurd conflicts not,
            fun not => absurd conflicts not, fun not => absurd conflicts not⟩
      | failed drafts => cases drafts
      | defined drafts => cases drafts
  | repeated related repeats =>
      cases concludes with
      | refused drafts =>
          cases drafts
          exact ⟨⟨nofun, fun is => absurd is related⟩, fun _ =>
            ⟨fun _ => repeats, fun _ => ⟨_, rfl⟩⟩,
            fun _ not => absurd repeats not, fun _ not => absurd repeats not⟩
      | failed drafts => cases drafts
      | defined drafts => cases drafts
  | drafted related distinct base asDrafted =>
      cases concludes with
      | refused drafts => cases drafts
      | failed drafts because =>
          exact ⟨⟨nofun, fun is => absurd is related⟩, fun _ =>
            ⟨nofun, fun is => absurd is distinct⟩,
            fun _ _ => ⟨fun _ => because, fun _ => ⟨_, rfl⟩⟩, fun _ _ not => absurd because not⟩
      | defined drafts made realises unreserved =>
          cases drafts
          refine ⟨⟨nofun, fun is => absurd is related⟩,
            fun _ => ⟨nofun, fun is => absurd is distinct⟩, fun _ _ => ⟨nofun, ?_⟩,
            fun _ _ _ => ⟨_, rfl, ⟨_, realises.base, base⟩,
              _, realises.layout, asDrafted.increasing, asDrafted.slots⟩⟩
          rintro ⟨slot, named, has⟩
          rw [← asDrafted.slots] at has
          rcases named with rfl | rfl
          · exact absurd has unreserved.1
          · exact absurd has unreserved.2

/-! ## Definitions amid other threads -/

/-- What may happen before and after a moment may happen around it. -/
theorem Reserves.trans {synthesizer : SynthesizerId} (first : before.Reserves synthesizer middle)
    (second : middle.Reserves synthesizer after) : before.Reserves synthesizer after where
  hierarchy := first.hierarchy.trans second.hierarchy
  synthesizer := second.synthesizer.trans first.synthesizer
  loader := by
    have same := second.loader
    rw [first.synthesizer] at same
    exact same.trans first.loader

end Store

/-- Amid other threads, which leave the factory alone and a synthesizer with its loader. -/
def Stage.reserving (id : FactoryId) (synthesizer : SynthesizerId) (start : Store) : Stage id where
  around before after := Store.Spares id before after ∧ before.Reserves synthesizer after
  fits scene now := scene.Fits id now ∧ start.Reserves synthesizer now
  finds before after := before.Extends after
  shows fits := fits.1
  found fits := fits.1.types
  spared fits around := ⟨fits.1.spared around.1, fits.2.trans around.2⟩
  advances := by
    rintro scene now next after ⟨fits, reserved⟩ advances
    refine ⟨fits.advances advances, ?_⟩
    cases advances with
    | apart | factory | types | registry =>
        exact ⟨reserved.hierarchy, reserved.synthesizer, reserved.loader⟩

namespace Machine

variable {σ : Type} {code : ClientCode σ} {machine : Machine (Clients σ)} {factory : FactoryId}
  {bases : List TypeId} {name : String} {declared : Option (List String)} {dict : Bool}
  {spec : Specification}

/-- A class that was drafted is synthesized unless a slot has a reserved name, if there is no
dumping and the name that is next is free. -/
theorem Reachable.synthesize_reserved {begun : Store} {id : SynthesizerId} {thread : ThreadId}
    (reachable : machine.Reachable code)
    (concrete : forall cls, cls ∈ machine.store.candidates bases ->
      machine.store.hierarchy.isInterface cls = false)
    (drafts :
      drafted machine.store.hierarchy machine.store.types name bases declared dict = .ok spec)
    (declared_ : machine.store.hierarchy.Declared spec.base)
    (reserves : machine.store.Reserves id begun)
    (silent : (machine.store.synthesizer id).dumpDirectory = none)
    (unused : forall base, machine.store.MostDerived bases base ->
      (machine.store.synthesizer id).nextName (machine.store.hierarchy.simpleName base) ∉
        (machine.store.loader (machine.store.synthesizer id).loader).defined) :
    (id.synthesize spec : Request (Clients σ) ClassId).run.Delivers thread (Store.Reserves id) begun
      fun outcome _ => outcome.isOk = false -> machine.store.Reserved bases declared := by
  have decided : machine.store.Drafts bases name declared dict
      (drafted machine.store.hierarchy machine.store.types name bases declared dict) :=
    Store.drafts_drafted concrete
  rw [drafts] at decided
  obtain _ | _ | ⟨-, -, derived, asDrafted⟩ := decided
  obtain ⟨inheritance, draft, added, built, rfl, plain, base⟩ := of_drafted drafts
  obtain ⟨-, distinct, -⟩ := ofBases_passes added
  have sound : draft.freeze.Sound begun.hierarchy := by
    have known : draft.Sound machine.store.hierarchy := by
      refine sound_specification distinct ?_ built
      rw [← base]
      exact declared_
    exact known.freeze.mono reserves.hierarchy
  have quiet : (begun.synthesizer id).dumpDirectory = none := by
    rw [reserves.synthesizer]
    exact silent
  have synthesizes : (id.synthesize draft.freeze : Request (Clients σ) ClassId).run.Delivers thread
      (Store.Reserves id) begun _ :=
    SynthesizerId.synthesize_sound sound rfl (reachable.builtins.trans reserves.hierarchy) quiet
      thread
  apply synthesizes.weaken
  rintro outcome after ⟨loads, -⟩ failed
  by_contra free
  have spared : forall slot, slot ∈ draft.freeze.slots ->
      slot ≠ ClassBody.typeField ∧ slot ≠ ClassBody.dictField := by
    intro slot has
    have has := (asDrafted.slots slot).mp has
    exact ⟨fun same => free ⟨slot, .inl same, has⟩, fun same => free ⟨slot, .inr same, has⟩⟩
  have row : begun.hierarchy.row draft.freeze.base =
    machine.store.hierarchy.row draft.freeze.base :=
    reserves.hierarchy.row _ declared_
  rw [loads.mpr ⟨?_, ?_, ?_, ?_⟩] at failed
  · cases failed
  · rw [Hierarchy.isInterface, row]
    exact concrete _ derived.1
  · exact fun has => (spared _ has).1 rfl
  · exact fun has => (spared _ has).2 rfl
  · rw [reserves.synthesizer, reserves.loader, Hierarchy.simpleName, row]
    exact unused _ derived

/-- A definition over bases that stand for classes is refused for a layout conflict exactly if two
of these classes and the root class are unrelated. Otherwise it is refused for a repeated slot
exactly if a slot is declared twice that the bases do not pass on. Otherwise the kernel faults
exactly if an inherited or declared slot has a reserved name. Otherwise there is a new type, whose
class extends the most derived of the classes and has the inherited and the declared slots in
order. This is so whatever the other threads do that spares the factory, its synthesizer and the
loader, if nothing is to be dumped and the name of the next class is free. -/
theorem definition_decided (reachable : machine.Reachable code)
    (offers : machine.store.Offers factory bases)
    (classes : forall base, base ∈ (machine.store.factory factory).effectiveBases bases ->
      machine.store.hierarchy.isInterface
        (canonicalClass machine.store.types (machine.store.types.row base)) = false)
    (silent : (machine.store.factorySynthesizer factory).dumpDirectory = none)
    (unused : forall base,
      machine.store.MostDerived ((machine.store.factory factory).effectiveBases bases) base ->
        (machine.store.factorySynthesizer factory).nextName
          (machine.store.hierarchy.simpleName base) ∉
            (machine.store.loader (machine.store.factorySynthesizer factory).loader).defined)
    (name : String) (declared : Option (List String)) (dict : Bool) (thread : ThreadId) :
    let request : Request (Clients σ) TypeId := factory.defineClass name bases declared dict
    let effective := (machine.store.factory factory).effectiveBases bases
    let synthesizer := (machine.store.factory factory).synthesizer
    (request.run.Delivers thread
      (fun before after => Store.Spares factory before after ∧ before.Reserves synthesizer after)
        machine.store (machine.store.Determines effective name declared)) ∧
    forall next frames,
      machine.threads[thread.index]? = some (.running (request.run.bind next) frames) ->
        exists outcome later, machine.store.Determines effective name declared outcome later.store ∧
          later.host = machine.host ∧
            later.threads[thread.index]? = some (.running (next outcome) frames) ∧
              Machine.Steps code.host machine later := by
  intro request effective synthesizer
  have concrete : forall cls, cls ∈ machine.store.candidates effective ->
      machine.store.hierarchy.isInterface cls = false := by
    intro cls candidate
    rcases Store.mem_candidates.mp candidate with rfl | ⟨base, member, rfl⟩
    · exact reachable.concrete_object
    · exact classes base member
  let stage : Stage factory := .reserving factory synthesizer machine.store
  have delivers : request.run.Delivers thread stage.around machine.store
      (machine.store.Determines effective name declared) := by
    have concludes : request.run.Delivers thread stage.around machine.store _ :=
      reachable.delivers_definition (fun _ => machine.store.Reserved effective declared) offers
        (fun _ _ around => around.1) ⟨machine.store.fits_scene factory, .refl _, rfl, rfl⟩
        fun spec begun drafts base fits =>
          (reachable.synthesize_reserved concrete drafts base fits.2 silent unused).narrow
            fun _ _ around => around.2
    exact concludes.weaken fun _ _ => .of_concludes concrete
  exact ⟨delivers, fun next frames => delivers.steps reachable.guarded code.guarded_host
    fun store guards => ⟨store.spares_guards guards factory, .refl _, rfl, rfl⟩⟩

/-- Host code with a type over a class of its own. -/
def typingOwn (superclass : ClassId) : Client Unit (Except Fault Unit) :=
  .call (.makeFactory {}) fun _ =>
    .call (.declare { name := "Own", superclass := some superclass }) fun _ =>
      .call (.create ⟨0⟩ { name := "Base", primary := ⟨10⟩ }) fun _ =>
        .call (.defineClass ⟨0⟩ "Derived" [⟨2⟩] (some ["y", "x"]) false) fun _ => .done (.ok ())

/-- The guest class over that type has the slots that were declared, and its class is below that of
the type. -/
theorem definition_decided_typingOwn :
    let machine := Machine.run ClientCode.quiet.host 38 (opening (typingOwn Builtin.object) ())
    (FactoryId.defineClass ⟨0⟩ "Derived" [⟨2⟩] (some ["y", "x"]) false :
        Request (Clients Unit) TypeId).run.Delivers ⟨0⟩
      (fun before after => Store.Spares ⟨0⟩ before after ∧ before.Reserves ⟨0⟩ after) machine.store
      fun outcome after => exists type, outcome = .ok type ∧
        machine.store.DefinesOver [⟨2⟩] (some ["y", "x"]) type after := by
  intro machine
  have reachable : machine.Reachable ClientCode.quiet :=
    reachable_run ClientCode.quiet (typingOwn Builtin.object) () 38
  have base : ((machine.store.factory ⟨0⟩).lock = .free ∧
        (machine.store.factory ⟨0⟩).synthesizer = ⟨0⟩ ∧
      (machine.store.factorySynthesizer ⟨0⟩).dumpDirectory = none ∧
        (machine.store.loader (machine.store.factorySynthesizer ⟨0⟩).loader).defined = []) ∧
      (2 < machine.store.types.types.size ∧ 10 < machine.store.hierarchy.rows.size) ∧
      ((machine.store.types.row ⟨2⟩).sharedRepresentation = none ∧
        (machine.store.types.row ⟨2⟩).primary = ⟨10⟩ ∧
          layout? machine.store.hierarchy (machine.store.types.row ⟨2⟩) = none) ∧
      machine.store.hierarchy.isInterface ⟨10⟩ = false ∧
        machine.store.hierarchy.isSubclassOf Builtin.object Builtin.object = true ∧
          machine.store.hierarchy.isSubclassOf ⟨10⟩ ⟨10⟩ = true ∧
            machine.store.hierarchy.isSubclassOf ⟨10⟩ Builtin.object = true := by decide +kernel
  clear_value machine
  obtain ⟨⟨free, wired, silent, unused⟩, made, ⟨unshared, primary, bare⟩, concrete, rooted⟩ := base
  have canonical : canonicalClass machine.store.types (machine.store.types.row ⟨2⟩) = ⟨10⟩ := by
    rw [canonicalClass, unshared, primary]
  have offers : machine.store.Offers ⟨0⟩ [⟨2⟩] := by
    refine ⟨free, fun base given => ?_⟩
    obtain rfl := List.mem_singleton.mp given
    exact ⟨made.1, primary ▸ made.2, by simp [unshared]⟩
  have inherits : forall slot, ¬ machine.store.Inherits [⟨2⟩] slot := by
    rintro slot ⟨base, given, layout, passed, -⟩
    obtain rfl := List.mem_singleton.mp given
    cases bare.symm.trans passed
  have candidates : machine.store.candidates [⟨2⟩] = [Builtin.object, ⟨10⟩] := by
    simp [Store.candidates, Inheritance.candidates, canonical]
  have delivers := (definition_decided reachable offers
    (fun base given => by
      obtain rfl := List.mem_singleton.mp given
      rw [canonical]
      exact concrete)
    silent (fun _ _ => by simp [unused]) "Derived" (some ["y", "x"]) false ⟨0⟩).1
  have effective : (machine.store.factory ⟨0⟩).effectiveBases [⟨2⟩] = [⟨2⟩] := rfl
  rw [wired, effective] at delivers
  apply delivers.weaken
  rintro outcome after determined
  refine determined.defined ?_ ?_ ?_
  · rintro ⟨one, other, here, there, apart⟩
    rw [candidates] at here there
    simp only [List.mem_cons, List.not_mem_nil, or_false] at here there
    rcases here with rfl | rfl <;> rcases there with rfl | rfl <;>
      simp [Hierarchy.Related, rooted] at apart
  · rintro ⟨slot, twice, -⟩
    have twice : 2 ≤ ["y", "x"].count slot := twice
    have once : ["y", "x"].count slot ≤ 1 := List.nodup_iff_count_le_one.mp (by decide) slot
    omega
  · rintro ⟨slot, named, has⟩
    rcases has with passed | given
    · exact inherits slot passed
    · rcases named with rfl | rfl <;> revert given <;> decide

/-- One class alone is in conflict. -/
theorem unrooted_conflict :
    let client := typingOwn Builtin.withClassAssignment
    let before := Machine.run ClientCode.quiet.host 38 (opening client ())
    let after := Machine.run ClientCode.quiet.host 5 before
    let base := before.store.types.row ⟨2⟩
    (canonicalClass before.store.types base = ⟨10⟩ ∧
      before.store.hierarchy.isInterface ⟨10⟩ = false ∧
      before.store.hierarchy.isSubclassOf ⟨10⟩ ⟨10⟩ = true ∧
        (before.store.factorySynthesizer ⟨0⟩).dumpDirectory = none ∧
        (before.store.loader (before.store.factorySynthesizer ⟨0⟩).loader).defined = []) ∧
    after.host.calls[3]?.bind (·.definition?) = some
      { name := "Derived", bases := [⟨2⟩], declared := some ["y", "x"], dict := false
        outcome := .error (.layoutConflict "Derived" ["Base"]) } := by
  intro client before after base
  decide +kernel

end Machine

end GuestTypes
