import GuestTypes.Proofs.FactoryRequests
import GuestTypes.Proofs.Synthesis

/-!
# Definitions of guest classes

A definition is the one request that acts for its call: it may synthesize a layout class, which
belongs to the call. What the thread owes the call is framed, so all that the definition does
under the factory's lock is taken from the other requests as it is. Once the layout class
exists, nothing more can be refused.
-/

namespace GuestTypes

open World

variable {σ α : Type} {thread : ThreadId} {factory : FactoryId} {again : Nat}
  {fresh : Option ClassId} {cls : ClassId} {number : Nat} {call : Call}
  {made : Option (FactoryId × ClassId)} {spec : Specification} {shape : Shape}
  {fails : Fault -> World -> Prop}

namespace World

variable {world before after : World}

/-- The thread is in a call, for which no class was made but the given one. -/
structure Owing (world : World) (thread : ThreadId) (number : Nat) (call : Call)
    (made : Option (FactoryId × ClassId)) : Prop extends Calling world thread number call where
  alone : forall factory cls, world.maker cls = some (factory, number) -> made = some (factory, cls)

/-- The call of a thread waits for its thread. -/
theorem Owing.left (owing : before.Owing thread number call made)
    (leaves : Leaves thread before after) : after.Owing thread number call made := by
  obtain ⟨asked, caller, kept⟩ := leaves number { call } owing.asked owing.caller rfl
  exact ⟨⟨asked, caller⟩, fun factory cls is => owing.alone factory cls (kept cls factory is)⟩

/-- No other thread takes the call over. -/
theorem lasting_owing : Lasting thread (Owing · thread number call made) :=
  fun _ _ _ different _ allowed owing => owing.left (allowed.moves.leaves different)

/-- Nor does what the thread does in other calls. -/
theorem frame_owing : (kernel (σ := σ)).Frame thread none
    fun now => now.world.Owing thread number call made where
  stable := lasting_owing.stable
  passes := fun _ passes owing => owing.left passes.leaves
  acts := by
    intro before after _ _ quiet owing
    refine ⟨⟨?_, ?_⟩, fun factory cls is => ?_⟩
    · rw [quiet.calls]
      exact owing.asked
    · rw [quiet.caller]
      exact owing.caller
    · exact owing.alone factory cls
        (quiet.maker cls factory number (Option.some_ne_none number).symm is)

end World

/-- A request without steps on behalf of a call leaves what the thread owes its call. -/
theorem Serves.owing {pre : World -> Prop} {request : Request (Clients σ) α}
    {post : α -> World -> Prop} (serves : Serves thread none pre request post fails) :
    Serves thread (some number) (fun world => pre world ∧ world.Owing thread number call made)
      request (fun answer world => post answer world ∧ world.Owing thread number call made)
      (fun fault world => fails fault world ∧ world.Owing thread number call made) :=
  Discipline.Meets.within (Discipline.Meets.framed serves frame_owing)

/-! ## Layout classes -/

/-- A factory that finds no class for a shape keeps none. -/
theorem Factory.layoutClass?_eq_none {factory : Factory}
    (none : factory.layoutClass? shape = none) :
    forall entry, entry ∈ factory.layouts -> entry.1 ≠ shape := by
  simpa [Factory.layoutClass?] using none

/-- A factory keeps the class that it finds for a shape. -/
theorem Factory.mem_layouts {factory : Factory} (kept : factory.layoutClass? shape = some cls) :
    (shape, cls) ∈ factory.layouts := by
  simp only [Factory.layoutClass?, Option.map_eq_some_iff] at kept
  obtain ⟨⟨named, class_⟩, found, rfl⟩ := kept
  obtain rfl : named = shape := by simpa using List.find?_some found
  exact List.mem_of_find?_eq_some found

/-- A class realises one shape. -/
theorem Hierarchy.Realises.unique {hierarchy : Hierarchy} {other : Shape}
    (realises : hierarchy.Realises cls shape) (also : hierarchy.Realises cls other) :
    shape = other := by
  obtain ⟨base, layout, interfaces⟩ := shape
  obtain ⟨base', layout', interfaces'⟩ := other
  obtain rfl : base = base' := Option.some.inj (realises.base.symm.trans also.base)
  obtain rfl : layout = layout' := Option.some.inj (realises.layout.symm.trans also.layout)
  obtain rfl : interfaces = interfaces' := realises.interfaces.trans also.interfaces.symm
  rfl

/-- The layout class of a plain specification adds no interface. -/
theorem Specification.Plain.interfaces_shape (plain : spec.Plain) : spec.shape.interfaces = [] := by
  show spec.interfaces.mergeSort _ = []
  rw [plain.interfaces]
  exact List.mergeSort_nil

/-- The class of a body that realises a plain specification. -/
theorem Hierarchy.realises_declare {hierarchy : Hierarchy} (plain : spec.Plain)
    (base : hierarchy.Declared spec.base) (name : String) :
    (hierarchy.declare (LoaderId.hostClass (ClassBody.realise name spec) spec.layout)).2.Realises
      ⟨hierarchy.rows.size⟩ spec.shape where
  base := by
    have below : spec.base.index < hierarchy.rows.size := base
    unfold superclass
    rw [row_declare, if_pos rfl]
    show Option.filter (·.index < hierarchy.rows.size) (some spec.base) = some spec.base
    exact Option.filter_eq_some_iff.mpr ⟨rfl, decide_eq_true below⟩
  layout := by
    rw [row_declare, if_pos rfl]
    rfl
  interfaces := plain.interfaces_shape

namespace World

variable {world before after : World}

/-- The holder of the lock is about to synthesize a class for a shape that has none. -/
structure Lacking (world : World) (thread : ThreadId) (factory : FactoryId) (shape : Shape) :
    Prop where
  ready : world.Ready thread factory 0 none
  base : world.Open shape.base
  lacking : (world.factory factory).layoutClass? shape = none

/-- No other thread makes a class for the shape meanwhile. -/
theorem lasting_lacking : Lasting thread (Lacking · thread factory shape) := by
  rintro mover before after different valid allowed ⟨ready, base, lacking⟩
  have spares := allowed.moves.spares different ready.working.complete ready.working.holds
  refine ⟨lasting_ready different valid allowed ready, spares.opens valid base, ?_⟩
  rw [spares.same]
  exact lacking

/-- The holder of the lock has synthesized a class for a shape, and not kept it yet. -/
structure Synthesized (world : World) (thread : ThreadId) (factory : FactoryId) (shape : Shape)
    (cls : ClassId) : Prop extends Lacking world thread factory shape where
  secret : world.Secret factory cls
  declared : world.hierarchy.Declared cls
  realises : world.hierarchy.Realises cls shape

/-- A class that was synthesized goes on to be that. -/
theorem lasting_synthesized : Lasting thread (Synthesized · thread factory shape cls) := by
  rintro mover before after different valid allowed ⟨lacking, secret, declared, realises⟩
  have spares := allowed.moves.spares different lacking.ready.working.complete
    lacking.ready.working.holds
  exact ⟨lasting_lacking different valid allowed lacking, spares.secret cls secret,
    spares.hierarchy.declared declared, realises.mono spares.hierarchy⟩

/-- The holder of the lock has a class for a shape, which may still have to be bound. -/
structure Kept (world : World) (thread : ThreadId) (factory : FactoryId) (shape : Shape)
    (cls : ClassId) (fresh : Option ClassId) : Prop where
  ready : world.Ready thread factory 0 fresh
  kept : (shape, cls) ∈ (world.factory factory).layouts
  secret : fresh = none ∨ fresh = some cls ∧ world.Secret factory cls

/-- A class that is kept goes on to be. -/
theorem lasting_kept : Lasting thread (Kept · thread factory shape cls fresh) := by
  rintro mover before after different valid allowed ⟨ready, kept, secret⟩
  have spares := allowed.moves.spares different ready.working.complete ready.working.holds
  refine ⟨lasting_ready different valid allowed ready, ?_,
    secret.imp_right fun last => ⟨last.1, spares.secret cls last.2⟩⟩
  rw [spares.same]
  exact kept

/-- What the declaration of a layout class achieves. -/
theorem Lacking.declare (lacking : world.Lacking thread factory spec.shape) (valid : world.Valid)
    (plain : spec.Plain) (lawful : spec.layout.Lawful) (owing : world.Owing thread number call none)
    (defines : call.definesWith factory = true) (name : String) :
    let row := LoaderId.hostClass (ClassBody.realise name spec) spec.layout
    let after := world.declaring row (some (factory, number))
    Allows thread world after ∧
      after.Synthesized thread factory spec.shape ⟨world.hierarchy.rows.size⟩ ∧
      after.Owing thread number call (some (factory, ⟨world.hierarchy.rows.size⟩)) := by
  intro row after
  obtain ⟨ready, base, unkept⟩ := lacking
  have working := ready.working
  have realised := Hierarchy.realises_declare plain base.1 name
  have dict : spec.layout.hasDict = spec.hasDict := plain.hasDict_layout
  have commissions : world.Commissions thread factory number :=
    ⟨working.complete.1, working.holds, owing.caller, _, owing.asked, defines, rfl⟩
  have allowed : Allows thread world after := by
    refine valid.declare base ?_ ?_ ?_ ?_
    · rintro layout ⟨⟩
      exact lawful
    · rintro maker call ⟨⟩
      exact commissions
    · refine fun _ => ⟨spec.base, spec.layout, ?_⟩
      rw [← plain.interfaces]
      exact Hierarchy.equips_declare (fun cls builtin => (valid.builtins cls builtin).1) base.1
        (fun iface member => by rw [plain.interfaces] at member; cases member) dict name
    · intro held holds entry member realises
      have same : held = factory := Decidable.byContradiction fun different =>
        working.alone held different holds
      subst same
      exact Factory.layoutClass?_eq_none unkept entry member (realises.unique realised)
  have spares : Spares thread factory world after := allowed.moves.toGrows.spares rfl rfl
  have unnamed : world.published factory ⟨world.hierarchy.rows.size⟩ = none := by
    cases bound : world.published factory ⟨world.hierarchy.rows.size⟩ with
    | none => rfl
    | some rep =>
        have declared := (valid.bound _ _ (Option.isSome_iff_exists.mpr ⟨rep, bound⟩)).1
        exact absurd declared (Nat.lt_irrefl _)
  refine ⟨allowed, ⟨⟨⟨working.spared valid spares, ready.empty⟩, spares.opens valid base, unkept⟩,
    ⟨unnamed, number, if_pos rfl⟩, world.hierarchy.declared_declare row, realised⟩,
    ⟨owing.asked, owing.caller⟩, ?_⟩
  intro maker cls is
  rcases maker_declaring is with ⟨rfl, ⟨⟩⟩ | was
  · rfl
  · cases owing.alone maker cls was

end World

namespace Serves

/-- The declaration of a layout class, on behalf of a call. -/
theorem commission (plain : spec.Plain) (lawful : spec.layout.Lawful)
    (defines : call.definesWith factory = true) (name : String) :
    Serves (σ := σ) thread (some number)
      (fun world => world.Lacking thread factory spec.shape ∧
        world.Owing thread number call none)
      (Request.perform (.declare (LoaderId.hostClass (ClassBody.realise name spec) spec.layout)))
      (fun cls world => world.Synthesized thread factory spec.shape cls ∧
        world.Owing thread number call (some (factory, cls))) fails := by
  refine Discipline.Meets.performWith (lasting_lacking.and lasting_owing).stable
    (fun cls => (lasting_synthesized.and lasting_owing).stable) ?_
  rintro now cls store valid ⟨lacking, owing⟩ performed
  obtain ⟨rfl, rfl⟩ := perform_declare performed
  have declared := lacking.declare valid plain lawful owing defines name
  let made := now.world.declaring (LoaderId.hostClass (ClassBody.realise name spec) spec.layout)
    (some (factory, number))
  refine ⟨{ now.ghost with maker := made.maker }, ⟨declared.1.valid, declared.1.moves⟩,
    ⟨rfl, rfl, ?_⟩, declared.2⟩
  intro cls maker other different is
  rcases maker_declaring is with ⟨-, ⟨⟩⟩ | was
  · exact absurd rfl different
  · exact was

/-- A synthesized class is kept for its shape. -/
theorem cacheLayout :
    Serves (σ := σ) thread none (Synthesized · thread factory shape cls)
      (factory.step (.cacheLayout shape cls))
      (fun _ world => world.Kept thread factory shape cls (some cls)) (fun _ _ => False) := by
  apply perform lasting_synthesized (fun _ => lasting_kept)
  rintro now answer store valid synthesized performed
  obtain ⟨changed, stepped, rfl⟩ := perform_factory performed
  cases stepped
  obtain ⟨⟨working, empty⟩, -, lacking⟩ := synthesized.toLacking
  obtain ⟨unbound, call, made⟩ := synthesized.secret
  rw [world_setFactory working.complete.1]
  have remakes : now.world.Remakes thread factory { now.world.factory factory with
      layouts := (now.world.factory factory).layouts ++ [(shape, cls)] } := {
    founded := working.complete.1
    registry := rfl
    root := rfl
    twin := rfl
    mine := fun _ different holds => different (Holds.unique working.holds holds)
    stillMine := fun _ _ held => by cases working.lock.symm.trans held; rfl
    kept := List.subset_append_left _ _
    shapes := by
      rw [List.map_append]
      refine List.nodup_append.mpr ⟨valid.shapes factory, List.nodup_singleton _, ?_⟩
      rintro old member last new rfl
      obtain ⟨entry, kept, rfl⟩ := List.mem_map.mp member
      exact Factory.layoutClass?_eq_none lacking entry kept (List.mem_singleton.mp new)
    layouts := by
      intro entry member
      rcases List.mem_append.mp member with old | new
      · exact .inl old
      · obtain rfl := List.mem_singleton.mp new
        exact .inr ⟨⟨call, made⟩, synthesized.realises⟩
    resting := fun free => nomatch working.lock.symm.trans free }
  refine ⟨valid.changeFactory remakes, ?_, ?_, .inr ⟨rfl, ?_, call, made⟩⟩
  · apply remakes.ready valid working.complete working.alone working.lock empty
    intro entry member
    rcases List.mem_append.mp member with old | new
    · exact (working.layouts entry old).imp_right nofun
    · exact .inr (congrArg some (congrArg Prod.snd (List.mem_singleton.mp new)).symm)
  · rw [factory_rework]
    exact List.mem_append_right _ (List.mem_singleton.mpr rfl)
  · unfold World.published
    rw [factory_rework]
    exact unbound

/-- A layout class is synthesized on behalf of a call. -/
theorem synthesizeLayout {synthesizer : SynthesizerId} (plain : spec.Plain)
    (defines : call.definesWith factory = true) :
    Serves (σ := σ) thread (some number)
      (fun world => world.Lacking thread factory spec.shape ∧
        world.Owing thread number call none)
      (synthesizer.synthesize spec)
      (fun cls world => world.Synthesized thread factory spec.shape cls ∧
        world.Owing thread number call (some (factory, cls)))
      (fun _ world => world.Lacking thread factory spec.shape ∧
        world.Owing thread number call none) := by
  apply synthesize (lasting_lacking.and lasting_owing)
  rintro name layout ⟨hierarchy, verified⟩
  obtain rfl := ClassBody.verify_realise plain verified
  exact commission plain (ClassBody.lawful_verify verified) defines name

/-- The class kept for the shape of a guest class, synthesized if there is none. -/
theorem layoutClass (plain : spec.Plain) (defines : call.definesWith factory = true) :
    Serves (σ := σ) thread (some number)
      (fun world => (world.Ready thread factory 0 none ∧ world.Open spec.base) ∧
        world.Owing thread number call none)
      (factory.layoutClass spec)
      (fun cls world => exists fresh : Option ClassId,
        world.Kept thread factory spec.shape cls fresh ∧
          world.Owing thread number call (fresh.map (factory, ·)))
      (fun _ world => world.Ready thread factory 0 none ∧
        world.Owing thread number call none) := by
  have idle : Lasting thread fun world =>
      (world.Ready thread factory 0 none ∧ world.Open spec.base) ∧
        world.Owing thread number call none :=
    (persistent_open spec.base).ready.and lasting_owing
  have answered : forall cls, Lasting thread fun world => exists fresh : Option ClassId,
      world.Kept thread factory spec.shape cls fresh ∧
        world.Owing thread number call (fresh.map (factory, ·)) :=
    fun cls => .exists fun fresh => lasting_kept.and lasting_owing
  refine via (fun kept? world => (world.Ready thread factory 0 none ∧
      (world.Open spec.base ∧ kept? = (world.factory factory).layoutClass? spec.shape)) ∧
        world.Owing thread number call none)
    ?_ fun kept? => ?_
  · refine observe idle (fun _ => (((persistent_open spec.base).steady.and
      (steady_factory fun current => _ = current.layoutClass? spec.shape)).ready).and
        lasting_owing) ?_
    exact fun now _ holds => ⟨⟨holds.1.1, holds.1.2, rfl⟩, holds.2⟩
  · cases kept? with
    | some cls =>
        apply pure (answered cls)
        rintro world - ⟨⟨ready, -, kept⟩, owing⟩
        exact ⟨none, ⟨ready, Factory.mem_layouts kept.symm, .inl rfl⟩, owing⟩
    | none =>
        refine (bind (glance (lasting_lacking.and lasting_owing)) fun synthesizer => ?_).given
          fun world _ holds => (⟨⟨holds.1.1, holds.1.2.1, holds.1.2.2.symm⟩, holds.2⟩ :
            world.Lacking thread factory spec.shape ∧ world.Owing thread number call none)
        refine bind ((synthesizeLayout plain defines).weaken (fun _ _ holds => holds)
          (fun _ _ _ holds => holds) fun _ _ _ failed => ⟨failed.1.ready, failed.2⟩) fun cls => ?_
        refine bind (cacheLayout.owing.weaken (fun _ _ holds => holds) (fun _ _ _ holds => holds)
          fun _ _ _ failed => failed.1.elim) fun _ => ?_
        exact pure (answered cls) fun world _ holds => ⟨some cls, holds⟩

end Serves

/-! ## Guest classes -/

/-- The root class, and all classes that types stand for as bases, have a property. -/
structure TypeTable.Candidates (types : TypeTable) (holds : ClassId -> Prop) : Prop where
  root : holds Builtin.object
  canonical : forall type, holds (Inheritance.canonicalClass types (types.row type))

namespace TypeTable.Candidates

variable {types : TypeTable} {holds other : ClassId -> Prop}

/-- Less may be known of all classes. -/
theorem imp (candidates : types.Candidates holds) (weaker : forall cls, holds cls -> other cls) :
    types.Candidates other :=
  ⟨weaker _ candidates.root, fun type => weaker _ (candidates.canonical type)⟩

/-- The class that bases come to is the root or stands for one of them. -/
theorem base (candidates : types.Candidates holds) {hierarchy : Hierarchy} {bases : List TypeId}
    {inheritance : Inheritance}
    (added : Inheritance.ofBases hierarchy types (bases.map types.row) = some inheritance) :
    holds inheritance.base :=
  Inheritance.satisfies_base candidates.root
    (List.forall_mem_map.mpr fun type _ => candidates.canonical type) added

end TypeTable.Candidates

namespace World

variable {world : World}

/-- What a type stands for as a base can be named by everybody. -/
theorem Valid.canonical (valid : world.Valid) (type : TypeId) :
    world.Open (Inheritance.canonicalClass world.types (world.types.row type)) := by
  have root : world.Open Builtin.object := valid.builtins Builtin.object (by decide)
  unfold Inheritance.canonicalClass
  cases kind : (world.types.row type).sharedRepresentation with
  | none => exact valid.primaries type kind
  | some shared =>
      dsimp only
      by_cases made : world.types.MadeShared shared
      · rw [(valid.shared shared made).2]
        cases chosen : world.hierarchy.superclass (world.types.sharedRow shared).hostClass with
        | none => exact root
        | some super => exact valid.superclasses _ super chosen
      · rw [valid.unshared shared made]
        exact root

/-- A type that a factory answered with for a guest class is defined. -/
theorem Valid.defined (valid : world.Valid) {record : CallRecord} {type : TypeId}
    (member : record ∈ world.calls) (answered : record.defined? factory = some type) :
    world.Defined factory type := by
  have served := valid.served record member
  unfold CallRecord.defined? at answered
  split at answered
  · split at answered
    · rename_i same
      cases answered
      subst same
      exact served
    · cases answered
  · cases answered

/-- The tables know every guest class that the history tells of. -/
theorem Valid.settles (valid : world.Valid) {record : CallRecord} {base : TypeId}
    (member : record ∈ world.calls) (answered : record.defined? factory = some base) :
    Settles world.hierarchy world.types base := by
  obtain ⟨-, made, ⟨shared, kind, -, madeShared, host⟩, -⟩ := valid.defined member answered
  refine ⟨made, ⟨shared, kind, madeShared, host⟩, ?_⟩
  rw [← host]
  exact (valid.shared shared madeShared).1

/-- A guest class that is a base stays what it was read as. -/
theorem Settles.mono {hierarchy later : Hierarchy} {types : TypeTable} {base : TypeId}
    (settles : Settles hierarchy types base) (extends_ : hierarchy.Extends later) :
    Settles later types base :=
  ⟨settles.made, settles.shares, extends_.declared settles.declared⟩

/-- Only what is answered tells of a guest class. -/
theorem answered_of_defined {record : CallRecord} {base : TypeId}
    (answered : record.defined? factory = some base) : record.answer.isSome := by
  unfold CallRecord.defined? at answered
  split at answered
  · rfl
  · cases answered

/-- Tables that are read in a call are good for it. -/
theorem Valid.readings (valid : world.Valid) (begun : number < world.calls.length) :
    world.Readings number world.hierarchy world.types where
  classes := .refl _
  rows := .refl _
  begun := begun
  known := fun record member _ _ answered =>
    valid.settles (valid.pasts number record member (answered_of_defined answered)) answered

/-- The types that were read are as good as new when the classes are read. -/
theorem persistent_readings (number : Nat) (types : TypeTable) :
    Persistent fun world => world.Readings number world.hierarchy types := by
  rintro before after - grows readings
  have later := grows.readings readings
  exact ⟨.refl _, later.rows, later.begun, fun record member factory base answered =>
    (later.known record member factory base answered).mono grows.hierarchy⟩

/-- Everybody may name the root class, and whatever class a type stands for as a base. -/
def OffersBases (world : World) (types : TypeTable) : Prop := types.Candidates world.Open

/-- Types stand for classes that everybody may name. -/
theorem Valid.offersBases (valid : world.Valid) : world.OffersBases world.types :=
  ⟨valid.builtins Builtin.object (by decide), valid.canonical⟩

/-- Such classes stay so. -/
theorem persistent_offersBases (types : TypeTable) : Persistent (OffersBases · types) :=
  fun _ _ valid grows offers => offers.imp fun _ opened => grows.opens valid opened

/-- Such classes have been declared. -/
theorem OffersBases.declared {types : TypeTable} (offers : world.OffersBases types) :
    types.Candidates world.hierarchy.Declared := offers.imp fun _ opened => opened.1

/-- The types and classes that were read are good for a specification. -/
structure Surveyed (world : World) (number : Nat) (types : TypeTable) (hierarchy : Hierarchy) :
    Prop where
  offers : world.OffersBases types
  declared : types.Candidates hierarchy.Declared
  readings : world.Readings number hierarchy types

/-- What was read of the bases stays good for the specification. -/
theorem persistent_surveyed (number : Nat) (types : TypeTable) (hierarchy : Hierarchy) :
    Persistent (Surveyed · number types hierarchy) :=
  fun _ _ valid grows surveyed => ⟨persistent_offersBases types valid grows surveyed.offers,
    surveyed.declared, grows.readings surveyed.readings⟩

/-- A specification stays what the bases add up to. -/
theorem persistent_drafts (number : Nat) (name : String) (bases : List TypeId)
    (slots : Option (List String)) (dict : Bool) (spec : Specification) :
    Persistent (Drafts · number name bases slots dict spec) :=
  fun _ _ _ grows drafts => grows.drafts drafts

end World

namespace Serves

/-- The specification for a guest class is plain, extends a class that everybody may name, and is
what the bases add up to. -/
theorem layoutSpecification {name : String} {bases : List TypeId} {slots : Option (List String)}
    {dict : Bool} {callNumber : Option Nat} {pre : World -> Prop} (lasting : Lasting thread pre)
    (begun : forall world, pre world -> number < world.calls.length) :
    Serves (σ := σ) thread callNumber pre (FactoryId.layoutSpecification name bases slots dict)
      (fun spec world => spec.Plain ∧ pre world ∧ world.Open spec.base ∧
        world.Drafts number name bases slots dict spec) (fun _ => pre) := by
  have read := fun types => (persistent_offersBases types).and (persistent_readings number types)
  have surveyed := fun types hierarchy =>
    lasting.and (persistent_surveyed number types hierarchy).lasting
  refine bind (observe lasting (fun types => lasting.and (read types).lasting)
      fun now valid holds =>
    ⟨holds, valid.offersBases, valid.readings (begun _ holds)⟩) fun types => ?_
  refine via (fun hierarchy world => pre world ∧ world.Surveyed number types hierarchy)
    (observe (lasting.and (read types).lasting) (surveyed types)
      fun now _ holds => ⟨holds.1, holds.2.1, holds.2.1.declared, holds.2.2⟩) fun hierarchy => ?_
  have refused : forall fault : Fault, Serves (σ := σ) thread callNumber
      (fun world => pre world ∧ world.Surveyed number types hierarchy) (MonadExcept.throw fault)
      (fun (spec : Specification) world => spec.Plain ∧ pre world ∧ world.Open spec.base ∧
        world.Drafts number name bases slots dict spec)
      (fun _ => pre) := fun fault => throw lasting fun _ _ holds => holds.1
  cases added : Inheritance.ofBases hierarchy types (bases.map types.row) with
  | none => exact refused _
  | some inheritance =>
      dsimp only
      cases built : inheritance.specification name slots dict with
      | error misuse => exact refused _
      | ok spec =>
          have kept := Inheritance.keeps_specification built
          refine pure ((Persistent.const _).lasting.and (lasting.and
            ((persistent_open spec.freeze.base).and (persistent_drafts _ _ _ _ _ _)).lasting)) ?_
          rintro world - ⟨holds, offers, declares, readings⟩
          refine ⟨Specification.plain_freeze kept.frozen kept.interfaces, holds, ?_,
            hierarchy, types, inheritance, spec, readings, added, declares.base added, built, rfl⟩
          show world.Open spec.base
          rw [kept.base]
          exact offers.base added

end Serves

namespace World

variable {world : World} {wanted : TypeDescription} {type : TypeId}

/-- A class that is kept for a shape suits a type that shares its representation. -/
theorem Kept.describes (kept : world.Kept thread factory shape cls fresh) (valid : world.Valid)
    (primary : wanted.primary = cls) (kind : wanted.isReplaceable = true)
    (adopted : wanted.adopted = []) : world.Describes factory wanted True where
  primary := by
    obtain ⟨owned, -⟩ := valid.layouts factory _ kept.kept
    exact primary ▸ .inr owned
  opened := fun other => nomatch kind.symm.trans other
  adopted := by
    rw [adopted]
    nofun
  assures := by
    intro _
    subst primary
    rcases kept.ready.working.layouts _ kept.kept with backed | last
    · exact .inl backed
    · rcases kept.secret with rfl | ⟨-, secret⟩
      · cases last
      · refine .inr ⟨secret, ?_⟩
        rw [kept.ready.empty]
        rfl

/-- The type was defined as a guest class, of the layout class given for a shape. -/
def DefinedAs (world : World) (factory : FactoryId) (type : TypeId) (shape : Shape)
    (cls : ClassId) : Prop :=
  world.Defined factory type ∧ (world.types.row type).primary = cls ∧
    (shape, cls) ∈ (world.factory factory).layouts

/-- A type stays defined as a guest class. -/
theorem persistent_definedAs (factory : FactoryId) (type : TypeId) (shape : Shape)
    (cls : ClassId) : Persistent (DefinedAs · factory type shape cls) := by
  rintro before after - grows ⟨defined, primary, kept⟩
  exact ⟨grows.defined defined, by rw [grows.types.row type defined.made]; exact primary,
    grows.layouts factory defined.founded kept⟩

/-- A type that shares the published representation of a kept class is defined. -/
theorem Backs.definedAs (backs : world.Backs factory type cls)
    (kept : (shape, cls) ∈ (world.factory factory).layouts) :
    world.DefinedAs factory type shape cls := by
  obtain ⟨shared, ⟨row, shares⟩, founded, bound⟩ := backs
  refine ⟨⟨founded, row.made, ⟨shared, row.kind, ?_, shares.made, ?_⟩, shape, ?_⟩, row.primary,
    kept⟩
  · rw [row.primary]
    exact bound
  · rw [row.primary]
    exact shares.host
  · rw [row.primary]
    exact kept

/-- A layout class that is bound is backed. -/
theorem Backs.backed (backs : world.Backs factory type cls) : world.Backed factory cls := by
  obtain ⟨shared, ⟨-, shares⟩, -, bound⟩ := backs
  exact ⟨shared, bound, shares.made, shares.host⟩

/-- The class is kept by a factory that exists. -/
def Listed (world : World) (factory : FactoryId) (shape : Shape) (cls : ClassId) : Prop :=
  factory.index < world.factoryCount ∧ (shape, cls) ∈ (world.factory factory).layouts

/-- A class that a factory keeps it goes on to keep. -/
theorem persistent_listed (factory : FactoryId) (shape : Shape) (cls : ClassId) :
    Persistent (Listed · factory shape cls) :=
  fun _ _ _ grows listed => ⟨Nat.lt_of_lt_of_le listed.1 grows.factories,
    grows.layouts factory listed.1 listed.2⟩

/-- The last layout class that was still to be bound is bound. -/
theorem Ready.settle (ready : world.Ready thread factory again fresh)
    (last : fresh = none ∨ fresh = some cls) (backed : world.Backed factory cls) :
    world.Ready thread factory again none := by
  obtain ⟨working, empty⟩ := ready
  refine ⟨{ working with layouts := fun entry member => ?_ }, empty⟩
  rcases working.layouts entry member with was | still
  · exact .inl was
  · rcases last with none | some
    · cases none.symm.trans still
    · cases some.symm.trans still
      exact .inl backed

end World

/-- The description of the type of a guest class, once its layout class is known. -/
def FactoryId.guestDescription (name : String) (bases : List TypeId) (primary : ClassId) :
    TypeDescription where
  name
  primary
  bases
  features := TypeFlags.replaceable.union (TypeFlags.baseType.union .instantiable)

/-- Guest classes share the representation of their layout class. -/
theorem FactoryId.isReplaceable_guest (name : String) (bases : List TypeId) (primary : ClassId) :
    (guestDescription name bases primary).isReplaceable = true := by
  show (TypeFlags.replaceable.union
    (TypeFlags.baseType.union .instantiable)).contains .replaceable = true
  decide

namespace Serves

variable {name : String} {bases : List TypeId}

/-- The type of a guest class is created with its layout class; this is never refused. -/
theorem createKept :
    Serves (σ := σ) thread none (Kept · thread factory shape cls fresh)
      (factory.create (FactoryId.guestDescription name bases cls))
      (fun type world => world.Ready thread factory 0 none ∧
        world.DefinedAs factory type shape cls)
      (fun _ _ => False) := by
  have kind := FactoryId.isReplaceable_guest name bases cls
  have kept : Persistent fun world => world.Listed factory shape cls ∧
      (fresh = none ∨ fresh = some cls) :=
    (persistent_listed factory shape cls).and (Persistent.const _)
  refine ((createAgain 0 fresh ⟨rfl, kind, rfl⟩).keeping kept).weaken ?_ ?_
    fun _ _ _ failed => failed.1
  · intro world valid kept
    exact ⟨⟨kept.ready, kept.describes valid rfl kind rfl⟩,
      ⟨kept.ready.working.complete.1, kept.kept⟩, kept.secret.imp_right And.left⟩
  · rintro type world - ⟨⟨ready, backs⟩, listed, last⟩
    exact ⟨ready.settle last backs.backed, backs.definedAs listed.2⟩

/-- What a definition does under the lock. -/
theorem defineInside (plain : spec.Plain) (defines : call.definesWith factory = true) :
    Serves (σ := σ) thread (some number)
      (fun world => (world.Ready thread factory 0 none ∧ world.Open spec.base) ∧
        world.Owing thread number call none)
      (do factory.create (FactoryId.guestDescription name bases (<- factory.layoutClass spec)))
      (fun type world => exists owned : ClassId × Option ClassId,
        (world.Ready thread factory 0 none ∧ world.DefinedAs factory type spec.shape owned.1 ∧
          (owned.2 = none ∨ owned.2 = some owned.1)) ∧
          world.Owing thread number call (owned.2.map (factory, ·)))
      (fun _ world => world.Ready thread factory 0 none ∧
        world.Owing thread number call none) := by
  refine bind (layoutClass plain defines) fun cls => choose fun fresh => ?_
  refine (assume fun (last : fresh = none ∨ fresh = some cls) => ?_).given
    fun world _ holds => ⟨holds.1.secret.imp_right And.left, holds⟩
  refine createKept.owing.weaken (fun _ _ holds => holds) ?_ fun _ _ _ failed => failed.1.elim
  exact fun type world _ holds => ⟨(cls, fresh), ⟨holds.1.1, holds.1.2, last⟩, holds.2⟩

/-- The lock is taken for a definition, and given back whatever comes of it. -/
theorem defineLocked (plain : spec.Plain) (defines : call.definesWith factory = true) :
    Serves (σ := σ) thread (some number)
      (fun world => ((world.Idle thread ∧ world.Complete factory) ∧ world.Open spec.base) ∧
        world.Owing thread number call none)
      (factory.locked do
        factory.create (FactoryId.guestDescription name bases (<- factory.layoutClass spec)))
      (fun type world => exists owned : ClassId × Option ClassId,
        (world.Idle thread ∧ world.DefinedAs factory type spec.shape owned.1 ∧
          (owned.2 = none ∨ owned.2 = some owned.1)) ∧
          world.Owing thread number call (owned.2.map (factory, ·)))
      (fun _ world => world.Idle thread ∧ world.Owing thread number call none) := by
  refine bind ((acquire (persistent_open spec.base)).owing.weaken
    (fun _ _ holds => ⟨⟨holds.1.1.1, holds.1.1.2, holds.1.2⟩, holds.2⟩) (fun _ _ _ holds => holds)
    fun _ _ _ (failed : False ∧ _) => failed.1.elim) fun _ => ?_
  refine bind (defineInside plain defines).attempt fun outcome => ?_
  cases outcome with
  | ok type =>
      refine choose fun owned => ?_
      have defined : forall owned : ClassId × Option ClassId, Persistent fun world =>
          world.DefinedAs factory type spec.shape owned.1 ∧
            (owned.2 = none ∨ owned.2 = some owned.1) := fun owned =>
        (persistent_definedAs factory type spec.shape owned.1).and (Persistent.const _)
      refine bind ((release (defined owned)).owing.weaken (fun _ _ holds => holds)
        (fun _ _ _ holds => holds) fun _ _ _ (failed : False ∧ _) => failed.1.elim) fun _ => ?_
      exact pure (.exists fun owned => (lasting_idle.and (defined owned).lasting).and lasting_owing)
        fun world _ holds => ⟨owned, holds⟩
  | error fault =>
      refine bind ((release (Persistent.const True)).owing.weaken
        (fun _ _ holds => ⟨⟨holds.1, trivial⟩, holds.2⟩)
        (fun _ _ _ holds => holds) fun _ _ _ (failed : False ∧ _) => failed.1.elim) fun _ => ?_
      exact throw (lasting_idle.and lasting_owing) fun _ _ holds => ⟨holds.1.1, holds.2⟩

/-- A guest class is defined from its bases, and the call owns at most its layout class. -/
theorem defineClass {slots : Option (List String)} {dict : Bool}
    (defines : call.definesWith factory = true) :
    Serves (σ := σ) thread (some number)
      (fun world => (world.Idle thread ∧ world.Complete factory) ∧
        world.Owing thread number call none)
      (factory.defineClass name bases slots dict)
      (fun type world => exists (spec : Specification) (owned : ClassId × Option ClassId),
        ((world.Idle thread ∧ world.DefinedAs factory type spec.shape owned.1 ∧
          (owned.2 = none ∨ owned.2 = some owned.1)) ∧
          world.Owing thread number call (owned.2.map (factory, ·))) ∧
        exists root,
          world.Drafts number name (if bases.isEmpty then [root] else bases) slots dict spec)
      (fun _ world => world.Idle thread ∧ world.Owing thread number call none) := by
  have idle : Lasting thread fun world => (world.Idle thread ∧ world.Complete factory) ∧
      world.Owing thread number call none :=
    (lasting_idle.and (persistent_complete factory).lasting).and lasting_owing
  have begun : forall world : World, (world.Idle thread ∧ world.Complete factory) ∧
      world.Owing thread number call none -> number < world.calls.length :=
    fun world holds => (List.getElem?_eq_some_iff.mp holds.2.asked).1
  refine bind (glance idle) fun root => ?_
  refine bind ((layoutSpecification idle begun).weaken (fun _ _ holds => holds)
    (fun _ _ _ holds => holds) fun _ _ _ failed => ⟨failed.1.1, failed.2⟩) fun spec => ?_
  refine assume fun plain => ?_
  -- What the specification was drafted from is remembered throughout.
  have drafted : Persistent fun world => exists root,
      world.Drafts number name (if bases.isEmpty then [root] else bases) slots dict spec :=
    fun _ _ _ grows ⟨root, drafts⟩ => ⟨root, grows.drafts drafts⟩
  refine ((defineLocked plain defines).keeping drafted).weaken
    (fun _ _ holds => ⟨⟨⟨holds.1.1, holds.2.1⟩, holds.1.2⟩, root, holds.2.2⟩) ?_
    fun _ _ _ failed => failed.1
  exact fun type world _ ⟨⟨owned, holds⟩, drafts⟩ => ⟨spec, owned, holds, drafts⟩

end Serves

end GuestTypes
