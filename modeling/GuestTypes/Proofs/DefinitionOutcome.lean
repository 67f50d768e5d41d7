import GuestTypes.Proofs.Definition
import GuestTypes.Proofs.InheritedLayouts
import GuestTypes.Proofs.Joining

/-!
# What a definition comes to

A factory at rest that is asked for a guest class works out a specification from the tables that
it reads, and then has one of three outcomes. Without a specification it refuses; so it does if no
class can be synthesized for a shape that it keeps none for, and then it is at rest again as it
was. Otherwise a new type joins the class that is kept for the shape, which may have been
synthesized just before. `Scene.delivers_define` says this for any stage and leaves open what else
is known of a synthesis that fails.
-/

namespace GuestTypes

/-- The bases that a definition takes in: without any, the root type. -/
def Factory.effectiveBases (factory : Factory) (bases : List TypeId) : List TypeId :=
  if bases.isEmpty then [factory.objectType] else bases

/-- What was asked to be defined, and the answer. -/
structure Definition where
  name : String
  bases : List TypeId
  declared : Option (List String)
  dict : Bool
  outcome : Except Fault TypeId
  deriving DecidableEq

/-- The definition that a call was, once it is answered. -/
def CallRecord.definition? : CallRecord -> Option Definition
  | ⟨.defineClass _ name bases declared dict, some outcome⟩ =>
      some { name, bases, declared, dict, outcome }
  | _ => none

/-- The frozen specification of the layout class for a guest class, or why there is none. -/
def Inheritance.drafted (hierarchy : Hierarchy) (types : TypeTable) (name : String)
    (bases : List TypeId) (declared : Option (List String)) (dict : Bool) :
    Except Fault Specification :=
  match ofBases hierarchy types (bases.map types.row) with
  | none => .error (.layoutConflict name (bases.map types.name))
  | some inheritance =>
      match inheritance.specification name declared dict with
      | .error misuse => .error (.misuse misuse)
      | .ok spec => .ok spec.freeze

/-- A specification that was drafted is plain, and its base is the root class or what one of the
bases stands for. -/
theorem Inheritance.of_drafted {hierarchy : Hierarchy} {types : TypeTable} {name : String}
    {bases : List TypeId} {declared : Option (List String)} {dict : Bool} {spec : Specification}
    (drafts : drafted hierarchy types name bases declared dict = .ok spec) :
    exists inheritance draft, ofBases hierarchy types (bases.map types.row) = some inheritance ∧
      inheritance.specification name declared dict = .ok draft ∧ spec = draft.freeze ∧
        spec.Plain ∧ spec.base = inheritance.base := by
  unfold drafted at drafts
  cases added : ofBases hierarchy types (bases.map types.row) with
  | none => simp [added] at drafts
  | some inheritance =>
      cases built : inheritance.specification name declared dict with
      | error misuse => simp [added, built] at drafts
      | ok draft =>
          obtain rfl : draft.freeze = spec := by simpa [added, built] using drafts
          have kept := keeps_specification built
          exact ⟨inheritance, draft, rfl, built, rfl,
            Specification.plain_freeze kept.frozen kept.interfaces, kept.base⟩

/-- It is declared, if the root class is and all that the bases stand for. -/
theorem Inheritance.declared_drafted {hierarchy : Hierarchy} {types : TypeTable} {name : String}
    {bases : List TypeId} {declared : Option (List String)} {dict : Bool} {spec : Specification}
    (drafts : drafted hierarchy types name bases declared dict = .ok spec)
    (root : hierarchy.Declared Builtin.object)
    (canonical : forall type, hierarchy.Declared (canonicalClass types (types.row type))) :
    spec.Plain ∧ hierarchy.Declared spec.base := by
  obtain ⟨inheritance, draft, added, -, -, plain, base⟩ := of_drafted drafts
  refine ⟨plain, ?_⟩
  rw [base]
  exact satisfies_base root (List.forall_mem_map.mpr fun type _ => canonical type) added

/-- A class was synthesized for a specification that was not there before. -/
structure Hierarchy.Gains (before : Hierarchy) (spec : Specification) (cls : ClassId)
    (after : Hierarchy) : Prop where
  extends_ : before.Extends after
  fresh : ¬ before.Declared cls
  declared : after.Declared cls
  realises : after.Realises cls spec.shape
  unreserved : spec.layout.Unreserved

/-! ## Reading the tables -/

/-- The tables are read, and what they give is the answer. -/
theorem FactoryId.layoutSpecification_eq {σ : Type} (name : String) (bases : List TypeId)
    (declared : Option (List String)) (dict : Bool) :
    (layoutSpecification name bases declared dict : Request σ Specification) = (do
      let types <- Request.observe (fun store => store.types)
      let hierarchy <- Request.observe (fun store => store.hierarchy)
      Request.ofExcept (Inheritance.drafted hierarchy types name bases declared dict)) := by
  unfold layoutSpecification
  congr 1
  funext types
  congr 1
  funext hierarchy
  unfold Inheritance.drafted
  cases Inheritance.ofBases hierarchy types (bases.map types.row) with
  | none => rfl
  | some inheritance =>
      dsimp only
      cases inheritance.specification name declared dict <;> rfl

namespace Scene

variable {σ : Type} {thread : ThreadId} {id : FactoryId} {stage : Stage id} {scene : Scene}
  {name : String} {bases : List TypeId} {declared : Option (List String)} {dict : Bool}
  {spec : Specification}

/-- The specification is drafted by the types that are read first and the classes that are read
next. -/
theorem AttainsOn.layoutSpecification {leads : Except Fault Specification -> Scene -> Prop}
    (reads : forall first second, stage.fits scene first -> stage.fits scene second ->
      leads (Inheritance.drafted second.hierarchy first.types name bases declared dict) scene) :
    scene.AttainsOn (σ := σ) stage thread
      (FactoryId.layoutSpecification name bases declared dict) leads := by
  rw [FactoryId.layoutSpecification_eq]
  apply bind
  apply observe
  intro first fits
  apply bind
  apply observe
  intro second further
  exact ofExcept (reads first second fits further)

/-! ## Synthesis amid other threads -/

/-- What synthesizing a class leads to: a class more, or a fault of the kernel and nothing. -/
def SynthesisLeads (scene : Scene) (spec : Specification) :
    Except Fault ClassId -> Scene -> Prop
  | .ok cls, next => scene.hierarchy.Gains spec cls next.hierarchy ∧
      next = { scene with hierarchy := next.hierarchy }
  | .error fault, next => (exists cause, fault = .internal cause) ∧ next = scene

/-- A scene fits what differs in synthesizers, loaders, files and objects. -/
theorem Fits.apart {now after : Store} (fits : scene.Fits id now)
    (factories : after.factories = now.factories) (registries : after.registries = now.registries)
    (hierarchy : after.hierarchy = now.hierarchy) (types : after.types = now.types) :
    scene.Fits id after where
  factory := by
    rw [← fits.factory]
    exact congrArg (·.get id.index) factories
  bound := by
    rw [← fits.bound]
    unfold Store.bound Store.registry Store.factory
    rw [factories, registries]
  hierarchy := hierarchy ▸ fits.hierarchy
  types := types ▸ fits.types

/-- An action that has nothing to do with factories, registries, classes and types. -/
theorem AttainsOn.apart {α : Type} {action : Action α} {leads : Except Fault α -> Scene -> Prop}
    (performs : forall now : Store, exists answer after,
      action.perform thread now = some (answer, after) ∧ after.factories = now.factories ∧
        after.registries = now.registries ∧ after.hierarchy = now.hierarchy ∧
          after.types = now.types)
    (ends : forall answer, leads (.ok answer) scene) :
    scene.Attains (σ := σ) thread id (Request.perform action) leads := by
  intro now fits later spares
  have fits := fits.spared spares
  obtain ⟨answer, after, performed, factories, registries, hierarchy, types⟩ := performs later
  exact ⟨answer, after, performed, scene, ends answer,
    fits.apart factories registries hierarchy types⟩

/-- The listing is written, or it is not. -/
theorem AttainsOn.writeListing {directory : String} {body : ClassBody}
    {leads : Except Fault Unit -> Scene -> Prop}
    (refused : forall cause, leads (.error (.internal cause)) scene)
    (ends : leads (.ok ()) scene) :
    scene.Attains (σ := σ) thread id (SynthesizerId.writeListing directory body) leads := by
  apply bind
  refine apart (fun now => ⟨_, _, rfl, rfl, rfl, rfl, rfl⟩) ?_
  rintro (problem | ⟨⟩)
  · exact throw (refused _)
  · apply bind
    apply observe
    intro now fits
    apply bind
    refine apart (fun now => ⟨_, _, rfl, rfl, rfl, rfl, rfl⟩) ?_
    rintro (problem | ⟨⟩)
    · exact throw (refused _)
    · exact pure ends

/-- The loader refuses a body, or it declares a class that realises the specification. -/
theorem AttainsOn.define {loader : LoaderId} (plain : spec.Plain)
    (base : scene.hierarchy.Declared spec.base) :
    scene.Attains (σ := σ) thread id (loader.define (ClassBody.realise name spec))
      (scene.SynthesisLeads spec) := by
  apply bind
  apply observe
  intro seen fits
  cases verified : (ClassBody.realise name spec).verify seen.hierarchy with
  | error defect => exact throw ⟨⟨_, rfl⟩, rfl⟩
  | ok layout =>
      obtain rfl := ClassBody.verify_realise plain verified
      apply bind
      refine apart (fun now => ⟨_, _, rfl, rfl, rfl, rfl, rfl⟩) fun free => ?_
      cases free with
      | false => exact throw ⟨⟨_, rfl⟩, rfl⟩
      | true =>
          intro now fits later spares
          have fits := fits.spared spares
          let row := LoaderId.hostClass (ClassBody.realise name spec) spec.layout
          refine ⟨_, _, rfl, { scene with hierarchy := (later.hierarchy.declare row).2 },
            ⟨⟨?_, ?_, ?_, ?_, ?_⟩, rfl⟩, ⟨fits.factory, fits.bound, .refl _, fits.types⟩⟩
          · exact fits.hierarchy.trans (Hierarchy.extends_declare _ _)
          · exact fun was => Nat.lt_irrefl _ (fits.hierarchy.declared was)
          · exact later.hierarchy.declared_declare row
          · exact Hierarchy.realises_declare plain (fits.hierarchy.declared base) name
          · exact ClassBody.unreserved_verify verified

/-- Amid other threads a class is synthesized, or the kernel faults and nothing more happens. -/
theorem AttainsOn.synthesize {synthesizer : SynthesizerId} (plain : spec.Plain)
    (base : scene.hierarchy.Declared spec.base) :
    scene.Attains (σ := σ) thread id (synthesizer.synthesize spec) (scene.SynthesisLeads spec) := by
  have frozen : spec.isFrozen = true := by
    unfold Specification.isFrozen
    rw [plain.frozen]
    rfl
  unfold SynthesizerId.synthesize
  rw [frozen]
  apply bind
  apply observe
  intro naming _
  apply bind
  apply bind
  refine apart (fun now => ⟨_, _, rfl, rfl, rfl, rfl, rfl⟩) fun number => ?_
  apply observe
  intro issued _
  apply bind
  apply observe
  intro qualifying _
  apply bind
  apply record
  apply bind
  apply observe
  intro dumping _
  have defines : forall name, scene.Attains (σ := σ) thread id (do
      (<- synthesizer.view (·.loader)).define (ClassBody.realise name spec))
      (scene.SynthesisLeads spec) := by
    intro name
    apply bind
    apply observe
    intro loading _
    exact define plain base
  dsimp only
  cases (dumping.synthesizer synthesizer).dumpDirectory with
  | none => exact defines _
  | some directory =>
      apply bind
      refine writeListing (fun cause => ⟨⟨cause, rfl⟩, rfl⟩) ?_
      exact defines _

/-- The same of a store that shows the scene. -/
theorem delivers_synthesize {synthesizer : SynthesizerId} {now : Store} (plain : spec.Plain)
    (base : scene.hierarchy.Declared spec.base) (fits : scene.Fits id now) :
    (synthesizer.synthesize spec : Request σ ClassId).run.Delivers thread (Store.Spares id) now
      fun outcome after => exists next, scene.SynthesisLeads spec outcome next ∧
        next.Fits id after :=
  AttainsOn.synthesize plain base now fits

end Scene

/-! ## Under the lock -/

/-- The store once a thread has given back the lock of a factory. -/
def Store.released (store : Store) (id : FactoryId) (thread : ThreadId) : Store :=
  { store with
    factories := store.factories.set id.index
      { store.factory id with lock := (store.factory id).lock.release thread } }

namespace Scene

variable {σ : Type} {thread : ThreadId} {id : FactoryId} {stage : Stage id} {scene next : Scene}
  {now begun : Store} {cls : ClassId} {type : TypeId} {spec : Specification}

/-- The scene while a thread holds the lock. -/
def under (scene : Scene) (thread : ThreadId) : Scene :=
  { scene with factory := { scene.factory with lock := .held thread 0 } }

/-- The scene with a class kept for one more shape. -/
def keeping (scene : Scene) (shape : Shape) (cls : ClassId) : Scene :=
  { scene with
    factory := { scene.factory with layouts := scene.factory.layouts ++ [(shape, cls)] } }

/-- A class is kept as it should be for a shape: it realises the shape, in which no slot is named
like a hidden field, and it is bound to a shared representation of its own. -/
structure Keeps (scene : Scene) (shape : Shape) (cls : ClassId) : Prop where
  realises : scene.hierarchy.Realises cls shape
  unreserved : shape.layout.Unreserved
  backed : exists shared, scene.bound cls = some (.shared shared) ∧
    scene.types.MadeShared shared ∧ (scene.types.sharedRow shared).hostClass = cls

/-- A factory at rest. Only classes that exist are bound. -/
structure Poised (scene : Scene) : Prop where
  free : scene.factory.lock = .free
  resting : scene.factory.workshop = {}
  bound : forall cls, (scene.bound cls).isSome -> scene.hierarchy.Declared cls
  layouts : forall entry, entry ∈ scene.factory.layouts -> scene.Keeps entry.1 entry.2

/-- A lock that was free is free again once it was given back. -/
theorem released_under (free : scene.factory.lock = .free) :
    { (scene.under thread).factory with
      lock := (scene.under thread).factory.lock.release thread } = scene.factory := by
  have released : (scene.under thread).factory.lock.release thread = scene.factory.lock := by
    rw [free]
    simp [under, Lock.release]
  rw [released]
  rfl

/-- A stage shows the scene when the lock is given back. -/
theorem fits_released (free : scene.factory.lock = .free)
    (wired : next.factory = (scene.under thread).factory) (fits : stage.fits next now) :
    stage.fits { next with factory := scene.factory } (now.released id thread) := by
  have same : (now.released id thread) =
      { now with factories := now.factories.set id.index scene.factory } := by
    unfold Store.released
    rw [(stage.shows fits).factory, wired, released_under free]
  rw [same]
  refine stage.advances fits (.factory scene.factory ?_)
  rw [wired]
  rfl

/-- Work under a lock that is free. -/
theorem delivers_locked {α : Type} {work : Request σ α} {post : Except Fault α -> Store -> Prop}
    (free : scene.factory.lock = .free) (fits : stage.fits scene now)
    (works : forall begun, stage.fits (scene.under thread) begun ->
      work.run.Delivers thread stage.around begun fun outcome after =>
        forall later, stage.around after later -> post outcome (later.released id thread)) :
    (id.locked work).run.Delivers thread stage.around now post := by
  have acquired : Factory.Step.acquire.perform thread scene.factory =
      some ((), (scene.under thread).factory) := by
    simp [Factory.Step.perform, free, Lock.acquire, under]
  have acquires : scene.AttainsOn (σ := σ) stage thread (id.step .acquire)
      fun outcome next => outcome = .ok () ∧ next = scene.under thread :=
    .step acquired ⟨rfl, rfl⟩
  apply Program.Delivers.andThen
  apply (acquires now fits).weaken
  rintro _ begun ⟨_, ⟨rfl, rfl⟩, fits⟩
  apply Program.Delivers.andThen
  apply Program.Delivers.bind
  apply (works begun fits).weaken
  intro outcome after ends
  apply Program.Delivers.andThen
  apply Program.Delivers.perform
  intro later around
  exact ⟨(), _, rfl, ends later around⟩

/-- Under the lock, a type joins a class that may be shared. -/
theorem delivers_joining {wanted : TypeDescription} {post : Except Fault TypeId -> Store -> Prop}
    (free : scene.factory.lock = .free) (resting : scene.factory.workshop = {})
    (once : wanted.repeated? = none) (replaceable : wanted.isReplaceable = true)
    (simple : wanted.isSimple = true) (declared : scene.hierarchy.Declared wanted.primary)
    (sharable : scene.Sharable wanted.primary) (fits : stage.fits (scene.under thread) begun)
    (ends : forall type next after, scene.Joins wanted.primary type next ->
      stage.fits next after -> post (.ok type) after) :
    (id.create wanted : Request σ TypeId).run.Delivers thread stage.around begun
      fun outcome after => forall later, stage.around after later ->
        post outcome (later.released id thread) := by
  have acquires : (scene.under thread).factory.lock.acquire thread = some (.held thread 1) := by
    simp [under, Lock.acquire]
  have releases : (Lock.held thread 1).release thread = (scene.under thread).factory.lock := by
    simp [under, Lock.release]
  have joining : (scene.under thread).AttainsOn (σ := σ) stage thread (id.create wanted) _ :=
    .createJoining acquires releases resting once replaceable simple declared sharable
  apply (joining begun fits).weaken
  rintro _ after ⟨next, ⟨type, rfl, joins⟩, fits⟩ later around
  refine ends type { next with factory := scene.factory } _ { joins with factory := rfl } ?_
  exact fits_released free joins.factory (stage.spared fits around)

/-! ## Definitions -/

/-- The class of a shape that is kept may be shared. -/
theorem Poised.sharable (poised : scene.Poised)
    (kept : scene.factory.layoutClass? spec.shape = some cls) :
    scene.hierarchy.Declared cls ∧ scene.Sharable cls := by
  obtain ⟨shared, bound, made, host⟩ := (poised.layouts _ (Factory.mem_layouts kept)).backed
  refine ⟨poised.bound cls (Option.isSome_of_eq_some bound), fun rep also => ?_⟩
  cases bound.symm.trans also
  exact ⟨shared, rfl, made, host⟩

/-- A class that was just synthesized is not bound yet. -/
theorem Poised.unbound (poised : scene.Poised) {hierarchy : Hierarchy}
    (gains : scene.hierarchy.Gains spec cls hierarchy) : scene.bound cls = none := by
  cases bound : scene.bound cls with
  | none => rfl
  | some rep => exact absurd (poised.bound cls (Option.isSome_of_eq_some bound)) gains.fresh

/-- What is read of the factory is what the scene has. -/
theorem delivers_view {α β : Type} {read : Factory -> α} {rest : α -> Request σ β}
    {post : Except Fault β -> Store -> Prop} (fits : stage.fits scene now)
    (goesOn : forall later, stage.fits scene later ->
      (rest (read scene.factory)).run.Delivers thread stage.around later post) :
    (id.view read >>= rest : Request σ β).run.Delivers thread stage.around now post := by
  have views : scene.AttainsOn (σ := σ) stage thread (id.view read)
      fun outcome next => outcome = .ok (read scene.factory) ∧ next = scene := .view ⟨rfl, rfl⟩
  apply Program.Delivers.andThen
  apply (views now fits).weaken
  rintro _ later ⟨_, ⟨rfl, rfl⟩, still⟩
  exact goesOn later still

/-- A class that was just synthesized is kept for its shape, and a type joins it. -/
theorem delivers_keeping {wanted : TypeDescription} {hierarchy : Hierarchy}
    {post : Except Fault TypeId -> Store -> Prop}
    (spares : forall before after, stage.around before after -> Store.Spares id before after)
    (poised : scene.Poised) (once : wanted.repeated? = none)
    (replaceable : wanted.isReplaceable = true) (simple : wanted.isSimple = true)
    (gains : scene.hierarchy.Gains spec wanted.primary hierarchy)
    (shows : (({ scene with hierarchy } : Scene).under thread).Fits id now)
    (ends : forall type next after,
      (({ scene with hierarchy } : Scene).keeping spec.shape wanted.primary).Joins
        wanted.primary type next -> next.Fits id after -> post (.ok type) after) :
    (do id.step (.cacheLayout spec.shape wanted.primary)
        id.create wanted : Request σ TypeId).run.Delivers thread stage.around now
      fun outcome after => forall later, stage.around after later ->
        post outcome (later.released id thread) := by
  let made : Scene := { scene with hierarchy }
  have keeps : (made.under thread).Attains (σ := σ) thread id
      (id.step (.cacheLayout spec.shape wanted.primary)) fun outcome next =>
        outcome = .ok () ∧ next = (made.keeping spec.shape wanted.primary).under thread :=
    .step rfl ⟨rfl, rfl⟩
  have free : (made.keeping spec.shape wanted.primary).factory.lock = .free := poised.free
  have sharable : (made.keeping spec.shape wanted.primary).Sharable wanted.primary := by
    intro rep bound
    cases (poised.unbound gains).symm.trans bound
  apply Program.Delivers.andThen
  apply ((keeps now shows).narrow spares).weaken
  rintro _ kept ⟨_, ⟨rfl, rfl⟩, shows⟩
  have joining : (id.create wanted : Request σ TypeId).run.Delivers thread
      (Stage.amid id).around kept _ :=
    delivers_joining free poised.resting once replaceable simple gains.declared sharable shows ends
  apply (joining.narrow spares).weaken
  exact fun outcome after ends later around => ends later (spares after later around)

/-- What a definition comes to. -/
theorem delivers_define {name : String} {bases : List TypeId} {declared : Option (List String)}
    {dict : Bool} {post : Except Fault TypeId -> Store -> Prop}
    (reads : Except Fault Specification -> Prop)
    (spares : forall before after, stage.around before after -> Store.Spares id before after)
    (fits : stage.fits scene now) (poised : scene.Poised)
    (read : forall first second, stage.fits scene first -> stage.fits scene second ->
      reads (Inheritance.drafted second.hierarchy first.types name
        (scene.factory.effectiveBases bases) declared dict))
    (sound : forall spec, reads (.ok spec) -> spec.Plain ∧ scene.hierarchy.Declared spec.base)
    (refused : forall fault after, reads (.error fault) -> stage.fits scene after ->
      post (.error fault) after)
    (kept : forall spec cls type next after, reads (.ok spec) ->
      scene.factory.layoutClass? spec.shape = some cls -> scene.Joins cls type next ->
        stage.fits next after -> post (.ok type) after)
    (failed : forall spec begun, reads (.ok spec) ->
      scene.factory.layoutClass? spec.shape = none -> stage.fits (scene.under thread) begun ->
        (scene.factory.synthesizer.synthesize spec : Request σ ClassId).run.Delivers thread
          stage.around begun fun outcome after =>
            forall cause, outcome = .error (.internal cause) ->
            (scene.under thread).Fits id after -> forall later, stage.around after later ->
              post (.error (.internal cause)) (later.released id thread))
    (synthesized : forall spec cls hierarchy type next after, reads (.ok spec) ->
      scene.factory.layoutClass? spec.shape = none -> scene.hierarchy.Gains spec cls hierarchy ->
        (({ scene with hierarchy } : Scene).keeping spec.shape cls).Joins cls type next ->
          next.Fits id after -> post (.ok type) after) :
    (id.defineClass name bases declared dict : Request σ TypeId).run.Delivers thread stage.around
      now post := by
  let effective := scene.factory.effectiveBases bases
  have drafts : scene.AttainsOn (σ := σ) stage thread
      (FactoryId.layoutSpecification name effective declared dict)
      fun outcome next => reads outcome ∧ scene = next :=
    .layoutSpecification fun first second fits further => ⟨read first second fits further, rfl⟩
  have replaceable := FactoryId.isReplaceable_guest name effective
  refine delivers_view fits fun middle fits => ?_
  apply Program.Delivers.andThen
  apply (drafts middle fits).weaken
  rintro (fault | spec) after ⟨_, ⟨drafted, rfl⟩, fits⟩
  · exact refused fault after drafted fits
  apply delivers_locked poised.free fits
  intro begun fits
  apply Program.Delivers.andThen
  refine delivers_view fits fun begun fits => ?_
  cases lookup : scene.factory.layoutClass? spec.shape with
  | some cls =>
      rw [show (scene.under thread).factory.layoutClass? spec.shape = some cls from lookup]
      obtain ⟨exists_, sharable⟩ := poised.sharable lookup
      exact delivers_joining poised.free poised.resting rfl (replaceable cls) rfl exists_
        sharable fits
        fun type next after joins fits => kept spec cls type next after drafted lookup joins fits
  | none =>
      rw [show (scene.under thread).factory.layoutClass? spec.shape = none from lookup]
      have plain := (sound spec drafted).1
      have base : (scene.under thread).hierarchy.Declared spec.base := (sound spec drafted).2
      refine delivers_view fits fun begun fits => ?_
      apply Program.Delivers.andThen
      apply (((delivers_synthesize plain base (stage.shows fits)).narrow spares).and
        (failed spec begun drafted lookup fits)).weaken
      rintro (fault | cls) after ⟨⟨next, leads, shows⟩, fails⟩
      · obtain ⟨⟨cause, rfl⟩, rfl⟩ := leads
        exact fails cause rfl shows
      · obtain ⟨gains, same⟩ := leads
        rw [show next = ({ scene with hierarchy := next.hierarchy } : Scene).under thread from same]
          at shows
        exact delivers_keeping spares poised rfl (replaceable cls) rfl gains shows
          fun type last after joins fits =>
            synthesized spec cls next.hierarchy type last after drafted lookup gains joins fits

/-- What a definition comes to by the specification that was drafted. A synthesis may fail for
reasons that are known elsewhere. -/
inductive Concludes (drafted : Except Fault Specification) (fails : Specification -> Prop) :
    Except Fault TypeId -> Store -> Prop where
  | refused {fault : Fault} {after : Store} (drafts : drafted = .error fault) :
      Concludes drafted fails (.error fault) after
  | failed {spec : Specification} {cause : Cause InternalFault} {after : Store}
      (drafts : drafted = .ok spec) (because : fails spec) :
      Concludes drafted fails (.error (.internal cause)) after
  | defined {spec : Specification} {type : TypeId} {after : Store} (drafts : drafted = .ok spec)
      (made : after.types.Made type)
      (realises : after.hierarchy.Realises (after.types.row type).primary spec.shape)
      (unreserved : spec.layout.Unreserved) : Concludes drafted fails (.ok type) after

/-- Later tables make no difference to what is drafted for bases that existed before. -/
theorem drafted_later {name : String} {bases : List TypeId} {declared : Option (List String)}
    {dict : Bool} {later : Hierarchy} {laterTypes : TypeTable}
    (extends_ : scene.hierarchy.Extends later) (grown : scene.types.Extends laterTypes)
    (root : scene.hierarchy.Declared Builtin.object)
    (whole : forall base, base ∈ bases -> Inheritance.Whole scene.hierarchy scene.types base)
    (canonical : forall type, scene.hierarchy.Declared
      (Inheritance.canonicalClass scene.types (scene.types.row type))) :
    Inheritance.drafted later laterTypes name bases declared dict =
      Inheritance.drafted scene.hierarchy scene.types name bases declared dict := by
  unfold Inheritance.drafted
  rw [Inheritance.ofBases_later extends_ grown root whole fun base _ => canonical base]
  have names : bases.map laterTypes.name = bases.map scene.types.name := by
    apply List.map_congr_left
    intro base member
    unfold TypeTable.name
    rw [grown.row base (whole base member).made]
  rw [names]

/-- Amid other threads, a definition comes to what the scene says. -/
theorem delivers_definition {name : String} {bases : List TypeId}
    {declared : Option (List String)} {dict : Bool} (scene : Scene)
    (fails : Specification -> Prop)
    (spares : forall before after, stage.around before after -> Store.Spares id before after)
    (fits : stage.fits scene now) (poised : scene.Poised)
    (root : scene.hierarchy.Declared Builtin.object)
    (whole : forall base, base ∈ scene.factory.effectiveBases bases ->
      Inheritance.Whole scene.hierarchy scene.types base)
    (canonical : forall type, scene.hierarchy.Declared
      (Inheritance.canonicalClass scene.types (scene.types.row type)))
    (failed : forall spec begun,
      Inheritance.drafted scene.hierarchy scene.types name (scene.factory.effectiveBases bases)
        declared dict = .ok spec ->
      scene.hierarchy.Declared spec.base -> stage.fits (scene.under thread) begun ->
        (scene.factory.synthesizer.synthesize spec : Request σ ClassId).run.Delivers thread
          stage.around begun fun outcome _ => outcome.isOk = false -> fails spec) :
    (id.defineClass name bases declared dict : Request σ TypeId).run.Delivers thread stage.around
      now (Concludes (Inheritance.drafted scene.hierarchy scene.types name
        (scene.factory.effectiveBases bases) declared dict) fails) := by
  let effective := scene.factory.effectiveBases bases
  let drafted := Inheritance.drafted scene.hierarchy scene.types name effective declared dict
  have sound : forall spec, drafted = .ok spec ->
      spec.Plain ∧ scene.hierarchy.Declared spec.base :=
    fun spec drafts => Inheritance.declared_drafted drafts root canonical
  have joined : forall (spec : Specification) (cls : ClassId) (type : TypeId) (next : Scene)
      (after : Store), drafted = .ok spec -> next.hierarchy.Realises cls spec.shape ->
        spec.layout.Unreserved -> next.types.Made type -> (next.types.row type).primary = cls ->
          next.Fits id after -> Concludes drafted fails (.ok type) after := by
    intro spec cls type next after drafts realises unreserved made primary shows
    refine .defined drafts (shows.types.made made) ?_ unreserved
    rw [shows.types.row type made, primary]
    exact realises.mono shows.hierarchy
  refine delivers_define (drafted = ·) spares fits poised ?_ sound ?_ ?_ ?_ ?_
  · intro first second fits further
    exact (drafted_later (stage.shows further).hierarchy (stage.shows fits).types root whole
      canonical).symm
  · exact fun fault after drafts _ => .refused drafts
  · intro spec cls type next after drafts kept joins fits
    have keeps := poised.layouts _ (Factory.mem_layouts kept)
    refine joined spec cls type next after drafts ?_ keeps.unreserved joins.made joins.primary
      (stage.shows fits)
    rw [joins.hierarchy]
    exact keeps.realises
  · intro spec begun drafts _ fits
    apply (failed spec begun drafts (sound spec drafts).2 fits).weaken
    rintro _ after fails cause rfl - later -
    exact .failed drafts (fails rfl)
  · intro spec cls hierarchy type next after drafts _ gains joins shows
    refine joined spec cls type next after drafts ?_ gains.unreserved joins.made joins.primary shows
    rw [joins.hierarchy]
    exact gains.realises

end Scene

/-- A factory at rest is asked for a guest class over bases that exist. -/
structure Store.Offers (store : Store) (factory : FactoryId) (bases : List TypeId) : Prop where
  free : (store.factory factory).lock = .free
  whole : forall base, base ∈ (store.factory factory).effectiveBases bases ->
    Inheritance.Whole store.hierarchy store.types base

namespace Machine

variable {σ : Type} {code : ClientCode σ} {machine : Machine (Clients σ)} {factory : FactoryId}

/-- A factory whose lock is free is poised. -/
theorem Reachable.poised (reachable : machine.Reachable code)
    (free : (machine.store.factory factory).lock = .free) :
    (machine.store.scene factory).Poised := by
  obtain ⟨now, kept⟩ := reachable.kept
  have valid : now.world.Valid := kept.valid
  rw [kept.store] at free ⊢
  obtain ⟨resting, backed⟩ := valid.resting factory free
  refine ⟨free, resting, fun cls bound => (valid.bound _ cls bound).1, fun entry member => ?_⟩
  obtain ⟨shared, bound, made, host⟩ := backed entry member
  have realises := (valid.layouts factory entry member).2
  exact ⟨realises, (valid.lawful entry.2 _ realises.layout).unreserved, shared, bound, made, host⟩

/-- All that a type stands for as a base exists. -/
theorem Reachable.canonical (reachable : machine.Reachable code) :
    machine.store.hierarchy.Declared Builtin.object ∧
      forall type, machine.store.hierarchy.Declared
        (Inheritance.canonicalClass machine.store.types (machine.store.types.row type)) := by
  obtain ⟨now, kept⟩ := reachable.kept
  have valid : now.world.Valid := kept.valid
  rw [kept.store]
  exact ⟨(valid.builtins Builtin.object (by decide)).1, fun type => (valid.canonical type).1⟩

/-- A definition over bases that exist comes to what the tables say. -/
theorem Reachable.delivers_definition {stage : Stage factory} {thread : ThreadId}
    {name : String} {bases : List TypeId} {declared : Option (List String)} {dict : Bool}
    (fails : Specification -> Prop) (reachable : machine.Reachable code)
    (offers : machine.store.Offers factory bases)
    (spares : forall before after, stage.around before after ->
      Store.Spares factory before after)
    (fits : stage.fits (machine.store.scene factory) machine.store)
    (failed : forall spec begun,
      Inheritance.drafted machine.store.hierarchy machine.store.types name
        ((machine.store.factory factory).effectiveBases bases) declared dict = .ok spec ->
      machine.store.hierarchy.Declared spec.base ->
      stage.fits ((machine.store.scene factory).under thread) begun ->
        ((machine.store.factory factory).synthesizer.synthesize spec :
          Request (Clients σ) ClassId).run.Delivers thread stage.around begun
            fun outcome _ => outcome.isOk = false -> fails spec) :
    (factory.defineClass name bases declared dict : Request (Clients σ) TypeId).run.Delivers
      thread stage.around machine.store
      (Scene.Concludes (Inheritance.drafted machine.store.hierarchy machine.store.types name
        ((machine.store.factory factory).effectiveBases bases) declared dict) fails) := by
  obtain ⟨root, canonical⟩ := reachable.canonical
  exact Scene.delivers_definition (machine.store.scene factory) fails spares fits
    (reachable.poised offers.free) root offers.whole canonical failed

end Machine

end GuestTypes
