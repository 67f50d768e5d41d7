import GuestTypes.Proofs.EscalationOutcome
import GuestTypes.Proofs.FactoryRequests
import GuestTypes.Proofs.InitialisationOutcome

/-!
# What a class is resolved to

A factory at rest answers for a class that nobody bound in one of three ways, and which one it
is follows from the class, its superclasses and what is bound (`Scene.verdict`): the class takes
over the representation of a superclass, or it gets one of its own, or it is refused.
-/

namespace GuestTypes

/-! ## Verdicts -/

/-- How a factory answers for a class. -/
inductive Verdict where
  | refused (fault : Fault)
  | inherits (rep : Representation)
  /-- The class gets a representation of its own. -/
  | founds
  deriving DecidableEq

/-- The representation was made for the class alone. -/
inductive TypeTable.Own (before after : TypeTable) (hierarchy : Hierarchy) (cls : ClassId) :
    Representation -> Prop where
  | canonical {type : TypeId} (plain : hierarchy.isSynthesized cls = false)
      (concrete : hierarchy.isInterface cls = false) (fresh : ¬ before.Made type)
      (made : after.Made type)
      (primary : (after.row type).primary = cls) : Own before after hierarchy cls (.canonical type)
  | shared {shared : SharedId} (synthesized : hierarchy.isSynthesized cls = true)
      (fresh : ¬ before.MadeShared shared) (made : after.MadeShared shared)
      (host : (after.sharedRow shared).hostClass = cls) :
      Own before after hierarchy cls (.shared shared)

namespace Scene

/-- What a class has, or would take over. -/
def heritage (scene : Scene) (cls : ClassId) : Option Representation :=
  scene.hierarchy.inherited scene.bound (scene.hierarchy.lineage cls)

/-- How the factory answers for a class that is not bound, by what comes of initialising it. -/
def verdict (scene : Scene) (initialised : Except Fault Unit) (cls : ClassId) : Verdict :=
  match initialised with
  | .error fault => .refused fault
  | .ok _ =>
      match scene.heritage cls with
      | some rep => .inherits rep
      | none =>
          if !scene.hierarchy.isSynthesized cls && scene.hierarchy.isInterface cls then
            .refused (.internal (.found (.interfaceAsClass (scene.hierarchy.name cls))))
          else .founds

/-- What the answer for a class and the bindings afterwards are, by the verdict. -/
inductive Answers (before : Scene) (cls : ClassId) :
    Verdict -> Except Fault Representation -> Scene -> Prop where
  | refused {fault : Fault} {after : Scene} (kept : after.bound = before.bound) :
      Answers before cls (.refused fault) (.error fault) after
  | inherits {rep : Representation} {after : Scene} (bound : after.bound cls = some rep)
      (taken : forall other, after.bound other = before.bound other ∨
        after.bound other = some rep ∧ before.heritage other = some rep ∧
          other ∈ before.hierarchy.lineage cls) :
      Answers before cls (.inherits rep) (.ok rep) after
  | founds {rep : Representation} {after : Scene}
      (own : before.types.Own after.types before.hierarchy cls rep)
      (bound : after.bound cls = some rep)
      (others : forall other, other ≠ cls -> after.bound other = before.bound other) :
      Answers before cls .founds (.ok rep) after

/-- A class that is answered for is bound to the answer. -/
theorem Answers.bound {before after : Scene} {cls : ClassId} {verdict : Verdict}
    {rep : Representation} (answers : before.Answers cls verdict (.ok rep) after) :
    after.bound cls = some rep := by
  cases answers with
  | inherits bound => exact bound
  | founds _ bound => exact bound

/-- What no answer changes. -/
structure Onward (before after : Scene) : Prop where
  factory : after.factory = before.factory
  hierarchy : after.hierarchy = before.hierarchy
  types : before.types.Extends after.types

end Scene

namespace Scene

variable {scene : Scene} {cls : ClassId} {rep : Representation}

/-- A class that has something to take over inherits, once it is initialised. -/
theorem verdict_inherits (inherits : scene.heritage cls = some rep) :
    scene.verdict (.ok ()) cls = .inherits rep := by
  unfold verdict
  rw [inherits]

/-- A class that has nothing to take over founds a type, if it is open to that. -/
theorem verdict_founds (barren : scene.heritage cls = none)
    (open_ : scene.hierarchy.isSynthesized cls = true ∨ scene.hierarchy.isInterface cls = false) :
    scene.verdict (.ok ()) cls = .founds := by
  rcases open_ with synthesized | concrete
  · simp [verdict, barren, synthesized]
  · simp [verdict, barren, concrete]

/-- A class that has heirs inherits, and so does each of them. -/
theorem heritage_of_heirs {heirs : List ClassId} (taken : scene.Heirs cls heirs rep) :
    scene.heritage cls = some rep := taken.inherited

/-- Without heirs there is nothing to take over. -/
theorem heritage_of_barren (barren : forall heirs rep, ¬ scene.Heirs cls heirs rep) :
    scene.heritage cls = none := by
  apply Option.eq_none_iff_forall_ne_some.mpr
  intro rep inherits
  exact barren _ rep (Hierarchy.heirs_of_inherited inherits)

/-- Every heir has the same to take over, and is a superclass of the class or the class itself. -/
theorem heritage_of_heir {heirs : List ClassId} {heir : ClassId}
    (taken : scene.Heirs cls heirs rep) (member : heir ∈ heirs) :
    scene.heritage heir = some rep ∧ heir ∈ scene.hierarchy.lineage cls := by
  obtain ⟨below, above, rest, split, own⟩ := taken.remaining member
  constructor
  · unfold heritage
    rw [Hierarchy.lineage_of_split split]
    exact own.inherited
  · simp [split]

/-- A class that is not bound is among the heirs. -/
theorem Heirs.mem {heirs : List ClassId} (taken : scene.Heirs cls heirs rep)
    (unbound : scene.bound cls = none) : cls ∈ heirs := by
  obtain ⟨ancestor, above, split, rules⟩ := taken.nearest
  rw [Hierarchy.lineage_eq] at split
  cases heirs with
  | nil =>
      obtain rfl := (List.cons.inj split).1
      cases unbound.symm.trans rules
  | cons heir rest =>
      obtain rfl := (List.cons.inj split).1
      exact List.mem_cons_self

/-- What is made for a class is made for it alone. -/
theorem Makes.own {found types : TypeTable} (made : scene.Makes found cls (.ok rep) types)
    (grown : scene.types.Extends found) :
    scene.types.Own types scene.hierarchy cls rep ∧ scene.types.Extends types := by
  cases made with
  | shared synthesized =>
      refine ⟨.shared synthesized ?_ ?_ ?_, grown.trans (found.extends_addShared _)⟩
      · exact fun was => found.not_madeShared_addShared _ (grown.madeShared was)
      · exact found.madeShared_addShared _
      · rw [TypeTable.sharedRow_addShared, if_pos (by rfl)]
        rfl
  | canonical plain concrete described =>
      refine ⟨.canonical plain concrete ?_ ?_ ?_, grown.trans (found.extends_add _)⟩
      · exact fun was => found.not_made_add _ (grown.made was)
      · exact found.made_add _
      · rw [described]
        rfl

/-- What the factory does for a class is its verdict. -/
theorem Effect.answers {found : TypeTable} {outcome : Except Fault Representation} {next : Scene}
    (effect : scene.Effect found cls outcome next) (grown : scene.types.Extends found)
    (unbound : scene.bound cls = none) :
    scene.Answers cls (scene.verdict (.ok ()) cls) outcome next ∧ scene.Onward next := by
  cases effect with
  | @inherits heirs rep taken =>
      refine ⟨?_, rfl, rfl, .refl _⟩
      rw [verdict_inherits (heritage_of_heirs taken)]
      refine .inherits (if_pos (taken.mem unbound)) fun other => ?_
      by_cases member : other ∈ heirs
      · exact .inr ⟨if_pos member, heritage_of_heir taken member⟩
      · exact .inl (if_neg member)
  | makes barren made =>
      obtain ⟨own, grown⟩ := made.own grown
      have founds : scene.verdict (.ok ()) cls = .founds := by
        apply verdict_founds (heritage_of_barren barren)
        cases made with
        | shared synthesized => exact .inl synthesized
        | canonical plain concrete => exact .inr concrete
      refine ⟨?_, rfl, rfl, grown⟩
      rw [founds]
      exact .founds own (if_pos rfl) fun other different => if_neg different
  | refused barren made =>
      refine ⟨?_, rfl, rfl, .refl _⟩
      cases made with
      | refused plain iface =>
          have refused : scene.verdict (.ok ()) cls =
              .refused (.internal (.found (.interfaceAsClass (scene.hierarchy.name cls)))) := by
            simp [verdict, heritage_of_barren barren, plain, iface]
          rw [refused]
          exact .refused rfl

end Scene

namespace Scene.AttainsOn

variable {σ : Type} {thread : ThreadId} {id : FactoryId} {scene : Scene} {cls : ClassId}
  {rep : Representation}

/-- A step that looks a class up. -/
theorem look {step : Registry.Step (Option Representation)}
    {leads : Except Fault (Option Representation) -> Scene -> Prop} (looks : step.Looks cls)
    (ends : leads (.ok (scene.bound cls)) scene) :
    scene.Attains (σ := σ) thread id (scene.factory.registry.step step) leads := by
  intro now fits
  apply Program.Delivers.registryStep
  intro later spared last still
  have fits : scene.Fits id later := fits.spared spared
  have moved := fits.registry (step.perform (later.registry scene.factory.registry)).2.1
  rw [looks.lookup, fits.lookup] at moved
  refine ⟨scene, ?_, ((moved _ _).spared still).spared (last.spares_guards _ id)⟩
  rw [looks.answer, fits.lookup]
  exact ends

/-- What is published for a class that is bound already changes nothing. -/
theorem publish_bound {offered : Representation}
    {leads : Except Fault Representation -> Scene -> Prop} (bound : scene.bound cls = some rep)
    (ends : leads (.ok rep) scene) :
    scene.Attains (σ := σ) thread id
      (scene.factory.registry.step (.publish cls offered)) leads := by
  refine registryStep (fun registry shown => ?_) ends
  have found : registry.lookup cls = some rep := (congrFun shown cls).trans bound
  simp only [Registry.Step.perform, found, shown, true_and]
  exact ⟨registry.bound, rfl⟩

end Scene.AttainsOn

/-! ## Awake threads -/

namespace Store

variable {thread : ThreadId} {factory : FactoryId} {before middle after : Store}

/-- The factory exists, and its registry turns to it. -/
structure Escalates (store : Store) (factory : FactoryId) : Prop where
  founded : factory.index < store.factories.size
  registered : (store.factory factory).registry.index < store.registries.size
  turns : (store.registry (store.factory factory).registry).escalation = .factory factory

/-- Nothing happens to a factory and its registry, nor to what a thread relies on while it asks
for classes. -/
structure Undisturbed (thread : ThreadId) (factory : FactoryId) (before after : Store) : Prop where
  spares : Store.Spares factory before after
  leaves : before.Leaves thread after
  escalates : before.Escalates factory -> after.Escalates factory

theorem Undisturbed.refl (store : Store) : Undisturbed thread factory store store :=
  ⟨store.fits_scene factory, .refl _ _, id⟩

theorem Undisturbed.trans (first : Undisturbed thread factory before middle)
    (last : Undisturbed thread factory middle after) :
    Undisturbed thread factory before after :=
  ⟨first.spares.spared last.spares, first.leaves.trans last.leaves,
    fun escalates => last.escalates (first.escalates escalates)⟩

end Store

/-- A factory with its old registry, which turns to it as before. -/
theorem Store.Escalates.kept {before after : Store} {factory : FactoryId}
    (escalates : before.Escalates factory)
    (factories : before.factories.size ≤ after.factories.size)
    (registries : before.registries.size ≤ after.registries.size)
    (wiring : (after.factory factory).registry = (before.factory factory).registry)
    (turns : (after.registry (before.factory factory).registry).escalation = .factory factory) :
    after.Escalates factory where
  founded := Nat.lt_of_lt_of_le escalates.founded factories
  registered := by
    rw [wiring]
    exact Nat.lt_of_lt_of_le escalates.registered registries
  turns := by
    rw [wiring]
    exact turns

/-- No action takes a factory from its registry. -/
theorem Action.escalates {β : Type} {action : Action β} {thread : ThreadId} {answer : β}
    {before after : Store} {factory : FactoryId}
    (performed : action.perform thread before = some (answer, after))
    (escalates : before.Escalates factory) : after.Escalates factory := by
  have grown : forall escalation : Escalation,
      (before.registries.push { escalation }).get (before.factory factory).registry.index =
        before.registry (before.factory factory).registry := by
    intro escalation
    rw [Table.get_push, if_neg (Nat.ne_of_gt escalates.registered)]
    rfl
  cases action with
  | addRegistry escalation =>
      cases performed
      exact escalates.kept (Nat.le_refl _) (Nat.le_of_lt (Table.lt_size_push _ _)) rfl
        ((congrArg Registry.escalation (grown escalation)).trans escalates.turns)
  | addFactory maker objectType typeType =>
      obtain ⟨-, rfl⟩ := Prod.mk.inj (Option.some.inj performed)
      refine escalates.kept (Nat.le_of_lt (Table.lt_size_push _ _))
        (Nat.le_of_lt (Table.lt_size_push _ _)) ?_
        ((congrArg Registry.escalation (grown _)).trans escalates.turns)
      unfold Store.factory
      rw [Table.get_push, if_neg (Nat.ne_of_gt escalates.founded)]
  | registry id step =>
      obtain ⟨-, rfl⟩ := perform_registry performed
      refine escalates.kept (Nat.le_refl _) (Table.size_le_set _ _ _) rfl ?_
      unfold Store.registry
      rw [Table.get_set]
      split
      · rename_i chosen
        apply Registry.Step.escalation_perform.mpr
        rw [chosen]
        exact escalates.turns
      · exact escalates.turns
  | factory id step =>
      obtain ⟨changed, stepped, rfl⟩ := perform_factory performed
      refine escalates.kept (Table.size_le_set _ _ _) (Nat.le_refl _) ?_ escalates.turns
      unfold Store.factory
      rw [Table.get_set]
      split
      · rename_i chosen
        rw [Factory.Step.registry_perform stepped, ← chosen]
        rfl
      · rfl
  | claim cls =>
      obtain ⟨state, -, rfl⟩ := performed_claim performed
      exact escalates.kept (Nat.le_refl _) (Nat.le_refl _) rfl escalates.turns
  | observe _ | declare _ | addType _ | addShared _ | addLoader | addSynthesizer _ _ | release _
  | synthesizer _ _ | loader _ _ | heap _ | makeDirectories _ | writeFile _ _ | record _ =>
      cases performed
      exact escalates.kept (Nat.le_refl _) (Nat.le_refl _) rfl escalates.turns

/-- Asking for classes is no more than that. -/
theorem Store.calm_undisturbed (thread : ThreadId) (factory : FactoryId) :
    Store.Calm thread (Store.Undisturbed thread factory) where
  refl := .refl
  trans := fun _ _ _ => .trans
  leaves := fun _ _ => Undisturbed.leaves
  claims := by
    intro cls answer before after performed _
    refine ⟨?_, Action.leaves performed thread, Action.escalates performed⟩
    obtain ⟨state, -, rfl⟩ := Action.performed_claim performed
    exact ⟨rfl, rfl, .refl _, .refl _⟩

/-- It is settled what a thread is answered that asks for a class. -/
theorem ClassId.delivers_concluded {σ : Type} {thread : ThreadId} {around : Store -> Store -> Prop}
    {now : Store} {cls : ClassId} {initialised : Except Fault Unit}
    (calm : Store.Calm thread around) (declared : now.hierarchy.Declared cls)
    (concludes : now.Concludes thread cls initialised) :
    (cls.ensureInitialised : Request σ Unit).run.Delivers thread around now fun outcome after =>
      outcome = initialised ∧ around now after := by
  cases initialised with
  | ok _ => exact delivers_ensureInitialised calm declared concludes
  | error fault =>
      obtain ⟨below, failed, above, reason, split, usable, ended, rfl⟩ := concludes
      exact refuses_ensureInitialised calm declared split usable ended

/-- The thread may ask for the class, and it is settled what it is answered. -/
structure Store.Decides (store : Store) (thread : ThreadId) (cls : ClassId)
    (initialised : Except Fault Unit) : Prop where
  declared : store.hierarchy.Declared cls
  concludes : store.Concludes thread cls initialised

/-- The factory of the scene is at rest, and the classes are those of the store. -/
structure Scene.Rests (scene : Scene) (store : Store) : Prop where
  free : scene.factory.lock = .free
  resting : scene.factory.workshop = {}
  rooted : scene.types.Made scene.factory.objectType
  hierarchy : scene.hierarchy = store.hierarchy

/-- A factory that was at rest is at rest after an answer. -/
theorem Scene.Rests.onward {scene middle : Scene} {store : Store} (rests : scene.Rests store)
    (onward : scene.Onward middle) : middle.Rests store where
  free := by
    rw [onward.factory]
    exact rests.free
  resting := by
    rw [onward.factory]
    exact rests.resting
  rooted := by
    rw [onward.factory]
    exact onward.types.made rests.rooted
  hierarchy := onward.hierarchy.trans rests.hierarchy

/-- From the scene the request of a thread that is awake comes to an outcome and a scene that it
leads to. What the thread relied on at the start is still so. -/
def Scene.Reaches {σ α : Type} (scene : Scene) (thread : ThreadId) (id : FactoryId) (start : Store)
    (request : Request σ α) (leads : Except Fault α -> Scene -> Prop) : Prop :=
  forall now, scene.Fits id now -> start.Leaves thread now -> now.Escalates id ->
    request.run.Delivers thread (Store.Undisturbed thread id) now fun outcome after =>
      (exists next, leads outcome next ∧ next.Fits id after) ∧ start.Leaves thread after ∧
        after.Escalates id

/-- A request is followed by another one, or by nothing if it is refused. -/
def Scene.Goes {σ α β : Type} (thread : ThreadId) (id : FactoryId) (start : Store)
    (rest : α -> Request σ β) (leads : Except Fault β -> Scene -> Prop) :
    Except Fault α -> Scene -> Prop
  | .ok answer, next => next.Reaches thread id start (rest answer) leads
  | .error fault, next => leads (.error fault) next

namespace Scene.Reaches

variable {σ α β : Type} {thread : ThreadId} {id : FactoryId} {start : Store} {scene : Scene}
  {cls : ClassId} {rep : Representation} {request : Request σ α}
  {leads : Except Fault α -> Scene -> Prop} {initialised : Except Fault Unit}

/-- What is attained under the lock is reached. -/
theorem ofAttains (attains : scene.Attains thread id request leads) :
    scene.Reaches thread id start request leads := by
  intro now fits leaves escalates
  apply Program.Delivers.keeping ((attains now fits).narrow fun _ _ => Store.Undisturbed.spares)
  · exact ⟨leaves, escalates⟩
  · exact fun _ _ spared kept => ⟨kept.1.trans spared.leaves, spared.escalates kept.2⟩
  · exact fun _ _ _ _ performed kept =>
      ⟨kept.1.trans (Action.leaves performed thread), Action.escalates performed kept.2⟩

/-- More outcomes may be allowed. -/
theorem weaken {stronger : Except Fault α -> Scene -> Prop}
    (reaches : scene.Reaches thread id start request stronger)
    (implies : forall outcome next, stronger outcome next -> leads outcome next) :
    scene.Reaches thread id start request leads := by
  intro now fits leaves escalates
  apply (reaches now fits leaves escalates).weaken
  rintro outcome after ⟨⟨next, ends, fits⟩, kept⟩
  exact ⟨⟨next, implies outcome next ends, fits⟩, kept⟩

/-- A request leads where the next one leads from its answer. -/
theorem bind {rest : α -> Request σ β} {leads : Except Fault β -> Scene -> Prop}
    (first : scene.Reaches thread id start request (Goes thread id start rest leads)) :
    scene.Reaches thread id start (request >>= rest) leads := by
  intro now fits leaves escalates
  apply Program.Delivers.bind
  apply (first now fits leaves escalates).weaken
  rintro outcome after ⟨⟨next, follows, fits⟩, leaves, escalates⟩
  cases outcome with
  | ok answer => exact follows after fits leaves escalates
  | error fault => exact ⟨⟨next, follows, fits⟩, leaves, escalates⟩

/-- A fault of the work is an answer of the attempt. -/
theorem attempt {leads : Except Fault (Except Fault α) -> Scene -> Prop}
    (reaches : scene.Reaches thread id start request fun outcome => leads (.ok outcome)) :
    scene.Reaches thread id start request.attempt leads := by
  intro now fits leaves escalates
  apply Program.Delivers.bind
  exact reaches now fits leaves escalates

/-- What comes of initialising a class is settled before. -/
theorem ensureInitialised {leads : Except Fault Unit -> Scene -> Prop}
    (decides : start.Decides thread cls initialised) (ends : leads initialised scene) :
    scene.Reaches (σ := σ) thread id start cls.ensureInitialised leads := by
  intro now fits leaves escalates
  apply (ClassId.delivers_concluded (Store.calm_undisturbed thread id)
    (leaves.hierarchy.declared decides.declared)
    (decides.concludes.later decides.declared leaves)).weaken
  rintro outcome after ⟨rfl, since⟩
  exact ⟨⟨scene, ends, fits.spared since.spares⟩, leaves.trans since.leaves,
    since.escalates escalates⟩

/-- A factory that is asked for a class which is not bound does for it what there is to do. -/
theorem findOrCreate (rests : scene.Rests start) (decides : start.Decides thread cls (.ok ()))
    (unbound : scene.bound cls = none) :
    scene.Reaches (σ := σ) thread id start (id.findOrCreate cls) fun outcome next =>
      exists found, scene.types.Extends found ∧ scene.Effect found cls outcome next := by
  have known : scene.hierarchy.Declared cls := rests.hierarchy ▸ decides.declared
  apply bind
  apply ensureInitialised decides
  apply ofAttains
  apply (AttainsOn.search rests.free rests.resting known unbound rests.rooted).weaken
  rintro outcome next ⟨found, -, grown, effect⟩
  exact ⟨found, grown, effect⟩

/-- The registry of the factory turns to it. -/
theorem escalate {leads : Except Fault Representation -> Scene -> Prop}
    (reaches : scene.Reaches (σ := σ) thread id start (id.findOrCreate cls) leads) :
    scene.Reaches (σ := σ) thread id start (scene.factory.registry.escalate cls) leads := by
  intro now fits leaves escalates
  apply Program.Delivers.andThen
  apply Program.Delivers.observe
  intro later spared
  have fits := fits.spared spared.spares
  have escalates := spared.escalates escalates
  have turns : (later.registry scene.factory.registry).escalation = .factory id := by
    rw [← fits.factory]
    exact escalates.turns
  unfold Request.Followed
  rw [turns]
  exact reaches later fits (leaves.trans spared.leaves) escalates

/-- A class that is bound is resolved to what it is bound to. -/
theorem resolve_bound {leads : Except Fault Representation -> Scene -> Prop}
    (bound : scene.bound cls = some rep) (ends : leads (.ok rep) scene) :
    scene.Reaches (σ := σ) thread id start (scene.factory.registry.resolve cls) leads := by
  apply ofAttains
  apply AttainsOn.bind
  apply AttainsOn.look (Registry.Step.looks_firstLookup cls)
  rw [bound]
  exact AttainsOn.pure ends

/-- A class that is not bound is answered for by the verdict of the factory. -/
theorem resolve_unbound (rests : scene.Rests start)
    (decides : start.Decides thread cls initialised) (unbound : scene.bound cls = none) :
    scene.Reaches (σ := σ) thread id start (scene.factory.registry.resolve cls) fun outcome next =>
      scene.Answers cls (scene.verdict initialised cls) outcome next ∧ scene.Onward next := by
  apply bind
  apply ofAttains
  apply AttainsOn.look (Registry.Step.looks_firstLookup cls)
  rw [unbound]
  apply bind
  apply ensureInitialised decides
  cases initialised with
  | error fault => exact ⟨.refused rfl, rfl, rfl, .refl _⟩
  | ok _ =>
      apply bind
      apply ofAttains
      apply AttainsOn.look (Registry.Step.looks_secondLookup cls)
      rw [unbound]
      apply bind
      apply escalate
      apply (findOrCreate rests decides unbound).weaken
      rintro outcome next ⟨found, grown, effect⟩
      obtain ⟨answers, onward⟩ := effect.answers grown unbound
      rcases outcome with fault | rep
      · exact ⟨answers, onward⟩
      · unfold Goes
        dsimp only
        rw [← onward.factory]
        exact ofAttains (AttainsOn.publish_bound answers.bound ⟨answers, onward⟩)

end Scene.Reaches

/-! ## Reachable machines -/

namespace Machine

variable {σ : Type} {code : ClientCode σ} {machine : Machine (Clients σ)} {factory : FactoryId}

/-- The registry of a factory turns to the factory. -/
theorem Reachable.escalates (reachable : machine.Reachable code)
    (founded : factory.index < machine.store.factories.size) :
    machine.store.Escalates factory := by
  obtain ⟨now, kept⟩ := reachable.kept
  rw [kept.store] at founded ⊢
  obtain ⟨registered, turns⟩ := kept.valid.founded factory founded
  exact ⟨founded, registered, turns⟩

/-- A factory whose lock is free is at rest. -/
theorem Reachable.rests (reachable : machine.Reachable code)
    (founded : factory.index < machine.store.factories.size)
    (free : (machine.store.factory factory).lock = .free) :
    (machine.store.scene factory).Rests machine.store := by
  obtain ⟨now, kept⟩ := reachable.kept
  rw [kept.store] at founded free ⊢
  exact ⟨free, (kept.valid.resting factory free).1, kept.valid.rooted factory founded, rfl⟩

end Machine

end GuestTypes
