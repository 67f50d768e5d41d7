import GuestTypes.Proofs.Delivery
import GuestTypes.Proofs.GuardedRuns
import GuestTypes.Proofs.Trust

/-!
# Creating a type is all or nothing

A factory at rest that is asked for a type either refuses and binds nothing, or binds exactly
the classes that the type is for. `Scene.Refuses` lists the refusals with the conditions under
which each is given; the checks are made in this order, so each condition excludes the earlier
ones. `Scene.Adds` lists what is bound otherwise.
-/

namespace GuestTypes

/-- A factory at rest is as it was before the request. -/
theorem Factory.eq_of_rest {factory : Factory} (free : factory.lock = .free)
    (resting : factory.workshop = {}) :
    { factory with lock := .free, workshop := {} } = factory := by
  rw [← free, ← resting]

/-! ## Repeated classes -/

namespace TypeDescription

variable {wanted : TypeDescription} {act : AddingAct} {cls : ClassId}

/-- The classes that a description names, in order. -/
def classes (wanted : TypeDescription) : List ClassId :=
  wanted.primary :: wanted.adopted ++ wanted.accepted

/-- The classes that a description lists besides its primary one, each with its list. -/
def listed (wanted : TypeDescription) : List (AddingAct × ClassId) :=
  wanted.adopted.map (AddingAct.adopt, ·) ++ wanted.accepted.map (AddingAct.accept, ·)

/-- The class is listed at a place where it is named already, and no class before that place
is. -/
def Repeats (wanted : TypeDescription) (act : AddingAct) (cls : ClassId) : Prop :=
  exists earlier later, wanted.listed = earlier ++ (act, cls) :: later ∧
    cls ∈ wanted.primary :: earlier.map (·.2) ∧ (wanted.primary :: earlier.map (·.2)).Nodup

/-- The primary class is named first, and then the listed ones. -/
theorem classes_eq (wanted : TypeDescription) :
    wanted.classes = [wanted.primary] ++ wanted.listed.map (·.2) := by
  simp [classes, listed, Function.comp_def]

/-- The search finds the first class that is among those seen before. -/
theorem search_spec (seen : List ClassId) (listed : List (AddingAct × ClassId))
    (distinct : seen.Nodup) :
    match repeated?.search seen listed with
    | none => (seen ++ listed.map (·.2)).Nodup
    | some (act, cls) => exists earlier later, listed = earlier ++ (act, cls) :: later ∧
        cls ∈ seen ++ earlier.map (·.2) ∧ (seen ++ earlier.map (·.2)).Nodup := by
  induction listed generalizing seen with
  | nil => simpa [repeated?.search] using distinct
  | cons entry rest inductionHypothesis =>
      obtain ⟨act, cls⟩ := entry
      unfold repeated?.search
      by_cases again : cls ∈ seen
      · rw [if_pos (by simpa using again)]
        exact ⟨[], rest, by simp, by simpa using again, by simpa using distinct⟩
      · rw [if_neg (by simpa using again)]
        have later := inductionHypothesis (cls :: seen) (List.nodup_cons.mpr ⟨again, distinct⟩)
        -- The class just seen comes last among the earlier ones, and first in what is searched.
        have moved : forall others : List ClassId,
            (cls :: seen ++ others).Perm (seen ++ cls :: others) :=
          fun others => List.perm_middle.symm
        split at later
        · exact (moved _).nodup_iff.mp later
        · obtain ⟨earlier, after, same, found, distinct⟩ := later
          refine ⟨(act, cls) :: earlier, after, by simp [same], ?_, ?_⟩
          · simpa using (moved _).mem_iff.mp found
          · simpa using (moved _).nodup_iff.mp distinct

/-- A description that repeats no class names each once. -/
theorem nodup_of_repeated? (unrepeated : wanted.repeated? = none) : wanted.classes.Nodup := by
  have spec := search_spec [wanted.primary] wanted.listed (List.nodup_singleton _)
  rw [show repeated?.search [wanted.primary] wanted.listed = none from unrepeated] at spec
  rw [classes_eq]
  exact spec

/-- The class that is reported as repeated is the first one. -/
theorem repeats_of_repeated? (found : wanted.repeated? = some (act, cls)) :
    wanted.Repeats act cls := by
  have spec := search_spec [wanted.primary] wanted.listed (List.nodup_singleton _)
  rw [show repeated?.search [wanted.primary] wanted.listed = some (act, cls) from found] at spec
  exact spec

/-- A repeated class is named. -/
theorem Repeats.mem (repeats : wanted.Repeats act cls) : cls ∈ wanted.classes := by
  obtain ⟨earlier, later, same, -, -⟩ := repeats
  rw [classes_eq, same]
  simp

/-- Where a class is repeated, the classes are not different. -/
theorem Repeats.twice (repeats : wanted.Repeats act cls) : ¬ wanted.classes.Nodup := by
  obtain ⟨earlier, later, same, found, -⟩ := repeats
  have split : wanted.classes =
      (wanted.primary :: earlier.map (·.2)) ++ cls :: later.map (·.2) := by
    rw [classes_eq, same]
    simp
  rw [split]
  intro distinct
  exact List.disjoint_of_nodup_append distinct found List.mem_cons_self

end TypeDescription

/-! ## Outcomes -/

namespace Scene

/-- The store has all classes and all types of the scene. -/
def Precedes (scene : Scene) (seen : Store) : Prop :=
  scene.hierarchy.Extends seen.hierarchy ∧ scene.types.Extends seen.types

/-- Why a type is refused. -/
inductive Refuses (scene : Scene) (wanted : TypeDescription) : Fault -> Prop where
  | repeated {act : AddingAct} {cls : ClassId} (twice : ¬ wanted.classes.Nodup)
      (again : wanted.Repeats act cls) :
      Refuses scene wanted (.misuse (.repeated wanted.name act (scene.hierarchy.name cls)))
  | adopting (distinct : wanted.classes.Nodup) (replaceable : wanted.isReplaceable = true)
      (others : wanted.isSimple = false) :
      Refuses scene wanted (.internal (.found (.adoptingReplaceable wanted.name)))
  /-- The text is that of the representation that the primary class is bound to. -/
  | notSharable {existing : Representation} {seen : Store} (distinct : wanted.classes.Nodup)
      (replaceable : wanted.isReplaceable = true) (simple : wanted.isSimple = true)
      (bound : scene.bound wanted.primary = some existing) (unshared : existing.isShared = false)
      (precedes : scene.Precedes seen) :
      Refuses scene wanted (.clash {
        mode := .notSharable, cls := wanted.primary
        existing := some (seen.label existing), context := some wanted.name })
  /-- The class is the first of those to be bound that is bound already, the primary one last. -/
  | existing {cls : ClassId} {existing : Representation} {seen : Store}
      (distinct : wanted.classes.Nodup) (fixed : wanted.isReplaceable = false)
      (first : (wanted.adopted ++ [wanted.primary]).find? (fun cls => (scene.bound cls).isSome) =
        some cls)
      (bound : scene.bound cls = some existing) (precedes : scene.Precedes seen) :
      Refuses scene wanted (.clash {
        mode := .existing, cls
        existing := some (seen.label existing), context := some wanted.name })

/-- The bindings of the classes that a type adopts, from a place on. -/
def adoptions (owner : TypeId) (place : Nat) (classes : List ClassId) :
    List (ClassId × Representation) :=
  (classes.zipIdx place).map fun (cls, place) => (cls, .adopted owner place)

/-- What is bound for a new type. -/
inductive Adds (scene : Scene) (types : TypeTable) (wanted : TypeDescription) (type : TypeId) :
    List (ClassId × Representation) -> Prop where
  | nothing {shared : SharedId} (distinct : wanted.classes.Nodup)
      (replaceable : wanted.isReplaceable = true) (simple : wanted.isSimple = true)
      (bound : scene.bound wanted.primary = some (.shared shared)) :
      Adds scene types wanted type []
  | shared {shared : SharedId} (distinct : wanted.classes.Nodup)
      (replaceable : wanted.isReplaceable = true) (simple : wanted.isSimple = true)
      (unbound : scene.bound wanted.primary = none) (fresh : ¬ scene.types.MadeShared shared)
      (made : types.MadeShared shared)
      (own : types.sharedRow shared = {
        hostClass := wanted.primary
        canonicalClass := scene.hierarchy.superclass wanted.primary }) :
      Adds scene types wanted type [(wanted.primary, .shared shared)]
  | classes (distinct : wanted.classes.Nodup) (fixed : wanted.isReplaceable = false)
      (unbound : forall cls, cls ∈ wanted.adopted ++ [wanted.primary] -> scene.bound cls = none)
      (named : (types.row type).selfClasses = wanted.classes) :
      Adds scene types wanted type
        (adoptions type 1 wanted.adopted ++ [(wanted.primary, .canonical type)])

/-- The adopted classes are bound in their order. -/
theorem keys_adoptions (owner : TypeId) (place : Nat) (classes : List ClassId) :
    (adoptions owner place classes).map (·.1) = classes := by
  simp [adoptions, Function.comp_def]

/-- Only unbound classes are bound for a new type. -/
theorem Adds.unbound {scene : Scene} {types : TypeTable} {wanted : TypeDescription} {type : TypeId}
    {added : List (ClassId × Representation)} (adds : scene.Adds types wanted type added) :
    forall binding, binding ∈ added -> scene.bound binding.1 = none := by
  intro binding member
  have key := List.mem_map_of_mem (f := (·.1)) member
  cases adds with
  | nothing => cases member
  | shared _ _ _ unbound =>
      obtain rfl := List.mem_singleton.mp member
      exact unbound
  | classes _ _ unbound _ =>
      apply unbound
      simpa [keys_adoptions] using key

/-- No class is bound twice for a new type. -/
theorem Adds.keys {scene : Scene} {types : TypeTable} {wanted : TypeDescription} {type : TypeId}
    {added : List (ClassId × Representation)} (adds : scene.Adds types wanted type added) :
    (added.map (·.1)).Nodup := by
  cases adds with
  | nothing => exact List.nodup_nil
  | shared => exact List.nodup_singleton _
  | classes distinct =>
      obtain ⟨apart, distinct⟩ := List.nodup_cons.mp distinct
      rw [List.map_append, keys_adoptions]
      apply List.nodup_append.mpr
      refine ⟨(List.nodup_append.mp distinct).1, List.nodup_singleton _, ?_⟩
      rintro adopted member _ primary rfl
      obtain rfl := List.mem_singleton.mp primary
      exact apart (List.mem_append_left _ member)

/-- The state of the factory has no part in refusals. -/
theorem Refuses.relocated {scene : Scene} {factory : Factory} {wanted : TypeDescription}
    {fault : Fault} (refuses : ({ scene with factory } : Scene).Refuses wanted fault) :
    scene.Refuses wanted fault := by
  cases refuses with
  | repeated twice again => exact .repeated twice again
  | adopting distinct replaceable others => exact .adopting distinct replaceable others
  | notSharable distinct replaceable simple bound unshared precedes =>
      exact .notSharable distinct replaceable simple bound unshared precedes
  | existing distinct fixed first bound precedes =>
      exact .existing distinct fixed first bound precedes

/-- What is added for a type does not depend on the lock or the workshop. -/
theorem Adds.relocated {scene : Scene} {factory : Factory} {types : TypeTable}
    {wanted : TypeDescription} {type : TypeId} {added : List (ClassId × Representation)}
    (adds : ({ scene with factory } : Scene).Adds types wanted type added) :
    scene.Adds types wanted type added := by
  cases adds with
  | nothing distinct replaceable simple bound =>
      exact .nothing distinct replaceable simple bound
  | shared distinct replaceable simple unbound fresh made own =>
      exact .shared distinct replaceable simple unbound fresh made own
  | classes distinct fixed unbound named => exact .classes distinct fixed unbound named

/-- The outcome of asking for a type: all or nothing. -/
def Creates (before : Scene) (wanted : TypeDescription) : Except Fault TypeId -> Scene -> Prop
  | .error fault, after => before.Refuses wanted fault ∧ after.bound = before.bound
  | .ok type, after => ¬ before.types.Made type ∧ after.types.Made type ∧
      exists added, before.Adds after.types wanted type added ∧
        (forall cls rep, (cls, rep) ∈ added -> after.bound cls = some rep) ∧
        forall cls, cls ∉ added.map (·.1) -> after.bound cls = before.bound cls

/-- What is added for a type is so while others make types. -/
theorem Adds.grown {scene : Scene} {types later : TypeTable} {wanted : TypeDescription}
    {type : TypeId} {added : List (ClassId × Representation)} (grown : types.Extends later)
    (made : types.Made type) (adds : scene.Adds types wanted type added) :
    scene.Adds later wanted type added := by
  cases adds with
  | nothing distinct replaceable simple bound => exact .nothing distinct replaceable simple bound
  | shared distinct replaceable simple unbound fresh madeShared own =>
      exact .shared distinct replaceable simple unbound fresh (grown.madeShared madeShared)
        ((grown.sharedRow _ madeShared).trans own)
  | classes distinct fixed unbound named =>
      refine .classes distinct fixed unbound ?_
      rw [grown.row type made]
      exact named

/-- The outcome is seen in the store. -/
theorem Creates.shown {before next : Scene} {wanted : TypeDescription}
    {outcome : Except Fault TypeId} {id : FactoryId} {after : Store}
    (creates : before.Creates wanted outcome next) (fits : next.Fits id after) :
    before.Creates wanted outcome (after.scene id) := by
  cases outcome with
  | error fault => exact ⟨creates.1, fits.bound.trans creates.2⟩
  | ok type =>
      obtain ⟨fresh, made, added, adds, bound, others⟩ := creates
      refine ⟨fresh, fits.types.made made, added, adds.grown fits.types made, ?_, ?_⟩
      · intro cls rep member
        exact (congrFun fits.bound cls).trans (bound cls rep member)
      · intro cls absent
        exact (congrFun fits.bound cls).trans (others cls absent)

/-! ## Work in the workshop -/

/-- The scene with other bindings prepared. -/
def drafting (scene : Scene) (unpublished : List (ClassId × Representation)) : Scene :=
  { scene with
    factory := { scene.factory with workshop := { scene.factory.workshop with unpublished } } }

/-- To prepare bindings binds nothing yet. -/
@[simp] theorem bound_drafting (scene : Scene) (unpublished : List (ClassId × Representation)) :
    (scene.drafting unpublished).bound = scene.bound := rfl

/-- What adopting classes leads to: all are prepared, or the first that is bound is refused. -/
def Adopts (scene : Scene) (owner : TypeId) (place : Nat) (classes : List ClassId) :
    Except Fault (Option Fault) -> Scene -> Prop
  | .error _, _ => False
  | .ok none, next => (forall cls, cls ∈ classes -> scene.bound cls = none) ∧
      next = scene.drafting (scene.factory.workshop.unpublished ++ adoptions owner place classes)
  | .ok (some fault), next => (exists unpublished, next = scene.drafting unpublished) ∧
      exists cls existing seen,
        classes.find? (fun cls => (scene.bound cls).isSome) = some cls ∧
          scene.bound cls = some existing ∧ scene.Precedes seen ∧
            fault = .clash {
              mode := .existing, cls, existing := some (seen.label existing)
              context := scene.factory.workshop.context }

/-- Preparing a class leaves the others without a representation. -/
theorem unprepared_drafting {scene : Scene} {cls other : ClassId} {rep : Representation}
    (apart : other ≠ cls) (unprepared : scene.factory.workshop.prepared other = none) :
    (scene.drafting (scene.factory.workshop.unpublished ++ [(cls, rep)])).factory.workshop.prepared
      other = none := by
  apply Workshop.prepared_eq_none.mpr
  intro binding listed
  rcases List.mem_append.mp listed with old | new
  · exact Workshop.prepared_eq_none.mp unprepared binding old
  · obtain rfl := List.mem_singleton.mp new
    exact apart.symm

/-- What the classes after one that was prepared come to is what all of them come to. -/
theorem Adopts.ofPrepared {scene after : Scene} {owner : TypeId} {place : Nat} {cls : ClassId}
    {rest : List ClassId} {later : Option Fault} (bound : scene.bound cls = none)
    (adopts : (scene.drafting (scene.factory.workshop.unpublished ++
      [(cls, .adopted owner place)])).Adopts owner (place + 1) rest (.ok later) after) :
    scene.Adopts owner place (cls :: rest) (.ok later) after := by
  cases later with
  | none =>
      obtain ⟨unbound, same⟩ := adopts
      constructor
      · simpa [bound] using unbound
      · simpa [adoptions, drafting, List.zipIdx_cons] using same
  | some fault =>
      obtain ⟨drafted, refused, existing, seen, first, refusal⟩ := adopts
      refine ⟨drafted, refused, existing, seen, ?_, refusal⟩
      simpa [List.find?_cons, bound] using first

/-- The first class that is refused decides, whatever the classes after it come to. -/
theorem Adopts.ofRefused {scene after : Scene} {seen : Store} {owner : TypeId} {place : Nat}
    {cls : ClassId}
    {rest : List ClassId} {later : Option Fault} {existing : Representation}
    (bound : scene.bound cls = some existing) (precedes : scene.Precedes seen)
    (adopts : scene.Adopts owner (place + 1) rest (.ok later) after) :
    scene.Adopts owner place (cls :: rest) (.ok (some (.clash {
      mode := .existing, cls, existing := some (seen.label existing)
      context := scene.factory.workshop.context }))) after := by
  refine ⟨?_, cls, existing, seen, by simp [bound], bound, precedes, rfl⟩
  cases later with
  | none => exact ⟨_, adopts.2⟩
  | some fault => exact adopts.1

/-- What is published or prepared for a class. -/
def sees (scene : Scene) (cls : ClassId) : Option Representation :=
  (scene.bound cls).or (scene.factory.workshop.prepared cls)

/-- The row of the type that a description asks for, by the types that were seen. Without bases
it has the root type as its base. -/
def described (scene : Scene) (wanted : TypeDescription) (seen : TypeTable) (primary : ClassId)
    (others : List ClassId) (kind : TypeKind) : GuestType :=
  let bases := if wanted.bases.isEmpty then [scene.factory.objectType] else wanted.bases
  let features :=
    match kind with
    | .replaceable _ => wanted.features.union .replaceable
    | .simple | .adoptive _ => wanted.features
  { name := wanted.name, bases, features, kernel := seen.effectiveKernel wanted.kernel bases
    primary, others, kind }

/-- The scene with an empty workshop. -/
def emptied (scene : Scene) : Scene :=
  { scene with
    factory := { scene.factory with
      workshop := { scene.factory.workshop with tasks := [], unpublished := [] } } }

/-- The scene at the beginning of the outermost request, under a lock. -/
def begun (scene : Scene) (lock : Lock) (tasks : List String) : Scene :=
  { scene with factory := { scene.factory with lock, workshop := { depth := 1, tasks } } }

/-- No class is made when a request begins. -/
@[simp] theorem hierarchy_begun (scene : Scene) (lock : Lock) (tasks : List String) :
    (scene.begun lock tasks).hierarchy = scene.hierarchy := rfl

/-- No class is bound when a request begins. -/
@[simp] theorem bound_begun (scene : Scene) (lock : Lock) (tasks : List String) :
    (scene.begun lock tasks).bound = scene.bound := rfl

/-- The scene after the outermost request. -/
def rested (scene : Scene) : Scene :=
  { scene with factory := { scene.factory with workshop := {} } }

/-- What a description leads to before anything is published. -/
def Drafts (scene : Scene) (wanted : TypeDescription) (outcome : Except Fault TypeId)
    (next : Scene) : Prop :=
  exists unpublished types, scene.types.Extends types ∧
    next = { scene.drafting unpublished with types } ∧
      match outcome with
      | .error fault => scene.Refuses wanted fault
      | .ok type => ¬ scene.types.Made type ∧ types.Made type ∧
          scene.Adds types wanted type unpublished

namespace AttainsOn

variable {σ : Type} {thread : ThreadId} {id : FactoryId} {stage : Stage id} {scene : Scene}
    {cls : ClassId}
  {rep existing : Representation}

/-- What is published for a class is seen in the scene. -/
theorem published {leads : Except Fault (Option Representation) -> Scene -> Prop}
    (ends : leads (.ok (scene.bound cls)) scene) :
    scene.AttainsOn (σ := σ) stage thread (id.published cls) leads := by
  apply bind
  apply view
  exact registryStep (fun _ shown => ⟨congrFun shown cls, shown, _, rfl⟩) ends

/-- So is what is prepared for it. -/
theorem found {leads : Except Fault (Option Representation) -> Scene -> Prop}
    (ends : leads (.ok (scene.sees cls)) scene) :
    scene.AttainsOn (σ := σ) stage thread (id.found cls) leads := by
  apply bind
  apply published
  unfold sees at ends
  cases bound : scene.bound cls with
  | some rep =>
      rw [bound] at ends
      exact pure ends
  | none =>
      rw [bound] at ends
      exact view ends

/-- A clash names what the class is bound to. -/
theorem clash {α : Type} {mode : ClashMode} {context : Option String}
    {leads : Except Fault α -> Scene -> Prop}
    (ends : forall seen, scene.Precedes seen -> leads (.error (.clash {
      mode, cls, existing := some (seen.label existing), context })) scene) :
    scene.AttainsOn (σ := σ) stage thread (FactoryId.clash mode cls existing context) leads := by
  apply bind
  apply observe
  intro now fits
  have fits := stage.shows fits
  exact throw (ends now ⟨fits.hierarchy, fits.types⟩)

/-- A binding is prepared for a class that has none. -/
theorem drafting_prepare (unprepared : scene.factory.workshop.prepared cls = none) :
    { scene with
      factory := { scene.factory with workshop := scene.factory.workshop.prepare cls rep } } =
      scene.drafting (scene.factory.workshop.unpublished ++ [(cls, rep)]) := by
  rw [← Workshop.unpublished_prepare rep unprepared]
  rfl

/-- A class of which nothing is seen is prepared. -/
theorem prepare_unseen {leads : Except Fault Unit -> Scene -> Prop}
    (unseen : scene.sees cls = none)
    (ends : leads (.ok ())
      (scene.drafting (scene.factory.workshop.unpublished ++ [(cls, rep)]))) :
    scene.AttainsOn (σ := σ) stage thread (id.prepare cls rep) leads := by
  apply bind
  apply found
  rw [unseen]
  apply step rfl
  rw [drafting_prepare (Option.or_eq_none_iff.mp unseen).2]
  exact ends

/-- A class of which something is seen is refused. -/
theorem prepare_seen {leads : Except Fault Unit -> Scene -> Prop}
    (seen : scene.sees cls = some existing)
    (ends : forall seen, scene.Precedes seen -> leads (.error (.clash {
      mode := .existing, cls, existing := some (seen.label existing)
      context := scene.factory.workshop.context })) scene) :
    scene.AttainsOn (σ := σ) stage thread (id.prepare cls rep) leads := by
  apply bind
  apply found
  rw [seen]
  apply bind
  apply view
  exact clash ends

/-- The adopted classes are prepared, or the first that is bound is refused. -/
theorem adopt {owner : TypeId} {place : Nat} {classes : List ClassId} (distinct : classes.Nodup)
    (unprepared : forall cls, cls ∈ classes -> scene.factory.workshop.prepared cls = none) :
    scene.AttainsOn (σ := σ) stage thread (id.adopt owner place classes)
      (scene.Adopts owner place classes) := by
  induction classes generalizing place scene with
  | nil =>
      refine pure ⟨nofun, ?_⟩
      simp [adoptions, drafting]
  | cons cls rest inductionHypothesis =>
      obtain ⟨apart, distinct⟩ := List.nodup_cons.mp distinct
      have unpreparedRest : forall cls, cls ∈ rest -> scene.factory.workshop.prepared cls = none :=
        fun other member => unprepared other (List.mem_cons_of_mem cls member)
      unfold FactoryId.adopt
      apply bind
      apply attempt
      cases bound : scene.bound cls with
      | none =>
          apply prepare_unseen (Option.or_eq_none_iff.mpr
            ⟨bound, unprepared cls List.mem_cons_self⟩)
          apply bind
          apply (inductionHypothesis distinct fun other member =>
            unprepared_drafting (by rintro rfl; exact apart member)
              (unpreparedRest other member)).weaken
          rintro (fault | later) after adopts
          · exact adopts.elim
          · exact pure (adopts.ofPrepared bound)
      | some existing =>
          have seen : scene.sees cls = some existing := by simp [sees, bound]
          apply prepare_seen seen
          intro seen precedes
          apply bind
          apply (inductionHypothesis distinct unpreparedRest).weaken
          rintro (fault | later) after adopts
          · exact adopts.elim
          · exact pure (adopts.ofRefused bound precedes)

/-- The type that a description asks for is added, with the kernel flags that were seen. -/
theorem addDescribed {wanted : TypeDescription} {primary : ClassId} {others : List ClassId}
    {kind : TypeKind} {leads : Except Fault TypeId -> Scene -> Prop}
    (ends : forall seen types, scene.types.Extends seen -> stage.finds scene.types types ->
      scene.types.Extends types ->
        let row := scene.described wanted seen primary others kind
        leads (.ok (types.add row).1) { scene with types := (types.add row).2 }) :
    scene.AttainsOn (σ := σ) stage thread (id.addType wanted primary others kind) leads := by
  apply bind
  apply view
  apply bind
  apply observe
  intro now fits
  exact addRow fun types found grown => ends now.types types (stage.shows fits).types found grown

/-- A type is added that was not made before. -/
theorem addType {wanted : TypeDescription} {primary : ClassId} {others : List ClassId}
    {kind : TypeKind} {leads : Except Fault TypeId -> Scene -> Prop}
    (ends : forall made types, scene.types.Extends types -> ¬ scene.types.Made made ->
      types.Made made -> (types.row made).selfClasses = primary :: others ->
        leads (.ok made) { scene with types }) :
    scene.AttainsOn (σ := σ) stage thread (id.addType wanted primary others kind) leads := by
  apply addDescribed
  intro seen types _ _ grown row
  apply ends
  · exact grown.trans (types.extends_add row)
  · exact fun was => types.not_made_add row (grown.made was)
  · exact types.made_add row
  · rw [TypeTable.row_add, if_pos (by rfl)]
    rfl

/-- A class that is bound to a shared representation is shared as it is. -/
theorem shareBound {wanted : TypeDescription} {shared : SharedId}
    {leads : Except Fault SharedId -> Scene -> Prop}
    (sees : scene.sees wanted.primary = some (.shared shared)) (ends : leads (.ok shared) scene) :
    scene.AttainsOn (σ := σ) stage thread (id.shareClass wanted) leads := by
  apply bind
  apply found
  rw [sees]
  exact pure ends

/-- For a class that is bound to nothing a shared representation is made and prepared. -/
theorem shareUnbound {wanted : TypeDescription} {leads : Except Fault SharedId -> Scene -> Prop}
    (declared : scene.hierarchy.Declared wanted.primary) (unseen : scene.sees wanted.primary = none)
    (ends : forall shared types, scene.types.Extends types -> ¬ scene.types.MadeShared shared ->
      types.MadeShared shared ->
      types.sharedRow shared = {
        hostClass := wanted.primary
        canonicalClass := scene.hierarchy.superclass wanted.primary } ->
      leads (.ok shared) { scene.drafting
        (scene.factory.workshop.unpublished ++ [(wanted.primary, .shared shared)]) with types }) :
    scene.AttainsOn (σ := σ) stage thread (id.shareClass wanted) leads := by
  apply bind
  apply found
  rw [unseen]
  apply bind
  apply observe
  intro now fits
  have fits := stage.shows fits
  apply bind
  apply addShared
  rw [fits.hierarchy.superclass declared]
  intro found _ grown
  let row : SharedRepresentation :=
    { hostClass := wanted.primary, canonicalClass := scene.hierarchy.superclass wanted.primary }
  have fresh : ¬ scene.types.MadeShared (found.addShared row).1 :=
    fun was => found.not_madeShared_addShared row (grown.madeShared was)
  have own : (found.addShared row).2.sharedRow (found.addShared row).1 = row :=
    (found.sharedRow_addShared row (found.addShared row).1).trans (if_pos rfl)
  apply bind
  refine prepare_unseen unseen ?_
  apply pure
  exact ends (found.addShared row).1 (found.addShared row).2
    (grown.trans (found.extends_addShared row)) fresh (found.madeShared_addShared row) own

/-- Sharing the primary class finds or prepares the shared representation, or is refused. -/
theorem shareClass {wanted : TypeDescription} {leads : Except Fault SharedId -> Scene -> Prop}
    (distinct : wanted.classes.Nodup) (replaceable : wanted.isReplaceable = true)
    (simple : wanted.isSimple = true) (declared : scene.hierarchy.Declared wanted.primary)
    (empty : scene.factory.workshop.unpublished = [])
    (refused : forall fault, scene.Refuses wanted fault -> leads (.error fault) scene)
    (ends : forall shared unpublished types, scene.types.Extends types ->
      (forall later type, types.Extends later -> scene.Adds later wanted type unpublished) ->
        leads (.ok shared) { scene.drafting unpublished with types }) :
    scene.AttainsOn (σ := σ) stage thread (id.shareClass wanted) leads := by
  have sees : scene.sees wanted.primary = scene.bound wanted.primary := by
    simp [Scene.sees, Workshop.prepared, empty]
  cases bound : scene.bound wanted.primary with
  | none =>
      apply shareUnbound declared (sees.trans bound)
      intro shared types grown fresh made own
      rw [empty]
      apply ends shared _ types grown
      intro later type further
      exact .shared distinct replaceable simple bound fresh (further.madeShared made)
        ((further.sharedRow shared made).trans own)
  | some existing =>
      rw [bound] at sees
      cases existing with
      | canonical _ | adopted _ _ =>
          apply bind
          apply found
          rw [sees]
          apply clash
          intro seen precedes
          exact refused _ (.notSharable distinct replaceable simple bound rfl precedes)
      | shared shared =>
          apply shareBound sees
          have same : scene.drafting [] = scene := by
            rw [← empty]
            rfl
          have ends := ends shared [] scene.types (.refl _) fun _ _ _ =>
            .nothing distinct replaceable simple bound
          rw [same] at ends
          exact ends

/-- A replaceable type that lists no classes comes to share a representation. -/
theorem addReplaceable {wanted : TypeDescription} (distinct : wanted.classes.Nodup)
    (replaceable : wanted.isReplaceable = true) (simple : wanted.isSimple = true)
    (declared : scene.hierarchy.Declared wanted.primary)
    (empty : scene.factory.workshop.unpublished = []) :
    scene.AttainsOn (σ := σ) stage thread (do
      let shared <- id.shareClass wanted
      let primary <- Request.observe fun store => (store.types.sharedRow shared).hostClass
      id.addType wanted primary [] (.replaceable shared)) (scene.Drafts wanted) := by
  apply bind
  apply shareClass distinct replaceable simple declared empty
  · intro fault refuses
    exact ⟨_, scene.types, .refl _, rfl, refuses⟩
  · intro shared unpublished types grown adds
    apply bind
    apply observe
    intro now fits
    have fits := stage.shows fits
    apply addType
    intro made later further fresh made_ _
    exact ⟨unpublished, later, grown.trans further, rfl, fun was => fresh (grown.made was), made_,
      adds later made further⟩

/-- Once the adopted classes are prepared, the primary class decides. -/
theorem preparePrimary {wanted : TypeDescription} {type : TypeId} {types : TypeTable}
    (distinct : wanted.classes.Nodup) (fixed : wanted.isReplaceable = false)
    (context : scene.factory.workshop.context = some wanted.name)
    (unbound : forall cls, cls ∈ wanted.adopted -> scene.bound cls = none)
    (grown : scene.types.Extends types) (fresh : ¬ scene.types.Made type)
    (made : types.Made type) (named : (types.row type).selfClasses = wanted.classes) :
    ({ scene.drafting (adoptions type 1 wanted.adopted) with types } : Scene).AttainsOn (σ := σ)
      stage thread (do
        id.prepare wanted.primary (.canonical type)
        return type) (scene.Drafts wanted) := by
  let drafted : Scene := { scene.drafting (adoptions type 1 wanted.adopted) with types }
  have unprepared : drafted.factory.workshop.prepared wanted.primary = none := by
    apply Workshop.prepared_eq_none.mpr
    intro binding listed
    obtain ⟨⟨cls, place⟩, member, rfl⟩ := List.mem_map.mp listed
    have adopted : cls ∈ wanted.adopted := List.fst_mem_of_mem_zipIdx member
    rintro rfl
    exact (List.nodup_cons.mp distinct).1 (List.mem_append_left _ adopted)
  apply bind
  cases bound : scene.bound wanted.primary with
  | none =>
      have unseen : drafted.sees wanted.primary = none :=
        Option.or_eq_none_iff.mpr ⟨bound, unprepared⟩
      apply prepare_unseen unseen
      apply pure
      refine ⟨_, types, grown, rfl, fresh, made, .classes distinct fixed ?_ named⟩
      intro cls member
      rcases List.mem_append.mp member with adopted | primary
      · exact unbound cls adopted
      · obtain rfl := List.mem_singleton.mp primary
        exact bound
  | some existing =>
      have seen : drafted.sees wanted.primary = some existing := by
        unfold sees
        rw [unprepared, show drafted.bound wanted.primary = some existing from bound]
        rfl
      apply prepare_seen seen
      intro seen precedes
      rw [show drafted.factory.workshop.context = some wanted.name from context]
      refine ⟨_, types, grown, rfl, .existing distinct fixed ?_ bound
        ⟨precedes.1, grown.trans precedes.2⟩⟩
      rw [List.find?_append, List.find?_eq_none.mpr]
      · simp [bound]
      · intro cls member
        simp [unbound cls member]

/-- A type that lists no classes is bound to its primary class, or refused. -/
theorem addSimple {wanted : TypeDescription} (distinct : wanted.classes.Nodup)
    (fixed : wanted.isReplaceable = false) (simple : wanted.isSimple = true)
    (empty : scene.factory.workshop.unpublished = [])
    (context : scene.factory.workshop.context = some wanted.name) :
    scene.AttainsOn (σ := σ) stage thread (do
      let type <- id.addType wanted wanted.primary [] .simple
      id.prepare wanted.primary (.canonical type)
      return type) (scene.Drafts wanted) := by
  obtain ⟨adopted, accepted⟩ := Bool.and_eq_true_iff.mp simple
  have none_ : wanted.adopted = [] := List.isEmpty_iff.mp adopted
  have noneAccepted : wanted.accepted = [] := List.isEmpty_iff.mp accepted
  apply bind
  apply addType
  intro type types grown fresh made named
  have start : ({ scene.drafting (adoptions type 1 wanted.adopted) with types } : Scene) =
      { scene with types } := by
    rw [none_, show adoptions type 1 [] = scene.factory.workshop.unpublished from empty.symm]
    rfl
  show ({ scene with types } : Scene).AttainsOn stage thread _ _
  rw [← start]
  apply preparePrimary distinct fixed context _ grown fresh made
  · simpa [TypeDescription.classes, none_, noneAccepted] using named
  · simp [none_]

/-- A type that lists classes adopts them, or is refused. -/
theorem addAdoptive {wanted : TypeDescription} (distinct : wanted.classes.Nodup)
    (fixed : wanted.isReplaceable = false) (empty : scene.factory.workshop.unpublished = [])
    (context : scene.factory.workshop.context = some wanted.name) :
    scene.AttainsOn (σ := σ) stage thread (do
      let type <- id.addType wanted wanted.primary (wanted.adopted ++ wanted.accepted)
        (.adoptive wanted.adopted.length)
      if let some fault <- id.adopt type 1 wanted.adopted then MonadExcept.throw fault
      id.prepare wanted.primary (.canonical type)
      return type) (scene.Drafts wanted) := by
  have adopted : wanted.adopted.Nodup :=
    (List.nodup_append.mp (List.nodup_cons.mp distinct).2).1
  apply bind
  apply addType
  intro type types grown fresh made named
  apply bind
  apply (adopt adopted ?_).weaken
  · rintro (fault | refused) after adopts
    · exact adopts.elim
    cases refused with
    | some fault =>
        obtain ⟨⟨unpublished, rfl⟩, cls, existing, seen, first, bound, precedes, rfl⟩ := adopts
        apply throw
        refine ⟨unpublished, types, grown, rfl, ?_⟩
        rw [show ({ scene with types } : Scene).factory.workshop.context = some wanted.name
          from context]
        refine .existing distinct fixed ?_ bound ⟨precedes.1, grown.trans precedes.2⟩
        rw [List.find?_append, first]
        rfl
    | none =>
        obtain ⟨unbound, rfl⟩ := adopts
        rw [show ({ scene with types } : Scene).factory.workshop.unpublished = [] from empty]
        exact preparePrimary distinct fixed context unbound grown fresh made named
  · intro cls _
    simp [Workshop.prepared, empty]

/-- A description is drafted, or refused, before anything is published. -/
theorem addPartial {wanted : TypeDescription}
    (declared : forall cls, cls ∈ wanted.classes -> scene.hierarchy.Declared cls)
    (empty : scene.factory.workshop.unpublished = [])
    (context : scene.factory.workshop.context = some wanted.name) :
    scene.AttainsOn (σ := σ) stage thread (id.addPartial wanted) (scene.Drafts wanted) := by
  unfold FactoryId.addPartial
  cases repeated : wanted.repeated? with
  | some entry =>
      obtain ⟨act, cls⟩ := entry
      have again := TypeDescription.repeats_of_repeated? repeated
      apply bind
      apply observe
      intro now fits
      have fits := stage.shows fits
      apply throw
      refine ⟨scene.factory.workshop.unpublished, scene.types, .refl _, rfl, ?_⟩
      have same : now.hierarchy.name cls = scene.hierarchy.name cls := by
        unfold Hierarchy.name
        rw [fits.hierarchy.row cls (declared cls again.mem)]
      rw [same]
      exact .repeated again.twice again
  | none =>
      have distinct := TypeDescription.nodup_of_repeated? repeated
      dsimp only
      by_cases replaceable : wanted.isReplaceable = true
      · rw [if_pos replaceable]
        by_cases simple : wanted.isSimple = true
        · rw [if_neg (by simp [simple])]
          exact addReplaceable distinct replaceable simple (declared _ List.mem_cons_self) empty
        · rw [if_pos (by simp [simple])]
          apply throw
          refine ⟨scene.factory.workshop.unpublished, scene.types, .refl _, rfl, ?_⟩
          exact .adopting distinct replaceable (Bool.eq_false_iff.mpr simple)
      · have fixed : wanted.isReplaceable = false := Bool.eq_false_iff.mpr replaceable
        rw [if_neg replaceable]
        by_cases simple : wanted.isSimple = true
        · rw [if_pos simple]
          exact addSimple distinct fixed simple empty context
        · rw [if_neg simple]
          exact addAdoptive distinct fixed empty context

/-! ## Publication -/

/-- With no class bound yet, all that was prepared is still to be published. -/
theorem unpublished {bindings : List (ClassId × Representation)}
    {leads : Except Fault (List (ClassId × Representation)) -> Scene -> Prop}
    (unbound : forall binding, binding ∈ bindings -> scene.bound binding.1 = none)
    (ends : leads (.ok bindings) scene) :
    scene.AttainsOn (σ := σ) stage thread (id.unpublished bindings) leads := by
  induction bindings generalizing leads with
  | nil => exact pure ends
  | cons binding rest inductionHypothesis =>
      apply bind
      apply published
      rw [unbound binding List.mem_cons_self]
      apply bind
      apply inductionHypothesis fun other member => unbound other (List.mem_cons_of_mem _ member)
      exact pure ends

/-- A batch of classes that are not bound is bound as a whole. -/
theorem registerAll {bindings : List (ClassId × Representation)}
    {leads : Except Fault (Option (ClassId × Representation)) -> Scene -> Prop}
    (unbound : forall binding, binding ∈ bindings -> scene.bound binding.1 = none)
    (ends : leads (.ok none) { scene with bound := Registry.batch scene.bound bindings }) :
    scene.AttainsOn (σ := σ) stage thread
      (scene.factory.registry.step (.registerAll bindings)) leads := by
  refine registryStep ?_ ends
  intro registry shown
  have free : registry.clash? bindings = none := by
    apply Registry.clash?_eq_none.mpr
    rw [shown]
    exact unbound
  simp only [Registry.Step.perform, free, Registry.lookup_batch, shown, true_and,
    Registry.rebinds_bindAll]

/-- All that was prepared is bound at once. -/
theorem publishAll {leads : Except Fault Unit -> Scene -> Prop}
    (unbound : forall binding, binding ∈ scene.factory.workshop.unpublished ->
      scene.bound binding.1 = none)
    (ends : leads (.ok ()) { scene.emptied with
      bound := Registry.batch scene.bound scene.factory.workshop.unpublished }) :
    scene.AttainsOn (σ := σ) stage thread id.publishAll leads := by
  apply bind
  apply step rfl
  apply bind
  show scene.emptied.AttainsOn stage thread _ _
  refine unpublished unbound ?_
  apply bind
  apply view
  apply bind
  refine registerAll unbound ?_
  exact pure ends

/-- The outermost request publishes what its work prepared, or forgets it. -/
theorem conclude {α : Type} {work : Request σ α} {leads : Except Fault α -> Scene -> Prop}
    (attains : scene.AttainsOn stage thread work fun outcome next =>
      next.factory.workshop.depth = 1 ∧
        match outcome with
        | .ok answer =>
            (forall binding, binding ∈ next.factory.workshop.unpublished ->
              next.bound binding.1 = none) ∧
              leads (.ok answer) { next.rested with
                bound := Registry.batch next.bound next.factory.workshop.unpublished }
        | .error fault => leads (.error fault) next.rested) :
    scene.AttainsOn stage thread (id.conclude work) leads := by
  apply bind
  apply attempt
  apply attains.weaken
  rintro outcome next ⟨depth, ends⟩
  have outermost : Factory.Step.finish.perform thread next.factory =
      some (true, { next.factory with
        workshop := { next.factory.workshop with depth := 0 } }) := by
    simp [Factory.Step.perform, depth]
  apply bind
  apply step outermost
  cases outcome with
  | ok answer =>
      obtain ⟨unbound, ends⟩ := ends
      apply bind
      refine publishAll unbound ?_
      exact pure ends
  | error fault =>
      apply bind
      apply step rfl
      exact throw ends

/-- Work under a lock that the thread can take, which is given back once afterwards. -/
theorem taking {α : Type} {work : Request σ α} {leads : Except Fault α -> Scene -> Prop}
    {taken : Lock} (acquires : scene.factory.lock.acquire thread = some taken)
    (attains : AttainsOn { scene with factory := { scene.factory with lock := taken } }
      stage thread work fun outcome next => next.factory.lock = taken ∧
        leads outcome { next with factory := { next.factory with lock := taken.release thread } }) :
    scene.AttainsOn stage thread (id.locked work) leads := by
  have acquired : Factory.Step.acquire.perform thread scene.factory =
      some ((), { scene.factory with lock := taken }) := by
    simp [Factory.Step.perform, acquires]
  apply bind
  apply step acquired
  apply bind
  apply attempt
  apply attains.weaken
  rintro outcome next ⟨held, ends⟩
  have released : Factory.Step.release.perform thread next.factory =
      some ((), { next.factory with lock := taken.release thread }) := by
    simp [Factory.Step.perform, held]
  apply bind
  apply step released
  exact ofExcept ends

/-- Work under a lock that is free, which is given back afterwards. -/
theorem locked {α : Type} {work : Request σ α} {leads : Except Fault α -> Scene -> Prop}
    (free : scene.factory.lock = .free)
    (attains : AttainsOn { scene with factory := { scene.factory with lock := .held thread 0 } }
      stage thread work fun outcome next => next.factory.lock = .held thread 0 ∧
        leads outcome { next with factory := { next.factory with lock := .free } }) :
    scene.AttainsOn stage thread (id.locked work) leads := by
  have acquires : scene.factory.lock.acquire thread = some (.held thread 0) := by
    rw [free]
    rfl
  have released : (Lock.held thread 0).release thread = .free := by simp [Lock.release]
  apply taking acquires
  rw [released]
  exact attains

/-- A factory at rest creates a type or refuses it, and is as it was. -/
theorem create {wanted : TypeDescription} (free : scene.factory.lock = .free)
    (resting : scene.factory.workshop = {})
    (declared : forall cls, cls ∈ wanted.classes -> scene.hierarchy.Declared cls) :
    scene.AttainsOn (σ := σ) stage thread (id.create wanted) fun outcome next =>
      scene.Creates wanted outcome next ∧ next.factory = scene.factory := by
  have drafts : (scene.begun (.held thread 0) [wanted.name]).AttainsOn (σ := σ) stage thread
      (id.addPartial wanted) _ := addPartial declared rfl rfl
  -- When the lock is given back, the factory is as it was.
  have same := Factory.eq_of_rest free resting
  apply locked free
  apply bind
  apply step rfl
  apply conclude
  apply bind
  apply view
  apply bind
  apply record
  simp only [resting]
  apply drafts.weaken
  rintro (fault | type) next ⟨added, types, grown, rfl, drafted⟩
  · exact ⟨rfl, rfl, ⟨drafted.relocated, rfl⟩, same⟩
  · obtain ⟨fresh, made, adds⟩ := drafted
    refine ⟨rfl, adds.unbound, rfl, ⟨fresh, made, added, adds.relocated, ?_, ?_⟩, same⟩
    · intro cls rep member
      exact Registry.batch_chosen adds.keys member
    · intro cls absent
      exact Registry.batch_absent absent

end AttainsOn

end Scene

/-- A factory that was asked for a type has created or refused it, and is as it was. -/
def Store.Creates (before : Store) (factory : FactoryId) (wanted : TypeDescription)
    (outcome : Except Fault TypeId) (after : Store) : Prop :=
  (before.scene factory).Creates wanted outcome (after.scene factory) ∧
    after.factory factory = before.factory factory

namespace Machine

variable {σ : Type} {code : ClientCode σ} {machine : Machine (Clients σ)} {factory : FactoryId}
  {wanted : TypeDescription}

/-- The classes that host code names exist. -/
theorem declared_of_mayCall {now : Instant σ} (valid : now.world.Valid)
    (may : now.host.mayCall now.store (.create factory wanted) = true) :
    forall cls, cls ∈ wanted.classes -> now.store.hierarchy.Declared cls := by
  simp only [Clients.mayCall, Bool.and_eq_true, List.all_eq_true] at may
  intro cls named
  exact (open_of_knowsClass valid (may.1.1.1 cls named)).1

/-- A factory at rest that may be asked for a type answers, whatever the other threads do that
spares it: it creates the type or refuses it for one of the reasons there are, and is at rest
again. A thread that goes on alone comes to that answer. -/
theorem create_all_or_nothing (reachable : machine.Reachable code)
    (may : machine.host.mayCall machine.store (.create factory wanted) = true)
    (free : (machine.store.factory factory).lock = .free) (thread : ThreadId) :
    (factory.create wanted : Request (Clients σ) TypeId).run.Delivers thread
      (Store.Spares factory) machine.store (machine.store.Creates factory wanted) ∧
    forall next frames, machine.threads[thread.index]? =
        some (.running ((factory.create wanted).run.bind next) frames) ->
      exists outcome later, machine.store.Creates factory wanted outcome later.store ∧
        later.host = machine.host ∧
          later.threads[thread.index]? = some (.running (next outcome) frames) ∧
            Machine.Steps code.host machine later := by
  have delivers : (factory.create wanted : Request (Clients σ) TypeId).run.Delivers thread
      (Store.Spares factory) machine.store (machine.store.Creates factory wanted) := by
    obtain ⟨now, kept⟩ := reachable.kept
    rw [kept.host, kept.store] at may
    rw [kept.store] at free ⊢
    have resting := (kept.valid.resting factory free).1
    have declared := declared_of_mayCall kept.valid may
    have attains : (now.store.scene factory).Attains (σ := Clients σ) thread factory
        (factory.create wanted) _ := .create free resting declared
    apply (attains now.store (now.store.fits_scene factory)).weaken
    rintro outcome after ⟨next, ⟨creates, same⟩, fits⟩
    exact ⟨creates.shown fits, fits.factory.trans same⟩
  exact ⟨delivers, fun _ _ => delivers.steps reachable.guarded code.guarded_host
    (Store.spares_guards · · factory)⟩

/-- Host code that creates a type for texts. -/
def creatingText : Client Unit (Except Fault Unit) :=
  .call (.makeFactory {}) fun
    | .error fault => .done (.error fault)
    | .ok factory =>
        .call (.create factory { name := "text", primary := Builtin.text }) fun _ => .done (.ok ())

/-- A type that adopts texts is refused then, and does not get its primary class either. -/
theorem create_all_or_nothing_creatingText :
    let machine := Machine.run ClientCode.quiet.host 40 (opening creatingText ())
    let wanted : TypeDescription :=
      { name := "dict", primary := Builtin.dict, adopted := [Builtin.text] }
    machine.bound (machine.registryOf ⟨0⟩) Builtin.text = some (.canonical ⟨2⟩) ∧
      (FactoryId.create ⟨0⟩ wanted : Request (Clients Unit) TypeId).run.Delivers ⟨0⟩
        (Store.Spares ⟨0⟩) machine.store fun outcome after =>
          (exists fault, outcome = .error fault) ∧
            after.bound ⟨0⟩ Builtin.dict = machine.store.bound ⟨0⟩ Builtin.dict := by
  intro machine wanted
  have reachable : machine.Reachable ClientCode.quiet :=
    reachable_run ClientCode.quiet creatingText () 40
  have bound : machine.bound (machine.registryOf ⟨0⟩) Builtin.text = some (.canonical ⟨2⟩) := by
    decide +kernel
  have may : machine.host.mayCall machine.store (.create ⟨0⟩ wanted) = true := by decide +kernel
  have free : (machine.store.factory ⟨0⟩).lock = .free := by decide +kernel
  have fixed : wanted.isReplaceable = false := by decide +kernel
  clear_value machine
  have delivers := (create_all_or_nothing reachable may free ⟨0⟩).1
  refine ⟨bound, delivers.weaken ?_⟩
  rintro (fault | type) after ⟨creates, -⟩
  · exact ⟨⟨fault, rfl⟩, congrFun creates.2 Builtin.dict⟩
  · obtain ⟨-, -, added, adds, -⟩ := creates
    cases adds with
    | nothing _ replaceable => cases fixed.symm.trans replaceable
    | shared _ replaceable => cases fixed.symm.trans replaceable
    | classes _ _ unbound => cases (unbound Builtin.text List.mem_cons_self).symm.trans bound

end Machine

end GuestTypes
