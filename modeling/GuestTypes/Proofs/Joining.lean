import GuestTypes.Proofs.CreationOutcome

/-!
# Types that join a class

A type that asks for no class but one that may be shared is never refused: it joins the shared
representation that the class is bound to, or the class is bound to a new one. This is so under
any lock that the thread can take, so also inside a larger request.
-/

namespace GuestTypes

namespace Scene

variable {scene next : Scene} {cls : ClassId} {type : TypeId} {rep : Representation}

/-- The class may be shared: if it is bound, it is bound to a shared representation of its own. -/
def Sharable (scene : Scene) (cls : ClassId) : Prop :=
  forall rep, scene.bound cls = some rep -> exists shared, rep = .shared shared ∧
    scene.types.MadeShared shared ∧ (scene.types.sharedRow shared).hostClass = cls

/-- A new type joined a class: it shares the representation that the class is bound to
afterwards. Nothing else was bound, and nothing that was bound was bound anew. -/
structure Joins (scene : Scene) (cls : ClassId) (type : TypeId) (next : Scene) : Prop where
  factory : next.factory = scene.factory
  hierarchy : next.hierarchy = scene.hierarchy
  types : scene.types.Extends next.types
  fresh : ¬ scene.types.Made type
  made : next.types.Made type
  primary : (next.types.row type).primary = cls
  shares : exists shared, (next.types.row type).kind = .replaceable shared ∧
    next.bound cls = some (.shared shared)
  kept : forall other rep, scene.bound other = some rep -> next.bound other = some rep
  others : forall other, other ≠ cls -> next.bound other = scene.bound other

/-- What is seen of the store is a type that joined the class as well. -/
theorem Joins.shown {id : FactoryId} {after : Store} (joins : scene.Joins cls type next)
    (fits : next.Fits id after) : after.types.Made type ∧ (after.types.row type).primary = cls ∧
      exists shared, (after.types.row type).kind = .replaceable shared ∧
        after.bound id cls = some (.shared shared) := by
  rw [fits.bound, fits.types.row type joins.made]
  exact ⟨fits.types.made joins.made, joins.primary, joins.shares⟩

namespace AttainsOn

variable {σ : Type} {thread : ThreadId} {id : FactoryId} {stage : Stage id}
  {wanted : TypeDescription}

/-- A type is added that shares a representation of its primary class. -/
theorem addSharing {shared : SharedId} {leads : Except Fault TypeId -> Scene -> Prop}
    (made : scene.types.MadeShared shared)
    (host : (scene.types.sharedRow shared).hostClass = wanted.primary)
    (ends : forall type types, scene.types.Extends types -> ¬ scene.types.Made type ->
      types.Made type -> (types.row type).primary = wanted.primary ->
      (types.row type).kind = .replaceable shared -> leads (.ok type) { scene with types }) :
    scene.AttainsOn (σ := σ) stage thread (do
      let primary <- Request.observe fun store => (store.types.sharedRow shared).hostClass
      id.addType wanted primary [] (.replaceable shared)) leads := by
  apply bind
  apply observe
  intro now fits
  have same : (now.types.sharedRow shared).hostClass = wanted.primary := by
    rw [(stage.shows fits).types.sharedRow shared made]
    exact host
  rw [same]
  apply addDescribed
  intro seen types _ _ grown row
  have added : (types.add row).2.row (types.add row).1 = row.groundedAt types.types.size :=
    (types.row_add row _).trans (if_pos rfl)
  apply ends
  · exact grown.trans (types.extends_add row)
  · exact fun was => types.not_made_add row (grown.made was)
  · exact types.made_add row
  · rw [added]
    rfl
  · rw [added]
    rfl

/-- The class is found shared, or it is prepared to be, and the type is made for it. -/
theorem addJoining (once : wanted.repeated? = none) (replaceable : wanted.isReplaceable = true)
    (simple : wanted.isSimple = true) (declared : scene.hierarchy.Declared wanted.primary)
    (sharable : scene.Sharable wanted.primary) (empty : scene.factory.workshop.unpublished = []) :
    scene.AttainsOn (σ := σ) stage thread (id.addPartial wanted) fun outcome next =>
      exists type unpublished types, outcome = .ok type ∧
        next = { scene.drafting unpublished with types } ∧
        (forall binding, binding ∈ unpublished -> scene.bound binding.1 = none) ∧
        scene.Joins wanted.primary type
          { scene with types, bound := Registry.batch scene.bound unpublished } := by
  have sees : scene.sees wanted.primary = scene.bound wanted.primary := by
    simp [Scene.sees, Workshop.prepared, empty]
  unfold FactoryId.addPartial
  rw [once]
  dsimp only
  rw [if_pos replaceable, if_neg (by simp [simple])]
  apply bind
  cases bound : scene.bound wanted.primary with
  | some rep =>
      obtain ⟨shared, rfl, made, host⟩ := sharable rep bound
      apply shareBound (sees.trans bound)
      apply addSharing made host
      intro type types grown fresh typed primary kind
      have same : scene.drafting [] = scene := by
        rw [← empty]
        rfl
      refine ⟨type, [], types, rfl, by rw [same],
        fun _ listed => absurd listed List.not_mem_nil, ?_⟩
      exact ⟨rfl, rfl, grown, fresh, typed, primary, ⟨shared, kind, bound⟩, fun _ _ was => was,
        fun _ _ => rfl⟩
  | none =>
      apply shareUnbound declared (sees.trans bound)
      intro shared types grown _ made own
      rw [empty]
      apply addSharing made (congrArg SharedRepresentation.hostClass own)
      intro type later further fresh typed primary kind
      have absent : forall other, other ≠ wanted.primary ->
          Registry.batch scene.bound [(wanted.primary, .shared shared)] other = scene.bound other :=
        fun other different => Registry.batch_absent (by simpa using different)
      have chosen : Registry.batch scene.bound [(wanted.primary, .shared shared)] wanted.primary =
          some (.shared shared) :=
        Registry.batch_chosen (List.nodup_singleton _) (List.mem_singleton.mpr rfl)
      refine ⟨type, [(wanted.primary, .shared shared)], later, rfl, rfl, ?_, ?_⟩
      · intro binding listed
        rw [List.mem_singleton.mp listed]
        exact bound
      · refine ⟨rfl, rfl, grown.trans further, fun was => fresh (grown.made was), typed, primary,
          ⟨shared, kind, chosen⟩, fun other rep was => ?_, absent⟩
        by_cases same : other = wanted.primary
        · rw [same, bound] at was
          cases was
        · exact (absent other same).trans was

/-- A type that asks for one class, which may be shared, joins this class. -/
theorem createJoining {taken : Lock} (acquires : scene.factory.lock.acquire thread = some taken)
    (released : taken.release thread = scene.factory.lock)
    (resting : scene.factory.workshop = {}) (once : wanted.repeated? = none)
    (replaceable : wanted.isReplaceable = true) (simple : wanted.isSimple = true)
    (declared : scene.hierarchy.Declared wanted.primary)
    (sharable : scene.Sharable wanted.primary) :
    scene.AttainsOn (σ := σ) stage thread (id.create wanted) fun outcome next =>
      exists type, outcome = .ok type ∧ scene.Joins wanted.primary type next := by
  have adds : (scene.begun taken [wanted.name]).AttainsOn (σ := σ) stage thread
      (id.addPartial wanted) _ := addJoining once replaceable simple declared sharable rfl
  have same : { scene.factory with lock := taken.release thread, workshop := {} } =
      scene.factory := by
    rw [released, ← resting]
  apply taking acquires
  apply bind
  apply step rfl
  apply conclude
  apply bind
  apply view
  apply bind
  apply record
  simp only [resting]
  apply adds.weaken
  rintro outcome next ⟨type, unpublished, types, rfl, rfl, unbound, joins⟩
  exact ⟨rfl, unbound, rfl, type, rfl, same, rfl, joins.types, joins.fresh, joins.made,
    joins.primary,
    joins.shares, joins.kept, joins.others⟩

end AttainsOn

end Scene

end GuestTypes
