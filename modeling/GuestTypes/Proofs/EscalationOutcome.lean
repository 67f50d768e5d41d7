import GuestTypes.Proofs.CreationOutcome
import GuestTypes.Proofs.PlainRequests

/-!
# What a factory does for a class

A factory at rest that is asked for a class which nobody bound does one of four things
(`Scene.Effect`). The class and those above it take over the representation of the nearest
superclass that is bound, if each of them takes over; otherwise the class alone gets a shared
representation or a type of its own, or is refused as an interface. Nothing else changes.
-/

namespace GuestTypes

/-! ## Taking over -/

namespace Hierarchy

variable {hierarchy : Hierarchy} {bound : ClassId -> Option Representation}
  {cls : ClassId} {above : List ClassId} {rep : Representation}

/-- The representation of the first class of a chain that is bound, as long as each class before
it takes over that of the next. -/
def inherited (hierarchy : Hierarchy) (bound : ClassId -> Option Representation) :
    List ClassId -> Option Representation
  | [] => none
  | cls :: above =>
      (bound cls).or (if FactoryId.takesOver hierarchy cls then inherited hierarchy bound above
        else none)

/-- The classes of a chain before the first one that is bound, that one's neighbour first. -/
def takers (bound : ClassId -> Option Representation) : List ClassId -> List ClassId
  | [] => []
  | cls :: above => if (bound cls).isSome then [] else takers bound above ++ [cls]

/-- A class that is bound has the representation that it is bound to. -/
theorem inherited_bound (taken : bound cls = some rep) :
    hierarchy.inherited bound (cls :: above) = some rep := by
  unfold inherited
  rw [taken]
  rfl

/-- A class that is not bound has what is inherited above it, if it takes over from there. -/
theorem inherited_unbound (free : bound cls = none) :
    hierarchy.inherited bound (cls :: above) =
      if FactoryId.takesOver hierarchy cls then hierarchy.inherited bound above else none := by
  rw [inherited, free]
  rfl

/-- Classes that take over are those of the chain. -/
theorem mem_takers {chain : List ClassId} (member : cls ∈ takers bound chain) : cls ∈ chain := by
  induction chain with
  | nil => cases member
  | cons first above inductionHypothesis =>
      unfold takers at member
      split at member
      · cases member
      · rcases List.mem_append.mp member with before | last
        · exact List.mem_cons_of_mem _ (inductionHypothesis before)
        · exact List.mem_cons.mpr (.inl (List.mem_singleton.mp last))

/-- No class takes over twice. -/
theorem nodup_takers {chain : List ClassId} (distinct : chain.Nodup) :
    (takers bound chain).Nodup := by
  induction chain with
  | nil => exact List.nodup_nil
  | cons first above inductionHypothesis =>
      obtain ⟨apart, distinct⟩ := List.nodup_cons.mp distinct
      unfold takers
      split
      · exact List.nodup_nil
      · refine List.nodup_append.mpr ⟨inductionHypothesis distinct, List.nodup_singleton _, ?_⟩
        rintro other member _ last rfl
        obtain rfl := List.mem_singleton.mp last
        exact apart (mem_takers member)

/-- What comes after a class in a chain is the rest of its own chain. -/
theorem lineage_of_split {start : ClassId} {below : List ClassId}
    (split : hierarchy.lineage start = below ++ cls :: above) :
    hierarchy.lineage cls = cls :: above := by
  induction below generalizing start with
  | nil =>
      have split : hierarchy.lineage start = cls :: above := split
      have same := (lineage_eq hierarchy start).symm.trans split
      rw [(List.cons.inj same).1] at split
      exact split
  | cons first below inductionHypothesis =>
      have same := (lineage_eq hierarchy start).symm.trans split
      obtain ⟨-, rest⟩ := List.cons.inj same
      cases chosen : hierarchy.superclass start with
      | none =>
          rw [chosen] at rest
          simp at rest
      | some super =>
          rw [chosen] at rest
          exact inductionHypothesis rest

/-- The classes at the beginning of a chain take over a representation: none of them is bound,
each takes over from the next, and the class after them is bound to the representation. -/
structure Heirs (hierarchy : Hierarchy) (bound : ClassId -> Option Representation)
    (chain heirs : List ClassId) (rep : Representation) : Prop where
  nearest : exists ancestor above, chain = heirs ++ ancestor :: above ∧ bound ancestor = some rep
  unbound : forall heir, heir ∈ heirs -> bound heir = none
  takes : forall heir, heir ∈ heirs ->
    hierarchy.implements heir Builtin.withClassAssignment = true ∧
      hierarchy.isSynthesized heir = false

/-- A class takes over if it is assignable and was not synthesized. -/
theorem takesOver_iff : FactoryId.takesOver hierarchy cls = true ↔
    hierarchy.implements cls Builtin.withClassAssignment = true ∧
      hierarchy.isSynthesized cls = false := by
  simp [FactoryId.takesOver]

/-- What is inherited is taken over by all classes below. -/
theorem heirs_of_inherited {chain : List ClassId}
    (inherits : hierarchy.inherited bound chain = some rep) :
    hierarchy.Heirs bound chain (takers bound chain).reverse rep := by
  induction chain with
  | nil => cases inherits
  | cons first above inductionHypothesis =>
      cases taken : bound first with
      | some other =>
          rw [inherited_bound taken] at inherits
          cases inherits
          simp only [takers, taken, Option.isSome_some, if_true, List.reverse_nil]
          exact ⟨⟨first, above, rfl, taken⟩, nofun, nofun⟩
      | none =>
          rw [inherited_unbound taken] at inherits
          split at inherits
          · rename_i takes
            obtain ⟨⟨ancestor, rest, split, rules⟩, unbound, others⟩ := inductionHypothesis inherits
            have heirs : (takers bound (first :: above)).reverse =
                first :: (takers bound above).reverse := by
              simp [takers, taken]
            rw [heirs]
            constructor
            · exact ⟨ancestor, rest, congrArg (first :: ·) split, rules⟩
            · simpa [taken] using unbound
            · simpa [takesOver_iff.mp takes] using others
          · cases inherits

/-- What is taken over is inherited. -/
theorem Heirs.inherited {chain heirs : List ClassId}
    (taken : hierarchy.Heirs bound chain heirs rep) :
    hierarchy.inherited bound chain = some rep := by
  obtain ⟨⟨ancestor, above, rfl, rules⟩, unbound, takes⟩ := taken
  induction heirs with
  | nil => exact inherited_bound rules
  | cons heir rest inductionHypothesis =>
      simp only [List.forall_mem_cons] at unbound takes
      rw [List.cons_append, inherited_unbound unbound.1, if_pos (takesOver_iff.mpr takes.1)]
      exact inductionHypothesis unbound.2 takes.2

/-- Who takes over, and what, is settled by what is bound. -/
theorem Heirs.unique {chain heirs others : List ClassId} {other : Representation}
    (taken : hierarchy.Heirs bound chain heirs rep)
    (also : hierarchy.Heirs bound chain others other) : heirs = others ∧ rep = other := by
  have same := taken.inherited.symm.trans also.inherited
  refine ⟨?_, Option.some.inj same⟩
  obtain ⟨⟨ancestor, above, rfl, rules⟩, unbound, -⟩ := taken
  obtain ⟨⟨otherAncestor, otherAbove, split, otherRules⟩, otherUnbound, -⟩ := also
  clear same
  induction heirs generalizing others with
  | nil =>
      cases others with
      | nil => rfl
      | cons first rest =>
          obtain rfl := (List.cons.inj split).1
          cases rules.symm.trans (otherUnbound ancestor List.mem_cons_self)
  | cons heir heirs inductionHypothesis =>
      cases others with
      | nil =>
          obtain rfl := (List.cons.inj split).1
          cases otherRules.symm.trans (unbound heir List.mem_cons_self)
      | cons first rest =>
          obtain ⟨rfl, later⟩ := List.cons.inj split
          simp only [List.forall_mem_cons] at unbound otherUnbound
          rw [inductionHypothesis unbound.2 otherUnbound.2 later]

/-- Every heir has the heirs above it. -/
theorem Heirs.remaining {chain heirs : List ClassId} (taken : hierarchy.Heirs bound chain heirs rep)
    (member : cls ∈ heirs) : exists below above rest, chain = below ++ cls :: above ∧
      hierarchy.Heirs bound (cls :: above) (cls :: rest) rep := by
  obtain ⟨⟨ancestor, above, rfl, rules⟩, unbound, takes⟩ := taken
  obtain ⟨below, rest, rfl⟩ := List.append_of_mem member
  refine ⟨below, rest ++ ancestor :: above, rest, by simp, ⟨ancestor, above, rfl, rules⟩, ?_, ?_⟩
  · exact fun heir listed => unbound heir (List.mem_append_right _ listed)
  · exact fun heir listed => takes heir (List.mem_append_right _ listed)

end Hierarchy


/-! ## Effects -/

/-- Binding classes to one representation, when none of them is bound. -/
theorem Registry.batch_same (bound : ClassId -> Option Representation) (rep : Representation)
    {classes : List ClassId} (distinct : classes.Nodup) :
    Registry.batch bound (classes.map fun cls => (cls, rep)) =
      fun other => if other ∈ classes then some rep else bound other := by
  have keys : (classes.map fun cls => (cls, rep)).map (·.1) = classes := by
    simp [Function.comp_def]
  ext1 other
  by_cases member : other ∈ classes
  · rw [if_pos member]
    exact batch_chosen (by rwa [keys]) (List.mem_map_of_mem member)
  · rw [if_neg member]
    exact batch_absent (by rwa [keys])

namespace Scene

/-- The class and those above it, up to the nearest one that is bound, take over its
representation. -/
def Heirs (scene : Scene) (cls : ClassId) (heirs : List ClassId) (rep : Representation) : Prop :=
  scene.hierarchy.Heirs scene.bound (scene.hierarchy.lineage cls) heirs rep

/-- The row of a class's shared representation. -/
def sharedFor (scene : Scene) (cls : ClassId) : SharedRepresentation where
  hostClass := cls
  canonicalClass := scene.hierarchy.superclass cls

/-- The row of the type that a class gets when nobody described one. -/
def typeFor (scene : Scene) (cls : ClassId) : GuestType where
  name := scene.hierarchy.name cls
  bases := [scene.factory.objectType]
  features := .immutableType
  kernel := scene.types.effectiveKernel .none [scene.factory.objectType]
  primary := cls
  others := []
  kind := .simple

/-- What is made for a class that takes over nothing, from the types that are found, and the
types then. -/
inductive Makes (scene : Scene) (found : TypeTable) (cls : ClassId) :
    Except Fault Representation -> TypeTable -> Prop where
  | shared (synthesized : scene.hierarchy.isSynthesized cls = true) :
      Makes scene found cls (.ok (.shared (found.addShared (scene.sharedFor cls)).1))
        (found.addShared (scene.sharedFor cls)).2
  | refused (plain : scene.hierarchy.isSynthesized cls = false)
      (iface : scene.hierarchy.isInterface cls = true) :
      Makes scene found cls
        (.error (.internal (.found (.interfaceAsClass (scene.hierarchy.name cls))))) scene.types
  | canonical (plain : scene.hierarchy.isSynthesized cls = false)
      (concrete : scene.hierarchy.isInterface cls = false)
      (described : (found.add (scene.typeFor cls)).2.row (found.add (scene.typeFor cls)).1 =
        scene.typeFor cls) :
      Makes scene found cls (.ok (.canonical (found.add (scene.typeFor cls)).1))
        (found.add (scene.typeFor cls)).2

/-- The state of the factory has no part in what is made. -/
theorem Makes.relocated {scene : Scene} {factory : Factory} {found types : TypeTable}
    {cls : ClassId} {outcome : Except Fault Representation}
    (made : ({ scene with factory } : Scene).Makes found cls outcome types)
    (rooted : factory.objectType = scene.factory.objectType) :
    scene.Makes found cls outcome types := by
  have same : ({ scene with factory } : Scene).typeFor cls = scene.typeFor cls := by
    simp [typeFor, rooted]
  cases made with
  | shared synthesized => exact .shared synthesized
  | refused plain iface => exact .refused plain iface
  | canonical plain concrete described =>
      rw [same] at described ⊢
      exact .canonical plain concrete described

/-- What a factory does for a class that is not bound. -/
inductive Effect (before : Scene) (found : TypeTable) (cls : ClassId) :
    Except Fault Representation -> Scene -> Prop where
  /-- All heirs are bound to what they take over. -/
  | inherits {heirs : List ClassId} {rep : Representation} (taken : before.Heirs cls heirs rep) :
      Effect before found cls (.ok rep)
        { before with bound := fun other => if other ∈ heirs then some rep else before.bound other }
  /-- The class alone is bound to what was made for it. -/
  | makes {rep : Representation} {types : TypeTable}
      (barren : forall heirs rep, ¬ before.Heirs cls heirs rep)
      (made : before.Makes found cls (.ok rep) types) :
      Effect before found cls (.ok rep) { before with
        types
        bound := fun other => if other = cls then some rep else before.bound other }
  /-- Nothing is bound. -/
  | refused {fault : Fault} {types : TypeTable}
      (barren : forall heirs rep, ¬ before.Heirs cls heirs rep)
      (made : before.Makes found cls (.error fault) types) :
      Effect before found cls (.error fault) before

end Scene


/-! ## Under the lock -/

namespace Scene

/-- The scene after the search of a chain: what is taken over has been prepared. -/
def searched (scene : Scene) (chain : List ClassId) : Scene :=
  match scene.hierarchy.inherited scene.bound chain with
  | none => scene
  | some rep => scene.drafting ((Hierarchy.takers scene.bound chain).map fun cls => (cls, rep))

section Searched

variable {scene : Scene} {cls : ClassId} {rep : Representation} {chain : List ClassId}

/-- Where nothing is inherited, the search changes nothing. -/
theorem searched_barren (inherits : scene.hierarchy.inherited scene.bound chain = none) :
    scene.searched chain = scene := by
  unfold searched
  rw [inherits]

/-- What is inherited is prepared for all classes that take it over. -/
theorem searched_inherits (inherits : scene.hierarchy.inherited scene.bound chain = some rep) :
    scene.searched chain =
      scene.drafting ((Hierarchy.takers scene.bound chain).map fun cls => (cls, rep)) := by
  unfold searched
  rw [inherits]

/-- The search prepares classes of the chain only. -/
theorem unprepared_searched (empty : scene.factory.workshop.unpublished = [])
    (apart : cls ∉ chain) : (scene.searched chain).factory.workshop.prepared cls = none := by
  apply Workshop.prepared_eq_none.mpr
  cases inherits : scene.hierarchy.inherited scene.bound chain with
  | none =>
      rw [searched_barren inherits, empty]
      exact nofun
  | some rep =>
      rw [searched_inherits inherits]
      intro binding listed same
      obtain ⟨taker, member, rfl⟩ := List.mem_map.mp listed
      exact apart (same ▸ Hierarchy.mem_takers member)

end Searched

/-- The class inherits nothing if nobody is there to be an heir. -/
theorem barren_of_inherited {scene : Scene} {cls : ClassId}
    (inherits : scene.hierarchy.inherited scene.bound (scene.hierarchy.lineage cls) = none) :
    forall heirs rep, ¬ scene.Heirs cls heirs rep :=
  fun _ _ taken => nomatch inherits.symm.trans taken.inherited

section Batches

variable {scene : Scene} {found types : TypeTable} {cls : ClassId} {rep : Representation}

/-- Publishing what the heirs take over binds them all. -/
theorem Effect.inheriting
    (inherits : scene.hierarchy.inherited scene.bound (scene.hierarchy.lineage cls) = some rep) :
    scene.Effect found cls (.ok rep) { scene with
      bound := Registry.batch scene.bound
        ((Hierarchy.takers scene.bound (scene.hierarchy.lineage cls)).map
          fun cls => (cls, rep)) } := by
  have effect : scene.Effect found cls _ _ := .inherits (Hierarchy.heirs_of_inherited inherits)
  have distinct : (Hierarchy.takers scene.bound (scene.hierarchy.lineage cls)).Nodup :=
    Hierarchy.nodup_takers (scene.hierarchy.nodup_lineage cls)
  simp only [List.mem_reverse, ← Registry.batch_same scene.bound rep distinct] at effect
  exact effect

/-- Publishing what was made for a class binds the class alone. -/
theorem Effect.making (barren : forall heirs rep, ¬ scene.Heirs cls heirs rep)
    (made : scene.Makes found cls (.ok rep) types) :
    scene.Effect found cls (.ok rep) { scene with
      types, bound := Registry.batch scene.bound [(cls, rep)] } := by
  have effect := Effect.makes barren made
  have bound := Registry.batch_same scene.bound rep (List.nodup_singleton cls)
  simp only [List.mem_singleton] at bound
  rw [← bound] at effect
  exact effect

end Batches

/-- What is made for a class before anything is published. -/
def Drafted (scene : Scene) {id : FactoryId} (stage : Stage id) (cls : ClassId)
    (outcome : Except Fault Representation) (next : Scene) : Prop :=
  exists found types, stage.finds scene.types found ∧ scene.types.Extends found ∧
    scene.Makes found cls outcome types ∧
      match outcome with
      | .ok rep => exists tasks, next = { scene with
          types
          factory := { scene.factory with
            workshop := { depth := 1, tasks, unpublished := [(cls, rep)] } } }
      | .error _ => next = scene

namespace AttainsOn

variable {σ α : Type} {thread : ThreadId} {id : FactoryId} {stage : Stage id} {scene : Scene}
  {cls : ClassId} {rep : Representation}

/-- A class that is seen is found. -/
theorem found_seen (rep : Representation)
    {leads : Except Fault (Option Representation) -> Scene -> Prop}
    (seen : scene.sees cls = some rep) (ends : leads (.ok (some rep)) scene) :
    scene.AttainsOn (σ := σ) stage thread (id.found cls) leads := by
  apply found
  rw [seen]
  exact ends

/-- To prepare nothing changes nothing. -/
theorem drafting_nothing (empty : scene.factory.workshop.unpublished = []) :
    scene.drafting [] = scene := by
  rw [← empty]
  rfl

/-- The search goes up the chain, and prepares what is taken over on its way back. -/
theorem inherited {chain : List ClassId} (distinct : chain.Nodup)
    (declared : forall cls, cls ∈ chain -> scene.hierarchy.Declared cls)
    (empty : scene.factory.workshop.unpublished = []) :
    scene.AttainsOn (σ := σ) stage thread (id.inherited chain) fun outcome next =>
      outcome = .ok (scene.hierarchy.inherited scene.bound chain) ∧
        next = scene.searched chain := by
  induction chain with
  | nil => exact pure ⟨rfl, rfl⟩
  | cons cls above inductionHypothesis =>
      obtain ⟨apart, distinct⟩ := List.nodup_cons.mp distinct
      have sees : scene.sees cls = scene.bound cls := by
        simp [sees, Workshop.prepared, empty]
      apply bind
      apply found
      rw [sees]
      cases bound : scene.bound cls with
      | some rep =>
          apply pure
          have inherits : scene.hierarchy.inherited scene.bound (cls :: above) = some rep :=
            Hierarchy.inherited_bound bound
          refine ⟨congrArg Except.ok inherits.symm, ?_⟩
          simp [searched, inherits, Hierarchy.takers, bound, drafting_nothing empty]
      | none =>
          have unfolded : scene.hierarchy.inherited scene.bound (cls :: above) = _ :=
            Hierarchy.inherited_unbound bound
          apply bind
          apply observe
          intro now fits
          rw [(stage.shows fits).hierarchy.takesOver (declared cls List.mem_cons_self)]
          cases takes : FactoryId.takesOver scene.hierarchy cls with
          | false =>
              rw [takes] at unfolded
              apply pure
              refine ⟨congrArg Except.ok unfolded.symm, ?_⟩
              simp [searched, unfolded]
          | true =>
              rw [takes] at unfolded
              apply bind
              apply (inductionHypothesis distinct fun other member =>
                declared other (List.mem_cons_of_mem _ member)).weaken
              rintro outcome next ⟨rfl, rfl⟩
              rw [if_pos rfl] at unfolded
              cases inherits : scene.hierarchy.inherited scene.bound above with
              | none =>
                  rw [inherits] at unfolded
                  apply pure
                  refine ⟨congrArg Except.ok unfolded.symm, ?_⟩
                  simp [searched, unfolded, inherits]
              | some rep =>
                  rw [inherits] at unfolded
                  apply bind
                  apply step rfl
                  apply pure
                  refine ⟨congrArg Except.ok unfolded.symm, ?_⟩
                  have unprepared := unprepared_searched empty apart
                  refine (drafting_prepare unprepared).trans ?_
                  simp [searched, inherits, unfolded, Hierarchy.takers, bound, drafting]

/-- A type that nobody described is not replaceable. -/
theorem isReplaceable_plain (name : String) (cls : ClassId) :
    (FactoryId.plainDescription name cls).isReplaceable = false := by
  show TypeFlags.immutableType.contains .replaceable = false
  decide

/-- The type for a class that is not bound is added and prepared for it. -/
theorem addPlain {name : String} {leads : Except Fault TypeId -> Scene -> Prop}
    (named : scene.hierarchy.name cls = name) (unbound : scene.bound cls = none)
    (empty : scene.factory.workshop.unpublished = [])
    (rooted : scene.types.Made scene.factory.objectType)
    (ends : forall types, stage.finds scene.types types -> scene.types.Extends types ->
      let type := (types.add (scene.typeFor cls)).1
      let later := (types.add (scene.typeFor cls)).2
      later.row type = scene.typeFor cls ->
        leads (.ok type) { scene.drafting [(cls, .canonical type)] with types := later }) :
    scene.AttainsOn (σ := σ) stage thread (id.addPartial (FactoryId.plainDescription name cls))
      leads := by
  subst named
  unfold FactoryId.addPartial
  rw [show (FactoryId.plainDescription (scene.hierarchy.name cls) cls).repeated? = none from rfl]
  dsimp only
  rw [isReplaceable_plain]
  apply bind
  apply addDescribed
  intro seen types grown found further row
  -- Nothing that was made has changed, so the root type has the kernel flags it had.
  have same : row = scene.typeFor cls := by
    simp [row, described, typeFor, FactoryId.plainDescription, TypeTable.effectiveKernel,
      grown.row _ rooted]
  rw [same]
  have unseen : ({ scene with types := (types.add (scene.typeFor cls)).2 } : Scene).sees cls =
      none := by
    simp [sees, unbound, empty, Workshop.prepared]
  apply bind
  apply prepare_unseen unseen
  apply pure
  have described : (types.add (scene.typeFor cls)).2.row (types.add (scene.typeFor cls)).1 =
      scene.typeFor cls := by
    have present : scene.factory.objectType.index < types.types.size := further.made rooted
    rw [TypeTable.row_add, if_pos (by rfl)]
    simp [GuestType.groundedAt, typeFor, present]
  simpa [drafting, empty] using ends types found further described

/-- A class that inherits nothing gets a representation of its own, unless it is an interface. -/
theorem makeRepresentation (declared : scene.hierarchy.Declared cls)
    (unbound : scene.bound cls = none) (workshop : scene.factory.workshop = { depth := 1 })
    (rooted : scene.types.Made scene.factory.objectType) :
    scene.AttainsOn (σ := σ) stage thread (id.makeRepresentation cls)
      (scene.Drafted stage cls) := by
  apply bind
  apply observe
  intro now fits
  unfold Then
  dsimp only
  rw [(stage.shows fits).hierarchy.row cls declared]
  by_cases synthesized : (scene.hierarchy.row cls).isSynthesized = true
  · rw [if_pos synthesized]
    apply bind
    apply addShared
    intro found finds grown
    have unseen : ({ scene with types := (found.addShared (scene.sharedFor cls)).2 } : Scene).sees
        cls = none := by
      simp [sees, unbound, workshop, Workshop.prepared]
    apply bind
    apply prepare_unseen unseen
    apply pure
    refine ⟨found, _, finds, grown, .shared synthesized, [], ?_⟩
    simp [drafting, workshop]
  · rw [if_neg synthesized]
    have plain : scene.hierarchy.isSynthesized cls = false := Bool.eq_false_iff.mpr synthesized
    by_cases iface : (scene.hierarchy.row cls).isInterface = true
    · rw [if_pos iface]
      apply bind
      apply throw
      exact ⟨_, _, stage.found fits, (stage.shows fits).types, .refused plain iface, rfl⟩
    · rw [if_neg iface]
      apply bind
      apply step rfl
      apply bind
      apply attempt
      refine addPlain rfl unbound (congrArg (·.unpublished) workshop) rooted ?_
      intro found finds grown type later described
      apply bind
      apply step rfl
      apply bind
      apply ofExcept
      apply bind
      refine found_seen (.canonical type) ?_ ?_
      · simp [sees, unbound, Workshop.prepared, drafting]
      apply pure
      refine ⟨found, _, finds, grown, .canonical plain (Bool.eq_false_iff.mpr iface) described,
        [scene.hierarchy.name cls], ?_⟩
      simp [drafting, workshop]
      exact ⟨rfl, rfl⟩

/-- A factory at rest does what there is to do for a class that is not bound, and is at rest
again. -/
theorem search (free : scene.factory.lock = .free) (resting : scene.factory.workshop = {})
    (declared : scene.hierarchy.Declared cls) (unbound : scene.bound cls = none)
    (rooted : scene.types.Made scene.factory.objectType) :
    scene.AttainsOn (σ := σ) stage thread (id.locked (id.search cls)) fun outcome next =>
      exists found, stage.finds scene.types found ∧ scene.types.Extends found ∧
        scene.Effect found cls outcome next := by
  -- When the lock is given back, the factory is as it was.
  have same := Factory.eq_of_rest free resting
  have climbs : (scene.begun (.held thread 0) []).AttainsOn (σ := σ) stage thread
      (id.inherited (scene.hierarchy.lineage cls)) _ :=
    inherited (scene.hierarchy.nodup_lineage cls)
      (fun _ => Hierarchy.declared_of_mem_lineage declared) rfl
  have makes : (scene.begun (.held thread 0) []).AttainsOn (σ := σ) stage thread
      (id.makeRepresentation cls) _ :=
    makeRepresentation declared unbound rfl rooted
  apply locked free
  apply bind
  apply published
  show Then stage thread _ _ (.ok (scene.bound cls)) _
  rw [unbound]
  apply bind
  apply step rfl
  apply conclude
  apply bind
  apply view
  apply bind
  apply record
  apply bind
  apply observe
  intro now fits
  have finds := stage.found fits
  have grown := (stage.shows fits).types
  rw [(stage.shows fits).hierarchy.lineage declared]
  apply bind
  simp only [resting]
  apply climbs.weaken
  rintro outcome next ⟨rfl, rfl⟩
  rw [hierarchy_begun, bound_begun]
  cases inherits : scene.hierarchy.inherited scene.bound (scene.hierarchy.lineage cls) with
  | some rep =>
      rw [show (scene.begun (.held thread 0) []).searched _ =
        (scene.begun (.held thread 0) []).drafting _ from searched_inherits inherits]
      apply pure
      refine ⟨rfl, ?_, rfl, now.types, finds, grown, ?_⟩
      · have taken := Hierarchy.heirs_of_inherited inherits
        intro binding listed
        obtain ⟨taker, member, rfl⟩ := List.mem_map.mp listed
        exact taken.unbound taker (List.mem_reverse.mpr member)
      · have effect : scene.Effect now.types cls _ _ := .inheriting inherits
        rw [← same] at effect
        exact effect
  | none =>
      have barren := barren_of_inherited inherits
      rw [show (scene.begun (.held thread 0) []).searched _ =
          scene.begun (.held thread 0) [] from searched_barren inherits]
      apply makes.weaken
      rintro outcome next ⟨found, types, finds, grown, made, drafted⟩
      have made : scene.Makes found cls outcome types := made.relocated rfl
      rcases outcome with fault | rep
      · subst drafted
        refine ⟨rfl, rfl, found, finds, grown, ?_⟩
        show scene.Effect found cls _ { scene with
          factory := { scene.factory with lock := .free, workshop := {} } }
        rw [same]
        exact .refused barren made
      · obtain ⟨tasks, rfl⟩ := drafted
        refine ⟨rfl, ?_, rfl, found, finds, grown, ?_⟩
        · intro binding listed
          obtain rfl := List.mem_singleton.mp listed
          exact unbound
        · have effect := Effect.making barren made
          rw [← same] at effect
          exact effect

end AttainsOn

end Scene

end GuestTypes
