import GuestTypes.Proofs.Delivery
import GuestTypes.Proofs.Initialisation

/-!
# Asking for classes that need no work

A thread that asks for a class is answered without waiting, and without running host code, as
soon as it is settled what the answer is: if the thread may use the class and all superclasses,
or if one of them has failed and the thread may use those above it.
-/

namespace GuestTypes

variable {σ : Type} {thread : ThreadId}

/-- What happens around a thread undoes nothing that the thread relies on while it asks for
classes, and asking for a class that need not be initialised is no more than that. -/
structure Store.Calm (thread : ThreadId) (around : Store -> Store -> Prop) : Prop where
  refl : forall store, around store store
  trans : forall before middle after, around before middle -> around middle after ->
    around before after
  leaves : forall before after, around before after -> before.Leaves thread after
  claims : forall cls answer before after,
    (Action.claim cls).perform thread before = some (answer, after) -> answer ≠ .begun ->
      around before after

/-- The reliance of a thread itself is enough. -/
theorem Store.calm_leaves (thread : ThreadId) : Store.Calm thread (Store.Leaves thread) where
  refl := .refl thread
  trans := fun _ _ _ => .trans
  leaves := fun _ _ => id
  claims := fun _ _ _ _ performed _ => Action.leaves performed thread

namespace ClassId

variable {around : Store -> Store -> Prop} {now : Store} {cls : ClassId} {reason : String}

/-- A usable class is initialised at once. -/
theorem delivers_usable (calm : Store.Calm thread around) (usable : now.Usable thread cls) :
    (cls.initialise : Request σ Unit).run.Delivers thread around now fun outcome after =>
      outcome = .ok () ∧ around now after := by
  apply Program.Delivers.andThen
  apply Program.Delivers.perform
  intro later spared
  have claims : (later.initState cls).claim thread = some (.usable, later.initState cls) := by
    obtain done | running := (calm.leaves _ _ spared).usable usable
    · rw [done]
      rfl
    · rw [running]
      exact if_pos rfl
  have performed : (Action.claim cls).perform thread later =
      some (.usable, later.settle cls (later.initState cls)) := by
    simp only [Action.perform, claims, Option.map_some]
  have spares := calm.claims _ _ _ _ performed (by rintro ⟨⟩)
  exact ⟨_, _, performed, rfl, calm.trans _ _ _ spared spares⟩

/-- A class that has failed is refused at once, with the reason that was remembered. -/
theorem delivers_failed (calm : Store.Calm thread around) (declared : now.hierarchy.Declared cls)
    (failed : now.initState cls = .failed reason) :
    (cls.initialise : Request σ Unit).run.Delivers thread around now fun outcome after =>
      outcome = .error (.initialisation (now.hierarchy.name cls) reason) ∧ around now after := by
  apply Program.Delivers.andThen
  apply Program.Delivers.perform
  intro later spared
  have still := (calm.leaves _ _ spared).failed failed
  have performed : (Action.claim cls).perform thread later =
      some (.failed reason, later.settle cls (later.initState cls)) := by
    simp only [Action.perform, still, InitState.claim, Option.map_some]
  refine ⟨_, _, performed, ?_⟩
  have claimed := calm.trans _ _ _ spared (calm.claims _ _ _ _ performed (by rintro ⟨⟩))
  apply Program.Delivers.andThen
  apply Program.Delivers.observe
  intro seen further
  have since := calm.trans _ _ _ claimed further
  refine ⟨?_, since⟩
  rw [Hierarchy.name, (calm.leaves _ _ since).hierarchy.row cls declared]
  rfl

/-- Classes that the thread may use are initialised at once. -/
theorem delivers_initialiseEach (calm : Store.Calm thread around) {classes : List ClassId}
    (usable : forall cls, cls ∈ classes -> now.Usable thread cls) :
    (initialiseEach classes : Request σ Unit).run.Delivers thread around now fun outcome after =>
      outcome = .ok () ∧ around now after := by
  induction classes generalizing now with
  | nil => exact ⟨rfl, calm.refl now⟩
  | cons cls rest inductionHypothesis =>
      apply Program.Delivers.andThen
      apply (delivers_usable calm (usable cls List.mem_cons_self)).weaken
      rintro outcome after ⟨rfl, spared⟩
      have still : forall other, other ∈ rest -> after.Usable thread other := fun other member =>
        (calm.leaves _ _ spared).usable (usable other (List.mem_cons_of_mem cls member))
      apply (inductionHypothesis still).weaken
      exact fun _ last ended => ⟨ended.1, calm.trans _ _ _ spared ended.2⟩

/-- A class of which all superclasses can be used, and it too, is answered for at once. -/
theorem delivers_ensureInitialised (calm : Store.Calm thread around)
    (declared : now.hierarchy.Declared cls)
    (usable : forall ancestor, ancestor ∈ now.hierarchy.lineage cls ->
      now.Usable thread ancestor) :
    (cls.ensureInitialised : Request σ Unit).run.Delivers thread around now fun outcome after =>
      outcome = .ok () ∧ around now after := by
  apply Program.Delivers.andThen
  apply Program.Delivers.observe
  intro seen spared
  have leaves := calm.leaves _ _ spared
  have still : forall ancestor, ancestor ∈ (seen.hierarchy.lineage cls).reverse ->
      seen.Usable thread ancestor := by
    intro ancestor member
    rw [leaves.hierarchy.lineage declared, List.mem_reverse] at member
    exact leaves.usable (usable ancestor member)
  apply (delivers_initialiseEach calm still).weaken
  exact fun _ last ended => ⟨ended.1, calm.trans _ _ _ spared ended.2⟩

/-- A class is refused at once if it or a superclass has failed, and the fault is that of the
failed class. -/
theorem refuses_ensureInitialised (calm : Store.Calm thread around)
    (declared : now.hierarchy.Declared cls) {below above : List ClassId} {failed : ClassId}
    (split : now.hierarchy.lineage cls = below ++ failed :: above)
    (usable : forall ancestor, ancestor ∈ above -> now.Usable thread ancestor)
    (ended : now.initState failed = .failed reason) :
    (cls.ensureInitialised : Request σ Unit).run.Delivers thread around now fun outcome after =>
      outcome = .error (.initialisation (now.hierarchy.name failed) reason) ∧
        around now after := by
  apply Program.Delivers.andThen
  apply Program.Delivers.observe
  intro seen spared
  have leaves := calm.leaves _ _ spared
  have order : (seen.hierarchy.lineage cls).reverse = above.reverse ++ failed :: below.reverse := by
    rw [leaves.hierarchy.lineage declared, split]
    simp
  show (initialiseEach (seen.hierarchy.lineage cls).reverse : Request σ Unit).run.Delivers
    thread around seen _
  rw [order, initialiseEach_append]
  apply Program.Delivers.andThen
  have still : forall ancestor, ancestor ∈ above.reverse -> seen.Usable thread ancestor :=
    fun ancestor member => leaves.usable (usable ancestor (List.mem_reverse.mp member))
  apply (delivers_initialiseEach calm still).weaken
  rintro outcome middle ⟨rfl, further⟩
  have since := calm.trans _ _ _ spared further
  have leaves := calm.leaves _ _ since
  have known : now.hierarchy.Declared failed :=
    Hierarchy.declared_of_mem_lineage declared (by simp [split])
  apply Program.Delivers.andThen
  apply (delivers_failed calm (leaves.hierarchy.declared known) (leaves.failed ended)).weaken
  rintro outcome last ⟨rfl, final⟩
  refine ⟨?_, calm.trans _ _ _ since final⟩
  rw [Hierarchy.name, leaves.hierarchy.row failed known]
  rfl

end ClassId

end GuestTypes
