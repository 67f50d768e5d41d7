import GuestTypes.Proofs.Requests
import Mathlib.Data.List.Nodup

/-!
# Work under the lock of a factory

What a thread knows while it holds the lock of a factory. `World.Working` is the invariant of
all that is done in the workshop: whatever is prepared may be bound, and published together
with the bindings there are, it is ruled by its representations. Only the holder of the lock
changes the workshop, so the invariant survives what the other threads do.

A piece of work may be `assured`: then all that it prepares is a secret of the factory, and no
other thread can bind it first.
-/

namespace GuestTypes

namespace Workshop

variable {workshop : Workshop} {cls other : ClassId} {rep : Representation}

/-- Nothing is prepared for a class that no binding lists. -/
theorem prepared_eq_none :
    workshop.prepared cls = none ↔
      forall binding, binding ∈ workshop.unpublished -> binding.1 ≠ cls := by
  simp [prepared]

/-- What is prepared is listed. -/
theorem mem_of_prepared (prepared : workshop.prepared cls = some rep) :
    (cls, rep) ∈ workshop.unpublished := by
  simp only [Workshop.prepared, Option.map_eq_some_iff] at prepared
  obtain ⟨⟨named, bound⟩, found, rfl⟩ := prepared
  obtain rfl : named = cls := by simpa using List.find?_some found
  exact List.mem_of_find?_eq_some found

/-- What is listed once is prepared. -/
theorem prepared_of_mem (keys : (workshop.unpublished.map (·.1)).Nodup)
    (member : (cls, rep) ∈ workshop.unpublished) : workshop.prepared cls = some rep := by
  unfold prepared
  generalize workshop.unpublished = bindings at keys member ⊢
  induction bindings with
  | nil => cases member
  | cons binding rest inductionHypothesis =>
      obtain ⟨apart, rest⟩ := List.nodup_cons.mp keys
      rcases List.mem_cons.mp member with rfl | later
      · simp
      · have different : binding.1 ≠ cls := by
          rintro rfl
          exact apart (List.mem_map.mpr ⟨_, later, rfl⟩)
        simpa [different] using inductionHypothesis rest later

/-- A binding for a class that has none is added at the end. -/
theorem unpublished_prepare (rep : Representation) (unprepared : workshop.prepared cls = none) :
    (workshop.prepare cls rep).unpublished = workshop.unpublished ++ [(cls, rep)] := by
  unfold prepare
  rw [prepared_eq_none] at unprepared
  simp only
  rw [List.filter_eq_self.mpr]
  intro binding member
  simpa using unprepared binding member

/-- A class is prepared, and all others are as before. -/
theorem prepared_prepare (unprepared : workshop.prepared cls = none) :
    (workshop.prepare cls rep).prepared other =
      if other = cls then some rep else workshop.prepared other := by
  unfold prepared
  rw [unpublished_prepare rep unprepared, List.find?_append]
  by_cases same : other = cls
  · subst same
    have absent := prepared_eq_none.mp unprepared
    rw [List.find?_eq_none.mpr (by simpa using absent)]
    simp
  · rw [if_neg same]
    cases workshop.unpublished.find? (·.1 == other) <;> simp [Ne.symm same]

/-- Nothing is left of a workshop that is emptied after the outermost request. -/
theorem emptied (outermost : workshop.depth = 0) :
    { workshop with tasks := [], unpublished := [] } = ({} : Workshop) := by
  obtain ⟨depth, tasks, unpublished⟩ := workshop
  cases outermost
  rfl

end Workshop

namespace Registry

variable {bound : ClassId -> Option Representation} {chosen : List (ClassId × Representation)}
  {cls : ClassId} {rep : Representation}

/-- What classes are bound to after a batch, which comes before earlier bindings. -/
def batch (bound : ClassId -> Option Representation) (chosen : List (ClassId × Representation))
    (cls : ClassId) : Option Representation :=
  (({ unpublished := chosen.reverse } : Workshop).prepared cls).or (bound cls)

/-- To bind a batch is to put it before the earlier bindings. -/
theorem lookup_batch (registry : Registry) (chosen : List (ClassId × Representation)) :
    (registry.bindAll chosen).lookup = batch registry.lookup chosen := by
  funext cls
  exact registry.lookup_bindAll chosen cls

/-- A batch of unbound classes leaves earlier bindings alone. -/
theorem batch_bound (unbound : forall binding, binding ∈ chosen -> bound binding.1 = none)
    (earlier : bound cls = some rep) : batch bound chosen cls = some rep := by
  have unprepared : ({ unpublished := chosen.reverse } : Workshop).prepared cls = none := by
    apply Workshop.prepared_eq_none.mpr
    rintro binding member rfl
    cases (unbound binding (List.mem_reverse.mp member)).symm.trans earlier
  unfold batch
  rw [unprepared, earlier]
  rfl

/-- What a batch lists once is bound so. -/
theorem batch_chosen (keys : (chosen.map (·.1)).Nodup) (member : (cls, rep) ∈ chosen) :
    batch bound chosen cls = some rep := by
  have reversed : ((chosen.reverse).map (·.1)).Nodup := by
    rw [List.map_reverse]
    exact List.nodup_reverse.mpr keys
  unfold batch
  rw [Workshop.prepared_of_mem reversed (List.mem_reverse.mpr member)]
  rfl

/-- A batch leaves classes alone that it does not list. -/
theorem batch_absent (absent : cls ∉ chosen.map (·.1)) : batch bound chosen cls = bound cls := by
  have unprepared : ({ unpublished := chosen.reverse } : Workshop).prepared cls = none := by
    apply Workshop.prepared_eq_none.mpr
    rintro binding member rfl
    exact absent (List.mem_map.mpr ⟨binding, List.mem_reverse.mp member, rfl⟩)
  unfold batch
  rw [unprepared, Option.none_or]

end Registry

namespace World

variable {world before after : World} {thread mover : ThreadId} {factory : FactoryId}
  {again depth : Nat} {fresh : Option ClassId} {assured : Prop} {cls : ClassId}
  {rep : Representation}

/-- The holder of the factory's lock may name the class. -/
def Namable (world : World) (factory : FactoryId) (cls : ClassId) : Prop :=
  world.Open cls ∨ exists call, world.maker cls = some (factory, call)

/-- The class is a layout class of the factory that is still to be bound. -/
def Secret (world : World) (factory : FactoryId) (cls : ClassId) : Prop :=
  world.published factory cls = none ∧ exists call, world.maker cls = some (factory, call)

/-- The class is bound, or will be when the workshop is published. -/
def Promised (world : World) (factory : FactoryId) (cls : ClassId) (rep : Representation) : Prop :=
  world.published factory cls = some rep ∨
    (cls, rep) ∈ (world.factory factory).workshop.unpublished

/-- What a thread that holds a factory's lock relies on. -/
structure Working (world : World) (thread : ThreadId) (factory : FactoryId) (again depth : Nat)
    (fresh : Option ClassId) (assured : Prop) : Prop where
  complete : world.Complete factory
  lock : (world.factory factory).lock = .held thread again
  alone : forall other, other ≠ factory -> ¬ world.Holds thread other
  depth : (world.factory factory).workshop.depth = depth
  keys : ((world.factory factory).workshop.unpublished.map (·.1)).Nodup
  prepared : forall binding, binding ∈ (world.factory factory).workshop.unpublished ->
    world.Namable factory binding.1
  secret : assured -> forall binding, binding ∈ (world.factory factory).workshop.unpublished ->
    world.Secret factory binding.1
  governed : world.Sealed factory -> world.Governed (world.view factory)
  layouts : forall entry, entry ∈ (world.factory factory).layouts ->
    world.Backed factory entry.2 ∨ fresh = some entry.2

/-- A factory of which the thread holds the lock, with nothing in its workshop. -/
structure Ready (world : World) (thread : ThreadId) (factory : FactoryId) (again : Nat)
    (fresh : Option ClassId) : Prop where
  working : world.Working thread factory again 0 fresh False
  empty : (world.factory factory).workshop = {}

/-- Whoever works in a factory holds its lock. -/
theorem Working.holds (working : world.Working thread factory again depth fresh assured) :
    world.Holds thread factory := ⟨again, working.lock⟩

/-- A class that may be named has been declared. -/
theorem Namable.declared (namable : world.Namable factory cls) (valid : world.Valid) :
    world.hierarchy.Declared cls := by
  rcases namable with opened | ⟨call, made⟩
  · exact opened.1
  · exact (valid.makers cls factory call made).1

/-- A class that may be named goes on to be so. -/
theorem Grows.namable (grows : Grows before after) (valid : before.Valid)
    (namable : before.Namable factory cls) : after.Namable factory cls := by
  rcases namable with opened | ⟨call, made⟩
  · exact .inl (grows.opens valid opened)
  · exact .inr ⟨call, grows.makers _ _ made⟩

/-- So it does for ever. -/
theorem persistent_namable (factory : FactoryId) (cls : ClassId) :
    Persistent (Namable · factory cls) :=
  fun _ _ valid grows namable => grows.namable valid namable

/-- Whatever a view shows can be named. -/
theorem Working.declared (working : world.Working thread factory again depth fresh assured)
    (valid : world.Valid) (bound : (world.view factory cls).isSome) :
    world.hierarchy.Declared cls := by
  cases published : world.published factory cls with
  | some rep => exact (valid.bound _ cls (Option.isSome_iff_exists.mpr ⟨rep, published⟩)).1
  | none =>
      unfold view at bound
      rw [published, Option.none_or] at bound
      obtain ⟨rep, prepared⟩ := Option.isSome_iff_exists.mp bound
      exact (working.prepared _ (Workshop.mem_of_prepared prepared)).declared valid

/-- What a step leaves alone of a factory whose lock the thread holds. -/
structure Spares (thread : ThreadId) (factory : FactoryId) (before after : World) : Prop
    extends Grows before after where
  same : after.factory factory = before.factory factory
  alone : forall other, after.Holds thread other -> before.Holds thread other
  kept : after.Sealed factory -> after.published factory = before.published factory
  secret : forall cls, before.Secret factory cls -> after.Secret factory cls

/-- Two threads do not hold one lock. -/
theorem Holds.unique {other : ThreadId} (mine : world.Holds thread factory)
    (theirs : world.Holds other factory) : other = thread := by
  obtain ⟨again, mine⟩ := mine
  obtain ⟨more, theirs⟩ := theirs
  cases mine.symm.trans theirs
  rfl

/-- A secret is kept by everybody who does not hold the lock. -/
theorem Moves.secret (moves : Moves mover before after)
    (founded : factory.index < before.factoryCount)
    (outside : ¬ before.Holds mover factory) (secret : before.Secret factory cls) :
    after.Secret factory cls := by
  obtain ⟨unbound, call, made⟩ := secret
  refine ⟨?_, call, moves.makers _ _ made⟩
  cases published : after.published factory cls with
  | none => rfl
  | some rep =>
      unfold World.published at published
      rw [moves.wiring factory founded] at published
      have newly := moves.opened _ cls unbound (by rw [published]; rfl)
      rcases newly with opened | ⟨owner, number, owned, holds, -⟩
      · have bound := opened.2 factory call made
        rw [unbound] at bound
        cases bound
      · cases made.symm.trans owned
        exact absurd holds outside

/-- What the other threads do spares the factory. -/
theorem Moves.spares (moves : Moves mover before after) (different : mover ≠ thread)
    (complete : before.Complete factory) (holds : before.Holds thread factory) :
    Spares thread factory before after := by
  have outside : ¬ before.Holds mover factory :=
    fun theirs => different (Holds.unique holds theirs)
  exact { moves.toGrows with
    same := moves.locked factory thread different.symm holds
    alone := fun other holds => moves.unlocked other thread different.symm holds
    kept := fun sealed => moves.kept factory complete sealed outside
    secret := fun cls secret => moves.secret complete.1 outside secret }

/-- What leaves all factories and bindings as they are spares the factory. -/
theorem Grows.spares (grows : Grows before after) (factories : after.factory = before.factory)
    (bindings : after.bindings = before.bindings) : Spares thread factory before after := by
  have published : after.published factory = before.published factory := by
    unfold World.published
    rw [factories, bindings]
  exact { grows with
    same := congrFun factories factory
    alone := fun other holds => by
      unfold Holds at holds ⊢
      rw [← factories]
      exact holds
    kept := fun _ => published
    secret := fun cls secret => by
      obtain ⟨unbound, call, made⟩ := secret
      exact ⟨(congrFun published cls).trans unbound, call, grows.makers _ _ made⟩ }

/-- The invariant survives what spares the factory. -/
theorem Working.spared (working : before.Working thread factory again depth fresh assured)
    (valid : before.Valid) (spares : Spares thread factory before after) :
    after.Working thread factory again depth fresh assured where
  complete := spares.complete working.complete
  lock := by rw [spares.same]; exact working.lock
  alone := fun other different holds => working.alone other different (spares.alone other holds)
  depth := by rw [spares.same]; exact working.depth
  keys := by rw [spares.same]; exact working.keys
  prepared := by
    rw [spares.same]
    exact fun binding member => spares.namable valid (working.prepared binding member)
  secret := by
    rw [spares.same]
    exact fun sure binding member => spares.secret _ (working.secret sure binding member)
  governed := by
    intro sealed
    have view : after.view factory = before.view factory := by
      unfold World.view
      rw [spares.same, spares.kept sealed]
    rw [view]
    exact spares.governed (fun cls => working.declared valid)
      (working.governed (spares.sealed working.complete.1 sealed))
  layouts := by
    rw [spares.same]
    intro entry member
    rcases working.layouts entry member with backed | last
    · exact .inl (spares.backed working.complete.1 backed)
    · exact .inr last

/-- What spares the factory keeps an assertion. -/
def Steady (thread : ThreadId) (factory : FactoryId) (assertion : World -> Prop) : Prop :=
  forall ⦃before after⦄, before.Valid -> before.Complete factory ->
    Spares thread factory before after -> assertion before -> assertion after

/-- What persists is kept by whatever spares the factory. -/
theorem Persistent.steady {assertion : World -> Prop} (persistent : Persistent assertion) :
    Steady thread factory assertion :=
  fun _ _ valid _ spares holds => persistent valid spares.toGrows holds

/-- What is kept is kept together. -/
theorem Steady.and {first second : World -> Prop} (left : Steady thread factory first)
    (right : Steady thread factory second) :
    Steady thread factory fun world => first world ∧ second world :=
  fun _ _ valid complete spares both =>
    ⟨left valid complete spares both.1, right valid complete spares both.2⟩

/-- What is kept is kept under a condition. -/
theorem Steady.imp {fact : Prop} {assertion : World -> Prop}
    (steady : Steady thread factory assertion) :
    Steady thread factory fun world => fact -> assertion world :=
  fun _ _ valid complete spares given known => steady valid complete spares (given known)

/-- One of two facts is kept if both are. -/
theorem Steady.or {first second : World -> Prop} (left : Steady thread factory first)
    (right : Steady thread factory second) :
    Steady thread factory fun world => first world ∨ second world :=
  fun _ _ valid complete spares either =>
    either.imp (left valid complete spares) (right valid complete spares)

/-- What is said of the factory alone is steady. -/
theorem steady_factory (property : Factory -> Prop) :
    Steady thread factory fun world => property (world.factory factory) := by
  intro before after _ _ spares given
  rw [spares.same]
  exact given

/-- What is said of the view is steady as long as nobody binds directly. -/
theorem steady_view (property : Option Representation -> Prop) :
    Steady thread factory fun world => world.Sealed factory ->
        property (world.view factory cls) := by
  intro before after _ complete spares given sealed
  have view : after.view factory cls = before.view factory cls := by
    unfold World.view
    rw [spares.same, spares.kept sealed]
  rw [view]
  exact given (spares.sealed complete.1 sealed)

/-- A promise is kept by whatever spares the factory. -/
theorem steady_promised : Steady thread factory (Promised · factory cls rep) := by
  intro before after _ complete spares promised
  rcases promised with bound | prepared
  · exact .inl (spares.published complete.1 bound)
  · exact .inr (by rw [spares.same]; exact prepared)

/-- A class that is still to be bound stays so. -/
theorem steady_secret : Steady thread factory (Secret · factory cls) :=
  fun _ _ _ _ spares secret => spares.secret cls secret

/-- No other thread gets into a workshop. -/
theorem lasting_working : Lasting thread (Working · thread factory again depth fresh assured) :=
  fun _ _ _ different valid allowed working =>
    working.spared valid (allowed.moves.spares different working.complete working.holds)

/-- So what is steady lasts as long as the thread works there. -/
theorem Steady.lasting {assertion : World -> Prop} (steady : Steady thread factory assertion) :
    Lasting thread fun world =>
      world.Working thread factory again depth fresh assured ∧ assertion world := by
  intro mover before after different valid allowed ⟨working, holds⟩
  have spares := allowed.moves.spares different working.complete working.holds
  exact ⟨working.spared valid spares, steady valid working.complete spares holds⟩

end World

end GuestTypes
