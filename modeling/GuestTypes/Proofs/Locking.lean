import GuestTypes.Proofs.Publishing

/-!
# Taking the lock

A thread that holds no lock takes that of a factory at rest, and has to leave the factory at
rest when it gives the lock back. In a definition, which holds the lock already, it may leave
one layout class still to be bound.
-/

namespace GuestTypes

open World

variable {σ α : Type} {thread : ThreadId} {call : Option Nat} {factory : FactoryId}
  {again depth : Nat} {fresh : Option ClassId} {assured sure : Prop} {cls : ClassId}
  {rep : Representation} {known : World -> Prop} {fails : Fault -> World -> Prop}

namespace World

variable {world : World} {lock : Lock}

/-- The lock may change between threads that are not the holder's rivals. -/
theorem remakes_lock (valid : world.Valid) (founded : factory.index < world.factoryCount)
    (mine : forall other, other ≠ thread -> ¬ world.Holds other factory)
    (stillMine : forall other more, lock = .held other more -> other = thread)
    (resting : lock = .free -> (world.factory factory).workshop = {} ∧
      forall entry, entry ∈ (world.factory factory).layouts -> world.Backed factory entry.2) :
    world.Remakes thread factory { world.factory factory with lock } where
  founded := founded
  registry := rfl
  root := rfl
  twin := rfl
  mine := mine
  stillMine := stillMine
  kept := List.Subset.refl _
  shapes := valid.shapes factory
  layouts := fun _ member => .inl member
  resting := resting

/-- A factory that a thread holds with an empty workshop after a change. -/
theorem Remakes.ready {next : Factory} (remakes : world.Remakes thread factory next)
    (valid : world.Valid) (complete : world.Complete factory)
    (alone : forall other, other ≠ factory -> ¬ world.Holds thread other)
    (lock : next.lock = .held thread again) (empty : next.workshop = {})
    (layouts : forall entry, entry ∈ next.layouts ->
      world.Backed factory entry.2 ∨ fresh = some entry.2) :
    (world.changingFactory factory next).Ready thread factory again fresh := by
  have allowed := valid.changeFactory remakes
  have grows := allowed.moves.toGrows
  have own := world.factory_rework factory next
  refine ⟨⟨grows.complete complete, ?_, ?_, ?_, ?_, ?_, nofun, ?_, ?_⟩, ?_⟩
  · rw [own]
    exact lock
  · rintro other different ⟨more, taken⟩
    refine alone other different ⟨more, ?_⟩
    rw [← taken]
    exact congrArg Factory.lock (if_neg different).symm
  · rw [own, empty]
  · rw [own, empty]
    exact List.nodup_nil
  · rw [own, empty]
    nofun
  · intro sealed
    have view : (world.changingFactory factory next).view factory =
        (world.changingFactory factory next).published factory := by
      funext named
      unfold World.view
      rw [own, empty]
      exact Option.or_none
    rw [view]
    exact allowed.valid.governed factory (grows.complete complete).1 sealed
  · rw [own]
    intro entry member
    rcases layouts entry member with backed | last
    · exact .inl (grows.backed complete.1 backed)
    · exact .inr last
  · rw [own]
    exact empty

end World

namespace Serves

/-- A change of the lock. -/
theorem relock {step : Factory.Step Unit} {pre post : World -> Prop} (before : Lasting thread pre)
    (after : Lasting thread post)
    (effect : forall world, world.Valid -> pre world -> forall changed,
      step.perform thread (world.factory factory) = some ((), changed) ->
        exists lock, changed = { world.factory factory with lock } ∧
          world.Remakes thread factory changed ∧ post (world.changingFactory factory changed)) :
    Serves (σ := σ) thread call pre (factory.step step) (fun _ => post) fails := by
  apply perform before (fun _ => after)
  intro now answer store valid holds performed
  obtain ⟨changed, stepped, rfl⟩ := perform_factory performed
  obtain ⟨lock, rfl, remakes, ended⟩ := effect now.world valid holds changed stepped
  rw [world_setFactory remakes.founded]
  exact ⟨valid.changeFactory remakes, ended⟩

/-- An idle thread takes the lock of a factory, which is at rest then. -/
theorem acquire (persistent : Persistent known) :
    Serves (σ := σ) thread call
      (fun world => world.Idle thread ∧ world.Complete factory ∧ known world)
      (factory.step .acquire)
      (fun _ world => world.Ready thread factory 0 none ∧ known world) fails := by
  refine relock (lasting_idle.and ((persistent_complete factory).and persistent).lasting)
    persistent.ready ?_
  rintro world valid ⟨idle, complete, holds⟩ changed stepped
  obtain ⟨lock, taken, same⟩ := Option.map_eq_some_iff.mp stepped
  obtain rfl := (Prod.mk.inj same).2
  cases was : (world.factory factory).lock with
  | held owner more =>
      by_cases mine : owner = thread
      · exact absurd ⟨more, mine ▸ was⟩ (idle factory)
      · rw [was] at taken
        simp [Lock.acquire, mine] at taken
  | free =>
      rw [was] at taken
      cases taken
      obtain ⟨empty, backed⟩ := valid.resting factory was
      have remakes : world.Remakes thread factory
          { world.factory factory with lock := .held thread 0 } := by
        refine remakes_lock valid complete.1 ?_ ?_ nofun
        · rintro other - ⟨more, held⟩
          cases was.symm.trans held
        · rintro other more ⟨⟩
          rfl
      exact ⟨_, rfl, remakes, remakes.ready valid complete (fun other _ => idle other) rfl empty
        fun entry member => .inl (backed entry member),
        persistent valid (valid.changeFactory remakes).moves.toGrows holds⟩

/-- The lock of a factory at rest is given back. -/
theorem release (persistent : Persistent known) :
    Serves (σ := σ) thread call
      (fun world => world.Ready thread factory 0 none ∧ known world)
      (factory.step .release)
      (fun _ world => world.Idle thread ∧ known world) fails := by
  apply relock persistent.ready (lasting_idle.and persistent.lasting)
  rintro world valid ⟨⟨working, empty⟩, holds⟩ changed stepped
  have given : changed = { world.factory factory with lock := .free } := by
    apply (Prod.mk.inj (Option.some.inj stepped)).2.symm.trans
    rw [working.lock]
    simp [Lock.release]
  subst given
  have backed : forall entry, entry ∈ (world.factory factory).layouts ->
      world.Backed factory entry.2 := by
    intro entry member
    rcases working.layouts entry member with backed | last
    · exact backed
    · cases last
  have remakes : world.Remakes thread factory { world.factory factory with lock := .free } :=
    remakes_lock valid working.complete.1
      (fun _ different holds => different (Holds.unique working.holds holds)) nofun
      fun _ => ⟨empty, backed⟩
  refine ⟨_, rfl, remakes, ?_, persistent valid (valid.changeFactory remakes).moves.toGrows holds⟩
  rintro other ⟨more, held⟩
  by_cases same : other = factory
  · subst same
    rw [factory_rework] at held
    cases held
  · refine working.alone other same ⟨more, ?_⟩
    rw [← held]
    exact congrArg Factory.lock (if_neg same).symm

/-- The holder of a lock takes it again. -/
theorem acquireAgain (again : Nat) (fresh : Option ClassId) (steady : Steady thread factory known)
    (relocks : forall (world : World) (lock : Lock), world.Valid -> known world ->
      Grows world (world.changingFactory factory { world.factory factory with lock }) ->
      known (world.changingFactory factory { world.factory factory with lock })) :
    Serves (σ := σ) thread call
      (fun world => world.Working thread factory again 0 fresh False ∧
        (world.factory factory).workshop = {} ∧ known world)
      (factory.step .acquire)
      (fun _ world => world.Working thread factory (again + 1) 0 fresh False ∧
        (world.factory factory).workshop = {} ∧ known world) fails := by
  have empty : Steady thread factory fun world => (world.factory factory).workshop = {} :=
    steady_factory fun current => current.workshop = {}
  apply relock (empty.and steady).lasting (empty.and steady).lasting
  rintro world valid ⟨working, empty, holds⟩ changed stepped
  obtain ⟨lock, taken, same⟩ := Option.map_eq_some_iff.mp stepped
  obtain rfl := (Prod.mk.inj same).2
  rw [working.lock] at taken
  have next : lock = .held thread (again + 1) := by
    simpa [Lock.acquire] using taken.symm
  subst next
  have remakes : world.Remakes thread factory
      { world.factory factory with lock := .held thread (again + 1) } := by
    refine remakes_lock valid working.complete.1
      (fun _ different holds => different (Holds.unique working.holds holds)) ?_ nofun
    rintro other more ⟨⟩
    rfl
  have ready := remakes.ready valid working.complete working.alone rfl empty working.layouts
  exact ⟨_, rfl, remakes, ready.working, ready.empty,
    relocks world _ valid holds (valid.changeFactory remakes).moves.toGrows⟩

/-- The holder of a lock gives it back once, but not for good. -/
theorem releaseAgain (again : Nat) (fresh : Option ClassId) (persistent : Persistent known) :
    Serves (σ := σ) thread call
      (fun world => world.Ready thread factory (again + 1) fresh ∧ known world)
      (factory.step .release)
      (fun _ world => world.Ready thread factory again fresh ∧ known world) fails := by
  apply relock persistent.ready persistent.ready
  rintro world valid ⟨⟨working, empty⟩, holds⟩ changed stepped
  have given : changed = { world.factory factory with lock := .held thread again } := by
    apply (Prod.mk.inj (Option.some.inj stepped)).2.symm.trans
    rw [working.lock]
    simp [Lock.release]
  subst given
  have remakes : world.Remakes thread factory
      { world.factory factory with lock := .held thread again } := by
    refine remakes_lock valid working.complete.1
      (fun _ different holds => different (Holds.unique working.holds holds)) ?_ nofun
    rintro other more ⟨⟩
    rfl
  exact ⟨_, rfl, remakes, remakes.ready valid working.complete working.alone rfl empty
    working.layouts,
    persistent valid (valid.changeFactory remakes).moves.toGrows holds⟩

end Serves

end GuestTypes
