import GuestTypes.Proofs.SinglePublication

/-!
# Registries over one factory

Several registries may turn to the same factory. Such a registry publishes what the factory
answered with, after the factory has published it in its own registry, and initializers may
define types in between. So what the registry binds is bound by the factory's own registry, and
two registries over one factory agree on every class that both bind. Only direct registrations
in the registry itself are excluded; the factory's own registry may have them.

A step binds what the factory confirms (`World.Moves.confirmed`), and confirmed bindings stay.
-/

namespace GuestTypes

variable {σ : Type} {thread : ThreadId}

namespace World

variable {before after : World}

/-- What a registry over a factory binds, unless host code writes to it, was published by the
factory. -/
def Echoing (world : World) : Prop :=
  forall registry factory, world.escalation registry = .factory factory ->
    ¬ world.Written registry -> forall cls rep, world.bindings registry cls = some rep ->
      world.Settled factory cls rep

/-- A registry that host code has written to stays written to. -/
theorem Grows.written (grows : Grows before after) {registry : RegistryId}
    (written : before.Written registry) : after.Written registry := by
  obtain ⟨record, member, direct⟩ := written
  obtain ⟨number, found⟩ := List.mem_iff_getElem?.mp member
  obtain ⟨later, still, call, -⟩ := grows.calls number record found
  exact ⟨later, List.mem_of_getElem? still, call ▸ direct⟩

/-- A registry that binds a class exists. -/
theorem Valid.made (valid : before.Valid) {registry : RegistryId} {cls : ClassId}
    {rep : Representation} (bound : before.bindings registry cls = some rep) :
    registry.index < before.registryCount := by
  apply Nat.lt_of_not_le
  intro beyond
  rw [valid.unbound registry cls beyond] at bound
  cases bound

/-- A new binding was confirmed by the factory; it published it, or the registry is its own. -/
theorem Confirms.settled (grows : Grows before after) {registry : RegistryId} {cls : ClassId}
    {rep : Representation} {factory : FactoryId} (confirms : before.Confirms registry cls rep)
    (turns : before.escalation registry = .factory factory)
    (bound : after.bindings registry cls = some rep) : after.Settled factory cls rep := by
  obtain ⟨founded, published | own⟩ := confirms factory turns
  · exact ⟨Nat.lt_of_lt_of_le founded grows.factories, grows.published founded published⟩
  · refine ⟨Nat.lt_of_lt_of_le founded grows.factories, ?_⟩
    rw [World.published, grows.wiring factory founded, own]
    exact bound

/-- One step of any thread. -/
theorem Moves.echoing (valid : before.Valid) (moves : Moves thread before after)
    (echoing : before.Echoing) : after.Echoing := by
  intro registry factory turns unwritten cls rep bound
  have unwritten : ¬ before.Written registry := fun written => unwritten (moves.written written)
  cases earlier : before.bindings registry cls with
  | some other =>
      obtain rfl : other = rep :=
        Option.some.inj ((moves.bindings registry cls other earlier).symm.trans bound)
      have turned := (moves.escalations registry factory (valid.made earlier)).mp turns
      exact persistent_settled factory cls other valid moves.toGrows
        (echoing registry factory turned unwritten cls other earlier)
  | none =>
      obtain ⟨made, written | confirms⟩ := moves.confirmed registry cls rep earlier bound
      · exact absurd written unwritten
      · exact confirms.settled moves.toGrows ((moves.escalations registry factory made).mp turns)
          bound

end World

namespace Machine

variable {code : ClientCode σ} {machine : Machine (Clients σ)} {factory : FactoryId}

/-- Before its first step, a machine has no registry that could differ from the factory. -/
theorem Opens.echoing (opens : machine.Opens) {now : Instant σ} (kept : kernel.Kept machine now) :
    now.world.Echoing := by
  intro registry factory turns unwritten cls rep bound
  obtain ⟨files, store⟩ := opens.store
  have bound : (now.store.registry registry).lookup cls = some rep := bound
  rw [← kept.store, store] at bound
  simp [Store.registry, Table.get, Registry.lookup] at bound

/-- Every run. -/
theorem Reachable.echoing (reachable : machine.Reachable code) :
    exists now : Instant σ, kernel.Kept machine now ∧ now.world.Echoing := by
  obtain ⟨start, opens, steps⟩ := reachable
  obtain ⟨first, opened⟩ := opens.kept
  obtain ⟨now, onward, kept⟩ := opened.steps (trusts_host code) steps
  refine ⟨now, kept, ?_⟩
  clear kept
  induction onward with
  | refl => exact opens.echoing opened
  | step _ mover _ valid last inductionHypothesis =>
      exact last.moves.echoing valid inductionHypothesis

/-- The registry turns to the factory for classes that it does not bind. -/
def TurnsTo (machine : Machine σ) (registry : RegistryId) (factory : FactoryId) : Prop :=
  (machine.store.registry registry).escalation = .factory factory

/-- Host code has never bound classes in the registry directly. -/
def Unwritten (machine : Machine (Clients σ)) (registry : RegistryId) : Prop :=
  forall record, record ∈ machine.host.calls -> record.call.registersIn registry = false

/-- What the registries over a factory have in common. -/
structure RegistriesAgree (machine : Machine (Clients σ)) (factory : FactoryId) : Prop where
  /-- A registry that host code made over the factory turns to it. -/
  turns : forall registry, machine.Answered (.makeRegistry (.factory factory)) registry ->
    machine.TurnsTo registry factory
  /-- What such a registry binds is bound by the factory's own registry. -/
  echoes : forall registry, machine.TurnsTo registry factory -> machine.Unwritten registry ->
    forall cls rep, machine.bound registry cls = some rep ->
      machine.bound (machine.registryOf factory) cls = some rep
  /-- A class that two such registries bind is bound to one representation. -/
  agree : forall first second, machine.TurnsTo first factory -> machine.Unwritten first ->
    machine.TurnsTo second factory -> machine.Unwritten second ->
      forall cls rep other, machine.bound first cls = some rep ->
        machine.bound second cls = some other -> rep = other

/-- In every machine that host code leads to, the registries over a factory agree where host code
wrote to none. -/
theorem registries_agree (reachable : machine.Reachable code) (factory : FactoryId) :
    machine.RegistriesAgree factory := by
  obtain ⟨now, kept, echoing⟩ := reachable.echoing
  have echoes : forall registry, machine.TurnsTo registry factory -> machine.Unwritten registry ->
      forall cls rep, machine.bound registry cls = some rep ->
        machine.bound (machine.registryOf factory) cls = some rep := by
    intro registry turns unwritten cls rep bound
    simp only [TurnsTo, Unwritten, Machine.bound, registryOf, kept.store, kept.host]
      at turns unwritten bound ⊢
    refine (echoing registry factory turns ?_ cls rep bound).2
    rintro ⟨record, member, direct⟩
    cases (unwritten record member).symm.trans direct
  constructor
  · intro registry answered
    simp only [Answered, TurnsTo, kept.store, kept.host] at answered ⊢
    exact (kept.valid.served _ answered).2
  · exact echoes
  · intro first second turns unwritten turned untouched cls rep other bound found
    have own := echoes first turns unwritten cls rep bound
    exact Option.some.inj (own.symm.trans (echoes second turned untouched cls other found))

/-- The initializers of classes ask the third registry for them. -/
def askingThird : ClientCode Unit where
  initializer _ cls := .call (.resolve ⟨2⟩ cls) fun _ => .done (.ok ())
  escalation := ClientCode.quiet.escalation
  body := ClientCode.quiet.body

/-- Host code that makes two registries over a factory and asks the first of them for a class,
whose initializer asks the other one. -/
def overOneFactory : Client Unit (Except Fault Unit) :=
  .call (.makeFactory {}) fun
    | .error fault => .done (.error fault)
    | .ok factory =>
        .call (.makeRegistry (.factory factory)) fun
          | .error fault => .done (.error fault)
          | .ok registry =>
              .call (.makeRegistry (.factory factory)) fun _ =>
                .call (.declare { name := "Base", initializer := some ⟨0⟩ }) fun
                  | .error fault => .done (.error fault)
                  | .ok cls => .call (.resolve registry cls) fun _ => .done (.ok ())

/-- Two registries over a factory bind a class to the same type, although its initializer asked the
other one. -/
theorem registries_agree_overOneFactory :
    let machine := Machine.run askingThird.host 200 (opening overOneFactory ())
    machine.TurnsTo ⟨1⟩ ⟨0⟩ ∧ machine.TurnsTo ⟨2⟩ ⟨0⟩ ∧
      machine.bound ⟨1⟩ ⟨10⟩ = some (.canonical ⟨2⟩) ∧
      machine.bound ⟨2⟩ ⟨10⟩ = some (.canonical ⟨2⟩) ∧
      machine.bound (machine.registryOf ⟨0⟩) ⟨10⟩ = some (.canonical ⟨2⟩) := by
  intro machine
  have agreed := registries_agree (reachable_run askingThird overOneFactory () 200) ⟨0⟩
  have first : machine.TurnsTo ⟨1⟩ ⟨0⟩ := by unfold TurnsTo; decide +kernel
  have second : machine.TurnsTo ⟨2⟩ ⟨0⟩ := by unfold TurnsTo; decide +kernel
  have unwritten : machine.Unwritten ⟨1⟩ := by unfold Unwritten; decide +kernel
  have bound : machine.bound ⟨1⟩ ⟨10⟩ = some (.canonical ⟨2⟩) := by decide +kernel
  have other : machine.bound ⟨2⟩ ⟨10⟩ = some (.canonical ⟨2⟩) := by decide +kernel
  exact ⟨first, second, bound, other, agreed.echoes ⟨1⟩ first unwritten _ _ bound⟩

end Machine

end GuestTypes
