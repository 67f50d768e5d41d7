import GuestTypes.Proofs.Trust

/-!
# The registry of a factory

As long as nobody binds classes in it directly, the registry of a factory is ruled by the host
classes of its representations: a class is bound to a representation of its own, or took over
the one of its superclass together with all classes in between.
-/

namespace GuestTypes

/-- The binding of a class to a representation is ruled by the representation's host class. -/
structure Store.Rules (store : Store) (registry : RegistryId) (cls : ClassId)
    (rep : Representation) : Prop where
  hosted : (store.registry registry).lookup (store.types.hostClass rep) = some rep
  above : store.types.hostClass rep ∈ store.hierarchy.lineage cls
  /-- The class itself, unless it is the host class, and all classes in between. -/
  inherited : forall lower,
    lower ∈ (store.hierarchy.lineage cls).takeWhile (· != store.types.hostClass rep) ->
      store.hierarchy.implements lower Builtin.withClassAssignment = true ∧
        store.hierarchy.isSynthesized lower = false ∧
        (store.registry registry).lookup lower = some rep
  bound : store.types.isAccepted rep = false
  canonical : forall shared, rep = .shared shared ->
    (store.types.sharedRow shared).canonicalClass =
      store.hierarchy.superclass (store.types.hostClass rep)

/-- In a list without repetitions, what comes before an element is what differs from it first. -/
theorem takeWhile_of_nodup {host : ClassId} {below above : List ClassId}
    (distinct : (below ++ host :: above).Nodup) :
    (below ++ host :: above).takeWhile (· != host) = below := by
  induction below with
  | nil => simp
  | cons cls below inductionHypothesis =>
      obtain ⟨apart, distinct⟩ := List.nodup_cons.mp distinct
      have different : (cls != host) = true := by
        simp only [bne_iff_ne]
        rintro rfl
        exact apart (List.mem_append_right _ List.mem_cons_self)
      rw [List.cons_append, List.takeWhile_cons, if_pos different, inductionHypothesis distinct]

namespace Governs

variable {σ : Type} {now : Instant σ} {registry : RegistryId} {cls : ClassId} {rep : Representation}

/-- What a governed view says of a registry. -/
theorem rules (valid : now.world.Valid)
    (governs : Governs now.world.hierarchy now.world.types (now.world.bindings registry) cls rep) :
    now.store.Rules registry cls rep := by
  obtain ⟨made, hosted, bound, below, above, chain, taken⟩ := governs
  have distinct := now.store.hierarchy.nodup_lineage cls
  have chain : now.store.hierarchy.lineage cls =
      below ++ now.store.types.hostClass rep :: above := chain
  rw [chain] at distinct
  refine ⟨hosted, ?_, ?_, bound, ?_⟩
  · rw [chain]
    exact List.mem_append_right _ List.mem_cons_self
  · rw [chain, takeWhile_of_nodup distinct]
    intro lower member
    obtain ⟨takes, same⟩ := taken lower member
    obtain ⟨implements, other⟩ := Bool.and_eq_true_iff.mp takes
    exact ⟨implements, (Bool.not_eq_eq_eq_not.mp other), same⟩
  · rintro shared rfl
    exact (valid.shared shared made).2

end Governs

namespace Machine

variable {σ : Type} {code : ClientCode σ} {machine : Machine (Clients σ)} {factory : FactoryId}

/-- Without direct registrations, all that the registry of a factory binds is ruled by the host
classes of its representations. -/
theorem factory_registry_ruled (reachable : machine.Reachable code)
    (founded : factory.index < machine.store.factories.size)
    (direct : forall record, record ∈ machine.host.calls ->
      record.call.registersIn (machine.registryOf factory) = false) :
    forall cls rep, machine.bound (machine.registryOf factory) cls = some rep ->
      machine.store.Rules (machine.registryOf factory) cls rep := by
  obtain ⟨now, kept⟩ := reachable.kept
  intro cls rep bound
  unfold Machine.bound Machine.registryOf at bound
  unfold Machine.registryOf at direct ⊢
  rw [kept.store] at founded direct bound ⊢
  rw [kept.host] at direct
  exact (kept.valid.governed factory founded direct cls rep bound).rules kept.valid

/-- Host code with a class that takes over the representation of its superclass. -/
def takingOver : Client Unit (Except Fault Unit) :=
  .call (.makeFactory {}) fun
    | .error fault => .done (.error fault)
    | .ok factory =>
        .call (.declare { name := "Base", interfaces := [Builtin.withClassAssignment] }) fun
          | .error fault => .done (.error fault)
          | .ok base =>
              .call (.create factory { name := "base", primary := base }) fun _ =>
                .call (.declare { name := "Derived", superclass := some base }) fun
                  | .error fault => .done (.error fault)
                  | .ok derived => .call (.findOrCreate factory derived) fun _ => .done (.ok ())

/-- A class that has taken over the representation of its superclass is bound by the rules. -/
theorem factory_registry_ruled_takingOver :
    let machine := Machine.run ClientCode.quiet.host 80 (opening takingOver ())
    machine.bound (machine.registryOf ⟨0⟩) ⟨11⟩ = some (.canonical ⟨2⟩) ∧
      machine.store.types.hostClass (.canonical ⟨2⟩) = ⟨10⟩ ∧
      machine.store.Rules (machine.registryOf ⟨0⟩) ⟨11⟩ (.canonical ⟨2⟩) := by
  intro machine
  have reachable : machine.Reachable ClientCode.quiet :=
    reachable_run ClientCode.quiet takingOver () 80
  have bound : machine.bound (machine.registryOf ⟨0⟩) ⟨11⟩ = some (.canonical ⟨2⟩) := by
    decide +kernel
  have founded : 0 < machine.store.factories.size := by decide +kernel
  have direct : forall record, record ∈ machine.host.calls ->
      record.call.registersIn (machine.registryOf ⟨0⟩) = false := by decide +kernel
  exact ⟨bound, by decide +kernel, factory_registry_ruled reachable founded direct _ _ bound⟩

end Machine

end GuestTypes
