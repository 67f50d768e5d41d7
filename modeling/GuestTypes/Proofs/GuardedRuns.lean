import GuestTypes.Proofs.PlainRequests

/-!
# Guards in the runs of host code

Every request of host code gives back the guards that it takes, and host code takes none itself. So
on every machine that host code can lead to, whoever holds the guard of a registry is about to give
it back (`Machine.Reachable.guarded`), and the bindings of a registry change only while the thread
that writes is alone with them (`Machine.Turn.writes_alone`).
-/

namespace GuestTypes

variable {σ α β : Type} {thread : ThreadId} {registry : RegistryId}

/-! ## Host code -/

namespace Client

/-- A call gives back each guard that its request takes. -/
theorem guarded_asking (asked : Call) :
    (asking asked : Program (Clients σ) (Except Fault asked.Answer)).Guarded := by
  refine ⟨fun begun => ?_, rfl⟩
  cases begun with
  | none => exact ⟨trivial, rfl⟩
  | some number =>
      have ends (answer : Except Fault asked.Answer) :
          (Program.host (fun clients _ => ((), clients.finish number asked answer))
            (fun _ => Program.done answer) : Program (Clients σ) _).Guarded :=
        ⟨fun _ => ⟨trivial, rfl⟩, rfl⟩
      have request : (asked.request : Request (Clients σ) asked.Answer).run.Guarded :=
        (Call.plain_request asked).guarded
      exact ⟨(request.bind ends).givesBack, (request.bind ends).free⟩

/-- Host code takes no guard but by its calls. -/
theorem guarded_program (client : Client σ α) : client.program.Guarded := by
  induction client with
  | done answer => exact .done answer
  | work change next inductionHypothesis =>
      exact ⟨fun answer => ⟨(inductionHypothesis answer).givesBack,
        (inductionHypothesis answer).free⟩,
        rfl⟩
  | call asked next inductionHypothesis => exact (guarded_asking asked).bind inductionHypothesis
  | fork code next inductionHypothesis =>
      exact ⟨fun thread => ⟨(inductionHypothesis thread).givesBack,
        (inductionHypothesis thread).free⟩,
        rfl⟩
  | join thread next inductionHypothesis =>
      exact ⟨fun ending => ⟨(inductionHypothesis ending).givesBack,
        (inductionHypothesis ending).free⟩,
        rfl⟩
  | panic message => exact ⟨trivial, rfl⟩

end Client

/-- No host code of clients holds a guard where it begins or ends. -/
theorem ClientCode.guarded_host (code : ClientCode σ) : code.host.Guarded where
  initializer initializer cls := (code.initializer initializer cls).guarded_program
  escalation foreign cls := (code.escalation foreign cls).guarded_program
  body body := (code.body body).guarded_program

/-! ## Writing -/

/-- A step that writes no bindings leaves them as they were. -/
theorem Registry.Step.lookup_unwritten {step : Registry.Step β}
    (unwritten : step.access? ≠ some .writing) (registry : Registry) :
    (step.perform registry).2.1.lookup = registry.lookup := by
  cases step with
  | publish _ _ | registerAll _ => exact absurd rfl unwritten
  | lookup _ => rfl
  | firstLookup cls | secondLookup cls =>
      dsimp only [perform]
      split <;> rfl
  | loseEscalation =>
      dsimp only [perform]
      split <;> rfl

/-- A step of a registry changes the bindings of no other one, and its own only if it writes. -/
theorem Store.lookup_stepped {store : Store} {id : RegistryId} {step : Registry.Step β}
    {guards : Table Guard} {records : Array Record}
    (changed : (Store.registry { store with
      registries := store.registries.set id.index (step.perform (store.registry id)).2.1
      guards, records } registry).lookup ≠ (store.registry registry).lookup) :
    id = registry ∧ step.access? = some .writing := by
  unfold Store.registry at changed
  rw [Table.get_set] at changed
  split at changed
  · rename_i same
    refine ⟨congrArg RegistryId.mk same, Decidable.byContradiction fun unwritten => changed ?_⟩
    rw [← same]
    exact Registry.Step.lookup_unwritten unwritten _
  · exact absurd rfl changed

/-- An action that is not barred changes the bindings of a registry only as its sole holder. -/
theorem Action.writes_alone {action : Action β} {answer : β} {before after : Store}
    (performed : action.perform thread before = some (answer, after))
    (admitted : action.isBarred before = false)
    (made : registry.index < before.registries.size)
    (changed : (after.registry registry).lookup ≠ (before.registry registry).lookup) :
    (after.guard registry).holders = [(thread, .writing)] := by
  have pushed (added : Registry) :
      (before.registries.push added).get registry.index = before.registry registry :=
    (Table.get_push _ _ _).trans (if_neg (Nat.ne_of_gt made))
  cases action with
  | claim cls =>
      obtain ⟨_, -, same⟩ := Option.map_eq_some_iff.mp performed
      cases same
      exact absurd rfl changed
  | factory id step =>
      obtain ⟨_, -, same⟩ := Option.map_eq_some_iff.mp performed
      cases same
      exact absurd rfl changed
  | addRegistry escalation =>
      cases performed
      exact absurd (congrArg Registry.lookup (pushed _)) changed
  | addFactory maker objectType typeType =>
      cases performed
      exact absurd (congrArg Registry.lookup (pushed _)) changed
  | registry id step =>
      obtain ⟨-, rfl⟩ := Prod.mk.inj (Option.some.inj performed)
      obtain ⟨rfl, writes⟩ := Store.lookup_stepped changed
      have free : (before.guard id).admits .writing = true := by
        simpa [isBarred, writes] using admitted
      have guarded : step.guarding thread (before.guard id) =
          (before.guard id).take thread .writing := by
        unfold Registry.Step.guarding
        rw [writes]
      refine (congrArg Guard.holders (guard_set _ id id _)).trans ?_
      rw [if_pos rfl, guarded]
      exact congrArg ((thread, .writing) :: ·) (List.isEmpty_iff.mp free)
  | _ =>
      cases performed
      exact absurd rfl changed

/-! ## Machines -/

namespace Machine

/-- The bindings of a registry change only while the thread that writes is alone with them. -/
theorem Turn.writes_alone {code : HostCode σ} {machine next : Machine σ}
    {control : Program σ (Except Fault Unit)} {frames : List (Frame σ)}
    (turn : machine.Turn code thread control frames next)
    (made : registry.index < machine.store.registries.size)
    (changed : (next.store.registry registry).lookup ≠ (machine.store.registry registry).lookup) :
    (next.store.guard registry).holders = [(thread, .writing)] := by
  cases turn with
  | acted answer store performed admitted =>
      exact Action.writes_alone performed admitted made changed
  | panicked message frames =>
      obtain ⟨progress, same⟩ := unwind_progress machine.store frames
      refine absurd ?_ changed
      show ((unwind machine.store frames).registry registry).lookup = _
      rw [same]
      rfl
  | _ => exact absurd rfl changed

section Reachable

variable {code : ClientCode σ} {machine : Machine (Clients σ)}

/-- Before the first step nobody holds a guard. -/
theorem Opens.guarded (opens : machine.Opens) : machine.Guarded := by
  obtain ⟨files, store⟩ := opens.store
  have begins {thread : ThreadId} {control : Program (Clients σ) (Except Fault Unit)}
      {frames : List (Frame (Clients σ))}
      (found : machine.threads[thread.index]? = some (.running control frames)) :
      control.Guarded ∧ frames = [] := by
    obtain ⟨client, same⟩ := opens.threads _ (Array.mem_of_getElem? found)
    cases same
    exact ⟨client.guarded_program, rfl⟩
  have free (registry : RegistryId) : machine.store.guard registry = {} := by
    rw [store]
    rfl
  refine ⟨fun registry => free registry ▸ Guard.sound_free, fun registry thread => ?_,
    fun thread control frames found => (begins found).1.givesBack,
    fun thread control frames found =>
      (begins found).2 ▸ fun _ member => absurd member List.not_mem_nil⟩
  rw [free]
  refine iff_of_false (by simp [Guard.isHeldBy]) fun returned => ?_
  obtain ⟨state, found, returned⟩ := Option.bind_eq_some_iff.mp returned
  cases state with
  | running control frames => cases (begins found).1.free.symm.trans returned
  | finished _ | panicked _ => cases returned

/-- On every machine that host code can lead to, the holders of guards are about to give them
back. -/
theorem Reachable.guarded (reachable : machine.Reachable code) : machine.Guarded := by
  induction reachable using Reachable.induction with
  | opens start opens => exact opens.guarded
  | step thread current next reached moved inductionHypothesis =>
      exact inductionHypothesis.step code.guarded_host moved

end Reachable

end Machine

end GuestTypes
