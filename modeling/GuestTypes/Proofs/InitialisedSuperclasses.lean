import GuestTypes.Proofs.FinalFailure

/-!
# Above initialised classes

A thread that settles a class may use all superclasses then, which is to say that each of them is
initialised or is being initialised by the same thread. So the superclasses of an initialised class
are initialised, but for those whose initializers asked for the class, whatever became of them
afterwards. If one of these has failed, the class is refused for its failure, initialised as it is.
-/

namespace GuestTypes

variable {σ : Type} {thread : ThreadId} {cls super : ClassId}

/-- No class is being initialised. -/
def Store.Resting (store : Store) : Prop :=
  forall cls owner, store.initState cls ≠ .running owner

/-- The class is being initialised. -/
def InitState.isRunning : InitState -> Bool
  | .running _ => true
  | .unstarted | .done | .failed _ => false

/-- It is enough to look at the classes that somebody has asked for. -/
theorem Store.resting_of_progress {store : Store}
    (fallback : store.progress.fallback.isRunning = false)
    (cells : store.progress.cells.any (·.isRunning) = false) : store.Resting := by
  intro cls owner running
  unfold Store.initState Table.get at running
  cases found : store.progress.cells[cls.index]? with
  | none =>
      rw [found, Option.getD_none] at running
      rw [running] at fallback
      cases fallback
  | some state =>
      rw [found, Option.getD_some] at running
      have member := Array.mem_of_getElem? found
      rw [Array.any_eq_false'] at cells
      exact cells state member (running ▸ rfl)

/-- Of classes that are initialised or have failed, the last one that is not initialised. -/
theorem Store.split_failed {store : Store} {classes : List ClassId}
    (ended : forall cls, cls ∈ classes ->
      store.initState cls = .done ∨ exists reason, store.initState cls = .failed reason)
    (some_ : exists cls, cls ∈ classes ∧ store.initState cls ≠ .done) :
    exists below failed above reason, classes = below ++ failed :: above ∧
      (forall cls, cls ∈ above -> store.initState cls = .done) ∧
        store.initState failed = .failed reason := by
  induction classes with
  | nil =>
      obtain ⟨cls, member, -⟩ := some_
      cases member
  | cons cls rest inductionHypothesis =>
      by_cases later : exists other, other ∈ rest ∧ store.initState other ≠ .done
      · obtain ⟨below, failed, above, reason, rfl, others⟩ :=
          inductionHypothesis (fun other member => ended other (List.mem_cons_of_mem _ member))
            later
        exact ⟨cls :: below, failed, above, reason, rfl, others⟩
      · have done : forall other, other ∈ rest -> store.initState other = .done := by
          intro other member
          by_contra open_
          exact later ⟨other, member, open_⟩
        obtain ⟨other, member, open_⟩ := some_
        obtain rfl := (List.mem_cons.mp member).resolve_right fun within =>
          open_ (done other within)
        obtain ⟨reason, failed⟩ := (ended other member).resolve_left open_
        exact ⟨[], other, rest, reason, rfl, done, failed⟩

/-- The class that a call asked to be initialised, and the answer. -/
def CallRecord.initialisation? : CallRecord -> Option (ClassId × Except Fault Unit)
  | ⟨.ensureInitialised cls, some outcome⟩ => some (cls, outcome)
  | _ => none

namespace Machine

/-! ## Completing a class -/

section Completing

variable {code : ClientCode σ} {start machine next : Machine (Clients σ)}

/-- To settle a class initialises no other one. -/
theorem eq_of_settle {store : Store} {settled : ClassId} {state : InitState}
    (open_ : store.initState cls ≠ .done)
    (done : (store.settle settled state).initState cls = .done) : settled = cls := by
  by_contra different
  rw [store.initState_settle, if_neg different] at done
  exact open_ done

/-- A thread that completes a class may use all superclasses of it. -/
theorem InOrder.completes (inOrder : machine.InOrder)
    (stepped : machine.step code.host thread = some next)
    (open_ : machine.store.initState cls ≠ .done) (done : next.store.initState cls = .done) :
    machine.store.Founds thread cls := by
  obtain ⟨control, frames, found, turn⟩ := step_eq_some_iff.mp stepped
  have orderly := (inOrder thread control frames found).orderly
  cases turn with
  | resumed outcome frame outer =>
      have same : frame.cls = cls := eq_of_settle open_ done
      exact same ▸ (orderly machine.store (.refl _ _)).1
  | acted answer store performed =>
      rcases Action.initState_perform performed cls with same | ⟨-, running⟩
      · exact absurd (same.symm.trans done) open_
      · cases done.symm.trans running
  | @settled settled _ _ none_ =>
      obtain ⟨begins, -⟩ := orderly machine.store (.refl _ _)
      have same : settled = cls := eq_of_settle open_ done
      exact same ▸ begins.toFounds
  | panicked message frames =>
      have unwound : (unwind machine.store frames).initState cls = .done := done
      rw [initState_unwind] at unwound
      split at unwound
      · cases unwound
      · exact absurd unwound open_
  | ended _ | worked _ _ _ | entered _ _ | escalated _ _ _ _ | forked _ _ _ | joined _ _ =>
      exact absurd done open_

/-- On the way to the machine the thread took a step by which the class was initialised. -/
structure Completes (code : HostCode σ) (start machine : Machine σ) (thread : ThreadId)
    (cls : ClassId) (before after : Machine σ) : Prop where
  reached : Machine.Steps code start before
  moved : before.step code thread = some after
  onward : Machine.Steps code after machine
  open_ : before.store.initState cls ≠ .done
  done : after.store.initState cls = .done

/-- A class that is initialised was completed by some step, as none is at the start. -/
theorem Opens.completed (opens : start.Opens) (steps : Machine.Steps code.host start machine)
    (done : machine.store.initState cls = .done) :
    exists thread before after, Completes code.host start machine thread cls before after := by
  induction steps with
  | refl =>
      obtain ⟨files, same⟩ := opens.store
      rw [same] at done
      cases done
  | @step current next prior last inductionHypothesis =>
      obtain ⟨mover, moved⟩ := last
      by_cases already : current.store.initState cls = .done
      · obtain ⟨thread, before, after, completes⟩ := inductionHypothesis already
        exact ⟨thread, before, after, { completes with
          onward := .step completes.onward ⟨mover, moved⟩ }⟩
      · exact ⟨mover, current, next, prior, moved, .refl, already, done⟩

/-- A class that a thread is initialising stays so until that has ended. -/
theorem running_later {code : HostCode σ} {machine later : Machine σ}
    (running : machine.store.initState cls = .running thread)
    (steps : Machine.Steps code machine later) :
    later.store.initState cls = .running thread ∨ (later.store.initState cls).Ended := by
  induction steps with
  | refl => exact .inl running
  | @step current next prior last inductionHypothesis =>
      obtain ⟨mover, moved⟩ := last
      rcases initState_step moved cls with same | ⟨unstarted, -⟩ | ⟨-, ended⟩ | done
      · exact same ▸ inductionHypothesis
      · rw [unstarted] at inductionHypothesis
        rcases inductionHypothesis with running | ended
        · cases running
        · exact ended.elim
      · exact .inr ended
      · exact .inr (done ▸ trivial)

/-- The class was completed by a thread that was in the middle of initialising the other one. -/
def CompletedWithin (code : HostCode σ) (start machine : Machine σ) (thread : ThreadId)
    (super cls : ClassId) : Prop :=
  exists before after, Completes code start machine thread cls before after ∧
    before.store.initState super = .running thread

end Completing

/-! ## The superclasses of an initialised class -/

/-- What is known of the superclasses of an initialised class, and what is answered to those who ask
for it. -/
structure StandsOn (code : ClientCode σ) (start machine : Machine (Clients σ)) (cls : ClassId) :
    Prop where
  /-- Each superclass is initialised, unless the class was completed while the initializer of the
  superclass was running. That is still running then, or has failed. -/
  supers : forall super, super ∈ (machine.store.hierarchy.lineage cls).tail ->
    machine.store.initState super = .done ∨
      exists thread, CompletedWithin code.host start machine thread super cls ∧
        (machine.store.initState super = .running thread ∨
          exists reason, machine.store.initState super = .failed reason)
  /-- Who asks for the class can use it, if all superclasses are initialised. -/
  answered : (forall super, super ∈ (machine.store.hierarchy.lineage cls).tail ->
      machine.store.initState super = .done) ->
    forall thread, (cls.ensureInitialised : Request (Clients σ) Unit).run.Delivers thread
      (Store.Leaves thread) machine.store fun outcome _ => outcome = .ok ()
  /-- Otherwise, and if no class is being initialised, he is told which superclass has failed, the
  first one from the root. -/
  refused : machine.store.Resting ->
    (exists super, super ∈ (machine.store.hierarchy.lineage cls).tail ∧
      machine.store.initState super ≠ .done) ->
    exists below failed above reason,
      machine.store.hierarchy.lineage cls = below ++ failed :: above ∧
      (forall super, super ∈ above -> machine.store.initState super = .done) ∧
      machine.store.initState failed = .failed reason ∧
      forall thread, (cls.ensureInitialised : Request (Clients σ) Unit).run.Delivers thread
        (Store.Leaves thread) machine.store fun outcome _ =>
          outcome = .error (.initialisation (machine.store.hierarchy.name failed) reason)

variable {code : ClientCode σ} {start machine : Machine (Clients σ)}

/-- A superclass of an initialised class that is not initialised itself was being initialised when
the class was completed. -/
theorem Opens.superclass_of_done (opens : start.Opens)
    (steps : Machine.Steps code.host start machine)
    (done : machine.store.initState cls = .done)
    (member : super ∈ (machine.store.hierarchy.lineage cls).tail) :
    machine.store.initState super = .done ∨
      exists thread, CompletedWithin code.host start machine thread super cls ∧
        (machine.store.initState super = .running thread ∨
          exists reason, machine.store.initState super = .failed reason) := by
  obtain ⟨thread, before, after, completes⟩ := opens.completed steps done
  have reached : before.Reachable code := ⟨start, opens, completes.reached⟩
  have founds := reached.inOrder.completes completes.moved completes.open_ completes.done
  have onward : Machine.Steps code.host before machine :=
    Machine.Steps.trans (.step .refl ⟨thread, completes.moved⟩) completes.onward
  obtain ⟨hierarchy, kept⟩ := reached.settled_later onward
  rw [hierarchy.lineage founds.declared] at member
  rcases founds.supers super member with above | running
  · left
    rw [kept super (by rw [above]; trivial), above]
  · have within : CompletedWithin code.host start machine thread super cls :=
      ⟨before, after, completes, running⟩
    rcases running_later running onward with still | ended
    · exact .inr ⟨thread, within, .inl still⟩
    · cases state : machine.store.initState super with
      | done => exact .inl rfl
      | failed reason => exact .inr ⟨thread, within, .inr ⟨reason, rfl⟩⟩
      | unstarted | running _ =>
          rw [state] at ended
          exact ended.elim

/-- Of every class that is initialised in a machine that host code has led to, this is known. -/
theorem initialised_superclasses (opens : start.Opens)
    (steps : Machine.Steps code.host start machine)
    (declared : machine.store.hierarchy.Declared cls)
    (done : machine.store.initState cls = .done) : StandsOn code start machine cls where
  supers := fun super member => opens.superclass_of_done steps done member
  answered := by
    intro supers thread
    refine (ClassId.delivers_ensureInitialised (Store.calm_leaves thread) declared
      fun ancestor member => .inl ?_).weaken fun _ _ ended => ended.1
    rw [Hierarchy.lineage_eq] at member
    rcases List.mem_cons.mp member with rfl | above
    · exact done
    · exact supers ancestor (by rw [Hierarchy.lineage_eq]; exact above)
  refused := by
    rintro resting ⟨super, member, open_⟩
    have ended : forall ancestor, ancestor ∈ machine.store.hierarchy.lineage cls ->
        machine.store.initState ancestor = .done ∨
          exists reason, machine.store.initState ancestor = .failed reason := by
      intro ancestor member
      rw [Hierarchy.lineage_eq] at member
      rcases List.mem_cons.mp member with rfl | above
      · exact .inl done
      · have above : ancestor ∈ (machine.store.hierarchy.lineage cls).tail := by
          rw [Hierarchy.lineage_eq]
          exact above
        rcases opens.superclass_of_done steps done above with done | ⟨owner, -, running | failed⟩
        · exact .inl done
        · exact absurd running (resting ancestor owner)
        · exact .inr failed
    obtain ⟨below, failed, above, reason, split, others, reported⟩ :=
      Store.split_failed ended ⟨super, List.mem_of_mem_tail member, open_⟩
    refine ⟨below, failed, above, reason, split, others, reported, fun thread => ?_⟩
    exact (ClassId.refuses_ensureInitialised (Store.calm_leaves thread) declared split
      (fun ancestor member => .inl (others ancestor member)) reported).weaken
        fun _ _ ended => ended.1

/-- The initializer of the class that is declared first asks for the next class, and fails. -/
def askingBelow : ClientCode Unit where
  initializer _ _ := .call (.ensureInitialised ⟨firstDeclared.index + 1⟩) fun _ =>
    .done (.error (.unsupported (.reported "static state")))
  escalation := ClientCode.quiet.escalation
  body := ClientCode.quiet.body

/-- Host code that declares a class with an initializer and one below it, asks for the first and
then for the second. -/
def declaringBelow : Client Unit (Except Fault Unit) :=
  .call (.declare { name := "app.Base", initializer := some ⟨0⟩ }) fun _ =>
    .call (.declare { name := "app.Derived", superclass := some firstDeclared }) fun _ =>
      .call (.ensureInitialised firstDeclared) fun _ =>
        .call (.ensureInitialised ⟨firstDeclared.index + 1⟩) fun _ => .done (.ok ())

/-- Of the class below, the failed one is reported to whoever asks for it. -/
theorem initialised_superclasses_declaringBelow :
    let start := opening declaringBelow ()
    let machine := Machine.run askingBelow.host 50 start
    (exists thread, CompletedWithin askingBelow.host start machine thread firstDeclared
      ⟨firstDeclared.index + 1⟩) ∧
    forall thread, (ClassId.ensureInitialised ⟨firstDeclared.index + 1⟩ :
        Request (Clients Unit) Unit).run.Delivers thread (Store.Leaves thread) machine.store
      fun outcome _ =>
        outcome = .error (.initialisation "app.Base" "not yet supported: static state") := by
  intro start machine
  have steps : Machine.Steps askingBelow.host start machine := steps_run _ _ _ _ .refl
  have declared : firstDeclared.index + 1 < machine.store.hierarchy.rows.size := by decide +kernel
  have done : machine.store.initState ⟨firstDeclared.index + 1⟩ = .done := by decide +kernel
  have lineage : machine.store.hierarchy.lineage ⟨firstDeclared.index + 1⟩ =
    [⟨firstDeclared.index + 1⟩, firstDeclared, Builtin.object] := by decide +kernel
  have root : machine.store.initState Builtin.object = .done := by decide +kernel
  have failed : machine.store.initState firstDeclared =
      .failed "not yet supported: static state" := by decide +kernel
  have name : machine.store.hierarchy.name firstDeclared = "app.Base" := by decide +kernel
  have resting : machine.store.Resting :=
    Store.resting_of_progress (by decide +kernel) (by decide +kernel)
  clear_value machine
  have stands := initialised_superclasses (opens_opening declaringBelow ()) steps declared done
  have member : firstDeclared ∈
      (machine.store.hierarchy.lineage ⟨firstDeclared.index + 1⟩).tail := by
    rw [lineage]
    exact List.mem_cons_self
  constructor
  · rcases stands.supers firstDeclared member with above | ⟨thread, within, -⟩
    · cases above.symm.trans failed
    · exact ⟨thread, within⟩
  · obtain ⟨below, other, above, reason, split, -, reported, tells⟩ :=
      stands.refused resting ⟨firstDeclared, member, by rw [failed]; nofun⟩
    have among : other ∈ machine.store.hierarchy.lineage ⟨firstDeclared.index + 1⟩ := by
      rw [split]
      exact List.mem_append_right _ List.mem_cons_self
    simp only [lineage, List.mem_cons, List.not_mem_nil, or_false] at among
    rcases among with rfl | rfl | rfl
    · cases done.symm.trans reported
    · cases failed.symm.trans reported
      rw [name] at tells
      exact tells
    · cases root.symm.trans reported

/-- No class is being initialised, and the class below is initialised, but its superclass is not,
and who asks for the class is refused. -/
theorem superclass_failed :
    let machine := Machine.run askingBelow.host 50 (opening declaringBelow ())
    let derived : ClassId := ⟨firstDeclared.index + 1⟩
    machine.store.Resting ∧ firstDeclared ∈ (machine.store.hierarchy.lineage derived).tail ∧
      machine.store.isInitialised derived = true ∧
      machine.store.isInitialised firstDeclared = false ∧
      machine.host.calls.filterMap (·.initialisation?) =
        [(firstDeclared, .error (.initialisation "app.Base" "not yet supported: static state")),
          (derived, .ok ()),
          (derived, .error (.initialisation "app.Base" "not yet supported: static state"))] := by
  intro machine derived
  exact ⟨Store.resting_of_progress (by decide +kernel) (by decide +kernel), by decide +kernel,
    by decide +kernel, by decide +kernel, by decide +kernel⟩

end Machine

end GuestTypes
