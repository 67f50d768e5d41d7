import GuestTypes.Proofs.PatientRequests

/-!
# A failed initialisation is final

A class whose static initialisation has failed stays so: its initializer is not run again, and no
request for the class initialises anything or asks an escalation. What a registry binds the class
to is looked at first, though, and a failure does not keep the class from being bound: what its
own initializer registered for it, or whoever else did, is found. Otherwise the request is refused,
with the failure of the class, or of a superclass that was being initialised then and has failed
since.
-/

namespace GuestTypes

variable {σ : Type} {thread : ThreadId} {registry : RegistryId} {cls : ClassId}

/-- How a registry goes on to answer for a class that it has found unbound. -/
def RegistryId.resolveUnbound (registry : RegistryId) (cls : ClassId) :
    Request σ Representation := do
  cls.ensureInitialised
  if let some rep <- registry.step (.secondLookup cls) then return rep
  let rep <- registry.escalate cls
  registry.step (.publish cls rep)

/-- A registry looks up a class first, and does nothing else if it is bound. -/
theorem RegistryId.resolve_eq (registry : RegistryId) (cls : ClassId) :
    (registry.resolve cls : Request σ Representation) =
      registry.step (.firstLookup cls) >>= fun found =>
        match found with
        | some rep => pure rep
        | none => registry.resolveUnbound cls := by
  unfold resolve
  congr
  funext found
  cases found <;> rfl

/-! ## Begun classes -/

namespace Store

/-- A usable class has been begun. -/
theorem Usable.begun {store : Store} (usable : store.Usable thread cls) :
    store.initState cls ≠ .unstarted := by
  rcases usable with done | running
  · rw [done]
    nofun
  · rw [running]
    nofun

/-- One more class is initialised, below those that have been. -/
theorem Initialised.cons {start store : Store} {above : List ClassId} {outcome : Except Fault Unit}
    (usable : store.Initialised thread above (.ok ()))
    (initialises : ClassId.Initialises thread cls start outcome store) :
    store.Initialised thread (cls :: above) outcome := by
  obtain ⟨-, ends⟩ := initialises
  cases outcome with
  | ok done =>
      intro other member
      rcases List.mem_cons.mp member with rfl | member
      · exact ends
      · exact usable other member
  | error fault =>
      obtain ⟨reason, failed, rfl⟩ := ends
      exact ⟨[], cls, above, reason, rfl, usable, failed, rfl⟩

/-- No class is initialised below one that has failed. -/
theorem Initialised.below {store : Store} {above : List ClassId} {fault : Fault}
    (refused : store.Initialised thread above (.error fault)) (cls : ClassId) :
    store.Initialised thread (cls :: above) (.error fault) := by
  obtain ⟨below, failed, rest, reason, rfl, others⟩ := refused
  exact ⟨cls :: below, failed, rest, reason, rfl, others⟩

end Store

namespace ClassId

variable {start now : Store} {reason : String} {classes : List ClassId}

/-- A thread that reads the fault of a failed class gets what was remembered. -/
theorem patient_fault (endures : start.Endures thread now) (declared : now.hierarchy.Declared cls)
    (failed : now.initState cls = .failed reason) :
    (cls.initialisationFault reason : Request σ Unit).run.Patient thread now fun outcome after =>
      start.Endures thread after ∧ Initialises thread cls start outcome after := by
  apply Program.Patient.andThen
  refine .perform trivial fun seen first name after performed last second final third => ?_
  cases performed
  have since := second.trans third
  have whole := (endures.trans first).trans since
  refine ⟨whole, whole.leaves, reason, (first.trans since).leaves.failed failed, ?_⟩
  unfold Hierarchy.name
  rw [since.leaves.hierarchy.row cls (first.leaves.hierarchy.declared declared)]

/-- A class that somebody has begun with is waited for. -/
theorem patient_initialise (declared : now.hierarchy.Declared cls)
    (begun : now.initState cls ≠ .unstarted) :
    (cls.initialise : Request σ Unit).run.Patient thread now fun outcome after =>
      now.Endures thread after ∧ Initialises thread cls now outcome after := by
  apply Program.Patient.andThen
  refine .perform trivial fun later first answer after performed last third => ?_
  have patient : (Action.claim cls).Patient := trivial
  have second := patient.endures performed
  have endures := (first.trans second).trans third
  obtain ⟨state, claims, rfl⟩ := Action.performed_claim performed
  have settled : (later.settle cls state).initState cls = state := by
    rw [Store.initState_settle, if_pos rfl]
  unfold InitState.claim at claims
  split at claims
  · exact absurd ‹_› (first.begun cls begun)
  · split at claims
    · rename_i owner running same
      cases claims
      have mine : (later.settle cls (later.initState cls)).Usable thread cls :=
        .inr (settled.trans (by rw [running, same]))
      exact fun final fourth => ⟨endures.trans fourth, (endures.trans fourth).leaves,
        (third.trans fourth).leaves.usable mine⟩
    · cases claims
  · rename_i done
    cases claims
    exact fun final fourth => ⟨endures.trans fourth, (endures.trans fourth).leaves,
      (third.trans fourth).leaves.usable (.inl (settled.trans done))⟩
  · rename_i reason failed
    cases claims
    exact patient_fault endures (endures.leaves.hierarchy.declared declared)
      (third.leaves.failed (settled.trans failed))

/-- Classes that somebody has begun with are waited for, the last one first. -/
theorem patient_initialiseEach (declared : forall cls, cls ∈ classes -> now.hierarchy.Declared cls)
    (begun : forall cls, cls ∈ classes -> now.initState cls ≠ .unstarted) :
    (initialiseEach classes.reverse : Request σ Unit).run.Patient thread now fun outcome after =>
      now.Endures thread after ∧ after.Initialised thread classes outcome := by
  induction classes with
  | nil => exact fun later endures => ⟨endures, nofun⟩
  | cons cls above inductionHypothesis =>
      rw [List.reverse_cons, initialiseEach_append]
      apply Program.Patient.andThen
      apply (inductionHypothesis (fun other member => declared other (.tail cls member))
        (fun other member => begun other (.tail cls member))).weaken
      rintro outcome middle ⟨first, initialised⟩
      have known : forall other, other ∈ cls :: above -> middle.hierarchy.Declared other :=
        fun other member => first.leaves.hierarchy.declared (declared other member)
      cases outcome with
      | error fault =>
          exact fun later second =>
            ⟨first.trans second, (initialised.below cls).later known second.leaves⟩
      | ok done =>
          apply Program.Patient.andThen
          apply (patient_initialise (known cls List.mem_cons_self)
            (first.begun cls (begun cls List.mem_cons_self))).weaken
          rintro outcome last ⟨second, initialises⟩
          have usable : last.Initialised thread above (.ok ()) := initialised.later
            (fun other member => known other (.tail cls member)) second.leaves
          have still : forall other, other ∈ cls :: above -> last.hierarchy.Declared other :=
            fun other member => second.leaves.hierarchy.declared (known other member)
          have ends := usable.cons initialises
          have ended : forall later, last.Endures thread later ->
              now.Endures thread later ∧ later.Initialised thread (cls :: above) outcome :=
            fun later third =>
              ⟨(first.trans second).trans third, ends.later still third.leaves⟩
          cases outcome with
          | ok done => exact ended
          | error fault => exact ended

/-- Whoever asks for a class that somebody has begun with, and with its superclasses, waits. -/
theorem patient_ensureInitialised (declared : now.hierarchy.Declared cls)
    (begun : forall ancestor, ancestor ∈ now.hierarchy.lineage cls ->
      now.initState ancestor ≠ .unstarted) :
    (cls.ensureInitialised : Request σ Unit).run.Patient thread now fun outcome after =>
      now.Endures thread after ∧ after.Concludes thread cls outcome := by
  apply Program.Patient.andThen
  refine .perform trivial fun seen first lineage after performed last second => ?_
  cases performed
  have endures := first.trans second
  have known := endures.leaves.hierarchy.declared declared
  have same : seen.hierarchy.lineage cls = last.hierarchy.lineage cls :=
    (second.leaves.hierarchy.lineage (first.leaves.hierarchy.declared declared)).symm
  have still : forall ancestor, ancestor ∈ last.hierarchy.lineage cls ->
      last.initState ancestor ≠ .unstarted := by
    intro ancestor member
    rw [endures.leaves.hierarchy.lineage declared] at member
    exact endures.begun ancestor (begun ancestor member)
  dsimp only
  rw [same]
  apply (patient_initialiseEach
    (fun ancestor => Hierarchy.declared_of_mem_lineage known) still).weaken
  rintro outcome after ⟨third, initialised⟩
  refine ⟨endures.trans third, ?_⟩
  unfold Store.Concludes
  rw [third.leaves.hierarchy.lineage known]
  exact initialised

end ClassId

/-! ## Asking a registry for a failed class -/

namespace Store

/-- What the thread relies on is left to it, and nobody binds the class. -/
structure Neglects (thread : ThreadId) (registry : RegistryId) (cls : ClassId)
    (before after : Store) : Prop where
  leaves : before.Leaves thread after
  bindings : (after.registry registry).lookup cls = (before.registry registry).lookup cls

/-- A thread that asks for a class may rely on its being neglected. -/
theorem calm_neglects (thread : ThreadId) (registry : RegistryId) (cls : ClassId) :
    Calm thread (Neglects thread registry cls) where
  refl := fun store => ⟨.refl thread store, rfl⟩
  trans := fun _ _ _ first last =>
    ⟨first.leaves.trans last.leaves, last.bindings.trans first.bindings⟩
  leaves := fun _ _ => Neglects.leaves
  claims := by
    intro claimed answer before after performed _
    refine ⟨Action.leaves performed thread, ?_⟩
    obtain ⟨state, -, rfl⟩ := Action.performed_claim performed
    rfl

end Store

namespace RegistryId

variable {now : Store} {reason : String}

/-- The first two steps of a request look the class up, and give the guard back. -/
theorem bind_resolve {α : Type} (registry : RegistryId) (cls : ClassId)
    (rest : Except Fault Representation -> Program σ α) :
    (registry.resolve cls : Request σ Representation).run.bind rest =
      .act (.registry registry (.firstLookup cls)) fun found => .act (.release registry) fun _ =>
        match found with
        | some rep => rest (.ok rep)
        | none => (registry.resolveUnbound cls : Request σ Representation).run.bind rest := by
  rw [resolve_eq]
  show Program.act _ _ = _
  congr
  funext found
  cases found <;> rfl

/-- A failed class that was found unbound is refused. -/
theorem patient_resolveUnbound (declared : now.hierarchy.Declared cls)
    (begun : forall ancestor, ancestor ∈ now.hierarchy.lineage cls ->
      now.initState ancestor ≠ .unstarted)
    (failed : now.initState cls = .failed reason) :
    (registry.resolveUnbound cls : Request σ Representation).run.Patient thread now
      fun outcome after => exists fault, outcome = .error fault ∧
        after.Concludes thread cls (.error fault) := by
  apply Program.Patient.andThen
  apply (ClassId.patient_ensureInitialised declared begun).weaken
  rintro outcome middle ⟨endures, concludes⟩
  have known := endures.leaves.hierarchy.declared declared
  cases outcome with
  | error fault => exact fun later still => ⟨fault, rfl, concludes.later known still.leaves⟩
  | ok done =>
      have usable : middle.Usable thread cls :=
        concludes cls (by rw [Hierarchy.lineage_eq]; exact List.mem_cons_self)
      have still := endures.leaves.failed failed
      rcases usable with is | is
      · cases still.symm.trans is
      · cases still.symm.trans is

/-- A class that cannot be initialised and is not bound is refused at once, if nobody binds it
meanwhile. -/
theorem refuses_resolve {below above : List ClassId} {failed : ClassId}
    (declared : now.hierarchy.Declared cls)
    (split : now.hierarchy.lineage cls = below ++ failed :: above)
    (usable : forall ancestor, ancestor ∈ above -> now.Usable thread ancestor)
    (ended : now.initState failed = .failed reason)
    (unbound : (now.registry registry).lookup cls = none) :
    (registry.resolve cls : Request σ Representation).run.Delivers thread
      (Store.Neglects thread registry cls) now fun outcome _ =>
        outcome = .error (.initialisation (now.hierarchy.name failed) reason) := by
  rw [resolve_eq]
  apply Program.Delivers.andThen
  apply Program.Delivers.registryStep
  intro later neglects last still
  have shown : (Registry.Step.perform (.firstLookup cls) (later.registry registry)).1 = none :=
    neglects.bindings.trans unbound
  simp only [Request.Followed, shown]
  have looked : later.Leaves thread (later.accessed thread registry (.firstLookup cls)) :=
    Action.leaves
      (show (Action.registry registry (.firstLookup cls)).perform thread later = _ from rfl) thread
  have relieved : last.Leaves thread (last.relieved thread registry) :=
    Action.leaves (show (Action.release registry).perform thread last = _ from rfl) thread
  have leaves := ((neglects.leaves.trans looked).trans still.leaves).trans relieved
  have known : now.hierarchy.Declared failed :=
    Hierarchy.declared_of_mem_lineage declared (by simp [split])
  rw [← leaves.hierarchy.lineage declared] at split
  apply Program.Delivers.andThen
  apply (ClassId.refuses_ensureInitialised (Store.calm_neglects thread registry cls)
    (leaves.hierarchy.declared declared) split
    (fun ancestor member => leaves.usable (usable ancestor member)) (leaves.failed ended)).weaken
  rintro outcome after ⟨rfl, -⟩
  show Except.error (Fault.initialisation (_ : String) reason) = _
  rw [Hierarchy.name, leaves.hierarchy.row failed known]
  rfl

end RegistryId

namespace Machine

variable {code : ClientCode σ} {machine next later : Machine (Clients σ)}

/-! ## Below begun superclasses -/

/-- The initializer of the class is running, or has failed. -/
def Doomed (machine : Machine σ) (cls : ClassId) : Prop :=
  (exists reason, machine.store.initState cls = .failed reason) ∨
    exists thread, machine.Inside thread cls

/-- Somebody has begun with all superclasses of the class. -/
structure Grounds (machine : Machine σ) (cls : ClassId) : Prop where
  declared : machine.store.hierarchy.Declared cls
  begun : forall super, super ∈ (machine.store.hierarchy.lineage cls).tail ->
    machine.store.initState super ≠ .unstarted

/-- A class fails when its initializer is left. -/
theorem failed_step {code : HostCode σ} {machine next : Machine σ} {reason : String}
    (stepped : machine.step code thread = some next)
    (failed : next.store.initState cls = .failed reason) :
    machine.store.initState cls = .failed reason ∨ machine.Inside thread cls := by
  rcases initState_step stepped cls with same | ⟨-, running⟩ | ⟨inside, -⟩ | done
  · exact .inl (same.symm.trans failed)
  · cases failed.symm.trans running
  · exact .inr inside
  · cases failed.symm.trans done

/-- A class whose initializer is entered is below begun classes. -/
theorem Reachable.grounds_entering (reachable : machine.Reachable code)
    (entering : machine.Entering thread cls) : machine.Grounds cls := by
  obtain ⟨control, frames, -, begins⟩ := reachable.begins entering
  exact ⟨begins.declared, fun super member => (begins.supers super member).begun⟩

/-- The superclasses of a class whose initializer was entered were begun with. -/
theorem Reachable.grounds (reachable : machine.Reachable code) (cls : ClassId)
    (doomed : machine.Doomed cls) : machine.Grounds cls := by
  induction reachable using Reachable.induction with
  | opens start opens =>
      obtain ⟨files, same⟩ := opens.store
      rcases doomed with ⟨reason, failed⟩ | ⟨thread, control, frames, found, member⟩
      · rw [same] at failed
        cases failed
      · obtain ⟨client, same⟩ := opens.threads _ (Array.mem_of_getElem? found)
        cases same
        cases member
  | step mover current next reached moved inductionHypothesis =>
      have before : current.Grounds cls := by
        rcases doomed with ⟨reason, failed⟩ | ⟨other, inside⟩
        · rcases failed_step moved failed with failed | inside
          · exact inductionHypothesis (.inl ⟨reason, failed⟩)
          · exact inductionHypothesis (.inr ⟨mover, inside⟩)
        · rcases inside_step moved inside with inside | ⟨-, entering⟩
          · exact inductionHypothesis (.inr ⟨other, inside⟩)
          · exact reached.grounds_entering entering
      have hierarchy := (reached.settled_later (.step .refl ⟨mover, moved⟩)).1
      refine ⟨hierarchy.declared before.declared, ?_⟩
      rw [hierarchy.lineage before.declared]
      exact fun super member => begun_step moved (before.begun super member)

/-! ## The promises -/

/-- What a machine, and whatever it leads to, promises of classes that have failed. -/
structure FailsForGood (code : ClientCode σ) (machine : Machine (Clients σ)) : Prop where
  /-- Who is refused the representation of a class is told that the class cannot be initialised:
  it or a superclass has failed, and the fault is that of the failed one. Otherwise the thread may
  use the class and all superclasses, and the fault is the escalation's, of which nothing is said:
  foreign code may answer with any fault, also with the failure of another class. -/
  told : forall thread next (number : Nat) registry cls fault,
    machine.step code.host thread = some next ->
    machine.host.calls[number]? = some { call := .resolve registry cls } ->
    next.host.calls[number]? =
      some { call := .resolve registry cls, answer := some (.error fault) } ->
    next.store.Concludes thread cls (.error fault) ∨ next.store.Concludes thread cls (.ok ())
  /-- A failed class stays so, for the same reason, and its initializer is not entered again. -/
  final : forall cls reason later, machine.store.initState cls = .failed reason ->
    Machine.Steps code.host machine later ->
      later.store.initState cls = .failed reason ∧ forall thread, ¬ later.Entering thread cls
  /-- What a class is bound to when a request looks it up first is the answer, once the guard of
  the registry is given back. -/
  bound : forall registry cls rep thread next rest frames,
    machine.threads[thread.index]? = some (.running
      ((registry.resolve cls : Request (Clients σ) Representation).run.bind rest) frames) ->
    machine.bound registry cls = some rep -> machine.step code.host thread = some next ->
      next.threads[thread.index]? =
        some (.running (.act (.release registry) fun _ => rest (.ok rep)) frames)
  /-- Whoever finds a failed class unbound does nothing from there on but read and wait, until he
  is refused with the failure of the class or of a superclass. -/
  unbound : forall cls reason later registry thread next rest frames last,
    machine.store.initState cls = .failed reason -> Machine.Steps code.host machine later ->
    later.threads[thread.index]? = some (.running
      ((registry.resolve cls : Request (Clients σ) Representation).run.bind rest) frames) ->
    later.bound registry cls = none -> later.step code.host thread = some next ->
    Machine.Steps code.host next last ->
      (exists further : Program (Clients σ) (Except Fault Representation),
        last.threads[thread.index]? = some (.running (further.bind rest) frames) ∧
          further.Patient thread last.store fun outcome after => exists fault,
            outcome = .error fault ∧ after.Concludes thread cls (.error fault)) ∨
      exists fault middle, Machine.Steps code.host next middle ∧
        middle.threads[thread.index]? = some (.running (rest (.error fault)) frames) ∧
          middle.store.Concludes thread cls (.error fault) ∧
            Machine.Steps code.host middle last
  /-- If all superclasses were initialised when the class had failed, then it is always the failure
  of the class. -/
  same : forall cls reason later thread fault, machine.store.initState cls = .failed reason ->
    (forall super, super ∈ (machine.store.hierarchy.lineage cls).tail ->
      machine.store.initState super = .done) ->
    Machine.Steps code.host machine later -> later.store.Concludes thread cls (.error fault) ->
      fault = .initialisation (machine.store.hierarchy.name cls) reason
  /-- A thread need not wait if it may use the classes above the failed one. -/
  prompt : forall cls below failed above reason registry thread,
    machine.store.hierarchy.Declared cls ->
    machine.store.hierarchy.lineage cls = below ++ failed :: above ->
    (forall super, super ∈ above -> machine.store.Usable thread super) ->
    machine.store.initState failed = .failed reason -> machine.bound registry cls = none ->
      (registry.resolve cls : Request (Clients σ) Representation).run.Delivers thread
        (Store.Neglects thread registry cls) machine.store fun outcome _ =>
          outcome = .error (.initialisation (machine.store.hierarchy.name failed) reason)

section Promises

variable {rest : Except Fault Representation -> Program (Clients σ) (Except Fault Unit)}
  {frames : List (GuestTypes.Frame (Clients σ))} {reason : String} {fault : Fault}

/-- The first step of a thread that asks for the representation of a class. -/
theorem step_resolve
    (running : machine.threads[thread.index]? = some (.running
      ((registry.resolve cls : Request (Clients σ) Representation).run.bind rest) frames))
    (stepped : machine.step code.host thread = some next) :
    next.threads[thread.index]? = some (.running (.act (.release registry) fun _ =>
      match machine.bound registry cls with
      | some rep => rest (.ok rep)
      | none => (registry.resolveUnbound cls : Request (Clients σ) Representation).run.bind rest)
        frames) := by
  have present := (Array.getElem?_eq_some_iff.mp running).1
  rw [RegistryId.bind_resolve] at running
  cases turn_of_running running stepped with
  | acted answer store performed =>
      obtain ⟨rfl, -⟩ := perform_registry performed
      exact thread_self _ present

/-- A failed class that a thread finds unbound is refused. -/
theorem Reachable.refuses_unbound (reachable : machine.Reachable code)
    (failed : machine.store.initState cls = .failed reason) :
    (Request.perform (.release registry) >>= fun _ => registry.resolveUnbound cls :
      Request (Clients σ) Representation).run.Patient thread machine.store fun outcome after =>
        exists fault, outcome = .error fault ∧ after.Concludes thread cls (.error fault) := by
  have grounds := reachable.grounds cls (.inl ⟨reason, failed⟩)
  have begun : forall ancestor, ancestor ∈ machine.store.hierarchy.lineage cls ->
      machine.store.initState ancestor ≠ .unstarted := by
    intro ancestor member
    rw [Hierarchy.lineage_eq] at member
    have supers := grounds.begun
    rw [Hierarchy.lineage_eq, List.tail_cons] at supers
    rcases List.mem_cons.mp member with rfl | above
    · rw [failed]
      nofun
    · exact supers ancestor above
  apply Program.Patient.andThen
  refine .perform trivial fun later first answer after performed last second => ?_
  have released : (Action.release registry).Patient := trivial
  have endures := (first.trans (released.endures performed)).trans second
  refine RegistryId.patient_resolveUnbound (endures.leaves.hierarchy.declared grounds.declared)
    (fun ancestor member => ?_) (endures.leaves.failed failed)
  rw [endures.leaves.hierarchy.lineage grounds.declared] at member
  exact endures.begun ancestor (begun ancestor member)

/-- Whoever asks for a class that has failed, with usable superclasses, is told the same. -/
theorem Reachable.same_failure (reachable : machine.Reachable code)
    (failed : machine.store.initState cls = .failed reason)
    (supers : forall super, super ∈ (machine.store.hierarchy.lineage cls).tail ->
      machine.store.initState super = .done)
    (steps : Machine.Steps code.host machine later)
    (concludes : later.store.Concludes thread cls (.error fault)) :
    fault = .initialisation (machine.store.hierarchy.name cls) reason := by
  obtain ⟨hierarchy, kept⟩ := reachable.settled_later steps
  have declared := (reachable.grounds cls (.inl ⟨reason, failed⟩)).declared
  obtain ⟨below, broken, above, cause, split, -, ended, rfl⟩ := concludes
  rw [hierarchy.lineage declared] at split
  cases below with
  | nil =>
      obtain ⟨rfl, -⟩ := List.cons.inj ((Hierarchy.lineage_eq _ cls).symm.trans split)
      have still := kept cls (by rw [failed]; trivial)
      rw [failed, ended] at still
      cases still
      rw [Hierarchy.name, hierarchy.row cls declared]
      rfl
  | cons first others =>
      have member : broken ∈ (machine.store.hierarchy.lineage cls).tail := by
        rw [split]
        simp
      have done := supers broken member
      have still := kept broken (by rw [done]; trivial)
      cases ended.symm.trans (still.trans done)

end Promises

/-- In every machine that host code can lead to, the failure of a class is final. -/
theorem failure_final (reachable : machine.Reachable code) : machine.FailsForGood code where
  told := by
    intro thread next number registry cls fault moved unanswered answered
    have informs := (reachable.inOrder.step reachable.peopled reachable.names moved).2.2
    exact informs number (.resolve registry cls) (.error fault) unanswered answered
  final := by
    intro cls reason later failed steps
    have still : later.store.initState cls = .failed reason := by
      rw [(reachable.settled_later steps).2 cls (by rw [failed]; trivial), failed]
    refine ⟨still, fun thread => (reachable.steps steps).not_entering (.inl ?_)⟩
    rw [still]
    trivial
  bound := by
    intro registry cls rep thread next rest frames running bound moved
    have goesOn := step_resolve running moved
    rw [bound] at goesOn
    exact goesOn
  unbound := by
    intro cls reason later registry thread next rest frames last failed steps running unbound moved
      further
    have goesOn := step_resolve running moved
    rw [unbound] at goesOn
    have steps : Machine.Steps code.host machine next := .step steps ⟨thread, moved⟩
    have reached := reachable.steps steps
    have still : next.store.initState cls = .failed reason := by
      rw [(reachable.settled_later steps).2 cls (by rw [failed]; trivial), failed]
    rcases reached.patient_steps (reached.refuses_unbound still) goesOn further with
      waits | ⟨outcome, middle, before, found, ⟨fault, rfl, concludes⟩, after⟩
    · exact .inl waits
    · exact .inr ⟨fault, middle, before, found, concludes, after⟩
  same := fun _ _ _ _ _ failed supers steps concludes =>
    reachable.same_failure failed supers steps concludes
  prompt := fun _ _ _ _ _ _ _ declared split usable failed unbound =>
    RegistryId.refuses_resolve declared split usable failed unbound

end Machine

/-- What came of a request for the representation of a class. -/
def CallRecord.resolution? : CallRecord -> Option (Except Fault Representation)
  | ⟨.resolve _ _, outcome⟩ => outcome
  | _ => none

namespace Machine

/-- Initializers register their class, and then fail. -/
def registeringFailing : ClientCode Unit where
  initializer _ cls := .call (.register ⟨1⟩ cls (.canonical ⟨0⟩)) fun _ =>
    .done (.error (.unsupported (.reported "static state")))
  escalation := ClientCode.quiet.escalation
  body := ClientCode.quiet.body

/-- Host code that declares a class with an initializer and asks for it twice. -/
def askingTwice : Client Unit (Except Fault Unit) :=
  .call (.makeFactory {}) fun _ =>
    .call (.makeRegistry .none) fun _ =>
      .call (.declare { name := "app.Base", initializer := some ⟨0⟩ }) fun _ =>
        .call (.resolve ⟨1⟩ firstDeclared) fun _ =>
          .call (.resolve ⟨1⟩ firstDeclared) fun _ => .done (.ok ())

/-- Where the class was not registered, its failure is reported. -/
theorem failure_final_askingTwice :
    let machine := Machine.run registeringFailing.host 80 (opening askingTwice ())
    (RegistryId.resolve ⟨0⟩ firstDeclared : Request (Clients Unit) Representation).run.Delivers
      ⟨0⟩ (Store.Neglects ⟨0⟩ ⟨0⟩ firstDeclared) machine.store fun outcome _ =>
        outcome = .error (.initialisation "app.Base" "not yet supported: static state") := by
  intro machine
  have reachable : machine.Reachable registeringFailing :=
    reachable_run registeringFailing askingTwice () 80
  have failed : machine.store.initState firstDeclared =
      .failed "not yet supported: static state" := by decide +kernel
  have name : machine.store.hierarchy.name firstDeclared = "app.Base" := by decide +kernel
  have declared : firstDeclared.index < machine.store.hierarchy.rows.size := by decide +kernel
  have split : machine.store.hierarchy.lineage firstDeclared =
      [] ++ firstDeclared :: [Builtin.object] := by decide +kernel
  have usable : forall super, super ∈ [Builtin.object] -> machine.store.Usable ⟨0⟩ super := by
    have done : machine.store.initState Builtin.object = .done := by decide +kernel
    intro super member
    obtain rfl := List.mem_singleton.mp member
    exact .inl done
  have unbound : machine.bound ⟨0⟩ firstDeclared = none := by decide +kernel
  clear_value machine
  have prompt := (failure_final reachable).prompt firstDeclared _ _ _ _ ⟨0⟩ ⟨0⟩ declared split
    usable failed unbound
  rw [name] at prompt
  exact prompt

/-- A class that has failed is resolved to what its initializer registered. -/
theorem failure_registered :
    let machine := Machine.run registeringFailing.host 80 (opening askingTwice ())
    machine.host.calls.filterMap (·.resolution?) =
      [.error (.initialisation "app.Base" "not yet supported: static state"),
        .ok (.canonical ⟨0⟩)] := by
  intro machine
  decide +kernel

end Machine

end GuestTypes
