import GuestTypes.Proofs.InitialisationOutcome
import GuestTypes.Proofs.Trust

/-!
# Static initialisation happens once

Whatever host code the initializers are, in every machine that host code can lead to each thread
is running the initializers of the classes in its frames and of no others, and goes on in order
(`Machine.InOrder`). So an initializer is entered once at most and only below superclasses that
the thread may use, what has ended stays as it is, and whoever asks for a class is told what
became of it.
-/

namespace GuestTypes

variable {σ : Type} {thread : ThreadId}

namespace Machine

/-! ## Threads in order -/

/-- The thread may use all superclasses of the class that it is about to settle, and the program
that waits for that goes on in order then. So do those that wait further out. -/
def Awaiting (thread : ThreadId) : List (Frame (Clients σ)) -> Store -> Prop
  | [], _ => True
  | frame :: outer, now => now.Founds thread frame.cls ∧ forall reason,
      (frame.resume reason).Orderly thread (outer.map (·.cls))
        (fun _ later => Awaiting thread outer later) (now.settle frame.cls (.settled reason))

/-- A thread runs the initializers of the classes in its frames, each once, and goes on in
order. -/
structure Keeping (thread : ThreadId) (control : Program (Clients σ) (Except Fault Unit))
    (frames : List (Frame (Clients σ))) (store : Store) : Prop where
  distinct : (frames.map (·.cls)).Nodup
  owns : store.Owns thread (frames.map (·.cls))
  orderly : control.Orderly thread (frames.map (·.cls))
    (fun _ later => Awaiting thread frames later) store

/-- All threads are in order. -/
def InOrder (machine : Machine (Clients σ)) : Prop :=
  forall thread control frames,
    machine.threads[thread.index]? = some (.running control frames) ->
      Keeping thread control frames machine.store

/-- Settling a class of one thread does not disturb another one. -/
theorem leaves_settle {store : Store} {cls : ClassId} {other : ThreadId} (state : InitState)
    (running : store.initState cls = .running thread) (different : other ≠ thread) :
    store.Leaves other (store.settle cls state) := by
  apply (Store.Leaves.refl other store).settle
  · rw [running]
    exact id
  · rw [running]
    rintro ⟨⟩
    exact different rfl

/-- A panic fails the classes of all frames, and no others. -/
theorem initState_unwind (store : Store) (frames : List (Frame σ)) (cls : ClassId) :
    (unwind store frames).initState cls =
      if cls ∈ frames.map (·.cls) then .unwound else store.initState cls := by
  unfold unwind
  induction frames generalizing store with
  | nil => simp
  | cons frame outer inductionHypothesis =>
      rw [List.foldl_cons, inductionHypothesis, Store.initState_settle]
      by_cases inner : cls ∈ outer.map (·.cls)
      · simp [inner]
      · by_cases same : frame.cls = cls
        · simp [inner, same]
        · simp [inner, same, Ne.symm same]

namespace Keeping

variable {control : Program (Clients σ) (Except Fault Unit)} {frames : List (Frame (Clients σ))}
  {store later : Store}

/-- A thread goes on in order, whatever others do that is left to them. -/
theorem around (keeping : Keeping thread control frames store)
    (leaves : store.Leaves thread later) : Keeping thread control frames later where
  distinct := keeping.distinct
  owns := leaves.owns keeping.owns
  orderly := keeping.orderly.around leaves

/-- The classes of a thread's frames are not what another thread relies on. -/
theorem leaves_unwind {other : ThreadId} (keeping : Keeping thread control frames store)
    (different : other ≠ thread) : store.Leaves other (unwind store frames) where
  hierarchy := by
    rw [hierarchy_unwind]
    exact .refl _
  ended := by
    intro cls ended
    rw [initState_unwind, if_neg]
    intro member
    rw [keeping.owns cls member] at ended
    exact ended
  running := by
    intro cls running
    rw [initState_unwind, if_neg]
    · exact running
    · intro member
      cases running.symm.trans (keeping.owns cls member)
      exact different rfl

end Keeping

namespace InOrder

variable {code : ClientCode σ} {machine next : Machine (Clients σ)}

/-- A thread took a step that disturbs no other one. -/
theorem moved (inOrder : machine.InOrder) {moved : Thread (Clients σ)} {store : Store}
    {host : Clients σ} (present : thread.index < machine.threads.size)
    (others : forall other, other ≠ thread -> machine.store.Leaves other store)
    (own : forall control frames, moved = .running control frames ->
      Keeping thread control frames store) :
    InOrder ({ machine with store, host }.setThread thread moved) := by
  intro other control frames found
  by_cases same : other = thread
  · subst same
    have changed : ({ machine with store, host }.setThread other moved).threads[other.index]? =
        some moved := thread_self moved present
    exact own control frames (Option.some.inj (changed.symm.trans found))
  · have stayed : ({ machine with store, host }.setThread thread moved).threads[other.index]? =
        machine.threads[other.index]? := thread_other moved same
    exact (inOrder other control frames (stayed.symm.trans found)).around (others other same)

/-- A thread is started. -/
theorem started (inOrder : machine.InOrder) (client : Client σ (Except Fault Unit)) :
    InOrder (machine.start (ExceptT.mk client.program)).2 := by
  intro other control frames found
  simp only [start, Array.getElem?_push] at found
  split at found
  · cases found
    have none_ : machine.store.Owns other [] := fun _ member => absurd member List.not_mem_nil
    exact ⟨List.nodup_nil, none_, (client.orderly_program none_).weaken fun _ _ _ => trivial⟩
  · exact inOrder other control frames found

/-- One step of a thread keeps all threads in order, disturbs no other one, and informs host
code. -/
theorem step (inOrder : machine.InOrder) (peopled : machine.store.Peopled)
    (names : machine.host.Names machine.store)
    (stepped : machine.step code.host thread = some next) :
    next.InOrder ∧ (forall other, other ≠ thread -> machine.store.Leaves other next.store) ∧
      machine.host.Informs next.host thread next.store := by
  have stays : forall other, other ≠ thread -> machine.store.Leaves other machine.store :=
    fun other _ => .refl _ _
  obtain ⟨control, frames, found, turn⟩ := step_eq_some_iff.mp stepped
  have present : thread.index < machine.threads.size := (Array.getElem?_eq_some_iff.mp found).1
  have keeping := inOrder thread control frames found
  have orderly := keeping.orderly
  cases turn with
  | ended outcome => exact ⟨inOrder.moved present stays (by rintro _ _ ⟨⟩), stays, .refl _ _ _⟩
  | resumed outcome frame outer =>
      obtain ⟨apart, distinct⟩ := List.nodup_cons.mp keeping.distinct
      have others := fun state other (different : other ≠ thread) =>
        leaves_settle state (keeping.owns frame.cls List.mem_cons_self) different
      refine ⟨inOrder.moved present (others _) ?_, others _, .refl _ _ _⟩
      rintro control frames ⟨⟩
      refine ⟨distinct, fun cls member => ?_, (orderly machine.store (.refl _ _)).2 _⟩
      rw [Store.initState_settle, if_neg]
      · exact keeping.owns cls (List.mem_cons_of_mem _ member)
      · rintro rfl
        exact apart member
  | acted answer store performed =>
      have others := fun other (_ : other ≠ thread) => Action.leaves performed other
      refine ⟨inOrder.moved present others ?_, others, .refl _ _ _⟩
      rintro control frames ⟨⟩
      refine ⟨keeping.distinct, (Action.leaves performed thread).owns keeping.owns, ?_⟩
      exact orderly machine.store (.refl _ _) peopled answer store performed
  | worked work rest frames =>
      obtain ⟨informs, goesOn⟩ := orderly machine.store machine.host (.refl _ _) names
      refine ⟨inOrder.moved present stays ?_, stays, informs⟩
      rintro control frames ⟨⟩
      exact ⟨keeping.distinct, keeping.owns, goesOn⟩
  | settled none_ =>
      obtain ⟨begins, goesOn⟩ := orderly machine.store (.refl _ _)
      have others := fun other (different : other ≠ thread) =>
        leaves_settle .done begins.claimed different
      refine ⟨inOrder.moved present others ?_, others, .refl _ _ _⟩
      rintro control frames ⟨⟩
      refine ⟨keeping.distinct, fun other member => ?_, goesOn none machine.store (.refl _ _)⟩
      rw [Store.initState_settle, if_neg]
      · exact keeping.owns other member
      · rintro rfl
        exact begins.fresh member
  | @entered cls rest _ initializer has =>
      obtain ⟨begins, goesOn⟩ := orderly machine.store (.refl _ _)
      refine ⟨inOrder.moved present stays ?_, stays, .refl _ _ _⟩
      rintro control frames ⟨⟩
      have owns : machine.store.Owns thread (cls :: _) := fun other member =>
        (List.mem_cons.mp member).elim (fun same => same ▸ begins.claimed) (keeping.owns other)
      refine ⟨List.nodup_cons.mpr ⟨begins.fresh, keeping.distinct⟩, owns, ?_⟩
      apply ((code.initializer initializer cls).orderly_program owns).weaken
      exact fun _ after leaves =>
        ⟨leaves.founds begins.toFounds, fun reason => goesOn reason after leaves⟩
  | escalated foreign cls rest frames =>
      refine ⟨inOrder.moved present stays ?_, stays, .refl _ _ _⟩
      rintro control frames ⟨⟩
      refine ⟨keeping.distinct, keeping.owns, ?_⟩
      apply Program.Orderly.bind
      apply ((code.escalation foreign cls).orderly_program keeping.owns).weaken
      exact fun outcome after leaves => orderly outcome after leaves
  | forked body rest frames =>
      refine ⟨(inOrder.started (code.body body)).moved ?_ stays ?_, stays, .refl _ _ _⟩
      · simp only [start, Array.size_push]
        omega
      · rintro control frames ⟨⟩
        exact ⟨keeping.distinct, keeping.owns, orderly _ machine.store (.refl _ _)⟩
  | joined message heard =>
      refine ⟨inOrder.moved present stays ?_, stays, .refl _ _ _⟩
      rintro control frames ⟨⟩
      exact ⟨keeping.distinct, keeping.owns, orderly message machine.store (.refl _ _)⟩
  | panicked message frames =>
      have others := fun other (different : other ≠ thread) => keeping.leaves_unwind different
      exact ⟨inOrder.moved present others (by rintro _ _ ⟨⟩), others, .refl _ _ _⟩

end InOrder

/-! ## Reachable machines -/

section Reachable

variable {code : ClientCode σ} {machine next later : Machine (Clients σ)}

/-- In every machine that host code leads to, the threads that progress is kept for exist. -/
theorem Reachable.peopled (reachable : machine.Reachable code) : machine.store.Peopled := by
  obtain ⟨now, kept⟩ := reachable.kept
  have valid : now.world.Valid := kept.valid
  rw [kept.store]
  intro value
  cases value with
  | int32 _ => exact (valid.builtins Builtin.int32 (by decide)).1
  | int64 _ => exact (valid.builtins Builtin.int64 (by decide)).1
  | float64 _ => exact (valid.builtins Builtin.float64 (by decide)).1
  | bool _ => exact (valid.builtins Builtin.bool (by decide)).1
  | text _ => exact (valid.builtins Builtin.text (by decide)).1
  | typeObject _ => exact (valid.builtins Builtin.typeClass (by decide)).1
  | object object => exact (valid.objects object).1

/-- Host code names only classes that exist. -/
theorem Reachable.names (reachable : machine.Reachable code) :
    machine.host.Names machine.store := by
  obtain ⟨now, kept⟩ := reachable.kept
  rw [kept.store, kept.host]
  intro call may cls named
  simp only [Clients.mayCall, Bool.and_eq_true, List.all_eq_true] at may
  exact (open_of_knowsClass kept.valid (may.1.1.1 cls named)).1

/-- A machine before its first step is in order. -/
theorem Opens.inOrder (opens : machine.Opens) : machine.InOrder := by
  intro thread control frames found
  obtain ⟨client, same⟩ := opens.threads _ (Array.mem_of_getElem? found)
  cases same
  have none_ : machine.store.Owns thread [] := fun _ member => nomatch member
  exact ⟨List.nodup_nil, none_, (client.orderly_program none_).weaken fun _ _ _ => trivial⟩

/-- Every machine that host code leads to is in order. -/
theorem Reachable.inOrder (reachable : machine.Reachable code) : machine.InOrder := by
  induction reachable using Reachable.induction with
  | opens start opens => exact opens.inOrder
  | step thread current next reached moved inOrder =>
      exact (inOrder.step reached.peopled reached.names moved).1

/-- No step of a thread disturbs another one. -/
theorem Reachable.leaves_step (reachable : machine.Reachable code)
    (moved : machine.step code.host thread = some next) {other : ThreadId}
    (different : other ≠ thread) : machine.store.Leaves other next.store :=
  (reachable.inOrder.step reachable.peopled reachable.names moved).2.1 other different

/-- Classes stay, and what has ended stays as it is. -/
theorem Reachable.settled_later (reachable : machine.Reachable code)
    (steps : Machine.Steps code.host machine later) :
    machine.store.hierarchy.Extends later.store.hierarchy ∧
      forall cls, (machine.store.initState cls).Ended ->
        later.store.initState cls = machine.store.initState cls := by
  induction steps with
  | refl => exact ⟨.refl _, fun _ _ => rfl⟩
  | step prior last inductionHypothesis =>
      obtain ⟨hierarchy, kept⟩ := inductionHypothesis
      obtain ⟨mover, moved⟩ := last
      -- some thread that did not take the step relies on what has ended
      have different : (⟨mover.index + 1⟩ : ThreadId) ≠ mover := fun same =>
        absurd (congrArg ThreadId.index same) (Nat.succ_ne_self _)
      have leaves := (reachable.steps prior).leaves_step moved different
      refine ⟨hierarchy.trans leaves.hierarchy, fun cls ended => ?_⟩
      rw [leaves.ended cls (by rw [kept cls ended]; exact ended), kept cls ended]

end Reachable

/-! ## Entering an initializer -/

/-- The next step of the thread enters the initializer of the class. -/
def Entering (machine : Machine σ) (thread : ThreadId) (cls : ClassId) : Prop :=
  exists next frames initializer,
    machine.threads[thread.index]? = some (.running (.initialise cls next) frames) ∧
      (machine.store.hierarchy.row cls).initializer = some initializer

/-- The thread has entered the initializer of the class and not left it. -/
def Inside (machine : Machine σ) (thread : ThreadId) (cls : ClassId) : Prop :=
  exists control frames,
    machine.threads[thread.index]? = some (.running control frames) ∧ cls ∈ frames.map (·.cls)

/-- Some thread has entered the initializer of the class. -/
def Entered (machine : Machine σ) (cls : ClassId) : Prop :=
  (machine.store.initState cls).Ended ∨ exists thread, machine.Inside thread cls

section Entering

variable {code : HostCode σ} {machine next : Machine σ} {cls : ClassId} {other : ThreadId}

/-- Starting a thread leaves every thread inside what it was inside. -/
theorem Inside.started (inside : machine.Inside other cls) (request : Request σ Unit) :
    (machine.start request).2.Inside other cls := by
  obtain ⟨control, frames, running, member⟩ := inside
  exact ⟨control, frames, thread_started request running, member⟩

/-- Whoever is inside an initializer stays there, unless his own step leads out of it. -/
theorem Inside.moved (inside : machine.Inside other cls) {store : Store} {host : σ}
    {moved : Thread σ} {control : Program σ (Except Fault Unit)} {frames : List (Frame σ)}
    (found : machine.threads[thread.index]? = some (.running control frames))
    (own : cls ∈ frames.map (·.cls) -> (store.initState cls).Ended ∨
      exists after inner, moved = .running after inner ∧ cls ∈ inner.map (·.cls)) :
    Entered ({ machine with store, host }.setThread thread moved) cls := by
  have present : thread.index < machine.threads.size := (Array.getElem?_eq_some_iff.mp found).1
  obtain ⟨current, around, running, member⟩ := inside
  by_cases same : other = thread
  · subst same
    cases found.symm.trans running
    obtain ended | ⟨after, inner, rfl, member⟩ := own member
    · exact .inl ended
    · exact .inr ⟨other, after, inner, thread_self _ present, member⟩
  · exact .inr ⟨other, current, around, (thread_other moved same).trans running, member⟩

/-- An initializer that a thread is inside of is entered after any step. -/
theorem Inside.step (inside : machine.Inside other cls)
    (stepped : machine.step code thread = some next) : next.Entered cls := by
  obtain ⟨control, frames, found, turn⟩ := step_eq_some_iff.mp stepped
  cases turn with
  | ended outcome => exact inside.moved found nofun
  | resumed outcome frame outer =>
      refine inside.moved found fun member => ?_
      by_cases same : frame.cls = cls
      · left
        rw [Store.initState_settle, if_pos same]
        exact InitState.ended_settled _
      · exact .inr ⟨_, _, rfl, (List.mem_cons.mp member).resolve_left (Ne.symm same)⟩
  | entered initializer has =>
      exact inside.moved found fun member => .inr ⟨_, _, rfl, List.mem_cons_of_mem _ member⟩
  | forked body rest frames =>
      exact (inside.started _).moved (thread_started _ found) fun member => .inr ⟨_, _, rfl, member⟩
  | panicked message frames =>
      refine inside.moved found fun member => .inl ?_
      rw [initState_unwind, if_pos member]
      trivial
  | acted _ _ _ | worked _ _ _ | settled _ | escalated _ _ _ _ | joined _ _ =>
      exact inside.moved found fun member => .inr ⟨_, _, rfl, member⟩

/-- The next step does enter the initializer. -/
theorem Entering.inside (entering : machine.Entering thread cls)
    (stepped : machine.step code thread = some next) : next.Inside thread cls := by
  obtain ⟨rest, frames, initializer, found, has⟩ := entering
  have present : thread.index < machine.threads.size := (Array.getElem?_eq_some_iff.mp found).1
  cases turn_of_running found stepped with
  | settled none_ => cases none_.symm.trans has
  | entered _ _ => exact ⟨_, _, thread_self _ present, List.mem_cons_self⟩

end Entering

section Once

variable {code : ClientCode σ} {machine next later : Machine (Clients σ)} {cls : ClassId}

/-- A thread may begin with the class that it enters. -/
theorem Reachable.begins (reachable : machine.Reachable code)
    (entering : machine.Entering thread cls) :
    exists control frames, machine.threads[thread.index]? = some (.running control frames) ∧
      machine.store.Begins thread (frames.map (·.cls)) cls := by
  obtain ⟨rest, frames, initializer, found, -⟩ := entering
  refine ⟨_, frames, found, ?_⟩
  exact ((reachable.inOrder thread _ frames found).orderly machine.store (.refl _ _)).1

/-- Nobody enters an initializer that was entered. -/
theorem Reachable.not_entering (reachable : machine.Reachable code)
    (entered : machine.Entered cls) : ¬ machine.Entering thread cls := by
  intro entering
  obtain ⟨control, frames, found, begins⟩ := reachable.begins entering
  obtain ended | ⟨other, current, inner, running, member⟩ := entered
  · rw [begins.claimed] at ended
    exact ended
  · have owned := (reachable.inOrder other current inner running).owns cls member
    cases begins.claimed.symm.trans owned
    cases found.symm.trans running
    exact begins.fresh member

/-- An initializer that was entered stays so. -/
theorem Reachable.entered_later (reachable : machine.Reachable code)
    (entered : machine.Entered cls) (steps : Machine.Steps code.host machine later) :
    later.Entered cls := by
  induction steps with
  | refl => exact entered
  | step prior last inductionHypothesis =>
      obtain ⟨mover, moved⟩ := last
      obtain ended | ⟨other, inside⟩ := inductionHypothesis
      · left
        rw [((reachable.steps prior).settled_later (.step .refl ⟨mover, moved⟩)).2 cls ended]
        exact ended
      · exact inside.step moved

/-- A class that has superclasses is declared. -/
theorem declared_of_mem_tail {hierarchy : Hierarchy} {super : ClassId}
    (member : super ∈ (hierarchy.lineage cls).tail) : hierarchy.Declared cls := by
  rw [Hierarchy.lineage_eq, List.tail_cons] at member
  cases chosen : hierarchy.superclass cls with
  | none => simp [chosen] at member
  | some above => exact (Hierarchy.superclass_lt chosen).1

end Once

/-! ## The protocol -/

/-- How a machine, and whatever it leads to, initialises classes. -/
structure InitialisesOnce (code : ClientCode σ) (machine : Machine (Clients σ)) : Prop where
  /-- An initializer is entered once at most, by whatever thread. -/
  once : forall thread cls next later other, machine.Entering thread cls ->
    machine.step code.host thread = some next -> Machine.Steps code.host next later ->
      ¬ later.Entering other cls
  /-- What has ended stays as it is. -/
  settled : forall cls later, (machine.store.initState cls).Ended ->
    Machine.Steps code.host machine later ->
      later.store.initState cls = machine.store.initState cls
  /-- A thread that enters an initializer may use all superclasses. -/
  supers : forall thread cls super, machine.Entering thread cls ->
    super ∈ (machine.store.hierarchy.lineage cls).tail -> machine.store.Usable thread super
  /-- A thread that is answered may use the class and all superclasses, or is told which of them
  has failed: the first one from the root. -/
  told : forall thread next (number : Nat) cls outcome,
    machine.step code.host thread = some next ->
    machine.host.calls[number]? = some { call := .ensureInitialised cls } ->
    next.host.calls[number]? = some { call := .ensureInitialised cls, answer := some outcome } ->
      next.store.Concludes thread cls outcome
  /-- No initializer is entered below a failed class. -/
  barred : forall cls super reason later thread,
    super ∈ (machine.store.hierarchy.lineage cls).tail ->
    machine.store.initState super = .failed reason -> Machine.Steps code.host machine later ->
      ¬ later.Entering thread cls
  /-- What other threads do never disturbs a thread that asks for a class. -/
  undisturbed : forall thread other next, other ≠ thread ->
    machine.step code.host other = some next -> machine.store.Leaves thread next.store
  /-- A thread that asks for a class is answered without waiting once a class has failed, the
  class itself or a superclass, above which it may use all others. -/
  refused : forall thread cls below failed above reason,
    machine.store.hierarchy.Declared cls ->
    machine.store.hierarchy.lineage cls = below ++ failed :: above ->
    (forall super, super ∈ above -> machine.store.Usable thread super) ->
    machine.store.initState failed = .failed reason ->
      (cls.ensureInitialised : Request (Clients σ) Unit).run.Delivers thread
        (Store.Leaves thread) machine.store fun outcome _ =>
          outcome = .error (.initialisation (machine.store.hierarchy.name failed) reason)
  /-- The recorded failure of a class is reported ever after. -/
  remembered : forall cls reason later thread, machine.store.hierarchy.Declared cls ->
    machine.store.initState cls = .failed reason ->
    (forall super, super ∈ (machine.store.hierarchy.lineage cls).tail ->
      machine.store.initState super = .done) ->
    Machine.Steps code.host machine later ->
      (cls.ensureInitialised : Request (Clients σ) Unit).run.Delivers thread
        (Store.Leaves thread) later.store fun outcome _ =>
          outcome = .error (.initialisation (machine.store.hierarchy.name cls) reason)
  /-- A panic fails all classes whose initializers it leaves. -/
  unwound : forall thread message frames next frame,
    machine.threads[thread.index]? = some (.running (.panic message) frames) -> frame ∈ frames ->
    machine.step code.host thread = some next ->
      next.store.initState frame.cls = .failed "initializer panicked"

section Protocol

variable {code : ClientCode σ} {machine next later : Machine (Clients σ)} {cls : ClassId}

/-- The recorded failure of a class with initialised superclasses is reported at once. -/
theorem Reachable.remembered (reachable : machine.Reachable code) {reason : String}
    (declared : machine.store.hierarchy.Declared cls)
    (failed : machine.store.initState cls = .failed reason)
    (supers : forall super, super ∈ (machine.store.hierarchy.lineage cls).tail ->
      machine.store.initState super = .done)
    (steps : Machine.Steps code.host machine later) :
    (cls.ensureInitialised : Request (Clients σ) Unit).run.Delivers thread
      (Store.Leaves thread) later.store fun outcome _ =>
        outcome = .error (.initialisation (machine.store.hierarchy.name cls) reason) := by
  obtain ⟨hierarchy, kept⟩ := reachable.settled_later steps
  have split : later.store.hierarchy.lineage cls =
      [] ++ cls :: (machine.store.hierarchy.lineage cls).tail := by
    rw [hierarchy.lineage declared, List.nil_append, Hierarchy.lineage_eq, List.tail_cons]
  have usable : forall super, super ∈ (machine.store.hierarchy.lineage cls).tail ->
      later.store.Usable thread super := by
    intro super member
    left
    rw [kept super (by rw [supers super member]; trivial), supers super member]
  have still : later.store.initState cls = .failed reason := by
    rw [kept cls (by rw [failed]; trivial), failed]
  have same : later.store.hierarchy.name cls = machine.store.hierarchy.name cls := by
    rw [Hierarchy.name, hierarchy.row cls declared]
    rfl
  rw [← same]
  exact (ClassId.refuses_ensureInitialised (Store.calm_leaves thread)
    (hierarchy.declared declared) split usable still).weaken fun _ _ ended => ended.1

/-- Every machine that host code can lead to initialises classes by the protocol. -/
theorem initialisation_protocol (reachable : machine.Reachable code) :
    machine.InitialisesOnce code where
  once := by
    intro thread cls next later other entering moved steps
    have reached := reachable.steps (.step .refl ⟨thread, moved⟩)
    have entered : next.Entered cls := .inr ⟨thread, entering.inside moved⟩
    exact (reached.steps steps).not_entering (reached.entered_later entered steps)
  settled := fun cls later ended steps => (reachable.settled_later steps).2 cls ended
  supers := by
    intro thread cls super entering member
    obtain ⟨control, frames, -, begins⟩ := reachable.begins entering
    exact begins.supers super member
  told := by
    intro thread next number cls outcome moved unanswered answered
    have informs := (reachable.inOrder.step reachable.peopled reachable.names moved).2.2
    exact informs number (.ensureInitialised cls) outcome unanswered answered
  barred := by
    intro cls super reason later thread member failed steps entering
    obtain ⟨hierarchy, kept⟩ := reachable.settled_later steps
    obtain ⟨control, frames, -, begins⟩ := (reachable.steps steps).begins entering
    have still : later.store.initState super = .failed reason := by
      rw [kept super (by rw [failed]; trivial), failed]
    rw [← hierarchy.lineage (declared_of_mem_tail member)] at member
    obtain done | running := begins.supers super member
    · cases still.symm.trans done
    · cases still.symm.trans running
  undisturbed := fun thread other next different moved =>
    reachable.leaves_step moved different.symm
  refused := fun thread cls below failed above reason declared split usable ended =>
    (ClassId.refuses_ensureInitialised (Store.calm_leaves thread) declared split usable
      ended).weaken fun _ _ ended => ended.1
  remembered := fun cls reason later thread declared failed supers steps =>
    reachable.remembered declared failed supers steps
  unwound := by
    intro thread message frames next frame found member moved
    cases turn_of_running found moved
    exact (initState_unwind machine.store frames frame.cls).trans
      (if_pos (List.mem_map_of_mem member))

end Protocol

/-- The class that host code declares first. -/
def firstDeclared : ClassId := ⟨Builtin.hierarchy.rows.size⟩

/-- Initializers panic, and threads that are started ask for the class that was declared first. -/
def panicking : ClientCode Unit where
  initializer _ _ := .panic "no configuration"
  escalation := ClientCode.quiet.escalation
  body _ := .call (.ensureInitialised firstDeclared) .done

/-- Host code that declares a class with an initializer and has a thread ask for it. -/
def askingPanicking : Client Unit (Except Fault Unit) :=
  .call (.declare { name := "app.Base", initializer := some ⟨0⟩ }) fun _ =>
    .fork ⟨0⟩ fun _ => .done (.ok ())

/-- A class whose initializer panicked stays failed, and whoever asks for it is told so. -/
theorem initialisation_protocol_askingPanicking :
    let machine := Machine.run panicking.host 20 (opening askingPanicking ())
    machine.store.initState firstDeclared = .failed "initializer panicked" ∧
      (firstDeclared.ensureInitialised : Request (Clients Unit) Unit).run.Delivers ⟨0⟩
        (Store.Leaves ⟨0⟩) machine.store fun outcome _ =>
          outcome = .error (.initialisation "app.Base" "initializer panicked") := by
  intro machine
  have reachable : machine.Reachable panicking := reachable_run panicking askingPanicking () 20
  have failed : machine.store.initState firstDeclared = .failed "initializer panicked" := by
    decide +kernel
  have name : machine.store.hierarchy.name firstDeclared = "app.Base" := by decide +kernel
  have declared : firstDeclared.index < machine.store.hierarchy.rows.size := by decide +kernel
  have supers : forall super, super ∈ (machine.store.hierarchy.lineage firstDeclared).tail ->
      machine.store.initState super = .done := by decide +kernel
  clear_value machine
  have remembers := (initialisation_protocol reachable).remembered firstDeclared _ machine ⟨0⟩
    declared failed supers .refl
  rw [name] at remembers
  exact ⟨failed, remembers⟩

end Machine

end GuestTypes
