import GuestTypes.Proofs.Calls
import GuestTypes.Proofs.Growth
import GuestTypes.Proofs.PlainRequests

/-!
# Initialising classes amid interference

An action of a thread changes the state of no class but one that nobody has begun to initialise.
What a thread relies on while it initialises classes is therefore little: what has ended stays
as it is, and what the thread itself is running stays so until the thread ends it (`Store.Leaves`).
A program is `Orderly` if, relying on no more than that, it runs the initializer of a class only
when it has just claimed it and may use all superclasses, and if it answers host code that asked
for a class with what became of that class and its superclasses (`Store.Concludes`).
-/

namespace GuestTypes

/-! ## The states of classes -/

/-- The initialisation has ended, well or not. -/
def InitState.Ended : InitState -> Prop
  | .done | .failed _ => True
  | .unstarted | .running _ => False

/-- A class whose initializer was left has ended. -/
theorem InitState.ended_settled (reason : Option String) : (InitState.settled reason).Ended := by
  cases reason <;> trivial

namespace Store

/-- The thread may use the class: it is initialised, or the thread itself is initialising it. -/
def Usable (store : Store) (thread : ThreadId) (cls : ClassId) : Prop :=
  store.initState cls = .done ∨ store.initState cls = .running thread

/-- What no other thread changes, and no code that the thread runs in between. -/
structure Leaves (thread : ThreadId) (before after : Store) : Prop where
  hierarchy : before.hierarchy.Extends after.hierarchy
  ended : forall cls, (before.initState cls).Ended -> after.initState cls = before.initState cls
  running : forall cls, before.initState cls = .running thread ->
    after.initState cls = .running thread

/-- The thread is running the initializers of these classes. -/
def Owns (store : Store) (thread : ThreadId) (owned : List ClassId) : Prop :=
  forall cls, cls ∈ owned -> store.initState cls = .running thread

/-- Every value is of a class that exists. -/
def Peopled (store : Store) : Prop :=
  forall value, store.hierarchy.Declared (store.heap.hostClass value)

/-- The class exists, and the thread may use all superclasses. -/
structure Founds (store : Store) (thread : ThreadId) (cls : ClassId) : Prop where
  declared : store.hierarchy.Declared cls
  supers : forall super, super ∈ (store.hierarchy.lineage cls).tail -> store.Usable thread super

/-- The thread may run the initializer of a class: it has claimed the class but not begun with
it, and it may use all superclasses. -/
structure Begins (store : Store) (thread : ThreadId) (owned : List ClassId) (cls : ClassId) :
    Prop extends store.Founds thread cls where
  claimed : store.initState cls = .running thread
  fresh : cls ∉ owned

/-- What initialising classes, the last one first, has come to: either the thread may use them
all, or the last of them that it may not use has failed, and the fault is that of this class. -/
def Initialised (store : Store) (thread : ThreadId) (classes : List ClassId) :
    Except Fault Unit -> Prop
  | .ok _ => forall cls, cls ∈ classes -> store.Usable thread cls
  | .error fault => exists below failed above reason, classes = below ++ failed :: above ∧
      (forall cls, cls ∈ above -> store.Usable thread cls) ∧
        store.initState failed = .failed reason ∧
          fault = .initialisation (store.hierarchy.name failed) reason

/-- What is true when a thread that asked for a class has got an answer. -/
def Concludes (store : Store) (thread : ThreadId) (cls : ClassId) (outcome : Except Fault Unit) :
    Prop :=
  store.Initialised thread (store.hierarchy.lineage cls) outcome

/-- The state of one class is set, and that of all others stays. -/
theorem initState_settle (store : Store) (cls other : ClassId) (state : InitState) :
    (store.settle cls state).initState other =
      if cls = other then state else store.initState other := by
  unfold settle initState
  rw [Table.get_set]
  cases cls
  cases other
  simp

namespace Leaves

variable {thread : ThreadId} {before middle after : Store} {cls : ClassId}

theorem refl (thread : ThreadId) (store : Store) : store.Leaves thread store :=
  ⟨.refl _, fun _ _ => rfl, fun _ same => same⟩

theorem trans (first : before.Leaves thread middle) (last : middle.Leaves thread after) :
    before.Leaves thread after where
  hierarchy := first.hierarchy.trans last.hierarchy
  ended := fun cls ended => by
    have same := first.ended cls ended
    rw [last.ended cls (by rw [same]; exact ended), same]
  running := fun cls running => last.running cls (first.running cls running)

/-- A class that was initialised stays so. -/
theorem done (leaves : before.Leaves thread after) (done : before.initState cls = .done) :
    after.initState cls = .done :=
  (leaves.ended cls (by rw [done]; trivial)).trans done

/-- A class that has failed stays so, with its reason. -/
theorem failed (leaves : before.Leaves thread after) {reason : String}
    (failed : before.initState cls = .failed reason) : after.initState cls = .failed reason :=
  (leaves.ended cls (by rw [failed]; trivial)).trans failed

/-- A class that the thread may use it may go on to use. -/
theorem usable (leaves : before.Leaves thread after) (usable : before.Usable thread cls) :
    after.Usable thread cls :=
  usable.imp leaves.done (leaves.running cls)

/-- The initializers that a thread is running go on to be its own. -/
theorem owns (leaves : before.Leaves thread after) {owned : List ClassId}
    (owns : before.Owns thread owned) : after.Owns thread owned :=
  fun cls member => leaves.running cls (owns cls member)

/-- The superclasses that a thread may use it may go on to use. -/
theorem founds (leaves : before.Leaves thread after) (founds : before.Founds thread cls) :
    after.Founds thread cls where
  declared := leaves.hierarchy.declared founds.declared
  supers := by
    rw [leaves.hierarchy.lineage founds.declared]
    exact fun super member => leaves.usable (founds.supers super member)

/-- A class that had not ended, and was not the thread's, may have been settled since. -/
theorem settle (leaves : before.Leaves thread after) (state : InitState)
    (open_ : ¬ (before.initState cls).Ended) (apart : before.initState cls ≠ .running thread) :
    before.Leaves thread (after.settle cls state) where
  hierarchy := leaves.hierarchy
  ended := by
    intro other ended
    rw [initState_settle, if_neg]
    · exact leaves.ended other ended
    · rintro rfl
      exact open_ ended
  running := by
    intro other running
    rw [initState_settle, if_neg]
    · exact leaves.running other running
    · rintro rfl
      exact apart running

end Leaves

/-- What initialising classes has come to stays true. -/
theorem Initialised.later {thread : ThreadId} {before after : Store} {classes : List ClassId}
    {outcome : Except Fault Unit} (initialised : before.Initialised thread classes outcome)
    (declared : forall cls, cls ∈ classes -> before.hierarchy.Declared cls)
    (leaves : before.Leaves thread after) : after.Initialised thread classes outcome := by
  cases outcome with
  | ok done => exact fun cls member => leaves.usable (initialised cls member)
  | error fault =>
      obtain ⟨below, failed, above, reason, split, usable, ended, rfl⟩ := initialised
      refine ⟨below, failed, above, reason, split,
        fun cls member => leaves.usable (usable cls member), leaves.failed ended, ?_⟩
      unfold Hierarchy.name
      rw [leaves.hierarchy.row failed (declared failed (by simp [split]))]

/-- What asking for a class has come to stays true. -/
theorem Concludes.later {thread : ThreadId} {before after : Store} {cls : ClassId}
    {outcome : Except Fault Unit} (concludes : before.Concludes thread cls outcome)
    (declared : before.hierarchy.Declared cls) (leaves : before.Leaves thread after) :
    after.Concludes thread cls outcome := by
  unfold Concludes at concludes ⊢
  rw [leaves.hierarchy.lineage declared]
  exact concludes.later (fun _ => Hierarchy.declared_of_mem_lineage declared) leaves

end Store

/-! ## What one action does -/

/-- To claim a class that was begun changes nothing. -/
theorem InitState.claim_begun {state after : InitState} {thread : ThreadId} {answer : Claim}
    (claims : state.claim thread = some (answer, after)) (begun : state ≠ .unstarted) :
    after = state := by
  unfold claim at claims
  split at claims
  · exact absurd rfl begun
  · split at claims
    · cases claims
      rfl
    · cases claims
  · cases claims
    rfl
  · cases claims
    rfl

/-- A claim that is answered sets the state of its class. -/
theorem Action.performed_claim {cls : ClassId} {thread : ThreadId} {answer : Claim}
    {before after : Store}
    (performed : (Action.claim cls).perform thread before = some (answer, after)) :
    exists state, (before.initState cls).claim thread = some (answer, state) ∧
      after = before.settle cls state := by
  obtain ⟨⟨claimed, state⟩, claims, same⟩ := Option.map_eq_some_iff.mp performed
  cases same
  exact ⟨state, claims, rfl⟩

/-- An action declares classes or not, and changes the state of no class that somebody has begun
to initialise. -/
theorem Action.begun_kept {β : Type} {action : Action β} {thread : ThreadId} {answer : β}
    {before after : Store} (performed : action.perform thread before = some (answer, after)) :
    before.hierarchy.Extends after.hierarchy ∧
      forall cls, before.initState cls ≠ .unstarted ->
        after.initState cls = before.initState cls := by
  cases action with
  | declare row =>
      cases performed
      exact ⟨Hierarchy.extends_declare _ row, fun _ _ => rfl⟩
  | claim cls =>
      obtain ⟨state, claims, rfl⟩ := performed_claim performed
      refine ⟨.refl _, fun other begun => ?_⟩
      rw [Store.initState_settle]
      split
      · rename_i same
        subst same
        exact InitState.claim_begun claims begun
      · rfl
  | factory id step =>
      obtain ⟨changed, -, same⟩ := Option.map_eq_some_iff.mp performed
      cases same
      exact ⟨.refl _, fun _ _ => rfl⟩
  | observe _ | addType _ | addShared _ | addRegistry _ | addLoader | addSynthesizer _ _
  | addFactory _ _ _ | registry _ _ | release _ | synthesizer _ _ | loader _ _ | heap _
  | makeDirectories _ | writeFile _ _ | record _ =>
      cases performed
      exact ⟨.refl _, fun _ _ => rfl⟩

/-- An action disturbs nobody, the thread itself included. -/
theorem Action.leaves {β : Type} {action : Action β} {thread : ThreadId} {answer : β}
    {before after : Store} (performed : action.perform thread before = some (answer, after))
    (other : ThreadId) : before.Leaves other after := by
  obtain ⟨hierarchy, kept⟩ := begun_kept performed
  refine ⟨hierarchy, fun cls ended => kept cls ?_, fun cls running => (kept cls ?_).trans running⟩
  · intro unstarted
    rw [unstarted] at ended
    exact ended
  · rw [running]
    nofun

/-! ## Orderly programs -/

/-- Host code names only classes that exist. -/
def Clients.Names {σ : Type} (clients : Clients σ) (store : Store) : Prop :=
  forall call, clients.mayCall store call = true ->
    forall cls, cls ∈ call.classes -> store.hierarchy.Declared cls

/-- What is true when a call is answered: who asked for a class is told what became of it. Who
asked for its representation is told so if the class cannot be initialised; any other refusal comes
after that. -/
def Call.Concludes (thread : ThreadId) (store : Store) :
    (call : Call) -> Except Fault call.Answer -> Prop
  | .ensureInitialised cls, outcome => store.Concludes thread cls outcome
  | .resolve _ cls, .error fault =>
      store.Concludes thread cls (.error fault) ∨ store.Concludes thread cls (.ok ())
  | _, _ => True

/-- Whatever is answered to host code is true then. -/
def Clients.Informs {σ : Type} (before after : Clients σ) (thread : ThreadId) (store : Store) :
    Prop :=
  forall (number : Nat) (call : Call) (outcome : Except Fault call.Answer),
    before.calls[number]? = some { call } ->
    after.calls[number]? = some { call, answer := some outcome } ->
      call.Concludes thread store outcome

/-- Nothing is answered while host code stands still. -/
theorem Clients.Informs.refl {σ : Type} (clients : Clients σ) (thread : ThreadId) (store : Store) :
    clients.Informs clients thread store := by
  intro number call outcome unanswered answered
  cases unanswered.symm.trans answered

variable {σ α β : Type} {thread : ThreadId} {owned : List ClassId}

/-- The program runs an initializer only when it may, and its answer meets the postcondition,
whatever the other threads do. The thread is running the initializers of `owned` meanwhile. -/
def Program.Orderly (thread : ThreadId) (owned : List ClassId) :
    Program (Clients σ) α -> (α -> Store -> Prop) -> Store -> Prop
  | .done answer, post, now => forall later, now.Leaves thread later -> post answer later
  | .act action next, post, now => forall later, now.Leaves thread later -> later.Peopled ->
      forall answer after, action.perform thread later = some (answer, after) ->
        Orderly thread owned (next answer) post after
  | .host work next, post, now => forall later own, now.Leaves thread later -> own.Names later ->
      own.Informs (work own later).2 thread later ∧
        Orderly thread owned (next (work own later).1) post later
  | .initialise cls next, post, now => forall later, now.Leaves thread later ->
      later.Begins thread owned cls ∧ forall reason after, later.Leaves thread after ->
        Orderly thread owned (next reason) post (after.settle cls (.settled reason))
  | .escalate _ _ next, post, now => forall outcome later, now.Leaves thread later ->
      Orderly thread owned (next outcome) post later
  | .fork _ next, post, now => forall started later, now.Leaves thread later ->
      Orderly thread owned (next started) post later
  | .join _ next, post, now => forall message later, now.Leaves thread later ->
      Orderly thread owned (next message) post later
  | .panic _, _, _ => True

namespace Program.Orderly

variable {program : Program (Clients σ) α} {post other : α -> Store -> Prop} {now later : Store}

/-- An orderly program may be left alone for a while. -/
theorem around (orderly : program.Orderly thread owned post now)
    (leaves : now.Leaves thread later) :
    program.Orderly thread owned post later := by
  cases program with
  | done answer => exact fun last further => orderly last (leaves.trans further)
  | act action next => exact fun last further => orderly last (leaves.trans further)
  | host work next => exact fun last own further => orderly last own (leaves.trans further)
  | initialise cls next => exact fun last further => orderly last (leaves.trans further)
  | escalate code cls next =>
      exact fun outcome last further => orderly outcome last (leaves.trans further)
  | fork code next => exact fun started last further => orderly started last (leaves.trans further)
  | join awaited next =>
      exact fun message last further => orderly message last (leaves.trans further)
  | panic message => trivial

/-- An orderly program goes on with an orderly one. -/
theorem bind {next : α -> Program (Clients σ) β} {post : β -> Store -> Prop}
    (first : program.Orderly thread owned
      (fun answer after => (next answer).Orderly thread owned post after) now) :
    (program.bind next).Orderly thread owned post now := by
  induction program generalizing now with
  | done answer => exact first now (.refl _ _)
  | act action after inductionHypothesis =>
      exact fun later leaves peopled answer store performed =>
        inductionHypothesis answer (first later leaves peopled answer store performed)
  | host work after inductionHypothesis =>
      intro later own leaves names
      obtain ⟨informs, rest⟩ := first later own leaves names
      exact ⟨informs, inductionHypothesis _ rest⟩
  | initialise cls after inductionHypothesis =>
      intro later leaves
      obtain ⟨begins, rest⟩ := first later leaves
      exact ⟨begins, fun reason store left => inductionHypothesis reason (rest reason store left)⟩
  | escalate code cls after inductionHypothesis =>
      exact fun outcome later leaves => inductionHypothesis outcome (first outcome later leaves)
  | fork code after inductionHypothesis =>
      exact fun started later leaves => inductionHypothesis started (first started later leaves)
  | join awaited after inductionHypothesis =>
      exact fun message later leaves => inductionHypothesis message (first message later leaves)
  | panic message => trivial

/-- More may be promised of an answer. -/
theorem weaken (orderly : program.Orderly thread owned post now)
    (implies : forall answer after, post answer after -> other answer after) :
    program.Orderly thread owned other now := by
  induction program generalizing now with
  | done answer => exact fun later leaves => implies answer later (orderly later leaves)
  | act action next inductionHypothesis =>
      exact fun later leaves peopled answer store performed =>
        inductionHypothesis answer (orderly later leaves peopled answer store performed)
  | host work next inductionHypothesis =>
      intro later own leaves names
      obtain ⟨informs, rest⟩ := orderly later own leaves names
      exact ⟨informs, inductionHypothesis _ rest⟩
  | initialise cls next inductionHypothesis =>
      intro later leaves
      obtain ⟨begins, rest⟩ := orderly later leaves
      exact ⟨begins, fun reason store left => inductionHypothesis reason (rest reason store left)⟩
  | escalate code cls next inductionHypothesis =>
      exact fun outcome later leaves => inductionHypothesis outcome (orderly outcome later leaves)
  | fork code next inductionHypothesis =>
      exact fun started later leaves => inductionHypothesis started (orderly started later leaves)
  | join awaited next inductionHypothesis =>
      exact fun message later leaves => inductionHypothesis message (orderly message later leaves)
  | panic message => trivial

/-- What a program leaves alone is left alone since an earlier moment as well. -/
theorem since {start : Store}
    (orderly : program.Orderly thread owned (fun _ after => now.Leaves thread after) now)
    (leaves : start.Leaves thread now) :
    program.Orderly thread owned (fun _ after => start.Leaves thread after) now :=
  orderly.weaken fun _ _ further => leaves.trans further

/-- Whatever runs no host code is orderly. -/
theorem inner (plain : program.Plain True True True True False) :
    program.Orderly thread owned (fun _ after => now.Leaves thread after) now := by
  induction program generalizing now with
  | done answer => exact fun later leaves => leaves
  | act action next inductionHypothesis =>
      intro later leaves _ answer after performed
      exact (inductionHypothesis answer (plain.2 answer).1).since
        (leaves.trans (Action.leaves performed thread))
  | host _ _ _ => exact plain.elim
  | initialise _ _ _ => exact plain.1.elim
  | escalate _ _ _ _ => exact plain.1.elim
  | fork _ _ _ => exact plain.elim
  | join _ _ _ => exact plain.elim
  | panic _ => trivial

end Program.Orderly

/-! ## Requests -/

/-- A request is followed by another one, or by nothing if it is refused. -/
def Request.Onward (thread : ThreadId) (owned : List ClassId)
    (rest : α -> Request (Clients σ) β) (post : Except Fault β -> Store -> Prop) :
    Except Fault α -> Store -> Prop
  | .ok answer, after => (rest answer).run.Orderly thread owned post after
  | .error fault, after => forall later, after.Leaves thread later -> post (.error fault) later

/-- The request is orderly, and undoes nothing that the thread relies on. -/
def Request.Tidy (thread : ThreadId) (owned : List ClassId) (request : Request (Clients σ) α)
    (now : Store) : Prop :=
  request.run.Orderly thread owned (fun _ after => now.Leaves thread after) now

namespace Program.Orderly

variable {request : Request (Clients σ) α} {now : Store} {post : Except Fault α -> Store -> Prop}

/-- A request that is answered goes on with the next one. -/
theorem andThen {rest : α -> Request (Clients σ) β} {post : Except Fault β -> Store -> Prop}
    (first : request.run.Orderly thread owned (Request.Onward thread owned rest post) now) :
    (request >>= rest).run.Orderly thread owned post now := by
  apply Program.Orderly.bind
  apply first.weaken
  intro outcome after follows
  cases outcome with
  | ok answer => exact follows
  | error fault => exact follows

/-- To look at the store says something of what is seen then, and of what is left of it. -/
theorem observe {view : Store -> α}
    (sees : forall later, now.Leaves thread later -> later.Peopled ->
      forall last, later.Leaves thread last -> post (.ok (view later)) last) :
    (Request.observe view : Request (Clients σ) α).run.Orderly thread owned post now := by
  intro later leaves peopled answer after performed
  cases performed
  exact sees later leaves peopled

end Program.Orderly

namespace Request.Tidy

variable {request : Request (Clients σ) α} {now later : Store} {cls : ClassId}

/-- A request without host code undoes nothing. -/
theorem inner (plain : request.Inner) : request.Tidy thread owned now :=
  Program.Orderly.inner plain.actions

/-- Any action will do. -/
theorem perform (action : Action α) :
    Request.Tidy (σ := σ) thread owned (Request.perform action) now :=
  fun _ leaves _ _ _ performed _ further =>
    (leaves.trans (Action.leaves performed thread)).trans further

theorem pure (answer : α) : Request.Tidy (σ := σ) thread owned (Pure.pure answer) now :=
  fun _ leaves => leaves

theorem throw (fault : Fault) :
    Request.Tidy thread owned (throw fault : Request (Clients σ) α) now :=
  fun _ leaves => leaves

/-- Tidy requests one after the other are tidy. -/
theorem bind {next : α -> Request (Clients σ) β} (tidy : request.Tidy thread owned now)
    (rest : forall answer after, now.Leaves thread after -> (next answer).Tidy thread owned after) :
    Request.Tidy thread owned (request >>= next) now := by
  apply Program.Orderly.andThen
  apply Program.Orderly.weaken tidy
  intro outcome after leaves
  cases outcome with
  | ok answer => exact (rest answer after leaves).since leaves
  | error fault => exact fun last further => leaves.trans further

end Request.Tidy

namespace ClassId

variable {now : Store} {cls : ClassId}

/-- What initialising a class leads to whose superclasses can be used. -/
def Initialises (thread : ThreadId) (cls : ClassId) (start : Store) (outcome : Except Fault Unit)
    (after : Store) : Prop :=
  start.Leaves thread after ∧
    match outcome with
    | .ok _ => after.Usable thread cls
    | .error fault => exists reason, after.initState cls = .failed reason ∧
        fault = .initialisation (after.hierarchy.name cls) reason

/-- The fault of a failed class names the class and its reason. -/
theorem orderly_fault {start : Store} {reason : String} (leaves : start.Leaves thread now)
    (declared : now.hierarchy.Declared cls) (failed : now.initState cls = .failed reason) :
    (cls.initialisationFault reason : Request (Clients σ) Unit).run.Orderly thread owned
      (Initialises thread cls start) now := by
  apply Program.Orderly.andThen
  apply Program.Orderly.observe
  intro seen first _ middle second last third
  have since := second.trans third
  refine ⟨(leaves.trans first).trans since, reason, (first.trans since).failed failed, ?_⟩
  unfold Hierarchy.name
  rw [since.hierarchy.row cls (first.hierarchy.declared declared)]

/-- A class is initialised whose superclasses can be used. -/
theorem orderly_initialise (owns : now.Owns thread owned) (declared : now.hierarchy.Declared cls)
    (supers : forall super, super ∈ (now.hierarchy.lineage cls).tail -> now.Usable thread super) :
    (cls.initialise : Request (Clients σ) Unit).run.Orderly thread owned
      (Initialises thread cls now) now := by
  apply Program.Orderly.andThen
  intro later leaves _ answer after performed
  have left := leaves.trans (Action.leaves performed thread)
  obtain ⟨state, claims, rfl⟩ := Action.performed_claim performed
  have settled : (later.settle cls state).initState cls = state := by
    rw [Store.initState_settle, if_pos rfl]
  intro begun further
  have known : begun.hierarchy.Declared cls := (left.trans further).hierarchy.declared declared
  unfold InitState.claim at claims
  split at claims
  · rename_i unstarted
    cases claims
    have open_ : ¬ (now.initState cls).Ended := by
      intro ended
      rw [← leaves.ended cls ended, unstarted] at ended
      exact ended
    have apart : now.initState cls ≠ .running thread := by
      intro running
      cases unstarted.symm.trans (leaves.running cls running)
    apply Program.Orderly.andThen
    intro entering still
    have before := (left.trans further).trans still
    refine ⟨⟨before.founds ⟨declared, supers⟩, (further.trans still).running cls settled, ?_⟩, ?_⟩
    · intro member
      cases unstarted.symm.trans (leaves.running cls (owns cls member))
    · intro reason ended during final since
      have kept : now.Leaves thread final :=
        ((before.trans during).settle _ open_ apart).trans since
      have settled : (ended.settle cls (.settled reason)).initState cls = .settled reason := by
        rw [Store.initState_settle, if_pos rfl]
      cases reason with
      | none => exact fun last still => ⟨kept.trans still,
          (since.trans still).usable (.inl settled)⟩
      | some reason =>
          exact orderly_fault kept (kept.hierarchy.declared declared) (since.failed settled)
  · split at claims
    · rename_i owner running same
      cases claims
      exact fun last still => ⟨(left.trans further).trans still,
        (further.trans still).usable (.inr (settled.trans (by rw [running, same])))⟩
    · cases claims
  · rename_i done
    cases claims
    exact fun last still => ⟨(left.trans further).trans still,
      (further.trans still).usable (.inl (settled.trans done))⟩
  · rename_i reason failed
    cases claims
    exact orderly_fault (left.trans further) known (further.failed (settled.trans failed))

/-- Classes are initialised one after the other. -/
theorem initialiseEach_append (first last : List ClassId) :
    (initialiseEach (first ++ last) : Request σ Unit) =
      initialiseEach first >>= fun _ => initialiseEach last := by
  induction first with
  | nil => simp [initialiseEach]
  | cons cls rest inductionHypothesis => simp [initialiseEach, inductionHypothesis]

/-- The superclasses of a class and then the class itself are initialised. -/
theorem orderly_lineage (owns : now.Owns thread owned) (declared : now.hierarchy.Declared cls) :
    (initialiseEach (now.hierarchy.lineage cls).reverse : Request (Clients σ) Unit).run.Orderly
      thread owned (fun outcome after => now.Leaves thread after ∧
        after.Initialised thread (now.hierarchy.lineage cls) outcome) now := by
  induction cls using Hierarchy.lineage_induction now.hierarchy with
  | step cls inductionHypothesis =>
      have above : (initialiseEach ((now.hierarchy.superclass cls).elim []
          now.hierarchy.lineage).reverse : Request (Clients σ) Unit).run.Orderly thread owned
            (fun outcome after => now.Leaves thread after ∧ after.Initialised thread
              ((now.hierarchy.superclass cls).elim [] now.hierarchy.lineage) outcome) now := by
        cases chosen : now.hierarchy.superclass cls with
        | none => exact fun later leaves => ⟨leaves, nofun⟩
        | some super =>
            exact inductionHypothesis super chosen (Hierarchy.Declared.superclass chosen)
      have lineage := Hierarchy.lineage_eq now.hierarchy cls
      generalize (now.hierarchy.superclass cls).elim [] now.hierarchy.lineage = supers at *
      rw [lineage, List.reverse_cons, initialiseEach_append]
      have known : forall ancestor, ancestor ∈ cls :: supers ->
          now.hierarchy.Declared ancestor := by
        intro ancestor member
        rw [← lineage] at member
        exact Hierarchy.declared_of_mem_lineage declared member
      apply Program.Orderly.andThen
      apply above.weaken
      rintro outcome after ⟨leaves, initialised⟩
      have still : forall ancestor, ancestor ∈ cls :: supers ->
          after.hierarchy.Declared ancestor :=
        fun ancestor member => leaves.hierarchy.declared (known ancestor member)
      cases outcome with
      | error fault =>
          intro later further
          obtain ⟨below, failed, rest, reason, rfl, others⟩ := initialised
          refine ⟨leaves.trans further, Store.Initialised.later ?_ still further⟩
          exact ⟨cls :: below, failed, rest, reason, rfl, others⟩
      | ok done =>
          have usable : forall super, super ∈ (after.hierarchy.lineage cls).tail ->
              after.Usable thread super := by
            rw [leaves.hierarchy.lineage declared, lineage]
            exact initialised
          apply Program.Orderly.andThen
          apply (orderly_initialise (leaves.owns owns) (still cls List.mem_cons_self) usable).weaken
          rintro outcome last ⟨further, initialises⟩
          have ended := leaves.trans further
          have above : forall super, super ∈ supers -> last.Usable thread super :=
            fun super member => further.usable (initialised super member)
          have declared : forall ancestor, ancestor ∈ cls :: supers ->
              last.hierarchy.Declared ancestor :=
            fun ancestor member => further.hierarchy.declared (still ancestor member)
          cases outcome with
          | ok done =>
              intro later final
              refine ⟨ended.trans final, Store.Initialised.later ?_ declared final⟩
              exact fun ancestor member => (List.mem_cons.mp member).elim
                (fun same => same ▸ initialises) (above ancestor)
          | error fault =>
              intro later final
              obtain ⟨reason, failed, rfl⟩ := initialises
              refine ⟨ended.trans final, Store.Initialised.later ?_ declared final⟩
              exact ⟨[], cls, supers, reason, rfl, above, failed, rfl⟩

/-- Whoever asks for a class learns what became of it. -/
theorem orderly_ensureInitialised (owns : now.Owns thread owned)
    (declared : now.hierarchy.Declared cls) :
    (cls.ensureInitialised : Request (Clients σ) Unit).run.Orderly thread owned
      (fun outcome after => now.Leaves thread after ∧ after.Concludes thread cls outcome) now := by
  apply Program.Orderly.andThen
  apply Program.Orderly.observe
  intro seen first _ later second
  have leaves := first.trans second
  have lineage := second.hierarchy.lineage (first.hierarchy.declared declared)
  rw [← lineage]
  apply (orderly_lineage (leaves.owns owns) (leaves.hierarchy.declared declared)).weaken
  rintro outcome after ⟨third, initialised⟩
  refine ⟨leaves.trans third, ?_⟩
  unfold Store.Concludes
  rw [third.hierarchy.lineage (leaves.hierarchy.declared declared)]
  exact initialised

/-- To initialise a class undoes nothing else. -/
theorem tidy_ensureInitialised (owns : now.Owns thread owned)
    (declared : now.hierarchy.Declared cls) :
    Request.Tidy (σ := σ) thread owned cls.ensureInitialised now :=
  (orderly_ensureInitialised owns declared).weaken fun _ _ ended => ended.1

end ClassId

/-! ## The requests that ask for classes -/

section Asking

variable {now : Store} {cls : ClassId}

/-- A factory that is asked for a class undoes nothing. -/
theorem FactoryId.tidy_findOrCreate {factory : FactoryId} (owns : now.Owns thread owned)
    (declared : now.hierarchy.Declared cls) :
    Request.Tidy (σ := σ) thread owned (factory.findOrCreate cls) now := by
  rw [findOrCreate_eq]
  exact (ClassId.tidy_ensureInitialised owns declared).bind fun _ _ _ =>
    .inner (plain_locked inner_search)

namespace RegistryId

variable {registry : RegistryId}

/-- A step of a registry is answered, and undoes nothing. -/
theorem orderly_step {step : Registry.Step α} :
    (registry.step step : Request (Clients σ) α).run.Orderly thread owned
      (fun outcome after => now.Leaves thread after ∧ exists answer, outcome = .ok answer) now := by
  apply Program.Orderly.andThen
  intro later first _ answer after performed still second
  apply Program.Orderly.andThen
  intro again third _ done released given middle fourth last fifth
  have leaves := (first.trans (Action.leaves performed thread)).trans (second.trans third)
  exact ⟨leaves.trans ((Action.leaves given thread).trans (fourth.trans fifth)), answer, rfl⟩

/-- A step of a registry undoes nothing. -/
theorem tidy_step {step : Registry.Step α} :
    Request.Tidy (σ := σ) thread owned (registry.step step) now :=
  orderly_step.weaken fun _ _ ended => ended.1

/-- An escalation undoes nothing. -/
theorem tidy_escalate (owns : now.Owns thread owned) (declared : now.hierarchy.Declared cls) :
    Request.Tidy (σ := σ) thread owned (registry.escalate cls) now := by
  refine (Request.Tidy.perform _).bind fun escalation after leaves => ?_
  cases escalation with
  | none => exact .throw _
  | gone => exact .throw _
  | factory factory =>
      exact FactoryId.tidy_findOrCreate (leaves.owns owns) (leaves.hierarchy.declared declared)
  | foreign code => exact fun _ _ first _ second => first.trans second

/-- To resolve a class undoes nothing. -/
theorem tidy_resolve (owns : now.Owns thread owned) (declared : now.hierarchy.Declared cls) :
    Request.Tidy (σ := σ) thread owned (registry.resolve cls) now := by
  refine tidy_step.bind fun found after first => ?_
  cases found with
  | some rep => exact .pure _
  | none =>
      refine (ClassId.tidy_ensureInitialised (first.owns owns)
        (first.hierarchy.declared declared)).bind fun _ middle second => ?_
      have leaves := first.trans second
      refine tidy_step.bind fun found after third => ?_
      have leaves := leaves.trans third
      cases found with
      | some rep => exact .pure _
      | none =>
          exact (tidy_escalate (leaves.owns owns) (leaves.hierarchy.declared declared)).bind
            fun _ _ _ => tidy_step

/-- Who asks for the representation of a class learns what became of the class, or may use it when
he is refused. -/
theorem orderly_resolve (owns : now.Owns thread owned) (declared : now.hierarchy.Declared cls) :
    (registry.resolve cls : Request (Clients σ) Representation).run.Orderly thread owned
      (fun outcome after => now.Leaves thread after ∧
        (Call.resolve registry cls).Concludes thread after outcome) now := by
  apply Program.Orderly.andThen
  refine orderly_step.weaken ?_
  rintro _ after ⟨leaves, found, rfl⟩
  cases found with
  | some rep => exact fun _ further => ⟨leaves.trans further, trivial⟩
  | none =>
      have known := leaves.hierarchy.declared declared
      apply Program.Orderly.andThen
      apply (ClassId.orderly_ensureInitialised (leaves.owns owns) known).weaken
      rintro outcome middle ⟨third, concludes⟩
      have leaves := leaves.trans third
      have known := third.hierarchy.declared known
      cases outcome with
      | error fault => exact fun last further =>
          ⟨leaves.trans further, .inl (concludes.later known further)⟩
      | ok done =>
          -- Whatever is refused from here on, the class may be used.
          refine Program.Orderly.weaken (show Request.Tidy thread owned _ middle from ?_) ?_
          · refine tidy_step.bind fun found after fourth => ?_
            cases found with
            | some rep => exact .pure _
            | none =>
                exact (tidy_escalate ((leaves.trans fourth).owns owns)
                  (fourth.hierarchy.declared known)).bind fun _ _ _ => tidy_step
          · intro outcome last further
            refine ⟨leaves.trans further, ?_⟩
            cases outcome with
            | ok rep => trivial
            | error fault => exact .inr (concludes.later known further)

/-- Every value is of a class that exists. -/
theorem tidy_resolveValue {value : Value} (owns : now.Owns thread owned) :
    Request.Tidy (σ := σ) thread owned (registry.resolveValue value) now := by
  apply Program.Orderly.andThen
  apply Program.Orderly.observe
  intro seen first peopled later second
  have leaves := first.trans second
  exact (tidy_resolve (leaves.owns owns) (second.hierarchy.declared (peopled value))).since leaves

/-- To ask for the type of a value undoes nothing. -/
theorem tidy_typeOf {value : Value} (owns : now.Owns thread owned) :
    Request.Tidy (σ := σ) thread owned (registry.typeOf value) now :=
  (tidy_resolveValue owns).bind fun _ _ _ => .inner Representation.plain_typeOf

end RegistryId

/-- Every call that names classes that exist is orderly. -/
theorem Call.tidy_request {call : Call} (owns : now.Owns thread owned)
    (declared : forall cls, cls ∈ call.classes -> now.hierarchy.Declared cls) :
    Request.Tidy (σ := σ) thread owned call.request now := by
  cases call with
  | ensureInitialised cls =>
      exact ClassId.tidy_ensureInitialised owns (declared cls List.mem_cons_self)
  | resolve registry cls => exact RegistryId.tidy_resolve owns (declared cls List.mem_cons_self)
  | resolveValue registry value => exact RegistryId.tidy_resolveValue owns
  | typeOf registry value => exact RegistryId.tidy_typeOf owns
  | findOrCreate factory cls =>
      exact FactoryId.tidy_findOrCreate owns (declared cls List.mem_cons_self)
  | _ =>
      exact .inner ((plain_request _).mono (fun _ => trivial) (fun _ => trivial) (fun _ => trivial)
        (fun _ => trivial) fun runs => runs)

/-- A call ends with an answer that is true. -/
theorem Call.orderly_request {call : Call} (owns : now.Owns thread owned)
    (declared : forall cls, cls ∈ call.classes -> now.hierarchy.Declared cls) :
    (call.request : Request (Clients σ) call.Answer).run.Orderly thread owned
      (fun outcome after => now.Leaves thread after ∧ call.Concludes thread after outcome) now := by
  have tidy : Request.Tidy (σ := σ) thread owned call.request now := tidy_request owns declared
  cases call with
  | ensureInitialised cls =>
      exact ClassId.orderly_ensureInitialised owns (declared cls List.mem_cons_self)
  | resolve registry cls => exact RegistryId.orderly_resolve owns (declared cls List.mem_cons_self)
  | _ => exact tidy.weaken fun _ _ leaves => ⟨leaves, trivial⟩

end Asking

/-! ## Host code -/

section HostCode

variable {now : Store} {call : Call} {clients : Clients σ}

/-- A call that begins answers nothing. -/
theorem Clients.informs_begin (clients : Clients σ) (call : Call) (store seen : Store) :
    clients.Informs (clients.begin call seen).2 thread store := by
  intro number asked outcome unanswered answered
  have within := (List.getElem?_eq_some_iff.mp unanswered).1
  unfold Clients.begin at answered
  split at answered
  · rw [List.getElem?_append_left within, unanswered] at answered
    cases answered
  · rw [unanswered] at answered
    cases answered

/-- A call that ends answers itself. -/
theorem Clients.informs_finish {number : Nat} {outcome : Except Fault call.Answer} {store : Store}
    (concludes : call.Concludes thread store outcome) :
    clients.Informs (clients.finish number call outcome) thread store := by
  intro other asked answer unanswered answered
  unfold Clients.finish at answered
  by_cases same : number = other
  · subst same
    have within := (List.getElem?_eq_some_iff.mp unanswered).1
    rw [List.getElem?_set_self within] at answered
    cases answered
    exact concludes
  · rw [List.getElem?_set_ne same, unanswered] at answered
    cases answered

/-- What a call was answered with stays true. -/
theorem Call.Concludes.later {before after : Store} {outcome : Except Fault call.Answer}
    (concludes : call.Concludes thread before outcome)
    (declared : forall cls, cls ∈ call.classes -> before.hierarchy.Declared cls)
    (leaves : before.Leaves thread after) : call.Concludes thread after outcome := by
  cases call with
  | ensureInitialised cls =>
      exact Store.Concludes.later concludes (declared cls List.mem_cons_self) leaves
  | resolve registry cls =>
      have known := declared cls List.mem_cons_self
      cases outcome with
      | ok rep => trivial
      | error fault => exact concludes.imp (·.later known leaves) (·.later known leaves)
  | _ => trivial

/-- A call is orderly, and undoes nothing for its thread. -/
theorem Client.orderly_asking (owns : now.Owns thread owned) :
    (Client.asking call : Program (Clients σ) _).Orderly thread owned
      (fun _ after => now.Leaves thread after) now := by
  intro later own first names
  refine ⟨own.informs_begin call later later, ?_⟩
  apply Program.Orderly.bind
  intro begun second
  have leaves := first.trans second
  unfold Clients.begin
  by_cases may : own.mayCall later call = true
  · have declared : forall cls, cls ∈ call.classes -> begun.hierarchy.Declared cls :=
      fun cls named => second.hierarchy.declared (names call may cls named)
    simp only [may, if_true]
    apply Program.Orderly.bind
    apply (Call.orderly_request (leaves.owns owns) declared).weaken
    rintro outcome after ⟨third, concludes⟩ last clients fourth _
    have still := concludes.later
      (fun cls named => third.hierarchy.declared (declared cls named)) fourth
    exact ⟨Clients.informs_finish still, fun final fifth =>
      ((leaves.trans third).trans fourth).trans fifth⟩
  · simp only [may]
    trivial

/-- Host code is orderly. -/
theorem Client.orderly_program (client : Client σ α) (owns : now.Owns thread owned) :
    client.program.Orderly thread owned (fun _ after => now.Leaves thread after) now := by
  induction client generalizing now with
  | done answer => exact fun later leaves => leaves
  | work change next inductionHypothesis =>
      intro later own leaves _
      exact ⟨.refl own thread later, (inductionHypothesis _ (leaves.owns owns)).since leaves⟩
  | call asked next inductionHypothesis =>
      apply Program.Orderly.bind
      apply (orderly_asking owns).weaken
      intro answer after leaves
      exact (inductionHypothesis answer (leaves.owns owns)).since leaves
  | fork code next inductionHypothesis =>
      exact fun started later leaves =>
        (inductionHypothesis started (leaves.owns owns)).since leaves
  | join awaited next inductionHypothesis =>
      exact fun message later leaves =>
        (inductionHypothesis message (leaves.owns owns)).since leaves
  | panic message => trivial

end HostCode

end GuestTypes
