import GuestTypes.Machine

/-!
# Programs amid interference

Between two steps of a thread the other threads may change what all of them share. A
`Discipline` says what one step of a thread may do and what holds at every instant. A program
is `Safe` for a thread when each of its steps keeps to the discipline and its answer meets a
postcondition, whatever the other threads do in between. `Meets` is the triple for requests
that is built from it; a `Frame` is what a request finds again because none of its steps can
change it. Requests are made in calls, which are numbered: what a step may do to the ghost on
behalf of its call is `Quiet` for all other calls, and most steps are quiet for all calls.

Host code that a thread runs in the middle of a request (a static initializer, a foreign
escalation) is any code that keeps to the discipline. The thread is `Idle` when such code
starts, at each of its own steps and when it ends, and what the thread relies on afterwards is
what such code `Leaves`.
-/

namespace GuestTypes

/-- What threads share at one instant. The ghost is kept by proofs alone. -/
structure Moment (σ γ : Type) where
  store : Store
  host : σ
  ghost : γ

namespace Moment

variable {σ γ : Type}

/-- The moment after an action on the store. -/
def withStore (now : Moment σ γ) (store : Store) : Moment σ γ := { now with store }

/-- The moment with other progress of the static initialisations. -/
def withProgress (now : Moment σ γ) (progress : Table InitState) : Moment σ γ :=
  now.withStore { now.store with progress }

end Moment

/-- The rules that every thread keeps. -/
structure Discipline (σ γ : Type) where
  /-- What holds at every instant. -/
  Valid : Moment σ γ -> Prop
  /-- What one step of a thread may do. -/
  Moves : ThreadId -> Moment σ γ -> Moment σ γ -> Prop
  /-- The thread holds nothing that host code could need. -/
  Idle : ThreadId -> Moment σ γ -> Prop
  /-- What host code that a thread runs leaves as that thread had it. -/
  Leaves : ThreadId -> Moment σ γ -> Moment σ γ -> Prop
  /-- What a step does apart from the store, on behalf of a call or of none. -/
  Quiet : Option Nat -> Moment σ γ -> Moment σ γ -> Prop
  moves_refl : forall thread now, Moves thread now now
  quiet_store : forall now store, Quiet none now (now.withStore store)
  quiet_none : forall {call before after}, Quiet none before after -> Quiet call before after
  leaves_refl : forall thread now, Leaves thread now now
  leaves_trans : forall {thread before middle after},
    Leaves thread before middle -> Leaves thread middle after -> Leaves thread before after
  leaves_moves : forall {thread mover before after}, mover ≠ thread -> Valid before ->
    Moves mover before after -> Leaves thread before after
  idle_moves : forall {thread mover before after}, mover ≠ thread -> Valid before ->
    Moves mover before after -> Idle thread before -> Idle thread after
  /-- Progress of static initialisations is outside the rules. -/
  progress : forall {thread now} (progress : Table InitState), Valid now -> Idle thread now ->
    Valid (now.withProgress progress) ∧ Moves thread now (now.withProgress progress) ∧
      Idle thread (now.withProgress progress) ∧ Leaves thread now (now.withProgress progress)

namespace Discipline

variable {σ γ α β : Type} {rules : Discipline σ γ} {thread : ThreadId}
  {call : Option Nat}

/-- A step of a thread that keeps to the rules and to what always holds. -/
structure Allows (rules : Discipline σ γ) (thread : ThreadId) (before after : Moment σ γ) :
    Prop where
  valid : rules.Valid after
  moves : rules.Moves thread before after

/-- Zero or more allowed steps of some of the threads. -/
inductive Evolves (rules : Discipline σ γ) (who : ThreadId -> Prop) (start : Moment σ γ) :
    Moment σ γ -> Prop where
  | refl : Evolves rules who start start
  | step {current next : Moment σ γ} (prior : Evolves rules who start current)
      (mover : ThreadId) (chosen : who mover) (valid : rules.Valid current)
      (last : rules.Allows mover current next) : Evolves rules who start next

/-- What the other threads do in between. -/
abbrev Around (rules : Discipline σ γ) (thread : ThreadId) : Moment σ γ -> Moment σ γ -> Prop :=
  rules.Evolves (· ≠ thread)

/-- What any threads do. -/
abbrev Onward (rules : Discipline σ γ) : Moment σ γ -> Moment σ γ -> Prop :=
  rules.Evolves fun _ => True

namespace Evolves

variable {who : ThreadId -> Prop} {start middle finish : Moment σ γ}

/-- Steps of some threads may be followed by more of them. -/
theorem trans (first : rules.Evolves who start middle) (last : rules.Evolves who middle finish) :
    rules.Evolves who start finish := by
  induction last with
  | refl => exact first
  | step _ mover chosen valid allowed inductionHypothesis =>
      exact .step inductionHypothesis mover chosen valid allowed

/-- What always holds is kept by every step. -/
theorem valid (evolves : rules.Evolves who start finish) (valid : rules.Valid start) :
    rules.Valid finish := by
  cases evolves with
  | refl => exact valid
  | step _ _ _ _ last => exact last.valid

/-- What other threads do, any threads do. -/
theorem onward (evolves : rules.Evolves who start finish) : rules.Onward start finish := by
  induction evolves with
  | refl => exact .refl
  | step _ mover _ valid allowed inductionHypothesis =>
      exact .step inductionHypothesis mover trivial valid allowed

/-- What others do in between leaves a thread its own. -/
theorem leaves (evolves : rules.Around thread start finish) :
    rules.Leaves thread start finish := by
  induction evolves with
  | refl => exact rules.leaves_refl _ _
  | step _ _ chosen valid last inductionHypothesis =>
      exact rules.leaves_trans inductionHypothesis
        (rules.leaves_moves chosen valid last.moves)

/-- What others do in between leaves an idle thread idle. -/
theorem idle (evolves : rules.Around thread start finish) (idle : rules.Idle thread start) :
    rules.Idle thread finish := by
  induction evolves with
  | refl => exact idle
  | step _ _ chosen valid last inductionHypothesis =>
      exact rules.idle_moves chosen valid last.moves inductionHypothesis

end Evolves

/-- The other threads keep an assertion once it holds. -/
def Stable (rules : Discipline σ γ) (thread : ThreadId) (assertion : Moment σ γ -> Prop) : Prop :=
  forall ⦃mover before after⦄, mover ≠ thread -> rules.Valid before ->
    rules.Allows mover before after -> assertion before -> assertion after

/-- A stable assertion outlasts what others do in between. -/
theorem Stable.around {assertion : Moment σ γ -> Prop} (stable : rules.Stable thread assertion)
    {start finish : Moment σ γ} (evolves : rules.Around thread start finish)
    (holds : assertion start) : assertion finish := by
  induction evolves with
  | refl => exact holds
  | step _ _ chosen valid last inductionHypothesis =>
      exact stable chosen valid last inductionHypothesis

/-- Host code that the thread ran has ended. -/
structure Passes (rules : Discipline σ γ) (thread : ThreadId) (before after : Moment σ γ) :
    Prop where
  onward : rules.Onward before after
  leaves : rules.Leaves thread before after
  idle : rules.Idle thread after

/-- Host code that has ended twice has ended. -/
theorem Passes.trans {before middle after : Moment σ γ}
    (first : rules.Passes thread before middle) (last : rules.Passes thread middle after) :
    rules.Passes thread before after :=
  ⟨first.onward.trans last.onward, rules.leaves_trans first.leaves last.leaves, last.idle⟩

/-- Every step of the program keeps to the rules, and every answer meets the postcondition,
whatever the other threads do before each step and after the last. -/
def Safe (rules : Discipline σ γ) (thread : ThreadId) :
    Program σ α -> (α -> Moment σ γ -> Prop) -> Moment σ γ -> Prop
  | .done answer, post, now => forall later, rules.Around thread now later -> post answer later
  | .act action next, post, now => forall later, rules.Around thread now later ->
      forall answer store, action.perform thread later.store = some (answer, store) ->
        exists ghost, rules.Allows thread later ⟨store, later.host, ghost⟩ ∧
          Safe rules thread (next answer) post ⟨store, later.host, ghost⟩
  | .host work next, post, now => forall later, rules.Around thread now later ->
      rules.Idle thread later ∧ exists ghost, rules.Allows thread later
          ⟨later.store, (work later.host later.store).2, ghost⟩ ∧
        Safe rules thread (next (work later.host later.store).1) post
          ⟨later.store, (work later.host later.store).2, ghost⟩
  | .initialise _ next, post, now => forall later, rules.Around thread now later ->
      rules.Idle thread later ∧ forall after reason, rules.Passes thread later after ->
        Safe rules thread (next reason) post after
  | .escalate _ _ next, post, now => forall later, rules.Around thread now later ->
      rules.Idle thread later ∧ forall after outcome, rules.Passes thread later after ->
        Safe rules thread (next outcome) post after
  | .fork _ next, post, now => forall later, rules.Around thread now later ->
      rules.Idle thread later ∧ forall started, Safe rules thread (next started) post later
  | .join _ next, post, now => forall later, rules.Around thread now later ->
      rules.Idle thread later ∧ forall message, Safe rules thread (next message) post later
  | .panic _, _, now => forall later, rules.Around thread now later -> rules.Idle thread later

namespace Safe

variable {program : Program σ α} {post other : α -> Moment σ γ -> Prop} {now later : Moment σ γ}

/-- What the other threads do first does no harm. -/
theorem around (safe : rules.Safe thread program post now)
    (evolves : rules.Around thread now later) : rules.Safe thread program post later := by
  cases program <;> exact fun after further => safe after (evolves.trans further)

/-- A weaker postcondition may use that the answer comes later than the start. -/
theorem weaken (safe : rules.Safe thread program post now) (valid : rules.Valid now)
    (implies : forall answer after, rules.Onward now after -> rules.Valid after ->
      post answer after -> other answer after) :
    rules.Safe thread program other now := by
  induction program generalizing now with
  | done answer =>
      exact fun later evolves =>
        implies _ _ evolves.onward (evolves.valid valid) (safe later evolves)
  | act action next inductionHypothesis =>
      intro later evolves answer store performed
      obtain ⟨ghost, allowed, rest⟩ := safe later evolves answer store performed
      refine ⟨ghost, allowed, inductionHypothesis _ rest allowed.valid ?_⟩
      exact fun answer after onward => implies answer after
        ((evolves.onward.step thread trivial (evolves.valid valid) allowed).trans onward)
  | host work next inductionHypothesis =>
      intro later evolves
      obtain ⟨idle, ghost, allowed, rest⟩ := safe later evolves
      refine ⟨idle, ghost, allowed, inductionHypothesis _ rest allowed.valid ?_⟩
      exact fun answer after onward => implies answer after
        ((evolves.onward.step thread trivial (evolves.valid valid) allowed).trans onward)
  | initialise cls next inductionHypothesis =>
      intro later evolves
      obtain ⟨idle, rest⟩ := safe later evolves
      refine ⟨idle, fun middle reason passes => inductionHypothesis _ (rest middle reason passes)
        (passes.onward.valid (evolves.valid valid)) ?_⟩
      exact fun answer after onward => implies answer after
        ((evolves.onward.trans passes.onward).trans onward)
  | escalate code cls next inductionHypothesis =>
      intro later evolves
      obtain ⟨idle, rest⟩ := safe later evolves
      refine ⟨idle, fun middle outcome passes => inductionHypothesis _ (rest middle outcome passes)
        (passes.onward.valid (evolves.valid valid)) ?_⟩
      exact fun answer after onward => implies answer after
        ((evolves.onward.trans passes.onward).trans onward)
  | fork code next inductionHypothesis =>
      intro later evolves
      obtain ⟨idle, rest⟩ := safe later evolves
      exact ⟨idle, fun started => inductionHypothesis _ (rest started) (evolves.valid valid)
        fun answer after onward => implies answer after (evolves.onward.trans onward)⟩
  | join awaited next inductionHypothesis =>
      intro later evolves
      obtain ⟨idle, rest⟩ := safe later evolves
      exact ⟨idle, fun message => inductionHypothesis _ (rest message) (evolves.valid valid)
        fun answer after onward => implies answer after (evolves.onward.trans onward)⟩
  | panic message => exact safe

/-- Going on with a second program. It starts where the postcondition of the first holds and
keeps holding. -/
theorem bind {next : α -> Program σ β} {post : β -> Moment σ γ -> Prop}
    (safe : rules.Safe thread program other now) (valid : rules.Valid now)
    (rest : forall answer after, rules.Valid after ->
      (forall later, rules.Around thread after later -> other answer later) ->
        rules.Safe thread (next answer) post after) :
    rules.Safe thread (program.bind next) post now := by
  induction program generalizing now with
  | done answer => exact rest answer now valid safe
  | act action after inductionHypothesis =>
      intro later evolves answer store performed
      obtain ⟨ghost, allowed, remaining⟩ := safe later evolves answer store performed
      exact ⟨ghost, allowed, inductionHypothesis _ remaining allowed.valid⟩
  | host work after inductionHypothesis =>
      intro later evolves
      obtain ⟨idle, ghost, allowed, remaining⟩ := safe later evolves
      exact ⟨idle, ghost, allowed, inductionHypothesis _ remaining allowed.valid⟩
  | initialise cls after inductionHypothesis =>
      intro later evolves
      obtain ⟨idle, remaining⟩ := safe later evolves
      exact ⟨idle, fun middle reason passes =>
        inductionHypothesis _ (remaining middle reason passes)
          (passes.onward.valid (evolves.valid valid))⟩
  | escalate code cls after inductionHypothesis =>
      intro later evolves
      obtain ⟨idle, remaining⟩ := safe later evolves
      exact ⟨idle, fun middle outcome passes =>
        inductionHypothesis _ (remaining middle outcome passes)
          (passes.onward.valid (evolves.valid valid))⟩
  | fork code after inductionHypothesis =>
      intro later evolves
      obtain ⟨idle, remaining⟩ := safe later evolves
      exact ⟨idle, fun started =>
        inductionHypothesis _ (remaining started) (evolves.valid valid)⟩
  | join awaited after inductionHypothesis =>
      intro later evolves
      obtain ⟨idle, remaining⟩ := safe later evolves
      exact ⟨idle, fun message =>
        inductionHypothesis _ (remaining message) (evolves.valid valid)⟩
  | panic message => exact safe

end Safe

/-- What a request finds again at its end: neither other threads, nor its own actions, nor host
code that it runs can change it. -/
structure Frame (rules : Discipline σ γ) (thread : ThreadId) (call : Option Nat)
    (framed : Moment σ γ -> Prop) : Prop where
  stable : rules.Stable thread framed
  acts : forall {before after}, rules.Valid before -> rules.Allows thread before after ->
    rules.Quiet call before after -> framed before -> framed after
  passes : forall {before after}, rules.Valid before -> rules.Passes thread before after ->
    framed before -> framed after

/-- What no step of any thread changes is a frame. -/
theorem Frame.of_moves {framed : Moment σ γ -> Prop}
    (kept : forall {mover before after}, rules.Valid before -> rules.Allows mover before after ->
      framed before -> framed after) : rules.Frame thread call framed where
  stable := fun _ _ _ _ valid allowed holds => kept valid allowed holds
  acts := fun valid allowed _ holds => kept valid allowed holds
  passes := by
    intro before after valid passes holds
    have onward := passes.onward
    clear passes
    induction onward with
    | refl => exact holds
    | step _ _ _ current last inductionHypothesis => exact kept current last inductionHypothesis

/-- Two frames are one. -/
theorem Frame.and {framed other : Moment σ γ -> Prop} (first : rules.Frame thread call framed)
    (second : rules.Frame thread call other) :
    rules.Frame thread call fun now => framed now ∧ other now where
  stable := fun _ _ _ chosen valid allowed holds =>
    ⟨first.stable chosen valid allowed holds.1, second.stable chosen valid allowed holds.2⟩
  acts := fun valid allowed quiet holds =>
    ⟨first.acts valid allowed quiet holds.1, second.acts valid allowed quiet holds.2⟩
  passes := fun valid passes holds =>
    ⟨first.passes valid passes holds.1, second.passes valid passes holds.2⟩

/-- A frame of a call is a frame of steps on behalf of none. -/
theorem Frame.none {framed : Moment σ γ -> Prop} (frame : rules.Frame thread call framed) :
    rules.Frame thread none framed where
  stable := frame.stable
  acts := fun valid allowed quiet holds => frame.acts valid allowed (rules.quiet_none quiet) holds
  passes := frame.passes

/-- The postcondition of a request, by what it must achieve with an answer and with a fault. -/
def Ends (post : α -> Moment σ γ -> Prop) (fails : Fault -> Moment σ γ -> Prop) :
    Except Fault α -> Moment σ γ -> Prop
  | .ok answer => post answer
  | .error fault => fails fault

/-- From the precondition the request ends in its postcondition, and finds every frame again. -/
def Meets (rules : Discipline σ γ) (thread : ThreadId) (call : Option Nat)
    (pre : Moment σ γ -> Prop)
    (request : Request σ α) (post : α -> Moment σ γ -> Prop)
    (fails : Fault -> Moment σ γ -> Prop) : Prop :=
  forall framed, rules.Frame thread call framed -> forall now, rules.Valid now -> pre now ->
    framed now -> rules.Safe thread request.run
      (fun outcome after => Ends post fails outcome after ∧ framed after) now

namespace Meets

variable {pre : Moment σ γ -> Prop} {request : Request σ α}
  {post : α -> Moment σ γ -> Prop} {fails : Fault -> Moment σ γ -> Prop}

/-- A request without steps on behalf of a call may be part of any call. -/
theorem within (meets : rules.Meets thread none pre request post fails) :
    rules.Meets thread call pre request post fails :=
  fun framed frame => meets framed frame.none

theorem pure {answer : α} (stable : rules.Stable thread (post answer))
    (holds : forall now, rules.Valid now -> pre now -> post answer now) :
    rules.Meets thread call pre (Pure.pure answer) post fails := by
  intro framed frame now valid before held later evolves
  exact ⟨stable.around evolves (holds now valid before), frame.stable.around evolves held⟩

theorem throw {fault : Fault} (stable : rules.Stable thread (fails fault))
    (holds : forall now, rules.Valid now -> pre now -> fails fault now) :
    rules.Meets thread call pre (throw fault : Request σ α) post fails := by
  intro framed frame now valid before held later evolves
  exact ⟨stable.around evolves (holds now valid before), frame.stable.around evolves held⟩

/-- A request ends where the next one begins. -/
theorem bind {middle : α -> Moment σ γ -> Prop} {next : α -> Request σ β}
    {post : β -> Moment σ γ -> Prop} (first : rules.Meets thread call pre request middle fails)
    (rest : forall answer, rules.Meets thread call (middle answer) (next answer) post fails) :
    rules.Meets thread call pre (request >>= next) post fails := by
  intro framed frame now valid before held
  apply Safe.bind (first framed frame now valid before held) valid
  intro outcome after valid ended
  cases outcome with
  | ok answer =>
      exact rest answer framed frame after valid (ended after .refl).1 (ended after .refl).2
  | error fault => exact ended

/-- A fault of the work is an answer of the attempt. -/
theorem attempt {never : Fault -> Moment σ γ -> Prop}
    (work : rules.Meets thread call pre request post fails) :
    rules.Meets thread call pre request.attempt (Ends post fails) never := by
  intro framed frame now valid before held
  apply Safe.bind (work framed frame now valid before held) valid
  intro outcome after valid ended
  exact ended

/-- Less may be relied on, and more promised. -/
theorem weaken {weaker : Moment σ γ -> Prop} {stronger : α -> Moment σ γ -> Prop}
    {failing : Fault -> Moment σ γ -> Prop}
    (meets : rules.Meets thread call weaker request stronger failing)
    (before : forall now, rules.Valid now -> pre now -> weaker now)
    (after : forall answer now, rules.Valid now -> stronger answer now -> post answer now)
    (refused : forall fault now, rules.Valid now -> failing fault now -> fails fault now) :
    rules.Meets thread call pre request post fails := by
  intro framed frame now valid holds held
  apply (meets framed frame now valid (before now valid holds) held).weaken valid
  rintro (fault | answer) later - validLater ⟨ended, kept⟩
  · exact ⟨refused fault later validLater ended, kept⟩
  · exact ⟨after answer later validLater ended, kept⟩

/-- What is framed may be used before and after. -/
theorem framed {kept : Moment σ γ -> Prop} (meets : rules.Meets thread call pre request post fails)
    (frame : rules.Frame thread call kept) :
    rules.Meets thread call (fun now => pre now ∧ kept now) request
      (fun answer now => post answer now ∧ kept now)
      (fun fault now => fails fault now ∧ kept now) := by
  intro framed outer now valid before held
  apply (meets _ (frame.and outer) now valid before.1 ⟨before.2, held⟩).weaken valid
  rintro (fault | answer) later - - ⟨ended, kept, held⟩
  · exact ⟨⟨ended, kept⟩, held⟩
  · exact ⟨⟨ended, kept⟩, held⟩

/-- What is assumed of the start alone. -/
theorem assume {fact : Prop} (meets : fact -> rules.Meets thread call pre request post fails) :
    rules.Meets thread call (fun now => fact ∧ pre now) request post fails :=
  fun framed frame now valid before held =>
    meets before.1 framed frame now valid before.2 held

/-- What exists at the start. -/
theorem choose {index : Type} {pre : index -> Moment σ γ -> Prop}
    (meets : forall chosen, rules.Meets thread call (pre chosen) request post fails) :
    rules.Meets thread call (fun now => exists chosen, pre chosen now) request post fails :=
  fun framed frame now valid before held =>
    before.elim fun chosen holds => meets chosen framed frame now valid holds held

/-- An action that the proof follows with a change of the ghost. -/
theorem performWith {action : Action α} (before : rules.Stable thread pre)
    (after : forall answer, rules.Stable thread (post answer))
    (step : forall now answer store, rules.Valid now -> pre now ->
      action.perform thread now.store = some (answer, store) ->
        exists ghost, rules.Allows thread now ⟨store, now.host, ghost⟩ ∧
          rules.Quiet call now ⟨store, now.host, ghost⟩ ∧ post answer ⟨store, now.host, ghost⟩) :
    rules.Meets thread call pre (Request.perform action) post fails := by
  intro framed frame now valid holds held later evolves answer store performed
  obtain ⟨ghost, allowed, quiet, ended⟩ := step later answer store (evolves.valid valid)
    (before.around evolves holds) performed
  have kept := frame.acts (evolves.valid valid) allowed quiet (frame.stable.around evolves held)
  exact ⟨ghost, allowed, fun last further =>
    ⟨(after answer).around further ended, frame.stable.around further kept⟩⟩

/-- One action that keeps to the rules. -/
theorem perform {action : Action α} (before : rules.Stable thread pre)
    (after : forall answer, rules.Stable thread (post answer))
    (step : forall now answer store, rules.Valid now -> pre now ->
      action.perform thread now.store = some (answer, store) ->
        rules.Allows thread now (now.withStore store) ∧ post answer (now.withStore store)) :
    rules.Meets thread call pre (Request.perform action) post fails := by
  apply performWith before after
  intro now answer store valid holds performed
  obtain ⟨allowed, ended⟩ := step now answer store valid holds performed
  exact ⟨now.ghost, allowed, rules.quiet_none (rules.quiet_store _ _), ended⟩

/-- Looking at the store changes nothing. -/
theorem observe {view : Store -> α} (before : rules.Stable thread pre)
    (after : forall answer, rules.Stable thread (post answer))
    (sees : forall now, rules.Valid now -> pre now -> post (view now.store) now) :
    rules.Meets thread call pre (Request.observe view) post fails := by
  apply perform before after
  intro now answer store valid holds performed
  cases performed
  exact ⟨⟨valid, rules.moves_refl _ _⟩, sees now valid holds⟩

/-- Host code that the thread runs must find it idle, and leaves it so. -/
theorem initialise {cls : ClassId} {post : Option String -> Moment σ γ -> Prop}
    (before : rules.Stable thread pre) (after : forall answer, rules.Stable thread (post answer))
    (idle : forall now, rules.Valid now -> pre now -> rules.Idle thread now)
    (passed : forall now later reason, rules.Valid now -> pre now ->
      rules.Passes thread now later -> rules.Valid later -> post reason later) :
    rules.Meets thread call pre (ExceptT.lift (Program.initialise cls .done)) post fails := by
  intro framed frame now valid holds held later evolves
  have held := frame.stable.around evolves held
  have holds := before.around evolves holds
  have valid := evolves.valid valid
  refine ⟨idle later valid holds, fun next reason passes last further => ?_⟩
  exact ⟨(after reason).around further
      (passed later next reason valid holds passes (passes.onward.valid valid)),
    frame.stable.around further (frame.passes valid passes held)⟩

/-- An escalation keeps to the rules as host code does. -/
theorem escalate {code : CodeId} {cls : ClassId} {post : Representation -> Moment σ γ -> Prop}
    (before : rules.Stable thread pre) (after : forall answer, rules.Stable thread (post answer))
    (refused : forall fault, rules.Stable thread (fails fault))
    (idle : forall now, rules.Valid now -> pre now -> rules.Idle thread now)
    (passed : forall now later outcome, rules.Valid now -> pre now ->
      rules.Passes thread now later -> rules.Valid later -> Ends post fails outcome later) :
    rules.Meets thread call pre (ExceptT.mk (Program.escalate code cls .done)) post fails := by
  intro framed frame now valid holds held later evolves
  have held := frame.stable.around evolves held
  have holds := before.around evolves holds
  have valid := evolves.valid valid
  refine ⟨idle later valid holds, fun next outcome passes last further => ?_⟩
  have stable : rules.Stable thread (Ends post fails outcome) := by
    cases outcome with
    | ok answer => exact after answer
    | error fault => exact refused fault
  exact ⟨stable.around further
      (passed later next outcome valid holds passes (passes.onward.valid valid)),
    frame.stable.around further (frame.passes valid passes held)⟩

end Meets

end Discipline

end GuestTypes
