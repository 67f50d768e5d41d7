import GuestTypes.Proofs.Adequacy
import GuestTypes.Proofs.Calls
import GuestTypes.Proofs.PlainRequests

/-!
# Host code under rules that leave it free

Some rules allow a thread to run host code at any time. A request of modest actions keeps such rules
if each modest action does (`Meets.plain`). Host code keeps them if its own work does and each of
its calls does, from where the call begins to where it ends (`Hosts`). So every machine that host
code can lead to keeps the rules if the machine before its first step does.
-/

namespace GuestTypes

namespace Discipline

section Plain

variable {σ γ α : Type} {rules : Discipline σ γ} {thread : ThreadId} {call : Option Nat}

/-- Every thread may run host code at any time. -/
def Free (rules : Discipline σ γ) : Prop := forall thread now, rules.Idle thread now

section Assertion

variable {typing making naming looking hosting : Prop} {pre : Moment σ γ -> Prop}
  (free : rules.Free) (stable : rules.Stable thread pre)
  (acts : forall {β : Type} {action : Action β} {now answer store}, rules.Valid now -> pre now ->
    action.Modest typing making naming looking ->
    action.perform thread now.store = some (answer, store) ->
      rules.Allows thread now (now.withStore store) ∧ pre (now.withStore store))
  (passes : hosting -> forall before after, rules.Valid before ->
    rules.Passes thread before after -> pre before -> pre after)
include free stable acts passes

/-- A program of modest actions keeps an assertion that each of them keeps. -/
theorem Safe.plain {program : Program σ α} {framed : Moment σ γ -> Prop} {now : Moment σ γ}
    (plain : program.Plain typing making naming looking hosting)
    (frame : rules.Frame thread call framed) (valid : rules.Valid now) (holds : pre now)
    (held : framed now) :
    rules.Safe thread program (fun _ after => pre after ∧ framed after) now := by
  induction program generalizing now with
  | done answer =>
      intro later evolves
      exact ⟨stable.around evolves holds, frame.stable.around evolves held⟩
  | act action next inductionHypothesis =>
      intro later evolves answer store performed
      have valid := evolves.valid valid
      obtain ⟨allowed, holds⟩ := acts valid (stable.around evolves holds) plain.1 performed
      have held := frame.acts valid allowed (rules.quiet_none (rules.quiet_store _ _))
        (frame.stable.around evolves held)
      exact ⟨later.ghost, allowed,
        inductionHypothesis answer (plain.2 answer).1 allowed.valid holds held⟩
  | initialise cls next inductionHypothesis =>
      intro later evolves
      have valid := evolves.valid valid
      refine ⟨free _ _, fun after reason passed => inductionHypothesis reason (plain.2 reason).1
        (passed.onward.valid valid) ?_ ?_⟩
      · exact passes plain.1 later after valid passed (stable.around evolves holds)
      · exact frame.passes valid passed (frame.stable.around evolves held)
  | escalate code cls next inductionHypothesis =>
      intro later evolves
      have valid := evolves.valid valid
      refine ⟨free _ _, fun after outcome passed => inductionHypothesis outcome (plain.2 outcome).1
        (passed.onward.valid valid) ?_ ?_⟩
      · exact passes plain.1 later after valid passed (stable.around evolves holds)
      · exact frame.passes valid passed (frame.stable.around evolves held)
  | panic _ => exact fun _ _ => free _ _
  | host _ _ _ | fork _ _ _ | join _ _ _ => exact plain.elim

/-- A request of modest actions ends where it started, if each of them keeps the assertion. -/
theorem Meets.plain {request : Request σ α}
    (plain : request.Plain typing making naming looking hosting) :
    rules.Meets thread call pre request (fun _ => pre) fun _ => pre := by
  intro framed frame now valid holds held
  apply (Safe.plain free stable acts passes plain.actions frame valid holds held).weaken valid
  rintro (fault | answer) after - - ended
  · exact ended
  · exact ended

end Assertion

end Plain

/-! ## Host code -/

variable {σ γ α : Type} {rules : Discipline (Clients σ) γ} {thread : ThreadId}
  {needs : ThreadId -> Nat -> Call -> Moment (Clients σ) γ -> Prop}
  {achieves : ThreadId -> Nat -> (call : Call) -> Except Fault call.Answer ->
    Moment (Clients σ) γ -> Prop}

/-- The moment after a call has begun. -/
abbrev beginning (now : Moment (Clients σ) γ) (call : Call) (ghost : γ) : Moment (Clients σ) γ :=
  ⟨now.store, { now.host with calls := now.host.calls ++ [{ call }] }, ghost⟩

/-- The moment after a call has ended. -/
abbrev finishing (now : Moment (Clients σ) γ) (number : Nat) (call : Call)
    (outcome : Except Fault call.Answer) : Moment (Clients σ) γ :=
  ⟨now.store, now.host.finish number call outcome, now.ghost⟩

/-- The numbered call is this one. -/
abbrev Asked (number : Nat) (call : Call) (now : Moment (Clients σ) γ) : Prop :=
  exists record, now.host.calls[number]? = some record ∧ record.call = call

section Asked

variable {number other : Nat} {call wanted : Call} {now after : Moment (Clients σ) γ}

/-- A call that begins takes no other one back. -/
theorem Asked.append (asked : Asked number call now) {begun : CallRecord}
    (calls : after.host.calls = now.host.calls ++ [begun]) : Asked number call after := by
  obtain ⟨record, found, same⟩ := asked
  refine ⟨record, ?_, same⟩
  rw [calls, List.getElem?_append_left (List.getElem?_eq_some_iff.mp found).1]
  exact found

/-- A call that ends stays what it is, and takes no other one back. -/
theorem Asked.finish {outcome : Except Fault call.Answer} (own : Asked number call now)
    (asked : Asked other wanted now)
    (calls : after.host = now.host.finish number call outcome) : Asked other wanted after := by
  obtain ⟨mine, place, rfl⟩ := own
  obtain ⟨record, found, rfl⟩ := asked
  rw [Asked, calls]
  by_cases same : number = other
  · subst same
    cases place.symm.trans found
    exact ⟨_, List.getElem?_set_self (List.getElem?_eq_some_iff.mp found).1, rfl⟩
  · exact ⟨record, (List.getElem?_set_ne same).trans found, rfl⟩

end Asked

/-- What host code does keeps to the rules: it works on its own state, begins a call that it may
make with what the request needs, and ends it with what the request achieves. Both may depend on the
thread and on the number of the call. In all this it leaves what host code has to leave. -/
structure Hosts (rules : Discipline (Clients σ) γ)
    (needs : ThreadId -> Nat -> Call -> Moment (Clients σ) γ -> Prop)
    (achieves : ThreadId -> Nat -> (call : Call) -> Except Fault call.Answer ->
      Moment (Clients σ) γ -> Prop) : Prop where
  work : forall thread {now} own, rules.Valid now ->
    rules.Allows thread now ⟨now.store, { now.host with own }, now.ghost⟩ ∧
      rules.Leaves thread now ⟨now.store, { now.host with own }, now.ghost⟩
  begin : forall thread {now} call, rules.Valid now -> now.host.mayCall now.store call = true ->
    exists ghost, rules.Allows thread now (beginning now call ghost) ∧
      needs thread now.host.calls.length call (beginning now call ghost) ∧
      forall last outcome, rules.Leaves thread (beginning now call ghost) last ->
        rules.Leaves thread now (finishing last now.host.calls.length call outcome)
  request : forall thread number call,
    rules.Meets thread none (needs thread number call) call.request
    (fun answer => achieves thread number call (.ok answer))
    fun fault => achieves thread number call (.error fault)
  /-- What a request does besides running host code leaves the same. -/
  leaves : forall {thread before after}, rules.Valid before -> rules.Allows thread before after ->
    rules.Quiet none before after -> rules.Leaves thread before after
  /-- No step of any thread takes a call back. -/
  asked : forall {mover before after}, rules.Allows mover before after ->
    forall number call, Asked number call before -> Asked number call after
  finish : forall {thread now number call outcome}, rules.Valid now -> Asked number call now ->
    achieves thread number call outcome now ->
      rules.Allows thread now (finishing now number call outcome)

namespace Hosts

/-- What a request finds as it was since a moment. -/
theorem frame_leaves (hosts : rules.Hosts needs achieves) (start : Moment (Clients σ) γ) :
    rules.Frame thread none (rules.Leaves thread start) where
  stable := fun _ _ _ different valid allowed leaves =>
    rules.leaves_trans leaves (rules.leaves_moves different valid allowed.moves)
  acts := fun valid allowed quiet leaves =>
    rules.leaves_trans leaves (hosts.leaves valid allowed quiet)
  passes := fun _ passes leaves => rules.leaves_trans leaves passes.leaves

/-- A call that host code makes keeps to the rules. -/
theorem safe_asking (hosts : rules.Hosts needs achieves) (free : rules.Free) {call : Call}
    {start now : Moment (Clients σ) γ} (valid : rules.Valid now)
    (leaves : rules.Leaves thread start now) :
    rules.Safe thread (Client.asking call)
      (fun _ after => rules.Leaves thread start after) now := by
  intro later evolves
  have valid := evolves.valid valid
  have leaves := rules.leaves_trans leaves evolves.leaves
  unfold Clients.begin
  by_cases may : later.host.mayCall later.store call = true
  · simp only [may, if_true]
    obtain ⟨ghost, allowed, needed, returns⟩ := hosts.begin thread call valid may
    refine ⟨free _ _, ghost, allowed, ?_⟩
    have frame : rules.Frame thread none fun now => Asked later.host.calls.length call now ∧
        rules.Leaves thread (beginning later call ghost) now :=
      .and (.of_moves fun _ allowed => hosts.asked allowed _ _) (hosts.frame_leaves _)
    have begun : (later.host.calls ++ [({ call } : CallRecord)])[later.host.calls.length]? =
        some { call } := by simp
    have served := hosts.request thread later.host.calls.length call _ frame _ allowed.valid
      needed ⟨⟨_, begun, rfl⟩, rules.leaves_refl _ _⟩
    refine served.bind allowed.valid fun outcome after valid ended last further => ?_
    obtain ⟨achieved, asked, left⟩ := ended last further
    have achieved : achieves thread later.host.calls.length call outcome last := by
      cases outcome with
      | ok answer => exact achieved
      | error fault => exact achieved
    exact ⟨free _ _, last.ghost, hosts.finish (further.valid valid) asked achieved,
      fun final further => rules.leaves_trans leaves
        (rules.leaves_trans (returns last outcome left) further.leaves)⟩
  · simp only [may]
    exact ⟨free _ _, later.ghost, ⟨valid, rules.moves_refl _ _⟩, fun _ _ => free _ _⟩

/-- Host code keeps to the rules. -/
theorem safe_program (hosts : rules.Hosts needs achieves) (free : rules.Free)
    (client : Client σ α) {start now : Moment (Clients σ) γ} (valid : rules.Valid now)
    (leaves : rules.Leaves thread start now) :
    rules.Safe thread client.program (fun _ after => rules.Leaves thread start after) now := by
  induction client generalizing now with
  | done answer => exact fun later evolves => rules.leaves_trans leaves evolves.leaves
  | work change next inductionHypothesis =>
      intro later evolves
      have leaves := rules.leaves_trans leaves evolves.leaves
      obtain ⟨allowed, left⟩ := hosts.work thread (change later.host.own later.store).2
        (evolves.valid valid)
      exact ⟨free _ _, later.ghost, allowed,
        inductionHypothesis _ allowed.valid (rules.leaves_trans leaves left)⟩
  | call asked next inductionHypothesis =>
      apply (hosts.safe_asking free valid leaves).bind valid
      intro answer after valid ended
      exact inductionHypothesis answer valid (ended after .refl)
  | fork code next inductionHypothesis =>
      exact fun later evolves => ⟨free _ _, fun started =>
        inductionHypothesis started (evolves.valid valid)
          (rules.leaves_trans leaves evolves.leaves)⟩
  | join awaited next inductionHypothesis =>
      exact fun later evolves => ⟨free _ _, fun message =>
        inductionHypothesis message (evolves.valid valid)
          (rules.leaves_trans leaves evolves.leaves)⟩
  | panic message => exact fun _ _ => free _ _

/-- Host code may be run by any thread. -/
theorem safe_client (hosts : rules.Hosts needs achieves) (free : rules.Free)
    (client : Client σ α) {post : α -> Moment (Clients σ) γ -> Prop}
    {now : Moment (Clients σ) γ} (valid : rules.Valid now)
    (ends : forall answer after, rules.Leaves thread now after -> post answer after) :
    rules.Safe thread client.program post now :=
  (hosts.safe_program free client valid (rules.leaves_refl _ _)).weaken valid
    fun answer after _ _ => ends answer after

/-- All host code is trusted. -/
theorem trusts (hosts : rules.Hosts needs achieves) (free : rules.Free) (code : ClientCode σ) :
    rules.Trusts code.host where
  initializer := fun _ initializer cls _ valid _ =>
    hosts.safe_client free (code.initializer initializer cls) valid
      fun _ _ leaves => ⟨free _ _, leaves⟩
  escalation := fun _ foreign cls _ valid _ =>
    hosts.safe_client free (code.escalation foreign cls) valid
      fun _ _ leaves => ⟨free _ _, leaves⟩
  body := fun _ body _ valid _ =>
    hosts.safe_client free (code.body body) valid fun _ _ leaves => ⟨free _ _, leaves⟩

/-- A machine before its first step keeps the rules if they hold of its store and host code. -/
theorem kept (hosts : rules.Hosts needs achieves) (free : rules.Free)
    {machine : Machine (Clients σ)} (opens : machine.Opens) {ghost : γ}
    (valid : rules.Valid ⟨machine.store, machine.host, ghost⟩) :
    rules.Kept machine ⟨machine.store, machine.host, ghost⟩ where
  store := rfl
  host := rfl
  valid := valid
  unborn := fun _ _ => free _ _
  running := by
    intro thread control frames found
    obtain ⟨client, same⟩ := opens.threads _ (Array.mem_of_getElem? found)
    cases same
    exact hosts.safe_client free client valid fun _ _ _ => ⟨free _ _, trivial⟩

end Hosts

end Discipline

end GuestTypes
