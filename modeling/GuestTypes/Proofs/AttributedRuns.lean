import GuestTypes.Proofs.AttributionRequests
import GuestTypes.Proofs.Trust

/-!
# What was asked for each type of a run

Host code keeps to the rules for what was asked for each type. So what these remember can be read
off every run: in which call a type was described (`Machine.described`), and for which factory and
over which given bases it was made (`Machine.origins`).
-/

namespace GuestTypes

open Discipline Attributing

variable {σ : Type} {thread : ThreadId} {number : Nat} {call : Call} {now : Ledger σ}

/-! ## What host code may name -/

namespace Store

variable {store : Store}

/-- A factory that host code knows was founded. -/
theorem founded_of_knowsFactory {factory : FactoryId} (known : store.knowsFactory factory = true) :
    factory.index < store.factories.size := by
  simp only [knowsFactory, Bool.and_eq_true, decide_eq_true_eq] at known
  exact known.1

/-- A registry that host code knows has somewhere to turn to. -/
theorem turns_of_knowsRegistry {registry : RegistryId}
    (known : store.knowsRegistry registry = true) : store.Turns registry := by
  simp only [knowsRegistry, Bool.and_eq_true, decide_eq_true_eq] at known
  obtain ⟨made, known⟩ := known
  refine ⟨made, fun factory turned => ?_⟩
  rw [turned] at known
  exact founded_of_knowsFactory known

end Store

/-! ## Host code -/

/-- A thread begins a call. The bases that it names were taken for such that exist. -/
def Attribution.begin (attribution : Attribution) (thread : ThreadId) (stand : Prop) :
    Attribution :=
  { attribution with
    callers := attribution.callers ++ [thread]
    genuine := attribution.genuine ∧ stand }

namespace Attributing

/-- The moment after a thread has begun a call. -/
def begun (now : Ledger σ) (thread : ThreadId) (call : Call) : Ledger σ :=
  beginning now call (now.ghost.begin thread
    (forall base, base ∈ call.bases -> now.store.types.Made base))

/-- The call of a thread that works on its innermost call is one that it began. -/
theorem Innermost.caller (innermost : Innermost thread number now) :
    now.ghost.callers[number]? = some thread :=
  (mem_pending.mp (List.mem_of_getLast? innermost)).1

/-- Host code works on its own state. -/
theorem Valid.work (valid : Valid now) (own : σ) :
    attributing.Allows thread now ⟨now.store, { now.host with own }, now.ghost⟩ := by
  have moves : Moves thread now ⟨now.store, { now.host with own }, now.ghost⟩ :=
    { Moves.refl thread now with }
  exact ⟨valid.remain moves rfl rfl rfl rfl rfl, moves⟩

/-- A call begins. -/
theorem Valid.begin (valid : Valid now) (thread : ThreadId) (call : Call) :
    attributing.Allows thread now (begun now thread call) := by
  have moves : Moves thread now (begun now thread call) := {
    sustains := .refl _
    described := .inl ⟨rfl, rfl⟩
    callers := .inr ⟨rfl, List.length_append⟩
    calls := fun _ _ asked => asked.append rfl
    others := fun _ inside _ => List.getElem?_append_left inside
    genuine := And.left
    forged := by
      intro genuine _ unforged
      have unforged : Clients.forges now.host now.store
          { now.host with calls := now.host.calls ++ [{ call }] } = false := unforged
      simp only [Clients.forges, List.drop_left, List.any_cons, List.any_nil, Bool.or_false,
        List.any_eq_false, decide_eq_true_eq] at unforged
      exact ⟨genuine, fun base listed => Nat.lt_of_not_le (unforged base listed)⟩ }
  refine ⟨valid.untyped moves rfl rfl rfl ?_ ?_, moves⟩
  · show (now.ghost.callers ++ [thread]).length = (now.host.calls ++ [_]).length
    rw [List.length_append, List.length_append, valid.called]
    rfl
  · intro number record type found made
    have found : (now.host.calls ++ [({ call } : CallRecord)])[number]? = some record := found
    rw [List.getElem?_append] at found
    split at found
    · exact valid.answered number record type found made
    · cases List.mem_singleton.mp (List.mem_of_getElem? found)
      cases call <;> cases made

/-- What a call needs that has begun. -/
theorem Valid.needs (valid : Valid now) (may : now.host.mayCall now.store call = true) :
    Needs thread now.host.calls.length call (begun now thread call) where
  innermost := by
    have last : pending (now.host.calls ++ [({ call } : CallRecord)])
        (now.ghost.callers ++ [thread]) thread = _ := pending_begin valid.called call
    show (pending _ _ _).getLast? = _
    exact (congrArg List.getLast? last).trans List.getLast?_concat
  asked := ⟨{ call }, List.getElem?_concat_length, rfl⟩
  stand := fun genuine => genuine.2
  founded := by
    intro factory names
    simp only [Clients.mayCall, Bool.and_eq_true, names, Option.all_some] at may
    exact Store.founded_of_knowsFactory may.1.2
  turns := by
    intro registry names
    simp only [Clients.mayCall, Bool.and_eq_true, names, Option.all_some] at may
    exact Store.turns_of_knowsRegistry may.2

/-- A call ends with what it achieves. -/
theorem Valid.finish (valid : Valid now) {outcome : Except Fault call.Answer}
    (asked : Asked number call now) (achieves : Achieves thread number call outcome now) :
    attributing.Allows thread now (finishing now number call outcome) := by
  have moves : Moves thread now (finishing now number call outcome) := {
    sustains := .refl _
    described := .inl ⟨rfl, rfl⟩
    callers := .inl ⟨rfl, List.length_set⟩
    calls := fun _ _ other => asked.finish other rfl
    others := by
      rintro other - different
      refine List.getElem?_set_ne ?_
      rintro rfl
      exact different achieves.innermost.caller
    genuine := id
    forged := fun genuine _ _ => genuine }
  refine ⟨valid.untyped moves rfl rfl rfl (valid.called.trans List.length_set.symm) ?_, moves⟩
  intro other record type found made
  have found : (now.host.calls.set number { call, answer := some outcome })[other]? =
    some record := found
  by_cases same : number = other
  · subst same
    obtain ⟨mine, place, -⟩ := asked
    rw [List.getElem?_set_self (List.getElem?_eq_some_iff.mp place).1] at found
    cases found
    exact achieves.credited type made
  · rw [List.getElem?_set_ne same] at found
    exact valid.answered other record type found made

/-- When a call has ended, the pending calls are those from before it began. -/
theorem Valid.pending_returns (valid : Valid now) {last : Ledger σ}
    {outcome : Except Fault call.Answer}
    (left : last.pending thread = (begun now thread call).pending thread) :
    (finishing last now.host.calls.length call outcome).pending thread = now.pending thread := by
  have finished : (finishing last now.host.calls.length call outcome).pending thread =
      (last.pending thread).filter (· ≠ now.host.calls.length) := pending_finish
  have began : (begun now thread call).pending thread =
      now.pending thread ++ [now.host.calls.length] := pending_begin valid.called call
  have older : forall number, number ∈ now.pending thread -> number ≠ now.host.calls.length := by
    intro number member
    obtain ⟨-, record, found, -⟩ := mem_pending.mp member
    exact Nat.ne_of_lt (List.getElem?_eq_some_iff.mp found).1
  rw [finished, left, began, List.filter_append, List.filter_eq_self.mpr]
  · simp
  · exact fun number member => decide_eq_true (older number member)

end Attributing

/-- Host code keeps to the rules. -/
theorem attributing_hosts : (attributing (σ := σ)).Hosts Needs Achieves where
  work := fun _ _ own valid => ⟨Valid.work valid own, rfl⟩
  begin := fun thread now call valid may =>
    ⟨_, Valid.begin valid thread call, Valid.needs valid may,
      fun _ _ left => Valid.pending_returns valid left⟩
  request := fun _ _ call => call.meets_attributing
  leaves := by
    rintro thread before after _ _ ⟨calls, callers⟩
    show pending _ _ _ = pending _ _ _
    rw [calls, callers]
  asked := fun allowed number call => allowed.moves.calls number call
  finish := fun valid asked achieves => Valid.finish valid asked achieves

/-! ## Runs -/

namespace Machine

/-- Some call that begins on the way names a base that does not exist. -/
def forges (code : HostCode (Clients σ)) : List ThreadId -> Machine (Clients σ) -> Bool
  | [], _ => false
  | thread :: schedule, machine => (machine.step code thread).elim false fun next =>
      machine.host.forges machine.store next.host || forges code schedule next

/-- For each type that is made on the way, the call that it is described in, by the threads that
began the calls. -/
def described (code : HostCode (Clients σ)) :
    List ThreadId -> List ThreadId -> Machine (Clients σ) -> List (Option Nat)
  | _, [], _ => []
  | callers, thread :: schedule, machine => (machine.step code thread).elim [] fun next =>
      List.replicate (next.store.types.types.size - machine.store.types.types.size)
          (serving machine.host.calls callers thread) ++
        described code
          (callers ++ List.replicate (next.host.calls.length - machine.host.calls.length) thread)
          schedule next

/-- For each type that is made on the way, what it is made for, by the threads that began the
calls. -/
def origins (code : HostCode (Clients σ)) :
    List ThreadId -> List ThreadId -> Machine (Clients σ) -> List (Option Origin)
  | _, [], _ => []
  | callers, thread :: schedule, machine => (machine.step code thread).elim [] fun next =>
      List.replicate (next.store.types.types.size - machine.store.types.types.size)
          (origin machine.store machine.host.calls callers thread) ++
        origins code
          (callers ++ List.replicate (next.host.calls.length - machine.host.calls.length) thread)
          schedule next

section Runs

variable {code : ClientCode σ} {start machine next : Machine (Clients σ)} {instant : Instant σ}

/-- A factory that is handed out has a root type. -/
theorem rooted (known : kernel.Kept machine instant) : machine.store.Rooted := by
  have valid : instant.world.Valid := known.valid
  rw [known.store]
  exact valid.rooted

/-- What a step adds is what is read off it. -/
theorem attributed_step (kept : attributing.Kept machine now)
    (stepped : machine.step code.host thread = some next) :
    exists after : Ledger σ, attributing.Kept next after ∧
      after.ghost.described = now.ghost.described ++
        List.replicate (next.store.types.types.size - machine.store.types.types.size)
          (serving machine.host.calls now.ghost.callers thread) ∧
      after.ghost.origins = now.ghost.origins ++
        List.replicate (next.store.types.types.size - machine.store.types.types.size)
          (origin machine.store machine.host.calls now.ghost.callers thread) ∧
      after.ghost.callers = now.ghost.callers ++
        List.replicate (next.host.calls.length - machine.host.calls.length) thread ∧
      (now.ghost.genuine -> machine.store.Rooted ->
        machine.host.forges machine.store next.host = false -> after.ghost.genuine) := by
  obtain ⟨after, allowed, reached⟩ :=
    kept.step (attributing_hosts.trusts attributing_free code) stepped
  have moves : Moves thread now after := allowed.moves
  have before : Valid now := kept.valid
  have valid : Valid after := reached.valid
  rw [kept.store, kept.host, reached.store, reached.host]
  refine ⟨after, reached, ?_, ?_, ?_, moves.forged⟩
  · rw [← before.every, ← valid.every]
    rcases moves.described with ⟨same, -⟩ | ⟨grown, -⟩
    · simp [same]
    · simp [grown, Moment.serving]
  · rw [← before.traced, ← valid.traced]
    rcases moves.described with ⟨-, same⟩ | ⟨-, grown⟩
    · simp [same]
    · simp [grown, Moment.origin]
  · rcases moves.callers with ⟨same, length⟩ | ⟨grown, length⟩
    · simp [same, length]
    · simp [grown, length]

/-- A moment that a run leads to: what the rules remember then is what is read off the run. -/
structure Recounts (code : ClientCode σ) (schedule : List ThreadId)
    (start machine : Machine (Clients σ)) (now after : Ledger σ) : Prop where
  kept : attributing.Kept machine after
  described : after.ghost.described = now.ghost.described ++
    described code.host now.ghost.callers schedule start
  genuine : now.ghost.genuine -> start.forges code.host schedule = false -> after.ghost.genuine
  origins : after.ghost.origins = now.ghost.origins ++
    origins code.host now.ghost.callers schedule start
  known : exists instant : Instant σ, kernel.Kept machine instant

/-- Every run leads to such a moment. -/
theorem attributed_follow {schedule : List ThreadId} (kept : attributing.Kept start now)
    (known : kernel.Kept start instant)
    (followed : start.follow code.host schedule = some machine) :
    exists after : Ledger σ, Recounts code schedule start machine now after := by
  induction schedule generalizing start now instant with
  | nil =>
      cases followed
      exact ⟨now, kept, (List.append_nil _).symm, fun genuine _ => genuine,
        (List.append_nil _).symm, instant, known⟩
  | cons thread schedule inductionHypothesis =>
      obtain ⟨next, stepped, followed⟩ := Option.bind_eq_some_iff.mp followed
      obtain ⟨middle, reached, described, origins, callers, genuine⟩ := attributed_step kept stepped
      obtain ⟨later, -, known_⟩ := known.step (trusts_host code) stepped
      obtain ⟨after, further⟩ := inductionHypothesis reached known_ followed
      refine ⟨after, further.kept, ?_, fun holds unforged => ?_, ?_, further.known⟩
      · rw [further.described, described, callers, List.append_assoc, Machine.described, stepped]
        rfl
      · rw [forges, stepped] at unforged
        obtain ⟨now, later⟩ := Bool.or_eq_false_iff.mp unforged
        exact further.genuine (genuine holds (rooted known) now) later
      · rw [further.origins, origins, callers, List.append_assoc, Machine.origins, stepped]
        rfl

/-- A machine before its first step keeps the rules. -/
theorem Opens.attributed (opens : start.Opens) :
    attributing.Kept start ⟨start.store, start.host, {}⟩ := by
  obtain ⟨files, store⟩ := opens.store
  have valid : Valid ⟨start.store, start.host, {}⟩ := {
    called := by rw [opens.calls]; rfl
    every := by rw [store]; rfl
    folded := by
      rintro - type made
      rw [store] at made
      cases made
    asked := nofun
    traced := by rw [store]; rfl
    based := nofun
    answered := by
      intro number record type found
      rw [opens.calls] at found
      cases found }
  exact attributing_hosts.kept attributing_free opens valid

end Runs

end Machine

end GuestTypes
