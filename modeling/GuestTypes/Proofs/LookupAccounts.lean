import GuestTypes.Proofs.IndexTable
import GuestTypes.Proofs.LookupCounters
import GuestTypes.Proofs.SinglePublication

/-!
# Accounts of lookups

Whatever initializers and escalations do, and whatever the order of the steps of the threads, every
call for the representation of a class makes its lookups in one of few courses, at each of which its
thread stands somewhere in the call (`Machine.Audited`). So the counters of a registry count calls:
those that have looked, those that have missed, and those that did not find the class after its
initialisation either. A call that finds the class bound changes nothing but the hits.
-/

namespace GuestTypes

variable {σ : Type} {thread other : ThreadId}

/-! ## What a step adds to the books -/

namespace Books

variable {books : Books} {machine next : Machine (Clients σ)}

/-- Nothing, if it is no lookup and begins and answers no call. -/
theorem after_stay (calls : books.calls = machine.host.calls)
    (same : next.host.calls = machine.host.calls)
    (none_ : machine.look? books.callers thread = none) :
    books.after thread machine next = books := by
  unfold after
  rw [same, ← calls, none_, Nat.sub_self]
  simp

/-- A lookup. -/
theorem after_note (calls : books.calls = machine.host.calls)
    (same : next.host.calls = machine.host.calls) {look : Look}
    (made : machine.look? books.callers thread = some look) :
    books.after thread machine next = books.note look := by
  unfold after note
  rw [same, ← calls, made, Nat.sub_self]
  simp

/-- A call that begins. -/
theorem after_begin (calls : books.calls = machine.host.calls) {call : Call}
    (begun : next.host.calls = machine.host.calls ++ [({ call } : CallRecord)])
    (none_ : machine.look? books.callers thread = none) :
    books.after thread machine next = books.begin thread call := by
  unfold after Books.begin
  rw [begun, ← calls, none_, List.length_append, Nat.add_sub_cancel_left]
  simp

/-- A call that is answered. -/
theorem after_finish (calls : books.calls = machine.host.calls) {number : Nat} {call : Call}
    {outcome : Except Fault call.Answer}
    (ended : next.host.calls = machine.host.calls.set number { call, answer := some outcome })
    (none_ : machine.look? books.callers thread = none) :
    books.after thread machine next = books.finish number call outcome := by
  unfold after Books.finish
  rw [ended, ← calls, none_, List.length_set, Nat.sub_self]
  simp

end Books

namespace Machine

/-! ## Threads -/

/-- The programs that wait for a thread's initializers go on in the calls that the thread stands in,
the innermost of which is busy. -/
def Resumes (thread : ThreadId) : List (Frame (Clients σ)) -> List Standing -> Store -> Prop
  | [], stack, _ => Standing.Busy stack
  | frame :: outer, stack, now => Standing.Busy stack ∧ forall reason,
      (frame.resume reason).Accountable thread stack
        (fun _ turned later => Resumes thread outer turned later)
        (now.settle frame.cls (.settled reason))

/-- A call in which an initializer was entered is busy. -/
theorem Resumes.busy {frames : List (Frame (Clients σ))} {stack : List Standing} {now : Store}
    (resumes : Resumes thread frames stack now) : Standing.Busy stack := by
  cases frames with
  | nil => exact resumes
  | cons frame outer => exact resumes.1

/-- What is left to a thread keeps to the courses of the calls that it stands in. -/
structure Answers (books : Books) (thread : ThreadId)
    (control : Program (Clients σ) (Except Fault Unit)) (frames : List (Frame (Clients σ)))
    (stack : List Standing) (store : Store) : Prop where
  stands : books.Stands thread stack
  accountable : control.Accountable thread stack
    (fun _ turned later => Resumes thread frames turned later) store

/-- The books of a machine are sound, and every thread answers for the calls that it stands in. -/
structure Audited (machine : Machine (Clients σ)) (books : Books) : Prop where
  calls : books.calls = machine.host.calls
  sound : books.Sound
  callers : forall caller, caller ∈ books.callers -> caller.index < machine.threads.size
  threads : forall thread control frames,
    machine.threads[thread.index]? = some (.running control frames) ->
      exists stack, Answers books thread control frames stack machine.store

namespace Audited

variable {code : ClientCode σ} {machine next : Machine (Clients σ)} {books after : Books}
  {stack : List Standing}

/-- A thread took a step that disturbs no other one. -/
theorem moved (audited : machine.Audited books) {moved : Thread (Clients σ)} {store : Store}
    {host : Clients σ} (present : thread.index < machine.threads.size)
    (calls : after.calls = host.calls) (turns : Books.Turns thread books after stack)
    (others : forall other, other ≠ thread -> machine.store.Leaves other store)
    (own : forall control frames, moved = .running control frames ->
      control.Accountable thread stack
        (fun _ turned later => Resumes thread frames turned later) store) :
    Audited ({ machine with store, host }.setThread thread moved) after where
  calls := calls
  sound := turns.sound
  callers := by
    intro caller member
    show _ < (machine.threads.setIfInBounds thread.index moved).size
    rw [Array.size_setIfInBounds]
    rcases turns.callers caller member with before | rfl
    · exact audited.callers caller before
    · exact present
  threads := by
    intro other control frames found
    by_cases same : other = thread
    · subst same
      have changed : ({ machine with store, host }.setThread other moved).threads[other.index]? =
          some moved := thread_self moved present
      exact ⟨stack, turns.stands,
        own control frames (Option.some.inj (changed.symm.trans found))⟩
    · have stayed : ({ machine with store, host }.setThread thread moved).threads[other.index]? =
          machine.threads[other.index]? := thread_other moved same
      obtain ⟨kept, answers⟩ := audited.threads other control frames (stayed.symm.trans found)
      exact ⟨kept, turns.others other same kept answers.stands,
        answers.accountable.around (others other same)⟩

/-- A step that is no lookup, and begins and answers no call, adds nothing to the books. -/
theorem stayed (audited : machine.Audited books) {moved : Thread (Clients σ)} {store : Store}
    {host : Clients σ} (present : thread.index < machine.threads.size)
    (stands : books.Stands thread stack) (unseen : machine.look? books.callers thread = none)
    (same : host.calls = machine.host.calls)
    (others : forall other, other ≠ thread -> machine.store.Leaves other store)
    (own : forall control frames, moved = .running control frames ->
      control.Accountable thread stack
        (fun _ turned later => Resumes thread frames turned later) store) :
    exists after, books.after thread machine
      ({ machine with store, host }.setThread thread moved) = after ∧
        Audited ({ machine with store, host }.setThread thread moved) after :=
  ⟨_, Books.after_stay audited.calls same unseen,
    audited.moved present (audited.calls.trans same.symm) (.stay audited.sound stands) others own⟩

/-- A thread goes on with a step that adds nothing to the books. -/
theorem goesOn (audited : machine.Audited books)
    {control : Program (Clients σ) (Except Fault Unit)} {frames : List (Frame (Clients σ))}
    {store : Store} {host : Clients σ} (present : thread.index < machine.threads.size)
    (stands : books.Stands thread stack) (unseen : machine.look? books.callers thread = none)
    (same : host.calls = machine.host.calls)
    (others : forall other, other ≠ thread -> machine.store.Leaves other store)
    (accountable : control.Accountable thread stack
      (fun _ turned later => Resumes thread frames turned later) store) :
    exists after, books.after thread machine
      ({ machine with store, host }.setThread thread (.running control frames)) = after ∧
        Audited ({ machine with store, host }.setThread thread (.running control frames))
            after := by
  refine audited.stayed present stands unseen same others ?_
  rintro control frames ⟨⟩
  exact accountable

/-- A thread is started. It stands in no call. -/
theorem started (audited : machine.Audited books) (client : Client σ (Except Fault Unit)) :
    Audited (machine.start (ExceptT.mk client.program)).2 books where
  calls := audited.calls
  sound := audited.sound
  callers := by
    intro caller member
    simp only [start, Array.size_push]
    exact Nat.lt_succ_of_lt (audited.callers caller member)
  threads := by
    intro other control frames found
    simp only [start, Array.getElem?_push] at found
    split at found
    · rename_i new
      cases found
      have none_ : books.pending other = [] := by
        refine List.eq_nil_iff_forall_not_mem.mpr fun number member => ?_
        have caller := (mem_pending.mp member).1
        have before := audited.callers other (List.mem_of_getElem? caller)
        exact absurd (new ▸ before) (Nat.lt_irrefl _)
      refine ⟨[], ⟨by rw [none_]; rfl, fun _ member => absurd member List.not_mem_nil⟩, ?_⟩
      apply (client.accountable_program Standing.busy_nil).weaken
      rintro _ turned _ ⟨rfl, -⟩
      exact Standing.busy_nil
    · exact audited.threads other control frames found

/-- One step of a thread goes down in the books, and leaves the threads answering for their
calls. -/
theorem step (audited : machine.Audited books) (reachable : machine.Reachable code)
    (stepped : machine.step code.host thread = some next) :
    next.Audited (books.after thread machine next) := by
  suffices audits : exists after, books.after thread machine next = after ∧ next.Audited after by
    obtain ⟨after, rfl, audits⟩ := audits
    exact audits
  have others := fun other (different : other ≠ thread) => reachable.leaves_step stepped different
  obtain ⟨control, frames, running, turn⟩ := step_eq_some_iff.mp stepped
  have present : thread.index < machine.threads.size := (Array.getElem?_eq_some_iff.mp running).1
  obtain ⟨stack, stands, accountable⟩ := audited.threads thread control frames running
  have unseen : control.isForeign = true -> machine.look? books.callers thread = none :=
    look?_foreign running
  cases turn with
  | ended outcome => exact audited.stayed present stands (unseen rfl) rfl others (by rintro _ _ ⟨⟩)
  | resumed outcome frame outer =>
      have resumes := accountable machine.store (.refl _ _)
      exact audited.goesOn present stands (unseen rfl) rfl others (resumes.2 _)
  | @acted _ action rest frames answer store performed =>
      obtain ⟨turned, charges, goesOn⟩ := accountable machine.store (.refl _ _) reachable.peopled
      have own := goesOn answer store performed
      unfold Action.Charges at charges
      cases seen : action.look? with
      | none =>
          rw [seen] at charges
          obtain ⟨rfl, -⟩ := charges
          have none_ : machine.look? books.callers thread = none := by
            rw [look?_act running, seen, Option.map_none]
          exact audited.goesOn present stands none_ rfl others own
      | some look =>
          obtain ⟨registry, cls, again⟩ := look
          rw [seen] at charges
          obtain ⟨top, outer, course, rfl, rfl, looked, names, advances, -⟩ := charges
          have made : machine.look? books.callers thread =
              some ⟨some top.number, registry, cls, again,
                  (machine.bound registry cls).isSome⟩ := by
            rw [look?_act running, seen, Option.map_some, ← audited.calls]
            exact congrArg (fun number => some (Look.mk number _ _ _ _)) stands.getLast_pending
          have turns := Books.Turns.note audited.sound stands rfl names
            (Standing.looks_next looked advances)
          refine ⟨_, Books.after_note audited.calls rfl made,
            audited.moved present audited.calls turns others ?_⟩
          rintro control frames ⟨⟩
          exact own
  | worked work rest frames =>
      obtain ⟨turned, charges, goesOn⟩ :=
        accountable machine.store machine.host (.refl _ _) reachable.names
      have own : forall control inner,
          Thread.running (rest (work machine.host machine.store).1) frames =
            .running control inner -> control.Accountable thread turned
            (fun _ turned later => Resumes thread inner turned later) machine.store := by
        rintro control inner ⟨⟩
        exact goesOn
      cases charges with
      | work same busy =>
          exact audited.stayed present stands (unseen rfl) same others own
      | begin call begun busy =>
          have turns := Books.Turns.begin audited.sound stands call
          have calls := (congrArg (· ++ [({ call } : CallRecord)]) audited.calls).trans begun.symm
          rw [audited.calls] at turns
          exact ⟨_, Books.after_begin audited.calls begun (unseen rfl),
            audited.moved present calls turns others own⟩
      | finish outcome ended looked =>
          have turns := Books.Turns.finish audited.sound stands looked outcome
          have calls := (congrArg (List.set · _ _) audited.calls).trans ended.symm
          exact ⟨_, Books.after_finish audited.calls ended (unseen rfl),
            audited.moved present calls turns others own⟩
  | settled none_ =>
      exact audited.goesOn present stands (unseen rfl) rfl others
        (accountable.2 machine.store none machine.store (.refl _ _) (.refl _ _))
  | @entered cls rest _ initializer has =>
      obtain ⟨busy, goesOn⟩ := accountable
      refine audited.goesOn present stands (unseen rfl) rfl others ?_
      apply ((code.initializer initializer cls).accountable_program busy).weaken
      rintro _ turned after ⟨rfl, leaves⟩
      exact ⟨busy, fun reason => goesOn machine.store reason after (.refl _ _) leaves⟩
  | escalated foreign cls rest frames =>
      obtain ⟨busy, goesOn⟩ := accountable
      refine audited.goesOn present stands (unseen rfl) rfl others ?_
      apply Program.Accountable.bind
      apply ((code.escalation foreign cls).accountable_program busy).weaken
      rintro outcome turned after ⟨rfl, leaves⟩
      exact goesOn outcome after leaves
  | forked body rest frames =>
      obtain ⟨busy, goesOn⟩ := accountable
      refine ⟨_, Books.after_stay audited.calls rfl (unseen rfl),
        (audited.started (code.body body)).moved ?_ audited.calls (.stay audited.sound stands)
          others ?_⟩
      · simp only [start, Array.size_push]
        exact Nat.lt_succ_of_lt present
      · rintro control frames ⟨⟩
        exact goesOn _ machine.store (.refl _ _)
  | joined message heard =>
      exact audited.goesOn present stands (unseen rfl) rfl others
        (accountable.2 message machine.store (.refl _ _))
  | panicked message frames =>
      exact audited.stayed present stands (unseen rfl) rfl others (by rintro _ _ ⟨⟩)

end Audited

/-! ## Calls that have not missed -/

/-- A step of a thread changes nothing in the store but the hits of a registry, if it is a lookup,
and who holds the guard, and it runs no host code in the middle of a call. -/
structure Spares (machine next : Machine (Clients σ)) (thread : ThreadId) (registry : RegistryId)
    (looks : Bool) : Prop where
  store : if looks then next.store = machine.store.hit thread registry
    else next.store = machine.store ∨ next.store = machine.store.relieved thread registry
  /-- No call begins. -/
  calls : next.host.calls.length = machine.host.calls.length
  /-- The thread enters no initializer and no escalation, and leaves none. -/
  inside : exists control rest frames,
    machine.threads[thread.index]? = some (.running control frames) ∧
      (forall cls next, control ≠ .initialise cls next) ∧
      (forall foreign cls next, control ≠ .escalate foreign cls next) ∧
        next.threads[thread.index]? = some (.running rest frames)

section Spared

variable {code : ClientCode σ} {machine next : Machine (Clients σ)} {books : Books}
  {registry : RegistryId} {number : Nat} {record : CallRecord}

/-- An action in a call that has not missed looks at the store, gives back the guard of the
registry, or is the first lookup of the call, which counts a hit if it finds the class. -/
theorem Action.spares {β : Type} {action : Action β} {answer : β} {before after : Store}
    {top : Standing} {outer turned : List Standing} (looked : top.call.lookedIn? = some registry)
    (fresh : top.course.hasMissed ≠ true)
    (charges : action.Charges thread before (top :: outer) turned)
    (performed : action.perform thread before = some (answer, after)) :
    action.look? = none ∧ (after = before ∨ after = before.relieved thread registry) ∨
      exists cls, action.look? = some (registry, cls, false) ∧
        (((before.registry registry).lookup cls).isSome = true ->
          after = before.hit thread registry) := by
  have idle : ¬ Standing.Busy (top :: outer) := fun busy =>
    fresh (busy top rfl (by rw [looked]; rfl))
  cases action with
  | observe view =>
      cases performed
      exact .inl ⟨rfl, .inl rfl⟩
  | release id =>
      cases performed
      cases looked.symm.trans (charges.2.resolve_right idle top rfl)
      exact .inl ⟨rfl, .inr rfl⟩
  | registry id step =>
      obtain ⟨-, rfl⟩ := perform_registry performed
      cases step with
      | firstLookup cls =>
          obtain ⟨_, _, course, ⟨⟩, rfl, own, -⟩ := charges
          cases looked.symm.trans own
          exact .inr ⟨cls, rfl, Store.accessed_firstLookup⟩
      | secondLookup cls =>
          obtain ⟨_, _, course, ⟨⟩, rfl, -, -, advances, -⟩ := charges
          exact absurd (Course.hasMissed_of_next advances) fresh
      | _ => exact absurd (charges.2.resolve_left not_false) idle
  | _ => exact absurd (charges.2.resolve_left not_false) idle

/-- A call that has not missed yet is spared all but the lookup. -/
theorem Audited.spares (audited : machine.Audited books) (reachable : machine.Reachable code)
    (stepped : machine.step code.host thread = some next)
    (innermost : (books.pending thread).getLast? = some number)
    (asked : machine.host.calls[number]? = some record)
    (looked : record.call.lookedIn? = some registry)
    (unmissed : forall look, look ∈ (books.after thread machine next).looksOf number ->
      look.found = true) :
    machine.Spares next thread registry (machine.look? books.callers thread).isSome := by
  obtain ⟨control, frames, running, turn⟩ := step_eq_some_iff.mp stepped
  have present : thread.index < machine.threads.size := (Array.getElem?_eq_some_iff.mp running).1
  obtain ⟨stack, stands, accountable⟩ := audited.threads thread control frames running
  obtain ⟨top, outer, rfl, rfl⟩ := stands.innermost innermost
  obtain ⟨begun, same⟩ := stands.entries top List.mem_cons_self
  rw [audited.calls, asked] at begun
  cases begun
  have found : forall look, look ∈ top.looks -> look.found = true := by
    intro look member
    rw [← same] at member
    refine unmissed look (List.mem_filter.mpr ?_)
    obtain ⟨member, owned⟩ := List.mem_filter.mp member
    exact ⟨List.mem_append_left _ member, owned⟩
  have fresh : top.course.hasMissed ≠ true := by
    intro missed
    obtain ⟨look, member, unfound⟩ : exists look, look ∈ top.course.looks top.number registry ∧
        look.found = false := Course.exists_unfound missed
    have listed : look ∈ top.looks := by
      rw [Standing.looks, looked]
      exact member
    cases unfound.symm.trans (found look listed)
  have idle : ¬ Standing.Busy (top :: outer) := fun busy =>
    fresh (busy top rfl (by rw [looked]; rfl))
  have unseen : control.isForeign = true -> machine.look? books.callers thread = none :=
    look?_foreign running
  cases turn with
  | @acted _ action rest frames answer store performed =>
      obtain ⟨turned, charges, -⟩ := accountable machine.store (.refl _ _) reachable.peopled
      have goesOn : ({ machine with store }.setThread thread
          (.running (rest answer) frames)).threads[thread.index]? =
            some (.running (rest answer) frames) := thread_self _ present
      rcases Action.spares looked fresh charges performed with ⟨seen, kept⟩ | ⟨cls, seen, hits⟩
      · rw [look?_act running, seen]
        exact ⟨kept, rfl, _, _, frames, running, by rintro _ _ ⟨⟩, by rintro _ _ _ ⟨⟩, goesOn⟩
      · have made : machine.look? books.callers thread =
            some ⟨some top.number, registry, cls, false, (machine.bound registry cls).isSome⟩ := by
          rw [look?_act running, seen, Option.map_some, ← audited.calls]
          exact congrArg (fun number => some (Look.mk number _ _ _ _)) innermost
        have entered : _ ∈ books.looks ++ (machine.look? books.callers thread).toList :=
          List.mem_append_right _ (by rw [made]; exact List.mem_cons_self)
        have bound := unmissed _ (List.mem_filter.mpr ⟨entered, beq_self_eq_true _⟩)
        rw [made]
        exact ⟨hits bound, rfl, _, _, frames, running, by rintro _ _ ⟨⟩, by rintro _ _ _ ⟨⟩, goesOn⟩
  | worked work rest frames =>
      obtain ⟨turned, charges, -⟩ :=
        accountable machine.store machine.host (.refl _ _) reachable.names
      rw [unseen rfl]
      cases charges with
      | work same busy => exact absurd busy idle
      | begin call begun busy => exact absurd busy idle
      | finish outcome ended hasLooked =>
          exact {
            store := .inl rfl
            calls := (congrArg List.length ended).trans List.length_set
            inside := ⟨_, _, frames, running, by rintro _ _ ⟨⟩, by rintro _ _ _ ⟨⟩,
              thread_self _ present⟩ }
  | ended _ | resumed _ _ _ => exact absurd (accountable machine.store (.refl _ _)).busy idle
  | settled _ | entered _ _ | escalated _ _ _ _ | forked _ _ _ | joined _ _ =>
      exact absurd accountable.1 idle
  | panicked _ _ => exact absurd accountable idle

end Spared

/-! ## Runs -/

section Runs

variable {code : ClientCode σ} {start machine : Machine (Clients σ)} {books : Books}

/-- Before the first step the books are empty. -/
theorem Opens.audited (opens : start.Opens) : start.Audited {} where
  calls := opens.calls.symm
  sound := {
    called := rfl
    owned := fun _ member => absurd member List.not_mem_nil
    courses := fun _ _ found => nomatch List.getElem?_nil.symm.trans found }
  callers := fun _ member => absurd member List.not_mem_nil
  threads := by
    intro thread control frames found
    obtain ⟨client, same⟩ := opens.threads _ (Array.mem_of_getElem? found)
    cases same
    have stands : Books.Stands {} thread [] := ⟨rfl, fun _ member => absurd member List.not_mem_nil⟩
    refine ⟨[], stands, (client.accountable_program Standing.busy_nil).weaken ?_⟩
    rintro _ turned _ ⟨rfl, -⟩
    exact Standing.busy_nil

/-- Before the first step, all counters are zero and there were no lookups. -/
theorem Opens.tallies (opens : start.Opens) : start.store.Tallies [] := by
  obtain ⟨files, same⟩ := opens.store
  rw [same]
  refine ⟨rfl, fun id => ?_⟩
  have blank : ({ files } : Store).registry id = {} := by simp [Store.registry, Table.get]
  rw [blank]
  exact ⟨rfl, rfl, rfl⟩

/-- Every run goes down in the books. -/
theorem audited_follow {schedule : List ThreadId} (reachable : start.Reachable code)
    (audited : start.Audited books) (tallies : start.store.Tallies books.looks)
    (followed : start.follow code.host schedule = some machine) :
    machine.Reachable code ∧ machine.Audited (start.books code.host schedule books) ∧
      machine.store.Tallies (start.books code.host schedule books).looks := by
  induction schedule generalizing start books with
  | nil =>
      cases followed
      exact ⟨reachable, audited, tallies⟩
  | cons thread schedule inductionHypothesis =>
      obtain ⟨next, stepped, followed⟩ := Option.bind_eq_some_iff.mp followed
      rw [Machine.books, stepped]
      exact inductionHypothesis (reachable.steps (.step .refl ⟨thread, stepped⟩))
        (audited.step reachable stepped) (tallies_step stepped tallies) followed

end Runs

/-! ## Accounts -/

/-- The counters of a registry are the numbers of the calls that have asked it. -/
structure Numbers (books : Books) (id : RegistryId) (registry : Registry) : Prop where
  /-- Hits and misses together are the calls that have looked. -/
  lookups : registry.hits + registry.misses = (books.callsWith (·.any (·.isFirst id))).length
  misses : registry.misses = (books.callsWith (·.any (·.isMiss id))).length
  /-- Escalations are the calls that found the class unbound both times. -/
  escalations : registry.escalations = (books.callsWith fun looks =>
    looks.any (·.isMiss id) && looks.any (·.isEscalation id)).length
  bounded : registry.escalations ≤ registry.misses

/-- What the books say of the calls that ask a registry for a class, and of its counters. -/
structure Accounts (code : ClientCode σ) (machine : Machine (Clients σ)) (books : Books)
    (registry : RegistryId) : Prop where
  calls : books.calls = machine.host.calls
  /-- Every lookup is made in a call, of the class that the call names if it names one. -/
  owned : forall look, look ∈ books.looks -> exists (number : Nat) (record : CallRecord),
    look.number = some number ∧ machine.host.calls[number]? = some record ∧
      forall named, named ∈ record.call.classes -> look.cls = named
  /-- A call looks first, and once again if it has missed. A call that has been answered has looked
  if it asked a registry for a class, and a call that asked for something else never looks. -/
  courses : forall (number : Nat) record, machine.host.calls[number]? = some record ->
    exists course, books.looksOf number = Standing.looks ⟨number, record.call, course⟩ ∧
      (record.answer.isSome -> Standing.HasLooked ⟨number, record.call, course⟩)
  /-- The calls that have looked in the registry asked it. -/
  asking : forall number, number ∈ books.callsWith (·.any (·.isFirst registry)) ->
    exists record, machine.host.calls[number]? = some record ∧
      record.call.lookedIn? = some registry
  /-- The counters wrap around, and are the numbers of these calls otherwise. -/
  lookups : (machine.store.registry registry).counts.hits +
    (machine.store.registry registry).counts.misses =
      .ofNat (books.callsWith (·.any (·.isFirst registry))).length
  misses : (machine.store.registry registry).counts.misses =
    .ofNat (books.callsWith (·.any (·.isMiss registry))).length
  escalations : (machine.store.registry registry).counts.escalations =
    .ofNat (books.callsWith fun looks =>
      looks.any (·.isMiss registry) && looks.any (·.isEscalation registry)).length
  /-- No counter wraps around before that many calls have been made. -/
  counters : machine.host.calls.length < UInt64.size ->
    Numbers books registry (machine.store.registry registry)
  /-- Who looks again may use the class and all superclasses. -/
  initialised : forall thread look, machine.look? books.callers thread = some look ->
    look.again = true -> machine.store.Concludes thread look.cls (.ok ())
  /-- A class that is bound is found by every later lookup. -/
  bound : forall rep later callers thread look, Steps code.host machine later ->
    later.look? callers thread = some look -> look.registry = registry ->
    machine.bound registry look.cls = some rep -> look.found = true
  /-- No step of a call that has always found the class changes anything but the hits. -/
  spared : forall thread next (number : Nat) record, machine.step code.host thread = some next ->
    (books.pending thread).getLast? = some number ->
    machine.host.calls[number]? = some record -> record.call.lookedIn? = some registry ->
    (forall look, look ∈ (books.after thread machine next).looksOf number -> look.found = true) ->
      machine.Spares next thread registry (machine.look? books.callers thread).isSome

/-- While the counters cannot have wrapped around, they are the numbers of calls. -/
theorem Numbers.of_counts {books : Books} {id : RegistryId} {registry : Registry}
    (few : books.calls.length < UInt64.size)
    (lookups : registry.counts.hits + registry.counts.misses =
      .ofNat (books.callsWith (·.any (·.isFirst id))).length)
    (misses : registry.counts.misses = .ofNat (books.callsWith (·.any (·.isMiss id))).length)
    (escalations : registry.counts.escalations = .ofNat (books.callsWith fun looks =>
      looks.any (·.isMiss id) && looks.any (·.isEscalation id)).length) :
    Numbers books id registry := by
  have missing := books.length_callsWith_isMiss id
  have escalating := books.length_callsWith_and (·.any (·.isMiss id)) (·.any (·.isEscalation id))
  have asked := Nat.lt_of_le_of_lt (books.length_callsWith (·.any (·.isFirst id))) few
  have missed : registry.misses = (books.callsWith (·.any (·.isMiss id))).length := by
    unfold Registry.misses
    rw [misses, UInt64.toNat_ofNat_of_lt' (Nat.lt_of_le_of_lt missing asked)]
  have escalated : registry.escalations = (books.callsWith fun looks =>
      looks.any (·.isMiss id) && looks.any (·.isEscalation id)).length := by
    unfold Registry.escalations
    rw [escalations,
      UInt64.toNat_ofNat_of_lt' (Nat.lt_of_le_of_lt (Nat.le_trans escalating missing) asked)]
  refine ⟨?_, missed, escalated, by rw [escalated, missed]; exact escalating⟩
  have sum := congrArg UInt64.toNat lookups
  rw [UInt64.toNat_add, UInt64.toNat_ofNat_of_lt' asked] at sum
  have bound := registry.counts.hits.toNat_lt
  change (registry.hits + registry.misses) % 2 ^ 64 = _ at sum
  change registry.hits < 2 ^ 64 at bound
  change _ < 2 ^ 64 at asked
  omega

section Accounts

variable {code : ClientCode σ} {start machine : Machine (Clients σ)} {books : Books}

/-- A lookup finds a class just if it is bound then. -/
theorem found_of_look? {callers : List ThreadId} {look : Look}
    (looks : machine.look? callers thread = some look) :
    look.found = (machine.bound look.registry look.cls).isSome := by
  unfold look? at looks
  split at looks
  · obtain ⟨_, -, rfl⟩ := Option.map_eq_some_iff.mp looks
    rfl
  · cases looks

/-- Who looks again does so after a successful initialisation. -/
theorem Audited.initialised (audited : machine.Audited books) (reachable : machine.Reachable code)
    {look : Look} (looks : machine.look? books.callers thread = some look)
    (again : look.again = true) : machine.store.Concludes thread look.cls (.ok ()) := by
  unfold look? at looks
  split at looks
  · rename_i action rest frames running
    obtain ⟨stack, -, accountable⟩ := audited.threads thread _ frames running
    obtain ⟨turned, charges, -⟩ := accountable machine.store (.refl _ _) reachable.peopled
    obtain ⟨⟨registry, cls, _⟩, seen, rfl⟩ := Option.map_eq_some_iff.mp looks
    unfold Action.Charges at charges
    rw [seen] at charges
    obtain ⟨_, _, _, -, -, -, -, -, concludes⟩ := charges
    exact concludes again
  · cases looks

/-- The counters of every registry account for the calls that have asked it, in every run. -/
theorem lookups_accounted {schedule : List ThreadId} (opens : start.Opens)
    (followed : start.follow code.host schedule = some machine) (registry : RegistryId) :
    machine.Accounts code (start.books code.host schedule {}) registry := by
  obtain ⟨reachable, audited, tallies⟩ :=
    audited_follow ⟨start, opens, .refl⟩ opens.audited opens.tallies followed
  generalize start.books code.host schedule {} = books at *
  obtain ⟨lookups, misses, escalations⟩ := tallies.counters registry
  have sound := audited.sound
  rw [sound.countP_looks fun _ first => (Look.of_isFirst first).2] at lookups
  rw [sound.countP_looks fun _ miss => (Look.of_isMiss miss).2] at misses
  rw [sound.countP_looks fun _ escalation => (Look.of_isEscalation escalation).2,
    sound.callsWith_isEscalation] at escalations
  exact {
    calls := audited.calls
    owned := audited.calls ▸ sound.owned
    courses := audited.calls ▸ sound.courses
    asking := fun number looked => audited.calls ▸ sound.lookedIn looked
    lookups
    misses
    escalations
    counters := by
      intro few
      rw [← audited.calls] at few
      exact .of_counts few lookups misses escalations
    initialised := fun thread look => audited.initialised reachable
    bound := by
      rintro rep later callers thread look steps looks rfl bound
      rw [found_of_look? looks, reachable.bound_later steps bound]
      rfl
    spared := fun thread next number record => audited.spares reachable }

end Accounts

/-- Initializers ask for the class that they initialise, escalations find a type, and threads that
are started ask for the class that was declared first. -/
def reentering : ClientCode Unit where
  initializer _ cls := .call (.resolve ⟨0⟩ cls) fun _ => .done (.ok ())
  escalation _ _ := .done (.ok (.canonical ⟨0⟩))
  body _ := .call (.resolve ⟨0⟩ firstDeclared) fun _ => .done (.ok ())

/-- Host code that asks for a class twice, the first time while another thread does. -/
def askingBeside : Client Unit (Except Fault Unit) :=
  .call (.makeRegistry (.foreign ⟨0⟩)) fun _ =>
    .call (.declare { name := "app.Base", initializer := some ⟨0⟩ }) fun _ =>
      .fork ⟨0⟩ fun _ => .call (.resolve ⟨0⟩ firstDeclared) fun _ =>
        .call (.resolve ⟨0⟩ firstDeclared) fun _ => .done (.ok ())

/-- Both threads miss, one of them initialises the class, and the other one goes on then. -/
def meeting : List ThreadId :=
  List.replicate 7 ⟨0⟩ ++ [⟨0⟩, ⟨1⟩, ⟨0⟩, ⟨1⟩, ⟨0⟩, ⟨1⟩] ++ List.replicate 23 ⟨1⟩ ++
    List.replicate 11 ⟨0⟩

/-- The two threads and the initializer miss, and only the initializer escalates. -/
theorem lookups_accounted_askingBeside : exists machine,
    (opening askingBeside ()).follow reentering.host meeting = some machine ∧
      machine.Accounts reentering ((opening askingBeside ()).books reentering.host meeting {}) ⟨0⟩ ∧
        (machine.store.registry ⟨0⟩).hits = 1 ∧ (machine.store.registry ⟨0⟩).misses = 3 ∧
          (machine.store.registry ⟨0⟩).escalations = 1 := by
  have counters : ((opening askingBeside ()).follow reentering.host meeting).map
      (fun machine => ((machine.store.registry ⟨0⟩).hits, (machine.store.registry ⟨0⟩).misses,
        (machine.store.registry ⟨0⟩).escalations)) = some (1, 3, 1) := by decide +kernel
  obtain ⟨machine, followed, counters⟩ := Option.map_eq_some_iff.mp counters
  simp only [Prod.mk.injEq] at counters
  exact ⟨machine, followed,
    lookups_accounted (opens_opening askingBeside ()) followed ⟨0⟩, counters⟩

end Machine

end GuestTypes
