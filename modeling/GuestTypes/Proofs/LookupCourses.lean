import GuestTypes.Proofs.FinalFailure
import GuestTypes.Proofs.LookupBooks

/-!
# Every request keeps to its course of lookups

A thread makes the lookups that are counted in the innermost call that it stands in, if that call
asks a registry for a class: once at first, and once again if the class was not bound, when the
class has been initialised. Until the call has missed it does nothing else but look at the store and
give back the guard of the registry, and it runs no host code. A program is `Accountable` if it
keeps to this whatever the other threads do, and if it begins and answers the calls in which it does
so one inside the other.
-/

namespace GuestTypes

variable {σ α β : Type} {thread : ThreadId} {stack : List Standing} {number : Nat} {call : Call}

/-! ## Actions -/

namespace Action

/-- The lookup that the action is, if a registry counts it: in which registry, of which class, and
whether the class has been initialised for it. -/
def look? : Action β -> Option (RegistryId × ClassId × Bool)
  | .registry id (.firstLookup cls) => some (id, cls, false)
  | .registry id (.secondLookup cls) => some (id, cls, true)
  | _ => none

/-- A modest action that may not look a class up is no lookup. -/
theorem look?_eq_none {typing making naming : Prop} {action : Action β}
    (modest : action.Modest typing making naming False) : action.look? = none := by
  cases action with
  | registry id step => cases step <;> first | rfl | exact modest.elim
  | _ => rfl

end Action

/-- The innermost call of a thread, if there is one, is more than one lookup. -/
def Standing.Busy (stack : List Standing) : Prop :=
  forall top, stack.head? = some top -> top.IsBusy

/-- A thread that stands in no call is not busy. -/
theorem Standing.busy_nil : Standing.Busy [] := nofun

/-- The action looks at the store, or gives back the guard of the registry that the innermost call
of its thread looks in. -/
def Action.IsQuiet (action : Action β) (stack : List Standing) : Prop :=
  match action with
  | .observe _ => True
  | .release id => forall top, stack.head? = some top -> top.call.lookedIn? = some id
  | _ => False

/-- What an action makes of the calls that its thread stands in. A lookup takes the innermost call
further. If that is not busy, then nothing else is done but what is quiet. -/
def Action.Charges (thread : ThreadId) (store : Store) (action : Action β)
    (stack turned : List Standing) : Prop :=
  match action.look? with
  | none => turned = stack ∧ (action.IsQuiet stack ∨ Standing.Busy stack)
  | some (id, cls, again) => exists top outer course,
      stack = top :: outer ∧ turned = { top with course } :: outer ∧
        top.call.lookedIn? = some id ∧ (forall named, named ∈ top.call.classes -> cls = named) ∧
        top.course.next cls again ((store.registry id).lookup cls).isSome = some course ∧
        (again = true -> store.Concludes thread cls (.ok ()))

/-- Giving back the guard of the registry that a call looks in is quiet. -/
theorem Action.quiet_release {registry : RegistryId} {course : Course} {outer : List Standing}
    (looked : call.lookedIn? = some registry) :
    (Action.release registry).IsQuiet (⟨number, call, course⟩ :: outer) := by
  rintro top ⟨⟩
  exact looked

/-- An action that is no lookup charges a busy call with nothing. -/
theorem Action.charges_of_busy {typing making naming : Prop} {action : Action β} {store : Store}
    (modest : action.Modest typing making naming False) (busy : Standing.Busy stack) :
    action.Charges thread store stack stack := by
  unfold Charges
  rw [look?_eq_none modest]
  exact ⟨rfl, .inr busy⟩

/-- What host code makes of the calls that its thread stands in. It does its own work or begins a
call in a busy one, and answers a call that has looked if it has to. -/
inductive Clients.Charges (before after : Clients σ) : List Standing -> List Standing -> Prop where
  | work {stack : List Standing} (same : after.calls = before.calls)
      (busy : Standing.Busy stack) : Charges before after stack stack
  | begin {stack : List Standing} (call : Call)
      (begun : after.calls = before.calls ++ [({ call } : CallRecord)])
      (busy : Standing.Busy stack) :
      Charges before after stack (⟨before.calls.length, call, .unasked⟩ :: stack)
  | finish {top : Standing} {outer : List Standing} (outcome : Except Fault top.call.Answer)
      (ended : after.calls =
        before.calls.set top.number { call := top.call, answer := some outcome })
      (looked : top.HasLooked) : Charges before after (top :: outer) outer

/-! ## Accountable programs -/

/-- The program makes every lookup in its course, and its answer meets the postcondition with the
calls that the thread stands in then. -/
def Program.Accountable (thread : ThreadId) : Program (Clients σ) α -> List Standing ->
    (α -> List Standing -> Store -> Prop) -> Store -> Prop
  | .done answer, stack, post, now => forall later, now.Leaves thread later ->
      post answer stack later
  | .act action next, stack, post, now => forall later, now.Leaves thread later ->
      later.Peopled -> exists turned, action.Charges thread later stack turned ∧
        forall answer after, action.perform thread later = some (answer, after) ->
          Accountable thread (next answer) turned post after
  | .host work next, stack, post, now => forall later own, now.Leaves thread later ->
      own.Names later -> exists turned, own.Charges (work own later).2 stack turned ∧
        Accountable thread (next (work own later).1) turned post later
  | .initialise cls next, stack, post, now => Standing.Busy stack ∧
      forall later reason after, now.Leaves thread later -> later.Leaves thread after ->
        Accountable thread (next reason) stack post (after.settle cls (.settled reason))
  | .escalate _ _ next, stack, post, now => Standing.Busy stack ∧
      forall outcome later, now.Leaves thread later ->
        Accountable thread (next outcome) stack post later
  | .fork _ next, stack, post, now => Standing.Busy stack ∧
      forall started later, now.Leaves thread later ->
        Accountable thread (next started) stack post later
  | .join _ next, stack, post, now => Standing.Busy stack ∧
      forall message later, now.Leaves thread later ->
        Accountable thread (next message) stack post later
  | .panic _, stack, _, _ => Standing.Busy stack

namespace Program.Accountable

variable {program : Program (Clients σ) α} {post other : α -> List Standing -> Store -> Prop}
  {now later : Store}

/-- What other threads do meanwhile does not matter. -/
theorem around (accountable : program.Accountable thread stack post now)
    (leaves : now.Leaves thread later) : program.Accountable thread stack post later := by
  cases program with
  | done answer => exact fun last further => accountable last (leaves.trans further)
  | act action next => exact fun last further => accountable last (leaves.trans further)
  | host work next => exact fun last own further => accountable last own (leaves.trans further)
  | initialise cls next =>
      exact ⟨accountable.1, fun last reason after further =>
        accountable.2 last reason after (leaves.trans further)⟩
  | escalate _ _ next | fork _ next | join _ next =>
      exact ⟨accountable.1, fun answer last further =>
        accountable.2 answer last (leaves.trans further)⟩
  | panic message => exact accountable

/-- A program is followed by another one that goes on from its answer. -/
theorem bind {next : α -> Program (Clients σ) β} {post : β -> List Standing -> Store -> Prop}
    (first : program.Accountable thread stack
      (fun answer turned after => (next answer).Accountable thread turned post after) now) :
    (program.bind next).Accountable thread stack post now := by
  induction program generalizing now stack with
  | done answer => exact first now (.refl _ _)
  | act action after inductionHypothesis =>
      intro later leaves peopled
      obtain ⟨turned, charges, rest⟩ := first later leaves peopled
      exact ⟨turned, charges, fun answer store performed =>
        inductionHypothesis answer (rest answer store performed)⟩
  | host work after inductionHypothesis =>
      intro later own leaves names
      obtain ⟨turned, charges, rest⟩ := first later own leaves names
      exact ⟨turned, charges, inductionHypothesis _ rest⟩
  | initialise cls after inductionHypothesis =>
      exact ⟨first.1, fun later reason store leaves left =>
        inductionHypothesis reason (first.2 later reason store leaves left)⟩
  | escalate _ _ after inductionHypothesis | fork _ after inductionHypothesis
  | join _ after inductionHypothesis =>
      exact ⟨first.1, fun answer later leaves =>
        inductionHypothesis answer (first.2 answer later leaves)⟩
  | panic message => exact first

/-- More may be promised than is needed. -/
theorem weaken (accountable : program.Accountable thread stack post now)
    (implies : forall answer turned after, post answer turned after -> other answer turned after) :
    program.Accountable thread stack other now := by
  induction program generalizing now stack with
  | done answer => exact fun later leaves => implies answer stack later (accountable later leaves)
  | act action next inductionHypothesis =>
      intro later leaves peopled
      obtain ⟨turned, charges, rest⟩ := accountable later leaves peopled
      exact ⟨turned, charges, fun answer store performed =>
        inductionHypothesis answer (rest answer store performed)⟩
  | host work next inductionHypothesis =>
      intro later own leaves names
      obtain ⟨turned, charges, rest⟩ := accountable later own leaves names
      exact ⟨turned, charges, inductionHypothesis _ rest⟩
  | initialise cls next inductionHypothesis =>
      exact ⟨accountable.1, fun later reason store leaves left =>
        inductionHypothesis reason (accountable.2 later reason store leaves left)⟩
  | escalate _ _ next inductionHypothesis | fork _ next inductionHypothesis
  | join _ next inductionHypothesis =>
      exact ⟨accountable.1, fun answer later leaves =>
        inductionHypothesis answer (accountable.2 answer later leaves)⟩
  | panic message => exact accountable

/-- An orderly program without lookups that are counted is accountable in a busy call. -/
theorem of_orderly {post : α -> Store -> Prop} (orderly : program.Orderly thread [] post now)
    (plain : program.Plain True True True False True) (busy : Standing.Busy stack) :
    program.Accountable thread stack (fun answer turned after => turned = stack ∧ post answer after)
      now := by
  induction program generalizing now with
  | done answer => exact fun later leaves => ⟨rfl, orderly later leaves⟩
  | act action next inductionHypothesis =>
      exact fun later leaves peopled => ⟨stack, Action.charges_of_busy plain.1 busy,
        fun answer after performed => inductionHypothesis answer
          (orderly later leaves peopled answer after performed) (plain.2 answer).1⟩
  | host _ _ _ => exact plain.elim
  | initialise cls next inductionHypothesis =>
      exact ⟨busy, fun later reason after leaves left => inductionHypothesis reason
        ((orderly later leaves).2 reason after left) (plain.2 reason).1⟩
  | escalate code cls next inductionHypothesis =>
      exact ⟨busy, fun outcome later leaves => inductionHypothesis outcome
        (orderly outcome later leaves) (plain.2 outcome).1⟩
  | fork _ _ _ => exact plain.elim
  | join _ _ _ => exact plain.elim
  | panic _ => exact busy

end Program.Accountable

/-! ## Requests -/

/-- A request is followed by another one, or by nothing if it is refused. -/
def Request.Ensuing (thread : ThreadId) (rest : α -> Request (Clients σ) β)
    (post : Except Fault β -> List Standing -> Store -> Prop) :
    Except Fault α -> List Standing -> Store -> Prop
  | .ok answer, turned, after => (rest answer).run.Accountable thread turned post after
  | .error fault, turned, after => forall later, after.Leaves thread later ->
      post (.error fault) turned later

namespace Program.Accountable

variable {now : Store}

/-- A request is followed by another one, or by nothing if it is refused. -/
theorem andThen {request : Request (Clients σ) α} {rest : α -> Request (Clients σ) β}
    {post : Except Fault β -> List Standing -> Store -> Prop}
    (first : request.run.Accountable thread stack (Request.Ensuing thread rest post) now) :
    (request >>= rest).run.Accountable thread stack post now := by
  apply Program.Accountable.bind
  apply first.weaken
  intro outcome turned after follows
  cases outcome with
  | ok answer => exact follows
  | error fault => exact follows

/-- Looking at the store is accounted for if what is seen is wanted, and stays so. -/
theorem observe {view : Store -> α} {post : Except Fault α -> List Standing -> Store -> Prop}
    (sees : forall later, now.Leaves thread later -> later.Peopled ->
      forall last, later.Leaves thread last -> post (.ok (view later)) stack last) :
    (Request.observe view : Request (Clients σ) α).run.Accountable thread stack post now := by
  intro later leaves peopled
  refine ⟨stack, ⟨rfl, .inl trivial⟩, fun answer after performed => ?_⟩
  cases performed
  exact sees later leaves peopled

/-- A step of a registry, after which the guard is given back. -/
theorem registryStep {registry : RegistryId} {step : Registry.Step α}
    {post : Except Fault α -> List Standing -> Store -> Prop}
    (steps : forall later, now.Leaves thread later -> later.Peopled -> exists turned,
      (Action.registry registry step).Charges thread later stack turned ∧
        (Action.release registry).IsQuiet turned ∧ forall last, later.Leaves thread last ->
          post (.ok (step.perform (later.registry registry)).1) turned last) :
    (registry.step step : Request (Clients σ) α).run.Accountable thread stack post now := by
  apply andThen
  intro later first peopled
  obtain ⟨turned, charges, quiet, ends⟩ := steps later first peopled
  refine ⟨turned, charges, fun answer after performed last second => ?_⟩
  have answered := (perform_registry performed).1
  apply andThen
  intro held third _
  refine ⟨turned, ⟨rfl, .inl quiet⟩, fun _ relieved given next fourth final fifth => ?_⟩
  have leaves := (((Action.leaves performed thread).trans second).trans third).trans
    (Action.leaves given thread)
  rw [answered]
  exact ends final ((leaves.trans fourth).trans fifth)

/-- A request that is tidy and makes no lookup that is counted. -/
theorem tidy {request : Request (Clients σ) α} (tidy : request.Tidy thread [] now)
    (plain : request.Plain True True True False True) (busy : Standing.Busy stack) :
    request.run.Accountable thread stack
      (fun _ turned after => turned = stack ∧ now.Leaves thread after) now :=
  .of_orderly tidy plain.actions busy

end Program.Accountable

/-- When a call is over, its thread stands in it as before, and it has looked if it has to. -/
def Call.Over (thread : ThreadId) (number : Nat) (call : Call) (outer : List Standing)
    (start : Store) (turned : List Standing) (after : Store) : Prop :=
  start.Leaves thread after ∧ exists course, turned = ⟨number, call, course⟩ :: outer ∧
    Standing.HasLooked ⟨number, call, course⟩

section Requests

variable {now start : Store} {registry : RegistryId} {cls : ClassId} {value : Value}
  {outer : List Standing}

/-- A thread that stands in no call owns none. -/
theorem Store.owns_nil : now.Owns thread [] := nofun

/-- A call that has missed is busy. -/
theorem Standing.busy_missed :
    Standing.Busy (⟨number, call, .missed cls⟩ :: outer) ∧ forall found,
      Standing.Busy (⟨number, call, .twice cls found⟩ :: outer) := by
  refine ⟨fun top innermost => ?_, fun found top innermost => ?_⟩ <;>
    cases innermost <;> exact fun _ => rfl

/-- What is over stays so. -/
theorem Call.Over.around {turned : List Standing} {after later : Store}
    (ended : call.Over thread number outer start turned after)
    (leaves : after.Leaves thread later) :
    call.Over thread number outer start turned later :=
  ⟨ended.1.trans leaves, ended.2⟩

namespace RegistryId

/-- A registry that has found the class unbound, and goes on. -/
theorem accountable_resolveUnbound (looked : call.lookedIn? = some registry)
    (names : forall named, named ∈ call.classes -> cls = named)
    (leaves : start.Leaves thread now) (declared : now.hierarchy.Declared cls) :
    (registry.resolveUnbound cls : Request (Clients σ) Representation).run.Accountable thread
      (⟨number, call, .missed cls⟩ :: outer)
      (fun _ turned after => call.Over thread number outer start turned after) now := by
  have busy : Standing.Busy (⟨number, call, .missed cls⟩ :: outer) ∧ forall found,
      Standing.Busy (⟨number, call, .twice cls found⟩ :: outer) := Standing.busy_missed
  have ends : forall {course : Course} {after : Store}, course ≠ .unasked ->
      start.Leaves thread after ->
        call.Over thread number outer start (⟨number, call, course⟩ :: outer) after :=
    fun asked leaves => ⟨leaves, _, rfl, fun _ => asked⟩
  apply Program.Accountable.andThen
  apply (Program.Accountable.of_orderly
    (ClassId.orderly_ensureInitialised Store.owns_nil declared)
    ClassId.plain_ensureInitialised.actions busy.1).weaken
  rintro outcome turned after ⟨rfl, second, concludes⟩
  have leaves := leaves.trans second
  have declared := second.hierarchy.declared declared
  cases outcome with
  | error fault => exact fun last third => ends nofun (leaves.trans third)
  | ok done =>
      apply Program.Accountable.andThen
      apply Program.Accountable.registryStep
      intro later third _
      have advances : (Course.missed cls).next cls true
          ((later.registry registry).lookup cls).isSome = some (.twice cls _) := if_pos rfl
      refine ⟨_, ⟨_, outer, _, rfl, rfl, looked, names, advances, fun _ =>
        concludes.later declared third⟩, Action.quiet_release looked, fun last fourth => ?_⟩
      have leaves := (leaves.trans third).trans fourth
      have declared := (third.trans fourth).hierarchy.declared declared
      show Request.Ensuing thread _ _ (.ok ((later.registry registry).lookup cls)) _ last
      cases (later.registry registry).lookup cls with
      | some rep => exact fun last further => ends nofun (leaves.trans further)
      | none =>
          apply Program.Accountable.andThen
          apply (Program.Accountable.tidy (tidy_escalate Store.owns_nil declared)
            plain_escalate (busy.2 _)).weaken
          rintro outcome turned after ⟨rfl, fifth⟩
          have leaves := leaves.trans fifth
          cases outcome with
          | error fault => exact fun last sixth => ends nofun (leaves.trans sixth)
          | ok rep =>
              have plain : (registry.step (.publish cls rep) :
                  Request (Clients σ) Representation).Plain True True True False True :=
                plain_step trivial rfl
              apply (Program.Accountable.tidy tidy_step plain (busy.2 _)).weaken
              rintro outcome turned after ⟨rfl, sixth⟩
              exact ends nofun (leaves.trans sixth)

/-- A call that asks for the representation of a class. -/
theorem accountable_resolve (looked : call.lookedIn? = some registry)
    (names : forall named, named ∈ call.classes -> cls = named)
    (leaves : start.Leaves thread now) (declared : now.hierarchy.Declared cls) :
    (registry.resolve cls : Request (Clients σ) Representation).run.Accountable thread
      (⟨number, call, .unasked⟩ :: outer)
      (fun _ turned after => call.Over thread number outer start turned after) now := by
  rw [resolve_eq]
  apply Program.Accountable.andThen
  apply Program.Accountable.registryStep
  intro later first _
  refine ⟨_, ⟨_, outer, _, rfl, rfl, looked, names, rfl, nofun⟩, Action.quiet_release looked,
    fun last second => ?_⟩
  have leaves := (leaves.trans first).trans second
  have declared := (first.trans second).hierarchy.declared declared
  show Request.Ensuing thread _ _ (.ok ((later.registry registry).lookup cls)) _ last
  cases (later.registry registry).lookup cls with
  | some rep =>
      exact fun final further => ⟨leaves.trans further, _, rfl, fun _ => Course.noConfusion⟩
  | none => exact accountable_resolveUnbound looked names leaves declared

/-- A call that asks for the representation of the class of a value. Every value is of a class that
exists. -/
theorem accountable_resolveValue (looked : call.lookedIn? = some registry)
    (nameless : call.classes = []) (leaves : start.Leaves thread now) :
    (registry.resolveValue value : Request (Clients σ) Representation).run.Accountable thread
      (⟨number, call, .unasked⟩ :: outer)
      (fun _ turned after => call.Over thread number outer start turned after) now := by
  apply Program.Accountable.andThen
  apply Program.Accountable.observe
  intro seen first peopled later second
  exact accountable_resolve looked (by rw [nameless]; nofun) ((leaves.trans first).trans second)
    (second.hierarchy.declared (peopled value))

/-- The type of a value is read off its representation by looking at the store. -/
theorem accountable_typeOf (looked : call.lookedIn? = some registry)
    (nameless : call.classes = []) (leaves : start.Leaves thread now) :
    (registry.typeOf value : Request (Clients σ) TypeId).run.Accountable thread
      (⟨number, call, .unasked⟩ :: outer)
      (fun _ turned after => call.Over thread number outer start turned after) now := by
  apply Program.Accountable.andThen
  apply (accountable_resolveValue looked nameless leaves).weaken
  intro outcome turned after ended
  cases outcome with
  | error fault => exact fun later further => ended.around further
  | ok rep =>
      dsimp only [Request.Ensuing]
      unfold Representation.typeOf
      cases rep.fixedType with
      | some type => exact fun later further => ended.around further
      | none =>
          apply Program.Accountable.andThen
          apply Program.Accountable.observe
          intro seen first _ later second
          have ended := (ended.around first).around second
          dsimp only [Request.Ensuing]
          cases seen.heap.typeOf? value with
          | some type => exact fun last further => ended.around further
          | none =>
              apply Program.Accountable.andThen
              apply Program.Accountable.observe
              exact fun _ first _ _ second _ third =>
                ((ended.around first).around second).around third

end RegistryId

/-- A call that is for something else is busy. -/
theorem Standing.busy_of_lookedIn {standing : Standing} (looked : standing.call.lookedIn? = none) :
    Standing.Busy (standing :: outer) ∧ standing.HasLooked := by
  refine ⟨fun top innermost asks => ?_, fun asks => ?_⟩
  · cases innermost
    rw [looked] at asks
    cases asks
  · rw [looked] at asks
    cases asks

/-- Every call keeps to its course. -/
theorem Call.accountable_request
    (declared : forall cls, cls ∈ call.classes -> now.hierarchy.Declared cls) :
    (call.request : Request (Clients σ) call.Answer).run.Accountable thread
      (⟨number, call, .unasked⟩ :: outer)
      (fun _ turned after => call.Over thread number outer now turned after) now := by
  cases looked : call.lookedIn? with
  | none =>
      obtain ⟨busy, hasLooked⟩ : Standing.Busy (⟨number, call, .unasked⟩ :: outer) ∧
          Standing.HasLooked ⟨number, call, .unasked⟩ := Standing.busy_of_lookedIn looked
      have plain :
          (call.request : Request (Clients σ) call.Answer).Plain True True True False True :=
        (plain_request call).mono (fun _ => trivial) (fun _ => trivial) (fun _ => trivial)
          (by rw [looked]; nofun) fun _ => trivial
      apply (Program.Accountable.tidy (tidy_request Store.owns_nil declared) plain busy).weaken
      rintro outcome turned after ⟨rfl, leaves⟩
      exact ⟨leaves, .unasked, rfl, hasLooked⟩
  | some registry =>
      cases call with
      | resolve id cls =>
          cases looked
          exact RegistryId.accountable_resolve rfl
            (fun _ member => (List.mem_singleton.mp member).symm) (.refl _ _)
            (declared cls List.mem_cons_self)
      | resolveValue id value =>
          cases looked
          exact RegistryId.accountable_resolveValue rfl rfl (.refl _ _)
      | typeOf id value =>
          cases looked
          exact RegistryId.accountable_typeOf rfl rfl (.refl _ _)
      | _ => cases looked

end Requests

/-! ## Host code -/

section HostCode

variable {now : Store}

/-- A call that begins goes on from no lookup, and one that ends leaves the calls around it. -/
theorem Client.accountable_asking (busy : Standing.Busy stack) :
    (Client.asking call : Program (Clients σ) _).Accountable thread stack
      (fun _ turned after => turned = stack ∧ now.Leaves thread after) now := by
  intro later own first names
  by_cases may : own.mayCall later call = true
  · refine ⟨⟨own.calls.length, call, .unasked⟩ :: stack, .begin call ?_ busy, ?_⟩
    · show (own.begin call later).2.calls = _
      rw [Clients.begin, if_pos may]
    · apply Program.Accountable.bind
      intro begun second
      unfold Clients.begin
      simp only [if_pos may]
      have declared : forall cls, cls ∈ call.classes -> begun.hierarchy.Declared cls :=
        fun cls named => second.hierarchy.declared (names call may cls named)
      apply Program.Accountable.bind
      apply (Call.accountable_request declared).weaken
      rintro outcome turned after ⟨third, course, rfl, looked⟩ last clients fourth _
      exact ⟨stack, .finish outcome rfl looked, fun final fifth =>
        ⟨rfl, (((first.trans second).trans third).trans fourth).trans fifth⟩⟩
  · refine ⟨stack, .work ?_ busy, ?_⟩
    · show (own.begin call later).2.calls = _
      rw [Clients.begin, if_neg may]
    · apply Program.Accountable.bind
      intro begun second
      unfold Clients.begin
      simp only [if_neg may]
      exact busy

/-- Host code is accountable. -/
theorem Client.accountable_program (client : Client σ α) (busy : Standing.Busy stack) :
    client.program.Accountable thread stack
      (fun _ turned after => turned = stack ∧ now.Leaves thread after) now := by
  suffices since : forall start : Store, start.Leaves thread now ->
      client.program.Accountable thread stack
        (fun _ turned after => turned = stack ∧ start.Leaves thread after) now from
    since now (.refl _ _)
  intro start leaves
  induction client generalizing now with
  | done answer => exact fun later further => ⟨rfl, leaves.trans further⟩
  | work change next inductionHypothesis =>
      exact fun later own further _ => ⟨stack, .work rfl busy,
        inductionHypothesis _ (leaves.trans further)⟩
  | call asked next inductionHypothesis =>
      apply Program.Accountable.bind
      apply (accountable_asking busy).weaken
      rintro answer turned after ⟨rfl, further⟩
      exact inductionHypothesis answer (leaves.trans further)
  | fork code next inductionHypothesis =>
      exact ⟨busy, fun started later further =>
        inductionHypothesis started (leaves.trans further)⟩
  | join awaited next inductionHypothesis =>
      exact ⟨busy, fun message later further =>
        inductionHypothesis message (leaves.trans further)⟩
  | panic message => exact busy

end HostCode

end GuestTypes
