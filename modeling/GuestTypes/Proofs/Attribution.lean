import GuestTypes.Proofs.Ancestry
import GuestTypes.Proofs.Hosting
import GuestTypes.Proofs.Initialisation
import GuestTypes.Proofs.Requests

/-!
# What was asked for each type

A thread makes a type in the innermost of its calls that have not been answered. If that call
describes a type, this is the one; otherwise nobody has described it, and no flags were asked for
it. The rules here keep, for every type, which call that was (`Attribution.described`), and that the
type took the heritable kernel flags of its bases when it was made. They also keep for which factory
and over which given bases it was made (`Attribution.origins`), and that these are its bases, or
else the root type of the factory.

Flags are read from the bases a step before the type is made, so the rules hold of types over bases
that existed then (`Attribution.genuine`).
-/

namespace GuestTypes

open Discipline

variable {σ β : Type} {thread : ThreadId}

/-! ## Calls that describe types -/

/-- The kernel flags that a call asks for, if it describes a type. -/
def Call.kernel? : Call -> Option KernelFlags
  | .create _ wanted => some wanted.kernel
  | .defineClass _ _ _ _ _ => some .none
  | _ => none

/-- The types that a call names as bases. -/
def Call.bases : Call -> List TypeId
  | .create _ wanted => wanted.bases
  | .defineClass _ _ bases _ _ => bases
  | _ => []

/-- The type that was made as the call described it. -/
def CallRecord.made? : CallRecord -> Option TypeId
  | ⟨.create _ _, some (.ok type)⟩ => some type
  | ⟨.defineClass _ _ _ _ _, some (.ok type)⟩ => some type
  | _ => none

/-- What a type is made for: the factory, and the bases that were given. -/
structure Origin where
  factory : FactoryId
  given : List TypeId
  deriving DecidableEq, Repr

/-- The bases of a type: those that were given, or else the root type of the factory. -/
def Origin.bases (origin : Origin) (store : Store) : List TypeId :=
  if origin.given.isEmpty then [(store.factory origin.factory).objectType] else origin.given

/-- Every origin comes with a base. -/
theorem Origin.isEmpty_bases (origin : Origin) (store : Store) :
    (origin.bases store).isEmpty = false := by
  unfold bases
  split
  · rfl
  · rename_i given
    exact eq_false_of_ne_true given

/-- What a registry has types made for that turns there. No bases are given for them. -/
def Escalation.origin? : Escalation -> Option Origin
  | .factory maker => some ⟨maker, []⟩
  | .none | .foreign _ | .gone => Option.none

/-- What a call has types made for. -/
def Call.origin? (store : Store) : Call -> Option Origin
  | .create factory wanted => some ⟨factory, wanted.bases⟩
  | .defineClass factory _ bases _ _ => some ⟨factory, bases⟩
  | .findOrCreate factory _ => some ⟨factory, []⟩
  | .resolve registry _ | .resolveValue registry _ | .typeOf registry _ =>
      (store.registry registry).escalation.origin?
  | _ => none

/-- A call says for itself what it describes a type for. -/
theorem Call.origin?_of_describes {call : Call} (describes : call.kernel?.isSome)
    (before after : Store) : call.origin? after = call.origin? before := by
  cases call with
  | create _ _ | defineClass _ _ _ _ _ => rfl
  | _ => cases describes

/-- A call that names a factory has types made for that one alone, over the bases that it names. -/
theorem Call.origin?_of_factory {call : Call} {factory : FactoryId} {store : Store}
    {origin : Origin} (names : call.factory? = some factory)
    (found : call.origin? store = some origin) : origin = ⟨factory, call.bases⟩ := by
  cases call with
  | create _ _ | findOrCreate _ _ | defineClass _ _ _ _ _ =>
      cases names
      exact (Option.some.inj found).symm
  | find _ _ | makeRegistry _ => cases found
  | _ => cases names

/-- The kernel flags that the numbered call asks for. There are none without a call. -/
def kernelAsked (calls : List CallRecord) (number : Option Nat) : KernelFlags :=
  (number.bind fun number => calls[number]?.bind (·.call.kernel?)).getD .none

/-- The kernel flags that were asked for a type itself, by the calls that types were described
in. -/
def ownKernel (calls : List CallRecord) (described : List (Option Nat)) (type : TypeId) :
    KernelFlags :=
  kernelAsked calls (described[type.index]?).join

/-- Some call that began names a base that does not exist. -/
def Clients.forges (before : Clients σ) (store : Store) (after : Clients σ) : Bool :=
  (after.calls.drop before.calls.length).any fun record =>
    record.call.bases.any fun base => decide (store.types.types.size ≤ base.index)

section Grown

variable {α : Type} {list grown : List α} {last entry : α} {place : Nat}

/-- A list that grows by one at most keeps its entries. -/
theorem getElem?_of_grown (grows : grown = list ∨ grown = list ++ [last])
    (found : list[place]? = some entry) : grown[place]? = some entry := by
  rcases grows with rfl | rfl
  · exact found
  · rw [List.getElem?_append_left (List.getElem?_eq_some_iff.mp found).1]
    exact found

/-- An entry of a list that has grown by one was there, or is the new one. -/
theorem getElem?_concat_eq_some
    (found : (list ++ [last])[place]? = some entry) :
    list[place]? = some entry ∨ place = list.length ∧ last = entry := by
  rw [List.getElem?_append] at found
  split at found
  · exact .inl found
  · rename_i beyond
    obtain ⟨only, rfl⟩ := List.getElem?_eq_some_iff.mp found
    rw [List.length_singleton] at only
    exact .inr ⟨by omega, (List.getElem_singleton _).symm⟩

end Grown

/-! ## Calls in progress -/

section Pending

variable {calls : List CallRecord} {callers : List ThreadId} {number : Nat}

/-- The calls of a thread that have not been answered, by the threads that began the calls. -/
def pending (calls : List CallRecord) (callers : List ThreadId) (thread : ThreadId) : List Nat :=
  (List.range calls.length).filter fun number =>
    callers[number]? == some thread && calls[number]?.any (·.answer.isNone)

/-- The call that a type of a thread is described in: the innermost that has not been answered, if
it describes a type. -/
def serving (calls : List CallRecord) (callers : List ThreadId) (thread : ThreadId) : Option Nat :=
  (pending calls callers thread).getLast?.filter fun number =>
    (calls[number]?.bind (·.call.kernel?)).isSome

/-- What types of a thread are made for: what its innermost call that has not been answered has them
made for. -/
def origin (store : Store) (calls : List CallRecord) (callers : List ThreadId) (thread : ThreadId) :
    Option Origin :=
  (pending calls callers thread).getLast?.bind fun number =>
    calls[number]?.bind (·.call.origin? store)

/-- A call is pending for the thread that began it, until it is answered. -/
theorem mem_pending : number ∈ pending calls callers thread ↔
    callers[number]? = some thread ∧
      exists record, calls[number]? = some record ∧ record.answer = none := by
  simp only [pending, List.mem_filter, List.mem_range, Bool.and_eq_true, beq_iff_eq,
    Option.any_eq_true, Option.isNone_iff_eq_none]
  constructor
  · rintro ⟨-, caller, record, found, unanswered⟩
    exact ⟨caller, record, found, unanswered⟩
  · rintro ⟨caller, record, found, unanswered⟩
    exact ⟨(List.getElem?_eq_some_iff.mp found).1, caller, record, found, unanswered⟩

/-- A call that begins is pending. -/
theorem pending_begin (called : callers.length = calls.length) (call : Call) :
    pending (calls ++ [({ call } : CallRecord)]) (callers ++ [thread]) thread =
      pending calls callers thread ++ [calls.length] := by
  unfold pending
  rw [List.length_append, List.length_singleton, List.range_succ, List.filter_append]
  congr 1
  · refine List.filter_congr fun number listed => ?_
    have inside := List.mem_range.mp listed
    rw [List.getElem?_append_left inside, List.getElem?_append_left (called ▸ inside)]
  · rw [List.filter_singleton, List.getElem?_concat_length, ← called, List.getElem?_concat_length]
    simp

/-- A call that has been answered is pending no longer. -/
theorem pending_finish {call : Call} {outcome : Except Fault call.Answer} :
    pending (calls.set number { call, answer := some outcome }) callers thread =
      (pending calls callers thread).filter (· ≠ number) := by
  unfold pending
  rw [List.length_set, List.filter_filter]
  refine List.filter_congr fun other listed => ?_
  by_cases same : number = other
  · subst same
    rw [List.getElem?_set_self (List.mem_range.mp listed)]
    simp
  · simp [List.getElem?_set_ne same, Ne.symm same]

/-- The call that a type is described in says what the type is made for. -/
theorem serving_describes (serves : serving calls callers thread = some number) (store : Store) :
    exists record, calls[number]? = some record ∧ record.call.kernel?.isSome ∧
      origin store calls callers thread = record.call.origin? store := by
  obtain ⟨innermost, describes⟩ := Option.filter_eq_some_iff.mp serves
  obtain ⟨flags, asks⟩ := Option.isSome_iff_exists.mp describes
  obtain ⟨record, found, asks⟩ := Option.bind_eq_some_iff.mp asks
  refine ⟨record, found, Option.isSome_of_eq_some asks, ?_⟩
  rw [origin, innermost, Option.bind_some, found, Option.bind_some]

end Pending

/-! ## Stores -/

namespace Store

/-- The root types of the factories exist. -/
def Rooted (store : Store) : Prop :=
  forall factory, factory.index < store.factories.size ->
    store.types.Made (store.factory factory).objectType

/-- The registry was made, and turns only to a factory that was made. -/
def Turns (store : Store) (registry : RegistryId) : Prop :=
  registry.index < store.registries.size ∧ forall factory,
    (store.registry registry).escalation = .factory factory -> factory.index < store.factories.size

/-- Types, factories and registries stay. -/
structure Sustains (before after : Store) : Prop where
  types : before.types.Extends after.types
  factories : before.factories.size ≤ after.factories.size
  registries : before.registries.size ≤ after.registries.size
  /-- A factory keeps its root type. -/
  root : forall factory, factory.index < before.factories.size ->
    (after.factory factory).objectType = (before.factory factory).objectType
  /-- Registries that there were turn to no factory that they did not turn to. -/
  escalation : forall registry factory, registry.index < before.registries.size ->
    (after.registry registry).escalation = .factory factory ->
      (before.registry registry).escalation = .factory factory

theorem Sustains.refl (store : Store) : store.Sustains store :=
  ⟨.refl _, Nat.le_refl _, Nat.le_refl _, fun _ _ => rfl, fun _ _ _ turned => turned⟩

/-- What leaves the factories and registries alone. -/
theorem Sustains.of_types {before after : Store} (types : before.types.Extends after.types)
    (factories : after.factories = before.factories)
    (registries : after.registries = before.registries) : before.Sustains after where
  types := types
  factories := Nat.le_of_eq (congrArg Table.size factories.symm)
  registries := Nat.le_of_eq (congrArg Table.size registries.symm)
  root := fun factory _ => by rw [Store.factory, factories, Store.factory]
  escalation := fun registry factory _ turned => by
    rwa [Store.registry, registries] at turned

/-- What was the root type of a factory stays it. -/
theorem Sustains.bases {before after : Store} (sustains : before.Sustains after) {origin : Origin}
    (founded : origin.factory.index < before.factories.size) :
    origin.bases after = origin.bases before := by
  unfold Origin.bases
  rw [sustains.root origin.factory founded]

/-- A call goes on to have types made for the same. -/
theorem Sustains.origin? {before after : Store} (sustains : before.Sustains after) {call : Call}
    {origin : Origin} (made : forall registry, call.registry? = some registry ->
      registry.index < before.registries.size) (found : call.origin? after = some origin) :
    call.origin? before = some origin := by
  have escalates : forall registry, call.registry? = some registry ->
      (after.registry registry).escalation.origin? = some origin ->
        (before.registry registry).escalation.origin? = some origin := by
    intro registry names found
    cases turned : (after.registry registry).escalation with
    | factory factory =>
        rw [sustains.escalation registry factory (made registry names) turned]
        rwa [turned] at found
    | none | foreign _ | gone =>
        rw [turned] at found
        cases found
  cases call with
  | resolve registry _ | resolveValue registry _ | typeOf registry _ =>
      exact escalates registry rfl found
  | _ => exact found

/-- A registry goes on to turn where it turned. -/
theorem Sustains.turns {before after : Store} (sustains : before.Sustains after)
    {registry : RegistryId} (turns : before.Turns registry) : after.Turns registry :=
  ⟨Nat.lt_of_lt_of_le turns.1 sustains.registries, fun factory turned =>
    Nat.lt_of_lt_of_le (turns.2 factory (sustains.escalation registry factory turns.1 turned))
      sustains.factories⟩

/-- A registry that was there is not the one that is added. -/
theorem registry_push {store : Store} {registry : RegistryId} {added : Registry}
    (made : registry.index < store.registries.size) :
    (store.registries.push added).get registry.index = store.registry registry :=
  (Table.get_push _ _ _).trans (if_neg (Nat.ne_of_gt made))

/-- Nor is a factory. -/
theorem factory_push {store : Store} {factory : FactoryId} {added : Factory}
    (made : factory.index < store.factories.size) :
    (store.factories.push added).get factory.index = store.factory factory :=
  (Table.get_push _ _ _).trans (if_neg (Nat.ne_of_gt made))

end Store

namespace Action

variable {action : Action β} {before after : Store} {answer : β}

/-- No action takes away a type, a factory or a registry. -/
theorem sustains (performed : action.perform thread before = some (answer, after)) :
    before.Sustains after := by
  cases action with
  | addType row =>
      cases performed
      exact .of_types (TypeTable.extends_add _ _) rfl rfl
  | addShared row =>
      cases performed
      exact .of_types (TypeTable.extends_addShared _ _) rfl rfl
  | addRegistry escalation =>
      cases performed
      exact { Store.Sustains.refl before with
        registries := by simp
        escalation := fun registry factory made turned =>
          (congrArg Registry.escalation (Store.registry_push made)).symm.trans turned }
  | addFactory maker objectType typeType =>
      obtain ⟨-, rfl⟩ := Prod.mk.inj (Option.some.inj performed)
      exact { Store.Sustains.refl before with
        factories := by simp
        registries := by simp
        root := fun factory made => congrArg Factory.objectType (Store.factory_push made)
        escalation := fun registry factory made turned =>
          (congrArg Registry.escalation (Store.registry_push made)).symm.trans turned }
  | registry id step =>
      obtain ⟨-, rfl⟩ := perform_registry performed
      refine { Store.Sustains.refl before with
        registries := Table.size_le_set _ _ _
        escalation := fun registry factory _ turned => ?_ }
      unfold Store.registry at turned ⊢
      rw [Table.get_set] at turned
      split at turned
      · rename_i same
        rw [← same]
        exact Registry.Step.escalation_perform.mp turned
      · exact turned
  | factory id step =>
      obtain ⟨changed, stepped, rfl⟩ := perform_factory performed
      refine { Store.Sustains.refl before with
        factories := Table.size_le_set _ _ _
        root := fun factory _ => ?_ }
      unfold Store.factory
      rw [Table.get_set]
      split
      · rename_i same
        rw [← same]
        exact (Factory.Step.keeps_perform stepped).2
      · rfl
  | claim cls =>
      obtain ⟨state, -, rfl⟩ := performed_claim performed
      exact .of_types (.refl _) rfl rfl
  | observe _ | declare _ | addLoader | addSynthesizer _ _ | release _ | synthesizer _ _
  | loader _ _ | heap _ | makeDirectories _ | writeFile _ _ | record _ =>
      cases performed
      exact .of_types (.refl _) rfl rfl

/-- An action that makes no type leaves the number of types as it was. -/
theorem Modest.types_size {typing naming looking : Prop}
    (modest : action.Modest typing False naming looking)
    (performed : action.perform thread before = some (answer, after)) :
    after.types.types.size = before.types.types.size := by
  cases action with
  | addType row => exact modest.2.elim
  | claim cls =>
      obtain ⟨state, -, rfl⟩ := performed_claim performed
      rfl
  | factory id step =>
      obtain ⟨changed, -, rfl⟩ := perform_factory performed
      rfl
  | observe _ | declare _ | addShared _ | addRegistry _ | addFactory _ _ _ | registry _ _
  | release _ | addLoader | addSynthesizer _ _ | synthesizer _ _ | loader _ _ | heap _
  | makeDirectories _ | writeFile _ _ | record _ =>
      cases performed
      rfl

end Action

/-! ## The rules -/

/-- What the proofs remember of the types that are made. -/
structure Attribution where
  /-- The threads that began the calls. -/
  callers : List ThreadId := []
  /-- For each type the call that it was described in, unless nobody described it. -/
  described : List (Option Nat) := []
  /-- For each type what it was made for, unless it came with its factory. -/
  origins : List (Option Origin) := []
  /-- Whatever was taken for a base so far existed. -/
  genuine : Prop := True

/-- The moments that the rules are about. -/
abbrev Ledger (σ : Type) := Moment (Clients σ) Attribution

namespace Moment

/-- The calls of a thread that have not been answered. -/
def pending (now : Ledger σ) (thread : ThreadId) : List Nat :=
  GuestTypes.pending now.host.calls now.ghost.callers thread

/-- The call that a type of the thread is described in. -/
def serving (now : Ledger σ) (thread : ThreadId) : Option Nat :=
  GuestTypes.serving now.host.calls now.ghost.callers thread

/-- What a type of the thread is made for. -/
def origin (now : Ledger σ) (thread : ThreadId) : Option Origin :=
  GuestTypes.origin now.store now.host.calls now.ghost.callers thread

/-- The kernel flags that were asked for a type itself. -/
def own (now : Ledger σ) (type : TypeId) : KernelFlags :=
  ownKernel now.host.calls now.ghost.described type

end Moment

namespace Attributing

/-- What always holds. -/
structure Valid (now : Ledger σ) : Prop where
  called : now.ghost.callers.length = now.host.calls.length
  every : now.ghost.described.length = now.store.types.types.size
  /-- A type took the heritable flags of its bases. -/
  folded : now.ghost.genuine -> forall type, now.store.types.Made type ->
    (now.store.types.row type).kernel =
      now.store.types.effectiveKernel (now.own type) (now.store.types.row type).bases
  asked : forall (place : Nat) number, now.ghost.described[place]? = some (some number) ->
    exists record, now.host.calls[number]? = some record ∧ record.call.kernel?.isSome ∧
      now.ghost.origins[place]? = some (record.call.origin? now.store)
  /-- It is known of every type what it was made for. -/
  traced : now.ghost.origins.length = now.store.types.types.size
  /-- A type has the bases that it was made for. -/
  based : now.ghost.genuine -> forall type origin,
    now.ghost.origins[type.index]? = some (some origin) ->
      origin.factory.index < now.store.factories.size ∧
        (now.store.types.row type).bases = origin.bases now.store
  answered : forall (number : Nat) record type, now.host.calls[number]? = some record ->
    record.made? = some type -> now.ghost.described[type.index]? = some (some number)

/-- What a step of a thread may do. -/
structure Moves (thread : ThreadId) (before after : Ledger σ) : Prop where
  sustains : before.store.Sustains after.store
  described : after.ghost.described = before.ghost.described ∧
      after.ghost.origins = before.ghost.origins ∨
    after.ghost.described = before.ghost.described ++ [before.serving thread] ∧
      after.ghost.origins = before.ghost.origins ++ [before.origin thread]
  callers : after.ghost.callers = before.ghost.callers ∧
      after.host.calls.length = before.host.calls.length ∨
    after.ghost.callers = before.ghost.callers ++ [thread] ∧
      after.host.calls.length = before.host.calls.length + 1
  calls : forall number call, Asked number call before -> Asked number call after
  /-- A thread answers no call of another one. -/
  others : forall number, number < before.host.calls.length ->
    before.ghost.callers[number]? ≠ some thread ->
      after.host.calls[number]? = before.host.calls[number]?
  genuine : after.ghost.genuine -> before.ghost.genuine
  forged : before.ghost.genuine -> before.store.Rooted ->
    before.host.forges before.store after.host = false -> after.ghost.genuine

variable {now after : Ledger σ} {type : TypeId} {store : Store}

theorem Moves.refl (thread : ThreadId) (now : Ledger σ) : Moves thread now now where
  sustains := .refl _
  described := .inl ⟨rfl, rfl⟩
  callers := .inl ⟨rfl, rfl⟩
  calls := fun _ _ asked => asked
  others := fun _ _ _ => rfl
  genuine := id
  forged := fun genuine _ _ => genuine

namespace Moves

/-- What a type was described in does not change. -/
theorem described_of_some (moves : Moves thread now after) {place : Nat} {entry : Option Nat}
    (found : now.ghost.described[place]? = some entry) :
    after.ghost.described[place]? = some entry :=
  getElem?_of_grown (moves.described.imp And.left And.left) found

/-- Nor does what it was made for. -/
theorem origins_of_some (moves : Moves thread now after) {place : Nat} {entry : Option Origin}
    (found : now.ghost.origins[place]? = some entry) : after.ghost.origins[place]? = some entry :=
  getElem?_of_grown (moves.described.imp And.right And.right) found

/-- A thread leaves the calls of another one as they are. -/
theorem pending (moves : Moves thread now after) {other : ThreadId} (different : thread ≠ other)
    (called : now.ghost.callers.length = now.host.calls.length) :
    after.pending other = now.pending other := by
  have apart : (some thread == some other) = false :=
    beq_eq_false_iff_ne.mpr fun same => different (Option.some.inj same)
  have kept : forall number, number < now.host.calls.length ->
      after.ghost.callers[number]? = now.ghost.callers[number]? := by
    intro number inside
    rcases moves.callers with ⟨same, -⟩ | ⟨grown, -⟩
    · rw [same]
    · rw [grown, List.getElem?_append_left (called ▸ inside)]
  have inside : forall number, number ∈ List.range now.host.calls.length ->
      (after.ghost.callers[number]? == some other &&
        after.host.calls[number]?.any (·.answer.isNone)) =
      (now.ghost.callers[number]? == some other &&
        now.host.calls[number]?.any (·.answer.isNone)) := by
    intro number listed
    have inside := List.mem_range.mp listed
    rw [kept number inside]
    by_cases others : now.ghost.callers[number]? = some thread
    · rw [others, apart, Bool.false_and, Bool.false_and]
    · rw [moves.others number inside others]
  unfold Moment.pending GuestTypes.pending
  rcases moves.callers with ⟨-, length⟩ | ⟨grown, length⟩
  · rw [length]
    exact List.filter_congr inside
  · have last : after.ghost.callers[now.host.calls.length]? = some thread := by
      rw [grown, ← called, List.getElem?_concat_length]
    rw [length, List.range_succ, List.filter_append, List.filter_congr inside,
      List.filter_singleton, last, apart, Bool.false_and, cond_false, List.append_nil]

/-- A call that was asked goes on to ask for the same flags. -/
theorem kernelAsked (moves : Moves thread now after) {number : Nat} {call : Call}
    (asked : Asked number call now) :
    kernelAsked after.host.calls (some number) = call.kernel?.getD .none := by
  obtain ⟨record, found, rfl⟩ := moves.calls number call asked
  simp [GuestTypes.kernelAsked, found]

/-- So does a type that was made. -/
theorem own (moves : Moves thread now after) (valid : Valid now)
    (made : now.store.types.Made type) : after.own type = now.own type := by
  have inside : type.index < now.ghost.described.length := valid.every ▸ made
  have found := List.getElem?_eq_getElem inside
  unfold Moment.own ownKernel
  rw [moves.described_of_some found, found]
  cases described : now.ghost.described[type.index] with
  | none => rfl
  | some number =>
      rw [described] at found
      obtain ⟨record, kept, -⟩ := valid.asked type.index number found
      exact (moves.kernelAsked ⟨record, kept, rfl⟩).trans
        ((refl thread now).kernelAsked ⟨record, kept, rfl⟩).symm

/-- A change of the store alone. -/
theorem ofStore (sustains : now.store.Sustains store) : Moves thread now (now.withStore store) :=
  { Moves.refl thread now with sustains }

end Moves

/-- Flags that were folded stay what comes of passing on those of the bases. -/
theorem Valid.folded_later (valid : Valid now) (moves : Moves thread now after)
    (genuine : after.ghost.genuine) (made : now.store.types.Made type) :
    (after.store.types.row type).kernel =
      after.store.types.effectiveKernel (after.own type) (after.store.types.row type).bases := by
  have bases : forall base, base ∈ (now.store.types.row type).bases -> now.store.types.Made base :=
    fun base has => Nat.lt_trans (TypeTable.HasBase.lt has) made
  rw [moves.sustains.types.row type made, moves.own valid made,
    moves.sustains.types.effectiveKernel bases]
  exact valid.folded (moves.genuine genuine) type made

/-- A call that a type was described in goes on to be one that describes a type. -/
theorem Valid.asked_later (valid : Valid now) (moves : Moves thread now after) {place number : Nat}
    (found : now.ghost.described[place]? = some (some number)) :
    exists record, after.host.calls[number]? = some record ∧ record.call.kernel?.isSome ∧
      after.ghost.origins[place]? = some (record.call.origin? after.store) := by
  obtain ⟨record, kept, describes, traced⟩ := valid.asked place number found
  obtain ⟨later, found, same⟩ := moves.calls number record.call ⟨record, kept, rfl⟩
  refine ⟨later, found, same ▸ describes, ?_⟩
  rw [same, Call.origin?_of_describes describes now.store]
  exact moves.origins_of_some traced

/-- The bases that a type was made with stay as they were given. -/
theorem Valid.based_later (valid : Valid now) (moves : Moves thread now after)
    (genuine : after.ghost.genuine) {origin : Origin}
    (found : now.ghost.origins[type.index]? = some (some origin)) :
    origin.factory.index < after.store.factories.size ∧
      (after.store.types.row type).bases = origin.bases after.store := by
  have made : now.store.types.Made type :=
    Nat.lt_of_lt_of_eq (List.getElem?_eq_some_iff.mp found).1 valid.traced
  obtain ⟨founded, bases⟩ := valid.based (moves.genuine genuine) type origin found
  refine ⟨Nat.lt_of_lt_of_le founded moves.sustains.factories, ?_⟩
  rw [moves.sustains.types.row type made, moves.sustains.bases founded, bases]

/-- What makes no type keeps to the rules, if the calls that it ends are answered with what was
described in them. -/
theorem Valid.untyped (valid : Valid now) (moves : Moves thread now after)
    (size : after.store.types.types.size = now.store.types.types.size)
    (described : after.ghost.described = now.ghost.described)
    (origins : after.ghost.origins = now.ghost.origins)
    (called : after.ghost.callers.length = after.host.calls.length)
    (answered : forall (number : Nat) record type, after.host.calls[number]? = some record ->
      record.made? = some type -> now.ghost.described[type.index]? = some (some number)) :
    Valid after where
  called := called
  every := by rw [described, size, valid.every]
  folded := fun genuine type made =>
    valid.folded_later moves genuine (Nat.lt_of_lt_of_eq made size)
  asked := fun place number found => valid.asked_later moves (described ▸ found)
  traced := by rw [origins, size, valid.traced]
  based := fun genuine type origin found => valid.based_later moves genuine (origins ▸ found)
  answered := by rw [described]; exact answered

/-- What changes neither types nor calls keeps to the rules. -/
theorem Valid.remain (valid : Valid now) (moves : Moves thread now after)
    (size : after.store.types.types.size = now.store.types.types.size)
    (described : after.ghost.described = now.ghost.described)
    (origins : after.ghost.origins = now.ghost.origins)
    (callers : after.ghost.callers = now.ghost.callers)
    (calls : after.host.calls = now.host.calls) : Valid after :=
  valid.untyped moves size described origins (by rw [callers, calls, valid.called])
    (by rw [calls]; exact valid.answered)

/-- How far classes are initialised is of no concern. -/
theorem Valid.progress (valid : Valid now) (progress : Table InitState) :
    Valid (now.withProgress progress) ∧ Moves thread now (now.withProgress progress) := by
  have moves : Moves thread now (now.withProgress progress) :=
    .ofStore (.of_types (.refl _) rfl rfl)
  exact ⟨valid.remain moves rfl rfl rfl rfl rfl, moves⟩

end Attributing

/-- The rules that keep what was asked for each type. What host code leaves as it was are the calls
of its thread that have not been answered. -/
def attributing {σ : Type} : Discipline (Clients σ) Attribution where
  Valid := Attributing.Valid
  Moves := Attributing.Moves
  Idle _ _ := True
  Leaves thread before after := after.pending thread = before.pending thread
  Quiet _ before after := after.host.calls = before.host.calls ∧
    after.ghost.callers = before.ghost.callers
  moves_refl := .refl
  quiet_store _ _ := ⟨rfl, rfl⟩
  quiet_none := id
  leaves_refl _ _ := rfl
  leaves_trans first last := last.trans first
  leaves_moves different valid moves := moves.pending different valid.called
  idle_moves _ _ _ _ := trivial
  progress progress valid _ := by
    obtain ⟨valid, moves⟩ := Attributing.Valid.progress valid progress
    exact ⟨valid, moves, trivial, rfl⟩

theorem attributing_free : (attributing (σ := σ)).Free := fun _ _ => trivial

namespace Attributing

variable {now : Ledger σ} {store : Store} {number : Nat} {asked : Option KernelFlags}

/-- An action that makes no type keeps to the rules. -/
theorem Valid.modest (valid : Valid now) {action : Action β} {answer : β}
    (modest : action.Modest True False True True)
    (performed : action.perform thread now.store = some (answer, store)) :
    attributing.Allows thread now (now.withStore store) := by
  have moves : Moves thread now (now.withStore store) := .ofStore (Action.sustains performed)
  exact ⟨valid.remain moves (modest.types_size performed) rfl rfl rfl rfl, moves⟩

/-- The call is the innermost of the thread that has not been answered. -/
def Innermost (thread : ThreadId) (number : Nat) (now : Ledger σ) : Prop :=
  (now.pending thread).getLast? = some number

/-- The call asks for the flags for a type that it describes, or describes no type. -/
def Asks (number : Nat) (asked : Option KernelFlags) (now : Ledger σ) : Prop :=
  exists call, Asked number call now ∧ call.kernel? = asked

/-- Whatever the call has types made for meets the assertion. If it names a registry, that was
made. -/
def Charged (number : Nat) (fits : Origin -> Ledger σ -> Prop) (now : Ledger σ) : Prop :=
  exists call, Asked number call now ∧
    (forall registry, call.registry? = some registry ->
      registry.index < now.store.registries.size) ∧
    forall origin, call.origin? now.store = some origin -> fits origin now

/-- A call that has types made for nothing. -/
abbrev Uncharged (number : Nat) : Ledger σ -> Prop := Charged number fun _ _ => False

/-- Less may be said of what fits. -/
theorem Charged.imp {fits other : Origin -> Ledger σ -> Prop} (charged : Charged number fits now)
    (implies : forall origin, fits origin now -> other origin now) : Charged number other now := by
  obtain ⟨call, asked, made, meets⟩ := charged
  exact ⟨call, asked, made, fun origin found => implies origin (meets origin found)⟩

/-- A type that is made for it has the bases. -/
def Suits (bases : List TypeId) (origin : Origin) (now : Ledger σ) : Prop :=
  origin.factory.index < now.store.factories.size ∧ bases = origin.bases now.store

/-- A thread makes types in its innermost call. -/
theorem Innermost.serving (innermost : Innermost thread number now) (asks : Asks number asked now) :
    now.serving thread = asked.map fun _ => number := by
  obtain ⟨call, ⟨record, found, rfl⟩, rfl⟩ := asks
  have last : (pending now.host.calls now.ghost.callers thread).getLast? = some number := innermost
  unfold Moment.serving GuestTypes.serving
  rw [last, Option.filter_some, found, Option.bind_some]
  cases record.call.kernel? with
  | none => rfl
  | some flags => rfl

/-- The innermost call of a thread decides what types are made for. -/
theorem Innermost.origin (innermost : Innermost thread number now) {call : Call}
    (asked : Asked number call now) : now.origin thread = call.origin? now.store := by
  obtain ⟨record, found, rfl⟩ := asked
  have last : (pending now.host.calls now.ghost.callers thread).getLast? = some number := innermost
  rw [Moment.origin, GuestTypes.origin, last, Option.bind_some, found, Option.bind_some]

/-- The flags of a type are those that its call asks for. -/
theorem Asks.kernelAsked (asks : Asks number asked now) :
    kernelAsked now.host.calls (asked.map fun _ => number) = asked.getD .none := by
  obtain ⟨call, ⟨record, found, rfl⟩, rfl⟩ := asks
  cases asks : record.call.kernel? with
  | none => rfl
  | some flags => simp [GuestTypes.kernelAsked, found, asks]

/-- The moment after a thread has made a type. -/
def adding (now : Ledger σ) (thread : ThreadId) (row : GuestType) : Ledger σ :=
  ⟨{ now.store with types := (now.store.types.add row).2 }, now.host,
    { now.ghost with
      described := now.ghost.described ++ [now.serving thread]
      origins := now.ghost.origins ++ [now.origin thread] }⟩

/-- A type is made in the innermost call. -/
theorem Valid.addType (valid : Valid now) {row : GuestType}
    (innermost : Innermost thread number now)
    (asks : Asks number asked now)
    (reads : now.ghost.genuine -> (forall base, base ∈ row.bases -> now.store.types.Made base) ∧
      row.kernel = now.store.types.effectiveKernel (asked.getD .none) row.bases)
    (suits : Charged number (Suits row.bases) now) :
    attributing.Allows thread now (adding now thread row) := by
  have types := TypeTable.extends_add now.store.types row
  have moves : Moves thread now (adding now thread row) := {
    Moves.refl thread now with
    sustains := .of_types types rfl rfl
    described := .inr ⟨rfl, rfl⟩ }
  have added : now.ghost.genuine -> forall type : TypeId, type.index = now.store.types.types.size ->
      (adding now thread row).store.types.row type = row :=
    fun genuine type new => TypeTable.row_added (reads genuine).1 new
  refine ⟨?_, moves⟩
  exact {
    called := valid.called
    every := by simp [adding, TypeTable.add, valid.every]
    folded := by
      intro genuine type made
      by_cases old : now.store.types.Made type
      · exact valid.folded_later moves genuine old
      · have new : type.index = now.store.types.types.size := by
          have made : type.index < (now.store.types.types.push _).size := made
          rw [Array.size_push] at made
          exact Nat.eq_of_lt_succ_of_not_lt made old
        obtain ⟨bases, kernel⟩ := reads genuine
        have own : (adding now thread row).own type = asked.getD .none := by
          unfold Moment.own ownKernel adding
          rw [new, ← valid.every, List.getElem?_concat_length, innermost.serving asks]
          exact asks.kernelAsked
        rw [own, added genuine type new, kernel]
        exact (types.effectiveKernel bases).symm
    asked := by
      intro place number found
      rcases getElem?_concat_eq_some found with old | ⟨rfl, serves⟩
      · exact valid.asked_later moves old
      · obtain ⟨record, kept, describes, origin⟩ := serving_describes serves now.store
        refine ⟨record, kept, describes, ?_⟩
        rw [Call.origin?_of_describes describes now.store, ← origin, valid.every, ← valid.traced]
        exact List.getElem?_concat_length
    traced := by simp [adding, TypeTable.add, valid.traced]
    based := by
      intro genuine type origin found
      rcases getElem?_concat_eq_some found with old | ⟨new, made⟩
      · exact valid.based_later moves genuine old
      · obtain ⟨call, asked, -, suits⟩ := suits
        obtain ⟨founded, bases⟩ := suits origin ((innermost.origin asked).symm.trans made)
        refine ⟨founded, ?_⟩
        rw [added genuine type (new.trans valid.traced), bases]
        rfl
    answered := fun number record type found made =>
      moves.described_of_some (valid.answered number record type found made) }

end Attributing

end GuestTypes
