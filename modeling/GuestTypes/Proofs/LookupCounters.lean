import GuestTypes.Proofs.ForeignCode
import GuestTypes.Proofs.LookupCourses

/-!
# Counters of lookups

The books of a run are read off the run: a step of a thread adds the call that it begins, and the
lookup that it is. The counters of a registry are the numbers of lookups in the books, since a
lookup and the change of a counter are one action, no other action changes a counter, and registries
are made with counters at zero. A counter has 64 bits and wraps around, so that it is a number of
lookups up to a multiple of `2 ^ 64`.
-/

namespace GuestTypes

variable {σ β : Type} {thread : ThreadId} {number : Option Nat} {looks : List Look}

/-! ## Runs -/

/-- The lookup that the next step of a thread is, if a registry counts it. A thread makes it in the
innermost of its calls that have not been answered. -/
def Machine.look? (machine : Machine (Clients σ)) (callers : List ThreadId) (thread : ThreadId) :
    Option Look :=
  match machine.threads[thread.index]? with
  | some (.running (.act action _) _) => action.look?.map fun (registry, cls, again) =>
      { number := (pending machine.host.calls callers thread).getLast?
        registry, cls, again
        found := (machine.bound registry cls).isSome }
  | _ => none

section Running

variable {machine : Machine (Clients σ)} {callers : List ThreadId}
  {control : Program (Clients σ) (Except Fault Unit)} {frames : List (Frame (Clients σ))}

/-- A thread that is about to take an action makes the lookup that this is. -/
theorem Machine.look?_act {action : Action β} {rest : β -> Program (Clients σ) (Except Fault Unit)}
    (running : machine.threads[thread.index]? = some (.running (.act action rest) frames)) :
    machine.look? callers thread = action.look?.map fun (registry, cls, again) =>
      ⟨(pending machine.host.calls callers thread).getLast?, registry, cls, again,
        (machine.bound registry cls).isSome⟩ := by
  unfold look?
  rw [running]

/-- What is no action is no lookup. -/
theorem Machine.look?_foreign
    (running : machine.threads[thread.index]? = some (.running control frames))
    (foreign : control.isForeign = true) : machine.look? callers thread = none := by
  unfold look?
  rw [running]
  cases control <;> first | rfl | cases foreign

end Running

/-- The books after a step of a thread. -/
def Books.after (books : Books) (thread : ThreadId) (machine next : Machine (Clients σ)) :
    Books where
  calls := next.host.calls
  callers := books.callers ++
    List.replicate (next.host.calls.length - machine.host.calls.length) thread
  looks := books.looks ++ (machine.look? books.callers thread).toList

/-- The books after the steps of threads in the order of a schedule. -/
def Machine.books (code : HostCode (Clients σ)) :
    List ThreadId -> Machine (Clients σ) -> Books -> Books
  | [], _, books => books
  | thread :: schedule, machine, books =>
      (machine.step code thread).elim books fun next =>
        next.books code schedule (books.after thread machine next)

/-! ## One registry -/

namespace Registry

/-- The counters of a registry are the numbers of its lookups, as far as a counter goes. -/
structure Tallies (registry : Registry) (id : RegistryId) (looks : List Look) : Prop where
  lookups : registry.counts.hits + registry.counts.misses = .ofNat (looks.countP (·.isFirst id))
  misses : registry.counts.misses = .ofNat (looks.countP (·.isMiss id))
  escalations : registry.counts.escalations = .ofNat (looks.countP (·.isEscalation id))

variable {registry changed : Registry} {id other : RegistryId} {cls : ClassId}

/-- Counters that stay the same go on to be right. -/
theorem Tallies.counted (tallies : registry.Tallies id looks)
    (counted : changed.counts = registry.counts) : changed.Tallies id looks where
  lookups := by rw [counted, tallies.lookups]
  misses := by rw [counted, tallies.misses]
  escalations := by rw [counted, tallies.escalations]

/-- One more lookup is one more of a kind, or none. -/
theorem ofNat_countP_concat (counted : Look -> Bool) (look : Look) :
    UInt64.ofNat ((looks ++ [look]).countP counted) =
      .ofNat (looks.countP counted) + if counted look then 1 else 0 := by
  rw [List.countP_append, List.countP_singleton, UInt64.ofNat_add]
  split <;> rfl

/-- One more lookup, and what it adds to the counters. -/
theorem Tallies.note (tallies : registry.Tallies id looks) {look : Look}
    (lookups : changed.counts.hits + changed.counts.misses =
      registry.counts.hits + registry.counts.misses + if look.isFirst id then 1 else 0)
    (misses : changed.counts.misses =
      registry.counts.misses + if look.isMiss id then 1 else 0)
    (escalations : changed.counts.escalations =
      registry.counts.escalations + if look.isEscalation id then 1 else 0) :
    changed.Tallies id (looks ++ [look]) where
  lookups := by rw [ofNat_countP_concat, lookups, tallies.lookups]
  misses := by rw [ofNat_countP_concat, misses, tallies.misses]
  escalations := by rw [ofNat_countP_concat, escalations, tallies.escalations]

/-- A lookup in another registry counts for nothing. -/
theorem Tallies.elsewhere (tallies : registry.Tallies id looks) {look : Look}
    (different : look.registry ≠ id) : registry.Tallies id (looks ++ [look]) :=
  tallies.note (by simp [Look.isFirst, different]) (by simp [Look.isMiss, Look.isFirst, different])
    (by simp [Look.isEscalation, different])

/-- A first lookup is counted as a hit or a miss. -/
theorem Tallies.firstLookup (tallies : registry.Tallies id looks) (number : Option Nat)
    (cls : ClassId) :
    ((Step.firstLookup cls).perform registry).2.1.Tallies id
      (looks ++ [⟨number, id, cls, false, (registry.lookup cls).isSome⟩]) := by
  cases found : (registry.lookup cls).isSome with
  | true =>
      simp only [Step.perform, found, if_true]
      refine tallies.note ?_ (by simp [countHit, Look.isMiss])
        (by simp [countHit, Look.isEscalation])
      simp only [countHit, Look.isFirst, beq_self_eq_true, Bool.not_false, Bool.and_self, if_true]
      rw [UInt64.add_assoc, UInt64.add_comm 1, ← UInt64.add_assoc]
  | false =>
      simp only [Step.perform, found]
      exact tallies.note (by simp [countMiss, Look.isFirst, UInt64.add_assoc])
        (by simp [countMiss, Look.isMiss, Look.isFirst]) (by simp [countMiss, Look.isEscalation])

/-- A second lookup is counted as an escalation if it misses. -/
theorem Tallies.secondLookup (tallies : registry.Tallies id looks) (number : Option Nat)
    (cls : ClassId) :
    ((Step.secondLookup cls).perform registry).2.1.Tallies id
      (looks ++ [⟨number, id, cls, true, (registry.lookup cls).isSome⟩]) := by
  cases found : (registry.lookup cls).isSome with
  | true =>
      simp only [Step.perform, found, if_true]
      exact tallies.note (by simp [Look.isFirst]) (by simp [Look.isMiss, Look.isFirst])
        (by simp [Look.isEscalation])
  | false =>
      simp only [Step.perform, found]
      exact tallies.note (by simp [countEscalation, Look.isFirst])
        (by simp [countEscalation, Look.isMiss, Look.isFirst])
        (by simp [countEscalation, Look.isEscalation])

/-- Binding classes changes no counter. -/
theorem counts_bindAll (registry : Registry) (bindings : List (ClassId × Representation)) :
    (registry.bindAll bindings).counts = registry.counts := by
  unfold bindAll
  induction bindings generalizing registry with
  | nil => rfl
  | cons binding rest inductionHypothesis =>
      exact inductionHypothesis (registry.bind binding.1 binding.2)

end Registry

/-! ## All registries -/

/-- The counters of all registries are the numbers of lookups, also of those still to be made. -/
structure Store.Tallies (store : Store) (looks : List Look) : Prop where
  blank : store.registries.fallback = {}
  counters : forall id, (store.registry id).Tallies id looks

namespace Store.Tallies

variable {before after : Store}

/-- The registries stay. -/
theorem of_registries (tallies : before.Tallies looks)
    (same : after.registries = before.registries) : after.Tallies looks where
  blank := by rw [same, tallies.blank]
  counters := by
    intro id
    rw [Store.registry, same]
    exact tallies.counters id

/-- One registry changes. -/
theorem set (tallies : before.Tallies looks) {id : RegistryId} {changed : Registry}
    {later : List Look} (own : changed.Tallies id later)
    (others : forall other, other ≠ id -> (before.registry other).Tallies other later)
    (same : after.registries = before.registries.set id.index changed) : after.Tallies later where
  blank := by
    rw [same, ← tallies.blank]
    unfold Table.set
    split <;> rfl
  counters := by
    intro other
    rw [Store.registry, same, Table.get_set]
    by_cases own_ : id.index = other.index
    · rw [if_pos own_, show other = id from congrArg RegistryId.mk own_.symm]
      exact own
    · rw [if_neg own_]
      exact others other fun equal => own_ (congrArg RegistryId.index equal.symm)

/-- A registry is made, where nobody has looked yet. -/
theorem push (tallies : before.Tallies looks) (escalation : Escalation)
    (same : after.registries = before.registries.push { escalation }) : after.Tallies looks where
  blank := by rw [same, Table.push, tallies.blank]
  counters := by
    intro id
    rw [Store.registry, same, Table.get_push]
    split
    · rename_i new
      have unmade : before.registry id = {} := by
        rw [Store.registry, ← tallies.blank, Table.get, ← new, Table.size,
          Array.getElem?_eq_none (Nat.le_refl _), Option.getD_none]
      have none_ := tallies.counters id
      rw [unmade] at none_
      exact none_.counted rfl
    · exact tallies.counters id

end Store.Tallies

/-- A lookup and the change of a counter are one action, and no other action changes a counter. -/
theorem Action.tallies {action : Action β} {answer : β} {before after : Store}
    (performed : action.perform thread before = some (answer, after))
    (tallies : before.Tallies looks) (number : Option Nat) :
    after.Tallies (looks ++ (action.look?.map fun (id, cls, again) =>
      Look.mk number id cls again ((before.registry id).lookup cls).isSome).toList) := by
  have same {later : Store} (same : later.registries = before.registries) :
      later.Tallies (looks ++ []) := by
    rw [List.append_nil]
    exact tallies.of_registries same
  cases action with
  | registry id step =>
      obtain ⟨-, rfl⟩ := perform_registry performed
      have uncounted (counted : (step.perform (before.registry id)).2.1.counts =
          (before.registry id).counts)
          {later : Store}
          (changed : later.registries =
            before.registries.set id.index (step.perform (before.registry id)).2.1) :
          later.Tallies (looks ++ []) := by
        rw [List.append_nil]
        exact tallies.set ((tallies.counters id).counted counted)
          (fun other _ => tallies.counters other) changed
      cases step with
      | firstLookup cls =>
          exact tallies.set ((tallies.counters id).firstLookup number cls)
            (fun other different => (tallies.counters other).elsewhere different.symm) rfl
      | secondLookup cls =>
          exact tallies.set ((tallies.counters id).secondLookup number cls)
            (fun other different => (tallies.counters other).elsewhere different.symm) rfl
      | lookup cls => exact uncounted rfl rfl
      | publish cls rep =>
          refine uncounted ?_ rfl
          unfold Registry.Step.perform
          dsimp only
          split <;> rfl
      | registerAll bindings =>
          refine uncounted ?_ rfl
          unfold Registry.Step.perform
          dsimp only
          split
          · rfl
          · exact Registry.counts_bindAll _ _
      | loseEscalation =>
          refine uncounted ?_ rfl
          unfold Registry.Step.perform
          dsimp only
          split <;> rfl
  | addRegistry escalation =>
      cases performed
      show Store.Tallies _ (looks ++ [])
      rw [List.append_nil]
      exact tallies.push escalation rfl
  | addFactory maker objectType typeType =>
      cases performed
      show Store.Tallies _ (looks ++ [])
      rw [List.append_nil]
      exact tallies.push _ rfl
  | claim cls =>
      obtain ⟨state, -, rfl⟩ := performed_claim performed
      exact same rfl
  | factory id step =>
      obtain ⟨changed, -, rfl⟩ := perform_factory performed
      exact same rfl
  | observe _ | declare _ | addType _ | addShared _ | addLoader | addSynthesizer _ _ | release _
  | synthesizer _ _ | loader _ _ | heap _ | makeDirectories _ | writeFile _ _ | record _ =>
      cases performed
      exact same rfl

/-- After a step the counters are the numbers of lookups in the books. -/
theorem Machine.tallies_step {code : HostCode (Clients σ)} {machine next : Machine (Clients σ)}
    {books : Books} (stepped : machine.step code thread = some next)
    (tallies : machine.store.Tallies books.looks) :
    next.store.Tallies (books.after thread machine next).looks := by
  obtain ⟨control, frames, running, turn⟩ := step_eq_some_iff.mp stepped
  unfold Books.after
  cases foreign : control.isForeign with
  | true =>
      obtain ⟨progress, same⟩ := turn.progress foreign
      rw [same, look?_foreign running foreign, Option.toList_none, List.append_nil]
      exact tallies.of_registries rfl
  | false =>
      cases turn with
      | @acted _ action _ _ answer store performed =>
          rw [look?_act running]
          exact action.tallies performed tallies _
      | _ => cases foreign

end GuestTypes
