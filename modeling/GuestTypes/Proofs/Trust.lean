import GuestTypes.Proofs.Adequacy
import GuestTypes.Proofs.Answers

/-!
# Host code is trusted

Host code that names only what it was given keeps to the rules, so every machine that it can
lead to stands at a valid moment of them (`Machine.Reachable.kept`), and every further run of
that machine is a run of the rules (`Machine.Reachable.onward`).
-/

namespace GuestTypes

open World

variable {σ α : Type} {thread : ThreadId} {number : Nat} {call : Call} {now later : Instant σ}

/-! ## What host code may name -/

/-- Everybody may name a class that host code was given. -/
theorem World.Valid.given {world : World} (valid : world.Valid) {record : CallRecord}
    {cls : ClassId} (member : record ∈ world.calls) (given : record.given? = some cls) :
    world.Open cls := by
  have served := valid.served record member
  unfold CallRecord.given? at given
  split at given
  · cases given
    exact served
  · cases given
    exact served.1
  · cases given
    exact served
  · cases given

/-- Everybody may name a class that host code knows. -/
theorem open_of_knowsClass {cls : ClassId} (valid : now.world.Valid)
    (known : now.host.knowsClass now.store cls = true) : now.world.Open cls := by
  simp only [Clients.knowsClass, Bool.or_eq_true, decide_eq_true_eq, List.any_eq_true,
    beq_iff_eq] at known
  rcases known with (builtin | ⟨record, member, given⟩) | ⟨index, -, bound⟩
  · exact valid.builtins cls builtin
  · exact valid.given member given
  · exact valid.bound ⟨index⟩ cls bound

/-- A factory that host code knows was handed out. -/
theorem complete_of_knowsFactory {factory : FactoryId}
    (known : now.store.knowsFactory factory = true) : now.world.Complete factory := by
  simp only [Store.knowsFactory, Bool.and_eq_true, decide_eq_true_eq] at known
  exact known

/-- Everybody may use a registry that host code knows. -/
theorem usable_of_knowsRegistry {registry : RegistryId}
    (known : now.store.knowsRegistry registry = true) : now.world.Usable registry := by
  simp only [Store.knowsRegistry, Bool.and_eq_true, decide_eq_true_eq] at known
  refine ⟨known.1, fun factory turns => complete_of_knowsFactory ?_⟩
  have known := known.2
  rw [show (now.store.registry registry).escalation = .factory factory from turns] at known
  exact known

/-- A call that host code may make is one that it is entitled to, once it has begun. -/
theorem entitled_of_mayCall (valid : now.world.Valid)
    (may : now.host.mayCall now.store call = true) :
    (now.world.beginning thread call).Entitled call := by
  have allowed : Allows thread now.world (now.world.beginning thread call) := valid.begin call
  have grows := allowed.moves.toGrows
  simp only [Clients.mayCall, Bool.and_eq_true, List.all_eq_true] at may
  obtain ⟨⟨⟨classes, instantiated⟩, factory⟩, registry⟩ := may
  refine ⟨fun cls named => grows.opens valid (open_of_knowsClass valid (classes cls named)),
    fun type named => ?_, fun id named => ?_, fun id named => ?_,
    { call }, List.mem_append_right _ (List.mem_singleton.mpr rfl), rfl⟩
  · rw [named] at instantiated
    simp only [Option.all_some, Clients.knowsType, Bool.and_eq_true, decide_eq_true_eq]
      at instantiated
    exact ⟨instantiated.1, grows.opens valid (open_of_knowsClass valid instantiated.2)⟩
  · rw [named] at factory
    exact grows.complete (complete_of_knowsFactory factory)
  · rw [named] at registry
    exact persistent_usable id valid grows (usable_of_knowsRegistry registry)

/-- A call that has just begun owns no class. -/
theorem World.Valid.owing {world : World} (valid : world.Valid) :
    (world.beginning thread call).Owing thread world.calls.length call none := by
  refine ⟨⟨?_, if_pos rfl⟩, fun factory cls is => ?_⟩
  · show (world.calls ++ [({ call } : CallRecord)])[world.calls.length]? = _
    simp
  · obtain ⟨-, -, record, found, -⟩ := valid.makers cls factory _ is
    rw [List.getElem?_eq_none (Nat.le_refl _)] at found
    cases found

/-! ## Calls and clients -/

/-- What the thread leaves alone since a moment is not touched on behalf of a later call. -/
theorem frame_leaves {start : Instant σ} (fresh : start.world.calls.length ≤ number) :
    (kernel (σ := σ)).Frame thread (some number)
      fun now => Leaves thread start.world now.world where
  stable := fun _ _ _ different _ allowed leaves =>
    leaves.trans (allowed.moves.leaves different)
  passes := fun _ passes leaves => leaves.trans passes.leaves
  acts := by
    intro before after _ _ quiet leaves position record found made unanswered
    obtain ⟨still, caller, kept⟩ := leaves position record found made unanswered
    have below : position < start.world.calls.length := (List.getElem?_eq_some_iff.mp found).1
    rw [quiet.calls, quiet.caller]
    refine ⟨still, caller, fun cls factory is => kept cls factory ?_⟩
    refine quiet.maker cls factory position ?_ is
    intro same
    have := Option.some.inj same
    omega

/-- What host code starts from, and ends with. -/
structure Resting (thread : ThreadId) (start now : Instant σ) : Prop where
  idle : now.world.Idle thread
  leaves : Leaves thread start.world now.world
  grown : start.world.calls.length ≤ now.world.calls.length

/-- Calls are never taken back. -/
theorem persistent_grown (length : Nat) : Persistent fun world => length ≤ world.calls.length :=
  fun _ _ _ grows grown => Nat.le_trans grown grows.length

/-- A thread goes on resting while others move. -/
theorem Resting.around {start : Instant σ} (resting : Resting thread start now)
    (evolves : kernel.Around thread now later) : Resting thread start later where
  idle := evolves.idle resting.idle
  leaves := resting.leaves.trans evolves.leaves
  grown := (persistent_grown _).onward evolves.onward resting.grown

/-- What a call leaves of the moment that host code started from. -/
theorem Resting.finished {start : Instant σ} {outcome : Except Fault call.Answer}
    (resting : Resting thread start now) (fresh : start.world.calls.length ≤ number) :
    Resting thread start ⟨now.store, now.host.finish number call outcome, now.ghost⟩ where
  idle := resting.idle
  grown := by
    show _ ≤ (now.world.calls.set number _).length
    rw [List.length_set]
    exact resting.grown
  leaves := by
    intro position record found made unanswered
    obtain ⟨still, caller, kept⟩ := resting.leaves position record found made unanswered
    have below : position < start.world.calls.length := (List.getElem?_eq_some_iff.mp found).1
    exact ⟨(List.getElem?_set_ne (by omega)).trans still, caller, kept⟩

/-- The moment after the thread began a call. -/
def Moment.beginning (now : Instant σ) (thread : ThreadId) (call : Call) : Instant σ where
  store := now.store
  host := { now.host with calls := now.host.calls ++ [{ call }] }
  ghost := { now.ghost with
    caller := (now.world.beginning thread call).caller
    past := (now.world.beginning thread call).past }

/-- A thread that begins a call leaves the calls alone that it is in. -/
theorem Resting.leaves_beginning {start : Instant σ} (resting : Resting thread start now)
    (call : Call) : Leaves thread start.world (now.beginning thread call).world := by
  intro position record found made unanswered
  obtain ⟨still, own, kept⟩ := resting.leaves position record found made unanswered
  have below := (List.getElem?_eq_some_iff.mp still).1
  exact ⟨(List.getElem?_append_left below).trans still,
    (if_neg (Nat.ne_of_lt below)).trans own, kept⟩

/-- A call that host code makes keeps to the rules. -/
theorem safe_asking {start : Instant σ} (valid : now.world.Valid)
    (resting : Resting thread start now) :
    kernel.Safe thread (Client.asking call) (fun _ after => Resting thread start after) now := by
  intro later evolves
  have valid : later.world.Valid := evolves.valid valid
  have resting := resting.around evolves
  have fresh := resting.grown
  unfold Clients.begin
  by_cases may : later.host.mayCall later.store call = true
  · simp only [may, if_true]
    have allowed : kernel.Allows thread later (later.beginning thread call) :=
      ⟨(valid.begin call).valid, (valid.begin call).moves⟩
    have requested := (Serves.request call :
      Serves (σ := σ) thread (some later.host.calls.length) _ _ _ _)
    have served := requested _ (frame_leaves fresh) _ allowed.valid
      ⟨⟨resting.idle, entitled_of_mayCall valid may⟩, valid.owing⟩ (resting.leaves_beginning call)
    refine ⟨resting.idle, _, allowed,
      served.bind allowed.valid fun outcome after valid ended last further => ?_⟩
    obtain ⟨⟨idle, answers⟩, leaves⟩ : (last.world.Idle thread ∧
        last.world.Answers thread later.host.calls.length call outcome) ∧
        Leaves thread start.world last.world := by
      obtain ⟨answers, leaves⟩ := ended last further
      cases outcome with
      | ok answer => exact ⟨answers, leaves⟩
      | error fault => exact ⟨answers, leaves⟩
    have valid : last.world.Valid := further.valid valid
    have allowed := valid.finish idle answers.calling answers.served answers.derived
      answers.made
    have resting : Resting thread start last := by
      refine ⟨idle, leaves, Nat.le_trans fresh ?_⟩
      exact Nat.le_of_lt (List.getElem?_eq_some_iff.mp answers.calling.asked).1
    exact ⟨idle, last.ghost, ⟨allowed.valid, allowed.moves⟩, fun final further =>
      (resting.finished fresh).around further⟩
  · simp only [may]
    exact ⟨resting.idle, later.ghost, ⟨valid, .refl _ _⟩, fun last further =>
      (show kernel.Around thread later last from further).idle resting.idle⟩

/-- Host code keeps to the rules. -/
theorem safe_program {start : Instant σ} (client : Client σ α) (valid : now.world.Valid)
    (resting : Resting thread start now) :
    kernel.Safe thread client.program (fun _ after => Resting thread start after) now := by
  induction client generalizing now with
  | done answer => exact fun later evolves => resting.around evolves
  | work change next inductionHypothesis =>
      intro later evolves
      have valid : later.world.Valid := evolves.valid valid
      have resting := resting.around evolves
      exact ⟨resting.idle, later.ghost, ⟨valid, .refl _ _⟩,
        inductionHypothesis _ valid ⟨resting.idle, resting.leaves, resting.grown⟩⟩
  | call asked next inductionHypothesis =>
      apply (safe_asking valid resting).bind valid
      intro answer after valid ended
      exact inductionHypothesis answer valid (ended after .refl)
  | fork code next inductionHypothesis =>
      intro later evolves
      have resting := resting.around evolves
      exact ⟨resting.idle, fun started =>
        inductionHypothesis started (evolves.valid valid) resting⟩
  | join awaited next inductionHypothesis =>
      intro later evolves
      have resting := resting.around evolves
      exact ⟨resting.idle, fun message =>
        inductionHypothesis message (evolves.valid valid) resting⟩
  | panic message => exact fun later evolves => (resting.around evolves).idle

/-- A thread that holds no lock rests. -/
theorem Resting.refl (idle : now.world.Idle thread) : Resting thread now now :=
  ⟨idle, .refl _ _, Nat.le_refl _⟩

/-- The kernel trusts all host code. -/
theorem trusts_host (code : ClientCode σ) : (kernel (σ := σ)).Trusts code.host := by
  have safe : forall {α : Type} (client : Client σ (Except Fault α)) (thread : ThreadId)
      (now : Instant σ), now.world.Valid -> now.world.Idle thread ->
      kernel.Safe thread client.program
        (fun _ after => after.world.Idle thread ∧ Leaves thread now.world after.world) now :=
    fun client thread now valid idle => (safe_program client valid (.refl idle)).weaken valid
      fun _ _ _ _ resting => ⟨resting.idle, resting.leaves⟩
  exact {
    initializer := fun thread initializer cls now valid idle =>
      safe (code.initializer initializer cls) thread now valid idle
    escalation := fun thread foreign cls now valid idle =>
      safe (code.escalation foreign cls) thread now valid idle
    body := fun thread body now valid idle => safe (code.body body) thread now valid idle }

/-! ## Reachable machines -/

/-- The world before anything was made. -/
def World.initial : World where
  hierarchy := Builtin.hierarchy
  types := {}
  objectClass := fun _ => Builtin.dict
  registryCount := 0
  bindings := fun _ _ => none
  escalation := fun _ => .none
  factoryCount := 0
  factory := fun _ => default
  calls := []
  maker := fun _ => none
  caller := fun _ => none
  past := fun _ => []

/-- Everybody may name the classes that are there from the start. -/
theorem World.open_initial {cls : ClassId} (declared : Builtin.hierarchy.Declared cls) :
    World.initial.Open cls := ⟨declared, nofun⟩

/-- No class that programs start with is synthesized. -/
theorem layout_builtin (cls : ClassId) : (Builtin.hierarchy.row cls).layout = none := by
  have rows : (Builtin.hierarchy.rows.toList.all fun row => row.layout.isNone) = true := by decide
  unfold Hierarchy.row
  cases found : Builtin.hierarchy.rows[cls.index]? with
  | none => rfl
  | some row =>
      have present := List.all_eq_true.mp rows row (Array.mem_toList_iff.mpr
        (Array.mem_of_getElem? found))
      exact Option.isNone_iff_eq_none.mp present

/-- The world before anything was made is valid. -/
theorem World.valid_initial : World.initial.Valid := by
  have root : World.initial.Open ⟨0⟩ := open_initial (by decide : 0 < Builtin.hierarchy.rows.size)
  have dict : World.initial.Open Builtin.dict :=
    open_initial (by decide : Builtin.dict.index < Builtin.hierarchy.rows.size)
  exact {
    builtins := fun _ builtin => open_initial builtin
    superclasses := fun _ _ chosen => open_initial (Hierarchy.Declared.superclass chosen)
    lawful := fun cls layout has => nomatch (layout_builtin cls).symm.trans has
    shared := fun _ made => absurd made (Nat.not_lt_zero _)
    unshared := fun _ _ => by simp [initial, TypeTable.sharedRow, Table.get]; rfl
    primaries := fun type _ => by
      have row : World.initial.types.row type = default := by simp [initial, TypeTable.row]
      rw [row]
      exact root
    objects := fun _ => dict
    bound := fun _ _ bound => nomatch bound
    unbound := fun _ _ _ => rfl
    unfounded := fun _ _ => rfl
    served := fun _ member => nomatch member
    derived := fun _ _ found => nomatch found
    pasts := fun _ _ member => nomatch member
    founded := fun _ founded => absurd founded (Nat.not_lt_zero _)
    roots := fun _ founded => absurd founded (Nat.not_lt_zero _)
    resting := fun _ _ => ⟨rfl, fun _ member => nomatch member⟩
    governed := fun _ founded => absurd founded (Nat.not_lt_zero _)
    makers := fun _ _ _ made => nomatch made
    equipped := fun _ _ made => nomatch made
    shapes := fun _ => List.nodup_nil
    layouts := fun _ _ member => nomatch member }

/-- A store without anything but files shows that world. -/
theorem world_initial (files : FileTree) (own : σ) :
    ({ store := { files }, host := { own }, ghost := {} } : Instant σ).world = World.initial := by
  have objects : (fun object : ObjectId =>
      (({ fallback := default } : Heap).get object.index).hostClass) = fun _ => Builtin.dict := by
    funext object
    simp [Table.get]
    rfl
  have bindings : (fun (registry : RegistryId) cls =>
      (({ fallback := {} } : Table Registry).get registry.index).lookup cls) =
      fun _ _ => none := by
    funext registry cls
    simp [Table.get, Registry.lookup]
  have escalation : (fun registry : RegistryId =>
      (({ fallback := {} } : Table Registry).get registry.index).escalation) =
      fun _ => .none := by
    funext registry
    simp [Table.get]
  have factory : (fun factory : FactoryId =>
      ({ fallback := default } : Table Factory).get factory.index) = fun _ => default := by
    funext factory
    simp [Table.get]
  unfold World.initial
  rw [← objects, ← bindings, ← escalation, ← factory]
  rfl

namespace Machine

variable {code : ClientCode σ} {machine after : Machine (Clients σ)}

/-- A machine before its first step keeps the rules. -/
theorem Opens.kept (opens : machine.Opens) : exists now : Instant σ, kernel.Kept machine now := by
  obtain ⟨files, store⟩ := opens.store
  let now : Instant σ := { store := { files }, host := { own := machine.host.own }, ghost := {} }
  have world : now.world = World.initial := world_initial files machine.host.own
  have valid : now.world.Valid := by
    rw [world]
    exact World.valid_initial
  have idle : forall thread, now.world.Idle thread := by
    rintro thread factory ⟨again, held⟩
    rw [world] at held
    cases held
  refine ⟨now, store, opens.host, valid, fun thread _ => idle thread, ?_⟩
  intro thread control frames found
  obtain ⟨client, same⟩ := opens.threads _ (Array.mem_of_getElem? found)
  cases same
  exact (safe_program client valid (.refl (idle thread))).weaken valid
    fun _ _ _ _ resting => ⟨resting.idle, trivial⟩

/-- Every machine that host code can lead to stands at a valid moment of the rules. -/
theorem Reachable.kept (reachable : machine.Reachable code) :
    exists now : Instant σ, kernel.Kept machine now := by
  obtain ⟨start, opens, steps⟩ := reachable
  obtain ⟨now, kept⟩ := opens.kept
  obtain ⟨later, -, kept⟩ := kept.steps (trusts_host code) steps
  exact ⟨later, kept⟩

end Machine

end GuestTypes
