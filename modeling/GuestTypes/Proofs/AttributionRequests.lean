import GuestTypes.Proofs.Attribution

/-!
# Requests that make types

A request that makes types has found their bases before it reads the flags of these, and makes the
types in the innermost call of its thread. The bases that it finds are the ones that this call has
the types made over. Host code that it runs has its calls answered before it ends, so the call is
the innermost one again afterwards. What a request does besides makes no types, and keeps to the
rules for that.
-/

namespace GuestTypes

open Discipline

variable {σ α β : Type} {thread : ThreadId} {number : Nat} {asked : Option KernelFlags}

namespace Attributing

/-! ## What stays -/

/-- No step of any thread undoes the assertion. -/
def Persists (assertion : Ledger σ -> Prop) : Prop :=
  forall ⦃mover before after⦄, Moves mover before after -> assertion before -> assertion after

/-- The assertion holds in the innermost call of the thread. -/
def Within (thread : ThreadId) (number : Nat) (assertion : Ledger σ -> Prop) (now : Ledger σ) :
    Prop :=
  Innermost thread number now ∧ assertion now

section Persists

variable {assertion other : Ledger σ -> Prop} {now after : Ledger σ}

/-- A call is the innermost one as long as the same calls wait for an answer. -/
theorem Innermost.of_pending (innermost : Innermost thread number now)
    (same : after.pending thread = now.pending thread) : Innermost thread number after := by
  unfold Innermost
  rw [same]
  exact innermost

namespace Persists

theorem const (fact : Prop) : Persists fun _ : Ledger σ => fact := fun _ _ _ _ holds => holds

/-- What persists holds together. -/
theorem and (left : Persists assertion) (right : Persists other) :
    Persists fun now => assertion now ∧ other now :=
  fun _ _ _ moves holds => ⟨left moves holds.1, right moves holds.2⟩

/-- Of an answer, if there is one. -/
theorem outcome {post : α -> Ledger σ -> Prop} (persists : forall answer, Persists (post answer))
    (outcome : Except Fault α) :
    Persists fun now => forall answer, outcome = .ok answer -> post answer now :=
  fun _ _ _ moves holds answer same => persists answer moves (holds answer same)

/-- What persists holds for ever after. -/
theorem onward (persists : Persists assertion) (onward : attributing.Onward now after)
    (holds : assertion now) : assertion after := by
  induction onward with
  | refl => exact holds
  | step _ _ _ _ allowed inductionHypothesis => exact persists allowed.moves inductionHypothesis

/-- Other threads answer no call of this one. -/
theorem stable (persists : Persists assertion) :
    attributing.Stable thread (Within thread number assertion) :=
  fun _ _ _ different valid allowed holds =>
    ⟨holds.1.of_pending (allowed.moves.pending different valid.called),
      persists allowed.moves holds.2⟩

/-- Host code has all its calls answered before it ends. -/
theorem passes (persists : Persists assertion) (passes : attributing.Passes thread now after)
    (holds : Within thread number assertion now) : Within thread number assertion after :=
  ⟨holds.1.of_pending passes.leaves, persists.onward passes.onward holds.2⟩

end Persists

end Persists

/-! ## What a request knows -/

/-- The factory exists. -/
def Founded (factory : FactoryId) (now : Ledger σ) : Prop :=
  factory.index < now.store.factories.size

/-- The types exist, if whatever was taken for a base so far did. -/
def Stand (bases : List TypeId) (now : Ledger σ) : Prop :=
  now.ghost.genuine -> forall base, base ∈ bases -> now.store.types.Made base

/-- The types exist, and the flags are what comes of passing theirs on. -/
def Folds (flags : KernelFlags) (bases : List TypeId) (kernel : KernelFlags) (now : Ledger σ) :
    Prop :=
  now.ghost.genuine -> (forall base, base ∈ bases -> now.store.types.Made base) ∧
    kernel = now.store.types.effectiveKernel flags bases

/-- The type was described in the call, or by nobody. -/
def Credited (described : Option Nat) (type : TypeId) (now : Ledger σ) : Prop :=
  now.ghost.described[type.index]? = some described

/-- The row of the type was made with the flags. -/
def Bears (kernel : KernelFlags) (type : TypeId) (now : Ledger σ) : Prop :=
  now.store.types.Made type ∧ (now.store.types.row type).kernel = kernel

/-- A type that is made for it is one of the factory, and the bases are given for it, or are those
that it has. -/
def Offers (factory : FactoryId) (bases : List TypeId) (origin : Origin) (now : Ledger σ) : Prop :=
  origin.factory = factory ∧ (bases = origin.given ∨ Suits bases origin now)

/-- The factory may have a type made for the call, with the flags it asks for over the bases. -/
structure Commissioned (number : Nat) (asked : Option KernelFlags) (factory : FactoryId)
    (bases : List TypeId) (now : Ledger σ) : Prop where
  asks : Asks number asked now
  founded : Founded factory now
  stand : Stand bases now
  charged : Charged number (Offers factory bases) now

/-- A factory that takes its root type for missing bases has those of the type. -/
theorem Offers.suits {factory : FactoryId} {bases : List TypeId} {origin : Origin} {now : Ledger σ}
    (offers : Offers factory bases origin now) (founded : Founded factory now) :
    Suits (if bases.isEmpty then [(now.store.factory factory).objectType] else bases) origin
      now := by
  obtain ⟨rfl, rfl | suits⟩ := offers
  · exact ⟨founded, rfl⟩
  · obtain ⟨-, rfl⟩ := suits
    rw [origin.isEmpty_bases now.store]
    exact ⟨founded, rfl⟩

/-- A factory that exists goes on to exist. -/
theorem persists_founded (factory : FactoryId) : Persists (σ := σ) (Founded factory) :=
  fun _ _ _ moves founded => Nat.lt_of_lt_of_le founded moves.sustains.factories

/-- Bases that suit an origin go on to suit it. -/
theorem persists_suits (bases : List TypeId) (origin : Origin) :
    Persists (σ := σ) (Suits bases origin) := by
  rintro mover before after moves ⟨founded, suits⟩
  exact ⟨Nat.lt_of_lt_of_le founded moves.sustains.factories,
    suits.trans (moves.sustains.bases founded).symm⟩

/-- What a factory offers for an origin it goes on to offer. -/
theorem persists_offers (factory : FactoryId) (bases : List TypeId) (origin : Origin) :
    Persists (σ := σ) (Offers factory bases origin) :=
  fun _ _ _ moves offers => offers.imp_right (Or.imp_right (persists_suits _ _ moves))

/-- What fits the origin of the call goes on to fit it. -/
theorem persists_charged {fits : Origin -> Ledger σ -> Prop}
    (persists : forall origin, Persists (fits origin)) : Persists (Charged number fits) := by
  rintro mover before after moves ⟨call, asked, made, charged⟩
  exact ⟨call, moves.calls number call asked,
    fun registry names => Nat.lt_of_lt_of_le (made registry names) moves.sustains.registries,
    fun origin found =>
      persists origin moves (charged origin (moves.sustains.origin? made found))⟩

/-- Types that exist go on to exist. -/
theorem persists_stand (bases : List TypeId) : Persists (σ := σ) (Stand bases) :=
  fun _ _ _ moves stand genuine base listed =>
    moves.sustains.types.made (stand (moves.genuine genuine) base listed)

/-- Flags that come of passing on others go on to do so. -/
theorem persists_folds (flags : KernelFlags) (bases : List TypeId) (kernel : KernelFlags) :
    Persists (σ := σ) (Folds flags bases kernel) := by
  intro mover before after moves folds genuine
  obtain ⟨made, same⟩ := folds (moves.genuine genuine)
  exact ⟨fun base listed => moves.sustains.types.made (made base listed),
    same.trans (moves.sustains.types.effectiveKernel made).symm⟩

/-- What a type is credited to does not change. -/
theorem persists_credited (described : Option Nat) (type : TypeId) :
    Persists (σ := σ) (Credited described type) :=
  fun _ _ _ moves credited => moves.described_of_some credited

/-- The flags of a row do not change. -/
theorem persists_bears (kernel : KernelFlags) (type : TypeId) :
    Persists (σ := σ) (Bears kernel type) := by
  rintro mover before after moves ⟨made, bears⟩
  exact ⟨moves.sustains.types.made made, by rw [moves.sustains.types.row type made]; exact bears⟩

/-- A registry goes on to turn to where it turned. -/
theorem persists_turns (registry : RegistryId) :
    Persists fun now : Ledger σ => now.store.Turns registry :=
  fun _ _ _ moves turns => moves.sustains.turns turns

/-- What a call asks for does not change. -/
theorem persists_asks (number : Nat) (asked : Option KernelFlags) :
    Persists (σ := σ) (Asks number asked) := by
  rintro mover before after moves ⟨call, asks, same⟩
  exact ⟨call, moves.calls number call asks, same⟩

/-- What was commissioned stays so. -/
theorem persists_commissioned (number : Nat) (asked : Option KernelFlags) (factory : FactoryId)
    (bases : List TypeId) : Persists (σ := σ) (Commissioned number asked factory bases) :=
  fun _ _ _ moves commissioned => ⟨persists_asks _ _ moves commissioned.asks,
    persists_founded _ moves commissioned.founded, persists_stand _ moves commissioned.stand,
    persists_charged (persists_offers _ _) moves commissioned.charged⟩

end Attributing

open Attributing

/-! ## Triples -/

/-- In the innermost call of the thread the request keeps to the rules from the precondition, and
its answer meets the postcondition. -/
def Request.Credits (thread : ThreadId) (number : Nat) (pre : Ledger σ -> Prop)
    (request : Request (Clients σ) α) (post : α -> Ledger σ -> Prop) : Prop :=
  attributing.Meets thread none (Within thread number pre) request
    (fun answer => Within thread number (post answer)) fun _ => Innermost thread number

namespace Request.Credits

variable {pre : Ledger σ -> Prop} {request : Request (Clients σ) α} {post : α -> Ledger σ -> Prop}

theorem pure {answer : α} (persists : Persists (post answer))
    (holds : forall now, pre now -> post answer now) :
    Request.Credits thread number pre (Pure.pure answer) post :=
  Meets.pure persists.stable fun now _ given => ⟨given.1, holds now given.2⟩

theorem throw {fault : Fault} :
    Request.Credits thread number pre (throw fault : Request (Clients σ) α) post :=
  Meets.throw (fun _ _ _ different valid allowed innermost =>
    innermost.of_pending (allowed.moves.pending different valid.called)) fun _ _ given => given.1

/-- What the first request leads to the second one starts from. -/
theorem bind {middle : α -> Ledger σ -> Prop} {next : α -> Request (Clients σ) β}
    {post : β -> Ledger σ -> Prop} (first : request.Credits thread number pre middle)
    (rest : forall answer, (next answer).Credits thread number (middle answer) post) :
    Request.Credits thread number pre (request >>= next) post :=
  Meets.bind first rest

/-- Less may be relied on, and more promised. -/
theorem weaken {weaker : Ledger σ -> Prop} {stronger : α -> Ledger σ -> Prop}
    (credits : request.Credits thread number weaker stronger)
    (before : forall now, pre now -> weaker now)
    (after : forall answer now, stronger answer now -> post answer now) :
    request.Credits thread number pre post :=
  Meets.weaken credits (fun now _ given => ⟨given.1, before now given.2⟩)
    (fun answer now _ given => ⟨given.1, after answer now given.2⟩) fun _ _ _ => id

/-- A stronger precondition will do. -/
theorem given {weaker : Ledger σ -> Prop} (credits : request.Credits thread number weaker post)
    (before : forall now, pre now -> weaker now) : request.Credits thread number pre post :=
  credits.weaken before fun _ _ => id

/-- What no step undoes may be used before and after. -/
theorem keep {kept : Ledger σ -> Prop} (credits : request.Credits thread number pre post)
    (persists : Persists kept) :
    Request.Credits thread number (fun now => pre now ∧ kept now) request fun answer now =>
      post answer now ∧ kept now := by
  have frame : attributing.Frame thread none kept :=
    .of_moves fun _ allowed => persists allowed.moves
  exact (Meets.framed credits frame).weaken (fun _ _ given => ⟨⟨given.1, given.2.1⟩, given.2.2⟩)
    (fun _ _ _ ended => ⟨ended.1.1, ended.1.2, ended.2⟩) fun _ _ _ ended => ended.1

/-- A fault of the work is an answer of the attempt. -/
theorem attempt (work : request.Credits thread number pre post) :
    Request.Credits thread number pre request.attempt fun outcome now =>
      forall answer, outcome = .ok answer -> post answer now := by
  have attempted : attributing.Meets thread none (Within thread number pre) request.attempt
      (Ends (fun answer => Within thread number (post answer)) fun _ => Innermost thread number)
      fun _ => Innermost thread number := Meets.attempt work
  refine attempted.weaken (fun _ _ => id) ?_ fun _ _ _ => id
  intro outcome now _ ended
  cases outcome with
  | ok answer => exact ⟨ended.1, by rintro _ ⟨⟩; exact ended.2⟩
  | error fault => exact ⟨ended, nofun⟩

/-- An outcome that is known changes nothing. -/
theorem ofExcept {outcome : Except Fault α} (persists : forall answer, Persists (post answer)) :
    Request.Credits thread number
      (fun now => forall answer, outcome = .ok answer -> post answer now)
      (Request.ofExcept outcome) post := by
  cases outcome with
  | ok answer => exact .pure (persists answer) fun _ holds => holds answer rfl
  | error fault => exact .throw

/-- An action of the innermost call that is allowed with what it adds to the ghost. -/
theorem performWith {action : Action α} (before : Persists pre)
    (after : forall answer, Persists (post answer))
    (step : forall (now : Ledger σ) answer store, Valid now -> Innermost thread number now ->
      pre now -> action.perform thread now.store = some (answer, store) ->
        exists ghost, attributing.Allows thread now ⟨store, now.host, ghost⟩ ∧
          ghost.callers = now.ghost.callers ∧ post answer ⟨store, now.host, ghost⟩) :
    Request.Credits thread number pre (Request.perform action) post := by
  apply Meets.performWith before.stable fun answer => (after answer).stable
  rintro now answer store valid ⟨innermost, holds⟩ performed
  obtain ⟨ghost, allowed, callers, ended⟩ := step now answer store valid innermost holds performed
  have pending : Moment.pending ⟨store, now.host, ghost⟩ thread = now.pending thread := by
    unfold Moment.pending
    rw [callers]
  exact ⟨ghost, allowed, ⟨rfl, callers⟩, innermost.of_pending pending, ended⟩

/-- To look at the store says something of what is seen. -/
theorem observe {view : Store -> α} (before : Persists pre)
    (after : forall answer, Persists (post answer))
    (sees : forall now, pre now -> post (view now.store) now) :
    Request.Credits thread number pre (Request.observe view) post :=
  Meets.observe before.stable (fun answer => (after answer).stable)
    fun now _ given => ⟨given.1, sees now given.2⟩

/-- A request that makes no types keeps what is known, also through the host code that it runs. -/
theorem plain (plain : request.Plain True False True True True) (persists : Persists pre) :
    request.Credits thread number pre fun _ => pre := by
  have meets : attributing.Meets thread none (Within thread number pre) request
      (fun _ => Within thread number pre) fun _ => Within thread number pre :=
    Meets.plain attributing_free persists.stable (fun valid holds modest performed =>
      have allowed := Valid.modest valid modest performed
      ⟨allowed, holds.1, persists allowed.moves holds.2⟩)
      (fun _ _ _ _ passes holds => persists.passes passes holds) plain
  exact meets.weaken (fun _ _ => id) (fun _ _ _ => id) fun _ _ _ holds => holds.1

/-- Afterwards less may be known. -/
theorem idle (plain : request.Plain True False True True True) :
    request.Credits thread number pre fun _ _ => True :=
  (Credits.plain plain (Persists.const True)).given fun _ _ => trivial

end Request.Credits

/-! ## Making types -/

namespace FactoryId

variable {factory : FactoryId} {cls : ClassId} {wanted : TypeDescription} {bases : List TypeId}
  {pre : Ledger σ -> Prop} {post : α -> Ledger σ -> Prop}

/-- Work under the lock is credited as it would be without. -/
theorem credits_locked {work : Request (Clients σ) α} (before : Persists pre)
    (after : forall answer, Persists (post answer))
    (credits : work.Credits thread number pre post) :
    (factory.locked work).Credits thread number pre post :=
  .bind (.plain (plain_step trivial) before) fun _ => .bind credits.attempt fun outcome =>
    .bind (.plain (plain_step trivial) (.outcome after outcome)) fun _ => .ofExcept after

/-- So is work after which bindings are published. -/
theorem credits_conclude {work : Request (Clients σ) α}
    (after : forall answer, Persists (post answer))
    (credits : work.Credits thread number pre post) :
    (factory.conclude work).Credits thread number pre post := by
  refine .bind credits.attempt fun outcome =>
    .bind (.plain (plain_step trivial) (.outcome after outcome)) fun outermost => ?_
  cases outcome with
  | ok answer =>
      cases outermost with
      | true =>
          exact .bind (.plain plain_publishAll (.outcome after _)) fun _ =>
            .pure (after answer) fun _ holds => holds answer rfl
      | false => exact .pure (after answer) fun _ holds => holds answer rfl
  | error fault =>
      cases outermost with
      | true => exact .bind (.plain (plain_step trivial) (.outcome after _)) fun _ => .throw
      | false => exact .throw

/-- A factory that takes its root type for a base finds one that exists. -/
theorem credits_root :
    Request.Credits (σ := σ) thread number (Commissioned number asked factory bases)
      (factory.view (·.objectType)) fun root now =>
        Commissioned number asked factory (if bases.isEmpty then [root] else bases) now ∧
          Charged number (Suits (if bases.isEmpty then [root] else bases)) now := by
  refine .performWith (persists_commissioned _ _ _ _) (fun root =>
    (persists_commissioned _ _ _ _).and (persists_charged (persists_suits _))) ?_
  intro now root store valid _ commissioned performed
  cases performed
  have moves : Moves thread now ⟨now.store, now.host,
      { now.ghost with genuine := now.ghost.genuine ∧ now.store.Rooted }⟩ := {
    Moves.refl thread now with
    genuine := And.left
    forged := fun genuine rooted _ => ⟨genuine, rooted⟩ }
  refine ⟨_, ⟨valid.remain moves rfl rfl rfl rfl rfl, moves⟩, rfl, ?_⟩
  have commissioned := persists_commissioned _ _ _ _ moves commissioned
  have suits := fun origin (offers : Offers factory bases origin _) =>
    offers.suits commissioned.founded
  refine ⟨⟨commissioned.asks, commissioned.founded, ?_,
      commissioned.charged.imp fun origin offers =>
    ⟨offers.1, .inr (suits origin offers)⟩⟩, commissioned.charged.imp suits⟩
  split
  · rintro ⟨-, rooted⟩ base listed
    cases List.mem_singleton.mp listed
    exact rooted factory commissioned.founded
  · exact commissioned.stand

/-- A type is made of what was read. -/
theorem credits_make {row : GuestType} :
    Request.Credits (σ := σ) thread number
      (fun now => Asks number asked now ∧ Folds (asked.getD .none) row.bases row.kernel now ∧
        Charged number (Suits row.bases) now)
      (Request.perform (.addType row)) fun type now =>
        Credited (asked.map fun _ => number) type now ∧ Bears row.kernel type now := by
  refine .performWith ((persists_asks _ _).and ((persists_folds _ _ _).and
    (persists_charged (persists_suits _)))) (fun type => (persists_credited _ _).and
      (persists_bears _ _)) ?_
  rintro now type store valid innermost ⟨asks, folds, suits⟩ performed
  cases performed
  refine ⟨_, valid.addType innermost asks folds suits, rfl, ?_, TypeTable.made_add _ _, ?_⟩
  · show (now.ghost.described ++ [now.serving thread])[now.store.types.types.size]? = _
    rw [← valid.every, List.getElem?_concat_length, innermost.serving asks]
  · show ((now.store.types.add row).2.row _).kernel = _
    rw [TypeTable.row_add, if_pos rfl]
    rfl

/-- The flags are read from the bases before the type is made. -/
theorem credits_addType {primary : ClassId} {others : List ClassId} {kind : TypeKind}
    (flags : asked.getD .none = wanted.kernel) :
    Request.Credits (σ := σ) thread number (Commissioned number asked factory wanted.bases)
      (factory.addType wanted primary others kind) (Credited (asked.map fun _ => number)) := by
  refine .bind credits_root fun root => ?_
  generalize (if wanted.bases.isEmpty then [root] else wanted.bases) = bases
  have suits : Persists (σ := σ) (Charged number (Suits bases)) :=
    persists_charged (persists_suits bases)
  have read : Request.Credits (σ := σ) thread number
      (fun now => Commissioned number asked factory bases now ∧ Charged number (Suits bases) now)
      (Request.observe (·.types.effectiveKernel wanted.kernel bases)) fun kernel now =>
        Asks number asked now ∧ Folds (asked.getD .none) bases kernel now ∧
          Charged number (Suits bases) now :=
    .observe ((persists_commissioned _ _ _ _).and suits) (fun kernel => (persists_asks _ _).and
      ((persists_folds _ _ _).and suits)) fun _ known =>
        ⟨known.1.asks, fun genuine => ⟨known.1.stand genuine, by rw [flags]⟩, known.2⟩
  exact .bind read fun kernel => credits_make.weaken (fun _ => id) fun _ _ => And.left

/-- A type is made and its classes are prepared. -/
theorem credits_addPartial (wanted : TypeDescription) (flags : asked.getD .none = wanted.kernel) :
    Request.Credits (σ := σ) thread number (Commissioned number asked factory wanted.bases)
      (factory.addPartial wanted) (Credited (asked.map fun _ => number)) := by
  have commissioned : Persists (σ := σ) (Commissioned number asked factory wanted.bases) :=
    persists_commissioned _ _ _ _
  have credited := persists_credited (σ := σ) (asked.map fun _ => number)
  have prepared : forall (type : TypeId) (rep : Representation),
      Request.Credits thread number (Credited (asked.map fun _ => number) type)
        (do factory.prepare wanted.primary rep; return type)
        (Credited (asked.map fun _ => number)) :=
    fun type rep => .bind (.plain (plain_prepare (.inr trivial)) (credited type)) fun _ =>
      .pure (credited type) fun _ => id
  unfold addPartial
  cases wanted.repeated? with
  | some entry => exact .bind (.plain .observe commissioned) fun _ => .throw
  | none =>
      dsimp only
      split
      · split
        · exact .throw
        · exact .bind (.plain inner_shareClass commissioned) fun shared =>
            .bind (.plain .observe commissioned) fun primary => credits_addType flags
      · split
        · exact .bind (credits_addType flags) fun type => prepared type _
        · refine .bind (credits_addType flags) fun type =>
            .bind (.plain (plain_adopt 1 wanted.adopted) (credited type)) fun refused => ?_
          cases refused with
          | some fault => exact .throw
          | none => exact prepared type _

/-- A type is created for the call that describes it. -/
theorem credits_create (wanted : TypeDescription) (flags : asked.getD .none = wanted.kernel) :
    Request.Credits (σ := σ) thread number (Commissioned number asked factory wanted.bases)
      (factory.create wanted) (Credited (asked.map fun _ => number)) := by
  have commissioned : Persists (σ := σ) (Commissioned number asked factory wanted.bases) :=
    persists_commissioned _ _ _ _
  have credited := persists_credited (σ := σ) (asked.map fun _ => number)
  exact credits_locked commissioned credited (.bind (.plain (plain_step trivial) commissioned)
    fun _ => credits_conclude credited (.bind (.plain (plain_view _) commissioned) fun _ =>
      .bind (.plain (.perform trivial rfl rfl) commissioned) fun _ =>
        credits_addPartial wanted flags))

/-- A call that describes no type has one made for a class, without bases and flags. -/
theorem credits_addPlain {name : String} :
    Request.Credits (σ := σ) thread number (Commissioned number none factory [])
      (factory.addPartial (plainDescription name cls)) fun _ _ => True :=
  (credits_addPartial (plainDescription name cls) rfl).weaken (fun _ => id) fun _ _ _ => trivial

/-- A type that is made for a representation is one of its factory, and described by nobody. -/
theorem credits_makeRepresentation :
    Request.Credits (σ := σ) thread number (Commissioned number none factory [])
      (factory.makeRepresentation cls) fun _ _ => True := by
  have commissioned : Persists (σ := σ) (Commissioned number none factory []) :=
    persists_commissioned _ _ _ _
  refine .bind (.plain .observe commissioned) fun row => ?_
  split
  · exact .idle (.bind (.perform trivial rfl rfl) fun _ =>
      .bind (plain_prepare (.inr trivial)) fun _ =>
      .pure _)
  · split
    · exact .throw
    · refine .bind (.plain (plain_step trivial) commissioned) fun _ =>
        .bind credits_addPlain.attempt fun outcome => .idle (.bind (plain_step trivial) fun _ =>
          .bind (.ofExcept outcome) fun _ => .bind plain_found fun found => ?_)
      cases found with
      | some rep => exact .pure _
      | none => exact .throw _

/-- So is a type that comes of a search. -/
theorem credits_search :
    Request.Credits (σ := σ) thread number (Commissioned number none factory [])
      (factory.search cls)
      fun _ _ => True := by
  have commissioned : Persists (σ := σ) (Commissioned number none factory []) :=
    persists_commissioned _ _ _ _
  refine .bind (.plain plain_published commissioned) fun published => ?_
  cases published with
  | some rep => exact .idle (.pure _)
  | none =>
      refine .bind (.plain (plain_step trivial) commissioned) fun _ =>
        credits_conclude (fun _ => Persists.const True)
          (.bind (.plain (plain_view _) commissioned) fun _ =>
            .bind (.plain (.perform trivial rfl rfl) commissioned) fun _ =>
              .bind (.plain .observe commissioned) fun lineage =>
                .bind (.plain (inner_inherited lineage) commissioned) fun inherited => ?_)
      cases inherited with
      | some rep => exact .idle (.pure _)
      | none => exact credits_makeRepresentation

/-- So is a type that comes of finding or creating a representation. -/
theorem credits_findOrCreate :
    Request.Credits (σ := σ) thread number (Commissioned number none factory [])
      (factory.findOrCreate cls) fun _ _ => True := by
  have commissioned : Persists (σ := σ) (Commissioned number none factory []) :=
    persists_commissioned _ _ _ _
  rw [findOrCreate_eq]
  exact .bind (.plain ClassId.plain_ensureInitialised commissioned) fun _ =>
    credits_locked commissioned (fun _ => Persists.const True) credits_search

/-! ## Guest classes and factories -/

/-- A guest class is credited to the call that defines it. -/
theorem credits_defineClass {name : String} {slots : Option (List String)} {dict : Bool} :
    Request.Credits (σ := σ) thread number (Commissioned number (some .none) factory bases)
      (factory.defineClass name bases slots dict) (Credited (some number)) := by
  refine .bind (credits_root.weaken (fun _ => id) fun _ _ => And.left) fun root => ?_
  generalize (if bases.isEmpty then [root] else bases) = bases
  have commissioned : Persists (σ := σ) (Commissioned number (some .none) factory bases) :=
    persists_commissioned _ _ _ _
  exact .bind (.plain plain_layoutSpecification commissioned) fun spec =>
    credits_locked commissioned (persists_credited _)
      (.bind (.plain plain_layoutClass commissioned) fun primary => credits_create {
        name, primary, bases
        features := TypeFlags.replaceable.union (TypeFlags.baseType.union .instantiable) } rfl)

/-- A type that nobody described is made over types that have no flags. -/
theorem credits_makeBare {row : GuestType} (bare : row.kernel = .none) :
    Request.Credits (σ := σ) thread number
      (fun now => (Asks number none now ∧ Uncharged number now) ∧
        forall base, base ∈ row.bases -> Bears .none base now)
      (Request.perform (.addType row)) fun type => Bears .none type := by
  refine credits_make.weaken (fun now given => ⟨given.1.1, fun _ =>
    ⟨fun base listed => (given.2 base listed).1, ?_⟩, given.1.2.imp fun _ => False.elim⟩)
    fun type now made => bare ▸ made.2
  exact bare.trans (TypeTable.effectiveKernel_bare fun base listed => (given.2 base listed).2).symm

/-- The types of a factory ask for no flags, and the second one takes none from the first. -/
theorem credits_makeFactory {config : Configuration} :
    Request.Credits (σ := σ) thread number
      (fun now => Asks number none now ∧ Uncharged number now) (make config)
      fun _ _ => True := by
  have uncharged : Persists (σ := σ) (Uncharged number) :=
    persists_charged fun _ => Persists.const False
  have asks := (persists_asks (σ := σ) number none).and uncharged
  refine .bind (.plain (.perform trivial rfl rfl) asks) fun _ =>
    .bind (.plain SynthesizerId.plain_make asks) fun _ =>
      .bind (((credits_makeBare rfl).keep asks).given
      fun _ asks => ⟨⟨asks, fun _ => nofun⟩, asks⟩) fun root => .bind ((credits_makeBare rfl).given
        fun _ made => ⟨made.2, fun base listed => List.mem_singleton.mp listed ▸ made.1⟩)
          fun type => .idle ?_
  exact .bind (.perform trivial rfl rfl) fun factory => .bind (plain_view _) fun registry =>
    .bind RegistryId.plain_registerAll fun _ => .pure _

end FactoryId

/-! ## Registries -/

namespace RegistryId

variable {registry : RegistryId} {cls : ClassId} {value : Value}

/-- The call describes no type, and has types made for what the registry turns to. -/
structure AsksOf (registry : RegistryId) (call : Call) : Prop where
  undescribed : call.kernel? = none
  names : call.registry? = some registry
  origin : forall store : Store, call.origin? store = (store.registry registry).escalation.origin?

/-- What a resolution needs: a registry that was made, and a call that asks it. -/
def Resolves (number : Nat) (registry : RegistryId) (now : Ledger σ) : Prop :=
  now.store.Turns registry ∧ exists call, Asked number call now ∧ AsksOf registry call

/-- What a resolution needs goes on to be there. -/
theorem persists_resolves : Persists (σ := σ) (Resolves number registry) :=
  (persists_turns registry).and fun _ _ _ moves ⟨call, asked, asks⟩ =>
    ⟨call, moves.calls number call asked, asks⟩

/-- A factory that the registry turns to may have a type made for the call. -/
theorem Resolves.commissioned {now : Ledger σ} {factory : FactoryId}
    (resolves : Resolves number registry now)
    (turned : (now.store.registry registry).escalation = .factory factory) :
    Commissioned number none factory [] now := by
  obtain ⟨⟨made, founded⟩, call, asked, asks⟩ := resolves
  refine ⟨⟨call, asked, asks.undescribed⟩, founded factory turned, fun _ _ => nofun, call, asked,
    fun other names => ?_, fun origin found => ?_⟩
  · cases asks.names.symm.trans names
    exact made
  · rw [asks.origin, turned] at found
    cases found
    exact ⟨rfl, .inl rfl⟩

/-- A type that an escalation makes is one of the factory that the registry turns to. -/
theorem credits_escalate :
    Request.Credits (σ := σ) thread number (Resolves number registry) (registry.escalate cls)
      fun _ _ => True := by
  have turned : forall escalation : Escalation, Persists fun now : Ledger σ =>
      forall factory, escalation = .factory factory -> Commissioned number none factory [] now :=
    fun _ _ _ _ moves turned factory same =>
      persists_commissioned _ _ _ _ moves (turned factory same)
  refine .bind (.observe persists_resolves turned fun now resolves factory same =>
    resolves.commissioned same) fun escalation => ?_
  cases escalation with
  | none => exact .throw
  | gone => exact .throw
  | factory factory =>
      exact FactoryId.credits_findOrCreate.given fun _ turned => turned factory rfl
  | foreign code => exact .idle .escalate

/-- So is a type that comes of resolving a class. -/
theorem credits_resolve :
    Request.Credits (σ := σ) thread number (Resolves number registry) (registry.resolve cls)
      fun _ _ => True := by
  refine .bind (.plain (plain_step trivial rfl) persists_resolves) fun found => ?_
  cases found with
  | some rep => exact .idle (.pure _)
  | none =>
      refine .bind (.plain ClassId.plain_ensureInitialised persists_resolves) fun _ =>
        .bind (.plain (plain_step trivial rfl) persists_resolves) fun found => ?_
      cases found with
      | some rep => exact .idle (.pure _)
      | none => exact .bind credits_escalate fun rep => .idle (plain_step trivial rfl)

/-- So is one that comes of resolving the class of a value. -/
theorem credits_resolveValue :
    Request.Credits (σ := σ) thread number (Resolves number registry) (registry.resolveValue value)
      fun _ _ => True :=
  .bind (.plain .observe persists_resolves) fun _ => credits_resolve

/-- So is one that comes of asking for the type of a value. -/
theorem credits_typeOf :
    Request.Credits (σ := σ) thread number (Resolves number registry) (registry.typeOf value)
      fun _ _ => True :=
  .bind credits_resolveValue fun _ => .idle Representation.plain_typeOf

end RegistryId

/-! ## Calls -/

namespace Attributing

/-- What a call needs: it is the innermost one of its thread, and what it names exists. -/
structure Needs (thread : ThreadId) (number : Nat) (call : Call) (now : Ledger σ) : Prop where
  innermost : Innermost thread number now
  asked : Asked number call now
  stand : Stand call.bases now
  founded : forall factory, call.factory? = some factory -> Founded factory now
  turns : forall registry, call.registry? = some registry -> now.store.Turns registry

/-- What a call achieves: the type that it is answered with was described in it. -/
structure Achieves (thread : ThreadId) (number : Nat) (call : Call)
    (outcome : Except Fault call.Answer) (now : Ledger σ) : Prop where
  innermost : Innermost thread number now
  credited : forall type, CallRecord.made? { call, answer := some outcome } = some type ->
    Credited (some number) type now

variable {call : Call} {now : Ledger σ}

/-- A call asks for the flags that it describes. -/
theorem Needs.asks (needs : Needs thread number call now) : Asks number call.kernel? now :=
  ⟨call, needs.asked, rfl⟩

/-- A call that names a factory commissions it. -/
theorem Needs.commissioned {factory : FactoryId} (needs : Needs thread number call now)
    (names : call.factory? = some factory) :
    Commissioned number call.kernel? factory call.bases now :=
  ⟨needs.asks, needs.founded factory names, needs.stand, call, needs.asked,
    fun registry other => (needs.turns registry other).1, fun origin found => by
      obtain rfl := Call.origin?_of_factory names found
      exact ⟨rfl, .inl rfl⟩⟩

end Attributing

namespace Call

variable {call : Call} {pre : Ledger σ -> Prop} {post : call.Answer -> Ledger σ -> Prop}

/-- A call that was refused has made nothing. -/
theorem made?_error {fault : Fault} :
    CallRecord.made? { call, answer := some (.error fault) } = none := by
  cases call <;> rfl

/-- A call that describes no type is answered with none. -/
theorem made?_undescribed {answer : Option (Except Fault call.Answer)}
    (none : call.kernel? = none) :
    CallRecord.made? { call, answer } = Option.none := by
  cases call with
  | create _ _ | defineClass _ _ _ _ _ => cases none
  | _ => rfl

/-- Every call meets the rules by the triple of its request. -/
theorem meets_of_credits (credits : call.request.Credits thread number pre post)
    (before : forall now, Needs thread number call now -> pre now)
    (after : forall answer now, post answer now -> forall type,
      CallRecord.made? { call, answer := some (.ok answer) } = some type ->
        Credited (some number) type now) :
    attributing.Meets (σ := Clients σ) thread none (Needs thread number call) call.request
      (fun answer => Achieves thread number call (.ok answer))
      fun fault => Achieves thread number call (.error fault) :=
  Meets.weaken credits (fun now _ needs => ⟨needs.innermost, before now needs⟩)
    (fun answer now _ ended => ⟨ended.1, after answer now ended.2⟩)
    fun _ _ _ innermost => ⟨innermost, fun _ made => nomatch made?_error.symm.trans made⟩

/-- A call that describes no type is answered with none that was described. -/
theorem meets_undescribed (none : call.kernel? = none)
    (credits : call.request.Credits thread number pre post)
    (before : forall now, Needs thread number call now -> pre now) :
    attributing.Meets (σ := Clients σ) thread Option.none (Needs thread number call) call.request
      (fun answer => Achieves thread number call (.ok answer))
      fun fault => Achieves thread number call (.error fault) :=
  meets_of_credits credits before fun _ _ _ _ made =>
    nomatch (made?_undescribed none).symm.trans made

/-- Nor does one that makes no types need anything. -/
theorem meets_untyped (none : call.kernel? = none) (makes : ¬ call.MakesTypes) :
    attributing.Meets (σ := Clients σ) thread Option.none (Needs thread number call) call.request
      (fun answer => Achieves thread number call (.ok answer))
      fun fault => Achieves thread number call (.error fault) := by
  have idle : call.request.Credits (σ := σ) thread number (fun _ => True) fun _ _ => True :=
    .idle ((plain_request call).mono (fun _ => trivial) makes (fun _ => trivial)
      (fun _ => trivial) fun _ => trivial)
  exact meets_undescribed none idle fun _ _ => trivial

end Call

/-- Every call keeps to the rules of attribution. -/
theorem Call.meets_attributing (call : Call) :
    attributing.Meets (σ := Clients σ) thread none (Needs thread number call) call.request
      (fun answer => Achieves thread number call (.ok answer))
      fun fault => Achieves thread number call (.error fault) := by
  cases call with
  | create factory wanted =>
      refine meets_of_credits (FactoryId.credits_create wanted rfl)
        (fun _ needs => needs.commissioned rfl) ?_
      rintro type now credited _ ⟨⟩
      exact credited
  | defineClass factory name bases slots dict =>
      refine meets_of_credits FactoryId.credits_defineClass
        (fun _ needs => needs.commissioned rfl) ?_
      rintro type now credited _ ⟨⟩
      exact credited
  | makeFactory config =>
      exact meets_undescribed rfl FactoryId.credits_makeFactory fun _ needs =>
        ⟨needs.asks, _, needs.asked, nofun, nofun⟩
  | findOrCreate factory cls =>
      exact meets_undescribed rfl FactoryId.credits_findOrCreate fun _ needs =>
        needs.commissioned rfl
  | resolve registry cls =>
      exact meets_undescribed rfl RegistryId.credits_resolve fun _ needs =>
        ⟨needs.turns registry rfl, _, needs.asked, rfl, rfl, fun _ => rfl⟩
  | resolveValue registry value =>
      exact meets_undescribed rfl RegistryId.credits_resolveValue fun _ needs =>
        ⟨needs.turns registry rfl, _, needs.asked, rfl, rfl, fun _ => rfl⟩
  | typeOf registry value =>
      exact meets_undescribed rfl RegistryId.credits_typeOf fun _ needs =>
        ⟨needs.turns registry rfl, _, needs.asked, rfl, rfl, fun _ => rfl⟩
  | declare _ | ensureInitialised _ | makeRegistry _ | loseEscalation _ | lookup _ _
  | register _ _ _
  | registerAll _ _ | find _ _ | newInstance _ | makeSynthesizer _ | uniqueName _ _ | synthesize _ _
  | redirect _ _ | makeLoader | defineBody _ _ | allocate _ | makeObject _ _ | slot _ _
  | setSlot _ _ _ | deleteSlot _ _ | setType _ _ | setDict _ _ | exchangeEntry _ _ _ =>
      exact meets_untyped rfl id

end GuestTypes
