import GuestTypes.Proofs.Hosting
import GuestTypes.Proofs.Typing

/-!
# Requests that keep what objects carry

Most requests take modest actions only, and keep to the rules for that. What is left are the
requests that make types with shared representations, which must have found them where such
things are found, and the one that stores the type of an object, which must have checked it.
All that is known in the middle of a request stays so, whatever other threads do.
-/

namespace GuestTypes

open Discipline

variable {σ α β : Type} {thread : ThreadId}

/-! ## Triples -/

theorem typing_free : (typing (σ := σ)).Free := fun _ _ => trivial

/-- No step of any thread undoes the assertion. -/
def Typing.Persists (assertion : Sight σ -> Prop) : Prop :=
  forall ⦃before after⦄, Typing.Moves before after -> assertion before -> assertion after

open Typing

namespace Typing.Persists

variable {first second : Sight σ -> Prop}

/-- What persists is not disturbed by other threads. -/
theorem stable (persists : Persists first) : typing.Stable thread first :=
  fun _ _ _ _ _ allowed holds => persists allowed.moves holds

/-- What persists outlasts whatever its own thread does meanwhile. -/
theorem frame (persists : Persists first) {call : Option Nat} :
    typing.Frame thread call first :=
  .of_moves fun _ allowed holds => persists allowed.moves holds

/-- What persists holds for ever after. -/
theorem onward (persists : Persists first) {now later : Sight σ} (onward : typing.Onward now later)
    (holds : first now) : first later := by
  induction onward with
  | refl => exact holds
  | step _ _ _ _ allowed inductionHypothesis => exact persists allowed.moves inductionHypothesis

theorem and (left : Persists first) (right : Persists second) :
    Persists fun now => first now ∧ second now :=
  fun _ _ moves holds => ⟨left moves holds.1, right moves holds.2⟩

theorem const (fact : Prop) : Persists (fun _ : Sight σ => fact) := fun _ _ _ holds => holds

end Typing.Persists

/-- From the precondition the request keeps to the rules, and its answer meets the
postcondition. -/
def Request.Heeds (thread : ThreadId) (pre : Sight σ -> Prop) (request : Request (Clients σ) α)
    (post : α -> Sight σ -> Prop) : Prop :=
  typing.Meets thread none pre request post fun _ _ => True

/-- The request keeps to the rules. -/
abbrev Request.Heedful (thread : ThreadId) (request : Request (Clients σ) α) : Prop :=
  request.Heeds thread (fun _ => True) fun _ _ => True

namespace Request.Heeds

variable {pre : Sight σ -> Prop} {request : Request (Clients σ) α} {post : α -> Sight σ -> Prop}

theorem pure {answer : α} (persists : Persists (post answer))
    (holds : forall now, pre now -> post answer now) :
    Request.Heeds thread pre (Pure.pure answer) post :=
  Meets.pure persists.stable fun now _ => holds now

theorem throw {fault : Fault} :
    Request.Heeds thread pre (throw fault : Request (Clients σ) α) post :=
  Meets.throw (Persists.const _).stable fun _ _ _ => trivial

/-- What the first request leads to the second one starts from. -/
theorem bind {middle : α -> Sight σ -> Prop} {next : α -> Request (Clients σ) β}
    {post : β -> Sight σ -> Prop} (first : request.Heeds thread pre middle)
    (rest : forall answer, (next answer).Heeds thread (middle answer) post) :
    Request.Heeds thread pre (request >>= next) post :=
  Meets.bind first rest

/-- Less may be relied on, and more promised. -/
theorem weaken {weaker : Sight σ -> Prop} {stronger : α -> Sight σ -> Prop}
    (heeds : request.Heeds thread weaker stronger) (before : forall now, pre now -> weaker now)
    (after : forall answer now, stronger answer now -> post answer now) :
    request.Heeds thread pre post :=
  Meets.weaken heeds (fun now _ => before now) (fun answer now _ => after answer now)
    fun _ _ _ => id

/-- Any precondition will do for a request that needs none, and any answer for one that promises
nothing. -/
theorem given (heeds : request.Heeds thread (fun _ => True) post) :
    request.Heeds thread pre post :=
  heeds.weaken (fun _ _ => trivial) fun _ _ => id

/-- What no step undoes may be used before and after. -/
theorem keeping {kept : Sight σ -> Prop} (heeds : request.Heeds thread pre post)
    (persists : Persists kept) :
    request.Heeds thread (fun now => pre now ∧ kept now) fun answer now =>
      post answer now ∧ kept now :=
  (Meets.framed heeds persists.frame).weaken (fun _ _ => id) (fun _ _ _ => id)
    fun _ _ _ _ => trivial

/-- An action that is allowed with what it adds to the ghost. -/
theorem performWith {action : Action α} (before : Persists pre)
    (after : forall answer, Persists (post answer))
    (step : forall (now : Sight σ) answer store, Valid now -> pre now ->
      action.perform thread now.store = some (answer, store) ->
        exists ghost, typing.Allows thread now ⟨store, now.host, ghost⟩ ∧
          post answer ⟨store, now.host, ghost⟩) :
    Request.Heeds thread pre (Request.perform action) post := by
  apply Meets.performWith before.stable fun answer => (after answer).stable
  intro now answer store valid holds performed
  obtain ⟨ghost, allowed, ended⟩ := step now answer store valid holds performed
  exact ⟨ghost, allowed, trivial, ended⟩

/-- An action that is allowed and adds nothing to the ghost. -/
theorem perform {action : Action α} (before : Persists pre)
    (after : forall answer, Persists (post answer))
    (step : forall (now : Sight σ) answer store, Valid now -> pre now ->
      action.perform thread now.store = some (answer, store) ->
        typing.Allows thread now (now.withStore store) ∧ post answer (now.withStore store)) :
    Request.Heeds thread pre (Request.perform action) post :=
  performWith before after fun now answer store valid holds performed =>
    ⟨now.ghost, step now answer store valid holds performed⟩

/-- A step of a registry, after which the guard is given back. -/
theorem registryStep {registry : RegistryId} {step : Registry.Step α} (before : Persists pre)
    (after : forall answer, Persists (post answer))
    (acts : forall (now : Sight σ) answer store, Valid now -> pre now ->
      (Action.registry registry step).perform thread now.store = some (answer, store) ->
        typing.Allows thread now (now.withStore store) ∧ post answer (now.withStore store)) :
    Request.Heeds thread pre (registry.step step) post := by
  refine .bind (.perform before after acts) fun answer =>
    .bind (.perform (after answer) (fun _ => after answer) ?_) fun _ =>
      .pure (after answer) fun _ => id
  intro now _ store valid holds performed
  have modest : (Action.release registry).Modest False True True True := trivial
  have allowed := valid.modest modest performed
  exact ⟨allowed, after answer allowed.moves holds⟩

/-- To look at the store says something of what is seen. -/
theorem observe {view : Store -> α} (before : Persists pre)
    (after : forall answer, Persists (post answer))
    (sees : forall now, Valid now -> pre now -> post (view now.store) now) :
    Request.Heeds thread pre (Request.observe view) post :=
  Meets.observe before.stable (fun answer => (after answer).stable) sees

/-- A fault of the work is an answer of the attempt. -/
theorem attempt (work : request.Heeds thread pre post) :
    Request.Heeds thread pre request.attempt fun outcome now =>
      forall answer, outcome = .ok answer -> post answer now := by
  have attempted : Request.Heeds thread pre request.attempt (Ends post fun _ _ => True) :=
    Meets.attempt work
  refine attempted.weaken (fun _ => id) ?_
  rintro outcome now ended answer rfl
  exact ended

/-- A request of modest actions keeps what persists, also through the host code that it runs. -/
theorem plain (plain : request.Plain False True True True True) (persists : Persists pre) :
    request.Heeds thread pre fun _ => pre := by
  have meets : typing.Meets thread none pre request (fun _ => pre) fun _ => pre :=
    Meets.plain typing_free persists.stable
      (fun valid holds modest performed =>
        have allowed := Valid.modest valid modest performed
        ⟨allowed, persists allowed.moves holds⟩)
      (fun _ _ _ _ passes holds => persists.onward passes.onward holds) plain
  exact meets.weaken (fun _ _ holds => holds) (fun _ _ _ holds => holds) fun _ _ _ _ => trivial

end Request.Heeds

namespace Request.Heedful

variable {request : Request (Clients σ) α}

/-- A request that neither shares representations nor stores types keeps to the rule of types. -/
theorem plain (plain : request.Plain False True True True True) : request.Heedful thread :=
  Heeds.plain plain (Persists.const _)

/-- Requests one after the other keep to the rule. -/
theorem bind {middle : α -> Sight σ -> Prop} {next : α -> Request (Clients σ) β}
    (first : request.Heeds thread (fun _ => True) middle)
    (rest : forall answer, (next answer).Heedful thread) :
    Request.Heedful thread (request >>= next) :=
  Heeds.bind first fun answer => (rest answer).given

/-- A request whose fault is an answer keeps to it as well. -/
theorem attempt (heedful : request.Heedful thread) :
    Request.Heeds thread (fun _ => True) request.attempt fun _ _ => True :=
  (Heeds.attempt heedful).weaken (fun _ => id) fun _ _ _ => trivial

end Request.Heedful

/-! ## What is found under a lock -/

namespace Typing

/-- If the representation is a shared one, it is known. -/
def Backs (rep : Representation) (now : Sight σ) : Prop :=
  forall shared, rep = .shared shared -> now.store.Known shared

/-- If a representation was found, it is known. -/
def Finds (found : Option Representation) (now : Sight σ) : Prop :=
  forall rep, found = some rep -> Backs rep now

/-- There is nothing to know of a class for which nothing was found. -/
theorem finds_none (now : Sight σ) : Finds none now := fun _ found => nomatch found

/-- A shared representation that is known stays so. -/
theorem persists_known (shared : SharedId) :
    Persists fun now : Sight σ => now.store.Known shared :=
  fun _ _ moves known => moves.known known

/-- A shared representation goes on to suit a class. -/
theorem persists_suits (shared : SharedId) (cls : ClassId) :
    Persists (Suits (σ := σ) shared cls) :=
  fun _ _ moves suits => moves.suits suits

/-- What backs a representation goes on to do so. -/
theorem persists_backs (rep : Representation) : Persists (Backs (σ := σ) rep) :=
  fun _ _ moves backs shared same => moves.known (backs shared same)

/-- What is known of a representation that was found stays known. -/
theorem persists_finds (found : Option Representation) : Persists (Finds (σ := σ) found) :=
  fun _ _ moves finds rep same => persists_backs rep moves (finds rep same)

end Typing

namespace FactoryId

variable {factory : FactoryId} {cls : ClassId} {rep : Representation} {wanted : TypeDescription}

/-- What a factory has published is known. -/
theorem heeds_published :
    Request.Heeds (σ := σ) thread (fun _ => True) (factory.published cls) Finds := by
  refine .bind (.plain (plain_view _) (Persists.const _)) fun registry =>
    .registryStep (Persists.const _) persists_finds ?_
  intro now found store valid _ performed
  have allowed : typing.Allows thread now (now.withStore store) := valid.registry performed
  refine ⟨allowed, persists_finds found allowed.moves ?_⟩
  obtain ⟨rfl, -⟩ := perform_registry performed
  rintro rep bound shared rfl
  exact .inr ⟨registry, cls, bound⟩

/-- So is what it finds, prepared or published. -/
theorem heeds_found : Request.Heeds (σ := σ) thread (fun _ => True) (factory.found cls) Finds := by
  refine .bind heeds_published fun published => ?_
  cases published with
  | some rep => exact .pure (persists_finds _) fun _ => id
  | none =>
      refine Request.Heeds.given (.observe (Persists.const _) persists_finds ?_)
      intro now valid _ rep prepared shared same
      obtain ⟨binding, found, rfl⟩ := Option.map_eq_some_iff.mp prepared
      have member := List.mem_of_find?_eq_some found
      apply valid.prepared factory binding.1 shared
      rw [← same]
      exact member

/-- A clash has no answer. -/
theorem heeds_clash {mode : ClashMode} {context : Option String} {pre : Sight σ -> Prop}
    {post : α -> Sight σ -> Prop} :
    Request.Heeds thread pre (clash mode cls rep context : Request (Clients σ) α) post :=
  Request.Heeds.given (.bind (.plain .observe (Persists.const _)) fun _ => .throw)

/-- A binding is prepared of what is known. -/
theorem heeds_prepareStep :
    Request.Heeds (σ := σ) thread (Backs rep) (factory.step (.prepare cls rep))
      fun _ _ => True := by
  refine .perform (persists_backs rep) (fun _ => Persists.const _) ?_
  intro now answer store valid backs performed
  refine ⟨valid.factory performed fun other shared prepares => ?_, trivial⟩
  cases prepares
  exact backs shared rfl

/-- So is one that may clash with what is published. -/
theorem heeds_prepare :
    Request.Heeds (σ := σ) thread (Backs rep) (factory.prepare cls rep) fun _ _ => True := by
  refine .bind (.plain plain_found (persists_backs rep)) fun found => ?_
  cases found with
  | some existing =>
      exact Request.Heeds.given (.bind (.plain (plain_view _) (Persists.const _)) fun _ =>
        heeds_clash)
  | none => exact heeds_prepareStep

/-- Work under the lock keeps to the rule as it would without. -/
theorem heedful_locked {work : Request (Clients σ) α} (heedful : work.Heedful thread) :
    Request.Heedful thread (factory.locked work) :=
  .bind (.plain (plain_step trivial) (Persists.const _)) fun _ =>
    .bind heedful.attempt fun outcome => .bind (.plain (plain_step trivial) (Persists.const _))
      fun _ => .plain (.ofExcept outcome)

/-- So does work after which bindings are published. -/
theorem heedful_conclude {work : Request (Clients σ) α} (heedful : work.Heedful thread) :
    Request.Heedful thread (factory.conclude work) := by
  refine .bind heedful.attempt fun outcome =>
    .bind (.plain (plain_step trivial) (Persists.const _)) fun outermost => .plain ?_
  cases outcome with
  | ok answer =>
      cases outermost with
      | true => exact .bind plain_publishAll fun _ => .pure _
      | false => exact .pure _
  | error fault =>
      cases outermost with
      | true => exact .bind (plain_step trivial) fun _ => .throw _
      | false => exact .throw _

/-! ## Making types -/

/-- A shared representation that is added is known from then on. -/
theorem heeds_addShared {row : SharedRepresentation} : Request.Heeds (σ := σ) thread (fun _ => True)
    (Request.perform (.addShared row)) fun shared now => now.store.Known shared := by
  refine .perform (Persists.const _) persists_known ?_
  intro now shared store valid _ performed
  cases performed
  exact ⟨valid.addShared, .inl (TypeTable.madeShared_addShared _ row)⟩

/-- A shared representation that is known is prepared, and goes on to be known. -/
theorem heeds_prepareShared {shared : SharedId} :
    Request.Heeds (σ := σ) thread (fun now => now.store.Known shared)
      (factory.prepare cls (.shared shared)) fun _ now => now.store.Known shared := by
  refine (heeds_prepare.keeping (persists_known shared)).weaken ?_ fun _ _ holds => holds.2
  refine fun now known => ⟨?_, known⟩
  rintro other ⟨⟩
  exact known

/-- A representation that is shared with a class suits it. -/
theorem heeds_shareClass : Request.Heeds (σ := σ) thread (fun _ => True)
    (factory.shareClass wanted) fun shared now => now.store.Known shared := by
  refine .bind heeds_found fun found => ?_
  cases found with
  | none =>
      exact Request.Heeds.given (.bind (.plain .observe (Persists.const _)) fun _ =>
        .bind heeds_addShared fun shared => .bind heeds_prepareShared fun _ =>
          .pure (persists_known shared) fun _ => id)
  | some existing =>
      cases existing with
      | shared shared => exact .pure (persists_known shared) fun now finds => finds _ rfl shared rfl
      | canonical type => exact heeds_clash
      | adopted owner index => exact heeds_clash

/-- A type fits its shared representation, unless that was bound before it existed. -/
theorem heedful_addReplaceable :
    Request.Heedful (σ := σ) thread (factory.addReplaceable wanted) := by
  refine Request.Heeds.bind heeds_shareClass fun shared => ?_
  refine .bind (.performWith (persists_known shared) (persists_suits shared) ?_) fun primary => ?_
  · intro now primary store valid known performed
    cases performed
    by_cases made : now.store.types.MadeShared shared
    · exact ⟨now.ghost, ⟨valid, .refl now⟩, .inr ⟨made, rfl⟩⟩
    · exact ⟨_, valid.forge known made, .inl (.inl rfl)⟩
  · refine .bind (.plain (plain_view _) (persists_suits shared primary)) fun root =>
      .bind (.plain .observe (persists_suits shared primary)) fun kernel =>
        .perform (persists_suits shared primary) (fun _ => Persists.const _) ?_
    intro now type store valid suits performed
    cases performed
    refine ⟨valid.addType ?_, trivial⟩
    rintro other ⟨⟩
    exact suits

/-- Types with shared representations apart, making types takes modest actions. -/
theorem heedful_addPartial : Request.Heedful (σ := σ) thread (factory.addPartial wanted) := by
  cases replaceable : wanted.isReplaceable with
  | false =>
      apply Request.Heedful.plain
      apply plain_addPartial
      rw [replaceable]
      nofun
  | true =>
      unfold addPartial
      cases wanted.repeated? with
      | some entry => exact .bind (.plain .observe (Persists.const _)) fun _ => .throw
      | none =>
          simp only [replaceable, if_true]
          split
          · exact .throw
          · exact heedful_addReplaceable

/-- To create a type keeps to the rule of types. -/
theorem heedful_create : Request.Heedful (σ := σ) thread (factory.create wanted) :=
  heedful_locked (.bind (.plain (plain_step trivial) (Persists.const _)) fun _ =>
    heedful_conclude (.bind (.plain (plain_view _) (Persists.const _)) fun _ =>
      .bind (.plain (.perform trivial rfl rfl) (Persists.const _)) fun _ => heedful_addPartial))

/-- What a class inherits is known. -/
theorem heeds_inherited (lineage : List ClassId) :
    Request.Heeds (σ := σ) thread (fun _ => True) (factory.inherited lineage) Finds := by
  induction lineage with
  | nil => exact .pure (persists_finds _) fun _ _ => finds_none _
  | cons cls above inductionHypothesis =>
      refine .bind heeds_found fun found => ?_
      cases found with
      | some rep => exact .pure (persists_finds _) fun _ => id
      | none =>
          refine Request.Heeds.given (.bind (.plain .observe (Persists.const _))
            fun takesOver => ?_)
          split
          · exact .pure (persists_finds _) fun _ _ => finds_none _
          · refine .bind inductionHypothesis fun inherited => ?_
            cases inherited with
            | none => exact .pure (persists_finds _) fun _ _ => finds_none _
            | some rep =>
                refine .bind ((heeds_prepareStep.keeping (persists_backs rep)).weaken
                  (fun now finds => ?_) fun _ _ => id) fun _ => ?_
                · exact ⟨finds rep rfl, finds rep rfl⟩
                · refine .pure (persists_finds _) ?_
                  rintro now ⟨-, backs⟩ other ⟨⟩
                  exact backs

/-- To make a representation keeps to it. -/
theorem heedful_makeRepresentation :
    Request.Heedful (σ := σ) thread (factory.makeRepresentation cls) := by
  refine .bind (.plain .observe (Persists.const _)) fun row => ?_
  split
  · exact Request.Heeds.bind heeds_addShared fun shared => .bind heeds_prepareShared fun _ =>
      .pure (Persists.const _) fun _ _ => trivial
  · split
    · exact .throw
    · refine .bind (.plain (plain_step trivial) (Persists.const _)) fun _ =>
        .bind heedful_addPartial.attempt fun outcome =>
          .bind (.plain (plain_step trivial) (Persists.const _)) fun _ =>
            .bind (.plain (.ofExcept outcome) (Persists.const _)) fun _ => .plain ?_
      refine .bind plain_found fun found => ?_
      cases found with
      | some rep => exact .pure _
      | none => exact .throw _

/-- To search for a class keeps to it. -/
theorem heedful_search : Request.Heedful (σ := σ) thread (factory.search cls) := by
  refine .bind heeds_published fun published => ?_
  cases published with
  | some rep => exact .plain (.pure _)
  | none =>
      refine .bind (.plain (plain_step trivial) (Persists.const _)) fun _ => heedful_conclude
        (.bind (.plain (plain_view _) (Persists.const _)) fun _ =>
          .bind (.plain (.perform trivial rfl rfl) (Persists.const _)) fun _ =>
            .bind (.plain .observe (Persists.const _)) fun lineage =>
              .bind (heeds_inherited lineage) fun inherited => ?_)
      cases inherited with
      | some rep => exact .plain (.pure _)
      | none => exact heedful_makeRepresentation

/-- To find or create the representation of a class keeps to it. -/
theorem heedful_findOrCreate : Request.Heedful (σ := σ) thread (factory.findOrCreate cls) := by
  rw [findOrCreate_eq]
  exact .bind (.plain ClassId.plain_ensureInitialised (Persists.const _)) fun _ =>
    heedful_locked heedful_search

/-- To define a guest class keeps to it. -/
theorem heedful_defineClass {name : String} {bases : List TypeId} {slots : Option (List String)}
    {dict : Bool} :
    Request.Heedful (σ := σ) thread (factory.defineClass name bases slots dict) :=
  .bind (.plain (plain_view _) (Persists.const _)) fun _ =>
    .bind (.plain plain_layoutSpecification (Persists.const _)) fun _ =>
      heedful_locked (.bind (.plain plain_layoutClass (Persists.const _)) fun _ => heedful_create)

end FactoryId

/-! ## Registries -/

namespace RegistryId

variable {registry : RegistryId} {cls : ClassId} {value : Value}

/-- To escalate keeps to it. -/
theorem heedful_escalate : Request.Heedful (σ := σ) thread (registry.escalate cls) := by
  refine .bind (.plain .observe (Persists.const _)) fun escalation => ?_
  cases escalation with
  | none => exact .throw
  | gone => exact .throw
  | factory factory => exact FactoryId.heedful_findOrCreate
  | foreign code => exact .plain .escalate

/-- To resolve a class keeps to it. -/
theorem heedful_resolve : Request.Heedful (σ := σ) thread (registry.resolve cls) := by
  refine .bind (.plain (plain_step trivial rfl) (Persists.const _)) fun found => ?_
  cases found with
  | some rep => exact .plain (.pure _)
  | none =>
      refine .bind (.plain ClassId.plain_ensureInitialised (Persists.const _)) fun _ =>
        .bind (.plain (plain_step trivial rfl) (Persists.const _)) fun found => ?_
      cases found with
      | some rep => exact .plain (.pure _)
      | none => exact .bind heedful_escalate fun rep => .plain (plain_step trivial rfl)

/-- To resolve the class of a value keeps to it. -/
theorem heedful_resolveValue : Request.Heedful (σ := σ) thread (registry.resolveValue value) :=
  .bind (.plain .observe (Persists.const _)) fun _ => heedful_resolve

/-- To ask for the type of a value keeps to it. -/
theorem heedful_typeOf : Request.Heedful (σ := σ) thread (registry.typeOf value) :=
  .bind heedful_resolveValue fun _ => .plain Representation.plain_typeOf

end RegistryId

/-! ## Objects -/

namespace Typing

/-- Whoever sets out to store a type of the object will find one. -/
def Steady (object : ObjectId) (now : Sight σ) : Prop :=
  now.ghost.loose object ∨ exists shared, now.store.Carries object shared

/-- Whoever stores a type of the object goes on to find one there. -/
theorem persists_steady (object : ObjectId) : Persists (Steady (σ := σ) object) := by
  rintro before after moves steady
  by_cases loose : before.ghost.loose object
  · exact .inl (moves.loose object loose)
  · obtain ⟨shared, carries⟩ := steady.resolve_left loose
    exact .inr ⟨shared, (moves.carried object shared loose carries).2⟩

/-- The type that was found on the object. Unless the object is loose, it has a type, and goes on
to carry types with the representation of that one. -/
def Held (object : ObjectId) (held : Option TypeId) (now : Sight σ) : Prop :=
  now.ghost.loose object ∨ exists shared, now.store.Carries object shared ∧
    exists type, held = some type ∧ (now.store.types.row type).sharedRepresentation = some shared

/-- What was found on an object stays true of it. -/
theorem persists_held (object : ObjectId) (held : Option TypeId) :
    Persists (Held (σ := σ) object held) := by
  rintro before after moves was
  by_cases loose : before.ghost.loose object
  · exact .inl (moves.loose object loose)
  · obtain ⟨shared, carries, type, same, shares⟩ := was.resolve_left loose
    exact .inr ⟨shared, (moves.carried object shared loose carries).2, type, same,
      moves.shares shares⟩

/-- The types that were seen are still there. -/
def Shows (types : TypeTable) (now : Sight σ) : Prop :=
  forall type shared, (types.row type).sharedRepresentation = some shared ->
    (now.store.types.row type).sharedRepresentation = some shared

/-- What was seen of the types stays true. -/
theorem persists_shows (types : TypeTable) : Persists (Shows (σ := σ) types) :=
  fun _ _ moves shows type shared shares => moves.shares (shows type shared shares)

/-- A type that may be stored in an object may be so for ever after. -/
theorem persists_takes (object : ObjectId) (type : TypeId) :
    Persists (Takes (σ := σ) object type) := by
  rintro before after moves takes
  by_cases loose : before.ghost.loose object
  · exact .inl (moves.loose object loose)
  · obtain ⟨shared, carries, shares⟩ := takes.resolve_left loose
    exact .inr ⟨shared, (moves.carried object shared loose carries).2, moves.shares shares⟩

end Typing

namespace ObjectId

variable {object : ObjectId} {type : TypeId}

/-- A type that passes the check shares the representation that the object carries types with. -/
theorem heeds_checkType {held : TypeId} : Request.Heeds (σ := σ) thread (Held object (some held))
    (checkType held type) fun _ => Takes object type := by
  refine .bind (.observe (persists_held object _) (fun types => (persists_held object _).and
    (persists_shows types)) fun now _ held => ⟨held, fun _ _ => id⟩) fun types => ?_
  cases same : types.hasSameLayout held type with
  | false => exact .throw
  | true =>
      refine .pure (persists_takes object type) ?_
      rintro now ⟨held, shows⟩
      obtain ⟨shared, first, last⟩ := TypeTable.hasSameLayout_iff.mp same
      refine held.imp_right ?_
      rintro ⟨other, carries, found, ⟨⟩, shares⟩
      cases shares.symm.trans (shows _ _ first)
      exact ⟨shared, carries, shows _ _ last⟩

/-- What passes the check may be stored. -/
theorem heeds_checkClassAssignment : Request.Heeds (σ := σ) thread (Steady object)
    (object.checkClassAssignment type) fun _ => Takes object type := by
  refine .bind (.observe (persists_steady object) (persists_held object) ?_) fun held => ?_
  · intro now _ steady
    refine steady.imp_right fun ⟨shared, carries⟩ => ?_
    obtain ⟨type, carried, shares⟩ := carries.type
    exact ⟨shared, carries, type, carried, shares⟩
  · cases held with
    | none =>
        exact .pure (persists_takes object type) fun now held =>
          .inl (held.resolve_right fun ⟨_, _, _, none_, _⟩ => nomatch none_)
    | some held => exact heeds_checkType

/-- The type of an object is set only to one that it may take. -/
theorem heedful_setType : Request.Heeds (σ := σ) thread (Steady object) (object.setType type)
    fun _ _ => True := by
  refine .bind heeds_checkClassAssignment fun _ => ?_
  refine .perform (persists_takes object type) (fun _ => Persists.const _) ?_
  intro now answer store valid takes performed
  cases performed
  exact ⟨valid.storeType takes, trivial⟩

end ObjectId

/-! ## New instances -/

namespace Typing

/-- The row is that of the type, if the type shares its representation. -/
def RowOf (type : TypeId) (row : GuestType) (now : Sight σ) : Prop :=
  row.isReplaceable = true -> now.store.types.row type = row

/-- The layout is that of the class. -/
def LaidOut (cls : ClassId) (layout : Layout) (now : Sight σ) : Prop :=
  (now.store.hierarchy.row cls).layout = some layout

/-- The row of a type does not change. -/
theorem persists_rowOf (type : TypeId) (row : GuestType) : Persists (RowOf (σ := σ) type row) := by
  intro before after moves rowOf replaceable
  obtain ⟨shared, shares⟩ := Option.isSome_iff_exists.mp replaceable
  have same := rowOf replaceable
  rw [← same] at shares ⊢
  exact moves.types.row type (TypeTable.made_of_sharedRepresentation shares)

/-- The layout of a class does not change. -/
theorem persists_laidOut (cls : ClassId) (layout : Layout) :
    Persists (LaidOut (σ := σ) cls layout) := by
  intro before after moves laid
  unfold LaidOut at laid ⊢
  rw [moves.hierarchy.row cls]
  · exact laid
  · apply Classical.byContradiction
    intro absent
    rw [Hierarchy.row_eq_root absent] at laid
    cases laid

/-- The row has the layout of the class, if it has one. -/
theorem persists_lays (cls : ClassId) (row : HostClass) : Persists fun now : Sight σ =>
    forall layout, row.layout = some layout -> LaidOut cls layout now :=
  fun _ _ moves lays layout has => persists_laidOut cls layout moves (lays layout has)

/-- An object goes on to be built as its class wants it. -/
theorem persists_built (cls : ClassId) (object : ObjectId) :
    Persists fun now : Sight σ => Built now cls object :=
  fun _ _ moves built => moves.built built

/-- An instance of a type goes on to be one. -/
theorem persists_instanceOf (type : TypeId) (object : ObjectId) :
    Persists fun now : Sight σ => InstanceOf now type object :=
  fun _ _ moves made => moves.instanceOf made

end Typing

/-- An object that is made with the layout of a class, and with a dictionary if that has one. -/
theorem Typing.Built.allocate {now : Sight σ} {fields : Instance} {layout : Layout}
    (laid : LaidOut fields.cls layout now) (layoutOf : fields.layout = some layout)
    (carried : fields.type.isSome = true) (dict : fields.dict.isSome = layout.hasDict) :
    Built (now.withStore { now.store with heap := now.store.heap.push (.composite fields) })
      fields.cls ⟨now.store.heap.size⟩ := by
  have found : Heap.object (now.store.heap.push (.composite fields)) ⟨now.store.heap.size⟩ =
      .composite fields := (Table.get_push _ _ _).trans (if_pos rfl)
  refine ⟨Table.lt_size_push _ _,
    ⟨layout, laid, (congrArg (·.fields.layout) found).trans layoutOf, ?_⟩,
    congrArg HeapObject.hostClass found⟩
  show (Heap.object (now.store.heap.push (.composite fields)) _).Furnished layout
  rw [found]
  exact ⟨carried, dict⟩

/-- An object that is made with the class and the layout of a type is an instance of it. -/
theorem Typing.InstanceOf.allocate {now : Sight σ} {type : TypeId} {fields : Instance}
    {shared : SharedId}
    (shares : (now.store.types.row type).sharedRepresentation = some shared)
    (built : Built
      (now.withStore { now.store with heap := now.store.heap.push (.composite fields) })
      (now.store.types.row type).primary ⟨now.store.heap.size⟩)
    (carried : fields.type = some type) :
    InstanceOf (now.withStore { now.store with heap := now.store.heap.push (.composite fields) })
      type ⟨now.store.heap.size⟩ := by
  have found : Heap.object (now.store.heap.push (.composite fields)) ⟨now.store.heap.size⟩ =
      .composite fields := (Table.get_push _ _ _).trans (if_pos rfl)
  have carries : Store.Carries
      { now.store with heap := now.store.heap.push (.composite fields) }
        ⟨now.store.heap.size⟩ shared :=
    .of_type built.lies ((congrArg (·.fields.type) found).trans carried) shares
  exact ⟨built, shared, shares, .inr carries.2⟩

namespace ObjectId

variable {type : TypeId} {row : GuestType} {layout : Layout} {dict : Option Value} {cls : ClassId}
  {pre : Sight σ -> Prop} {post : ObjectId -> Sight σ -> Prop}

/-- The last step of making an instance. -/
theorem heeds_allocate (before : Persists pre) (after : forall object, Persists (post object))
    (makes : forall (now : Sight σ) (fields : Instance), pre now -> fields.cls = cls ->
      fields.type = some type -> Built (now.withStore { now.store with
        heap := now.store.heap.push (.composite fields) }) cls ⟨now.store.heap.size⟩ ->
      post ⟨now.store.heap.size⟩ (now.withStore { now.store with
        heap := now.store.heap.push (.composite fields) })) :
    Request.Heeds (σ := σ) thread
      (fun now => (pre now ∧ LaidOut cls layout now) ∧ dict.isSome = layout.hasDict)
      (Request.perform (.heap (.allocate (.composite {
        cls, layout := some layout, type := some type, dict
        slots := List.replicate layout.slots.length none })))) post := by
  refine .perform ((before.and (persists_laidOut _ _)).and (Persists.const _)) after ?_
  rintro now object store valid ⟨⟨holds, laid⟩, supplied⟩ performed
  refine ⟨valid.modest ?_ performed, ?_⟩
  · trivial
  · cases performed
    exact makes now _ holds rfl rfl (.allocate laid rfl rfl supplied)

/-- An instance is made with the layout of its class. -/
theorem heeds_make (before : Persists pre) (after : forall object, Persists (post object))
    (makes : forall (now : Sight σ) (fields : Instance), pre now -> fields.cls = cls ->
      fields.type = some type -> Built (now.withStore { now.store with
        heap := now.store.heap.push (.composite fields) }) cls ⟨now.store.heap.size⟩ ->
      post ⟨now.store.heap.size⟩ (now.withStore { now.store with
        heap := now.store.heap.push (.composite fields) })) :
    Request.Heeds (σ := σ) thread pre (make cls type) post := by
  refine .bind (.observe before (fun found => before.and (persists_lays cls found))
    fun now _ holds => ⟨holds, fun _ laid => laid⟩) fun found => ?_
  cases laid : found.layout with
  | none => exact .throw
  | some layout =>
      have persists := before.and (persists_laidOut cls layout)
      have known : forall now : Sight σ, (pre now ∧ forall layout,
          found.layout = some layout -> LaidOut cls layout now) ->
            pre now ∧ LaidOut cls layout now :=
        fun now holds => ⟨holds.1, holds.2 layout laid⟩
      have chosen : forall dict : Option Value, dict.isSome = layout.hasDict ->
          Request.Heeds thread (fun now => pre now ∧ LaidOut cls layout now)
            (Pure.pure dict : Request (Clients σ) (Option Value)) fun dict now =>
              (pre now ∧ LaidOut cls layout now) ∧ dict.isSome = layout.hasDict :=
        fun _ fits => .pure (persists.and (Persists.const _)) fun _ holds => ⟨holds, fits⟩
      rw [laid] at known
      dsimp only
      split
      · rename_i has
        exact Request.Heeds.weaken (.bind (.plain (.perform trivial rfl rfl) persists) fun dict =>
          .bind (chosen _ has.symm) fun _ => heeds_allocate before after makes)
          known fun _ _ => id
      · rename_i none_
        exact Request.Heeds.weaken (.bind (chosen none (Bool.eq_false_iff.mpr none_).symm) fun _ =>
          heeds_allocate before after makes) known fun _ _ => id

/-- An object is made with a place for each slot of its class. -/
theorem heeds_makeObject : Request.Heeds (σ := σ) thread (fun _ => True) (make cls type)
    fun object now => Built now cls object :=
  heeds_make (Persists.const _) (persists_built cls) fun _ _ _ _ _ built => built

/-- An instance of a type is made. -/
theorem heeds_makeInstance (replaceable : row.isReplaceable = true) :
    Request.Heeds (σ := σ) thread (RowOf type row) (make row.primary type) fun object now =>
      InstanceOf now type object := by
  refine heeds_make (persists_rowOf type row) (persists_instanceOf type) ?_
  rintro now fields rowOf - carried built
  obtain rfl := rowOf replaceable
  obtain ⟨shared, shares⟩ := Option.isSome_iff_exists.mp replaceable
  exact .allocate shares built carried


end ObjectId

/-- An instance is made of the type that was asked for. -/
theorem TypeId.heeds_newInstance {type : TypeId} :
    Request.Heeds (σ := σ) thread (fun _ => True) type.newInstance fun object now =>
      InstanceOf now type object := by
  refine .bind (.observe (Persists.const _) (persists_rowOf type) fun _ _ _ _ => rfl) fun row => ?_
  refine .bind (.plain .observe (persists_rowOf type row)) fun synthesized => ?_
  split
  · rename_i both
    exact ObjectId.heeds_makeInstance (Bool.and_eq_true _ _ ▸ both).1
  · exact .throw

/-! ## Calls -/

namespace Typing

/-- What a call needs: whoever stores the type of an object finds one. -/
def Needs : Call -> Sight σ -> Prop
  | .setType object _, now => Steady object now
  | _, _ => True

end Typing

/-- Every call keeps to the rule of types, and achieves what it is for. -/
theorem Call.heeds_request {call : Call} :
    Request.Heeds (σ := σ) thread (Needs call) call.request (Achieves call) := by
  cases call with
  | resolve registry cls => exact RegistryId.heedful_resolve
  | resolveValue registry value => exact RegistryId.heedful_resolveValue
  | typeOf registry value => exact RegistryId.heedful_typeOf
  | create factory wanted => exact FactoryId.heedful_create
  | findOrCreate factory cls => exact FactoryId.heedful_findOrCreate
  | defineClass factory name bases slots dict => exact FactoryId.heedful_defineClass
  | newInstance type => exact TypeId.heeds_newInstance
  | makeObject cls type => exact ObjectId.heeds_makeObject
  | setType object type => exact ObjectId.heedful_setType
  | _ =>
      exact Request.Heedful.plain
        ((plain_request _).mono (fun decides => decides) (fun _ => trivial) (fun _ => trivial)
          (fun _ => trivial) fun _ => trivial)

end GuestTypes
