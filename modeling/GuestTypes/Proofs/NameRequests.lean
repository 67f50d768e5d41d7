import GuestTypes.Proofs.NameIssue

/-!
# Requests that name classes

Most requests name nothing and keep to the rules for that. A synthesis holds the ticket that it was
given from where the number is issued to where the name of it is taken, so that it is refused for a
name that is taken only when names meet that should not (`Naming.Crossed`).
-/

namespace GuestTypes

open Discipline Naming

variable {σ α β : Type} {thread : ThreadId} {issuer : SynthesizerId}
  {fails : Fault -> Tally σ -> Prop}

/-- The request keeps to the rules. -/
abbrev Request.Tame (issuer : SynthesizerId) (thread : ThreadId) (request : Request (Clients σ) α) :
    Prop :=
  (naming issuer).Meets thread none (fun _ => True) request (fun _ _ => True) fun _ _ => True

namespace Request.Tame

variable {request : Request (Clients σ) α}

theorem pure (answer : α) : Request.Tame issuer thread (Pure.pure answer : Request (Clients σ) α) :=
  Meets.pure (fun _ _ _ _ _ _ _ => trivial) fun _ _ _ => trivial

theorem throw (fault : Fault) :
    Request.Tame issuer thread (throw fault : Request (Clients σ) α) :=
  Meets.throw (fun _ _ _ _ _ _ _ => trivial) fun _ _ _ => trivial

/-- Whatever holds anyway holds at the end. -/
theorem meets {pre : Tally σ -> Prop} {post : α -> Tally σ -> Prop}
    (tame : request.Tame issuer thread) (answers : forall answer now, post answer now)
    (refuses : forall fault now, fails fault now) :
    (naming issuer).Meets thread none pre request post fails :=
  Meets.weaken tame (fun _ _ _ => trivial) (fun answer now _ _ => answers answer now)
    fun fault now _ _ => refuses fault now

/-- Tame requests one after the other are tame. -/
theorem bind {next : α -> Request (Clients σ) β} (first : request.Tame issuer thread)
    (rest : forall answer, (next answer).Tame issuer thread) :
    Request.Tame issuer thread (request >>= next) :=
  Meets.bind first rest

/-- A request of actions that name nothing keeps to the rules, also through the host code that it
runs. -/
theorem plain (plain : request.Plain True True False True True) : request.Tame issuer thread :=
  Meets.plain (naming_free issuer) (fun _ _ _ _ _ _ _ => trivial)
    (fun valid _ modest performed => ⟨Valid.modest valid modest performed, trivial⟩)
    (fun _ _ _ _ _ _ => trivial) plain

/-- Work under a lock is tame if it is without. -/
theorem locked {factory : FactoryId} (tame : request.Tame issuer thread) :
    Request.Tame issuer thread (factory.locked request) := by
  refine .bind (.plain (FactoryId.plain_step trivial)) fun _ => .bind ?_ fun outcome =>
    .bind (.plain (FactoryId.plain_step trivial)) fun _ => .plain (.ofExcept outcome)
  exact (Meets.attempt tame).weaken (fun _ _ => id) (fun _ _ _ _ => trivial) fun _ _ _ => id

end Request.Tame

/-- What is stable stays so under a condition that does not change. -/
theorem Discipline.Stable.imp {γ : Type} {rules : Discipline σ γ} {assertion : Moment σ γ -> Prop}
    {fact : Prop} (stable : rules.Stable thread assertion) :
    rules.Stable thread fun now => fact -> assertion now :=
  fun _ _ _ different valid allowed holds given => stable different valid allowed (holds given)

namespace Naming

/-! ## Tickets in hand -/

/-- Neither other threads nor what the thread does to other parts of the store undoes the
assertion. -/
structure Endures (issuer : SynthesizerId) (thread : ThreadId) (pre : Tally σ -> Prop) : Prop where
  stable : (naming issuer).Stable thread pre
  kept : forall {now : Tally σ} {store}, now.store.Equips store -> pre now ->
    pre (now.withStore store)

namespace Endures

variable {pre : Tally σ -> Prop}

/-- An action that issues nothing and names nothing keeps to the rules. -/
theorem perform (endures : Endures issuer thread pre) {action : Action α}
    (modest : action.Modest True True False True) :
    (naming issuer).Meets thread none pre (Request.perform action) (fun _ => pre) fails :=
  Meets.perform endures.stable (fun _ => endures.stable) fun _ _ _ valid holds performed =>
    ⟨Valid.modest valid modest performed,
      endures.kept (Action.accounts performed).equips holds⟩

/-- To write a listing keeps to the rules, and is refused for no name. -/
theorem writeListing (endures : Endures issuer thread pre) {directory : String} {body : ClassBody} :
    (naming issuer).Meets thread none pre (SynthesizerId.writeListing directory body) (fun _ => pre)
      fun fault _ => ¬ fault.Duplicate := by
  have refuses : forall path problem, (naming (σ := σ) issuer).Meets thread none pre
      (throw (.internal (.found (.unwrittenListing path problem))) : Request (Clients σ) Unit)
      (fun _ => pre) fun fault _ => ¬ fault.Duplicate := fun path problem =>
    Meets.throw (fun _ _ _ _ _ _ => id) fun _ _ _ => nofun
  refine .bind (endures.perform trivial) fun made => ?_
  cases made with
  | error problem => exact refuses _ problem
  | ok _ =>
      refine .bind (endures.perform trivial) fun text => .bind (endures.perform trivial)
        fun written => ?_
      cases written with
      | error problem => exact refuses _ problem
      | ok _ => exact Meets.pure endures.stable fun _ _ => id

end Endures

theorem endures_true : Endures (σ := σ) issuer thread fun _ => True :=
  ⟨fun _ _ _ _ _ _ _ => trivial, fun _ _ => trivial⟩

/-- The maker exists, and if it is the one in question the thread holds a ticket that reads so. -/
structure Gives (issuer : SynthesizerId) (thread : ThreadId) (maker : SynthesizerId)
    (reads : Configuration -> Ticket -> Prop) (now : Tally σ) : Prop where
  made : now.store.MadeSynthesizer maker
  ticket : maker = issuer -> exists ticket, now.ghost.held thread = some ticket ∧
    reads (now.store.synthesizer issuer).config ticket

/-- A ticket that a thread holds goes on to be its own. -/
theorem Gives.moves {maker : SynthesizerId} {reads : Configuration -> Ticket -> Prop}
    {now later : Tally σ} (gives : Gives issuer thread maker reads now)
    (equips : now.store.Equips later.store)
    (held : later.ghost.held thread = now.ghost.held thread) :
    Gives issuer thread maker reads later where
  made := equips.made maker gives.made
  ticket := by
    rintro rfl
    obtain ⟨ticket, has, stands⟩ := gives.ticket rfl
    rw [held, equips.config maker gives.made]
    exact ⟨ticket, has, stands⟩

/-- So it does whatever else happens. -/
theorem endures_gives (issuer : SynthesizerId) (thread : ThreadId) (maker : SynthesizerId)
    (reads : Configuration -> Ticket -> Prop) :
    Endures (σ := σ) issuer thread (Gives issuer thread maker reads) where
  stable := fun _ _ _ different _ allowed gives =>
    gives.moves allowed.moves.equips (allowed.moves.held thread different.symm)
  kept := fun equips gives => gives.moves equips rfl

/-- That names may meet stays true. -/
theorem stable_crossed : (naming (σ := σ) issuer).Stable thread (Crossed issuer) :=
  fun _ _ _ _ _ allowed crossed => allowed.moves.crossed crossed

/-- The name that a call was given stays its own. -/
theorem stable_named (number : Nat) (base name : String) :
    (naming (σ := σ) issuer).Stable thread (Named issuer number base name) :=
  fun _ _ _ _ _ allowed named => allowed.moves.named named

/-- The call was given a ticket that reads so. -/
def Receives (number : Nat) (reads : Ticket -> Prop) (now : Tally σ) : Prop :=
  exists ticket, (number, ticket) ∈ now.ghost.given ∧ reads ticket

/-- The ticket that a call was given stays its own. -/
theorem stable_receives (number : Nat) (reads : Ticket -> Prop) :
    (naming (σ := σ) issuer).Stable thread (Receives number reads) :=
  fun _ _ _ _ _ allowed ⟨ticket, given, stands⟩ => ⟨ticket, allowed.moves.given given, stands⟩

/-- The thread may take the name from the loader. Host code defines a class with the loader
directly, or a synthesizer does whose loader it is. -/
def Entitled (issuer : SynthesizerId) (thread : ThreadId) (source : Option SynthesizerId)
    (loader : LoaderId) (name : String) (now : Tally σ) : Prop :=
  match source with
  | none => Fed loader now
  | some maker =>
      Gives issuer thread maker (fun config ticket => config.ticketName ticket = name) now ∧
        (now.store.synthesizer maker).loader = loader

/-- A thread that may take a name goes on to be allowed to. -/
theorem endures_entitled (issuer : SynthesizerId) (thread : ThreadId)
    (source : Option SynthesizerId) (loader : LoaderId) (name : String) :
    Endures (σ := σ) issuer thread (Entitled issuer thread source loader name) := by
  cases source with
  | none => exact ⟨fun _ _ _ _ _ allowed fed => allowed.moves.fed fed, fun _ fed => fed⟩
  | some maker =>
      have gives := endures_gives (σ := σ) issuer thread maker
        fun config ticket => config.ticketName ticket = name
      constructor
      · intro mover before after different valid allowed holds
        exact ⟨gives.stable different valid allowed holds.1,
          (allowed.moves.equips.loader maker holds.1.made).trans holds.2⟩
      · intro now store equips holds
        exact ⟨gives.kept equips holds.1, (equips.loader maker holds.1.made).trans holds.2⟩

/-- A refused name is taken already. -/
theorem mem_defined_of_refused {loader : LoaderId} {name : String} {before after : Store}
    (refused : (Action.loader loader (.claim name)).perform thread before = some (false, after)) :
    name ∈ (before.loader loader).defined := by
  simp only [Action.perform, Loader.Step.perform] at refused
  split at refused
  · rename_i taken
    exact List.contains_iff_mem.mp taken
  · cases refused

/-- Whoever is entitled to a name takes it, or finds names that meet. -/
theorem meets_claim {source : Option SynthesizerId} {loader : LoaderId} {name : String} :
    (naming issuer).Meets thread none (Entitled (σ := σ) issuer thread source loader name)
      (Request.perform (.loader loader (.claim name)))
      (fun free now => free = false -> source = some issuer -> Crossed issuer now) fails := by
  apply Meets.performWith (endures_entitled issuer thread source loader name).stable
    fun _ => stable_crossed.imp.imp
  intro now free store valid entitled performed
  cases source with
  | none =>
      have fed : Fed loader now := entitled
      exact ⟨now.ghost, Valid.claim valid (fun _ _ => .inl fed) performed, trivial, nofun⟩
  | some maker =>
      obtain ⟨gives, own⟩ := entitled
      by_cases same : maker = issuer
      · subst same
        obtain ⟨ticket, held, stands⟩ := gives.ticket rfl
        have allowed := Valid.claimTicket valid held own stands performed
        refine ⟨_, allowed, trivial, ?_⟩
        rintro rfl -
        have taken := mem_defined_of_refused performed
        rw [← own, ← stands] at taken
        exact allowed.moves.crossed (Valid.crossed valid held taken)
      · refine ⟨now.ghost, Valid.claim valid (fun later equips => ?_) performed, trivial,
          fun _ named => absurd (Option.some.inj named) same⟩
        exact .inr ⟨maker, equips.made maker gives.made,
          (equips.loader maker gives.made).trans own, fun equal => absurd equal same⟩

end Naming

/-! ## Synthesis -/

/-- A name is taken by a thread that may take it, and refused only when names meet. -/
theorem LoaderId.meets_define {source : Option SynthesizerId} {loader : LoaderId}
    {body : ClassBody} :
    (naming issuer).Meets thread none (Entitled (σ := σ) issuer thread source loader body.name)
      (loader.define body) (fun _ _ => True)
      (fun fault now => source = some issuer -> fault.Duplicate -> Crossed issuer now) := by
  have entitled := endures_entitled (σ := σ) issuer thread source loader
    body.name
  refine .bind (entitled.perform trivial) fun verified => ?_
  cases verified with
  | error defect =>
      exact Meets.throw (fun _ _ _ _ _ _ _ => nofun) fun _ _ _ _ => nofun
  | ok layout =>
      refine .bind meets_claim fun free => ?_
      cases free with
      | false => exact Meets.throw stable_crossed.imp.imp fun _ _ crossed own _ => crossed rfl own
      | true =>
          have declares : (naming issuer).Meets thread none (fun _ : Tally σ => True)
              (Request.perform (.declare (hostClass body layout))) (fun _ _ => True)
              (fun fault now => source = some issuer -> fault.Duplicate -> Crossed issuer now) :=
            endures_true.perform trivial
          exact declares.weaken (fun _ _ _ => trivial) (fun _ _ _ => id) fun _ _ _ => id

namespace SynthesizerId

variable {maker : SynthesizerId}

/-- The ticket stands for a number that was issued for a base. -/
structure Reads (base : String) (number : UInt32) (ticket : Ticket) : Prop where
  base : ticket.base = base
  place : UInt32.ofNat ticket.place = number

/-- The thread holds the ticket for a number. If a call asked for it, the call was given it. -/
structure Issues (issuer : SynthesizerId) (thread : ThreadId) (maker : SynthesizerId)
    (call : Option Nat) (base : String) (number : UInt32) (now : Tally σ) : Prop where
  gives : Gives issuer thread maker (fun _ => Reads base number) now
  received : maker = issuer -> forall asked, call = some asked ->
    Receives asked (Reads base number) now

/-- A number that is issued to a thread goes on to be its own. -/
theorem stable_issues (issuer : SynthesizerId) (thread : ThreadId) (maker : SynthesizerId)
    (call : Option Nat) (base : String) (number : UInt32) :
    (naming (σ := σ) issuer).Stable thread (Issues issuer thread maker call base number) :=
  fun _ _ _ different valid allowed issues =>
    ⟨(endures_gives _ _ maker _).stable different valid allowed issues.gives, fun same asked is =>
      stable_receives asked _ different valid allowed (issues.received same asked is)⟩

/-- A name is issued, and held by the thread if it is one of the synthesizer in question. If a call
asked for it, the call is given it. -/
theorem meets_uniqueName (call : Option Nat) {base : String} :
    (naming issuer).Meets thread none (fun _ => True)
      (maker.uniqueName base : Request (Clients σ) String)
      (fun name now =>
        Gives issuer thread maker (fun config ticket => config.simpleTicketName ticket = name) now ∧
          (maker = issuer -> forall number, call = some number ->
            Named issuer number base name now)) fails := by
  have stable := stable_issues (σ := σ) issuer thread maker call base
  refine .bind (Meets.performWith endures_true.stable stable ?_) fun number => ?_
  · intro now number store valid _ performed
    have made := (Action.accounts performed).made maker (by simp [Action.issues?])
    by_cases same : maker = issuer
    · subst same
      have place : UInt32.ofNat (now.ghost.asked.count base + 1) = number := by
        obtain ⟨rfl, -⟩ := Prod.mk.inj (Option.some.inj performed)
        show _ = (now.store.synthesizer maker).lastIssued base + 1
        rw [UInt32.ofNat_add, Valid.counts valid]
        rfl
      refine ⟨_, Valid.issue valid call performed, trivial,
        ⟨made, fun _ => ⟨_, if_pos rfl, rfl, place⟩⟩,
        fun _ asked is => ⟨⟨base, now.ghost.asked.count base + 1⟩, ?_, rfl, place⟩⟩
      rw [is]
      exact List.mem_append_right _ List.mem_cons_self
    · exact ⟨_, Valid.issueElsewhere valid same performed, trivial,
        ⟨made, fun equal => absurd equal same⟩, fun equal => absurd equal same⟩
  · refine Meets.observe (stable number) (fun name => ?_) fun now valid holds => ?_
    · intro mover before after different valid allowed holds
      exact ⟨(endures_gives _ _ maker _).stable different valid allowed holds.1,
        fun same asked is =>
          stable_named asked base name different valid allowed (holds.2 same asked is)⟩
    · obtain ⟨given, receives⟩ := holds
      refine ⟨⟨given.made, ?_⟩, ?_⟩
      · rintro rfl
        obtain ⟨ticket, has, rfl, rfl⟩ := given.ticket rfl
        exact ⟨ticket, has, rfl⟩
      · rintro rfl asked is
        obtain ⟨ticket, was, rfl, rfl⟩ := receives rfl asked is
        exact ⟨given.made, ticket, was, rfl, rfl⟩

/-- To ask for a name gives a ticket that reads so. -/
theorem gives_uniqueName {base : String} :
    (naming issuer).Meets thread none (fun _ => True)
      (maker.uniqueName base : Request (Clients σ) String)
      (fun name => Gives issuer thread maker fun config ticket =>
        config.simpleTicketName ticket = name) fails :=
  (meets_uniqueName none).weaken (fun _ _ => id) (fun _ _ _ holds => holds.1) fun _ _ _ => id

/-- The class is named as the ticket says. -/
theorem gives_className {simple : String} :
    (naming issuer).Meets thread none
      (Gives issuer thread maker fun config ticket => config.simpleTicketName ticket = simple)
      (maker.view (·.config.className simple) : Request (Clients σ) String)
      (fun name => Gives issuer thread maker fun config ticket =>
        config.ticketName ticket = name) fails := by
  refine Meets.observe (endures_gives _ _ _ _).stable (fun _ => (endures_gives _ _ _ _).stable) ?_
  intro now _ given
  refine ⟨given.made, ?_⟩
  rintro rfl
  obtain ⟨ticket, has, stands⟩ := given.ticket rfl
  exact ⟨ticket, has, congrArg (now.store.synthesizer maker).config.className stands⟩

/-- A class is defined with the loader of the synthesizer that named it. -/
theorem meets_defineOwn {body : ClassBody} {name : String} (called : body.name = name) :
    (naming issuer).Meets thread none
      (Gives issuer thread maker fun config ticket => config.ticketName ticket = name)
      (do (<- maker.view (·.loader)).define body : Request (Clients σ) ClassId) (fun _ _ => True)
      (fun fault now => maker = issuer -> fault.Duplicate -> Crossed issuer now) := by
  subst called
  refine .bind (Meets.observe (endures_gives _ _ _ _).stable
    (fun loader => (endures_entitled issuer thread (some maker) loader body.name).stable)
    fun now _ given => ⟨given, rfl⟩) fun loader => ?_
  exact LoaderId.meets_define.weaken (fun _ _ entitled => entitled) (fun _ _ _ => id)
    fun _ _ _ crossed same => crossed (congrArg some same)

/-- A synthesis is refused for a name that is taken only when names meet. -/
theorem meets_synthesize {spec : Specification} :
    (naming issuer).Meets thread none (fun _ => True)
      (maker.synthesize spec : Request (Clients σ) ClassId) (fun _ _ => True)
      (fun fault now => maker = issuer -> fault.Duplicate -> Crossed issuer now) := by
  unfold synthesize
  cases spec.isFrozen with
  | false => exact Meets.throw (fun _ _ _ _ _ _ _ => nofun) fun _ _ _ _ => nofun
  | true =>
      refine .bind (endures_true.perform trivial) fun base => .bind gives_uniqueName fun simple =>
        .bind gives_className fun name => .bind ((endures_gives _ _ _ _).perform trivial) fun _ =>
          .bind ((endures_gives _ _ _ _).perform trivial) fun directory => ?_
      cases directory with
      | none => exact meets_defineOwn rfl
      | some directory =>
          refine .bind ((endures_gives _ _ _ _).writeListing.weaken (fun _ _ => id)
            (fun _ _ _ => id)
            ?_) fun _ => meets_defineOwn rfl
          exact fun fault _ _ apart _ duplicate => absurd duplicate apart

/-- A synthesizer is made with a configuration that can be used. -/
theorem tame_make {config : Configuration} :
    (make config : Request (Clients σ) SynthesizerId).Tame issuer thread := by
  unfold make
  cases usable : config.validate with
  | error problem => exact .throw _
  | ok _ =>
      refine .bind (.plain (.perform trivial rfl rfl)) fun _ =>
        .bind (.plain (.perform trivial rfl rfl)) fun loader =>
          Meets.perform (fun _ _ _ _ _ _ _ => trivial) (fun _ _ _ _ _ _ _ _ => trivial)
            fun now answer store valid _ performed => ?_
      exact ⟨Valid.addSynthesizer valid usable performed, trivial⟩

end SynthesizerId

/-! ## Guest classes and factories -/

namespace FactoryId

variable {factory : FactoryId}

/-- To find the class of a layout keeps to the rules. -/
theorem tame_layoutClass {spec : Specification} :
    (factory.layoutClass spec : Request (Clients σ) ClassId).Tame issuer thread := by
  refine .bind (.plain (plain_view _)) fun kept => ?_
  cases kept with
  | some cls => exact .pure _
  | none =>
      refine .bind (.plain (plain_view _)) fun maker => .bind ?_ fun cls =>
        .bind (.plain (plain_step trivial)) fun _ => .pure _
      exact SynthesizerId.meets_synthesize.weaken (fun _ _ => id) (fun _ _ _ => id)
        fun _ _ _ _ => trivial

/-- To define a guest class keeps to the rules. -/
theorem tame_defineClass {name : String} {bases : List TypeId} {slots : Option (List String)}
    {dict : Bool} :
    (factory.defineClass name bases slots dict : Request (Clients σ) TypeId).Tame issuer thread :=
  .bind (.plain (plain_view _)) fun _ => .bind (.plain plain_layoutSpecification) fun _ =>
    .locked (.bind tame_layoutClass fun _ => .plain inner_create)

/-- To make a factory keeps to the rules. -/
theorem tame_make {config : Configuration} :
    (make config : Request (Clients σ) FactoryId).Tame issuer thread :=
  .bind (.plain (.perform trivial rfl rfl)) fun _ => .bind SynthesizerId.tame_make fun _ =>
    .plain (.bind (.perform ⟨.inl rfl, trivial⟩ rfl rfl) fun _ =>
      .bind (.perform ⟨.inl rfl, trivial⟩ rfl rfl) fun _ =>
        .bind (.perform trivial rfl rfl) fun _ => .bind (plain_view _) fun _ =>
          .bind RegistryId.plain_registerAll fun _ => .pure _)

end FactoryId

/-! ## Calls -/

namespace Naming

/-- What a call needs: it is on record. -/
def Needs (call : Call) (now : Tally σ) : Prop :=
  exists record, record ∈ now.host.calls ∧ record.call = call

/-- What a call achieves: a name was issued, and a name is refused only when names meet. -/
def Achieves (issuer : SynthesizerId) (number : Nat) :
    (call : Call) -> Except Fault call.Answer -> Tally σ -> Prop
  | .uniqueName maker base, .ok name, now => maker = issuer -> Named issuer number base name now
  | .synthesize maker _, .error fault, now =>
      maker = issuer -> fault.Duplicate -> Crossed issuer now
  | _, _, _ => True

end Naming

/-- Requests that decide no names keep to the rules, and the others do as they should. -/
theorem Call.meets_request (number : Nat) (call : Call) :
    (naming issuer).Meets thread none (Needs (σ := σ) call) call.request
      (fun answer => Achieves issuer number call (.ok answer))
      fun fault => Achieves issuer number call (.error fault) := by
  have tame (undecided : ¬ call.DecidesNames) :
      (call.request : Request (Clients σ) call.Answer).Tame issuer thread :=
    .plain ((plain_request call).mono (fun _ => trivial) (fun _ => trivial) undecided
      (fun _ => trivial) fun _ => trivial)
  cases call with
  | makeFactory config => exact FactoryId.tame_make.meets (fun _ _ => trivial) fun _ _ => trivial
  | defineClass factory name bases slots dict =>
      exact FactoryId.tame_defineClass.meets (fun _ _ => trivial) fun _ _ => trivial
  | makeSynthesizer config =>
      exact SynthesizerId.tame_make.meets (fun _ _ => trivial) fun _ _ => trivial
  | uniqueName maker base =>
      exact (SynthesizerId.meets_uniqueName (some number)).weaken (fun _ _ _ => trivial)
        (fun _ _ _ holds same => holds.2 same number rfl) fun _ _ _ => id
  | synthesize maker spec =>
      exact SynthesizerId.meets_synthesize.weaken (fun _ _ _ => trivial) (fun _ _ _ => id)
        fun _ _ _ => id
  | defineBody loader body =>
      have defines : (naming issuer).Meets thread none
          (Entitled (σ := σ) issuer thread none loader body.name) _ _ _ := loader.meets_define
      exact defines.weaken (fun _ _ ⟨record, member, call⟩ => ⟨record, body, member, call⟩)
        (fun _ _ _ => id) fun _ _ _ _ => trivial
  | _ => exact (tame id).meets (fun _ _ => trivial) fun _ _ => trivial

end GuestTypes
