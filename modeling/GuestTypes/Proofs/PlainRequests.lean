import GuestTypes.Proofs.Calls
import GuestTypes.Proofs.Guards

/-!
# What requests are made of

Which actions a request takes is read off its text, with no regard to the store. Few actions
decide which type an object has: those that store the type of an object, that make a type which
shares its representation, and that prepare a shared representation for a class. One makes types.
Few decide what a class is named: those that issue a number, that define a name, and that make a
synthesizer. Two are lookups that a registry counts. Host code runs in the middle of a request only
as a static initializer or as an escalation. Whatever is said of the other actions one by one is
said of requests without these as a whole. Every request gives back a guard as soon as it has used
it.
-/

namespace GuestTypes

variable {σ α β : Type}

/-- The action decides which type an object has, makes a type, decides what a class is named, or is
a lookup that is counted, only if it may. -/
def Action.Modest (typing making naming looking : Prop) : Action β -> Prop
  | .heap (.storeType _ _) => typing
  | .addType row => (row.sharedRepresentation = none ∨ typing) ∧ making
  | .factory _ (.prepare _ rep) => rep.isShared = false ∨ typing
  | .synthesizer _ (.issue _) | .loader _ _ | .addSynthesizer _ _ => naming
  | .registry _ (.firstLookup _) | .registry _ (.secondLookup _) => looking
  | _ => True

/-- The program takes modest actions, gives back each guard that it takes, and runs host code only
if it may. Only host code works on its own state or starts and awaits threads. -/
def Program.Plain (typing making naming looking hosting : Prop) : Program σ α -> Prop
  | .done _ | .panic _ => True
  | .act action next =>
      action.Modest typing making naming looking ∧ forall answer,
        (next answer).Plain typing making naming looking hosting ∧
          (next answer).returned? = action.taken?
  | .initialise _ next =>
      hosting ∧ forall reason, (next reason).Plain typing making naming looking hosting ∧
        (next reason).returned? = none
  | .escalate _ _ next =>
      hosting ∧ forall outcome, (next outcome).Plain typing making naming looking hosting ∧
        (next outcome).returned? = none
  | .host _ _ | .fork _ _ | .join _ _ => False

variable {typing making naming looking hosting : Prop}
  {typing_ making_ naming_ looking_ hosting_ : Prop}

/-- An action that may do less may do more. -/
theorem Action.Modest.mono {action : Action β} (modest : action.Modest typing making naming looking)
    (types : typing -> typing_) (makes : making -> making_) (names : naming -> naming_)
    (looks : looking -> looking_) :
    action.Modest typing_ making_ naming_ looking_ := by
  cases action with
  | heap step => cases step <;> first | trivial | exact types modest
  | addType row => exact ⟨modest.1.imp_right types, makes modest.2⟩
  | factory id step => cases step <;> first | trivial | exact modest.imp_right types
  | synthesizer id step => cases step <;> first | trivial | exact names modest
  | registry id step => cases step <;> first | trivial | exact looks modest
  | loader _ _ => exact names modest
  | addSynthesizer _ _ => exact names modest
  | _ => trivial

/-- A program that may do less may do more. -/
theorem Program.Plain.mono {program : Program σ α}
    (plain : program.Plain typing making naming looking hosting) (types : typing -> typing_)
    (makes : making -> making_) (names : naming -> naming_) (looks : looking -> looking_)
    (hosts : hosting -> hosting_) :
    program.Plain typing_ making_ naming_ looking_ hosting_ := by
  induction program with
  | done _ => trivial
  | act action next inductionHypothesis =>
      exact ⟨plain.1.mono types makes names looks, fun answer =>
        ⟨inductionHypothesis answer (plain.2 answer).1, (plain.2 answer).2⟩⟩
  | host _ _ _ => exact plain.elim
  | initialise cls next inductionHypothesis =>
      exact ⟨hosts plain.1, fun reason =>
        ⟨inductionHypothesis reason (plain.2 reason).1, (plain.2 reason).2⟩⟩
  | escalate code cls next inductionHypothesis =>
      exact ⟨hosts plain.1, fun outcome =>
        ⟨inductionHypothesis outcome (plain.2 outcome).1, (plain.2 outcome).2⟩⟩
  | fork _ _ _ => exact plain.elim
  | join _ _ _ => exact plain.elim
  | panic _ => trivial

/-- A plain program gives back each guard that it takes. -/
theorem Program.Plain.givesBack {program : Program σ α}
    (plain : program.Plain typing making naming looking hosting) : program.GivesBack := by
  induction program with
  | done _ => trivial
  | act action next inductionHypothesis =>
      exact fun answer => ⟨inductionHypothesis answer (plain.2 answer).1, (plain.2 answer).2⟩
  | host _ _ _ => exact plain.elim
  | initialise cls next inductionHypothesis =>
      exact fun reason => ⟨inductionHypothesis reason (plain.2 reason).1, (plain.2 reason).2⟩
  | escalate code cls next inductionHypothesis =>
      exact fun outcome => ⟨inductionHypothesis outcome (plain.2 outcome).1, (plain.2 outcome).2⟩
  | fork _ _ _ => exact plain.elim
  | join _ _ _ => exact plain.elim
  | panic _ => trivial

/-- A plain program goes on with one that is plain and gives back no guard first. -/
theorem Program.Plain.bind {program : Program σ α} {next : α -> Program σ β}
    (plain : program.Plain typing making naming looking hosting)
    (rest : forall answer, (next answer).Plain typing making naming looking hosting)
    (free : forall answer, (next answer).returned? = none) :
    (program.bind next).Plain typing making naming looking hosting := by
  have returned (further : Program σ α) : (further.bind next).returned? = further.returned? :=
    further.returned?_bind free
  induction program with
  | done answer => exact rest answer
  | act action after inductionHypothesis =>
      exact ⟨plain.1, fun answer => ⟨inductionHypothesis answer (plain.2 answer).1,
        (returned _).trans (plain.2 answer).2⟩⟩
  | host _ _ _ => exact plain.elim
  | initialise cls after inductionHypothesis =>
      exact ⟨plain.1, fun reason => ⟨inductionHypothesis reason (plain.2 reason).1,
        (returned _).trans (plain.2 reason).2⟩⟩
  | escalate code cls after inductionHypothesis =>
      exact ⟨plain.1, fun outcome => ⟨inductionHypothesis outcome (plain.2 outcome).1,
        (returned _).trans (plain.2 outcome).2⟩⟩
  | fork _ _ _ => exact plain.elim
  | join _ _ _ => exact plain.elim
  | panic _ => trivial

/-- The request takes modest actions, runs host code only if it may, and holds no guard where it
begins. -/
structure Request.Plain (typing making naming looking hosting : Prop) (request : Request σ α) :
    Prop where
  actions : request.run.Plain typing making naming looking hosting
  free : request.run.returned? = none

/-- The request runs no host code. -/
abbrev Request.Inner (request : Request σ α) : Prop := request.Plain True True True True False

namespace Request.Plain

/-- A plain request gives back each guard that it takes. -/
theorem guarded {request : Request σ α}
    (plain : request.Plain typing making naming looking hosting) : request.run.Guarded :=
  ⟨plain.actions.givesBack, plain.free⟩

/-- A request that may do less may do more. -/
theorem mono {request : Request σ α}
    (plain : request.Plain typing making naming looking hosting) (types : typing -> typing_)
    (makes : making -> making_) (names : naming -> naming_) (looks : looking -> looking_)
    (hosts : hosting -> hosting_) :
    request.Plain typing_ making_ naming_ looking_ hosting_ :=
  ⟨plain.actions.mono types makes names looks hosts, plain.free⟩

theorem pure (answer : α) :
    Request.Plain typing making naming looking hosting (Pure.pure answer : Request σ α) :=
  ⟨trivial, rfl⟩

theorem throw (fault : Fault) :
    Request.Plain typing making naming looking hosting (throw fault : Request σ α) := ⟨trivial, rfl⟩

theorem ofExcept (outcome : Except Fault α) :
    Request.Plain typing making naming looking hosting (Request.ofExcept outcome : Request σ α) :=
  ⟨trivial, rfl⟩

/-- Plain requests one after the other are plain. -/
theorem bind {request : Request σ α} {next : α -> Request σ β}
    (plain : request.Plain typing making naming looking hosting)
    (rest : forall answer, (next answer).Plain typing making naming looking hosting) :
    Request.Plain typing making naming looking hosting (request >>= next) := by
  have follows : forall outcome : Except Fault α, Request.Plain typing making naming looking hosting
      (ExceptT.mk (ExceptT.bindCont next outcome)) := by
    intro outcome
    cases outcome with
    | ok answer => exact rest answer
    | error fault => exact .throw fault
  exact {
    actions := Program.Plain.bind plain.actions (fun outcome => (follows outcome).actions)
      fun outcome => (follows outcome).free
    free := (Program.returned?_bind _ fun outcome => (follows outcome).free).trans plain.free }

/-- A request is as plain when its fault is an answer. -/
theorem attempt {request : Request σ α}
    (plain : request.Plain typing making naming looking hosting) :
    Request.Plain typing making naming looking hosting request.attempt where
  actions := Program.Plain.bind plain.actions (fun _ => trivial) fun _ => rfl
  free := (Program.returned?_bind _ fun _ => rfl).trans plain.free

/-- An action that has nothing to do with a guard. -/
theorem perform {action : Action α} (modest : action.Modest typing making naming looking)
    (taken : action.taken? = none) (given : action.given? = none) :
    Request.Plain typing making naming looking hosting (Request.perform action : Request σ α) where
  actions := ⟨modest, fun _ => ⟨trivial, taken.symm⟩⟩
  free := given

/-- To look at the store is modest. -/
theorem observe {look : Store -> α} :
    Request.Plain typing making naming looking hosting (Request.observe look : Request σ α) :=
  .perform trivial rfl rfl

/-- An initializer that is run. -/
theorem initialise {cls : ClassId} :
    Request.Plain typing making naming looking True
      (ExceptT.lift (Program.initialise cls .done) : Request σ (Option String)) where
  actions := ⟨trivial, fun _ => ⟨trivial, rfl⟩⟩
  free := rfl

/-- Foreign code that is asked. -/
theorem escalate {code : CodeId} {cls : ClassId} :
    Request.Plain typing making naming looking True
      (ExceptT.mk (Program.escalate code cls .done) : Request σ Representation) where
  actions := ⟨trivial, fun _ => ⟨trivial, rfl⟩⟩
  free := rfl

end Request.Plain

/-- A step of a registry, after which its guard is given back. -/
theorem RegistryId.plain_step {registry : RegistryId} {step : Registry.Step α}
    (modest : (Action.registry registry step).Modest typing making naming looking)
    (taken : (Action.registry registry step).taken? = some registry) :
    (registry.step step : Request σ α).Plain typing making naming looking hosting where
  actions := ⟨modest, fun _ => ⟨⟨trivial, fun _ => ⟨trivial, rfl⟩⟩, taken.symm⟩⟩
  free := rfl

/-! ## Initialisation -/

namespace ClassId

variable {cls : ClassId}

/-- To report a failed initialisation reads the name of the class only. -/
theorem plain_initialisationFault {reason : String} :
    (cls.initialisationFault reason : Request σ Unit).Plain typing making naming looking hosting :=
  .bind .observe fun _ => .throw _

/-- Initialisation runs host code. -/
theorem plain_ensureInitialised :
    (cls.ensureInitialised : Request σ Unit).Plain typing making naming looking True := by
  refine .bind .observe fun lineage => ?_
  generalize lineage.reverse = classes
  induction classes with
  | nil => exact .pure _
  | cons cls rest inductionHypothesis =>
      refine .bind (.bind (.perform trivial rfl rfl) fun claim => ?_) fun _ => inductionHypothesis
      cases claim with
      | usable => exact .pure _
      | failed reason => exact plain_initialisationFault
      | begun =>
          refine .bind .initialise fun reason => ?_
          cases reason with
          | none => exact .pure _
          | some reason => exact plain_initialisationFault

end ClassId

/-! ## Factories -/

namespace FactoryId

variable {factory : FactoryId} {cls : ClassId} {rep : Representation} {wanted : TypeDescription}

/-- To look at a factory is modest. -/
theorem plain_view (look : Factory -> α) :
    (factory.view look : Request σ α).Plain typing making naming looking hosting :=
  .observe

/-- A step of a factory is as modest as it says. -/
theorem plain_step {step : Factory.Step α}
    (modest : (Action.factory factory step).Modest typing making naming looking) :
    (factory.step step : Request σ α).Plain typing making naming looking hosting :=
  .perform modest rfl rfl

/-- To do work under the lock takes no guard and decides nothing more than the work. -/
theorem plain_locked {work : Request σ α}
    (plain : work.Plain typing making naming looking hosting) :
    (factory.locked work).Plain typing making naming looking hosting :=
  .bind (plain_step trivial) fun _ => .bind plain.attempt fun outcome =>
    .bind (plain_step trivial) fun _ => .ofExcept outcome

/-- To look up what a factory has published takes the guard and gives it back. -/
theorem plain_published :
    (factory.published cls : Request σ _).Plain typing making naming looking hosting :=
  .bind (plain_view _) fun _ => RegistryId.plain_step trivial rfl

/-- Nothing is decided by what a factory finds for a class, prepared or published. -/
theorem plain_found :
    (factory.found cls : Request σ _).Plain typing making naming looking hosting := by
  refine .bind plain_published fun published => ?_
  cases published with
  | some rep => exact .pure _
  | none => exact plain_view _

/-- To report a clash reads names only. -/
theorem plain_clash {mode : ClashMode} {context : Option String} :
    (clash mode cls rep context : Request σ α).Plain typing making naming looking hosting :=
  .bind .observe fun _ => .throw _

/-- Unless a shared representation is prepared. -/
theorem plain_prepare (may : rep.isShared = false ∨ typing) :
    (factory.prepare cls rep : Request σ Unit).Plain typing making naming looking hosting := by
  refine .bind plain_found fun found => ?_
  cases found with
  | some existing => exact .bind (plain_view _) fun _ => plain_clash
  | none => exact plain_step may

/-- To ask which prepared bindings are new looks classes up, and counts no lookup. -/
theorem plain_unpublished (bindings : List (ClassId × Representation)) :
    (factory.unpublished bindings : Request σ _).Plain typing making naming looking hosting := by
  induction bindings with
  | nil => exact .pure _
  | cons binding rest inductionHypothesis =>
      exact .bind plain_published fun _ => .bind inductionHypothesis fun _ => .pure _

/-- To publish binds what was prepared, whoever decided on it. -/
theorem plain_publishAll :
    (factory.publishAll : Request σ Unit).Plain typing making naming looking hosting := by
  refine .bind (plain_step trivial) fun collected => .bind (plain_unpublished _) fun fresh =>
    .bind (plain_view _) fun registry => .bind (RegistryId.plain_step trivial rfl) fun refused => ?_
  cases refused with
  | none => exact .pure _
  | some existing => exact plain_clash

/-- To publish at the end of the outermost request decides nothing more than the request. -/
theorem plain_conclude {work : Request σ α}
    (plain : work.Plain typing making naming looking hosting) :
    (factory.conclude work).Plain typing making naming looking hosting := by
  refine .bind plain.attempt fun outcome => .bind (plain_step trivial) fun outermost => ?_
  cases outcome with
  | ok answer =>
      cases outermost with
      | true => exact .bind plain_publishAll fun _ => .pure _
      | false => exact .pure _
  | error fault =>
      cases outermost with
      | true => exact .bind (plain_step trivial) fun _ => .throw _
      | false => exact .throw _

/-- Unless the type shares its representation. -/
theorem plain_addType {primary : ClassId} {others : List ClassId} {kind : TypeKind}
    (may : (forall shared, kind ≠ .replaceable shared) ∨ typing) :
    (factory.addType wanted primary others kind : Request σ TypeId).Plain typing True naming looking
      hosting := by
  refine .bind (plain_view _) fun root => .bind .observe fun kernel =>
    .perform ⟨may.imp_left fun apart => ?_, trivial⟩ rfl rfl
  cases kind with
  | replaceable shared => exact absurd rfl (apart shared)
  | simple => rfl
  | adoptive adopted => rfl

/-- To find a representation that classes may share prepares a shared one at most. -/
theorem inner_shareClass :
    (factory.shareClass wanted : Request σ SharedId).Plain True making naming looking hosting := by
  refine .bind plain_found fun found => ?_
  cases found with
  | none =>
      exact .bind .observe fun _ => .bind (.perform trivial rfl rfl) fun _ =>
        .bind (plain_prepare (.inr trivial)) fun _ => .pure _
  | some existing =>
      cases existing with
      | shared shared => exact .pure _
      | canonical type => exact plain_clash
      | adopted owner index => exact plain_clash

/-- To adopt classes prepares representations that are not shared. -/
theorem plain_adopt {owner : TypeId} (place : Nat) (classes : List ClassId) :
    (factory.adopt owner place classes : Request σ (Option Fault)).Plain typing making naming
      looking hosting := by
  induction classes generalizing place with
  | nil => exact .pure _
  | cons cls rest inductionHypothesis =>
      refine .bind (plain_prepare (.inl rfl)).attempt fun outcome =>
        .bind (inductionHypothesis (place + 1)) fun later => ?_
      cases outcome with
      | error fault => exact .pure _
      | ok _ => exact .pure _

/-- A type that shares its representation. -/
def addReplaceable (factory : FactoryId) (wanted : TypeDescription) : Request σ TypeId := do
  let shared <- factory.shareClass wanted
  let primary <- Request.observe fun store => (store.types.sharedRow shared).hostClass
  factory.addType wanted primary [] (.replaceable shared)

/-- To make a replaceable type decides which type objects have that share its representation. -/
theorem inner_addReplaceable :
    (factory.addReplaceable wanted : Request σ TypeId).Plain True True naming looking hosting :=
  .bind inner_shareClass fun _ => .bind .observe fun _ => plain_addType (.inr trivial)

/-- Unless a type that shares its representation is wanted. -/
theorem plain_addPartial (may : wanted.isReplaceable = true ->
    (factory.addReplaceable wanted : Request σ TypeId).Plain typing True naming looking hosting) :
    (factory.addPartial wanted : Request σ TypeId).Plain typing True naming looking hosting := by
  unfold addPartial
  cases wanted.repeated? with
  | some entry => exact .bind .observe fun _ => .throw _
  | none =>
      dsimp only
      split
      · rename_i replaceable
        split
        · exact .throw _
        · exact may replaceable
      · split
        · exact .bind (plain_addType (.inl nofun)) fun _ =>
            .bind (plain_prepare (.inl rfl)) fun _ => .pure _
        · refine .bind (plain_addType (.inl nofun)) fun type =>
            .bind (plain_adopt 1 wanted.adopted) fun refused => ?_
          cases refused with
          | some fault => exact .throw _
          | none => exact .bind (plain_prepare (.inl rfl)) fun _ => .pure _

/-- To make a type without looking for another one may share a representation and makes a type. -/
theorem inner_addPartial :
    (factory.addPartial wanted : Request σ TypeId).Plain True True naming looking hosting :=
  plain_addPartial fun _ => inner_addReplaceable

/-- To create a type may share a representation and makes a type, and does no more. -/
theorem inner_create :
    (factory.create wanted : Request σ TypeId).Plain True True naming looking hosting :=
  plain_locked (.bind (plain_step trivial) fun _ =>
    plain_conclude (.bind (plain_view _) fun _ => .bind (.perform trivial rfl rfl) fun _ =>
      inner_addPartial))

/-- To look for a type decides nothing. -/
theorem plain_find : (factory.find cls : Request σ _).Plain typing making naming looking hosting :=
  plain_locked plain_found

/-- To take over the representation of a superclass prepares a shared one at most. -/
theorem inner_inherited (lineage : List ClassId) :
    (factory.inherited lineage : Request σ _).Plain True making naming looking hosting := by
  induction lineage with
  | nil => exact .pure _
  | cons cls above inductionHypothesis =>
      refine .bind plain_found fun found => ?_
      cases found with
      | some rep => exact .pure _
      | none =>
          refine .bind .observe fun takesOver => ?_
          split
          · exact .pure _
          · refine .bind inductionHypothesis fun inherited => ?_
            cases inherited with
            | none => exact .pure _
            | some rep => exact .bind (plain_step (.inr trivial)) fun _ => .pure _

/-- To make a representation may make a type for it, and does no more. -/
theorem inner_makeRepresentation :
    (factory.makeRepresentation cls : Request σ _).Plain True True naming looking hosting := by
  refine .bind .observe fun row => ?_
  split
  · exact .bind (.perform trivial rfl rfl) fun _ =>
      .bind (plain_prepare (.inr trivial)) fun _ => .pure _
  · split
    · exact .throw _
    · refine .bind (plain_step trivial) fun _ => .bind inner_addPartial.attempt fun outcome =>
        .bind (plain_step trivial) fun _ => .bind (.ofExcept outcome) fun _ =>
          .bind plain_found fun found => ?_
      cases found with
      | some rep => exact .pure _
      | none => exact .throw _

/-- What `findOrCreate` does under the lock. -/
def search (factory : FactoryId) (cls : ClassId) : Request σ Representation := do
  if let some rep <- factory.published cls then return rep
  factory.step (.begin none)
  factory.conclude do
    Request.perform (.record (.resolutionBegun (<- factory.view (·.workshop.depth)) cls))
    match <- factory.inherited (<- Request.observe (·.hierarchy.lineage cls)) with
    | some rep => return rep
    | none => factory.makeRepresentation cls

/-- The class is initialised before the lock is taken. -/
theorem findOrCreate_eq : (factory.findOrCreate cls : Request σ Representation) =
    cls.ensureInitialised >>= fun _ => factory.locked (factory.search cls) := rfl

/-- To search for a class under the lock runs no host code. -/
theorem inner_search :
    (factory.search cls : Request σ Representation).Plain True True naming looking hosting := by
  refine .bind plain_published fun published => ?_
  cases published with
  | some rep => exact .pure _
  | none =>
      refine .bind (plain_step trivial) fun _ => plain_conclude (.bind (plain_view _) fun _ =>
        .bind (.perform trivial rfl rfl) fun _ => .bind .observe fun lineage =>
          .bind (inner_inherited lineage) fun inherited => ?_)
      cases inherited with
      | some rep => exact .pure _
      | none => exact inner_makeRepresentation

end FactoryId

/-! ## Registries and representations -/

/-- To register classes binds them, and decides nothing else. -/
theorem RegistryId.plain_registerAll {registry : RegistryId}
    {bindings : List (ClassId × Representation)} :
    (registry.registerAll bindings : Request σ Unit).Plain typing making naming looking
      hosting := by
  refine .bind (plain_step trivial rfl) fun refused => ?_
  cases refused with
  | none => exact .pure _
  | some existing => exact FactoryId.plain_clash

/-- A factory that is asked for a class may run host code, to initialise it. -/
theorem FactoryId.plain_findOrCreate {factory : FactoryId} {cls : ClassId} :
    (factory.findOrCreate cls : Request σ Representation).Plain True True naming looking True := by
  rw [findOrCreate_eq]
  exact .bind ClassId.plain_ensureInitialised fun _ => plain_locked inner_search

/-- To ask for the type of an object looks at it only. -/
theorem Representation.plain_typeOf {rep : Representation} {value : Value} :
    (rep.typeOf value : Request σ TypeId).Plain typing making naming looking hosting := by
  unfold typeOf
  cases rep.fixedType with
  | some type => exact .pure _
  | none =>
      refine .bind .observe fun held => ?_
      cases held with
      | some type => exact .pure _
      | none => exact .bind .observe fun _ => .throw _

namespace RegistryId

variable {registry : RegistryId} {cls : ClassId} {value : Value}

/-- An escalation may make a type, and may be host code. -/
theorem plain_escalate :
    (registry.escalate cls : Request σ Representation).Plain True True naming looking True := by
  refine .bind .observe fun escalation => ?_
  cases escalation with
  | none => exact .throw _
  | gone => exact .throw _
  | factory factory => exact FactoryId.plain_findOrCreate
  | foreign code => exact .escalate

/-- To resolve a class may come to all of that, if it may count its lookups. -/
theorem plain_resolve (may : looking) :
    (registry.resolve cls : Request σ Representation).Plain True True naming looking True := by
  refine .bind (plain_step may rfl) fun found => ?_
  cases found with
  | some rep => exact .pure _
  | none =>
      refine .bind ClassId.plain_ensureInitialised fun _ =>
        .bind (plain_step may rfl) fun found => ?_
      cases found with
      | some rep => exact .pure _
      | none => exact .bind plain_escalate fun _ => plain_step trivial rfl

/-- To resolve the class of a value comes to no more. -/
theorem plain_resolveValue (may : looking) :
    (registry.resolveValue value : Request σ Representation).Plain True True naming looking True :=
  .bind .observe fun _ => plain_resolve may

/-- To ask for the type of a value comes to no more. -/
theorem plain_typeOf (may : looking) :
    (registry.typeOf value : Request σ TypeId).Plain True True naming looking True :=
  .bind (plain_resolveValue may) fun _ => Representation.plain_typeOf

end RegistryId

/-! ## Synthesis -/

/-- To define a class decides its name, and nothing else. -/
theorem LoaderId.plain_define {loader : LoaderId} {body : ClassBody} :
    (loader.define body : Request σ ClassId).Plain typing making True looking hosting := by
  refine .bind .observe fun verified => ?_
  cases verified with
  | error defect => exact .throw _
  | ok layout =>
      refine .bind (.perform trivial rfl rfl) fun free => ?_
      split
      · exact .throw _
      · exact .perform trivial rfl rfl

namespace SynthesizerId

variable {synthesizer : SynthesizerId} {spec : Specification}

/-- To issue a name decides names only. -/
theorem plain_uniqueName {base : String} :
    (synthesizer.uniqueName base : Request σ String).Plain typing making True looking hosting :=
  .bind (.perform trivial rfl rfl) fun _ => .observe

/-- To write a listing decides nothing. -/
theorem plain_writeListing {directory : String} {body : ClassBody} :
    (writeListing directory body : Request σ Unit).Plain typing making naming looking hosting := by
  refine .bind (.perform trivial rfl rfl) fun made => ?_
  cases made with
  | error problem => exact .throw _
  | ok _ =>
      refine .bind .observe fun text => .bind (.perform trivial rfl rfl) fun written => ?_
      cases written with
      | error problem => exact .throw _
      | ok _ => exact .pure _

/-- To synthesize a class decides its name, and nothing else. -/
theorem plain_synthesize :
    (synthesizer.synthesize spec : Request σ ClassId).Plain typing making True looking hosting := by
  unfold synthesize
  cases spec.isFrozen with
  | false => exact .throw _
  | true =>
      refine .bind .observe fun base => .bind plain_uniqueName fun simple =>
        .bind .observe fun name => .bind (.perform trivial rfl rfl) fun _ =>
          .bind .observe fun directory => ?_
      cases directory with
      | none => exact .bind .observe fun loader => loader.plain_define
      | some directory =>
          exact .bind plain_writeListing fun _ =>
            .bind .observe fun loader => loader.plain_define

/-- To make a synthesizer decides the names that it will issue. -/
theorem plain_make {config : Configuration} :
    (make config : Request σ SynthesizerId).Plain typing making True looking hosting := by
  unfold make
  cases config.validate with
  | error problem => exact .throw _
  | ok _ =>
      exact .bind (.perform trivial rfl rfl) fun _ => .bind (.perform trivial rfl rfl) fun _ =>
        .perform trivial rfl rfl

end SynthesizerId

/-! ## Guest classes and factories -/

namespace FactoryId

variable {factory : FactoryId}

/-- To lay out the specification of a class looks at the bases only. -/
theorem plain_layoutSpecification {name : String} {bases : List TypeId}
    {slots : Option (List String)} {dict : Bool} :
    (layoutSpecification name bases slots dict : Request σ Specification).Plain typing making
      naming looking hosting := by
  refine .bind .observe fun types => .bind .observe fun hierarchy => ?_
  cases Inheritance.ofBases hierarchy types (bases.map types.row) with
  | none => exact .throw _
  | some inheritance =>
      dsimp only
      cases inheritance.specification name slots dict with
      | error misuse => exact .throw _
      | ok spec => exact .pure _

/-- To find the class of a layout may synthesize it, and does no more. -/
theorem plain_layoutClass {spec : Specification} :
    (factory.layoutClass spec : Request σ ClassId).Plain typing making True looking hosting := by
  refine .bind (plain_view _) fun kept => ?_
  cases kept with
  | some cls => exact .pure _
  | none =>
      exact .bind (plain_view _) fun _ => .bind SynthesizerId.plain_synthesize fun _ =>
        .bind (plain_step trivial) fun _ => .pure _

/-- To define a guest class may do all that a request without lookups does, and runs no host
code. -/
theorem inner_defineClass {name : String} {bases : List TypeId} {slots : Option (List String)}
    {dict : Bool} :
    (factory.defineClass name bases slots dict : Request σ TypeId).Plain True True True looking
      hosting :=
  .bind (plain_view _) fun _ => .bind plain_layoutSpecification fun _ =>
    plain_locked (.bind plain_layoutClass fun _ => inner_create)

/-- To make a factory makes its two first types and its synthesizer. -/
theorem plain_make {config : Configuration} :
    (make config : Request σ FactoryId).Plain typing True True looking hosting :=
  .bind (.perform trivial rfl rfl) fun _ => .bind SynthesizerId.plain_make fun _ =>
    .bind (.perform ⟨.inl rfl, trivial⟩ rfl rfl) fun _ =>
      .bind (.perform ⟨.inl rfl, trivial⟩ rfl rfl) fun _ =>
          .bind (.perform trivial rfl rfl) fun _ =>
        .bind (plain_view _) fun _ => .bind RegistryId.plain_registerAll fun _ => .pure _

end FactoryId

/-! ## Objects -/

namespace ObjectId

variable {object : ObjectId} {type : TypeId} {cls : ClassId}

/-- To make an object decides no type, since an object is made with its type. -/
theorem plain_make :
    (make cls type : Request σ ObjectId).Plain typing making naming looking hosting := by
  refine .bind .observe fun row => ?_
  cases row.layout with
  | none => exact .throw _
  | some layout =>
      dsimp only
      split
      · exact .bind (.perform trivial rfl rfl) fun _ => .bind (.pure _) fun _ =>
          .perform trivial rfl rfl
      · exact .bind (.pure _) fun _ => .perform trivial rfl rfl

/-- To check an index reads the layout of the object. -/
theorem plain_checkIndex {index : Nat} :
    (object.checkIndex index : Request σ Unit).Plain typing making naming looking hosting := by
  refine .bind .observe fun count => ?_
  split
  · exact .bind .observe fun _ => .throw _
  · exact .pure _

/-- To find a slot by its name reads the layout of the object. -/
theorem plain_slotIndex {name : String} :
    (object.slotIndex name : Request σ Nat).Plain typing making naming looking hosting := by
  refine .bind .observe fun found => ?_
  cases found with
  | some index => exact .pure _
  | none => exact .bind .observe fun _ => .throw _

/-- To store in a slot leaves the type of the object alone. -/
theorem plain_setSlotAt {index : Nat} {value : Option Value} :
    (object.setSlotAt index value : Request σ (Option Value)).Plain typing making naming looking
      hosting :=
  .bind plain_checkIndex fun _ => .perform trivial rfl rfl

/-- To read a slot decides nothing. -/
theorem plain_slot {name : String} :
    (object.slot name : Request σ (Option Value)).Plain typing making naming looking
      hosting :=
  .bind plain_slotIndex fun _ => .bind plain_checkIndex fun _ => .observe

/-- To store in a slot by its name leaves the type of the object alone. -/
theorem plain_setSlot {name : String} {value : Value} :
    (object.setSlot name value : Request σ (Option Value)).Plain typing making naming looking
      hosting :=
  .bind plain_slotIndex fun _ => plain_setSlotAt

/-- To empty a slot leaves the type of the object alone. -/
theorem plain_deleteSlot {name : String} :
    (object.deleteSlot name : Request σ (Option Value)).Plain typing making naming looking
      hosting :=
  .bind plain_slotIndex fun _ => plain_setSlotAt

/-- To check whether the class of an object may change decides nothing. -/
theorem plain_checkClassAssignment :
    (object.checkClassAssignment type : Request σ Unit).Plain typing making naming looking
      hosting := by
  refine .bind .observe fun held => ?_
  cases held with
  | none => exact .pure _
  | some held =>
      refine .bind .observe fun types => ?_
      split
      · exact .throw _
      · exact .pure _

/-- To set the type of an object decides it, and does nothing else. -/
theorem plain_setType :
    (object.setType type : Request σ Unit).Plain True making naming looking hosting :=
  .bind plain_checkClassAssignment fun _ => .perform trivial rfl rfl

/-- To set the dictionary of an object leaves its type alone. -/
theorem plain_setDict {dict : Value} :
    (object.setDict dict : Request σ Unit).Plain typing making naming looking hosting := by
  refine .bind (.bind .observe fun fits => ?_) fun _ => .perform trivial rfl rfl
  split
  · exact .bind .observe fun _ => .throw _
  · exact .pure _

end ObjectId

/-- To make an instance decides no type but that of the instance. -/
theorem TypeId.plain_newInstance {type : TypeId} :
    (type.newInstance : Request σ ObjectId).Plain typing making naming looking hosting := by
  refine .bind .observe fun row => .bind .observe fun synthesized => ?_
  split
  · exact ObjectId.plain_make
  · exact .throw _

/-! ## Calls -/

namespace Call

/-- The call makes types that share their representation, or stores the type of an object. -/
def DecidesTypes : Call -> Prop
  | resolve _ _ | resolveValue _ _ | typeOf _ _ | create _ _ | findOrCreate _ _
  | defineClass _ _ _ _ _ | setType _ _ => True
  | _ => False

/-- The call makes types. -/
def MakesTypes : Call -> Prop
  | resolve _ _ | resolveValue _ _ | typeOf _ _ | makeFactory _ | create _ _ | findOrCreate _ _
  | defineClass _ _ _ _ _ => True
  | _ => False

/-- The call decides what a class is named. -/
def DecidesNames : Call -> Prop
  | makeFactory _ | defineClass _ _ _ _ _ | makeSynthesizer _ | uniqueName _ _ | synthesize _ _
  | defineBody _ _ => True
  | _ => False

/-- The call runs host code in the middle of its request. -/
def RunsHostCode : Call -> Prop
  | ensureInitialised _ | resolve _ _ | resolveValue _ _ | typeOf _ _ | findOrCreate _ _ => True
  | _ => False

/-- The registry in which the call looks a class up, which is counted. -/
def lookedIn? : Call -> Option RegistryId
  | resolve registry _ | resolveValue registry _ | typeOf registry _ => some registry
  | _ => none

/-- What a call may do is read off its kind. -/
theorem plain_request (call : Call) :
    (call.request : Request σ call.Answer).Plain call.DecidesTypes call.MakesTypes
      call.DecidesNames call.lookedIn?.isSome call.RunsHostCode := by
  cases call with
  | declare row => exact .perform trivial rfl rfl
  | ensureInitialised cls => exact ClassId.plain_ensureInitialised
  | makeRegistry escalation => exact .perform trivial rfl rfl
  | loseEscalation registry => exact .perform trivial rfl rfl
  | lookup registry cls => exact RegistryId.plain_step trivial rfl
  | resolve registry cls => exact RegistryId.plain_resolve rfl
  | resolveValue registry value => exact RegistryId.plain_resolveValue rfl
  | typeOf registry value => exact RegistryId.plain_typeOf rfl
  | register registry cls rep => exact RegistryId.plain_registerAll
  | registerAll registry bindings => exact RegistryId.plain_registerAll
  | makeFactory config => exact FactoryId.plain_make
  | create factory wanted => exact FactoryId.inner_create
  | find factory cls => exact FactoryId.plain_find
  | findOrCreate factory cls => exact FactoryId.plain_findOrCreate
  | defineClass factory name bases slots dict => exact FactoryId.inner_defineClass
  | newInstance type => exact TypeId.plain_newInstance
  | makeSynthesizer config => exact SynthesizerId.plain_make
  | uniqueName synthesizer base => exact SynthesizerId.plain_uniqueName
  | synthesize synthesizer spec => exact SynthesizerId.plain_synthesize
  | redirect synthesizer directory => exact .perform trivial rfl rfl
  | makeLoader => exact .perform trivial rfl rfl
  | defineBody loader body => exact LoaderId.plain_define
  | allocate object => exact .perform trivial rfl rfl
  | makeObject cls type => exact ObjectId.plain_make
  | slot object name => exact ObjectId.plain_slot
  | setSlot object name value => exact ObjectId.plain_setSlot
  | deleteSlot object name => exact ObjectId.plain_deleteSlot
  | setType object type => exact ObjectId.plain_setType
  | setDict object dict => exact ObjectId.plain_setDict
  | exchangeEntry object name value => exact .perform trivial rfl rfl

end Call

end GuestTypes
