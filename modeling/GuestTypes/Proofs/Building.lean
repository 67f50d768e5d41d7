import GuestTypes.Proofs.Comparison

/-!
# Building specifications

What the code that builds specifications can rely on, whatever calls it makes on them and on their
clones, in any order. A batch is what comes of its items one after the other up to the first that is
refused, and a single item that is refused leaves no trace. Freezing reads all that was added, and
after it the specification is what it is: each call asks first whether it is frozen.
-/

namespace GuestTypes

namespace BuilderCall

/-- The call is about one item. -/
def isSingle : BuilderCall -> Bool
  | rename _ | addInterface _ _ | addSlot _ | addDictIf _ => true
  | addInterfaces _ _ | addSlots _ | freeze => false

/-- The single calls that a batch stands for. -/
def items? : BuilderCall -> Option (List BuilderCall)
  | addInterfaces hierarchy ifaces => some (ifaces.map (addInterface hierarchy))
  | addSlots slots => some (slots.map addSlot)
  | rename _ | addInterface _ _ | addSlot _ | addDictIf _ | freeze => none

/-- The classes there are when the call is made, if it asks about one. -/
def consulted? : BuilderCall -> Option Hierarchy
  | addInterface hierarchy _ | addInterfaces hierarchy _ => some hierarchy
  | rename _ | addSlot _ | addSlots _ | addDictIf _ | freeze => none

/-- A single call fits a draft unless it adds what was added before, or a class for an interface. -/
def Fits (draft : Draft) : BuilderCall -> Prop
  | addInterface hierarchy iface =>
      hierarchy.isInterface iface = true ∧ .interface iface ∉ draft.additions
  | addSlot slot => .slot slot ∉ draft.additions
  | rename _ | addInterfaces _ _ | addSlots _ | addDictIf _ | freeze => True

/-- Calls that are accepted one after the other lead to a specification. -/
inductive Accepted : Specification -> List BuilderCall -> Specification -> Prop where
  | nil {spec : Specification} : Accepted spec [] spec
  | cons {spec middle after : Specification} {call : BuilderCall} {rest : List BuilderCall}
      (first : call.perform spec = (middle, none)) (later : Accepted middle rest after) :
      Accepted spec (call :: rest) after

end BuilderCall

/-- The classes there are when something is done, if they matter. -/
def BenchStep.consulted? : BenchStep -> Option Hierarchy
  | .call _ asked => asked.consulted?
  | .start _ _ | .clone _ | .compare _ _ | .feed _ => none

/-! ## Frozen specifications -/

namespace Specification

variable {spec after : Specification} {misuse : Misuse}

/-- To freeze what is frozen changes nothing. -/
theorem freeze_of_isFrozen (frozen : spec.isFrozen = true) : spec.freeze = spec := by
  obtain ⟨fixed, same⟩ := Option.isSome_iff_exists.mp frozen
  cases spec
  subst same
  rfl

/-! The first thing each change asks is whether the specification is open. -/

/-- Nothing is changed about a frozen specification. -/
theorem bind_of_isFrozen {change : Unit -> Except Misuse Specification}
    (frozen : spec.isFrozen = true) :
    spec.openOrMisuse >>= change = .error (.frozen spec.name) := by
  rw [openOrMisuse, if_pos frozen]
  rfl

/-- An open specification is changed. -/
theorem bind_of_open {change : Unit -> Except Misuse Specification}
    (open_ : spec.isFrozen = false) : spec.openOrMisuse >>= change = change () := by
  rw [openOrMisuse, open_]
  rfl

/-- A slot is added unless it was added before. -/
theorem addSlot_open (open_ : spec.isFrozen = false) (slot : String) :
    spec.addSlot slot = if slot ∈ spec.added.getD [] then
      .error (.repeated spec.name .addSlot slot)
    else .ok { spec with added := some (spec.added.getD [] ++ [slot]) } := by
  unfold addSlot
  rw [bind_of_open open_]
  by_cases before : slot ∈ spec.added.getD []
  · simp [before, throw, throwThe, MonadExceptOf.throw, bind, Except.bind]
  · simp [before, pure, Except.pure]

/-- An interface is added unless it is a class or was added before. -/
theorem addInterface_open (open_ : spec.isFrozen = false) (hierarchy : Hierarchy)
    (iface : ClassId) :
    spec.addInterface hierarchy iface = if hierarchy.isInterface iface = false then
      .error (.notInterface spec.name (hierarchy.name iface))
    else if iface ∈ spec.interfaces then
      .error (.repeated spec.name .addInterface (hierarchy.name iface))
    else .ok { spec with interfaces := spec.interfaces ++ [iface] } := by
  unfold addInterface
  rw [bind_of_open open_]
  cases kind : hierarchy.isInterface iface with
  | false => simp [throw, throwThe, MonadExceptOf.throw, bind, Except.bind]
  | true =>
      by_cases before : iface ∈ spec.interfaces
      · simp [before, throw, throwThe, MonadExceptOf.throw, bind, Except.bind]
      · simp [before, pure, Except.pure]

/-- What every accepted change keeps is kept, also by a refused one. -/
theorem settle_keeps (spec : Specification) {Kept : Specification -> Prop}
    {outcome : Except Misuse Specification}
    (step : forall changed, outcome = .ok changed -> Kept changed) (kept : Kept spec) :
    Kept (spec.settle outcome).1 := by
  cases outcome with
  | ok changed => exact step changed rfl
  | error _ => exact kept

/-- What the classes say of each interface that is listed. -/
def ListsInterfaces (hierarchy : Hierarchy) (spec : Specification) : Prop :=
  forall iface, iface ∈ spec.interfaces -> hierarchy.isInterface iface = true

/-- An interface that is added is one by later declarations as well. -/
theorem ListsInterfaces.addInterface {earlier hierarchy : Hierarchy} {iface : ClassId}
    (lists : ListsInterfaces hierarchy spec) (extends_ : earlier.Extends hierarchy)
    (added : spec.addInterface earlier iface = .ok after) : ListsInterfaces hierarchy after := by
  obtain ⟨interface, -, rfl⟩ := of_addInterface added
  intro listed member
  rcases List.mem_append.mp member with before | new
  · exact lists listed before
  · obtain rfl := List.mem_singleton.mp new
    exact isInterface_mono extends_ interface

end Specification

namespace BuilderCall

variable {spec after : Specification} {misuse : Misuse} {call : BuilderCall}
  {batch : List BuilderCall}

/-- A frozen specification refuses all calls but the one that freezes it again. -/
theorem perform_frozen (frozen : spec.isFrozen = true) (changes : call ≠ .freeze) :
    call.perform spec = (spec, some (.frozen spec.name)) := by
  cases call with
  | freeze => exact absurd rfl changes
  | addInterfaces hierarchy ifaces => exact Specification.addAll_of_isFrozen frozen
  | addSlots slots => exact Specification.addAll_of_isFrozen frozen
  | rename name => exact congrArg spec.settle (Specification.bind_of_isFrozen frozen)
  | addInterface hierarchy iface =>
      exact congrArg spec.settle (Specification.bind_of_isFrozen frozen)
  | addSlot slot => exact congrArg spec.settle (Specification.bind_of_isFrozen frozen)
  | addDictIf condition => exact congrArg spec.settle (Specification.bind_of_isFrozen frozen)

/-- A call on a frozen specification changes nothing. -/
theorem perform_of_isFrozen (frozen : spec.isFrozen = true) : (call.perform spec).1 = spec := by
  by_cases changes : call = .freeze
  · rw [changes]
    exact Specification.freeze_of_isFrozen frozen
  · rw [perform_frozen frozen changes]

/-- Nothing is added to a frozen specification. -/
theorem additions_of_isFrozen (frozen : spec.isFrozen = true) : call.additions spec = [] := by
  cases call with
  | rename _ | freeze => rfl
  | addInterface hierarchy iface =>
      have refused : spec.addInterface hierarchy iface = .error (.frozen spec.name) :=
        Specification.bind_of_isFrozen frozen
      simp [additions, Specification.acceptedEach, refused]
  | addSlot slot =>
      have refused : spec.addSlot slot = .error (.frozen spec.name) :=
        Specification.bind_of_isFrozen frozen
      simp [additions, Specification.acceptedEach, refused]
  | addInterfaces _ _ | addSlots _ => simp [additions, Specification.acceptedAll, frozen]
  | addDictIf condition => simp [additions, frozen]

/-- Nothing gets listed as an interface that was none when it was added. -/
theorem listsInterfaces_perform {hierarchy : Hierarchy}
    (consulted : forall earlier, call.consulted? = some earlier -> earlier.Extends hierarchy)
    (lists : spec.ListsInterfaces hierarchy) :
    (call.perform spec).1.ListsInterfaces hierarchy := by
  cases call with
  | freeze => exact lists
  | addInterfaces earlier ifaces =>
      exact Specification.addAll_keeps (fun kept added => kept.addInterface (consulted _ rfl) added)
        ifaces lists
  | addSlots slots =>
      refine Specification.addAll_keeps (fun kept added => ?_) slots lists
      obtain ⟨-, -, rfl⟩ := Specification.of_addSlot added
      exact kept
  | rename name =>
      refine spec.settle_keeps (fun changed renamed => ?_) lists
      obtain rfl := Specification.of_rename renamed
      exact lists
  | addInterface earlier iface =>
      exact spec.settle_keeps (fun changed added => lists.addInterface (consulted _ rfl) added)
        lists
  | addSlot slot =>
      refine spec.settle_keeps (fun changed added => ?_) lists
      obtain ⟨-, -, rfl⟩ := Specification.of_addSlot added
      exact lists
  | addDictIf condition =>
      refine spec.settle_keeps (fun changed added => ?_) lists
      obtain ⟨-, rfl⟩ := Specification.of_addDictIf added
      exact lists

/-! ## Single items and batches -/

/-- A single call that is refused has changed nothing. -/
theorem perform_refused (single : call.isSingle = true)
    (refused : (call.perform spec).2 = some misuse) : (call.perform spec).1 = spec := by
  have settled : forall outcome : Except Misuse Specification,
      (spec.settle outcome).2 = some misuse -> (spec.settle outcome).1 = spec := by
    intro outcome refused
    cases outcome with
    | ok changed => cases refused
    | error _ => rfl
  cases call with
  | addInterfaces _ _ | addSlots _ | freeze => cases single
  | rename _ | addInterface _ _ | addSlot _ | addDictIf _ => exact settled _ refused

section Batches

variable {α : Type} {add : Specification -> α -> Except Misuse Specification}
  {single : α -> BuilderCall}
  (performs : forall spec item, (single item).perform spec = spec.settle (add spec item))
include performs

/-- Items that are all added are accepted one after the other. -/
theorem addEach_accepted {items : List α} :
    Specification.addEach add spec items = (after, none) ↔
      Accepted spec (items.map single) after := by
  induction items generalizing spec with
  | nil =>
      constructor
      · rintro ⟨⟩
        exact .nil
      · rintro ⟨⟩
        rfl
  | cons item rest inductionHypothesis =>
      unfold Specification.addEach
      cases added : add spec item with
      | error misuse =>
          constructor
          · rintro ⟨⟩
          · rintro (_ | ⟨first, -⟩)
            rw [performs, added] at first
            cases first
      | ok changed =>
          refine inductionHypothesis.trans ⟨.cons (by rw [performs, added]; rfl), ?_⟩
          rintro (_ | ⟨first, later⟩)
          rw [performs, added] at first
          cases first
          exact later

/-- Items that are not all added are so up to the first that is refused. -/
theorem addEach_refused {items : List α} :
    Specification.addEach add spec items = (after, some misuse) ↔
      exists before offending rest, items.map single = before ++ offending :: rest ∧
        Accepted spec before after ∧ offending.perform after = (after, some misuse) := by
  induction items generalizing spec with
  | nil => simp [Specification.addEach]
  | cons item rest inductionHypothesis =>
      unfold Specification.addEach
      cases added : add spec item with
      | error problem =>
          have refused : (single item).perform spec = (spec, some problem) := by
            rw [performs, added]
            rfl
          constructor
          · rintro ⟨⟩
            exact ⟨[], single item, rest.map single, rfl, .nil, refused⟩
          · rintro ⟨before, offending, later, split, accepted, offends⟩
            cases accepted with
            | nil =>
                cases (List.cons.inj split).1
                cases refused.symm.trans offends
                rfl
            | cons first _ =>
                cases (List.cons.inj split).1
                cases refused.symm.trans first
      | ok changed =>
          have performed : (single item).perform spec = (changed, none) := by
            rw [performs, added]
            rfl
          refine inductionHypothesis.trans ?_
          constructor
          · rintro ⟨before, offending, later, split, accepted, offends⟩
            exact ⟨single item :: before, offending, later, congrArg (single item :: ·) split,
              .cons performed accepted, offends⟩
          · rintro ⟨before, offending, later, split, accepted, offends⟩
            cases accepted with
            | nil =>
                cases (List.cons.inj split).1
                cases performed.symm.trans offends
            | cons first accepted =>
                obtain ⟨same, remaining⟩ := List.cons.inj split
                cases same
                cases performed.symm.trans first
                exact ⟨_, offending, later, remaining, accepted, offends⟩

end Batches

/-- A batch adds its items to an open specification one by one. -/
theorem perform_batch (open_ : spec.isFrozen = false) (items : call.items? = some batch) :
    exists (α : Type) (add : Specification -> α -> Except Misuse Specification)
      (single : α -> BuilderCall) (added : List α),
      (forall spec item, (single item).perform spec = spec.settle (add spec item)) ∧
        batch = added.map single ∧ call.perform spec = Specification.addEach add spec added := by
  cases call with
  | rename _ | addInterface _ _ | addSlot _ | addDictIf _ | freeze => cases items
  | addInterfaces hierarchy ifaces =>
      cases items
      exact ⟨_, _, .addInterface hierarchy, ifaces, fun _ _ => rfl, rfl,
        Specification.addAll_open open_⟩
  | addSlots slots =>
      cases items
      exact ⟨_, _, .addSlot, slots, fun _ _ => rfl, rfl, Specification.addAll_open open_⟩

/-- A batch that is accepted is what comes of its items. -/
theorem perform_batch_accepted (open_ : spec.isFrozen = false) (items : call.items? = some batch) :
    call.perform spec = (after, none) ↔ Accepted spec batch after := by
  obtain ⟨α, add, single, added, performs, rfl, same⟩ := perform_batch open_ items
  rw [same]
  exact addEach_accepted performs

/-- A batch that is refused is what comes of the items before the first that is refused. -/
theorem perform_batch_refused (open_ : spec.isFrozen = false) (items : call.items? = some batch) :
    call.perform spec = (after, some misuse) ↔
      exists before offending rest, batch = before ++ offending :: rest ∧
        Accepted spec before after ∧ offending.perform after = (after, some misuse) := by
  obtain ⟨α, add, single, added, performs, rfl, same⟩ := perform_batch open_ items
  rw [same]
  exact addEach_refused performs

/-- An open specification refuses what does not fit its history, and nothing else. -/
theorem perform_accepts {draft : Draft} (sound : draft.Sound) (open_ : draft.spec.isFrozen = false)
    (single : call.isSingle = true) : (call.perform draft.spec).2 = none ↔ call.Fits draft := by
  have changed : forall {outcome : Except Misuse Specification},
      (draft.spec.settle outcome).2 = none ↔ exists spec, outcome = .ok spec := by
    intro outcome
    cases outcome <;> simp [Specification.settle]
  cases call with
  | addInterfaces _ _ | addSlots _ | freeze => cases single
  | rename name =>
      exact iff_of_true (changed.mpr ⟨_, Specification.bind_of_open open_⟩) trivial
  | addDictIf condition =>
      exact iff_of_true (changed.mpr ⟨_, Specification.bind_of_open open_⟩) trivial
  | addSlot slot =>
      refine changed.trans ?_
      rw [Specification.addSlot_open open_, Fits, ← sound.slots]
      split <;> simp [*]
  | addInterface hierarchy iface =>
      refine changed.trans ?_
      rw [Specification.addInterface_open open_, Fits, ← sound.interfaces]
      split
      · simp [*]
      · split <;> simp_all

end BuilderCall

/-! ## On the bench -/

namespace Draft

variable {draft : Draft}

/-- The slots of a frozen specification are those of the history, strictly in order. -/
theorem Sound.increasing_freeze (sound : draft.Sound) :
    draft.spec.freeze.slots.Pairwise (· < ·) := by
  show draft.spec.layout.slots.Pairwise (· < ·)
  rw [sound.layout]
  have distinct := sound.distinct
  cases added : draft.spec.added with
  | none => simp [Specification.openLayout, Specification.layout, added]
  | some slots =>
      rw [added] at distinct
      simpa [Specification.openLayout, Specification.layout, added, Layout.ofFields] using
        Specification.increasing_mergeSort distinct

/-- The slots of a draft are different. -/
theorem Sound.nodup_slots (sound : draft.Sound) : draft.spec.slots.Nodup := by
  cases frozen : draft.spec.frozen with
  | none =>
      simp only [Specification.slots, frozen]
      exact sound.distinct
  | some layout =>
      have isFrozen : draft.spec.isFrozen = true := by simp [Specification.isFrozen, frozen]
      rw [← Specification.freeze_of_isFrozen isFrozen]
      exact sound.increasing_freeze.imp fun low => String.ne_of_lt low

end Draft

namespace Bench

variable {bench : List Draft} {draft new : Draft} {place target : Nat}

/-- A draft that is not touched stays in its place. -/
theorem set_keeps (held : bench[place]? = some draft) (same : target = place -> new = draft) :
    (bench.set target new)[place]? = some draft := by
  rw [List.getElem?_set]
  split
  · rename_i here
    have bound := (List.getElem?_eq_some_iff.mp held).1
    rw [if_pos (here ▸ bound), same here]
  · exact held

/-- A frozen draft stays at its place as it is. -/
theorem perform_keeps (held : bench[place]? = some draft) (frozen : draft.spec.isFrozen = true)
    (step : BenchStep) : (perform bench step)[place]? = some draft := by
  have bound := (List.getElem?_eq_some_iff.mp held).1
  have refrozen : forall {place' other}, place' = place -> bench[place']? = some other ->
      { other with spec := other.spec.freeze } = draft := by
    rintro place' other rfl otherHeld
    cases held.symm.trans otherHeld
    rw [Specification.freeze_of_isFrozen frozen]
  cases step with
  | start name base => exact (List.getElem?_append_left bound).trans held
  | clone original => exact (List.getElem?_append_left bound).trans held
  | call target call =>
      simp only [perform, List.getElem?_modify, held]
      split
      · simp [BuilderCall.perform_of_isFrozen frozen, BuilderCall.additions_of_isFrozen frozen]
      · simp
  | feed target =>
      simp only [perform, List.getElem?_modify, held]
      split
      · simp [Specification.feed, Specification.freeze_of_isFrozen frozen]
      · simp
  | compare left right =>
      cases first : bench[left]? with
      | none => simpa [perform, first] using held
      | some leftDraft =>
          cases second : bench[right]? with
          | none => simpa [perform, first, second] using held
          | some rightDraft =>
              simp only [perform, first, second, Specification.compare]
              exact set_keeps (set_keeps held fun here => refrozen here first)
                fun here => refrozen here second

/-- A frozen draft stays as it is, whatever comes after. -/
theorem foldl_keeps (held : bench[place]? = some draft) (frozen : draft.spec.isFrozen = true)
    (more : List BenchStep) : (more.foldl perform bench)[place]? = some draft :=
  List.foldlRecOn (motive := fun bench => bench[place]? = some draft) more perform held
    fun _ held step _ => perform_keeps held frozen step

/-- Interfaces stay interfaces when classes are added, so each that is listed is one. -/
theorem listsInterfaces_after {hierarchy : Hierarchy} {steps : List BenchStep}
    (consulted : forall step, step ∈ steps -> forall earlier, step.consulted? = some earlier ->
      earlier.Extends hierarchy) :
    forall draft, draft ∈ after steps -> draft.spec.ListsInterfaces hierarchy := by
  apply List.foldlRecOn
    (motive := fun bench => forall draft, draft ∈ bench -> draft.spec.ListsInterfaces hierarchy)
    steps perform (b := []) nofun
  intro bench lists step member
  apply forall_perform
  case started => exact fun _ _ => nofun
  case called =>
    rintro draft place call rfl kept
    exact BuilderCall.listsInterfaces_perform (consulted _ member) kept
  case frozen => exact fun kept => kept
  case kept => exact lists

/-- What can be relied on when specifications are built by some steps. -/
structure Disciplined (steps : List BenchStep) : Prop where
  distinct : forall draft, draft ∈ after steps ->
    draft.spec.interfaces.Nodup ∧ draft.spec.slots.Nodup
  history : forall draft, draft ∈ after steps ->
    (forall iface, iface ∈ draft.spec.interfaces ↔ .interface iface ∈ draft.additions) ∧
    (forall slot, slot ∈ draft.spec.slots ↔ .slot slot ∈ draft.additions)
  /-- Of all classes there were at a call, and those that came after it. -/
  interfaces : forall hierarchy,
    (forall step, step ∈ steps -> forall earlier, step.consulted? = some earlier ->
      earlier.Extends hierarchy) ->
    forall draft, draft ∈ after steps -> forall iface, iface ∈ draft.spec.interfaces ->
      hierarchy.isInterface iface = true
  accepts : forall draft, draft ∈ after steps -> draft.spec.isFrozen = false ->
    forall call : BuilderCall, call.isSingle = true ->
      ((call.perform draft.spec).2 = none ↔ call.Fits draft)
  refuses : forall draft, draft ∈ after steps -> forall call : BuilderCall, call.isSingle = true ->
    forall misuse, (call.perform draft.spec).2 = some misuse ->
      (call.perform draft.spec).1 = draft.spec
  batchAccepted : forall draft, draft ∈ after steps -> draft.spec.isFrozen = false ->
    forall (call : BuilderCall) (items : List BuilderCall), call.items? = some items ->
      forall spec, call.perform draft.spec = (spec, none) ↔
        BuilderCall.Accepted draft.spec items spec
  batchRefused : forall draft, draft ∈ after steps -> draft.spec.isFrozen = false ->
    forall (call : BuilderCall) (items : List BuilderCall), call.items? = some items ->
      forall spec misuse, call.perform draft.spec = (spec, some misuse) ↔
        exists before offending rest, items = before ++ offending :: rest ∧
          BuilderCall.Accepted draft.spec before spec ∧
          offending.perform spec = (spec, some misuse)
  freezing : forall draft, draft ∈ after steps ->
    draft.spec.FrozenAs draft.spec.freeze ∧ draft.spec.freeze.slots.Pairwise (· < ·) ∧
      (forall slot, slot ∈ draft.spec.freeze.slots ↔ .slot slot ∈ draft.additions) ∧
      (draft.spec.freeze.hasDict = true ↔
        .dict ∈ draft.additions ∨ draft.spec.freeze.slots = [])
  sealed : forall draft, draft ∈ after steps -> draft.spec.isFrozen = true ->
    draft.spec.freeze = draft.spec ∧ forall call : BuilderCall, call ≠ .freeze ->
      call.perform draft.spec = (draft.spec, some (.frozen draft.spec.name))
  stays : forall (place : Nat) draft, (after steps)[place]? = some draft ->
    draft.spec.isFrozen = true -> forall more, (after (steps ++ more))[place]? = some draft
  clones : forall (place : Nat) draft, (after steps)[place]? = some draft ->
    draft.spec.isFrozen = true -> forall more,
      (after (steps ++ .clone place :: more))[(after steps).length]? = some draft

/-- Whatever steps are taken with specifications, in whatever order, building is disciplined. -/
theorem building_disciplined (steps : List BenchStep) : Disciplined steps := by
  have sound := sound_after steps
  have continued : forall more, after (steps ++ more) = more.foldl perform (after steps) :=
    fun more => List.foldl_append
  constructor
  case distinct =>
    exact fun draft member => ⟨(sound draft member).apart, (sound draft member).nodup_slots⟩
  case history =>
    exact fun draft member =>
      ⟨(sound draft member).interfaces, fun _ => (sound draft member).mem_slots⟩
  case interfaces => exact fun hierarchy consulted => listsInterfaces_after consulted
  case accepts =>
    exact fun draft member open_ call single =>
      BuilderCall.perform_accepts (sound draft member) open_ single
  case refuses => exact fun draft _ call single misuse => BuilderCall.perform_refused single
  case batchAccepted =>
    exact fun draft _ open_ call items stands spec =>
      BuilderCall.perform_batch_accepted open_ stands
  case batchRefused =>
    exact fun draft _ open_ call items stands spec misuse =>
      BuilderCall.perform_batch_refused open_ stands
  case freezing =>
    intro draft member
    have drafted := sound draft member
    refine ⟨drafted.frozenAs, drafted.increasing_freeze, fun slot => drafted.freeze.mem_slots, ?_⟩
    rw [drafted.hasDict_freeze, Draft.HasDict, List.eq_nil_iff_forall_not_mem]
    simp only [drafted.freeze.mem_slots]
  case sealed =>
    exact fun draft _ frozen => ⟨Specification.freeze_of_isFrozen frozen,
      fun call changes => BuilderCall.perform_frozen frozen changes⟩
  case stays =>
    intro place draft held frozen more
    rw [continued]
    exact foldl_keeps held frozen more
  case clones =>
    intro place draft held frozen more
    rw [continued]
    have copied : (perform (after steps) (.clone place))[(after steps).length]? = some draft := by
      simp [perform, held]
    exact foldl_keeps copied frozen more

end Bench

end GuestTypes
