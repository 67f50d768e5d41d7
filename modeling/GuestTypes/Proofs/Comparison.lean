import Mathlib.Data.List.Sort
import GuestTypes.Proofs.Realisation

/-!
# Comparison of specifications

Specifications are built side by side: started, cloned, added to, frozen, compared and hashed,
in any order and with calls that are refused. With each goes the history of what was added to
it. Comparing two of them decides whether they have one base and the same sets of interfaces
and slots and agree on having a dictionary.

The lists that are compared are put in order first. They say which sets they list because no
call adds an item twice, and they say it of all additions because freezing reads them last.
-/

namespace GuestTypes

/-- What can be added to a specification. -/
inductive Addition where
  | interface (cls : ClassId)
  | slot (name : String)
  | dict
  deriving DecidableEq

/-! ## Building -/

/-- A call of the code that builds a specification. The classes there are may have grown in
number from one call to the next. -/
inductive BuilderCall where
  | rename (name : String)
  | addInterface (hierarchy : Hierarchy) (iface : ClassId)
  | addInterfaces (hierarchy : Hierarchy) (ifaces : List ClassId)
  | addSlot (slot : String)
  | addSlots (slots : List String)
  | addDictIf (condition : Bool)
  | freeze

namespace Specification

/-- A call that is refused leaves the specification as it is. -/
def settle (spec : Specification) : Except Misuse Specification -> Specification × Option Misuse
  | .ok changed => (changed, none)
  | .error misuse => (spec, some misuse)

/-- The items that are added one after the other: those before the first that is refused. -/
def acceptedEach {α : Type} (add : Specification -> α -> Except Misuse Specification) :
    Specification -> List α -> List α
  | _, [] => []
  | spec, item :: rest =>
      match add spec item with
      | .error _ => []
      | .ok changed => item :: acceptedEach add changed rest

/-- The items of a batch that are added. -/
def acceptedAll {α : Type} (add : Specification -> α -> Except Misuse Specification)
    (spec : Specification) (items : List α) : List α :=
  if spec.isFrozen then [] else acceptedEach add spec items

end Specification

namespace BuilderCall

/-- The specification after the call, and the misuse if the call is refused. -/
def perform (spec : Specification) : BuilderCall -> Specification × Option Misuse
  | rename name => spec.settle (spec.rename name)
  | addInterface hierarchy iface => spec.settle (spec.addInterface hierarchy iface)
  | addInterfaces hierarchy ifaces => spec.addInterfaces hierarchy ifaces
  | addSlot slot => spec.settle (spec.addSlot slot)
  | addSlots slots => spec.addSlots slots
  | addDictIf condition => spec.settle (spec.addDictIf condition)
  | freeze => (spec.freeze, none)

/-- What the call adds to the specification. -/
def additions (spec : Specification) : BuilderCall -> List Addition
  | rename _ => []
  | addInterface hierarchy iface =>
      (spec.acceptedEach (Specification.addInterface hierarchy) [iface]).map .interface
  | addInterfaces hierarchy ifaces =>
      (spec.acceptedAll (Specification.addInterface hierarchy) ifaces).map .interface
  | addSlot slot => (spec.acceptedEach Specification.addSlot [slot]).map .slot
  | addSlots slots => (spec.acceptedAll Specification.addSlot slots).map .slot
  | addDictIf condition => if condition && !spec.isFrozen then [.dict] else []
  | freeze => []

end BuilderCall

/-- A specification under construction, and what was added to it so far. -/
structure Draft where
  spec : Specification
  additions : List Addition := []
  deriving DecidableEq

/-- What is done with the specifications on a bench. They are named by their positions. -/
inductive BenchStep where
  | start (name : String) (base : ClassId)
  /-- The copy has the history of its original. -/
  | clone (place : Nat)
  | call (place : Nat) (call : BuilderCall)
  /-- The two may be one. -/
  | compare (left right : Nat)
  | feed (place : Nat)

namespace Bench

def perform (bench : List Draft) : BenchStep -> List Draft
  | .start name base => bench ++ [{ spec := { name, base } }]
  | .clone place => bench ++ bench[place]?.toList
  | .call place call => bench.modify place fun draft =>
      { spec := (call.perform draft.spec).1
        additions := draft.additions ++ call.additions draft.spec }
  | .compare left right =>
      match bench[left]?, bench[right]? with
      | some first, some second =>
          let (_, firstAfter, secondAfter) := first.spec.compare second.spec
          (bench.set left { first with spec := firstAfter }).set right
            { second with spec := secondAfter }
      | _, _ => bench
  | .feed place => bench.modify place fun draft => { draft with spec := draft.spec.feed.2 }

/-- The bench after some steps, from an empty one. -/
def after (steps : List BenchStep) : List Draft := steps.foldl perform []

end Bench

/-! ## What a draft holds -/

namespace Specification

variable {spec other : Specification}

/-- The layout that the additions alone decide. -/
def openLayout (spec : Specification) : Layout := { spec with frozen := none }.layout

/-- The slots of a layout are those that were added. -/
theorem mem_openLayout {slot : String} :
    slot ∈ spec.openLayout.slots ↔ slot ∈ spec.added.getD [] := by
  cases added : spec.added with
  | none => simp [openLayout, layout, added]
  | some slots => simp [openLayout, layout, added, Layout.ofFields]

/-- There is a dictionary if one was asked for, or if no slot was ever added. -/
theorem hasDict_openLayout :
    spec.openLayout.hasDict = true ↔ spec.dict = true ∨ spec.added = none := by
  cases added : spec.added with
  | none => simp [openLayout, layout, added]
  | some slots => simp [openLayout, layout, added, Layout.ofFields]

end Specification

namespace Draft

variable {draft : Draft}

/-- The specification holds what its history says, each item once, and is frozen, if it is, with
the layout of all of it. -/
structure Sound (draft : Draft) : Prop where
  interfaces : forall iface, iface ∈ draft.spec.interfaces ↔ .interface iface ∈ draft.additions
  slots : forall slot, slot ∈ draft.spec.added.getD [] ↔ .slot slot ∈ draft.additions
  dict : draft.spec.dict = true ↔ .dict ∈ draft.additions
  apart : draft.spec.interfaces.Nodup
  distinct : (draft.spec.added.getD []).Nodup
  nonempty : draft.spec.added ≠ some []
  layout : draft.spec.layout = draft.spec.openLayout

/-- A draft that is started has no history. -/
theorem sound_start (name : String) (base : ClassId) : Sound { spec := { name, base } } where
  interfaces := by simp
  slots := by simp
  dict := by simp
  apart := List.nodup_nil
  distinct := List.nodup_nil
  nonempty := nofun
  layout := rfl

/-- Freezing, again or for the first time, decides nothing that the additions do not. -/
theorem Sound.freeze (sound : draft.Sound) : Sound { draft with spec := draft.spec.freeze } where
  interfaces := sound.interfaces
  slots := sound.slots
  dict := sound.dict
  apart := sound.apart
  distinct := sound.distinct
  nonempty := sound.nonempty
  layout := sound.layout

/-- To rename a draft adds nothing. -/
theorem Sound.rename {spec : Specification} {name : String} (sound : draft.Sound)
    (renamed : draft.spec.rename name = .ok spec) : Sound { draft with spec } := by
  obtain rfl := Specification.of_rename renamed
  exact { sound with layout := sound.layout }

/-- An interface that is added goes down in the history. -/
theorem Sound.addInterface {spec : Specification} {hierarchy : Hierarchy} {iface : ClassId}
    (sound : draft.Sound) (added : draft.spec.addInterface hierarchy iface = .ok spec) :
    Sound { spec, additions := draft.additions ++ [.interface iface] } := by
  obtain ⟨-, absent, rfl⟩ := Specification.of_addInterface added
  constructor
  case interfaces => simp [sound.interfaces]
  case slots => simp [sound.slots]
  case dict => simp [sound.dict]
  case apart => exact Specification.nodup_snoc sound.apart absent
  case distinct => exact sound.distinct
  case nonempty => exact sound.nonempty
  case layout => exact sound.layout

/-- A slot that is added goes down in the history. -/
theorem Sound.addSlot {spec : Specification} {slot : String} (sound : draft.Sound)
    (added : draft.spec.addSlot slot = .ok spec) :
    Sound { spec, additions := draft.additions ++ [.slot slot] } := by
  obtain ⟨open_, absent, rfl⟩ := Specification.of_addSlot added
  constructor
  case interfaces => simp [sound.interfaces]
  case slots => simp [sound.slots]
  case dict => simp [sound.dict]
  case apart => exact sound.apart
  case distinct => exact Specification.nodup_snoc sound.distinct absent
  case nonempty => simp
  case layout => simp [Specification.openLayout, Specification.layout, open_]

/-- A dictionary goes down in the history if it is added. -/
theorem Sound.addDictIf {spec : Specification} {condition : Bool} (sound : draft.Sound)
    (added : draft.spec.addDictIf condition = .ok spec) :
    Sound { spec, additions := draft.additions ++ if condition then [.dict] else [] } := by
  obtain ⟨open_, rfl⟩ := Specification.of_addDictIf added
  constructor
  case interfaces => cases condition <;> simp [sound.interfaces]
  case slots => cases condition <;> simp [sound.slots]
  case dict => cases condition <;> simp [sound.dict]
  case apart => exact sound.apart
  case distinct => exact sound.distinct
  case nonempty => exact sound.nonempty
  case layout => simp [Specification.openLayout, Specification.layout, open_]

section Batches

variable {α : Type} {add : Specification -> α -> Except Misuse Specification}
  {addition : α -> Addition}
  (step : forall {draft : Draft} {item spec}, draft.Sound -> add draft.spec item = .ok spec ->
    Sound { spec, additions := draft.additions ++ [addition item] })
include step

/-- Items added one after the other are sound additions as far as they go. -/
theorem Sound.addEach (sound : draft.Sound) (items : List α) :
    Sound {
      spec := (Specification.addEach add draft.spec items).1
      additions := draft.additions ++
        (Specification.acceptedEach add draft.spec items).map addition } := by
  induction items generalizing draft with
  | nil => simpa [Specification.addEach, Specification.acceptedEach] using sound
  | cons item rest inductionHypothesis =>
      cases added : add draft.spec item with
      | error misuse =>
          simpa [Specification.addEach, Specification.acceptedEach, added] using sound
      | ok changed =>
          simpa [Specification.addEach, Specification.acceptedEach, added] using
            inductionHypothesis (step sound added)

/-- The items of a batch that are added go down in the history. -/
theorem Sound.addAll (sound : draft.Sound) (items : List α) :
    Sound {
      spec := (Specification.addAll add draft.spec items).1
      additions := draft.additions ++
        (Specification.acceptedAll add draft.spec items).map addition } := by
  cases frozen : draft.spec.isFrozen with
  | true => simpa [Specification.addAll_of_isFrozen, Specification.acceptedAll, frozen] using sound
  | false =>
      simpa [Specification.addAll_open, Specification.acceptedAll, frozen]
        using sound.addEach step items

/-- A call that is refused leaves the draft and its history alone. -/
theorem Sound.settle (sound : draft.Sound) (item : α) :
    Sound {
      spec := (draft.spec.settle (add draft.spec item)).1
      additions := draft.additions ++
        (Specification.acceptedEach add draft.spec [item]).map addition } := by
  cases added : add draft.spec item with
  | error misuse => simpa [Specification.settle, Specification.acceptedEach, added] using sound
  | ok changed =>
      simpa [Specification.settle, Specification.acceptedEach, added] using step sound added

end Batches

/-- No call, accepted or refused, makes a specification and its history disagree. -/
theorem Sound.call (sound : draft.Sound) (call : BuilderCall) :
    Sound {
      spec := (call.perform draft.spec).1
      additions := draft.additions ++ call.additions draft.spec } := by
  cases call with
  | rename name =>
      cases renamed : draft.spec.rename name with
      | error misuse =>
          simpa [BuilderCall.perform, BuilderCall.additions, Specification.settle, renamed]
            using sound
      | ok spec =>
          simpa [BuilderCall.perform, BuilderCall.additions, Specification.settle, renamed]
            using sound.rename renamed
  | addInterface hierarchy iface => exact sound.settle Sound.addInterface iface
  | addInterfaces hierarchy ifaces => exact sound.addAll Sound.addInterface ifaces
  | addSlot slot => exact sound.settle Sound.addSlot slot
  | addSlots slots => exact sound.addAll Sound.addSlot slots
  | addDictIf condition =>
      cases added : draft.spec.addDictIf condition with
      | error misuse =>
          have frozen : draft.spec.isFrozen = true := by
            by_contra open_
            simp [Specification.addDictIf, Specification.openOrMisuse, open_, bind, Except.bind,
              pure, Except.pure] at added
          simpa [BuilderCall.perform, BuilderCall.additions, Specification.settle, added, frozen]
            using sound
      | ok spec =>
          obtain ⟨open_, -⟩ := Specification.of_addDictIf added
          simpa [BuilderCall.perform, BuilderCall.additions, Specification.settle, added,
            Specification.isFrozen, open_] using sound.addDictIf added
  | freeze => simpa [BuilderCall.perform, BuilderCall.additions] using sound.freeze

end Draft

namespace Bench

/-- What holds of new drafts, and is ended by no call and by no freezing, holds of all drafts. -/
theorem forall_perform {Kept : Draft -> Prop} {bench : List Draft} {step : BenchStep}
    (started : forall name base, Kept { spec := { name, base } })
    (called : forall {draft place call}, step = .call place call -> Kept draft ->
      Kept {
        spec := (call.perform draft.spec).1
        additions := draft.additions ++ call.additions draft.spec })
    (frozen : forall {draft}, Kept draft -> Kept { draft with spec := draft.spec.freeze })
    (kept : forall draft, draft ∈ bench -> Kept draft) :
    forall draft, draft ∈ perform bench step -> Kept draft := by
  have modified : forall {place : Nat} {change : Draft -> Draft},
      (forall {draft}, Kept draft -> Kept (change draft)) ->
      forall draft, draft ∈ bench.modify place change -> Kept draft := by
    intro place change keeps draft member
    obtain ⟨index, bound, rfl⟩ := List.mem_iff_getElem.mp member
    rw [List.getElem_modify]
    split
    · exact keeps (kept _ (List.getElem_mem _))
    · exact kept _ (List.getElem_mem _)
  intro draft member
  cases step with
  | start name base =>
      rcases List.mem_append.mp member with earlier | new
      · exact kept draft earlier
      · obtain rfl := List.mem_singleton.mp new
        exact started name base
  | clone place =>
      rcases List.mem_append.mp member with earlier | copied
      · exact kept draft earlier
      · exact kept draft (List.mem_of_getElem? (Option.mem_toList.mp copied))
  | call place call => exact modified (called rfl) draft member
  | feed place => exact modified frozen draft member
  | compare left right =>
      cases first : bench[left]? with
      | none => exact kept draft (by simpa [perform, first] using member)
      | some leftDraft =>
          cases second : bench[right]? with
          | none => exact kept draft (by simpa [perform, first, second] using member)
          | some rightDraft =>
              simp only [perform, first, second, Specification.compare] at member
              rcases List.mem_or_eq_of_mem_set member with earlier | rfl
              · rcases List.mem_or_eq_of_mem_set earlier with untouched | rfl
                · exact kept draft untouched
                · exact frozen (kept leftDraft (List.mem_of_getElem? first))
              · exact frozen (kept rightDraft (List.mem_of_getElem? second))

/-- Every draft on the bench agrees with its history. -/
def Sound (bench : List Draft) : Prop := forall draft, draft ∈ bench -> draft.Sound

/-- Every step on a bench keeps the drafts in agreement with their histories. -/
theorem Sound.perform {bench : List Draft} (sound : Sound bench) (step : BenchStep) :
    Sound (perform bench step) :=
  forall_perform Draft.sound_start (fun _ kept => kept.call _) (fun kept => kept.freeze) sound

/-- So does every sequence of steps. -/
theorem sound_after (steps : List BenchStep) : Sound (after steps) :=
  List.foldlRecOn steps perform nofun fun _ sound step _ => sound.perform step

end Bench

/-! ## What the comparison decides -/

/-- Lists without repetitions are put in the same order if they have the same members. -/
theorem mergeSort_eq_mergeSort_iff {α : Type} {le : α -> α -> Bool}
    (transitive : forall first second third,
      le first second = true -> le second third = true -> le first third = true)
    (total : forall first second, (le first second || le second first) = true)
    (antisymmetric : forall first second,
      le first second = true -> le second first = true -> first = second)
    {left right : List α} (leftDistinct : left.Nodup) (rightDistinct : right.Nodup) :
    left.mergeSort le = right.mergeSort le ↔ forall item, item ∈ left ↔ item ∈ right := by
  constructor
  · intro same item
    have members : item ∈ left.mergeSort le ↔ item ∈ right.mergeSort le := by rw [same]
    simpa only [List.mem_mergeSort] using members
  · intro same
    have permuted : List.Perm (left.mergeSort le) (right.mergeSort le) :=
      (List.mergeSort_perm left le).trans
        (((List.perm_ext_iff_of_nodup leftDistinct rightDistinct).mpr same).trans
          (List.mergeSort_perm right le).symm)
    exact permuted.eq_of_pairwise (fun first second _ _ => antisymmetric first second)
      (List.pairwise_mergeSort transitive total left)
      (List.pairwise_mergeSort transitive total right)

namespace Specification

variable {spec other : Specification}

/-- Comparing item by item decides whether the shapes are the same. -/
theorem compare_eq_isEqual (spec other : Specification) :
    (spec.compare other).1 = spec.isEqual other := by
  rw [Bool.eq_iff_iff]
  simp only [compare, isEqual, shape, freeze, hasDict, slots, sortedInterfaces, Bool.and_eq_true,
    beq_iff_eq, Shape.mk.injEq]
  cases spec.layout
  cases other.layout
  simp only [Layout.mk.injEq]
  tauto

/-- Specifications are compared by their shapes. -/
theorem isEqual_iff : spec.isEqual other = true ↔ spec.shape = other.shape := beq_iff_eq

/-- The hasher is fed nothing but the shape. -/
theorem feed_congr (same : spec.shape = other.shape) : spec.feed.1 = other.feed.1 := by
  obtain ⟨base, layout, interfaces⟩ := Shape.mk.inj same
  simp only [feed, freeze, hasDict, slots, sortedInterfaces] at interfaces ⊢
  rw [base, layout, interfaces]

/-- The second specification is the first one frozen, and otherwise as it was. -/
structure FrozenAs (before after : Specification) : Prop where
  frozen : after.isFrozen = true
  name : after.name = before.name
  base : after.base = before.base
  interfaces : after.interfaces = before.interfaces
  slots : forall slot, slot ∈ after.slots ↔ slot ∈ before.slots
  shape : after.shape = before.shape

end Specification

namespace Draft

variable {draft left right : Draft}

/-- The slots of a draft are those of its history. -/
theorem Sound.mem_slots (sound : draft.Sound) {slot : String} :
    slot ∈ draft.spec.slots ↔ .slot slot ∈ draft.additions := by
  rw [← sound.slots]
  cases frozen : draft.spec.frozen with
  | none => simp [Specification.slots, frozen]
  | some layout =>
      have laidOut := sound.layout
      simp only [Specification.layout, frozen] at laidOut
      simp [Specification.slots, frozen, laidOut, Specification.mem_openLayout]

/-- To freeze a draft fixes its layout, and nothing else. -/
theorem Sound.frozenAs (sound : draft.Sound) : draft.spec.FrozenAs draft.spec.freeze where
  frozen := rfl
  name := rfl
  base := rfl
  interfaces := rfl
  slots := fun _ => sound.freeze.mem_slots.trans sound.mem_slots.symm
  shape := rfl

/-- The instances will have a dictionary: one was asked for, or no slot was ever added. -/
def HasDict (draft : Draft) : Prop :=
  .dict ∈ draft.additions ∨ forall slot, .slot slot ∉ draft.additions

/-- A frozen draft has a dictionary as its history says. -/
theorem Sound.hasDict_freeze (sound : draft.Sound) :
    draft.spec.freeze.hasDict = true ↔ draft.HasDict := by
  have unslotted : draft.spec.added = none ↔ forall slot, .slot slot ∉ draft.additions := by
    have nonempty := sound.nonempty
    simp only [← sound.slots]
    cases added : draft.spec.added with
    | none => simp
    | some slots =>
        rw [added] at nonempty
        simpa [List.eq_nil_iff_forall_not_mem] using nonempty
  calc draft.spec.freeze.hasDict = true
      ↔ draft.spec.openLayout.hasDict = true := by rw [← sound.layout]; rfl
    _ ↔ draft.HasDict := by
        rw [Specification.hasDict_openLayout, sound.dict, unslotted, HasDict]

/-- The two drafts ask for one class, whatever it is to be called. -/
structure SameShape (left right : Draft) : Prop where
  base : left.spec.base = right.spec.base
  interfaces : forall iface, iface ∈ left.spec.interfaces ↔ iface ∈ right.spec.interfaces
  slots : forall slot, slot ∈ left.spec.slots ↔ slot ∈ right.spec.slots
  dict : left.HasDict ↔ right.HasDict

/-- Interfaces in order are the same if they are the same without regard to order. -/
theorem Sound.sortedInterfaces_eq_iff (leftSound : left.Sound) (rightSound : right.Sound) :
    left.spec.sortedInterfaces = right.spec.sortedInterfaces ↔
      forall iface, iface ∈ left.spec.interfaces ↔ iface ∈ right.spec.interfaces := by
  refine mergeSort_eq_mergeSort_iff ?_ ?_ ?_ leftSound.apart rightSound.apart
  · intro first second third low high
    simp only [decide_eq_true_eq] at low high ⊢
    omega
  · intro first second
    simp only [Bool.or_eq_true, decide_eq_true_eq]
    omega
  · intro first second low high
    simp only [decide_eq_true_eq] at low high
    cases first
    cases second
    simp_all only [ClassId.mk.injEq]
    omega

/-- Slots in order are the same if they are the same without regard to order. -/
theorem Sound.slots_eq_iff (leftSound : left.Sound) (rightSound : right.Sound) :
    left.spec.layout.slots = right.spec.layout.slots ↔
      forall slot, slot ∈ left.spec.slots ↔ slot ∈ right.spec.slots := by
  have ordered : forall spec : Specification, spec.openLayout.slots =
      (spec.added.getD []).mergeSort (fun left right => decide (left ≤ right)) := by
    intro spec
    cases added : spec.added <;>
      simp [Specification.openLayout, Specification.layout, added, Layout.ofFields]
  simp only [leftSound.mem_slots, rightSound.mem_slots, ← leftSound.slots, ← rightSound.slots]
  rw [leftSound.layout, rightSound.layout, ordered, ordered]
  refine mergeSort_eq_mergeSort_iff ?_ ?_ ?_ leftSound.distinct rightSound.distinct
  · intro first second third low high
    exact decide_eq_true (String.le_trans (of_decide_eq_true low) (of_decide_eq_true high))
  · intro first second
    simpa using String.le_total first second
  · intro first second low high
    exact String.le_antisymm (of_decide_eq_true low) (of_decide_eq_true high)

/-- Two shapes are one exactly when they have the same parts as sets. -/
theorem Sound.shape_eq_iff (leftSound : left.Sound) (rightSound : right.Sound) :
    left.spec.shape = right.spec.shape ↔ left.SameShape right := by
  have dict : left.spec.layout.hasDict = right.spec.layout.hasDict ↔
      (left.HasDict ↔ right.HasDict) := by
    rw [← leftSound.hasDict_freeze, ← rightSound.hasDict_freeze, ← Bool.eq_iff_iff]
    rfl
  have layouts : left.spec.layout = right.spec.layout ↔
      left.spec.layout.hasDict = right.spec.layout.hasDict ∧
        left.spec.layout.slots = right.spec.layout.slots := by
    cases left.spec.layout
    cases right.spec.layout
    simp
  simp only [Specification.shape, Shape.mk.injEq]
  rw [layouts, dict, leftSound.slots_eq_iff rightSound,
    leftSound.sortedInterfaces_eq_iff rightSound]
  constructor
  · rintro ⟨base, ⟨dict, slots⟩, interfaces⟩
    exact ⟨base, interfaces, slots, dict⟩
  · rintro ⟨base, interfaces, slots, dict⟩
    exact ⟨base, ⟨dict, slots⟩, interfaces⟩

/-- Neither the name nor the order of the additions is part of the shape. -/
theorem Sound.sameShape (leftSound : left.Sound) (rightSound : right.Sound)
    (base : left.spec.base = right.spec.base)
    (additions : forall addition, addition ∈ left.additions ↔ addition ∈ right.additions) :
    left.SameShape right where
  base := base
  interfaces := fun iface => by rw [leftSound.interfaces, rightSound.interfaces, additions]
  slots := fun slot => by rw [leftSound.mem_slots, rightSound.mem_slots, additions]
  dict := by simp only [HasDict, additions]

end Draft

namespace Bench

/-- What the comparison of drafts on a bench amounts to. -/
structure ComparesShapes (bench : List Draft) : Prop where
  decides : forall left, left ∈ bench -> forall right, right ∈ bench ->
    ((left.spec.compare right.spec).1 = true ↔ left.SameShape right)
  /-- The sets and the flag are those of the history. -/
  history : forall draft, draft ∈ bench ->
    (forall iface, iface ∈ draft.spec.interfaces ↔ .interface iface ∈ draft.additions) ∧
    (forall slot, slot ∈ draft.spec.slots ↔ .slot slot ∈ draft.additions) ∧
    (draft.spec.freeze.hasDict = true ↔ draft.HasDict)
  unordered : forall left, left ∈ bench -> forall right, right ∈ bench ->
    left.spec.base = right.spec.base ->
    (forall addition, addition ∈ left.additions ↔ addition ∈ right.additions) ->
      (left.spec.compare right.spec).1 = true
  equivalence : Equivalence fun left right : { draft // draft ∈ bench } =>
    (left.1.spec.compare right.1.spec).1 = true
  fed : forall left, left ∈ bench -> forall right, right ∈ bench ->
    (left.spec.compare right.spec).1 = true -> left.spec.feed.1 = right.spec.feed.1
  freezes : forall left, left ∈ bench -> forall right, right ∈ bench ->
    left.spec.FrozenAs (left.spec.compare right.spec).2.1 ∧
      right.spec.FrozenAs (left.spec.compare right.spec).2.2

/-- Whatever was done with the specifications, comparing two of them compares their shapes. -/
theorem comparison_is_of_shapes (steps : List BenchStep) : ComparesShapes (after steps) := by
  have sound := sound_after steps
  have same : forall left right : Specification,
      (left.compare right).1 = true ↔ left.shape = right.shape := fun left right => by
    rw [Specification.compare_eq_isEqual, Specification.isEqual_iff]
  constructor
  case decides =>
    intro left leftMember right rightMember
    rw [same, (sound left leftMember).shape_eq_iff (sound right rightMember)]
  case history =>
    intro draft member
    exact ⟨(sound draft member).interfaces, fun slot => (sound draft member).mem_slots,
      (sound draft member).hasDict_freeze⟩
  case unordered =>
    intro left leftMember right rightMember base additions
    rw [same, (sound left leftMember).shape_eq_iff (sound right rightMember)]
    exact (sound left leftMember).sameShape (sound right rightMember) base additions
  case equivalence =>
    simp only [same]
    exact ⟨fun _ => rfl, Eq.symm, Eq.trans⟩
  case fed =>
    intro left _ right _ equal
    exact Specification.feed_congr ((same _ _).mp equal)
  case freezes =>
    intro left leftMember right rightMember
    exact ⟨(sound left leftMember).frozenAs, (sound right rightMember).frozenAs⟩

/-- Two drafts with the same slots in different orders, the second a clone of the first from
before it was complete. The calls that add a slot again or to a frozen draft are refused. -/
def shuffling : List BenchStep :=
  [.start "Left" Builtin.object, .call 0 (.addSlot "x"), .clone 0,
    .call 0 (.addSlots ["y", "z"]), .call 0 (.addSlot "y"),
    .call 1 (.rename "Right"), .call 1 (.addSlots ["z", "x", "w"]), .call 1 (.addSlot "y"),
    .call 1 .freeze, .call 1 (.addSlot "w")]

/-- Slots that were added in different orders make no difference. -/
theorem comparison_is_of_shapes_shuffling :
    exists left right, after shuffling = [left, right] ∧
      left.spec.name = "Left" ∧ left.spec.added = some ["x", "y", "z"] ∧
      right.spec.name = "Right" ∧ right.spec.added = some ["x", "z", "y"] ∧
      left.spec.isFrozen = false ∧ right.spec.isFrozen = true ∧
      (left.spec.compare right.spec).1 = true := by
  let shown : String -> List String -> Option Layout -> Draft := fun name slots frozen => {
    spec := { name, base := Builtin.object, added := some slots, frozen }
    additions := slots.map .slot }
  have bench : after shuffling = [shown "Left" ["x", "y", "z"] none,
      shown "Right" ["x", "z", "y"] (some (.ofFields false ["x", "z", "y"]))] := by
    rfl
  refine ⟨_, _, bench, rfl, rfl, rfl, rfl, rfl, rfl, ?_⟩
  refine (comparison_is_of_shapes shuffling).unordered _ ?_ _ ?_ rfl ?_
  · simp [bench]
  · simp [bench]
  · intro addition
    simp only [shown, List.map_cons, List.map_nil, List.mem_cons, List.not_mem_nil]
    tauto

end Bench

end GuestTypes
