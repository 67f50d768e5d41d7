import GuestTypes.Proofs.Delivery
import GuestTypes.Proofs.Layouts

/-!
# Synthesized classes realise their specifications

A specification that its builder made and froze has its slots in increasing order, none of them
twice. The body that realises it is refused by the loader in three cases only: its base is an
interface, one of its slots has a reserved name, or the name of the body was taken before.
Otherwise the class has the layout of the specification, and the offsets of that layout, which
come from a search by halving, are the places of the fields in the body.
-/

namespace GuestTypes

/-! ## Looking names up -/

/-- Where a name stands in a list, if it does. -/
def placeOf (name : String) (names : List String) : Option Nat := names.findIdx? (· == name)

/-- A name stands nowhere in a list that it is not in. -/
theorem placeOf_eq_none {name : String} {names : List String}
    (absent : forall other, other ∈ names -> name ≠ other) : placeOf name names = none := by
  apply List.findIdx?_eq_none_iff.mpr
  intro other member
  exact beq_eq_false_iff_ne.mpr (absent other member).symm

/-- A name that stands nowhere is not in the list. -/
theorem not_mem_of_placeOf {name : String} {names : List String}
    (none_ : placeOf name names = none) :
    name ∉ names := fun member => by
  simpa using List.findIdx?_eq_none_iff.mp none_ name member

/-- Each name stands in one place. -/
theorem placeOf_eq_some_iff {name : String} {names : List String} (distinct : names.Nodup)
    {index : Nat} : placeOf name names = some index ↔ names[index]? = some name := by
  unfold placeOf
  rw [List.findIdx?_eq_some_iff_getElem, List.getElem?_eq_some_iff]
  constructor
  · rintro ⟨within, found, -⟩
    exact ⟨within, eq_of_beq found⟩
  · rintro ⟨within, rfl⟩
    refine ⟨within, beq_self_eq_true _, fun earlier before => ?_⟩
    rw [beq_iff_eq, distinct.getElem_inj_iff]
    exact Nat.ne_of_lt before

/-- A name stands in front, or one further than in the rest. -/
theorem placeOf_cons (name first : String) (rest : List String) :
    placeOf name (first :: rest) =
      if first = name then some 0 else (placeOf name rest).map (· + 1) := by
  unfold placeOf
  simp only [List.findIdx?_cons, beq_iff_eq]

/-- In a list in increasing order, a name is to be found on one side of another. -/
theorem placeOf_split {name candidate : String} {below above : List String}
    (increasing : (below ++ candidate :: above).Pairwise (· < ·)) :
    placeOf name (below ++ candidate :: above) =
      if name = candidate then some below.length
      else if name < candidate then placeOf name below
      else (placeOf name above).map (below.length + 1 + ·) := by
  obtain ⟨-, higher, across⟩ := List.pairwise_append.mp increasing
  obtain ⟨beyond, -⟩ := List.pairwise_cons.mp higher
  have appended : placeOf name (below ++ candidate :: above) =
      (placeOf name below).or ((placeOf name (candidate :: above)).map (· + below.length)) :=
    List.findIdx?_append
  rw [appended, placeOf_cons]
  by_cases found : name = candidate
  · subst found
    have absent : placeOf name below = none := by
      apply placeOf_eq_none
      rintro other member rfl
      exact String.lt_irrefl _ (across name member name List.mem_cons_self)
    simp [absent]
  · rw [if_neg found, if_neg (Ne.symm found)]
    by_cases before : name < candidate
    · have absent : placeOf name above = none := by
        apply placeOf_eq_none
        rintro other member rfl
        exact String.lt_irrefl _ (String.lt_trans before (beyond name member))
      simp [before, absent]
    · have absent : placeOf name below = none := by
        apply placeOf_eq_none
        rintro other member rfl
        exact before (across name member candidate List.mem_cons_self)
      rw [if_neg before, absent, Option.none_or, Option.map_map]
      congr 1
      funext index
      simp only [Function.comp_apply]
      omega

/-- Halving finds the place of a name in a list in increasing order. -/
theorem bisect_eq (name : String) (fuel skipped : Nat) (names : List String)
    (enough : names.length < fuel) (increasing : names.Pairwise (· < ·)) :
    bisect name fuel skipped names = (placeOf name names).map (skipped + ·) := by
  induction fuel generalizing skipped names with
  | zero => omega
  | succ fuel inductionHypothesis =>
      unfold bisect
      dsimp only
      generalize half : names.length / 2 = middle
      have halves := List.take_append_drop middle names
      have length : (names.take middle).length = middle := by
        rw [List.length_take]
        omega
      cases upper : names.drop middle with
      | nil =>
          have short := congrArg List.length upper
          simp only [List.length_drop, List.length_nil] at short
          rw [List.eq_nil_of_length_eq_zero (by omega : names.length = 0)]
          rfl
      | cons candidate above =>
          rw [upper] at halves
          have size := congrArg List.length halves
          simp only [List.length_append, List.length_cons, length] at size
          rw [← halves] at increasing
          have place : placeOf name _ = _ := placeOf_split increasing
          rw [halves, length] at place
          obtain ⟨lower, higher, -⟩ := List.pairwise_append.mp increasing
          rw [place]
          by_cases found : name = candidate
          · simp [found]
          by_cases before : name < candidate
          · simp only [found, before, if_true, if_false]
            exact inductionHypothesis skipped _ (by omega) lower
          · simp only [found, before, if_false]
            rw [inductionHypothesis _ above (by omega) (List.pairwise_cons.mp higher).2,
              Option.map_map]
            congr 1
            funext index
            simp only [Function.comp_apply]
            omega

namespace Layout

variable {layout : Layout}

/-- In slots that are in order the search by halves finds where a name stands. -/
theorem slotIndex_eq (increasing : layout.slots.Pairwise (· < ·)) (name : String) :
    layout.slotIndex name = placeOf name layout.slots := by
  unfold slotIndex
  rw [bisect_eq name _ 0 _ (Nat.lt_succ_self _) increasing]
  cases placeOf name layout.slots <;> simp

end Layout

/-! ## Specifications that were built -/

namespace Specification

/-- The specification was made by its builder, from a class and interfaces that exist. -/
inductive Built (hierarchy : Hierarchy) : Specification -> Prop where
  | start {name : String} {base : ClassId} (declared : hierarchy.Declared base) :
      Built hierarchy { name, base }
  | rename {spec after : Specification} {name : String} (built : Built hierarchy spec)
      (renamed : spec.rename name = .ok after) : Built hierarchy after
  /-- The interface may have been added before later classes were declared. -/
  | addInterface {spec after : Specification} {earlier : Hierarchy} {iface : ClassId}
      (built : Built hierarchy spec) (extends_ : earlier.Extends hierarchy)
      (added : spec.addInterface earlier iface = .ok after) : Built hierarchy after
  | addSlot {spec after : Specification} {slot : String} (built : Built hierarchy spec)
      (added : spec.addSlot slot = .ok after) : Built hierarchy after
  | addDictIf {spec after : Specification} {condition : Bool} (built : Built hierarchy spec)
      (added : spec.addDictIf condition = .ok after) : Built hierarchy after
  | freeze {spec : Specification} (built : Built hierarchy spec) : Built hierarchy spec.freeze

variable {hierarchy : Hierarchy} {spec : Specification}

section Batches

variable {α : Type} {add : Specification -> α -> Except Misuse Specification}

/-- A batch of an open builder adds one item after the other. -/
theorem addAll_open {items : List α} (open_ : spec.isFrozen = false) :
    addAll add spec items = addEach add spec items := by
  simp [addAll, openOrMisuse, open_]

/-- A batch of a frozen builder is refused as a whole. -/
theorem addAll_of_isFrozen {items : List α} (frozen : spec.isFrozen = true) :
    addAll add spec items = (spec, some (.frozen spec.name)) := by
  simp [addAll, openOrMisuse, frozen]

/-- A property that no added item ends holds after all of them. -/
theorem addAll_keeps {Kept : Specification -> Prop}
    (step : forall {spec changed item}, Kept spec -> add spec item = .ok changed -> Kept changed)
    (items : List α) (kept : Kept spec) : Kept (addAll add spec items).1 := by
  cases frozen : spec.isFrozen with
  | true =>
      rw [addAll_of_isFrozen frozen]
      exact kept
  | false =>
      rw [addAll_open frozen]
      clear frozen
      induction items generalizing spec with
      | nil => exact kept
      | cons item rest inductionHypothesis =>
          unfold addEach
          cases added : add spec item with
          | error _ => exact kept
          | ok changed => exact inductionHypothesis (step kept added)

end Batches

/-- What the builder sees to. -/
structure Sound (hierarchy : Hierarchy) (spec : Specification) : Prop where
  base : hierarchy.Declared spec.base
  interfaces : forall iface, iface ∈ spec.interfaces -> hierarchy.isInterface iface = true
  distinct : spec.interfaces.Nodup
  added : (spec.added.getD []).Nodup
  frozen : forall layout, spec.frozen = some layout -> layout.slots.Pairwise (· < ·)

/-- Different slots are strictly in order when they are sorted. -/
theorem increasing_mergeSort {slots : List String} (distinct : slots.Nodup) :
    (slots.mergeSort (fun left right => decide (left ≤ right))).Pairwise (· < ·) := by
  have ordered := Layout.pairwise_sorted slots
  have apart := (List.mergeSort_perm slots fun left right => decide (left ≤ right)).nodup_iff.mpr
    distinct
  apply (ordered.and apart).imp
  intro left right ⟨low, different⟩
  apply String.not_le.mp
  intro high
  exact different (String.le_antisymm low high)

/-- To freeze a specification puts its slots in order, and keeps it sound. -/
theorem Sound.freeze (sound : Sound hierarchy spec) : Sound hierarchy spec.freeze where
  base := sound.base
  interfaces := sound.interfaces
  distinct := sound.distinct
  added := sound.added
  frozen := by
    rintro _ ⟨⟩
    unfold layout
    cases frozen : spec.frozen with
    | some layout => exact sound.frozen layout frozen
    | none =>
        have distinct := sound.added
        cases added : spec.added with
        | none => exact List.Pairwise.nil
        | some slots =>
            rw [added] at distinct
            exact increasing_mergeSort distinct

/-- An interface goes on to be one. -/
theorem isInterface_mono {earlier : Hierarchy} {iface : ClassId}
    (extends_ : earlier.Extends hierarchy)
    (interface : earlier.isInterface iface = true) : hierarchy.isInterface iface = true := by
  unfold Hierarchy.isInterface at interface ⊢
  by_cases declared : earlier.Declared iface
  · rw [extends_.row iface declared]
    exact interface
  · rw [Hierarchy.row_eq_root declared] at interface
    cases interface

/-- A sound specification stays so while classes are declared. -/
theorem Sound.mono {earlier : Hierarchy} (sound : Sound earlier spec)
    (extends_ : earlier.Extends hierarchy) : Sound hierarchy spec where
  base := extends_.declared sound.base
  interfaces := fun iface member => isInterface_mono extends_ (sound.interfaces iface member)
  distinct := sound.distinct
  added := sound.added
  frozen := sound.frozen

/-! What each addition does when it is not refused. -/

/-- Only the name is changed. -/
theorem of_rename {after : Specification} {name : String} (renamed : spec.rename name = .ok after) :
    after = { spec with name } := by
  unfold Specification.rename at renamed
  dsimp only [bind, Except.bind, Pure.pure, Except.pure] at renamed
  split at renamed
  all_goals cases renamed
  rfl

/-- An interface that is added was not there before. -/
theorem of_addInterface {after : Specification} {iface : ClassId}
    (added : spec.addInterface hierarchy iface = .ok after) :
    hierarchy.isInterface iface = true ∧ iface ∉ spec.interfaces ∧
      after = { spec with interfaces := spec.interfaces ++ [iface] } := by
  unfold Specification.addInterface at added
  dsimp only [bind, Except.bind, throw, throwThe, MonadExceptOf.throw, Pure.pure, Except.pure]
    at added
  repeat' split at added
  all_goals cases added
  rename_i interface absent
  exact ⟨by simpa using interface, by simpa using absent, rfl⟩

/-- A slot that is added was not there before, and the layout was not frozen. -/
theorem of_addSlot {after : Specification} {slot : String} (added : spec.addSlot slot = .ok after) :
    spec.frozen = none ∧ slot ∉ spec.added.getD [] ∧
      after = { spec with added := some (spec.added.getD [] ++ [slot]) } := by
  unfold Specification.addSlot openOrMisuse isFrozen at added
  dsimp only [bind, Except.bind, throw, throwThe, MonadExceptOf.throw, Pure.pure, Except.pure]
    at added
  cases open_ : spec.frozen with
  | some layout => simp [open_] at added
  | none =>
      simp only [open_] at added
      repeat' split at added
      all_goals cases added
      rename_i absent
      exact ⟨rfl, by simpa using absent, rfl⟩

/-- A dictionary is added to a layout that was not frozen. -/
theorem of_addDictIf {after : Specification} {condition : Bool}
    (added : spec.addDictIf condition = .ok after) :
    spec.frozen = none ∧ after = { spec with dict := spec.dict || condition } := by
  unfold Specification.addDictIf openOrMisuse isFrozen at added
  dsimp only [bind, Except.bind, Pure.pure, Except.pure] at added
  cases open_ : spec.frozen with
  | some layout => simp [open_] at added
  | none =>
      simp only [open_] at added
      cases added
      exact ⟨rfl, rfl⟩

/-- Items stay different when a new one is appended. -/
theorem nodup_snoc {α : Type} {items : List α} {item : α} (distinct : items.Nodup)
    (absent : item ∉ items) : (items ++ [item]).Nodup :=
  (List.perm_append_singleton item items).nodup_iff.mpr (List.nodup_cons.mpr ⟨absent, distinct⟩)

/-- Whatever a builder makes is sound. -/
theorem Built.sound (built : Built hierarchy spec) : Sound hierarchy spec := by
  induction built with
  | start declared => exact ⟨declared, nofun, List.nodup_nil, List.nodup_nil, nofun⟩
  | rename _ renamed sound =>
      obtain rfl := of_rename renamed
      exact ⟨sound.base, sound.interfaces, sound.distinct, sound.added, sound.frozen⟩
  | addInterface _ extends_ added sound =>
      obtain ⟨interface, absent, rfl⟩ := of_addInterface added
      refine ⟨sound.base, ?_, nodup_snoc sound.distinct absent, sound.added, sound.frozen⟩
      intro other member
      rcases List.mem_append.mp member with earlier | last
      · exact sound.interfaces other earlier
      · rw [List.mem_singleton.mp last]
        exact isInterface_mono extends_ interface
  | addSlot _ added sound =>
      obtain ⟨-, absent, rfl⟩ := of_addSlot added
      exact ⟨sound.base, sound.interfaces, sound.distinct, nodup_snoc sound.added absent,
        sound.frozen⟩
  | addDictIf _ added sound =>
      obtain ⟨-, rfl⟩ := of_addDictIf added
      exact ⟨sound.base, sound.interfaces, sound.distinct, sound.added, sound.frozen⟩
  | freeze _ sound => exact sound.freeze

end Specification

/-! ## The bodies that realise them -/

namespace ClassBody

variable {hierarchy : Hierarchy} {name : String} {spec : Specification}

/-- The place of a field among the fields of a body. -/
def offsetOf (body : ClassBody) (field : String) : Option Nat :=
  placeOf field (body.fields.map (·.name))

/-- The fields for the dictionary and for the type are named differently. -/
theorem dictField_ne_typeField : dictField ≠ typeField := by decide

/-- The fields of a body: the type, the dictionary if there is one, and the slots. -/
theorem names_realise (name : String) (spec : Specification) :
    (realise name spec).fields.map (·.name) =
      typeField :: ((if spec.hasDict then [dictField] else []) ++ spec.slots) := by
  unfold realise
  cases spec.hasDict <;> simp [Function.comp_def]

/-- An interface that may be listed already is not listed twice. -/
theorem nodup_withInterface {iface : ClassId} {declared : List ClassId}
    (distinct : declared.Nodup) : (withInterface iface declared).Nodup := by
  unfold withInterface
  split
  · exact distinct
  · rename_i absent
    exact Specification.nodup_snoc distinct (by simpa using absent)

/-- A body lists each interface once. -/
theorem nodup_interfaces_realise (distinct : spec.interfaces.Nodup) :
    (realise name spec).interfaces.Nodup := by
  unfold realise
  split
  · exact nodup_withInterface (nodup_withInterface distinct)
  · exact nodup_withInterface distinct

/-- Every method of a body finds the field that it works on. -/
theorem methodDefect?_realise {method : Method} (member : method ∈ (realise name spec).methods) :
    (realise name spec).methodDefect? method = none := by
  unfold realise at member ⊢
  generalize spec.hasDict = dict at member ⊢
  cases dict with
  | true =>
      simp only [guardedMethods, if_true, List.cons_append, List.nil_append, List.mem_cons,
        List.not_mem_nil, or_false] at member
      rcases member with rfl | rfl | rfl | rfl | rfl | rfl | rfl <;> rfl
  | false =>
      simp only [guardedMethods, List.append_nil, List.cons_append, List.nil_append, List.mem_cons,
        List.not_mem_nil, or_false, Bool.false_eq_true, if_false] at member
      rcases member with rfl | rfl | rfl | rfl <;> rfl

/-- The body has the field for the type. -/
theorem field?_typeField (name : String) (spec : Specification) :
    (realise name spec).field? typeField =
      some { name := typeField, kind := .type, hidden := true } := rfl

/-- It has the one for the dictionary if it was asked for. -/
theorem field?_dictField (dict : spec.hasDict = true) :
    (realise name spec).field? dictField =
      some { name := dictField, kind := .dict, hidden := true } := by
  unfold realise
  rw [dict]
  rfl

/-- The loader has nothing against the body of a sound specification except an interface as the
base and a slot of a reserved name. -/
theorem loadable_realise (sound : spec.Sound hierarchy)
    (builtins : Builtin.hierarchy.Extends hierarchy) (increasing : spec.slots.Pairwise (· < ·)) :
    (realise name spec).Loadable hierarchy ↔
      hierarchy.isInterface spec.base = false ∧ typeField ∉ spec.slots ∧
          dictField ∉ spec.slots := by
  have distinct : spec.slots.Nodup := by
    apply increasing.imp
    rintro slot _ before rfl
    exact String.lt_irrefl slot before
  constructor
  · intro loadable
    have names := loadable.fields
    rw [names_realise, List.nodup_cons] at names
    refine ⟨loadable.base, fun slot => names.1 (List.mem_append_right _ slot), fun slot => ?_⟩
    cases dict : spec.hasDict with
    | true =>
        rw [dict] at names
        exact (List.nodup_cons.mp names.2).1 slot
    | false =>
        -- Without a dictionary the first field of the name is the slot.
        have absent := field?_realise name spec loadable.dict
        rw [dict] at absent
        have listed : { name := dictField, kind := .slot } ∈ (realise name spec).fields :=
          List.mem_append_right _ (List.mem_map.mpr ⟨dictField, slot, rfl⟩)
        have none_ := Option.isSome_eq_false_iff.mp absent
        have := List.find?_eq_none.mp (Option.isNone_iff_eq_none.mp none_) _ listed
        simp at this
  · rintro ⟨base, type, dict⟩
    refine ⟨base, ?_, ?_, fun method => methodDefect?_realise, ?_, ?_⟩
    · intro iface member
      rcases mem_interfaces_realise.mp member with own | rfl | ⟨-, rfl⟩
      · exact sound.interfaces iface own
      · exact Specification.isInterface_mono builtins rfl
      · exact Specification.isInterface_mono builtins rfl
    · rw [names_realise]
      cases spec.hasDict with
      | true =>
          refine List.nodup_cons.mpr ⟨?_, List.nodup_cons.mpr ⟨dict, distinct⟩⟩
          intro member
          rcases List.mem_cons.mp member with reserved | slot
          · exact dictField_ne_typeField reserved.symm
          · exact type slot
      | false => exact List.nodup_cons.mpr ⟨type, distinct⟩
    · rw [field?_typeField]
      rfl
    · intro field found
      cases has : spec.hasDict with
      | true =>
          rw [field?_dictField has] at found
          cases found
          rfl
      | false =>
          have member := List.mem_map_of_mem (f := (·.name)) (List.mem_of_find?_eq_some found)
          have same : field.name = dictField := by simpa using List.find?_some found
          rw [names_realise, has, same] at member
          rcases List.mem_cons.mp member with reserved | slot
          · exact absurd reserved dictField_ne_typeField
          · exact absurd slot dict

/-- A body that can be loaded can be loaded later as well. -/
theorem Loadable.mono {body : ClassBody} {later : Hierarchy} (loadable : body.Loadable hierarchy)
    (declared : hierarchy.Declared body.base) (extends_ : hierarchy.Extends later) :
    body.Loadable later where
  base := by
    unfold Hierarchy.isInterface
    rw [extends_.row _ declared]
    exact loadable.base
  interfaces := fun iface member =>
    Specification.isInterface_mono extends_ (loadable.interfaces iface member)
  fields := loadable.fields
  methods := loadable.methods
  type := loadable.type
  dict := loadable.dict

/-- The layout of a body that is loaded is that of its specification. -/
theorem layout_realise {layout : Layout} (increasing : spec.slots.Pairwise (· < ·)) :
    (realise name spec).verify hierarchy = .ok layout ↔
      (realise name spec).Loadable hierarchy ∧
        layout = { hasDict := spec.hasDict, slots := spec.slots } := by
  rw [verify_eq_ok_iff]
  refine and_congr_right fun loadable => ?_
  rw [field?_realise name spec loadable.dict, slotNames_realise]
  unfold Layout.ofFields
  rw [List.mergeSort_of_pairwise (increasing.imp fun before => ?_)]
  apply decide_eq_true
  intro after
  exact String.lt_irrefl _ (String.lt_trans before after)

/-- The offsets of a layout are the places of the fields of a body, and there are no others. -/
structure LaidOut (body : ClassBody) (layout : Layout) : Prop where
  type : body.offsetOf typeField = some Layout.typeOffset
  dict : body.offsetOf dictField = layout.dictOffset
  slot : forall name, name ≠ typeField -> name ≠ dictField ->
    body.offsetOf name = layout.slotOffset name
  count : body.fields.length = layout.fieldCount

/-- The slots stand in the layout where they stand among the fields. -/
theorem laidOut_realise (increasing : spec.slots.Pairwise (· < ·)) (dict : dictField ∉ spec.slots) :
    (realise name spec).LaidOut { hasDict := spec.hasDict, slots := spec.slots } where
  type := by
    unfold offsetOf
    rw [names_realise, placeOf_cons, if_pos rfl]
    rfl
  dict := by
    unfold offsetOf Layout.dictOffset
    rw [names_realise, placeOf_cons, if_neg dictField_ne_typeField.symm]
    cases spec.hasDict with
    | true =>
        simp only [if_true, List.singleton_append]
        rw [placeOf_cons, if_pos rfl]
        rfl
    | false =>
        have absent : placeOf dictField spec.slots = none :=
          placeOf_eq_none fun slot member same => dict (same ▸ member)
        simpa using absent
  slot := by
    intro slot type dict
    unfold offsetOf Layout.slotOffset Layout.firstSlotOffset Layout.typeOffset
    rw [names_realise, placeOf_cons, if_neg type.symm, Layout.slotIndex_eq increasing]
    cases spec.hasDict with
    | true =>
        simp only [if_true, List.singleton_append]
        rw [placeOf_cons, if_neg dict.symm, Option.map_map]
        congr 1
        funext index
        simp only [Function.comp_apply]
        omega
    | false =>
        simp only [Bool.false_eq_true, if_false, List.nil_append]
        congr 1
        funext index
        omega
  count := by
    rw [← List.length_map (·.name), names_realise]
    unfold Layout.fieldCount Layout.firstSlotOffset Layout.typeOffset
    cases spec.hasDict <;> simp <;> omega

end ClassBody

/-! ## The classes that realise them -/

/-- The class is loaded from the body that realises a specification under a name. -/
structure Hierarchy.Embodies (hierarchy : Hierarchy) (cls : ClassId) (name : String)
    (spec : Specification) : Prop where
  name : hierarchy.name cls = name
  superclass : hierarchy.superclass cls = some spec.base
  layout : (hierarchy.row cls).layout = some { hasDict := spec.hasDict, slots := spec.slots }
  interfaces : forall iface, iface ∈ spec.interfaces -> hierarchy.implements cls iface = true
  type : hierarchy.implements cls Builtin.withClassAssignment = true
  dict : spec.hasDict = true -> hierarchy.implements cls Builtin.withDictAssignment = true
  distinct : (hierarchy.row cls).interfaces.Nodup

namespace Hierarchy

variable {hierarchy : Hierarchy} {name : String} {spec : Specification}

/-- An interface has been declared. -/
theorem declared_of_isInterface {iface : ClassId} (interface : hierarchy.isInterface iface = true) :
    hierarchy.Declared iface := by
  by_cases declared : hierarchy.Declared iface
  · exact declared
  · rw [isInterface, row_eq_root declared] at interface
    cases interface

/-- A class implements what it declares. -/
theorem implements_of_mem {cls iface : ClassId} (member : iface ∈ (hierarchy.row cls).interfaces) :
    hierarchy.implements cls iface = true := by
  unfold implements implementsWithin
  rw [lineage_eq]
  simp only [List.any_cons, Bool.or_eq_true, List.any_eq_true]
  exact .inl ⟨iface, member, .inl (beq_self_eq_true iface)⟩

/-- The class that is loaded from a body is what the body says. -/
theorem embodies_declare (sound : spec.Sound hierarchy)
    (loadable : (ClassBody.realise name spec).Loadable hierarchy) :
    (hierarchy.declare (LoaderId.hostClass (ClassBody.realise name spec)
      { hasDict := spec.hasDict, slots := spec.slots })).2.Embodies ⟨hierarchy.rows.size⟩ name
        spec := by
  have base : hierarchy.Declared (ClassBody.realise name spec).base := sound.base
  have row : (hierarchy.declare (LoaderId.hostClass (ClassBody.realise name spec)
      { hasDict := spec.hasDict, slots := spec.slots })).2.row ⟨hierarchy.rows.size⟩ = _ :=
    row_hostClass base fun iface member =>
      declared_of_isInterface (loadable.interfaces iface member)
  have declares : forall iface, iface ∈ (ClassBody.realise name spec).interfaces ->
      (hierarchy.declare (LoaderId.hostClass (ClassBody.realise name spec)
        { hasDict := spec.hasDict, slots := spec.slots })).2.implements ⟨hierarchy.rows.size⟩
          iface = true := by
    intro iface member
    apply implements_of_mem
    rw [row]
    exact member
  exact {
    name := congrArg HostClass.name row
    superclass := congrArg HostClass.superclass row
    layout := congrArg HostClass.layout row
    interfaces := fun iface member =>
      declares iface (ClassBody.mem_interfaces_realise.mpr (.inl member))
    type := declares _ (ClassBody.mem_interfaces_realise.mpr (.inr (.inl rfl)))
    dict := fun has => declares _ (ClassBody.mem_interfaces_realise.mpr (.inr (.inr ⟨has, rfl⟩)))
    distinct := by
      rw [row]
      show (ClassBody.realise name spec).interfaces.Nodup
      exact ClassBody.nodup_interfaces_realise sound.distinct }

end Hierarchy

/-- The name of the class that is synthesized next over a base. -/
def Synthesizer.nextName (synthesizer : Synthesizer) (base : String) : String :=
  synthesizer.config.className
    (synthesizer.config.simpleClassName base (synthesizer.lastIssued base + 1).toNat)

/-- Classes may be declared, but a synthesizer and its loader stay as they are. -/
structure Store.Reserves (id : SynthesizerId) (before after : Store) : Prop where
  hierarchy : before.hierarchy.Extends after.hierarchy
  synthesizer : after.synthesizer id = before.synthesizer id
  loader : after.loader (before.synthesizer id).loader =
    before.loader (before.synthesizer id).loader

/-- Since a moment, a synthesizer has at most issued numbers, and its loader has defined nothing. -/
structure Store.Retains (id : SynthesizerId) (start now : Store) : Prop where
  hierarchy : start.hierarchy.Extends now.hierarchy
  config : (now.synthesizer id).config = (start.synthesizer id).config
  silent : (now.synthesizer id).dumpDirectory = (start.synthesizer id).dumpDirectory
  loader : (now.synthesizer id).loader = (start.synthesizer id).loader
  defined : now.loader (start.synthesizer id).loader = start.loader (start.synthesizer id).loader

theorem Store.Retains.refl (id : SynthesizerId) (store : Store) : store.Retains id store :=
  ⟨.refl _, rfl, rfl, rfl, rfl⟩

/-- What others reserve is retained. -/
theorem Store.Retains.around {id : SynthesizerId} {start now later : Store}
    (retains : start.Retains id now) (reserves : now.Reserves id later) :
    start.Retains id later where
  hierarchy := retains.hierarchy.trans reserves.hierarchy
  config := by rw [reserves.synthesizer, retains.config]
  silent := by rw [reserves.synthesizer, retains.silent]
  loader := by rw [reserves.synthesizer, retains.loader]
  defined := by
    have same := reserves.loader
    rw [retains.loader] at same
    rw [same, retains.defined]

/-- Whether a name was free is known when it is claimed. -/
theorem Program.Delivers.claimName {σ : Type} {thread : ThreadId}
    {around : Store -> Store -> Prop} {now : Store} {loader : LoaderId} {name : String}
    {post : Except Fault Bool -> Store -> Prop}
    (claims : forall later, around now later -> forall loaders,
      post (.ok (!(later.loader loader).defined.contains name)) { later with loaders }) :
    (Request.perform (.loader loader (.claim name)) : Request σ Bool).run.Delivers thread around
      now post := by
  apply perform
  intro later spared
  have free : ((Loader.Step.claim name).perform (later.loader loader)).1 =
      !(later.loader loader).defined.contains name := by
    dsimp only [Loader.Step.perform]
    split
    · rename_i taken
      rw [taken]
      rfl
    · rename_i free
      rw [Bool.eq_false_iff.mpr free]
      rfl
  have ends := claims later spared
  rw [← free] at ends
  exact ⟨_, _, rfl, ends _⟩

namespace SynthesizerId

variable {σ : Type} {thread : ThreadId} {store now : Store} {id : SynthesizerId}
  {spec : Specification} {name : String}

/-- What the synthesis of a class under a name leads to. -/
def Realises (store : Store) (id : SynthesizerId) (spec : Specification) (name : String)
    (outcome : Except Fault ClassId) (after : Store) : Prop :=
  (outcome.isOk = true ↔ store.hierarchy.isInterface spec.base = false ∧
    ClassBody.typeField ∉ spec.slots ∧ ClassBody.dictField ∉ spec.slots ∧
      name ∉ (store.loader (store.synthesizer id).loader).defined) ∧
  forall cls, outcome = .ok cls -> after.hierarchy.Embodies cls name spec ∧
    (ClassBody.realise name spec).LaidOut { hasDict := spec.hasDict, slots := spec.slots }

/-- Synthesis is refused when one of its conditions fails. -/
theorem Realises.refused {fault : Fault}
    (because : ¬ (store.hierarchy.isInterface spec.base = false ∧
      ClassBody.typeField ∉ spec.slots ∧ ClassBody.dictField ∉ spec.slots ∧
        name ∉ (store.loader (store.synthesizer id).loader).defined)) :
    Realises store id spec name (.error fault) now :=
  ⟨⟨nofun, fun all => absurd all because⟩, nofun⟩

/-- The loader defines the body of a sound specification, if nothing is wrong with the body and
its name is free. -/
theorem define_realises (sound : spec.Sound store.hierarchy)
    (increasing : spec.slots.Pairwise (· < ·))
    (builtins : Builtin.hierarchy.Extends store.hierarchy) (retains : store.Retains id now) :
    ((store.synthesizer id).loader.define (ClassBody.realise name spec) :
        Request σ ClassId).run.Delivers thread (Store.Reserves id) now
      (Realises store id spec name) := by
  apply Program.Delivers.andThen
  apply Program.Delivers.observe
  intro seen spared
  have retains := retains.around spared
  have known := sound.mono retains.hierarchy
  have loads : (ClassBody.realise name spec).Loadable seen.hierarchy ↔ _ :=
    ClassBody.loadable_realise known (builtins.trans retains.hierarchy) increasing
  have base : seen.hierarchy.isInterface spec.base = store.hierarchy.isInterface spec.base := by
    unfold Hierarchy.isInterface
    rw [retains.hierarchy.row _ sound.base]
  rw [base] at loads
  cases verified : (ClassBody.realise name spec).verify seen.hierarchy with
  | error defect =>
      refine Realises.refused fun all => ?_
      have loadable := loads.mpr ⟨all.1, all.2.1, all.2.2.1⟩
      cases verified.symm.trans ((ClassBody.layout_realise increasing).mpr ⟨loadable, rfl⟩)
  | ok layout =>
      obtain ⟨loadable, rfl⟩ := (ClassBody.layout_realise increasing).mp verified
      obtain ⟨concrete, type, dict⟩ := loads.mp loadable
      apply Program.Delivers.andThen
      apply Program.Delivers.claimName
      intro claiming reserved loaders
      have retains := retains.around reserved
      rw [retains.defined]
      show Request.Followed _ _ _ _ (.ok (!List.contains _ name)) _
      by_cases taken : name ∈ (store.loader (store.synthesizer id).loader).defined
      · rw [show (store.loader (store.synthesizer id).loader).defined.contains name = true by
          simpa using taken]
        exact Realises.refused fun all => all.2.2.2 taken
      · rw [show (store.loader (store.synthesizer id).loader).defined.contains name = false by
          simpa using taken]
        apply Program.Delivers.perform
        intro declaring spared
        have later : seen.hierarchy.Extends declaring.hierarchy :=
          reserved.hierarchy.trans spared.hierarchy
        refine ⟨_, _, rfl, ⟨fun _ => ⟨concrete, type, dict, taken⟩, fun _ => rfl⟩, ?_⟩
        rintro cls ⟨⟩
        exact ⟨Hierarchy.embodies_declare (known.mono later) (loadable.mono known.base later),
          ClassBody.laidOut_realise increasing dict⟩

/-- A number is issued that was not issued before, and the simple name made with it. -/
theorem uniqueName_issues {base : String} (unissued : now.synthesizer id = store.synthesizer id)
    (retains : store.Retains id now) :
    (id.uniqueName base : Request σ String).run.Delivers thread (Store.Reserves id) now
      fun outcome after => outcome = .ok ((store.synthesizer id).config.simpleClassName base
        ((store.synthesizer id).lastIssued base + 1).toNat) ∧ store.Retains id after := by
  apply Program.Delivers.andThen
  apply Program.Delivers.perform
  intro issuing spared
  have same := spared.synthesizer.trans unissued
  have retains := retains.around spared
  refine ⟨_, _, rfl, ?_⟩
  apply Program.Delivers.observe
  intro later spared
  have issued : (Store.synthesizer { issuing with
      synthesizers := issuing.synthesizers.set id.index (Synthesizer.Step.perform (.issue base)
        (issuing.synthesizer id)).2 } id) =
      (Synthesizer.Step.perform (.issue base) (issuing.synthesizer id)).2 := by
    simp [Store.synthesizer, Table.get_set]
  have after : store.Retains id { issuing with
      synthesizers := issuing.synthesizers.set id.index (Synthesizer.Step.perform (.issue base)
        (issuing.synthesizer id)).2 } := {
    hierarchy := retains.hierarchy
    config := by rw [issued]; exact retains.config
    silent := by rw [issued]; exact retains.silent
    loader := by rw [issued]; exact retains.loader
    defined := retains.defined }
  have retains := after.around spared
  refine ⟨?_, retains⟩
  dsimp only
  rw [retains.config, same]

/-- The class of a sound specification that is frozen is loaded unless the base is an interface, a
slot has a reserved name or the name was taken before, and then it is what the specification
says. -/
theorem synthesize_sound (sound : spec.Sound store.hierarchy) (frozen : spec.isFrozen = true)
    (builtins : Builtin.hierarchy.Extends store.hierarchy)
    (silent : (store.synthesizer id).dumpDirectory = none) (thread : ThreadId) :
    (id.synthesize spec : Request σ ClassId).run.Delivers thread (Store.Reserves id) store
      (Realises store id spec
        ((store.synthesizer id).nextName (store.hierarchy.simpleName spec.base))) := by
  have increasing : spec.slots.Pairwise (· < ·) := by
    obtain ⟨layout, some_⟩ := Option.isSome_iff_exists.mp frozen
    unfold Specification.slots
    rw [some_]
    exact sound.frozen layout some_
  unfold SynthesizerId.synthesize
  rw [frozen]
  apply Program.Delivers.andThen
  apply Program.Delivers.observe
  intro naming spared
  have simple : naming.hierarchy.simpleName spec.base = store.hierarchy.simpleName spec.base := by
    unfold Hierarchy.simpleName
    rw [spared.hierarchy.row _ sound.base]
  rw [simple]
  apply Program.Delivers.andThen
  apply (uniqueName_issues spared.synthesizer ((Store.Retains.refl id store).around spared)).weaken
  rintro _ now ⟨rfl, retains⟩
  apply Program.Delivers.andThen
  apply Program.Delivers.observe
  intro qualifying spared
  have retains := retains.around spared
  dsimp only
  rw [retains.config]
  apply Program.Delivers.andThen
  apply Program.Delivers.perform
  intro recording spared
  have retains := retains.around spared
  refine ⟨_, _, rfl, ?_⟩
  apply Program.Delivers.andThen
  apply Program.Delivers.observe
  intro dumping spared
  have retains := retains.around (Store.Reserves.mk spared.hierarchy spared.synthesizer
    spared.loader)
  dsimp only
  rw [retains.silent, silent]
  apply Program.Delivers.andThen
  apply Program.Delivers.observe
  intro loading spared
  have retains := retains.around spared
  dsimp only
  rw [retains.loader]
  exact define_realises sound increasing builtins retains

/-- So is the class of a specification that was built and frozen. -/
theorem synthesize_realises (built : spec.Built store.hierarchy) (frozen : spec.isFrozen = true)
    (builtins : Builtin.hierarchy.Extends store.hierarchy)
    (silent : (store.synthesizer id).dumpDirectory = none) (thread : ThreadId) :
    (id.synthesize spec : Request σ ClassId).run.Delivers thread (Store.Reserves id) store
      (Realises store id spec
        ((store.synthesizer id).nextName (store.hierarchy.simpleName spec.base))) :=
  synthesize_sound built.sound frozen builtins silent thread

/-- Two slots and a dictionary. -/
def point : Specification :=
  { name := "Point", base := Builtin.object, added := some ["x", "y"], dict := true : Specification
    }.freeze

/-- The conditions are met, and the class is the one that was specified. -/
theorem synthesize_realises_point :
    let store : Store := { synthesizers := {
      fallback := default
      cells := #[{ config := {}, loader := ⟨0⟩, dumpDirectory := none }] } }
    (SynthesizerId.synthesize ⟨0⟩ point : Request Unit ClassId).run.Delivers ⟨0⟩
      (Store.Reserves ⟨0⟩) store fun outcome after => exists cls, outcome = .ok cls ∧
        after.hierarchy.Embodies cls "typeforge.subclasses.Derived$object$1" point ∧
          point.slots = ["x", "y"] ∧
            (ClassBody.realise "typeforge.subclasses.Derived$object$1" point).offsetOf "y" =
              some 3 := by
  intro store
  have slots : point.slots = ["x", "y"] := List.mergeSort_of_pairwise (by decide)
  have built : point.Built store.hierarchy := by
    apply Specification.Built.freeze
    have start : Specification.Built store.hierarchy { name := "Point", base := Builtin.object } :=
      .start (by decide : 0 < Builtin.hierarchy.rows.size)
    have x := start.addSlot (show Specification.addSlot _ "x" = .ok _ from rfl)
    have y := x.addSlot (show Specification.addSlot _ "y" = .ok _ from rfl)
    exact y.addDictIf (show Specification.addDictIf _ true = .ok _ from rfl)
  have name : (store.synthesizer ⟨0⟩).nextName (store.hierarchy.simpleName point.base) =
      "typeforge.subclasses.Derived$object$1" := by decide +kernel
  have realises : (SynthesizerId.synthesize ⟨0⟩ point : Request Unit ClassId).run.Delivers ⟨0⟩ _
      store _ := synthesize_realises built rfl (.refl _) rfl ⟨0⟩
  rw [name] at realises
  apply realises.weaken
  rintro outcome after ⟨loaded, realised⟩
  rw [slots] at loaded
  obtain ⟨cls, rfl⟩ : exists cls, outcome = .ok cls := by
    have succeeds := loaded.mpr (by decide +kernel)
    cases outcome with
    | ok cls => exact ⟨cls, rfl⟩
    | error fault => cases succeeds
  obtain ⟨embodies, laidOut⟩ := realised cls rfl
  refine ⟨cls, rfl, embodies, slots, ?_⟩
  rw [laidOut.slot "y" (by decide) (by decide), slots]
  decide +kernel

end SynthesizerId

end GuestTypes
