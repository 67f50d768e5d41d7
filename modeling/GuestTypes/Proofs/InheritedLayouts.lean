import GuestTypes.Proofs.Inheritance

/-!
# What bases add up to, exactly

Taking in bases one by one keeps a single host class, the most derived one so far. That is enough
to decide whether all of them are related: what was kept is below all that were taken in. The
slots that bases add up to are those that they pass on, each once, and the specification for them
is refused exactly if a slot of the guest class's own is declared twice. Its layout has the slots
passed on and the declared ones, and a dictionary in four cases.
-/

namespace GuestTypes

/-! ## Related classes -/

namespace Hierarchy

variable {hierarchy : Hierarchy} {cls other lower : ClassId}

/-- One of the two classes is below the other one. -/
def Related (hierarchy : Hierarchy) (cls other : ClassId) : Prop :=
  hierarchy.isSubclassOf cls other = true ∨ hierarchy.isSubclassOf other cls = true

/-- Two classes that are each above the other one are the same. -/
theorem eq_of_lineage (above : other ∈ hierarchy.lineage cls)
    (below : cls ∈ hierarchy.lineage other) : cls = other := by
  have index := Nat.le_antisymm (index_le_of_mem_lineage below) (index_le_of_mem_lineage above)
  cases cls
  cases other
  exact congrArg ClassId.mk index

/-- Of two superclasses of one class, one is above the other. -/
theorem lineage_chain (above : cls ∈ hierarchy.lineage lower)
    (also : other ∈ hierarchy.lineage lower) :
    cls ∈ hierarchy.lineage other ∨ other ∈ hierarchy.lineage cls := by
  obtain ⟨below, rest, split⟩ := List.append_of_mem above
  rw [split] at also
  rcases List.mem_append.mp also with under | beyond
  · obtain ⟨lowest, between, within⟩ := List.append_of_mem under
    have chain : hierarchy.lineage lower = lowest ++ other :: (between ++ cls :: rest) := by
      rw [split, within, List.append_assoc]
      rfl
    rw [lineage_of_split chain]
    exact .inl (List.mem_cons_of_mem _ (List.mem_append_right _ List.mem_cons_self))
  · rw [lineage_of_split split]
    exact .inr beyond

/-- Superclasses of one class are related. -/
theorem related_of_lineage (concrete : hierarchy.isInterface cls = false)
    (alsoConcrete : hierarchy.isInterface other = false) (above : cls ∈ hierarchy.lineage lower)
    (also : other ∈ hierarchy.lineage lower) : hierarchy.Related cls other := by
  rcases lineage_chain above also with beyond | under
  · exact .inr ((isSubclassOf_iff concrete).mpr beyond)
  · exact .inl ((isSubclassOf_iff alsoConcrete).mpr under)

end Hierarchy

namespace Inheritance

variable {hierarchy : Hierarchy} {types : TypeTable} {sofar after : Inheritance}
  {bases : List GuestType} {base : GuestType} {slot : String}

/-! ## The host class -/

/-- The host classes that bases stand for, and the root class, from which the search for the most
derived one starts. -/
def candidates (types : TypeTable) (bases : List GuestType) : List ClassId :=
  Builtin.object :: bases.map (canonicalClass types)

/-- A base conflicts if its class is neither above nor below that of the others. -/
theorem add_eq_none_iff : add hierarchy types sofar base = none ↔
    ¬ hierarchy.Related (canonicalClass types base) sofar.base := by
  unfold add Hierarchy.Related
  dsimp only
  split
  · rename_i below
    simp [below]
  · rename_i notBelow
    split
    · rename_i above
      simp [above]
    · rename_i notAbove
      simp [notBelow, notAbove]

/-- The class kept is the lower one of two. -/
theorem lineage_add (concrete : hierarchy.isInterface sofar.base = false)
    (canonical : hierarchy.isInterface (canonicalClass types base) = false)
    (added : add hierarchy types sofar base = some after) :
    sofar.base ∈ hierarchy.lineage after.base ∧
      canonicalClass types base ∈ hierarchy.lineage after.base := by
  unfold add at added
  dsimp only at added
  split at added
  · rename_i below
    cases added
    exact ⟨(Hierarchy.isSubclassOf_iff concrete).mp below, hierarchy.mem_lineage_self _⟩
  · split at added
    · rename_i above
      cases added
      exact ⟨hierarchy.mem_lineage_self _, (Hierarchy.isSubclassOf_iff canonical).mp above⟩
    · cases added

/-- Taking in bases after some classes, of which the lowest was kept: either two of all the classes
are unrelated, or the lowest of all is kept. -/
theorem foldlM_add_lowest {start : Inheritance} {seen : List ClassId}
    (kept : start.base ∈ seen)
    (lowest : forall cls, cls ∈ seen -> cls ∈ hierarchy.lineage start.base)
    (concrete : forall cls, cls ∈ seen ++ bases.map (canonicalClass types) ->
      hierarchy.isInterface cls = false) :
    match bases.foldlM (add hierarchy types) start with
    | none => exists one other, one ∈ seen ++ bases.map (canonicalClass types) ∧
        other ∈ seen ++ bases.map (canonicalClass types) ∧ ¬ hierarchy.Related one other
    | some after => after.base ∈ seen ++ bases.map (canonicalClass types) ∧
        forall cls, cls ∈ seen ++ bases.map (canonicalClass types) ->
          cls ∈ hierarchy.lineage after.base := by
  induction bases generalizing start seen with
  | nil => simpa using And.intro kept lowest
  | cons base rest inductionHypothesis =>
      have shifted : seen ++ (base :: rest).map (canonicalClass types) =
          (seen ++ [canonicalClass types base]) ++ rest.map (canonicalClass types) := by simp
      rw [shifted] at concrete ⊢
      have startConcrete := concrete start.base
        (List.mem_append_left _ (List.mem_append_left _ kept))
      have own : canonicalClass types base ∈ seen ++ [canonicalClass types base] :=
        List.mem_append_right _ List.mem_cons_self
      have canonical := concrete _ (List.mem_append_left _ own)
      rw [List.foldlM_cons]
      cases added : add hierarchy types start base with
      | none =>
          exact ⟨_, _, List.mem_append_left _ own,
            List.mem_append_left _ (List.mem_append_left _ kept), add_eq_none_iff.mp added⟩
      | some next =>
          obtain ⟨below, belowOwn⟩ := lineage_add startConcrete canonical added
          refine inductionHypothesis ?_ ?_ concrete
          · rcases base_add added with same | same
            · rw [same]
              exact List.mem_append_left _ kept
            · rw [same]
              exact own
          · intro cls member
            rcases List.mem_append.mp member with old | new
            · exact Hierarchy.lineage_subset below (lowest cls old)
            · rw [List.mem_singleton.mp new]
              exact belowOwn

/-- Bases come to the most derived of their classes, or to a conflict if there is none. -/
theorem ofBases_lowest (concrete : forall cls, cls ∈ candidates types bases ->
      hierarchy.isInterface cls = false) :
    match ofBases hierarchy types bases with
    | none => exists one other, one ∈ candidates types bases ∧ other ∈ candidates types bases ∧
        ¬ hierarchy.Related one other
    | some after => after.base ∈ candidates types bases ∧
        forall cls, cls ∈ candidates types bases -> cls ∈ hierarchy.lineage after.base :=
  foldlM_add_lowest (List.mem_cons_self : ({} : Inheritance).base ∈ [Builtin.object])
    (fun cls member => by
      rw [List.mem_singleton.mp member]
      exact hierarchy.mem_lineage_self _)
    concrete

/-- Bases add up to nothing exactly if two of the classes are unrelated. -/
theorem ofBases_eq_none_iff (concrete : forall cls, cls ∈ candidates types bases ->
      hierarchy.isInterface cls = false) :
    ofBases hierarchy types bases = none ↔
      exists one other, one ∈ candidates types bases ∧ other ∈ candidates types bases ∧
        ¬ hierarchy.Related one other := by
  have lowest := ofBases_lowest concrete
  constructor
  · intro none_
    rw [none_] at lowest
    exact lowest
  · rintro ⟨one, other, member, also, unrelated⟩
    cases added : ofBases hierarchy types bases with
    | none => rfl
    | some after =>
        rw [added] at lowest
        exact absurd (Hierarchy.related_of_lineage (concrete one member) (concrete other also)
          (lowest.2 one member) (lowest.2 other also)) unrelated

/-! ## Slots and dictionary -/

/-- The base passes on a slot. -/
def Passes (hierarchy : Hierarchy) (base : GuestType) (slot : String) : Prop :=
  exists layout, layout? hierarchy base = some layout ∧ slot ∈ layout.slots

/-- The base passes on a dictionary. -/
def PassesDict (hierarchy : Hierarchy) (base : GuestType) : Prop :=
  exists layout, layout? hierarchy base = some layout ∧ layout.hasDict = true

/-- What one more base adds to slots and dictionary. -/
theorem add_passes (added : add hierarchy types sofar base = some after) :
    (forall slot, slot ∈ after.slots ↔ slot ∈ sofar.slots ∨ Passes hierarchy base slot) ∧
      (sofar.slots.Nodup -> after.slots.Nodup) ∧
        (after.dict = true ↔ sofar.dict = true ∨ PassesDict hierarchy base) := by
  let given := (layout? hierarchy base).getD { hasDict := false, slots := [] }
  have slots : after.slots = given.slots.foldl (fun slots slot =>
      if slots.contains slot then slots else slots ++ [slot]) sofar.slots ∧
        after.dict = (sofar.dict || given.hasDict) := by
    unfold add at added
    dsimp only at added
    split at added
    · cases added
      exact ⟨rfl, rfl⟩
    · split at added
      · cases added
        exact ⟨rfl, rfl⟩
      · cases added
  obtain ⟨members, distinct⟩ := foldl_union sofar.slots given.slots
  rw [slots.1, slots.2]
  refine ⟨fun slot => (members slot).trans (or_congr_right ?_), distinct, ?_⟩
  · unfold Passes given
    cases layout? hierarchy base <;> simp
  · unfold PassesDict given
    cases layout? hierarchy base <;> simp

/-- Bases pass on their slots, each slot once, and their dictionaries. -/
theorem foldlM_add_passes (added : bases.foldlM (add hierarchy types) sofar = some after) :
    (forall slot, slot ∈ after.slots ↔
      slot ∈ sofar.slots ∨ exists base, base ∈ bases ∧ Passes hierarchy base slot) ∧
    (sofar.slots.Nodup -> after.slots.Nodup) ∧
      (after.dict = true ↔
        sofar.dict = true ∨ exists base, base ∈ bases ∧ PassesDict hierarchy base) := by
  induction bases generalizing sofar with
  | nil =>
      cases added
      simp
  | cons base rest inductionHypothesis =>
      rw [List.foldlM_cons] at added
      obtain ⟨next, first, later⟩ := Option.bind_eq_some_iff.mp added
      obtain ⟨slots, distinct, dict⟩ := add_passes first
      obtain ⟨laterSlots, laterDistinct, laterDict⟩ := inductionHypothesis later
      refine ⟨fun slot => ?_, laterDistinct ∘ distinct, ?_⟩
      · rw [laterSlots, slots, List.exists_mem_cons_iff, or_assoc]
      · rw [laterDict, dict, List.exists_mem_cons_iff, or_assoc]

/-- Bases add up to the slots that they pass on, each once, and to a dictionary if one of them
passes one on. -/
theorem ofBases_passes (added : ofBases hierarchy types bases = some after) :
    (forall slot, slot ∈ after.slots ↔ exists base, base ∈ bases ∧ Passes hierarchy base slot) ∧
      after.slots.Nodup ∧
        (after.dict = true ↔ exists base, base ∈ bases ∧ PassesDict hierarchy base) := by
  obtain ⟨slots, distinct, dict⟩ := foldlM_add_passes added
  exact ⟨fun slot => by simp [slots], distinct List.nodup_nil, by simp [dict]⟩

/-! ## The specification -/

/-- The declared slots that are not inherited. -/
def own (inheritance : Inheritance) (declared : Option (List String)) : List String :=
  (declared.getD []).filter (!inheritance.slots.contains ·)

variable {inheritance : Inheritance} {name : String} {declared : Option (List String)}
  {dict : Bool} {spec : Specification}

/-- A slot is declared anew if it is not inherited. -/
theorem mem_own : slot ∈ inheritance.own declared ↔
    slot ∈ declared.getD [] ∧ slot ∉ inheritance.slots := by
  simp [own]

/-- The slots of one's own are distinct if none of them is declared twice. -/
theorem nodup_own_iff : (inheritance.own declared).Nodup ↔
    ¬ exists slot, 2 ≤ (declared.getD []).count slot ∧ slot ∉ inheritance.slots := by
  rw [List.nodup_iff_count_le_one]
  constructor
  · rintro once ⟨slot, twice, apart⟩
    have count := once slot
    rw [own, List.count_filter (by simpa using apart)] at count
    omega
  · intro none_ slot
    by_cases inherited : slot ∈ inheritance.slots
    · have absent : slot ∉ inheritance.own declared := fun member => (mem_own.mp member).2 inherited
      rw [List.count_eq_zero.mpr absent]
      exact Nat.zero_le 1
    · rw [own, List.count_filter (by simpa using inherited)]
      by_contra more
      exact none_ ⟨slot, by omega, inherited⟩

/-- A slot can be added to an open specification unless it is there. -/
theorem addSlot_eq {before : Specification} (open_ : before.frozen = none) :
    before.addSlot slot =
      if slot ∈ before.added.getD [] then .error (.repeated before.name .addSlot slot)
      else .ok { before with added := some (before.added.getD [] ++ [slot]) } := by
  have unfrozen : before.openOrMisuse = .ok () := by
    simp [Specification.openOrMisuse, Specification.isFrozen, open_]
  unfold Specification.addSlot
  rw [unfrozen]
  by_cases present : slot ∈ before.added.getD []
  · rw [if_pos present, if_pos (by simpa using present)]
    rfl
  · rw [if_neg present, if_neg (by simpa using present)]
    rfl

/-- Slots can be added to an open specification one by one if they are all different. -/
theorem addSlots_ok (before : Specification) (slots : List String) (open_ : before.frozen = none)
    (distinct : (before.added.getD [] ++ slots).Nodup) :
    slots.foldlM Specification.addSlot before =
      .ok (if slots = [] then before
        else { before with added := some (before.added.getD [] ++ slots) }) := by
  induction slots generalizing before with
  | nil => rfl
  | cons slot rest inductionHypothesis =>
      have absent : slot ∉ before.added.getD [] := fun member =>
        List.disjoint_of_nodup_append distinct member List.mem_cons_self
      rw [List.foldlM_cons, addSlot_eq open_, if_neg absent]
      refine (inductionHypothesis { before with
        added := some (before.added.getD [] ++ [slot]) } open_
          (by simpa [List.append_assoc] using distinct)).trans ?_
      cases rest with
      | nil => rfl
      | cons next others => simp

/-- Otherwise one that is there twice is refused. -/
theorem addSlots_error (before : Specification) (slots : List String)
    (open_ : before.frozen = none) (sofar : (before.added.getD []).Nodup)
    (twice : ¬ (before.added.getD [] ++ slots).Nodup) :
    exists slot, 2 ≤ (before.added.getD [] ++ slots).count slot ∧
      slots.foldlM Specification.addSlot before =
        .error (.repeated before.name .addSlot slot) := by
  induction slots generalizing before with
  | nil => exact absurd (by simpa using sofar) twice
  | cons slot rest inductionHypothesis =>
      rw [List.foldlM_cons, addSlot_eq open_]
      by_cases present : slot ∈ before.added.getD []
      · refine ⟨slot, ?_, by rw [if_pos present]; rfl⟩
        have some_ := List.count_pos_iff.mpr present
        rw [List.count_append, List.count_cons_self]
        omega
      · obtain ⟨again, count, refused⟩ := inductionHypothesis
          { before with added := some (before.added.getD [] ++ [slot]) } open_
          (Specification.nodup_snoc sofar present) (by simpa [List.append_assoc] using twice)
        exact ⟨again, by simpa [List.append_assoc] using count,
          by rw [if_neg present]; exact refused⟩

/-- The specification that inherited slots start with. -/
theorem specification_eq : inheritance.specification name declared dict =
    ((inheritance.own declared).foldlM Specification.addSlot {
      name, base := inheritance.base
      added := if inheritance.slots = [] then none else some inheritance.slots } >>=
        fun slotted => slotted.addDictIf
          (dict || inheritance.dict || (declared.isNone && !inheritance.slots.isEmpty))) := by
  unfold specification own
  cases inheritance.slots <;> rfl

/-- Slots that are added come from the list, also when that is empty. -/
theorem start_added (slots : List String) :
    (if slots = [] then none else some slots).getD [] = slots := by
  cases slots <;> rfl

/-- All slots are different if those that are not inherited are. -/
theorem nodup_inherited_own (distinct : inheritance.slots.Nodup) :
    (inheritance.slots ++ inheritance.own declared).Nodup ↔ (inheritance.own declared).Nodup := by
  rw [List.nodup_append]
  constructor
  · exact fun both => both.2.1
  · refine fun apart => ⟨distinct, apart, ?_⟩
    rintro slot inherited _ member rfl
    exact (mem_own.mp member).2 inherited

/-- What is specified when no slot of one's own is declared twice. -/
theorem specification_ok (distinct : inheritance.slots.Nodup)
    (once : (inheritance.own declared).Nodup) :
    inheritance.specification name declared dict = .ok {
      name, base := inheritance.base
      added := if inheritance.slots ++ inheritance.own declared = [] then none
        else some (inheritance.slots ++ inheritance.own declared)
      dict := dict || inheritance.dict || (declared.isNone && !inheritance.slots.isEmpty) } := by
  have all := (nodup_inherited_own distinct).mpr once
  rw [specification_eq, addSlots_ok _ _ rfl (by rw [start_added]; exact all), start_added]
  cases inheritance.own declared with
  | nil =>
      rw [List.append_nil]
      rfl
  | cons slot rest => simp [bind, Except.bind, Specification.addDictIf, Specification.openOrMisuse,
      Specification.isFrozen, Pure.pure, Except.pure]

/-- A slot of one's own that is declared twice is refused. -/
theorem specification_error (distinct : inheritance.slots.Nodup)
    (twice : ¬ (inheritance.own declared).Nodup) :
    exists slot, (2 ≤ (declared.getD []).count slot ∧ slot ∉ inheritance.slots) ∧
      inheritance.specification name declared dict = .error (.repeated name .addSlot slot) := by
  have all := (nodup_inherited_own distinct).not.mpr twice
  rw [specification_eq]
  obtain ⟨slot, count, refused⟩ := addSlots_error {
      name, base := inheritance.base
      added := if inheritance.slots = [] then none else some inheritance.slots }
    (inheritance.own declared) rfl (by rw [start_added]; exact distinct)
    (by rw [start_added]; exact all)
  rw [start_added, List.count_append] at count
  have apart : slot ∉ inheritance.slots := by
    intro inherited
    have absent : slot ∉ inheritance.own declared := fun member => (mem_own.mp member).2 inherited
    have once := List.nodup_iff_count_le_one.mp distinct slot
    rw [List.count_eq_zero.mpr absent] at count
    omega
  rw [List.count_eq_zero.mpr apart, own, List.count_filter (by simpa using apart)] at count
  exact ⟨slot, ⟨by omega, apart⟩, by rw [refused]; rfl⟩

/-- The specification is refused exactly if a slot of one's own is declared twice. -/
theorem specification_isOk_iff (distinct : inheritance.slots.Nodup) :
    (exists spec, inheritance.specification name declared dict = .ok spec) ↔
      (inheritance.own declared).Nodup := by
  constructor
  · rintro ⟨spec, built⟩
    by_contra twice
    obtain ⟨slot, -, refused⟩ : exists slot, _ ∧
        inheritance.specification name declared dict = .error (.repeated name .addSlot slot) :=
      specification_error distinct twice
    cases built.symm.trans refused
  · exact fun once => ⟨_, specification_ok distinct once⟩

/-- The layout has the inherited slots and the declared ones, in order, and has a dictionary if
one is asked for or inherited, if the guest class declares no slots, or if there are none at
all. -/
theorem layout_specification (distinct : inheritance.slots.Nodup)
    (built : inheritance.specification name declared dict = .ok spec) :
    spec.layout.slots.Pairwise (· < ·) ∧
      (forall slot, slot ∈ spec.layout.slots ↔
        slot ∈ inheritance.slots ∨ slot ∈ declared.getD []) ∧
      (spec.layout.hasDict = true ↔ dict = true ∨ inheritance.dict = true ∨ declared = none ∨
        spec.layout.slots = []) := by
  have once := (specification_isOk_iff distinct).mp ⟨spec, built⟩
  cases built.symm.trans (specification_ok distinct once)
  have all := (nodup_inherited_own distinct).mpr once
  have members : forall slot, slot ∈ inheritance.slots ++ inheritance.own declared ↔
      slot ∈ inheritance.slots ∨ slot ∈ declared.getD [] := by
    intro slot
    rw [List.mem_append, mem_own]
    tauto
  by_cases empty : inheritance.slots ++ inheritance.own declared = []
  · simp only [empty, List.not_mem_nil, false_iff] at members
    simp [Specification.layout, empty, members]
  · have nonempty : Specification.layout {
        name, base := inheritance.base
        added := some (inheritance.slots ++ inheritance.own declared)
        dict := dict || inheritance.dict || (declared.isNone && !inheritance.slots.isEmpty) } =
        .ofFields (dict || inheritance.dict || (declared.isNone && !inheritance.slots.isEmpty))
          (inheritance.slots ++ inheritance.own declared) := rfl
    rw [if_neg empty, nonempty]
    refine ⟨Specification.increasing_mergeSort all, fun slot => ?_, ?_⟩
    · rw [← members]
      exact List.mem_mergeSort
    · have some_ : (Layout.ofFields (dict || inheritance.dict ||
          (declared.isNone && !inheritance.slots.isEmpty))
            (inheritance.slots ++ inheritance.own declared)).slots ≠ [] := by
        intro none_
        apply empty
        have same := (List.mergeSort_perm (inheritance.slots ++ inheritance.own declared)
          fun left right => decide (left ≤ right)).length_eq
        exact List.eq_nil_of_length_eq_zero (same.symm.trans (congrArg List.length none_))
      rw [or_iff_left some_]
      cases declared with
      | some slots => simp [Layout.ofFields]
      | none =>
          have inherited : inheritance.slots ≠ [] := by simpa [own] using empty
          simp [Layout.ofFields, inherited]

/-- What is specified is sound if the host class exists. -/
theorem sound_specification (distinct : inheritance.slots.Nodup)
    (base : hierarchy.Declared inheritance.base)
    (built : inheritance.specification name declared dict = .ok spec) : spec.Sound hierarchy := by
  have once := (specification_isOk_iff distinct).mp ⟨spec, built⟩
  cases built.symm.trans (specification_ok distinct once)
  have all := (nodup_inherited_own distinct).mpr once
  refine ⟨base, nofun, List.nodup_nil, ?_, nofun⟩
  dsimp only
  rw [start_added]
  exact all

/-! ## Later tables -/

/-- The type exists, and so do its host class and the representation that it shares, if it shares
one. -/
structure Whole (hierarchy : Hierarchy) (types : TypeTable) (type : TypeId) : Prop where
  made : types.Made type
  primary : hierarchy.Declared (types.row type).primary
  shared : forall shared, (types.row type).sharedRepresentation = some shared ->
    types.MadeShared shared

variable {later : Hierarchy} {laterTypes : TypeTable} {type : TypeId} {cls other : ClassId}

/-- Whether a class is below another one does not change. -/
theorem isSubclassOf_later (extends_ : hierarchy.Extends later) (declared : hierarchy.Declared cls)
    (also : hierarchy.Declared other) :
    later.isSubclassOf cls other = hierarchy.isSubclassOf cls other := by
  unfold Hierarchy.isSubclassOf Hierarchy.implements Hierarchy.isInterface
  rw [extends_.row other also, extends_.implementsWithin _ _ declared, extends_.lineage declared]

/-- The class that a type stands for does not change. -/
theorem canonicalClass_later (whole : Whole hierarchy types type)
    (grown : types.Extends laterTypes) :
    canonicalClass laterTypes (laterTypes.row type) = canonicalClass types (types.row type) := by
  rw [grown.row type whole.made]
  unfold canonicalClass
  cases kind : (types.row type).sharedRepresentation with
  | none => rfl
  | some shared =>
      dsimp only
      rw [grown.sharedRow shared (whole.shared shared kind)]

/-- The layout of a type does not change. -/
theorem layout?_later (whole : Whole hierarchy types type) (extends_ : hierarchy.Extends later)
    (grown : types.Extends laterTypes) :
    layout? later (laterTypes.row type) = layout? hierarchy (types.row type) := by
  unfold layout?
  rw [grown.row type whole.made, extends_.row _ whole.primary]

/-- Later tables make no difference to what a base adds that existed before. -/
theorem add_later {base : TypeId} (extends_ : hierarchy.Extends later)
    (grown : types.Extends laterTypes) (whole : Whole hierarchy types base)
    (canonical : hierarchy.Declared (canonicalClass types (types.row base)))
    (declared : hierarchy.Declared sofar.base) :
    add later laterTypes sofar (laterTypes.row base) =
        add hierarchy types sofar (types.row base) := by
  unfold add
  dsimp only
  rw [canonicalClass_later whole grown, layout?_later whole extends_ grown,
    isSubclassOf_later extends_ canonical declared, isSubclassOf_later extends_ declared canonical]

/-- Nor to what such bases add up to. -/
theorem foldlM_add_later {bases : List TypeId} (extends_ : hierarchy.Extends later)
    (grown : types.Extends laterTypes)
    (whole : forall base, base ∈ bases -> Whole hierarchy types base)
    (canonical : forall base, base ∈ bases ->
      hierarchy.Declared (canonicalClass types (types.row base)))
    (declared : hierarchy.Declared sofar.base) :
    (bases.map laterTypes.row).foldlM (add later laterTypes) sofar =
      (bases.map types.row).foldlM (add hierarchy types) sofar := by
  induction bases generalizing sofar with
  | nil => rfl
  | cons base rest inductionHypothesis =>
      have own := canonical base List.mem_cons_self
      rw [List.map_cons, List.map_cons, List.foldlM_cons, List.foldlM_cons,
        add_later extends_ grown (whole base List.mem_cons_self) own declared]
      cases added : add hierarchy types sofar (types.row base) with
      | none => rfl
      | some next =>
          refine inductionHypothesis (fun other member =>
            whole other (List.mem_cons_of_mem _ member))
            (fun other member => canonical other (List.mem_cons_of_mem _ member)) ?_
          rcases base_add added with kept | taken
          · exact kept ▸ declared
          · exact taken ▸ own

/-- What bases come to does not change. -/
theorem ofBases_later {bases : List TypeId} (extends_ : hierarchy.Extends later)
    (grown : types.Extends laterTypes) (root : hierarchy.Declared Builtin.object)
    (whole : forall base, base ∈ bases -> Whole hierarchy types base)
    (canonical : forall base, base ∈ bases ->
      hierarchy.Declared (canonicalClass types (types.row base))) :
    ofBases later laterTypes (bases.map laterTypes.row) =
      ofBases hierarchy types (bases.map types.row) :=
  foldlM_add_later extends_ grown whole canonical root

end Inheritance

end GuestTypes
