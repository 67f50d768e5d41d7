import GuestTypes.Proofs.Loading

/-!
# The offsets of fields

The offset table of a class that a loader defined is a bijection, whatever body the class was
defined from. The slots are in strictly increasing order because verification has ruled out that
two fields have one name and the layout has put them in order, so the search by halving finds
each of them at its place. The offsets count the type, the dictionary if there is one and the
slots one by one, and no order of the fields of a body makes a difference.
-/

namespace GuestTypes

namespace Layout

variable {layout : Layout}

/-- The offsets of a layout: of the type, of the dictionary if there is one, and of each slot. -/
def offsets (layout : Layout) : List Nat :=
  typeOffset :: layout.dictOffset.toList ++ layout.slots.filterMap layout.slotOffset

/-- The search finds a name at each of its places, of which there is one at most. -/
theorem slotIndex_eq_some_iff (increasing : layout.slots.Pairwise (· < ·)) {name : String}
    {index : Nat} : layout.slotIndex name = some index ↔ layout.slots[index]? = some name := by
  rw [slotIndex_eq increasing]
  apply placeOf_eq_some_iff
  apply increasing.imp
  rintro slot _ before rfl
  exact String.lt_irrefl slot before

/-- The slots of an ordered layout are numbered in their order. -/
theorem slotOffset_getElem (increasing : layout.slots.Pairwise (· < ·)) {index : Nat}
    (within : index < layout.slots.length) :
    layout.slotOffset layout.slots[index] = some (layout.firstSlotOffset + index) := by
  unfold slotOffset
  rw [(slotIndex_eq_some_iff increasing).mpr (List.getElem?_eq_getElem within)]
  rfl

/-- The slots follow one another from the first offset that is theirs. -/
theorem filterMap_slotOffset (increasing : layout.slots.Pairwise (· < ·)) :
    layout.slots.filterMap layout.slotOffset =
      List.range' layout.firstSlotOffset layout.slots.length := by
  have each : layout.slots.map layout.slotOffset =
      (List.range' layout.firstSlotOffset layout.slots.length).map some := by
    apply List.ext_getElem
    · simp
    · intro index within _
      rw [List.getElem_map, slotOffset_getElem increasing (by simpa using within)]
      simp
  have kept := congrArg (List.filterMap id) each
  simpa [List.filterMap_map, Function.comp_def] using kept

/-- The offsets are counted off. -/
theorem offsets_eq (increasing : layout.slots.Pairwise (· < ·)) :
    layout.offsets = List.range layout.fieldCount := by
  unfold offsets
  rw [filterMap_slotOffset increasing, List.range_eq_range']
  unfold fieldCount firstSlotOffset dictOffset typeOffset
  cases layout.hasDict with
  | true =>
      rw [show 0 + 1 + (if true = true then 1 else 0) + layout.slots.length =
        layout.slots.length + 1 + 1 by simp; omega]
      simp [List.range'_succ]
  | false =>
      rw [show 0 + 1 + (if false = true then 1 else 0) + layout.slots.length =
        layout.slots.length + 1 by simp; omega]
      simp [List.range'_succ]

end Layout

namespace ClassBody

variable {hierarchy : Hierarchy} {body : ClassBody} {layout : Layout}

/-- The layout is a table of the fields of a body, in which none is lost and no two fall
together. -/
structure Tabulated (body : ClassBody) (layout : Layout) : Prop where
  increasing : layout.slots.Pairwise (· < ·)
  slots : forall name, name ∈ layout.slots ↔
    exists field, field ∈ body.fields ∧ field.kind = .slot ∧ field.name = name
  noType : typeField ∉ layout.slots
  noDict : dictField ∉ layout.slots
  index : forall name index, layout.slotIndex name = some index ↔ layout.slots[index]? = some name
  offset : forall name, name ∈ layout.slots -> exists offset, layout.slotOffset name = some offset
  distinct : layout.offsets.Nodup
  offsets : forall offset, offset ∈ layout.offsets ↔ offset < layout.fieldCount

/-- A body has one layout at most. -/
theorem layout_unique {other : Hierarchy} {found : Layout}
    (verified : body.verify hierarchy = .ok layout) (again : body.verify other = .ok found) :
    found = layout := by
  rw [(verify_eq_ok verified).1, (verify_eq_ok again).1]

/-- The names of slots are those of the fields that are slots. -/
theorem mem_slotNames {name : String} : name ∈ body.slotNames ↔
    exists field, field ∈ body.fields ∧ field.kind = .slot ∧ field.name = name := by
  simp [slotNames, and_assoc]

/-- A body is loaded with a layout that tabulates its fields. -/
theorem tabulated_verify (verified : body.verify hierarchy = .ok layout) :
    body.Tabulated layout := by
  have unreserved := unreserved_verify verified
  obtain ⟨loadable, rfl⟩ := verify_eq_ok_iff.mp verified
  have increasing := Specification.increasing_mergeSort
    (loadable.fields.sublist (List.filter_sublist.map _) : body.slotNames.Nodup)
  let layout : Layout := .ofFields (body.field? dictField).isSome body.slotNames
  have offsets : layout.offsets = List.range layout.fieldCount := Layout.offsets_eq increasing
  exact {
    increasing
    slots := fun name => List.mem_mergeSort.trans mem_slotNames
    noType := unreserved.1
    noDict := unreserved.2
    index := fun name index => Layout.slotIndex_eq_some_iff increasing
    offset := by
      intro name member
      obtain ⟨index, within, rfl⟩ := List.getElem_of_mem member
      exact ⟨_, Layout.slotOffset_getElem increasing within⟩
    distinct := by
      rw [offsets]
      exact List.nodup_range
    offsets := by
      intro offset
      rw [offsets, List.mem_range] }

/-! ## The order of the fields -/

/-- With distinct names, a field is found under its name and under no other. -/
theorem field?_eq_some_iff (distinct : (body.fields.map (·.name)).Nodup) {name : String}
    {field : Field} : body.field? name = some field ↔ field ∈ body.fields ∧ field.name = name := by
  constructor
  · intro found
    exact ⟨List.mem_of_find?_eq_some found, by simpa using List.find?_some found⟩
  · rintro ⟨member, rfl⟩
    exact field?_of_mem distinct member

variable {fields : List Field}

/-- Fields with distinct names may be searched in any order. -/
theorem field?_permuted (permuted : fields.Perm body.fields)
    (distinct : (body.fields.map (·.name)).Nodup) (name : String) :
    ({ body with fields } : ClassBody).field? name = body.field? name := by
  let other : ClassBody := { body with fields }
  have distinct_ : (other.fields.map (·.name)).Nodup := (permuted.map _).nodup_iff.mpr distinct
  ext field
  rw [field?_eq_some_iff distinct]
  exact (field?_eq_some_iff distinct_).trans (and_congr_left' permuted.mem_iff)

/-- Whether a body can be loaded does not depend on the order of its fields. -/
theorem Loadable.permuted (loadable : body.Loadable hierarchy)
    (permuted : fields.Perm body.fields) :
    ({ body with fields } : ClassBody).Loadable hierarchy where
  base := loadable.base
  interfaces := loadable.interfaces
  fields := (permuted.map _).nodup_iff.mpr loadable.fields
  methods := by
    intro method member
    rw [← loadable.methods method member]
    unfold methodDefect?
    simp only [field?_permuted permuted loadable.fields]
    rfl
  type := by
    rw [field?_permuted permuted loadable.fields]
    exact loadable.type
  dict := by
    rw [field?_permuted permuted loadable.fields]
    exact loadable.dict

/-- Slots are put in the same order however they are declared. -/
theorem ofFields_permuted {slots other : List String} (permuted : other.Perm slots)
    (distinct : slots.Nodup) (dict : Bool) : Layout.ofFields dict other = .ofFields dict slots := by
  refine congrArg (Layout.mk dict) ?_
  let le : String -> String -> Bool := fun left right => decide (left ≤ right)
  have sorted : List.Perm (other.mergeSort le) (slots.mergeSort le) :=
    ((List.mergeSort_perm other le).trans permuted).trans (List.mergeSort_perm slots le).symm
  refine sorted.eq_of_pairwise ?_ (Specification.increasing_mergeSort
    (permuted.nodup_iff.mpr distinct)) (Specification.increasing_mergeSort distinct)
  intro first second _ _ before after
  exact absurd (String.lt_trans before after) (String.lt_irrefl first)

/-- The layout of a verified body does not depend on the order of its fields. -/
theorem verify_of_permuted (permuted : fields.Perm body.fields)
    (verified : body.verify hierarchy = .ok layout) :
    ({ body with fields } : ClassBody).verify hierarchy = .ok layout := by
  obtain ⟨loadable, rfl⟩ := verify_eq_ok_iff.mp verified
  refine verify_eq_ok_iff.mpr ⟨loadable.permuted permuted, ?_⟩
  rw [field?_permuted permuted loadable.fields]
  symm
  exact ofFields_permuted ((permuted.filter _).map _)
    (loadable.fields.sublist (List.filter_sublist.map _)) _

/-- Whether a body is loaded, and with which layout, has nothing to do with the order of its
fields. -/
theorem verify_permuted (permuted : fields.Perm body.fields) :
    ({ body with fields } : ClassBody).verify hierarchy = .ok layout ↔
      body.verify hierarchy = .ok layout := by
  let other : ClassBody := { body with fields }
  have back : body.fields.Perm other.fields := permuted.symm
  exact ⟨verify_of_permuted back, verify_of_permuted permuted⟩

end ClassBody

/-! ## Classes that loaders define -/

namespace LoaderId

variable {σ : Type} {thread : ThreadId} {store : Store}

/-- A class is declared with the layout that its body was loaded with, whatever happens around
the definition. -/
theorem define_verified (loader : LoaderId) (body : ClassBody) :
    (loader.define body : Request σ ClassId).run.Delivers thread (fun _ _ => True) store
      fun outcome after => forall cls, outcome = .ok cls -> exists hierarchy layout,
        body.verify hierarchy = .ok layout ∧ (after.hierarchy.row cls).layout = some layout := by
  apply Program.Delivers.define
  · rintro seen defect - - cls ⟨⟩
  · rintro seen layout claiming - - - - cls ⟨⟩
  · rintro seen layout claiming declaring - verified - - - cls ⟨⟩
    refine ⟨seen.hierarchy, layout, verified, ?_⟩
    rw [Hierarchy.row_declare, if_pos rfl]
    rfl

/-- The offset table of every class that a loader defines is a bijection between its fields and
the offsets below their number, and it is the table of every class that any loader defines from
the same fields in another order. -/
theorem define_tabulates (loader : LoaderId) (body : ClassBody) (thread : ThreadId)
    (store : Store) :
    (loader.define body : Request σ ClassId).run.Delivers thread (fun _ _ => True) store
      fun outcome after => forall cls, outcome = .ok cls -> exists layout,
        (after.hierarchy.row cls).layout = some layout ∧ body.Tabulated layout ∧
        forall fields, fields.Perm body.fields ->
          (forall hierarchy other,
            ({ body with fields } : ClassBody).verify hierarchy = .ok other ↔
              body.verify hierarchy = .ok other) ∧
          forall (loader : LoaderId) (thread : ThreadId) (store : Store),
            (loader.define { body with fields } : Request σ ClassId).run.Delivers thread
              (fun _ _ => True) store fun outcome after => forall cls, outcome = .ok cls ->
                (after.hierarchy.row cls).layout = some layout := by
  apply (define_verified loader body).weaken
  intro outcome after defined cls accepted
  obtain ⟨hierarchy, layout, verified, row⟩ := defined cls accepted
  refine ⟨layout, row, ClassBody.tabulated_verify verified, fun fields permuted => ⟨?_, ?_⟩⟩
  · exact fun _ _ => ClassBody.verify_permuted permuted
  · intro loader thread store
    apply (define_verified loader { body with fields }).weaken
    intro outcome after defined cls accepted
    obtain ⟨other, found, verified', row⟩ := defined cls accepted
    rw [row, ClassBody.layout_unique verified ((ClassBody.verify_permuted permuted).mp verified')]

end LoaderId

end GuestTypes
