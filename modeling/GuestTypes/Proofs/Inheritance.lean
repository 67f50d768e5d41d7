import GuestTypes.Proofs.OrderIndependence
import GuestTypes.Proofs.Realisation

/-!
# What bases add up to

Taking in one base after the other, what was taken in is never lost: slots and dictionary stay,
and the host class only ever moves down. So the sum covers each of the bases, and the layout that
is specified for it has all that the layouts of the bases have.
-/

namespace GuestTypes

namespace Hierarchy

variable {hierarchy earlier : Hierarchy} {cls other lower : ClassId}

/-- A class is in its own lineage. -/
theorem mem_lineage_self (hierarchy : Hierarchy) (cls : ClassId) : cls ∈ hierarchy.lineage cls := by
  rw [lineage_eq]
  exact List.mem_cons_self

/-- The superclasses of a superclass are superclasses. -/
theorem lineage_subset (above : cls ∈ hierarchy.lineage lower) :
    hierarchy.lineage cls ⊆ hierarchy.lineage lower := by
  obtain ⟨below, rest, split⟩ := List.append_of_mem above
  rw [lineage_of_split split, split]
  exact List.subset_append_right below (cls :: rest)

/-- Being a subclass of a class is having it in the lineage. -/
theorem isSubclassOf_iff (concrete : hierarchy.isInterface other = false) :
    hierarchy.isSubclassOf cls other = true ↔ other ∈ hierarchy.lineage cls := by
  simp [isSubclassOf, concrete]

/-- Nothing is above an interface. -/
theorem Proper.lineage (proper : hierarchy.Proper) (iface : hierarchy.isInterface cls = true) :
    hierarchy.lineage cls = [cls] := by
  rw [lineage_eq, proper cls iface]
  rfl

/-- What is a class now was no interface earlier. -/
theorem Extends.concrete (extends_ : earlier.Extends hierarchy)
    (concrete : hierarchy.isInterface cls = false) : earlier.isInterface cls = false := by
  by_cases declared : earlier.Declared cls
  · unfold isInterface at concrete ⊢
    rw [← extends_.row cls declared]
    exact concrete
  · unfold isInterface
    rw [row_eq_root declared]
    rfl

/-- The classes that there were before more were declared are proper too. -/
theorem Extends.proper (extends_ : earlier.Extends hierarchy) (proper : hierarchy.Proper) :
    earlier.Proper := by
  intro cls iface
  cases now : hierarchy.isInterface cls with
  | false =>
      rw [extends_.concrete now] at iface
      cases iface
  | true =>
      by_cases declared : earlier.Declared cls
      · rw [← extends_.superclass declared]
        exact proper cls now
      · show (earlier.row cls).superclass = none
        rw [row_eq_root declared]
        rfl

end Hierarchy

namespace Inheritance

variable {hierarchy : Hierarchy} {types : TypeTable} {sofar middle after : Inheritance}
  {base : GuestType} {cls : ClassId}

/-! ## Taking in bases -/

/-- What was taken in is still there. -/
structure Within (hierarchy : Hierarchy) (sofar after : Inheritance) : Prop where
  slots : sofar.slots ⊆ after.slots
  dict : sofar.dict = true -> after.dict = true
  above : sofar.base ∈ hierarchy.lineage after.base

/-- A base was taken in, with the host class that it stands for, unless this is an interface. -/
structure Covers (hierarchy : Hierarchy) (types : TypeTable) (after : Inheritance)
    (base : GuestType) : Prop where
  slots : forall layout, layout? hierarchy base = some layout -> layout.slots ⊆ after.slots
  dict : forall layout, layout? hierarchy base = some layout -> layout.hasDict = true ->
    after.dict = true
  above : hierarchy.isInterface (canonicalClass types base) = false ->
    canonicalClass types base ∈ hierarchy.lineage after.base

/-- Nothing is lost if nothing is taken in. -/
theorem Within.refl (hierarchy : Hierarchy) (sofar : Inheritance) :
    Within hierarchy sofar sofar where
  slots := List.Subset.refl _
  dict := id
  above := hierarchy.mem_lineage_self sofar.base

/-- What was taken in first is there after the last base. -/
theorem Within.trans (first : Within hierarchy sofar middle)
    (last : Within hierarchy middle after) : Within hierarchy sofar after where
  slots := List.Subset.trans first.slots last.slots
  dict := last.dict ∘ first.dict
  above := Hierarchy.lineage_subset last.above first.above

/-- A base that was taken in goes on to be covered. -/
theorem Covers.within (covers : Covers hierarchy types sofar base)
    (within : Within hierarchy sofar after) : Covers hierarchy types after base where
  slots := fun layout passed => List.Subset.trans (covers.slots layout passed) within.slots
  dict := fun layout passed has => within.dict (covers.dict layout passed has)
  above := fun concrete => Hierarchy.lineage_subset within.above (covers.above concrete)

/-- Items added to a list unless they are there make a union, in which nothing is twice that was
not before. -/
theorem foldl_union (start items : List String) :
    let union := items.foldl (fun sofar item =>
      if sofar.contains item then sofar else sofar ++ [item]) start
    (forall slot, slot ∈ union ↔ slot ∈ start ∨ slot ∈ items) ∧ (start.Nodup -> union.Nodup) := by
  induction items generalizing start with
  | nil => simp
  | cons item rest inductionHypothesis =>
      rw [List.foldl_cons]
      obtain ⟨members, distinct⟩ := inductionHypothesis
        (if start.contains item then start else start ++ [item])
      refine ⟨fun slot => (members slot).trans ?_, fun before => distinct ?_⟩
      · split
        · rename_i present
          have present : item ∈ start := by simpa using present
          rw [List.mem_cons]
          constructor
          · exact Or.imp_right .inr
          · rintro (old | rfl | new)
            · exact .inl old
            · exact .inl present
            · exact .inr new
        · simp [or_assoc]
      · split
        · exact before
        · rename_i absent
          exact Specification.nodup_snoc before (by simpa using absent)

/-- The class that bases add up to stays a class: an interface has nothing above it. -/
theorem add_concrete (proper : hierarchy.Proper)
    (concrete : hierarchy.isInterface sofar.base = false)
    (below : hierarchy.isSubclassOf cls sofar.base = true) : hierarchy.isInterface cls = false := by
  rw [Bool.eq_false_iff]
  intro iface
  have above := (Hierarchy.isSubclassOf_iff concrete).mp below
  rw [proper.lineage iface, List.mem_singleton] at above
  rw [above, iface] at concrete
  cases concrete

/-- One more base is taken in, and nothing is lost. -/
theorem add_covers (proper : hierarchy.Proper)
    (concrete : hierarchy.isInterface sofar.base = false)
    (added : add hierarchy types sofar base = some after) :
    hierarchy.isInterface after.base = false ∧ Within hierarchy sofar after ∧
      Covers hierarchy types after base := by
  unfold add at added
  dsimp only at added
  have same : forall layout, layout? hierarchy base = some layout ->
      (layout? hierarchy base).getD { hasDict := false, slots := [] } = layout := by
    intro layout found
    rw [found]
    rfl
  generalize (layout? hierarchy base).getD { hasDict := false, slots := [] } = given at added same
  obtain ⟨members, -⟩ := foldl_union sofar.slots given.slots
  generalize given.slots.foldl _ sofar.slots = slots at added members
  have kept : sofar.slots ⊆ slots := fun slot old => (members slot).mpr (.inl old)
  have passed : given.slots ⊆ slots := fun slot new => (members slot).mpr (.inr new)
  have covers : forall cls, canonicalClass types base ∈ hierarchy.lineage cls ∨
      hierarchy.isInterface (canonicalClass types base) = true ->
        Covers hierarchy types ⟨cls, slots, sofar.dict || given.hasDict⟩ base := fun cls above => {
    slots := fun layout found => same layout found ▸ passed
    dict := fun layout found has => by simp [same layout found, has]
    above := fun concrete => above.resolve_right (by simp [concrete]) }
  split at added
  · rename_i below
    cases added
    exact ⟨add_concrete proper concrete below,
      ⟨kept, fun has => by simp [has], (Hierarchy.isSubclassOf_iff concrete).mp below⟩,
      covers _ (.inl (hierarchy.mem_lineage_self _))⟩
  · split at added
    · rename_i above
      cases added
      refine ⟨concrete, ⟨kept, fun has => by simp [has], hierarchy.mem_lineage_self _⟩,
        covers _ ?_⟩
      cases iface : hierarchy.isInterface (canonicalClass types base) with
      | false => exact .inl ((Hierarchy.isSubclassOf_iff iface).mp above)
      | true => exact .inr rfl
    · cases added

/-- What bases add up to from a start covers each of them, and nothing of the start is lost. -/
theorem foldlM_add_covers {bases : List GuestType} (proper : hierarchy.Proper)
    (concrete : hierarchy.isInterface sofar.base = false)
    (added : bases.foldlM (add hierarchy types) sofar = some after) :
    hierarchy.isInterface after.base = false ∧ Within hierarchy sofar after ∧
      forall base, base ∈ bases -> Covers hierarchy types after base := by
  induction bases generalizing sofar with
  | nil =>
      cases added
      exact ⟨concrete, .refl hierarchy _, nofun⟩
  | cons base rest inductionHypothesis =>
      rw [List.foldlM_cons] at added
      obtain ⟨next, first, later⟩ := Option.bind_eq_some_iff.mp added
      obtain ⟨concrete, kept, covered⟩ := add_covers proper concrete first
      obtain ⟨concrete, within, covers⟩ := inductionHypothesis concrete later
      refine ⟨concrete, kept.trans within, fun other member => ?_⟩
      rcases List.mem_cons.mp member with rfl | last
      · exact covered.within within
      · exact covers other last

/-- The sum of bases covers each of them, and its host class is a class. -/
theorem ofBases_covers {bases : List GuestType} (proper : hierarchy.Proper)
    (root : hierarchy.isInterface Builtin.object = false)
    (added : ofBases hierarchy types bases = some after) :
    hierarchy.isInterface after.base = false ∧
      forall base, base ∈ bases -> Covers hierarchy types after base := by
  obtain ⟨concrete, -, covers⟩ := foldlM_add_covers proper root added
  exact ⟨concrete, covers⟩

/-- The host class of the sum is below the root class. -/
theorem ofBases_rooted {bases : List GuestType} (proper : hierarchy.Proper)
    (root : hierarchy.isInterface Builtin.object = false)
    (added : ofBases hierarchy types bases = some after) :
    Builtin.object ∈ hierarchy.lineage after.base :=
  (foldlM_add_covers proper root added).2.1.above

/-! ## The specification -/

/-- Slots that are added come on top. -/
theorem added_addSlots {before after : Specification} {slots : List String}
    (added : slots.foldlM Specification.addSlot before = .ok after) :
    before.added.getD [] ⊆ after.added.getD [] ∧ after.dict = before.dict := by
  induction slots generalizing before with
  | nil =>
      cases added
      exact ⟨List.Subset.refl _, rfl⟩
  | cons slot rest inductionHypothesis =>
      rw [List.foldlM_cons] at added
      dsimp only [bind, Except.bind] at added
      split at added
      · cases added
      · rename_i middle first
        obtain ⟨-, -, rfl⟩ := Specification.of_addSlot first
        obtain ⟨kept, same⟩ := inductionHypothesis added
        exact ⟨List.Subset.trans (List.subset_append_left _ _) kept, same⟩

/-- The layout of an open specification has the slots that were added, and the dictionary that was
asked for. -/
theorem layout_open {spec : Specification} (open_ : spec.frozen = none) :
    spec.added.getD [] ⊆ spec.layout.slots ∧ (spec.dict = true -> spec.layout.hasDict = true) := by
  unfold Specification.layout
  rw [open_]
  cases spec.added with
  | none => exact ⟨List.Subset.refl _, fun _ => rfl⟩
  | some slots => exact ⟨fun slot member => List.mem_mergeSort.mpr member, id⟩

/-- The layout that is specified has all that was inherited. -/
theorem specification_covers {inheritance : Inheritance} {name : String}
    {declared : Option (List String)} {dict : Bool} {spec : Specification}
    (built : inheritance.specification name declared dict = .ok spec) :
    spec.base = inheritance.base ∧ inheritance.slots ⊆ spec.layout.slots ∧
      (inheritance.dict = true -> spec.layout.hasDict = true) := by
  have keeps := keeps_specification built
  obtain ⟨slots, has⟩ := layout_open keeps.frozen
  unfold specification at built
  dsimp only [bind, Except.bind] at built
  split at built
  · cases built
  rename_i slotted added
  obtain ⟨kept, -⟩ := added_addSlots added
  obtain ⟨-, rfl⟩ := Specification.of_addDictIf built
  refine ⟨keeps.base, List.Subset.trans (List.Subset.trans ?_ kept) slots, fun inherited => has ?_⟩
  · split
    · rename_i empty
      rw [List.isEmpty_iff.mp empty]
      exact List.nil_subset _
    · exact List.Subset.refl _
  · simp [inherited]

end Inheritance

end GuestTypes
