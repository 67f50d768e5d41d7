import GuestTypes.Proofs.Ancestry
import GuestTypes.Proofs.BaseOrder
import Mathlib.Logic.Relation

/-!
# Subclasses are ordered

Whatever classes and interfaces are declared, and whatever is listed as an interface of them, being
a subclass is a partial order, and a class implements what it reaches through declarations. The
search for an interface and the walk along superclasses are two, and the kind of the upper class
decides which of them is asked. They fit together because nothing is above an interface, and because
what a class declares is inherited. The order is acyclic because a class comes after all that it
mentions.
-/

namespace GuestTypes.Hierarchy

variable {hierarchy : Hierarchy} {cls other lower upper above iface : ClassId}

/-! ## What the searches find -/

/-- The class has the other one as its superclass. -/
def HasSuper (hierarchy : Hierarchy) (cls super : ClassId) : Prop :=
  hierarchy.superclass cls = some super

/-- The class or one of its superclasses lists an interface. -/
def Lists (hierarchy : Hierarchy) (cls iface : ClassId) : Prop :=
  exists above, Relation.ReflTransGen hierarchy.HasSuper cls above ∧
    iface ∈ (hierarchy.row above).interfaces

/-- The chain of a class is what is reached along superclasses. -/
theorem mem_lineage_iff :
    above ∈ hierarchy.lineage cls ↔ Relation.ReflTransGen hierarchy.HasSuper cls above := by
  induction cls using lineage_induction hierarchy with
  | step cls inductionHypothesis =>
      rw [lineage_eq, List.mem_cons, Relation.ReflTransGen.cases_head_iff, eq_comm]
      refine or_congr_right ?_
      cases chosen : hierarchy.superclass cls with
      | none => simp [HasSuper, chosen]
      | some super =>
          have further := inductionHypothesis super chosen
          simp [HasSuper, chosen, further]

/-- What a superclass lists, its subclasses list. -/
theorem Lists.inherited (chain : Relation.ReflTransGen hierarchy.HasSuper cls above)
    (lists : hierarchy.Lists above iface) : hierarchy.Lists cls iface := by
  obtain ⟨upper, further, listed⟩ := lists
  exact ⟨upper, chain.trans further, listed⟩

/-- An interface is declared before what lists it. -/
theorem Lists.lt (lists : hierarchy.Lists cls iface) : iface.index < cls.index := by
  obtain ⟨above, chain, listed⟩ := lists
  exact Nat.lt_of_lt_of_le (index_lt_of_listed listed)
    (index_le_of_mem_lineage (mem_lineage_iff.mpr chain))

/-- A class implements what it reaches in one or more steps. -/
theorem implements_iff_lists :
    hierarchy.implements cls iface = true ↔ Relation.TransGen hierarchy.Lists cls iface := by
  rw [implements_iff]
  constructor
  · intro implements
    induction implements with
    | direct listed => exact .single ⟨_, .refl, listed⟩
    | through listed _ further => exact .head ⟨_, .refl, listed⟩ further
    | inherited chosen _ above =>
        obtain ⟨next, lists, further⟩ := Relation.TransGen.head'_iff.mp above
        exact Relation.TransGen.head'_iff.mpr ⟨next, lists.inherited (.single chosen), further⟩
  · intro reached
    -- One step goes along superclasses first, and then to what the last of them lists.
    have step : forall {cls next}, hierarchy.Lists cls next ->
        (next = iface ∨ hierarchy.Implements next iface) -> hierarchy.Implements cls iface := by
      rintro cls next ⟨above, chain, listed⟩ further
      induction chain using Relation.ReflTransGen.head_induction_on with
      | refl =>
          rcases further with rfl | further
          · exact .direct listed
          · exact .through listed further
      | head chosen _ inductionHypothesis => exact .inherited chosen inductionHypothesis
    induction reached using Relation.TransGen.head_induction_on with
    | single lists => exact step lists (.inl rfl)
    | head lists _ inductionHypothesis => exact step lists (.inr inductionHypothesis)

/-- A class implements an interface if a chain of listed interfaces leads there. -/
theorem isSubclassOf_interface (isInterface : hierarchy.isInterface other = true) :
    hierarchy.isSubclassOf cls other = true ↔
      cls = other ∨ Relation.TransGen hierarchy.Lists cls other := by
  simp [isSubclassOf, isInterface, implements_iff_lists]

/-- A class is a subclass of another one if superclasses lead there. -/
theorem isSubclassOf_class (concrete : hierarchy.isInterface other = false) :
    hierarchy.isSubclassOf cls other = true ↔
      Relation.ReflTransGen hierarchy.HasSuper cls other := by
  rw [isSubclassOf_iff concrete, mem_lineage_iff]

/-! ## The order -/

/-- Every class is a subclass of itself. -/
theorem isSubclassOf_refl (hierarchy : Hierarchy) (cls : ClassId) :
    hierarchy.isSubclassOf cls cls = true := by
  cases kind : hierarchy.isInterface cls with
  | true => exact (isSubclassOf_interface kind).mpr (.inl rfl)
  | false => exact (isSubclassOf_class kind).mpr .refl

/-- What is reached from a class by either search was declared before it. -/
theorem eq_or_lt_of_isSubclassOf (below : hierarchy.isSubclassOf cls other = true) :
    cls = other ∨ other.index < cls.index := by
  cases kind : hierarchy.isInterface other with
  | true =>
      exact ((isSubclassOf_interface kind).mp below).imp_right
        (rank_lt_of_transGen ClassId.index Lists.lt)
  | false =>
      rcases Relation.reflTransGen_iff_eq_or_transGen.mp ((isSubclassOf_class kind).mp below) with
        same | reached
      · exact .inl same.symm
      · exact .inr
          (rank_lt_of_transGen ClassId.index (fun chosen => (superclass_lt chosen).2) reached)

/-- Two classes that are subclasses of each other are the same. -/
theorem isSubclassOf_antisymm (below : hierarchy.isSubclassOf cls other = true)
    (above : hierarchy.isSubclassOf other cls = true) : cls = other := by
  rcases eq_or_lt_of_isSubclassOf below with same | lower
  · exact same
  · rcases eq_or_lt_of_isSubclassOf above with same | higher
    · exact same.symm
    · exact absurd higher (Nat.lt_asymm lower)

/-- What a class implements, its subclasses implement. -/
theorem implements_of_isSubclassOf (below : hierarchy.isSubclassOf cls other = true)
    (implements : hierarchy.implements other iface = true) :
    hierarchy.implements cls iface = true := by
  rw [implements_iff_lists] at implements ⊢
  cases kind : hierarchy.isInterface other with
  | true =>
      rcases (isSubclassOf_interface kind).mp below with rfl | reached
      · exact implements
      · exact reached.trans implements
  | false =>
      have chain := (isSubclassOf_class kind).mp below
      obtain ⟨next, lists, further⟩ := Relation.TransGen.head'_iff.mp implements
      exact Relation.TransGen.head'_iff.mpr ⟨next, lists.inherited chain, further⟩

/-- By the kinds of the two upper ones. An interface has no superclass, so no class is above it. -/
theorem Proper.isSubclassOf_trans (proper : hierarchy.Proper)
    (first : hierarchy.isSubclassOf lower cls = true)
    (last : hierarchy.isSubclassOf cls upper = true) :
    hierarchy.isSubclassOf lower upper = true := by
  cases upperKind : hierarchy.isInterface upper with
  | true =>
      rcases (isSubclassOf_interface upperKind).mp last with rfl | reached
      · exact first
      · exact (isSubclassOf_interface upperKind).mpr (.inr (implements_iff_lists.mp
          (implements_of_isSubclassOf first (implements_iff_lists.mpr reached))))
  | false =>
      have further := (isSubclassOf_class upperKind).mp last
      cases kind : hierarchy.isInterface cls with
      | true =>
          rcases further.cases_head with rfl | ⟨super, chosen, -⟩
          · exact first
          · cases (proper cls kind).symm.trans chosen
      | false =>
          have chain := (isSubclassOf_class kind).mp first
          exact (isSubclassOf_class upperKind).mpr (chain.trans further)

/-! ## Declared hierarchies -/

/-- What comes of declaring classes and interfaces one after the other, from the root class alone.
Anything may be listed as an interface, and anything but an interface may have any superclass. -/
def declaring (rows : List HostClass) : Hierarchy :=
  rows.foldl (fun sofar row => (sofar.declare row).2) rootOnly

/-- What being a subclass and implementing an interface come to. -/
structure OrdersClasses (hierarchy : Hierarchy) : Prop where
  reflexive : forall cls, hierarchy.isSubclassOf cls cls = true
  transitive : forall lower cls upper, hierarchy.isSubclassOf lower cls = true ->
    hierarchy.isSubclassOf cls upper = true -> hierarchy.isSubclassOf lower upper = true
  antisymmetric : forall cls other, hierarchy.isSubclassOf cls other = true ->
    hierarchy.isSubclassOf other cls = true -> cls = other
  /-- Something on the chain of the class lists what leads to the interface, each time over the
  lists of what was reached and of its superclasses. -/
  implements : forall cls iface, hierarchy.implements cls iface = true ↔
    exists above listed, Relation.ReflTransGen hierarchy.HasSuper cls above ∧
      listed ∈ (hierarchy.row above).interfaces ∧
        Relation.ReflTransGen hierarchy.Lists listed iface
  inherited : forall cls other iface, hierarchy.isSubclassOf cls other = true ->
    hierarchy.implements other iface = true -> hierarchy.implements cls iface = true

/-- Whatever was declared, being a subclass is a partial order, and implementing an interface is
reaching it. -/
theorem subclasses_ordered (rows : List HostClass) : (declaring rows).OrdersClasses where
  reflexive := isSubclassOf_refl _
  transitive := fun _ _ _ => (proper_rootOnly.declareEach rows).isSubclassOf_trans
  antisymmetric := fun _ _ => isSubclassOf_antisymm
  implements := by
    intro cls iface
    rw [implements_iff_lists, Relation.TransGen.head'_iff]
    constructor
    · rintro ⟨listed, ⟨above, chain, named⟩, further⟩
      exact ⟨above, listed, chain, named, further⟩
    · rintro ⟨above, listed, chain, named, further⟩
      exact ⟨listed, ⟨above, chain, named⟩, further⟩
  inherited := fun _ _ _ => implements_of_isSubclassOf

/-- A class that is listed as an interface hands on what its superclass lists, but it is none of the
classes above. -/
example :
    let hierarchy := declaring [{ name := "Top", kind := .interface },
      { name := "Upper", interfaces := [⟨1⟩] }, { name := "Middle", superclass := some ⟨2⟩ },
      { name := "Side", kind := .interface, interfaces := [⟨3⟩] },
      { name := "Lower", interfaces := [⟨4⟩] }]
    hierarchy.isSubclassOf ⟨5⟩ ⟨1⟩ = true ∧ hierarchy.implements ⟨5⟩ ⟨3⟩ = true ∧
      hierarchy.isSubclassOf ⟨5⟩ ⟨3⟩ = false := by
  decide

end GuestTypes.Hierarchy
