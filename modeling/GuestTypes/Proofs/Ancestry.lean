import GuestTypes.Proofs.Growth
import Mathlib.Data.List.Basic
import Mathlib.Logic.Relation

/-!
# Ancestors and their flags

Types come after their bases, so the search of the bases finds what is reached through them and
nothing else. A type takes the heritable kernel flags of its direct bases alone; as those have
taken the ones of theirs, it has the heritable flags of all its ancestors (`TypeTable.Inherits`).
-/

namespace GuestTypes

/-- A relation that only ever descends leads down. -/
theorem rank_lt_of_transGen {α : Type} {relation : α -> α -> Prop} (rank : α -> Nat)
    (descends : forall {upper lower}, relation upper lower -> rank lower < rank upper)
    {first last : α} (reached : Relation.TransGen relation first last) :
    rank last < rank first := by
  induction reached with
  | single step => exact descends step
  | tail _ step inductionHypothesis => exact Nat.lt_trans (descends step) inductionHypothesis

/-! ## Flags -/

namespace KernelFlags

variable {flags left right : KernelFlags} {bit : Nat}

/-- Whether the flag in a position is present. -/
def has (flags : KernelFlags) (bit : Nat) : Bool := flags.bits.getLsbD bit

/-- A union has the flags of both sides. -/
@[simp] theorem has_union : (left.union right).has bit = (left.has bit || right.has bit) :=
  BitVec.getLsbD_or

/-- What is heritable of flags is what they have within the mask. -/
@[simp] theorem has_heritable :
    flags.heritable.has bit = (flags.has bit && heritableMask.has bit) :=
  BitVec.getLsbD_and

/-- Neither `matchSelf`, in the first position, nor what has no name is heritable. -/
theorem has_heritableMask (bit : Nat) : heritableMask.has bit = decide (0 < bit ∧ bit < 10) := by
  by_cases inside : bit < 32
  · have positions : forall bit : Fin 32,
        heritableMask.has bit = decide (0 < bit.val ∧ bit.val < 10) := by decide
    exact positions ⟨bit, inside⟩
  · rw [has, BitVec.getLsbD_of_ge _ _ (Nat.le_of_not_lt inside), eq_comm, decide_eq_false_iff_not]
    omega

/-- Flags contain others if they have each of them. -/
theorem contains_of_has (present : forall bit, right.has bit = true -> left.has bit = true) :
    left.contains right = true := by
  rw [contains, beq_iff_eq]
  apply BitVec.eq_of_getLsbD_eq
  intro bit _
  rw [BitVec.getLsbD_and, Bool.and_eq_right_iff_imp]
  exact present bit

end KernelFlags

namespace TypeTable

variable {table : TypeTable} {own : TypeId -> KernelFlags} {type base other : TypeId}

/-! ## Bases -/

/-- The type has the other one as a base. -/
def HasBase (table : TypeTable) (type base : TypeId) : Prop := base ∈ (table.row type).bases

/-- A type that was not made has the default row. -/
theorem row_unmade (unmade : ¬ table.Made type) : table.row type = default := by
  rw [row, Array.getElem?_eq_none (Nat.le_of_not_lt unmade)]
  rfl

/-- A base is made before the types over it. -/
theorem HasBase.lt (has : table.HasBase type base) : base.index < type.index := by
  unfold HasBase row at has
  cases found : table.types[type.index]? with
  | none =>
      rw [found] at has
      cases has
  | some kept =>
      rw [found] at has
      exact table.grounded type.index kept found base has

/-- What the search for a supertype finds is reached by bases. -/
theorem isSubtypeWithin_sound {steps : Nat}
    (found : table.isSubtypeWithin other steps type = true) :
    Relation.ReflTransGen table.HasBase type other := by
  induction steps generalizing type with
  | zero => exact eq_of_beq found ▸ .refl
  | succ steps inductionHypothesis =>
      rcases (Bool.or_eq_true _ _).mp found with same | above
      · exact eq_of_beq same ▸ .refl
      · obtain ⟨base, listed, further⟩ := List.any_eq_true.mp above
        exact .head listed (inductionHypothesis further)

/-- As many steps as types precede this one are enough. -/
theorem isSubtypeWithin_complete {steps : Nat} (enough : type.index ≤ steps)
    (reached : Relation.ReflTransGen table.HasBase type other) :
    table.isSubtypeWithin other steps type = true := by
  induction steps generalizing type with
  | zero =>
      rcases reached.cases_head with rfl | ⟨base, has, -⟩
      · exact beq_self_eq_true type
      · have lower := has.lt
        omega
  | succ steps inductionHypothesis =>
      rw [isSubtypeWithin, Bool.or_eq_true]
      rcases reached.cases_head with rfl | ⟨base, has, further⟩
      · exact .inl (beq_self_eq_true type)
      · have lower := has.lt
        exact .inr (List.any_eq_true.mpr ⟨base, has, inductionHypothesis (by omega) further⟩)

/-- A type is a subtype of what is reached from it through bases. -/
theorem isSubtypeOf_iff :
    table.isSubtypeOf type other = true ↔ Relation.ReflTransGen table.HasBase type other :=
  ⟨isSubtypeWithin_sound, isSubtypeWithin_complete (Nat.le_refl _)⟩

/-- What is reached through bases was not made later. -/
theorem le_of_reaches (reached : Relation.ReflTransGen table.HasBase type other) :
    other.index ≤ type.index := by
  induction reached with
  | refl => exact Nat.le_refl _
  | tail _ has inductionHypothesis => exact Nat.le_trans (Nat.le_of_lt has.lt) inductionHypothesis

/-- Subtypes are ordered by their bases. -/
structure Ordered (table : TypeTable) : Prop where
  /-- A type is a subtype of what is reached from it through bases, and of nothing else. -/
  reaches : forall type other, table.isSubtypeOf type other = true ↔
    Relation.ReflTransGen table.HasBase type other
  refl : forall type, table.isSubtypeOf type type = true
  trans : forall type middle other, table.isSubtypeOf type middle = true ->
    table.isSubtypeOf middle other = true -> table.isSubtypeOf type other = true
  antisymm : forall type other, table.isSubtypeOf type other = true ->
    table.isSubtypeOf other type = true -> type = other

/-- The subtypes of every table are ordered by their bases. -/
theorem ordered (table : TypeTable) : table.Ordered where
  reaches := fun _ _ => isSubtypeOf_iff
  refl := fun _ => isSubtypeOf_iff.mpr .refl
  trans := fun _ _ _ first last =>
    isSubtypeOf_iff.mpr ((isSubtypeOf_iff.mp first).trans (isSubtypeOf_iff.mp last))
  antisymm := fun _ _ below above => congrArg TypeId.mk (Nat.le_antisymm
    (le_of_reaches (isSubtypeOf_iff.mp above)) (le_of_reaches (isSubtypeOf_iff.mp below)))

/-- A subtype is the type itself, or has a base that is a subtype. -/
theorem isSubtypeOf_iff_bases : table.isSubtypeOf type other = true ↔
    type = other ∨ exists base, table.HasBase type base ∧ table.isSubtypeOf base other = true := by
  simp only [isSubtypeOf_iff]
  constructor
  · intro reached
    exact reached.cases_head
  · rintro (rfl | ⟨base, has, reached⟩)
    · exact .refl
    · exact .head has reached

/-! ## Inherited flags -/

/-- What the kernel flags of all types come to, by what was asked for each type itself. -/
structure Inherits (table : TypeTable) (own : TypeId -> KernelFlags) : Prop where
  /-- The flags are the own ones, and the heritable ones of whatever is above. -/
  flags : forall type bit, (table.row type).kernel.has bit = true ↔ (own type).has bit = true ∨
    exists ancestor, Relation.TransGen table.HasBase type ancestor ∧
      (own ancestor).heritable.has bit = true
  /-- A subtype has every heritable flag. -/
  passed : forall type other, table.isSubtypeOf type other = true ->
    (table.row type).kernel.contains (table.row other).kernel.heritable = true
  /-- Neither `matchSelf`, in the first position, nor what has no name comes from a base. -/
  kept : forall type bit, bit = 0 ∨ 10 ≤ bit ->
    (table.row type).kernel.has bit = (own type).has bit

/-- A type has the flags that were asked for, and those that a base passes on. -/
theorem has_effectiveKernel {flags : KernelFlags} {bases : List TypeId} {bit : Nat} :
    (table.effectiveKernel flags bases).has bit = true ↔ flags.has bit = true ∨
      exists base, base ∈ bases ∧ (table.row base).kernel.heritable.has bit = true := by
  induction bases generalizing flags with
  | nil => simp [effectiveKernel]
  | cons base rest inductionHypothesis =>
      rw [effectiveKernel, List.foldl_cons, ← effectiveKernel, inductionHypothesis]
      simp only [KernelFlags.has_union, Bool.or_eq_true, List.mem_cons, exists_eq_or_imp, or_assoc]

/-- What asks for no flags has none over bases that have none. -/
theorem effectiveKernel_bare {bases : List TypeId}
    (bare : forall base, base ∈ bases -> (table.row base).kernel = .none) :
    table.effectiveKernel .none bases = .none := by
  induction bases with
  | nil => rfl
  | cons base rest inductionHypothesis =>
      rw [List.forall_mem_cons] at bare
      rw [effectiveKernel, List.foldl_cons, bare.1]
      exact inductionHypothesis bare.2

/-- Later types change nothing about the flags that bases pass on. -/
theorem Extends.effectiveKernel {before after : TypeTable} (extends_ : before.Extends after)
    {flags : KernelFlags} {bases : List TypeId}
    (made : forall base, base ∈ bases -> before.Made base) :
    after.effectiveKernel flags bases = before.effectiveKernel flags bases :=
  List.foldl_ext _ _ _ fun sofar base member => by rw [extends_.row base (made base member)]

section Folded

variable (folded : forall type,
  (table.row type).kernel = table.effectiveKernel (own type) (table.row type).bases)

include folded

/-- By induction on the type, which its bases precede. -/
theorem has_heritable_kernel (type : TypeId) (bit : Nat) :
    (table.row type).kernel.heritable.has bit = true ↔
      exists ancestor, Relation.ReflTransGen table.HasBase type ancestor ∧
        (own ancestor).heritable.has bit = true := by
  obtain ⟨index, same⟩ : exists index, type.index = index := ⟨_, rfl⟩
  induction index using Nat.strongRecOn generalizing type with
  | ind index inductionHypothesis =>
      have bases := fun base (has : table.HasBase type base) =>
        inductionHypothesis base.index (same ▸ has.lt) base rfl
      rw [KernelFlags.has_heritable, Bool.and_eq_true, folded, has_effectiveKernel]
      constructor
      · rintro ⟨mine | ⟨base, has, present⟩, heritable⟩
        · exact ⟨type, .refl, by rw [KernelFlags.has_heritable, mine, heritable]; rfl⟩
        · obtain ⟨ancestor, above, theirs⟩ := (bases base has).mp present
          exact ⟨ancestor, .head has above, theirs⟩
      · rintro ⟨ancestor, reached, theirs⟩
        have both := theirs
        rw [KernelFlags.has_heritable, Bool.and_eq_true] at both
        refine ⟨?_, both.2⟩
        rcases reached.cases_head with rfl | ⟨base, has, above⟩
        · exact .inl both.1
        · exact .inr ⟨base, has, (bases base has).mpr ⟨ancestor, above, theirs⟩⟩

/-- Each type took the heritable flags of its direct bases, so it has those of all its ancestors. -/
theorem inherits_of_folded : table.Inherits own where
  flags := by
    intro type bit
    rw [folded, has_effectiveKernel]
    refine or_congr_right ?_
    simp only [has_heritable_kernel folded, Relation.TransGen.head'_iff]
    constructor
    · rintro ⟨base, has, ancestor, above, theirs⟩
      exact ⟨ancestor, ⟨base, has, above⟩, theirs⟩
    · rintro ⟨ancestor, ⟨base, has, above⟩, theirs⟩
      exact ⟨base, has, ancestor, above, theirs⟩
  passed := by
    intro type other subtype
    refine KernelFlags.contains_of_has fun bit theirs => ?_
    obtain ⟨ancestor, above, own⟩ := (has_heritable_kernel folded other bit).mp theirs
    have mine := (has_heritable_kernel folded type bit).mpr
      ⟨ancestor, (isSubtypeOf_iff.mp subtype).trans above, own⟩
    rw [KernelFlags.has_heritable, Bool.and_eq_true] at mine
    exact mine.1
  kept := by
    intro type bit apart
    have unheritable : KernelFlags.heritableMask.has bit = false := by
      rw [KernelFlags.has_heritableMask, decide_eq_false_iff_not]
      omega
    rw [Bool.eq_iff_iff, folded, has_effectiveKernel]
    simp [unheritable]

end Folded

end TypeTable

end GuestTypes
