import GuestTypes.Protocol.Creation

/-!
# Growing tables

Classes, types and shared representations are only ever added. What was asked of an existing
one is answered the same later: `Hierarchy.Extends` and `TypeTable.Extends` say so of the rows,
and the lemmas below carry it to superclass chains, to interfaces and to host classes.
-/

namespace GuestTypes

namespace Table

variable {α : Type}

/-- A table in which a row is replaced has as many rows. -/
theorem size_set {table : Table α} {index : Nat} (value : α) (within : index < table.size) :
    (table.set index value).size = table.size := by
  unfold size at within
  simp [set, size, within]

/-- No row is lost when one is set. -/
theorem size_le_set (table : Table α) (index : Nat) (value : α) :
    table.size ≤ (table.set index value).size := by
  unfold set size
  split
  · simp
  · simp only [Array.size_push, Array.size_append, Array.size_replicate]
    omega

/-- A row that is set is there. -/
theorem lt_size_set (table : Table α) (index : Nat) (value : α) :
    index < (table.set index value).size := by
  unfold set size
  split
  · simpa
  · simp only [Array.size_push, Array.size_append, Array.size_replicate]
    omega

/-- A row that is added is one more. -/
theorem lt_size_push (table : Table α) (value : α) : table.size < (table.push value).size := by
  simp

end Table

namespace Hierarchy

/-- The class has been declared. -/
def Declared (hierarchy : Hierarchy) (cls : ClassId) : Prop := cls.index < hierarchy.rows.size

/-- Later declarations were made, and nothing else. -/
structure Extends (before after : Hierarchy) : Prop where
  size : before.rows.size ≤ after.rows.size
  row : forall cls, before.Declared cls -> after.row cls = before.row cls

theorem Extends.refl (hierarchy : Hierarchy) : hierarchy.Extends hierarchy :=
  ⟨Nat.le_refl _, fun _ _ => rfl⟩

/-- A class that has been declared stays declared. -/
theorem Extends.declared {before after : Hierarchy} (extends_ : before.Extends after)
    {cls : ClassId} (declared : before.Declared cls) : after.Declared cls :=
  Nat.lt_of_lt_of_le declared extends_.size

theorem Extends.trans {before middle after : Hierarchy} (first : before.Extends middle)
    (last : middle.Extends after) : before.Extends after :=
  ⟨Nat.le_trans first.size last.size, fun cls declared =>
    (last.row cls (first.declared declared)).trans (first.row cls declared)⟩

/-- A class that has not been declared reads as the root. -/
theorem row_eq_root {hierarchy : Hierarchy} {cls : ClassId} (absent : ¬ hierarchy.Declared cls) :
    hierarchy.row cls = .root := by
  unfold row
  rw [Array.getElem?_eq_none (Nat.le_of_not_lt absent)]
  rfl

/-- The row of a class lists earlier classes only. -/
theorem row_grounded (hierarchy : Hierarchy) {cls : ClassId} (declared : hierarchy.Declared cls) :
    (hierarchy.row cls).Grounded cls.index := by
  apply hierarchy.grounded cls.index _
  unfold row
  rw [Array.getElem?_eq_getElem declared]
  rfl

/-- A superclass was declared before its subclass. -/
theorem superclass_lt {hierarchy : Hierarchy} {cls super : ClassId}
    (chosen : hierarchy.superclass cls = some super) :
    hierarchy.Declared cls ∧ super.index < cls.index := by
  by_cases declared : hierarchy.Declared cls
  · exact ⟨declared, (hierarchy.row_grounded declared).1 super chosen⟩
  · rw [superclass, row_eq_root declared] at chosen
    cases chosen

/-- A class with a superclass has been declared. -/
theorem Declared.superclass {hierarchy : Hierarchy} {cls super : ClassId}
    (chosen : hierarchy.superclass cls = some super) : hierarchy.Declared super :=
  Nat.lt_trans (superclass_lt chosen).2 (superclass_lt chosen).1

/-! ## Declaring -/

/-- What is put right in a row is not its layout. -/
theorem layout_accepted (row : HostClass) (position : Nat) :
    ((completed row).groundedAt position).layout = row.layout := by
  unfold completed
  cases row.kind <;> rfl

/-- The rows after a declaration: a new one, and the others as they were. -/
theorem row_declare (hierarchy : Hierarchy) (row : HostClass) (cls : ClassId) :
    (hierarchy.declare row).2.row cls =
      if cls.index = hierarchy.rows.size then (completed row).groundedAt hierarchy.rows.size
      else hierarchy.row cls := by
  unfold declare Hierarchy.row
  simp only [Array.getElem?_push]
  split
  · rfl
  · rfl

/-- A declaration adds one row. -/
theorem size_declare (hierarchy : Hierarchy) (row : HostClass) :
    (hierarchy.declare row).2.rows.size = hierarchy.rows.size + 1 := by
  simp [declare]

/-- A class is declared by its declaration. -/
theorem declared_declare (hierarchy : Hierarchy) (row : HostClass) :
    (hierarchy.declare row).2.Declared ⟨hierarchy.rows.size⟩ := by
  simp [declare, Declared]

/-- A declaration leaves all earlier classes as they were. -/
theorem extends_declare (hierarchy : Hierarchy) (row : HostClass) :
    hierarchy.Extends (hierarchy.declare row).2 where
  size := by
    rw [size_declare]
    omega
  row := by
    intro cls declared
    rw [row_declare, if_neg (Nat.ne_of_lt declared)]

/-- The superclass of a declared class is the one it names, or the root. -/
theorem superclass_declare {hierarchy : Hierarchy} {row : HostClass} {super : ClassId}
    (chosen : (hierarchy.declare row).2.superclass ⟨hierarchy.rows.size⟩ = some super) :
    row.superclass.getD object = super := by
  rw [superclass, row_declare, if_pos rfl] at chosen
  have named := (Option.filter_eq_some_iff.mp chosen).1
  unfold completed at named
  cases kind : row.kind with
  | interface => simp [kind] at named
  | concrete => simpa [kind] using named

/-! ## Superclass chains -/

/-- Enough steps lead to the root, and more do not change the chain. -/
theorem lineageWithin_eq (hierarchy : Hierarchy) (steps : Nat) (cls : ClassId)
    (enough : cls.index ≤ steps) : hierarchy.lineageWithin steps cls = hierarchy.lineage cls := by
  induction steps using Nat.strongRecOn generalizing cls with
  | ind steps inductionHypothesis =>
      unfold lineage
      cases steps with
      | zero => rw [Nat.le_zero.mp enough]
      | succ fewer =>
          cases chosen : hierarchy.superclass cls with
          | none => cases cls.index <;> simp [lineageWithin, chosen]
          | some super =>
              have lower := (superclass_lt chosen).2
              obtain ⟨index, same⟩ : exists index, cls.index = index + 1 :=
                ⟨cls.index - 1, by omega⟩
              rw [same]
              simp only [lineageWithin, chosen]
              rw [inductionHypothesis fewer (by omega) super (by omega)]
              by_cases equal : index = fewer
              · rw [equal, inductionHypothesis fewer (by omega) super (by omega)]
              · rw [inductionHypothesis index (by omega) super (by omega)]

/-- A chain is a class and the chain of its superclass. -/
theorem lineage_eq (hierarchy : Hierarchy) (cls : ClassId) :
    hierarchy.lineage cls =
      cls :: (hierarchy.superclass cls).elim [] hierarchy.lineage := by
  cases chosen : hierarchy.superclass cls with
  | none =>
      unfold lineage
      cases cls.index <;> simp [lineageWithin, chosen]
  | some super =>
      have lower := (superclass_lt chosen).2
      rw [← lineageWithin_eq hierarchy (cls.index + 1) cls (by omega)]
      simp only [lineageWithin, chosen, Option.elim]
      rw [lineageWithin_eq hierarchy cls.index super (by omega)]

/-- Along superclasses, from a class to the root. -/
theorem lineage_induction (hierarchy : Hierarchy) {motive : ClassId -> Prop}
    (step : forall cls, (forall super, hierarchy.superclass cls = some super -> motive super) ->
      motive cls) (cls : ClassId) : motive cls := by
  obtain ⟨index, same⟩ : exists index, cls.index = index := ⟨_, rfl⟩
  induction index using Nat.strongRecOn generalizing cls with
  | ind index inductionHypothesis =>
      refine step cls fun super chosen => inductionHypothesis super.index ?_ super rfl
      have lower := (superclass_lt chosen).2
      omega

/-- A superclass was declared before all its subclasses. -/
theorem index_le_of_mem_lineage {hierarchy : Hierarchy} {cls other : ClassId}
    (above : other ∈ hierarchy.lineage cls) : other.index ≤ cls.index := by
  induction cls using lineage_induction hierarchy with
  | step cls inductionHypothesis =>
      rw [lineage_eq] at above
      rcases List.mem_cons.mp above with rfl | above
      · exact Nat.le_refl _
      · cases chosen : hierarchy.superclass cls with
        | none => simp [chosen] at above
        | some super =>
            rw [chosen] at above
            exact Nat.le_trans (inductionHypothesis super chosen above)
              (Nat.le_of_lt (superclass_lt chosen).2)

/-- The ancestors of a declared class are declared. -/
theorem declared_of_mem_lineage {hierarchy : Hierarchy} {cls ancestor : ClassId}
    (declared : hierarchy.Declared cls) (member : ancestor ∈ hierarchy.lineage cls) :
    hierarchy.Declared ancestor := by
  induction cls using lineage_induction hierarchy with
  | step cls inductionHypothesis =>
      rw [lineage_eq] at member
      rcases List.mem_cons.mp member with rfl | above
      · exact declared
      · cases chosen : hierarchy.superclass cls with
        | none => simp [chosen] at above
        | some super =>
            rw [chosen] at above
            exact inductionHypothesis super chosen (Declared.superclass chosen) above

namespace Extends

variable {before after : Hierarchy} {cls : ClassId}

/-- The superclass of a declared class does not change. -/
theorem superclass (extends_ : before.Extends after) (declared : before.Declared cls) :
    after.superclass cls = before.superclass cls := by
  rw [Hierarchy.superclass, Hierarchy.superclass, extends_.row cls declared]

/-- The lineage of a declared class does not change. -/
theorem lineage (extends_ : before.Extends after) (declared : before.Declared cls) :
    after.lineage cls = before.lineage cls := by
  induction cls using lineage_induction before with
  | step cls inductionHypothesis =>
      rw [lineage_eq after, lineage_eq before, extends_.superclass declared]
      cases chosen : before.superclass cls with
      | none => rfl
      | some super =>
          simp only [Option.elim]
          rw [inductionHypothesis super chosen (Declared.superclass chosen)]

/-- Two tests that agree on the members of a list are passed by one together. -/
theorem any_congr_mem {α : Type} {items : List α} {first second : α -> Bool}
    (agree : forall item, item ∈ items -> first item = second item) :
    items.any first = items.any second := by
  induction items with
  | nil => rfl
  | cons item rest inductionHypothesis =>
      rw [List.any_cons, List.any_cons, agree item List.mem_cons_self,
        inductionHypothesis fun other member => agree other (List.mem_cons_of_mem _ member)]

/-- What a declared class implements does not change. -/
theorem implementsWithin (extends_ : before.Extends after) (iface : ClassId) (steps : Nat)
    (declared : before.Declared cls) :
    after.implementsWithin iface steps cls = before.implementsWithin iface steps cls := by
  induction steps generalizing cls with
  | zero => rfl
  | succ steps inductionHypothesis =>
      unfold Hierarchy.implementsWithin
      rw [extends_.lineage declared]
      apply any_congr_mem
      intro ancestor member
      have existing := declared_of_mem_lineage declared member
      rw [extends_.row ancestor existing]
      apply any_congr_mem
      intro listed named
      have lower := (before.row_grounded existing).2 listed named
      rw [inductionHypothesis (Nat.lt_trans lower existing)]

/-- Nor does it change whether a declared class takes over what its superclass is bound to. -/
theorem takesOver (extends_ : before.Extends after) (declared : before.Declared cls) :
    FactoryId.takesOver after cls = FactoryId.takesOver before cls := by
  unfold FactoryId.takesOver implements isSynthesized
  rw [extends_.implementsWithin _ _ declared, extends_.row cls declared]

end Extends

end Hierarchy

namespace TypeTable

/-- The type has been made. -/
def Made (table : TypeTable) (type : TypeId) : Prop := type.index < table.types.size

/-- The shared representation has been made. -/
def MadeShared (table : TypeTable) (shared : SharedId) : Prop := shared.index < table.shared.size

/-- What a representation is about has been made. -/
def MadeFor (table : TypeTable) : Representation -> Prop
  | .canonical type => table.Made type
  | .adopted owner _ => table.Made owner
  | .shared shared => table.MadeShared shared

/-- The type has been made, and has the bases. -/
structure MadeOver (table : TypeTable) (type : TypeId) (bases : List TypeId) : Prop where
  made : table.Made type
  bases : (table.row type).bases = bases

/-- Later types and shared representations were made, and nothing else. -/
structure Extends (before after : TypeTable) : Prop where
  size : before.types.size ≤ after.types.size
  row : forall type, before.Made type -> after.row type = before.row type
  sharedSize : before.shared.size ≤ after.shared.size
  sharedRow : forall shared, before.MadeShared shared ->
    after.sharedRow shared = before.sharedRow shared

theorem Extends.refl (table : TypeTable) : table.Extends table :=
  ⟨Nat.le_refl _, fun _ _ => rfl, Nat.le_refl _, fun _ _ => rfl⟩

namespace Extends

variable {before middle after : TypeTable}

/-- A type that was made stays made. -/
theorem made (extends_ : before.Extends after) {type : TypeId} (made : before.Made type) :
    after.Made type :=
  Nat.lt_of_lt_of_le made extends_.size

/-- A type stays with the bases that it was made with. -/
theorem madeOver (extends_ : before.Extends after) {type : TypeId} {bases : List TypeId}
    (has : before.MadeOver type bases) : after.MadeOver type bases :=
  ⟨extends_.made has.made, by rw [extends_.row type has.made, has.bases]⟩

/-- A shared representation that was made stays made. -/
theorem madeShared (extends_ : before.Extends after) {shared : SharedId}
    (made : before.MadeShared shared) : after.MadeShared shared :=
  Nat.lt_of_lt_of_le made extends_.sharedSize

/-- What a representation is about stays made. -/
theorem madeFor (extends_ : before.Extends after) {rep : Representation}
    (made : before.MadeFor rep) : after.MadeFor rep := by
  cases rep with
  | canonical type => exact extends_.made made
  | adopted owner index => exact extends_.made made
  | shared shared => exact extends_.madeShared made

theorem trans (first : before.Extends middle) (last : middle.Extends after) :
    before.Extends after where
  size := Nat.le_trans first.size last.size
  row := fun type made => (last.row type (first.made made)).trans (first.row type made)
  sharedSize := Nat.le_trans first.sharedSize last.sharedSize
  sharedRow := fun shared made =>
    (last.sharedRow shared (first.madeShared made)).trans (first.sharedRow shared made)

/-- The host class of a representation does not change. -/
theorem hostClass (extends_ : before.Extends after) {rep : Representation}
    (made : before.MadeFor rep) : after.hostClass rep = before.hostClass rep := by
  cases rep with
  | canonical type => simp only [TypeTable.hostClass, extends_.row type made]
  | adopted owner index => simp only [TypeTable.hostClass, extends_.row owner made]
  | shared shared => simp only [TypeTable.hostClass, extends_.sharedRow shared made]

/-- Nor does it change whether a representation is an accepted one. -/
theorem isAccepted (extends_ : before.Extends after) {rep : Representation}
    (made : before.MadeFor rep) : after.isAccepted rep = before.isAccepted rep := by
  cases rep with
  | canonical type => rfl
  | adopted owner index => simp only [TypeTable.isAccepted, extends_.row owner made]
  | shared shared => rfl

end Extends

/-- The rows after a type was added: a new one, and the others as they were. -/
theorem row_add (table : TypeTable) (type : GuestType) (id : TypeId) :
    (table.add type).2.row id =
      if id.index = table.types.size then type.groundedAt table.types.size else table.row id := by
  unfold add row
  simp only [Array.getElem?_push]
  split
  · rfl
  · rfl

/-- The row of a type that is made over bases that exist. -/
theorem row_added {table : TypeTable} {row : GuestType} {type : TypeId}
    (bases : forall base, base ∈ row.bases -> table.Made base)
    (new : type.index = table.types.size) :
    (table.add row).2.row type = row := by
  rw [row_add, if_pos new, GuestType.groundedAt, List.filter_eq_self.mpr]
  exact fun base listed => decide_eq_true (bases base listed)

/-- To add a type leaves all earlier ones as they were. -/
theorem extends_add (table : TypeTable) (type : GuestType) : table.Extends (table.add type).2 where
  size := by simp [add]
  row := by
    intro id made
    rw [row_add, if_neg (Nat.ne_of_lt made)]
  sharedSize := Nat.le_refl _
  sharedRow := fun _ _ => rfl

/-- A type has not been made before it is added. -/
theorem not_made_add (table : TypeTable) (type : GuestType) : ¬ table.Made (table.add type).1 :=
  Nat.lt_irrefl _

/-- A type is made when it is added. -/
theorem made_add (table : TypeTable) (type : GuestType) :
    (table.add type).2.Made (table.add type).1 := by
  simp [add, Made]

/-- A type that is added has the bases of its row. -/
theorem madeOver_add {table : TypeTable} {row : GuestType}
    (bases : forall base, base ∈ row.bases -> table.Made base) :
    (table.add row).2.MadeOver (table.add row).1 row.bases :=
  ⟨made_add table row, congrArg GuestType.bases (row_added bases rfl)⟩

/-- A shared representation has not been made before it is added. -/
theorem not_madeShared_addShared (table : TypeTable) (shared : SharedRepresentation) :
    ¬ table.MadeShared (table.addShared shared).1 :=
  Nat.lt_irrefl _

/-- A shared representation is made when it is added. -/
theorem madeShared_addShared (table : TypeTable) (shared : SharedRepresentation) :
    (table.addShared shared).2.MadeShared (table.addShared shared).1 := by
  simp [addShared, MadeShared]

/-- The shared representations after one was added: a new one, and the others as they were. -/
theorem sharedRow_addShared (table : TypeTable) (shared : SharedRepresentation) (id : SharedId) :
    (table.addShared shared).2.sharedRow id =
      if table.shared.size = id.index then shared else table.sharedRow id :=
  Table.get_push _ _ _

/-- To add a shared representation leaves everything else as it was. -/
theorem extends_addShared (table : TypeTable) (shared : SharedRepresentation) :
    table.Extends (table.addShared shared).2 where
  size := Nat.le_refl _
  row := fun _ _ => rfl
  sharedSize := by simp [addShared]
  sharedRow := by
    intro id made
    rw [sharedRow_addShared, if_neg (Nat.ne_of_gt made)]

end TypeTable

namespace Registry

/-- After a batch, a class has the last binding that the batch lists for it. -/
theorem lookup_bindAll (registry : Registry) (bindings : List (ClassId × Representation))
    (cls : ClassId) :
    (registry.bindAll bindings).lookup cls =
      ((bindings.reverse.find? (·.1 == cls)).map (·.2)).or (registry.lookup cls) := by
  unfold bindAll
  induction bindings generalizing registry with
  | nil => rfl
  | cons binding rest inductionHypothesis =>
      rw [List.foldl_cons, inductionHypothesis, lookup_bind, List.reverse_cons, List.find?_append]
      by_cases same : binding.1 = cls
      · cases rest.reverse.find? (·.1 == cls) <;> simp [same]
      · cases rest.reverse.find? (·.1 == cls) <;> simp [same]

/-- The registries differ in their bindings at most. -/
def Rebinds (before after : Registry) : Prop :=
  exists bound, after = { before with bound }

/-- To bind classes changes bindings only. -/
theorem rebinds_bindAll (registry : Registry) (bindings : List (ClassId × Representation)) :
    registry.Rebinds (registry.bindAll bindings) := by
  unfold bindAll
  induction bindings generalizing registry with
  | nil => exact ⟨registry.bound, rfl⟩
  | cons binding rest inductionHypothesis => exact inductionHypothesis (registry.bind _ _)

/-- To bind classes changes nothing about where a registry turns. -/
theorem escalation_bindAll (registry : Registry) (bindings : List (ClassId × Representation)) :
    (registry.bindAll bindings).escalation = registry.escalation := by
  obtain ⟨bound, same⟩ := registry.rebinds_bindAll bindings
  rw [same]

/-- Without a clash, no class of the batch was bound. -/
theorem clash?_eq_none {registry : Registry} {bindings : List (ClassId × Representation)} :
    registry.clash? bindings = none ↔
      forall binding, binding ∈ bindings -> registry.lookup binding.1 = none := by
  simp [clash?, List.findSome?_eq_none_iff]

/-- A registry goes on to turn to a factory, and does not begin to. -/
theorem Step.escalation_perform {β : Type} {step : Step β} {registry : Registry}
    {factory : FactoryId} :
    (step.perform registry).2.1.escalation = .factory factory ↔
      registry.escalation = .factory factory := by
  cases step with
  | lookup cls => exact Iff.rfl
  | firstLookup cls =>
      unfold perform
      dsimp only
      split <;> exact Iff.rfl
  | secondLookup cls =>
      unfold perform
      dsimp only
      split <;> exact Iff.rfl
  | publish cls rep =>
      unfold perform
      dsimp only
      split <;> exact Iff.rfl
  | registerAll bindings =>
      unfold perform
      dsimp only
      split
      · exact Iff.rfl
      · rw [escalation_bindAll]
  | loseEscalation =>
      unfold perform
      dsimp only
      split
      case h_1 foreign =>
        rw [foreign]
        exact ⟨nofun, nofun⟩
      all_goals exact Iff.rfl

end Registry

/-! ## Factories -/

/-- No step of a factory moves it to another registry or gives it another root type. -/
theorem Factory.Step.keeps_perform {α : Type} {step : Factory.Step α} {thread : ThreadId}
    {answer : α} {before after : Factory}
    (performed : step.perform thread before = some (answer, after)) :
    after.registry = before.registry ∧ after.objectType = before.objectType := by
  cases step with
  | acquire =>
      obtain ⟨lock, -, same⟩ := Option.map_eq_some_iff.mp performed
      cases same
      exact ⟨rfl, rfl⟩
  | release | begin _ | finish | prepare _ _ | collect | discard | cacheLayout _ _ =>
      cases performed
      exact ⟨rfl, rfl⟩

end GuestTypes
