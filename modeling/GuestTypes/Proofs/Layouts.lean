import GuestTypes.Proofs.Growth
import GuestTypes.Protocol.Definition
import Mathlib.Data.List.Nodup

/-!
# Layouts of guest classes

What a guest class's specification is realised as. A specification that the bases of a guest
class add up to is `Plain`: it is frozen, in order, and names no interface, so its shape is its
base and its layout. A body that realises a frozen specification is loaded with the layout of
that specification or not at all.
-/

namespace GuestTypes

namespace Layout

/-- The slots are in order. -/
def Ordered (layout : Layout) : Prop := ofFields layout.hasDict layout.slots = layout

/-- No slot has the name of a hidden field. -/
def Unreserved (layout : Layout) : Prop :=
  ClassBody.typeField ∉ layout.slots ∧ ClassBody.dictField ∉ layout.slots

/-- What holds of the layout of every class that was loaded. -/
structure Lawful (layout : Layout) : Prop where
  ordered : layout.Ordered
  unreserved : layout.Unreserved
  distinct : layout.slots.Nodup

/-- Slots are in order when they are sorted. -/
theorem pairwise_sorted (slots : List String) :
    (slots.mergeSort (fun left right => decide (left ≤ right))).Pairwise (· ≤ ·) := by
  refine (List.pairwise_mergeSort ?_ ?_ slots).imp of_decide_eq_true
  · intro first second third low high
    exact decide_eq_true (String.le_trans (of_decide_eq_true low) (of_decide_eq_true high))
  · intro first second
    simpa using String.le_total first second

/-- The slots of a layout are sorted when it is made. -/
theorem ordered_ofFields (dict : Bool) (slots : List String) : (ofFields dict slots).Ordered := by
  unfold Ordered ofFields
  refine congrArg (Layout.mk dict) (List.mergeSort_of_pairwise ?_)
  exact (pairwise_sorted slots).imp decide_eq_true

end Layout

namespace Specification

/-- The specification is frozen and in order, and its class implements nothing of its own. -/
structure Plain (spec : Specification) : Prop where
  frozen : spec.frozen = some spec.layout
  ordered : spec.layout.Ordered
  interfaces : spec.interfaces = []

/-- A plain specification has a dictionary if its layout has one. -/
theorem Plain.hasDict_layout {spec : Specification} (plain : spec.Plain) :
    spec.layout.hasDict = spec.hasDict := by
  unfold hasDict
  rw [plain.frozen]

/-- A specification without interfaces is plain once it is frozen. -/
theorem plain_freeze {spec : Specification} (open_ : spec.frozen = none)
    (interfaces : spec.interfaces = []) : spec.freeze.Plain where
  frozen := rfl
  ordered := by
    show spec.layout.Ordered
    unfold layout
    rw [open_]
    cases spec.added with
    | none => exact congrArg (Layout.mk true) List.mergeSort_nil
    | some slots => exact Layout.ordered_ofFields spec.dict slots
  interfaces := interfaces

end Specification

namespace ClassBody

variable {hierarchy : Hierarchy} {name : String} {spec : Specification} {layout : Layout}

/-- The slots of a body are those of the specification. -/
theorem slotNames_realise (name : String) (spec : Specification) :
    (realise name spec).slotNames = spec.slots := by
  unfold slotNames realise
  cases spec.hasDict <;> simp [List.filter_map, Function.comp_def]

/-- No name is repeated if the names are different, and different from those before. -/
theorem firstRepeated?_eq_none {seen names : List String} :
    firstRepeated? seen names = none ↔ names.Nodup ∧ forall name, name ∈ names -> name ∉ seen := by
  induction names generalizing seen with
  | nil => simp [firstRepeated?]
  | cons name rest inductionHypothesis =>
      unfold firstRepeated?
      by_cases again : name ∈ seen
      · simp [again]
      · rw [if_neg (by simpa using again), inductionHypothesis]
        simp only [List.nodup_cons, List.mem_cons, forall_eq_or_imp, not_or]
        constructor
        · rintro ⟨distinct, apart⟩
          exact ⟨⟨fun member => (apart name member).1 rfl, distinct⟩, again,
            fun other member => (apart other member).2⟩
        · rintro ⟨⟨absent, distinct⟩, -, apart⟩
          exact ⟨distinct, fun other member =>
            ⟨fun same => absent (same ▸ member), apart other member⟩⟩

/-- What it takes for a body to be loaded. -/
structure Loadable (hierarchy : Hierarchy) (body : ClassBody) : Prop where
  base : hierarchy.isInterface body.base = false
  interfaces : forall iface, iface ∈ body.interfaces -> hierarchy.isInterface iface = true
  fields : (body.fields.map (·.name)).Nodup
  methods : forall method, method ∈ body.methods -> body.methodDefect? method = none
  type : (body.field? typeField).any (·.kind == .type) = true
  dict : forall field, body.field? dictField = some field -> field.kind = .dict

/-- A body is loaded, with a dictionary if it has a field of the dictionary's name, exactly when
there is nothing wrong with it. -/
theorem verify_eq_ok_iff {body : ClassBody} : body.verify hierarchy = .ok layout ↔
    body.Loadable hierarchy ∧
      layout = .ofFields (body.field? dictField).isSome body.slotNames := by
  have interfaces : body.interfaces.find? (!hierarchy.isInterface ·) = none ↔
      forall iface, iface ∈ body.interfaces -> hierarchy.isInterface iface = true := by
    simp [List.find?_eq_none]
  have fields : firstRepeated? [] (body.fields.map (·.name)) = none ↔
      (body.fields.map (·.name)).Nodup := by
    simp [firstRepeated?_eq_none]
  have methods : body.methods.findSome? body.methodDefect? = none ↔
      forall method, method ∈ body.methods -> body.methodDefect? method = none :=
    List.findSome?_eq_none_iff
  unfold verify
  dsimp only [bind, Except.bind, throw, throwThe, MonadExceptOf.throw, Pure.pure, Except.pure]
  constructor
  · intro verified
    split at verified
    · cases verified
    rename_i base
    split at verified
    · cases verified
    rename_i noInterface
    split at verified
    · cases verified
    rename_i repeated
    split at verified
    · cases verified
    rename_i defect
    split at verified
    · cases verified
    rename_i typed
    have absent : forall {α : Type} {search : Option α},
      (forall found, search = some found -> False) ->
        search = none := Option.eq_none_iff_forall_ne_some.mpr
    have loadable : (forall field, body.field? dictField = some field -> field.kind = .dict) ->
        body.Loadable hierarchy := fun dict => {
      base := Bool.eq_false_iff.mpr base
      interfaces := interfaces.mp (absent noInterface)
      fields := fields.mp (absent repeated)
      methods := methods.mp (absent defect)
      type := by simpa using typed
      dict }
    split at verified
    · rename_i none_
      cases verified
      rw [none_]
      exact ⟨loadable (by rw [none_]; nofun), rfl⟩
    · rename_i field some_
      split at verified
      · rename_i kind
        cases verified
        rw [some_]
        refine ⟨loadable ?_, rfl⟩
        rw [some_]
        rintro _ ⟨⟩
        exact eq_of_beq kind
      · cases verified
  · rintro ⟨loadable, rfl⟩
    rw [interfaces.mpr loadable.interfaces, fields.mpr loadable.fields,
      methods.mpr loadable.methods]
    simp only [loadable.base, loadable.type]
    cases found : body.field? dictField with
    | none => rfl
    | some field => simp [loadable.dict field found]

/-- A body that is loaded has a dictionary if it has a field of the dictionary's name. -/
theorem verify_eq_ok {body : ClassBody} (verified : body.verify hierarchy = .ok layout) :
    layout = .ofFields (body.field? dictField).isSome body.slotNames ∧
      forall field, body.field? dictField = some field -> field.kind = .dict := by
  obtain ⟨loadable, same⟩ := verify_eq_ok_iff.mp verified
  exact ⟨same, loadable.dict⟩

/-- With distinct names, a field is found under its name. -/
theorem field?_of_mem {body : ClassBody} {field : Field}
    (distinct : (body.fields.map (·.name)).Nodup) (member : field ∈ body.fields) :
    body.field? field.name = some field := by
  cases found : body.field? field.name with
  | none => simpa using List.find?_eq_none.mp found field member
  | some other =>
      have same : other.name = field.name := by simpa using List.find?_some found
      rw [List.inj_on_of_nodup_map distinct (List.mem_of_find?_eq_some found) member same]

/-- No slot of a body that is loaded has the name of a hidden field: the field of that name is
another one. -/
theorem unreserved_verify {body : ClassBody} (verified : body.verify hierarchy = .ok layout) :
    layout.Unreserved := by
  obtain ⟨loadable, rfl⟩ := verify_eq_ok_iff.mp verified
  have slot : forall name, name ∈ (Layout.ofFields (body.field? dictField).isSome
      body.slotNames).slots -> exists field, body.field? name = some field ∧
          field.kind = .slot := by
    intro name member
    obtain ⟨field, listed, rfl⟩ := List.mem_map.mp (List.mem_mergeSort.mp member)
    obtain ⟨listed, kind⟩ := List.mem_filter.mp listed
    exact ⟨field, field?_of_mem loadable.fields listed, eq_of_beq kind⟩
  constructor
  · intro member
    obtain ⟨field, found, kind⟩ := slot _ member
    have typed := loadable.type
    rw [found, Option.any_some, kind] at typed
    cases typed
  · intro member
    obtain ⟨field, found, kind⟩ := slot _ member
    cases kind.symm.trans (loadable.dict field found)

/-- The slots of a body that is loaded have distinct names, as all its fields have. -/
theorem distinct_verify {body : ClassBody} (verified : body.verify hierarchy = .ok layout) :
    layout.slots.Nodup := by
  obtain ⟨loadable, rfl⟩ := verify_eq_ok_iff.mp verified
  have slots : body.slotNames.Nodup := loadable.fields.sublist (List.filter_sublist.map _)
  exact (List.mergeSort_perm _ _).nodup_iff.mpr slots

/-- The layout that comes of a verification is lawful. -/
theorem lawful_verify {body : ClassBody} (verified : body.verify hierarchy = .ok layout) :
    layout.Lawful := by
  refine ⟨?_, unreserved_verify verified, distinct_verify verified⟩
  rw [(verify_eq_ok verified).1]
  exact Layout.ordered_ofFields _ _

/-- So is the layout of the class that is loaded. -/
theorem lawful_hostClass {body : ClassBody}
    (source : exists hierarchy, body.verify hierarchy = .ok layout) :
    forall held, (LoaderId.hostClass body layout).layout = some held -> held.Lawful := by
  rintro held ⟨⟩
  exact source.elim fun _ => lawful_verify

/-- A body has a field for the dictionary if the specification has a dictionary. -/
theorem field?_realise (name : String) (spec : Specification)
    (dict : forall field, (realise name spec).field? dictField = some field -> field.kind = .dict) :
    ((realise name spec).field? dictField).isSome = spec.hasDict := by
  cases asked : spec.hasDict with
  | true =>
      unfold field? realise
      simp only [asked]
      rfl
  | false =>
      cases found : (realise name spec).field? dictField with
      | none => rfl
      | some field =>
          have kind := dict field found
          have member : field ∈ ({ name := typeField, kind := .type, hidden := true } : Field) ::
              spec.slots.map fun slot => { name := slot, kind := .slot } := by
            have listed := List.mem_of_find?_eq_some found
            unfold realise at listed
            rw [asked] at listed
            exact listed
          rcases List.mem_cons.mp member with rfl | slot
          · cases kind
          · obtain ⟨slot, -, rfl⟩ := List.mem_map.mp slot
            cases kind

/-- A body is loaded with the layout of the plain specification that it realises. -/
theorem verify_realise (plain : spec.Plain)
    (verified : (realise name spec).verify hierarchy = .ok layout) : layout = spec.layout := by
  obtain ⟨same, dict⟩ := verify_eq_ok verified
  rw [field?_realise name spec dict, slotNames_realise] at same
  have ordered := plain.ordered
  unfold Layout.Ordered at ordered
  rw [same, ← ordered]
  unfold Specification.hasDict Specification.slots
  rw [plain.frozen]

/-- A body is loaded with a dictionary if the specification that it realises asks for one. -/
theorem hasDict_verify_realise (verified : (realise name spec).verify hierarchy = .ok layout) :
    layout.hasDict = spec.hasDict := by
  obtain ⟨rfl, dict⟩ := verify_eq_ok verified
  exact field?_realise name spec dict

/-- An interface is listed once more, if it was not listed. -/
theorem mem_withInterface {iface other : ClassId} {declared : List ClassId} :
    other ∈ withInterface iface declared ↔ other ∈ declared ∨ other = iface := by
  unfold withInterface
  split
  · rename_i present
    have present : iface ∈ declared := by simpa using present
    constructor
    · exact .inl
    · rintro (earlier | rfl)
      · exact earlier
      · exact present
  · simp

/-- What a body implements: what the specification lists, and what its fields make it. -/
theorem mem_interfaces_realise {iface : ClassId} : iface ∈ (realise name spec).interfaces ↔
    iface ∈ spec.interfaces ∨ iface = Builtin.withClassAssignment ∨
      spec.hasDict = true ∧ iface = Builtin.withDictAssignment := by
  unfold realise
  cases spec.hasDict <;> simp [mem_withInterface, or_assoc]

end ClassBody

/-- A class that is declared for a body mentions all that the body mentions. -/
theorem Hierarchy.row_hostClass {hierarchy : Hierarchy} {body : ClassBody} {layout : Layout}
    (base : hierarchy.Declared body.base)
    (interfaces : forall iface, iface ∈ body.interfaces -> hierarchy.Declared iface) :
    (hierarchy.declare (LoaderId.hostClass body layout)).2.row ⟨hierarchy.rows.size⟩ =
      LoaderId.hostClass body layout := by
  rw [row_declare, if_pos rfl]
  have super : (some body.base).filter (fun base => decide (base.index < hierarchy.rows.size)) =
      some body.base := by
    simp [Option.filter, show body.base.index < hierarchy.rows.size from base]
  have kept : body.interfaces.filter (fun iface => decide (iface.index < hierarchy.rows.size)) =
      body.interfaces :=
    List.filter_eq_self.mpr fun iface member => decide_eq_true (interfaces iface member)
  unfold LoaderId.hostClass Hierarchy.completed HostClass.groundedAt
  simp only [Option.getD_some, super, kept]

namespace Inheritance

variable {hierarchy : Hierarchy} {types : TypeTable} {spec : Specification}

/-- The base is the one so far, or the class that the new base stands for. -/
theorem base_add {sofar after : Inheritance} {base : GuestType}
    (added : add hierarchy types sofar base = some after) :
    after.base = sofar.base ∨ after.base = canonicalClass types base := by
  unfold add at added
  dsimp only at added
  split at added
  · cases added
    exact .inr rfl
  · split at added
    · cases added
      exact .inl rfl
    · cases added

/-- The base is the first one, or a class that some base stands for. -/
theorem base_foldlM_add {bases : List GuestType} {sofar inheritance : Inheritance}
    (added : bases.foldlM (add hierarchy types) sofar = some inheritance) :
    inheritance.base = sofar.base ∨
      exists base, base ∈ bases ∧ inheritance.base = canonicalClass types base := by
  induction bases generalizing sofar with
  | nil =>
      cases added
      exact .inl rfl
  | cons base rest inductionHypothesis =>
      rw [List.foldlM_cons] at added
      obtain ⟨next, first, later⟩ := Option.bind_eq_some_iff.mp added
      rcases inductionHypothesis later with same | ⟨other, member, same⟩
      · rcases base_add first with kept | canonical
        · exact .inl (same.trans kept)
        · exact .inr ⟨base, List.mem_cons_self, same.trans canonical⟩
      · exact .inr ⟨other, List.mem_cons_of_mem _ member, same⟩

/-- A guest class extends the root or what one of its bases stands for. -/
theorem base_ofBases {bases : List GuestType} {inheritance : Inheritance}
    (added : ofBases hierarchy types bases = some inheritance) :
    inheritance.base = Builtin.object ∨
      exists base, base ∈ bases ∧ inheritance.base = canonicalClass types base :=
  base_foldlM_add added

/-- A class that a guest class extends has what the root has and what all its bases stand for. -/
theorem satisfies_base {bases : List GuestType} {inheritance : Inheritance}
    {holds : ClassId -> Prop} (root : holds Builtin.object)
    (canonical : forall base, base ∈ bases -> holds (canonicalClass types base))
    (added : ofBases hierarchy types bases = some inheritance) : holds inheritance.base := by
  rcases base_ofBases added with same | ⟨base, member, same⟩
  · exact same ▸ root
  · exact same ▸ canonical base member

/-- What additions to a specification keep. -/
structure Keeps (before after : Specification) : Prop where
  base : after.base = before.base
  interfaces : after.interfaces = before.interfaces
  frozen : after.frozen = before.frozen

/-- To add a slot keeps the base and the interfaces. -/
theorem keeps_addSlot {before after : Specification} {slot : String}
    (added : before.addSlot slot = .ok after) : Keeps before after := by
  unfold Specification.addSlot at added
  dsimp only [bind, Except.bind, throw, throwThe, MonadExceptOf.throw, Pure.pure, Except.pure]
    at added
  repeat' split at added
  all_goals cases added
  exact ⟨rfl, rfl, rfl⟩

/-- To add slots keeps them. -/
theorem keeps_addSlots {before after : Specification} {slots : List String}
    (added : slots.foldlM Specification.addSlot before = .ok after) : Keeps before after := by
  induction slots generalizing before with
  | nil =>
      cases added
      exact ⟨rfl, rfl, rfl⟩
  | cons slot rest inductionHypothesis =>
      rw [List.foldlM_cons] at added
      dsimp only [bind, Except.bind] at added
      split at added
      · cases added
      · rename_i middle first
        have kept := keeps_addSlot first
        have later := inductionHypothesis added
        exact ⟨later.base.trans kept.base, later.interfaces.trans kept.interfaces,
          later.frozen.trans kept.frozen⟩

/-- To add a dictionary keeps them. -/
theorem keeps_addDictIf {before after : Specification} {condition : Bool}
    (added : before.addDictIf condition = .ok after) : Keeps before after := by
  unfold Specification.addDictIf at added
  dsimp only [bind, Except.bind, Pure.pure, Except.pure] at added
  split at added
  all_goals cases added
  exact ⟨rfl, rfl, rfl⟩

/-- The specification for what bases add up to is open, and of its class alone. -/
theorem keeps_specification {inheritance : Inheritance} {name : String}
    {declared : Option (List String)} {dict : Bool}
    (built : inheritance.specification name declared dict = .ok spec) :
    Keeps { name, base := inheritance.base } spec := by
  unfold specification at built
  dsimp only [bind, Except.bind] at built
  split at built
  · cases built
  · rename_i slotted added
    have slots := keeps_addSlots added
    have dict := keeps_addDictIf built
    refine ⟨dict.base.trans (slots.base.trans ?_),
      dict.interfaces.trans (slots.interfaces.trans ?_),
      dict.frozen.trans (slots.frozen.trans ?_)⟩ <;> split <;> rfl

end Inheritance

end GuestTypes
