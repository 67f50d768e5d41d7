import GuestTypes.Proofs.World

/-!
# The steps that the rules allow

For each way in which an action can change the world, what is needed for it to keep to the
rules. A change of one part leaves the facts about the other parts as they are; what remains
to be shown is about the new entry.
-/

namespace GuestTypes

namespace World

variable {world : World} {thread : ThreadId}

/-- A factory that has layout classes is there. -/
theorem Valid.founded_of_layout (valid : world.Valid) {factory : FactoryId}
    {entry : Shape × ClassId}
    (member : entry ∈ (world.factory factory).layouts) : factory.index < world.factoryCount := by
  obtain ⟨⟨call, was⟩, -⟩ := valid.layouts factory entry member
  exact (valid.makers _ _ _ was).2.1

/-! ## Tables -/

/-- The world after a declaration, for which the class may belong to a factory. -/
def declaring (world : World) (row : HostClass) (made : Option (FactoryId × Nat)) : World :=
  { world with
    hierarchy := (world.hierarchy.declare row).2
    maker := fun cls => if cls.index = world.hierarchy.rows.size then made else world.maker cls }

/-- A new class may belong to a factory whose lock the thread holds, in a definition that the
thread has been asked for. -/
structure Commissions (world : World) (thread : ThreadId) (factory : FactoryId) (call : Nat) :
    Prop where
  founded : factory.index < world.factoryCount
  holds : world.Holds thread factory
  caller : world.caller call = some thread
  asked : exists record : CallRecord, world.calls[call]? = some record ∧
    record.call.definesWith factory = true ∧ record.answer = none

/-- Nothing is lost by a declaration. -/
theorem grows_declaring (valid : world.Valid) (row : HostClass)
    (made : Option (FactoryId × Nat)) : Grows world (world.declaring row made) :=
  { Grows.refl world with
    hierarchy := Hierarchy.extends_declare _ _
    makers := by
      intro cls maker was
      have declared := (valid.makers cls maker.1 maker.2 was).1
      exact (if_neg (Nat.ne_of_lt declared)).trans was
    unmade := by
      intro cls maker is
      by_cases fresh : cls.index = world.hierarchy.rows.size
      · exact .inr fun declared => Nat.ne_of_lt declared fresh
      · exact .inl ((if_neg fresh).symm.trans is) }

/-- A class that a declaration adds is the one it declares. -/
theorem eq_of_declared {row : HostClass} {made : Option (FactoryId × Nat)} {cls : ClassId}
    (is : (world.declaring row made).hierarchy.Declared cls)
    (was : ¬ world.hierarchy.Declared cls) : cls = ⟨world.hierarchy.rows.size⟩ := by
  unfold Hierarchy.Declared at is was
  unfold declaring at is
  rw [Hierarchy.size_declare] at is
  exact congrArg ClassId.mk (by omega)

/-- The declared class may belong to a factory, and the others belong to whom they did. -/
theorem maker_declaring {row : HostClass} {made : Option (FactoryId × Nat)} {cls : ClassId}
    {maker : FactoryId × Nat} (is : (world.declaring row made).maker cls = some maker) :
    cls = ⟨world.hierarchy.rows.size⟩ ∧ made = some maker ∨ world.maker cls = some maker := by
  by_cases fresh : cls.index = world.hierarchy.rows.size
  · exact .inl ⟨congrArg ClassId.mk fresh, (if_pos fresh).symm.trans is⟩
  · exact .inr ((if_neg fresh).symm.trans is)

section Declaring

variable {row : HostClass} {made : Option (FactoryId × Nat)}

/-- A world is valid after a declaration. -/
theorem Valid.declaring (valid : world.Valid)
    (base : world.Open (row.superclass.getD Hierarchy.object))
    (lawful : forall layout, row.layout = some layout -> layout.Lawful)
    (commissioned : forall factory call, made = some (factory, call) ->
      world.Commissions thread factory call)
    (equips : made.isSome -> exists base layout,
      (world.hierarchy.declare row).2.Equips ⟨world.hierarchy.rows.size⟩ base layout []) :
    (world.declaring row made).Valid := by
  have grows := grows_declaring valid row made
  exact {
    builtins := fun cls builtin => grows.opens valid (valid.builtins cls builtin)
    superclasses := by
      intro cls super chosen
      by_cases declared : world.hierarchy.Declared cls
      · rw [grows.hierarchy.superclass declared] at chosen
        exact grows.opens valid (valid.superclasses cls super chosen)
      · obtain rfl := eq_of_declared (Hierarchy.superclass_lt chosen).1 declared
        obtain rfl := Hierarchy.superclass_declare chosen
        exact grows.opens valid base
    lawful := by
      intro cls layout has
      change ((world.hierarchy.declare row).2.row cls).layout = some layout at has
      rw [Hierarchy.row_declare] at has
      split at has
      · rw [Hierarchy.layout_accepted] at has
        exact lawful layout has
      · exact valid.lawful cls layout has
    shared := by
      intro shared exists_
      obtain ⟨declared, canonical⟩ := valid.shared shared exists_
      exact ⟨grows.hierarchy.declared declared,
        canonical.trans (grows.hierarchy.superclass declared).symm⟩
    unshared := valid.unshared
    primaries := fun type simple => grows.opens valid (valid.primaries type simple)
    objects := fun object => grows.opens valid (valid.objects object)
    bound := fun registry cls bound => grows.opens valid (valid.bound registry cls bound)
    unbound := valid.unbound
    unfounded := valid.unfounded
    served := fun record member => grows.served valid (valid.served record member)
    derived := grows.derivations valid rfl
    pasts := valid.pasts
    founded := valid.founded
    roots := valid.roots
    resting := valid.resting
    governed := fun factory founded sealed => grows.governed
      (fun cls bound => (valid.bound _ cls bound).1) (valid.governed factory founded sealed)
    makers := by
      intro cls factory call makes
      rcases maker_declaring makes with ⟨rfl, is⟩ | was
      · obtain ⟨founded, -, -, record, found, defines, unanswered⟩ := commissioned factory call is
        refine ⟨world.hierarchy.declared_declare row, founded, record, found, defines, ?_⟩
        rw [unanswered]
        nofun
      · obtain ⟨declared, founded, record, found, madeBy⟩ := valid.makers cls factory call was
        exact ⟨grows.hierarchy.declared declared, founded, record, found, madeBy⟩
    equipped := by
      intro cls maker makes
      rcases maker_declaring makes with ⟨rfl, is⟩ | was
      · exact equips (by rw [is]; rfl)
      · obtain ⟨base, layout, equips⟩ := valid.equipped cls maker was
        exact ⟨base, layout, equips.mono grows.hierarchy⟩
    shapes := valid.shapes
    layouts := by
      intro factory entry member
      obtain ⟨⟨call, was⟩, realises⟩ := valid.layouts factory entry member
      exact ⟨⟨call, grows.makers _ _ was⟩, realises.mono grows.hierarchy⟩ }

/-- A thread may declare a class below one that everybody may name. -/
theorem Valid.declare (valid : world.Valid)
    (base : world.Open (row.superclass.getD Hierarchy.object))
    (lawful : forall layout, row.layout = some layout -> layout.Lawful)
    (commissioned : forall factory call, made = some (factory, call) ->
      world.Commissions thread factory call)
    (equips : made.isSome -> exists base layout,
      (world.hierarchy.declare row).2.Equips ⟨world.hierarchy.rows.size⟩ base layout [])
    (novel : forall factory, world.Holds thread factory ->
      forall entry, entry ∈ (world.factory factory).layouts ->
        ¬ (world.hierarchy.declare row).2.Realises ⟨world.hierarchy.rows.size⟩ entry.1) :
    Allows thread world (world.declaring row made) := by
  refine ⟨valid.declaring base lawful commissioned equips, { Moves.refl thread world with
    toGrows := grows_declaring valid row made, made := ?_, synthesized := ?_ }⟩
  · intro cls factory call makes
    rcases maker_declaring makes with ⟨-, is⟩ | was
    · exact .inr ⟨(commissioned factory call is).holds, (commissioned factory call is).caller⟩
    · exact .inl was
  · intro factory cls holds absent declared entry member
    obtain rfl := eq_of_declared declared absent
    exact novel factory holds entry member

end Declaring

/-- A thread may add a type whose primary class everybody may name. -/
theorem Valid.addType (valid : world.Valid) {type : GuestType}
    (primary : type.sharedRepresentation = none -> world.Open type.primary) :
    Allows thread world { world with types := (world.types.add type).2 } := by
  have grows : Grows world { world with types := (world.types.add type).2 } :=
    { Grows.refl world with types := TypeTable.extends_add _ _ }
  refine ⟨{ valid with
    primaries := ?_, served := ?_, derived := grows.derivations valid rfl
    roots := fun factory founded => (valid.roots factory founded).imp
      grows.types.madeOver grows.types.madeOver
    resting := ?_, governed := ?_, makers := ?_ },
    { Moves.refl thread world with toGrows := grows }⟩
  · intro id
    rw [TypeTable.row_add]
    split
    · exact primary
    · exact valid.primaries id
  · exact fun record member => grows.served valid (valid.served record member)
  · intro factory free
    obtain ⟨empty, backed⟩ := valid.resting factory free
    exact ⟨empty, backed⟩
  · exact fun factory founded sealed => grows.governed
      (fun cls bound => (valid.bound _ cls bound).1) (valid.governed factory founded sealed)
  · intro cls factory call is
    obtain ⟨declared, founded, record, found, madeBy⟩ := valid.makers cls factory call is
    exact ⟨declared, founded, record, found, grows.madeBy madeBy⟩

/-- A shared representation is made for a class that exists, and remembers its superclass. -/
theorem Valid.addShared (valid : world.Valid) {cls : ClassId}
    (declared : world.hierarchy.Declared cls) :
    Allows thread world { world with
      types := (world.types.addShared
        { hostClass := cls, canonicalClass := world.hierarchy.superclass cls }).2 } := by
  have grows : Grows world { world with
      types := (world.types.addShared
        { hostClass := cls, canonicalClass := world.hierarchy.superclass cls }).2 } :=
    { Grows.refl world with types := TypeTable.extends_addShared _ _ }
  refine ⟨{ valid with
    shared := ?_, unshared := ?_, served := ?_, derived := grows.derivations valid rfl
    roots := fun factory founded => (valid.roots factory founded).imp
      grows.types.madeOver grows.types.madeOver
    resting := ?_, governed := ?_, makers := ?_ },
    { Moves.refl thread world with toGrows := grows }⟩
  · intro shared made
    rw [TypeTable.sharedRow_addShared]
    split
    · exact ⟨declared, rfl⟩
    · rename_i other
      apply valid.shared shared
      unfold TypeTable.MadeShared at made ⊢
      simp only [TypeTable.addShared, Table.size_push] at made
      omega
  · intro shared absent
    rw [TypeTable.sharedRow_addShared]
    unfold TypeTable.MadeShared at absent
    simp only [TypeTable.addShared, Table.size_push] at absent
    rw [if_neg (by omega)]
    exact valid.unshared shared fun made => absent (Nat.lt_succ_of_lt made)
  · exact fun record member => grows.served valid (valid.served record member)
  · intro factory free
    obtain ⟨empty, backed⟩ := valid.resting factory free
    exact ⟨empty, fun entry member =>
      grows.backed (valid.founded_of_layout member) (backed entry member)⟩
  · exact fun factory founded sealed => grows.governed
      (fun cls bound => (valid.bound _ cls bound).1) (valid.governed factory founded sealed)
  · intro cls factory call is
    obtain ⟨declared, founded, record, found, madeBy⟩ := valid.makers cls factory call is
    exact ⟨declared, founded, record, found, grows.madeBy madeBy⟩

/-- A new object is of a class that everybody may name. -/
theorem Valid.changeObjects (valid : world.Valid) {objectClass : ObjectId -> ClassId}
    (opened : forall object, world.Open (objectClass object)) :
    Allows thread world { world with objectClass } := by
  have grows : Grows world { world with objectClass } := { Grows.refl world with }
  exact ⟨{ valid with
    objects := opened
    served := fun record member => grows.served valid (valid.served record member)
    derived := grows.derivations valid rfl },
    { Moves.refl thread world with toGrows := grows }⟩

/-! ## Registries and factories -/

/-- The world after a registry was added. -/
def addingRegistry (world : World) (escalation : Escalation) : World :=
  { world with
    registryCount := world.registryCount + 1
    escalation := fun registry =>
      if registry.index = world.registryCount then escalation else world.escalation registry }

/-- Nothing is lost when a registry is added. -/
theorem grows_addingRegistry (world : World) (escalation : Escalation) :
    Grows world (world.addingRegistry escalation) :=
  { Grows.refl world with
    registries := Nat.le_succ _
    escalations := by
      intro registry factory made
      show (if _ then _ else _) = _ ↔ _
      rw [if_neg (Nat.ne_of_lt made)] }

/-- A world is valid after a registry was added. -/
theorem Valid.addingRegistry (valid : world.Valid) (escalation : Escalation) :
    (world.addingRegistry escalation).Valid := by
  have grows := world.grows_addingRegistry escalation
  refine { valid with
    unbound := ?_, served := ?_, derived := grows.derivations valid rfl, founded := ?_ }
  · exact fun registry cls beyond => valid.unbound registry cls (Nat.le_of_succ_le beyond)
  · exact fun record member => grows.served valid (valid.served record member)
  · intro factory founded
    obtain ⟨made, turns⟩ := valid.founded factory founded
    exact ⟨Nat.lt_succ_of_lt made, (if_neg (Nat.ne_of_lt made)).trans turns⟩

/-- A thread may add a registry. -/
theorem Valid.addRegistry (valid : world.Valid) (escalation : Escalation) :
    Allows thread world (world.addingRegistry escalation) :=
  ⟨valid.addingRegistry escalation,
    { Moves.refl thread world with toGrows := world.grows_addingRegistry escalation }⟩

/-- What a foreign escalation turned to is lost. -/
theorem Valid.loseEscalation (valid : world.Valid) {registry : RegistryId} {code : CodeId}
    (foreign : world.escalation registry = .foreign code) :
    Allows thread world { world with
      escalation := fun other => if other = registry then .gone else world.escalation other } := by
  have same : forall other factory,
      (if other = registry then Escalation.gone else world.escalation other) = .factory factory ↔
        world.escalation other = .factory factory := by
    intro other factory
    by_cases equal : other = registry
    · subst equal
      simp [foreign]
    · simp [equal]
  have grows : Grows world { world with
      escalation := fun other => if other = registry then .gone else world.escalation other } :=
    { Grows.refl world with escalations := fun other factory _ => same other factory }
  refine ⟨{ valid with
    served := ?_, derived := grows.derivations valid rfl, founded := ?_ },
    { Moves.refl thread world with toGrows := grows }⟩
  · exact fun record member => grows.served valid (valid.served record member)
  · intro factory founded
    obtain ⟨made, turns⟩ := valid.founded factory founded
    exact ⟨made, (same _ _).mpr turns⟩

/-- The world after a factory was added, with a registry that turns to it. -/
def addingFactory (world : World) (factory : Factory) : World :=
  { world.addingRegistry (.factory ⟨world.factoryCount⟩) with
    factoryCount := world.factoryCount + 1
    factory := fun other =>
      if other.index = world.factoryCount then
        { factory with registry := ⟨world.registryCount⟩ }
      else world.factory other }

section AddingFactory

variable {factory : Factory} {other : FactoryId}

/-- The other factories are as they were. -/
theorem factory_old (old : other.index < world.factoryCount) :
    (world.addingFactory factory).factory other = world.factory other :=
  if_neg (Nat.ne_of_lt old)

/-- The new factory comes with a registry of its own. -/
theorem factory_new (last : other.index = world.factoryCount) :
    (world.addingFactory factory).factory other =
      { factory with registry := ⟨world.registryCount⟩ } :=
  if_pos last

/-- The other factories have published what they had. -/
theorem published_old (old : other.index < world.factoryCount) :
    (world.addingFactory factory).published other = world.published other := by
  unfold published
  rw [factory_old old]
  rfl

/-- The registry of the new factory binds nothing. -/
theorem published_new (valid : world.Valid) (last : other.index = world.factoryCount)
    (cls : ClassId) : (world.addingFactory factory).published other cls = none := by
  unfold published
  rw [factory_new last]
  exact valid.unbound ⟨world.registryCount⟩ cls (Nat.le_refl _)

/-- A factory that was not there before is at rest, and has no layout classes. -/
theorem factory_young (valid : world.Valid) (free : factory.lock = .free)
    (workshop : factory.workshop = {}) (layouts : factory.layouts = [])
    (young : ¬ other.index < world.factoryCount) :
    ((world.addingFactory factory).factory other).lock = .free ∧
      ((world.addingFactory factory).factory other).workshop = {} ∧
        ((world.addingFactory factory).factory other).layouts = [] := by
  show (ite _ _ _ : Factory).lock = _ ∧ (ite _ _ _ : Factory).workshop = _ ∧
    (ite _ _ _ : Factory).layouts = _
  split
  · exact ⟨free, workshop, layouts⟩
  · rw [valid.unfounded other (Nat.le_of_not_lt young)]
    exact ⟨rfl, rfl, rfl⟩

/-- A factory that is locked exists. -/
theorem founded_of_locked (valid : world.Valid) (taken : (world.factory other).lock ≠ .free) :
    other.index < world.factoryCount := by
  refine Nat.lt_of_not_le fun beyond => taken ?_
  rw [valid.unfounded other beyond]
  rfl

/-- Nothing is lost when a factory is added. -/
theorem grows_addingFactory (world : World) (factory : Factory) :
    Grows world (world.addingFactory factory) :=
  { world.grows_addingRegistry (.factory ⟨world.factoryCount⟩) with
    factories := Nat.le_succ _
    wiring := fun _ old => congrArg Factory.registry (factory_old old)
    layouts := by
      intro other old
      rw [factory_old old]
      exact List.Subset.refl _ }

/-- A world is valid after a factory was added that is at rest. -/
theorem Valid.addingFactory (valid : world.Valid) (free : factory.lock = .free)
    (workshop : factory.workshop = {}) (layouts : factory.layouts = [])
    (roots : world.types.MadeOver factory.objectType [] ∧
      world.types.MadeOver factory.typeType [factory.objectType]) :
    (world.addingFactory factory).Valid := by
  have grows := world.grows_addingFactory factory
  have registered := valid.addingRegistry (.factory ⟨world.factoryCount⟩)
  exact {
    builtins := fun cls builtin => grows.opens valid (valid.builtins cls builtin)
    superclasses := fun cls super chosen => grows.opens valid (valid.superclasses cls super chosen)
    lawful := valid.lawful
    shared := valid.shared
    unshared := valid.unshared
    primaries := fun type simple => grows.opens valid (valid.primaries type simple)
    objects := fun object => grows.opens valid (valid.objects object)
    bound := fun registry cls bound => grows.opens valid (valid.bound registry cls bound)
    unbound := registered.unbound
    unfounded := by
      intro other beyond
      have beyond : world.factoryCount + 1 ≤ other.index := beyond
      exact (if_neg (by omega)).trans (valid.unfounded other (by omega))
    served := fun record member => grows.served valid (valid.served record member)
    derived := grows.derivations valid rfl
    pasts := valid.pasts
    founded := by
      intro other founded
      rcases Nat.lt_succ_iff_lt_or_eq.mp founded with old | last
      · rw [factory_old old]
        exact registered.founded other old
      · rw [factory_new last]
        refine ⟨Nat.lt_succ_self _, (if_pos rfl).trans ?_⟩
        rw [← last]
    roots := by
      intro other founded
      rcases Nat.lt_succ_iff_lt_or_eq.mp founded with old | last
      · rw [factory_old old]
        exact valid.roots other old
      · rw [factory_new last]
        exact roots
    resting := by
      intro other unlocked
      by_cases old : other.index < world.factoryCount
      · rw [factory_old old] at unlocked ⊢
        obtain ⟨empty, backed⟩ := valid.resting other unlocked
        exact ⟨empty, fun entry member => grows.backed old (backed entry member)⟩
      · obtain ⟨-, empty, none⟩ := factory_young valid free workshop layouts old
        refine ⟨empty, fun entry member => ?_⟩
        rw [none] at member
        cases member
    governed := by
      intro other founded sealed
      rcases Nat.lt_succ_iff_lt_or_eq.mp founded with old | last
      · rw [published_old old]
        exact grows.governed (fun cls bound => (valid.bound _ cls bound).1)
          (valid.governed other old (grows.sealed old sealed))
      · intro cls rep bound
        cases (published_new valid last cls).symm.trans bound
    makers := by
      intro cls other call is
      obtain ⟨declared, founded, made⟩ := valid.makers cls other call is
      exact ⟨declared, Nat.lt_succ_of_lt founded, made⟩
    equipped := valid.equipped
    shapes := by
      intro other
      by_cases old : other.index < world.factoryCount
      · rw [factory_old old]
        exact valid.shapes other
      · rw [(factory_young valid free workshop layouts old).2.2]
        exact List.nodup_nil
    layouts := by
      intro other entry member
      by_cases old : other.index < world.factoryCount
      · rw [factory_old old] at member
        exact valid.layouts other entry member
      · rw [(factory_young valid free workshop layouts old).2.2] at member
        cases member }

/-- A thread may add a factory that is at rest. -/
theorem Valid.addFactory (valid : world.Valid) (free : factory.lock = .free)
    (workshop : factory.workshop = {}) (layouts : factory.layouts = [])
    (roots : world.types.MadeOver factory.objectType [] ∧
      world.types.MadeOver factory.typeType [factory.objectType]) :
    Allows thread world (world.addingFactory factory) := by
  refine ⟨valid.addingFactory free workshop layouts roots, { Moves.refl thread world with
    toGrows := world.grows_addingFactory factory, locked := ?_, unlocked := ?_, kept := ?_
    concluded := concluded_of_same rfl }⟩
  · rintro other holder - ⟨again, taken⟩
    exact factory_old (founded_of_locked valid (by rw [taken]; nofun))
  · rintro other holder - ⟨again, taken⟩
    by_cases old : other.index < world.factoryCount
    · rw [factory_old old] at taken
      exact ⟨again, taken⟩
    · rw [(factory_young valid free workshop layouts old).1] at taken
      cases taken
  · exact fun other complete _ _ => published_old complete.1

end AddingFactory

/-- The world after a change of one factory. -/
def changingFactory (world : World) (factory : FactoryId) (next : Factory) : World :=
  { world with factory := fun other => if other = factory then next else world.factory other }

/-- What a thread may make of a factory that no other thread holds. -/
structure Remakes (world : World) (thread : ThreadId) (factory : FactoryId) (next : Factory) :
    Prop where
  founded : factory.index < world.factoryCount
  registry : next.registry = (world.factory factory).registry
  root : next.objectType = (world.factory factory).objectType
  twin : next.typeType = (world.factory factory).typeType
  mine : forall other, other ≠ thread -> ¬ world.Holds other factory
  stillMine : forall other again, next.lock = .held other again -> other = thread
  kept : (world.factory factory).layouts ⊆ next.layouts
  shapes : (next.layouts.map (·.1)).Nodup
  layouts : forall entry, entry ∈ next.layouts -> entry ∈ (world.factory factory).layouts ∨
    (exists call, world.maker entry.2 = some (factory, call)) ∧
      world.hierarchy.Realises entry.2 entry.1
  resting : next.lock = .free -> next.workshop = {} ∧
    forall entry, entry ∈ next.layouts -> world.Backed factory entry.2

section ChangingFactory

variable {factory other : FactoryId} {next : Factory}

/-- The factory is what it was made. -/
theorem factory_own : (world.changingFactory factory next).factory factory = next := if_pos rfl

/-- The other factories are as they were. -/
theorem factory_other (different : other ≠ factory) :
    (world.changingFactory factory next).factory other = world.factory other := if_neg different

namespace Remakes

/-- No factory is moved to another registry. -/
theorem wiring (remakes : world.Remakes thread factory next) (other : FactoryId) :
    ((world.changingFactory factory next).factory other).registry =
      (world.factory other).registry := by
  by_cases same : other = factory
  · rw [same, factory_own]
    exact remakes.registry
  · rw [factory_other same]

/-- Nothing is published by a change of a factory alone. -/
theorem published (remakes : world.Remakes thread factory next) (other : FactoryId) :
    (world.changingFactory factory next).published other = world.published other := by
  unfold World.published
  rw [remakes.wiring other]
  rfl

/-- Nothing is lost when a factory is changed. -/
theorem grows (remakes : world.Remakes thread factory next) :
    Grows world (world.changingFactory factory next) :=
  { Grows.refl world with
    wiring := fun other _ => remakes.wiring other
    layouts := by
      intro other _
      by_cases same : other = factory
      · rw [same, factory_own]
        exact remakes.kept
      · rw [factory_other same]
        exact List.Subset.refl _ }

/-- A world is valid after a change of a factory. -/
theorem valid (remakes : world.Remakes thread factory next) (valid : world.Valid) :
    (world.changingFactory factory next).Valid := by
  have grows := remakes.grows
  exact {
    builtins := fun cls builtin => grows.opens valid (valid.builtins cls builtin)
    superclasses := fun cls super chosen => grows.opens valid (valid.superclasses cls super chosen)
    lawful := valid.lawful
    shared := valid.shared
    unshared := valid.unshared
    primaries := fun type simple => grows.opens valid (valid.primaries type simple)
    objects := fun object => grows.opens valid (valid.objects object)
    bound := fun registry cls bound => grows.opens valid (valid.bound registry cls bound)
    unbound := valid.unbound
    unfounded := by
      intro other beyond
      have beyond : world.factoryCount ≤ other.index := beyond
      refine (factory_other ?_).trans (valid.unfounded other beyond)
      rintro rfl
      exact Nat.not_lt_of_le beyond remakes.founded
    served := fun record member => grows.served valid (valid.served record member)
    derived := grows.derivations valid rfl
    pasts := valid.pasts
    founded := by
      intro other founded
      rw [remakes.wiring other]
      exact valid.founded other founded
    roots := by
      intro other founded
      by_cases same : other = factory
      · subst same
        rw [factory_own, remakes.root, remakes.twin]
        exact valid.roots other founded
      · rw [factory_other same]
        exact valid.roots other founded
    resting := by
      intro other free
      by_cases same : other = factory
      · subst same
        rw [factory_own] at free ⊢
        obtain ⟨empty, backed⟩ := remakes.resting free
        exact ⟨empty, fun entry member => grows.backed remakes.founded (backed entry member)⟩
      · rw [factory_other same] at free ⊢
        obtain ⟨empty, backed⟩ := valid.resting other free
        exact ⟨empty, fun entry member =>
          grows.backed (valid.founded_of_layout member) (backed entry member)⟩
    governed := by
      intro other founded sealed
      rw [remakes.published other]
      exact grows.governed (fun cls bound => (valid.bound _ cls bound).1)
        (valid.governed other founded (grows.sealed founded sealed))
    makers := valid.makers
    equipped := valid.equipped
    shapes := by
      intro other
      by_cases same : other = factory
      · rw [same, factory_own]
        exact remakes.shapes
      · rw [factory_other same]
        exact valid.shapes other
    layouts := by
      intro other entry member
      by_cases same : other = factory
      · subst same
        rw [factory_own] at member
        rcases remakes.layouts entry member with was | fresh
        · exact valid.layouts other entry was
        · exact fresh
      · rw [factory_other same] at member
        exact valid.layouts other entry member }

end Remakes

/-- A thread may change a factory that no other one holds. -/
theorem Valid.changeFactory (valid : world.Valid) (remakes : world.Remakes thread factory next) :
    Allows thread world (world.changingFactory factory next) := by
  refine ⟨remakes.valid valid, { Moves.refl thread world with
    toGrows := remakes.grows, locked := ?_, unlocked := ?_, kept := ?_
    concluded := concluded_of_same rfl }⟩
  · intro other holder different holds
    apply factory_other
    rintro rfl
    exact remakes.mine holder different holds
  · rintro other holder different ⟨again, taken⟩
    by_cases same : other = factory
    · rw [same, factory_own] at taken
      exact absurd (remakes.stillMine holder again taken) different
    · rw [factory_other same] at taken
      exact ⟨again, taken⟩
  · exact fun other _ _ _ => remakes.published other

end ChangingFactory

/-! ## Bindings -/

/-- The world after a change of the bindings of one registry. -/
def changingBindings (world : World) (registry : RegistryId)
    (next : ClassId -> Option Representation) : World :=
  { world with
    bindings := fun other => if other = registry then next else world.bindings other }

/-- What a thread may bind in a registry. -/
structure Binds (world : World) (thread : ThreadId) (registry : RegistryId)
    (next : ClassId -> Option Representation) : Prop where
  made : registry.index < world.registryCount
  kept : forall cls rep, world.bindings registry cls = some rep -> next cls = some rep
  opened : forall cls, world.bindings registry cls = none -> (next cls).isSome ->
    world.Open cls ∨ exists factory call, world.maker cls = some (factory, call) ∧
      world.Holds thread factory ∧ registry = (world.factory factory).registry
  confirmed : forall cls rep, world.bindings registry cls = none -> next cls = some rep ->
    world.Written registry ∨ world.Confirms registry cls rep
  governed : forall factory, factory.index < world.factoryCount ->
    (world.factory factory).registry = registry -> world.Sealed factory -> world.Governed next
  unchanged : forall factory, world.Complete factory ->
    (world.factory factory).registry = registry -> world.Sealed factory ->
      ¬ world.Holds thread factory -> next = world.bindings registry

section ChangingBindings

variable {registry other : RegistryId} {factory : FactoryId} {cls : ClassId}
  {next : ClassId -> Option Representation}

/-- The registry has the new bindings. -/
theorem bindings_own : (world.changingBindings registry next).bindings registry = next := if_pos rfl

/-- The other registries have those they had. -/
theorem bindings_other (different : other ≠ registry) :
    (world.changingBindings registry next).bindings other = world.bindings other := if_neg different

/-- A factory has published what its registry binds. -/
theorem published_own (own : (world.factory factory).registry = registry) :
    (world.changingBindings registry next).published factory = next :=
  if_pos own

/-- The other factories have published what they had. -/
theorem published_other (different : (world.factory factory).registry ≠ registry) :
    (world.changingBindings registry next).published factory = world.published factory :=
  if_neg different

namespace Binds

/-- Nothing is lost when classes are bound. -/
theorem grows (binds : world.Binds thread registry next) :
    Grows world (world.changingBindings registry next) :=
  { Grows.refl world with
    bindings := by
      intro other cls rep bound
      by_cases same : other = registry
      · subst same
        rw [bindings_own]
        exact binds.kept cls rep bound
      · rw [bindings_other same]
        exact bound }

/-- What is bound may be named by everybody afterwards. -/
theorem opens (binds : world.Binds thread registry next) (valid : world.Valid)
    (bound : (next cls).isSome) : (world.changingBindings registry next).Open cls := by
  cases before : world.bindings registry cls with
  | some rep => exact binds.grows.opens valid (valid.bound registry cls (by rw [before]; rfl))
  | none =>
      rcases binds.opened cls before bound with opened | ⟨factory, call, is, -, used⟩
      · exact binds.grows.opens valid opened
      · refine ⟨(valid.makers cls factory call is).1, fun maker number made => ?_⟩
        cases is.symm.trans made
        rw [published_own used.symm]
        exact bound

/-- A world is valid after classes were bound. -/
theorem valid (binds : world.Binds thread registry next) (valid : world.Valid) :
    (world.changingBindings registry next).Valid := by
  have grows := binds.grows
  exact {
    builtins := fun cls builtin => grows.opens valid (valid.builtins cls builtin)
    superclasses := fun cls super chosen => grows.opens valid (valid.superclasses cls super chosen)
    lawful := valid.lawful
    shared := valid.shared
    unshared := valid.unshared
    primaries := fun type simple => grows.opens valid (valid.primaries type simple)
    objects := fun object => grows.opens valid (valid.objects object)
    bound := by
      intro other cls bound
      by_cases same : other = registry
      · subst same
        rw [bindings_own] at bound
        exact binds.opens valid bound
      · rw [bindings_other same] at bound
        exact grows.opens valid (valid.bound other cls bound)
    unbound := by
      intro other cls beyond
      have beyond : world.registryCount ≤ other.index := beyond
      rw [bindings_other (by rintro rfl; exact Nat.not_lt_of_le beyond binds.made)]
      exact valid.unbound other cls beyond
    unfounded := valid.unfounded
    served := fun record member => grows.served valid (valid.served record member)
    derived := grows.derivations valid rfl
    pasts := valid.pasts
    founded := valid.founded
    roots := valid.roots
    resting := by
      intro factory free
      obtain ⟨empty, backed⟩ := valid.resting factory free
      exact ⟨empty, fun entry member =>
        grows.backed (valid.founded_of_layout member) (backed entry member)⟩
    governed := by
      intro factory founded sealed
      by_cases same : (world.factory factory).registry = registry
      · rw [published_own same]
        exact binds.governed factory founded same sealed
      · rw [published_other same]
        exact valid.governed factory founded sealed
    makers := valid.makers
    equipped := valid.equipped
    shapes := valid.shapes
    layouts := valid.layouts }

end Binds

/-- A thread may bind what it has made. -/
theorem Valid.changeBindings (valid : world.Valid) (binds : world.Binds thread registry next) :
    Allows thread world (world.changingBindings registry next) := by
  refine ⟨binds.valid valid, { Moves.refl thread world with
    toGrows := binds.grows, opened := ?_, confirmed := ?_, kept := ?_ }⟩
  · intro other cls before bound
    by_cases same : other = registry
    · subst same
      rw [bindings_own] at bound
      exact binds.opened cls before bound
    · rw [bindings_other same, before] at bound
      cases bound
  · intro other cls rep before bound
    by_cases same : other = registry
    · subst same
      rw [bindings_own] at bound
      exact ⟨binds.made, binds.confirmed cls rep before bound⟩
    · rw [bindings_other same, before] at bound
      cases bound
  · intro factory complete sealed free
    by_cases same : (world.factory factory).registry = registry
    · rw [published_own same, binds.unchanged factory complete same sealed free, ← same]
      rfl
    · exact published_other same

end ChangingBindings

/-! ## The history -/

/-- The world after a thread began a call. -/
def beginning (world : World) (thread : ThreadId) (call : Call) : World :=
  { world with
    calls := world.calls ++ [{ call }]
    caller := fun number =>
      if number = world.calls.length then some thread else world.caller number
    past := fun number =>
      if number = world.calls.length then world.calls else world.past number }

/-- Nothing is asked of a call without an answer. -/
theorem served_unanswered (world : World) (call : Call) : world.Served { call } := by
  cases call with
  | makeRegistry escalation => cases escalation <;> trivial
  | _ => trivial

/-- Nothing was derived by a call without an answer. -/
theorem derived_unanswered (world : World) (number : Nat) (call : Call) :
    world.Derived number { call } := by
  cases call <;> trivial

/-- Nothing is lost when a call begins. -/
theorem grows_beginning (world : World) (thread : ThreadId) (call : Call) :
    Grows world (world.beginning thread call) :=
  { Grows.refl world with
    calls := by
      intro number record found
      refine ⟨record, ?_, rfl, fun _ => rfl⟩
      exact (List.getElem?_append_left (List.getElem?_eq_some_iff.mp found).1).trans found
    callers := fun number below => if_neg (Nat.ne_of_lt below)
    pasts := fun number below => if_neg (Nat.ne_of_lt below)
    begun := by
      intro number record beyond below member _
      have last : number = world.calls.length := by
        have below : number < (world.calls ++ [({ call } : CallRecord)]).length := below
        rw [List.length_append, List.length_singleton] at below
        omega
      have past : (world.beginning thread call).past number = world.calls := if_pos last
      rw [past]
      exact member }

/-- Host code may begin a call. -/
theorem Valid.begin (valid : world.Valid) (call : Call) :
    Allows thread world (world.beginning thread call) := by
  have grows := world.grows_beginning thread call
  have recent : forall (number : Nat) (record : CallRecord),
      (world.calls ++ [({ call } : CallRecord)])[number]? = some record ->
        world.calls[number]? = some record ∨ record = { call } := by
    intro number record found
    rw [List.getElem?_append] at found
    split at found
    · exact .inl found
    · exact .inr (List.mem_singleton.mp (List.mem_of_getElem? found))
  refine ⟨{ valid with
    served := ?_, derived := ?_, pasts := ?_, governed := ?_, makers := ?_ },
    { Moves.refl thread world with
      toGrows := grows, kept := fun _ _ _ _ => rfl, answered := ?_, concluded := ?_ }⟩
  · intro record member
    rcases List.mem_append.mp member with old | new
    · exact grows.served valid (valid.served record old)
    · obtain rfl := List.mem_singleton.mp new
      exact served_unanswered _ call
  · intro number record found
    rcases recent number record found with old | rfl
    · exact grows.derived (valid.served record (List.mem_of_getElem? old))
        (valid.derived number record old)
    · exact derived_unanswered _ number call
  · intro number record member answered
    apply List.mem_append_left
    change record ∈ (if number = world.calls.length then world.calls else world.past number)
      at member
    split at member
    · exact member
    · exact valid.pasts number record member answered
  · exact fun factory founded sealed => valid.governed factory founded (grows.sealed founded sealed)
  · intro cls factory number is
    obtain ⟨declared, founded, record, found, madeBy⟩ := valid.makers cls factory number is
    exact ⟨declared, founded, record,
      (List.getElem?_append_left (List.getElem?_eq_some_iff.mp found).1).trans found, madeBy⟩
  · intro number record found _
    exact (List.getElem?_append_left (List.getElem?_eq_some_iff.mp found).1).trans found
  · intro number record later found still unanswered answered
    rcases recent number later still with old | rfl
    · cases found.symm.trans old
      rw [unanswered] at answered
      cases answered
    · cases answered

/-- The thread is in a call, which is not answered yet. -/
structure Calling (world : World) (thread : ThreadId) (number : Nat) (call : Call) : Prop where
  asked : world.calls[number]? = some { call }
  caller : world.caller number = some thread

/-- A thread without locks may answer its call with what was served. -/
theorem Valid.finish (valid : world.Valid) {number : Nat} {call : Call}
    {answer : Except Fault call.Answer} (idle : world.Idle thread)
    (calling : world.Calling thread number call)
    (served : world.Served { call, answer := some answer })
    (derived : world.Derived number { call, answer := some answer })
    (made : forall cls factory, world.maker cls = some (factory, number) ->
      world.MadeBy factory cls { call, answer := some answer }) :
    Allows thread world { world with
      calls := world.calls.set number { call, answer := some answer } } := by
  obtain ⟨asked, own⟩ := calling
  have below : number < world.calls.length := (List.getElem?_eq_some_iff.mp asked).1
  have here : (world.calls.set number { call, answer := some answer })[number]? =
      some { call, answer := some answer } := by
    simp [below]
  have elsewhere : forall other : Nat, other ≠ number ->
      (world.calls.set number { call, answer := some answer })[other]? = world.calls[other]? :=
    fun other different => List.getElem?_set_ne different.symm
  have grows : Grows world { world with
      calls := world.calls.set number { call, answer := some answer } } :=
    { Grows.refl world with
      calls := by
        intro other record found
        by_cases same : other = number
        · subst same
          obtain rfl := Option.some.inj (asked.symm.trans found)
          exact ⟨_, here, rfl, fun answered => nomatch answered⟩
        · exact ⟨record, (elsewhere other same).trans found, rfl, fun _ => rfl⟩
      begun := by
        intro other record beyond below
        rw [List.length_set] at below
        exact absurd below (Nat.not_lt_of_le beyond) }
  refine ⟨{ valid with
    served := ?_, derived := ?_, pasts := ?_, governed := ?_, makers := ?_ },
    { Moves.refl thread world with
      toGrows := grows, kept := fun _ _ _ _ => rfl, answered := ?_
      concluded := fun _ _ _ _ _ _ _ => idle }⟩
  · intro record member
    rcases List.mem_or_eq_of_mem_set member with old | rfl
    · exact grows.served valid (valid.served record old)
    · exact grows.served valid served
  · intro other record found
    by_cases same : other = number
    · subst same
      cases here.symm.trans found
      exact grows.derived served derived
    · have found := (elsewhere other same).symm.trans found
      exact grows.derived (valid.served record (List.mem_of_getElem? found))
        (valid.derived other record found)
  · intro other record member answered
    obtain ⟨position, found⟩ := List.mem_iff_getElem?.mp (valid.pasts other record member answered)
    refine List.mem_of_getElem? ((elsewhere position ?_).trans found)
    rintro rfl
    cases asked.symm.trans found
    cases answered
  · exact fun factory founded sealed => valid.governed factory founded (grows.sealed founded sealed)
  · intro cls factory other is
    obtain ⟨declared, founded, record, found, madeBy⟩ := valid.makers cls factory other is
    by_cases same : other = number
    · subst same
      exact ⟨declared, founded, _, here, made cls factory is⟩
    · exact ⟨declared, founded, record, (elsewhere other same).trans found, madeBy⟩
  · intro other record found foreign
    refine (elsewhere other ?_).trans found
    rintro rfl
    exact foreign own

end World

end GuestTypes
