import GuestTypes.Proofs.Preparation

/-!
# Making types

The part of a creation that is done under the lock: the type is made, and its bindings are
prepared. Work on a layout class is assured: it is refused by nothing, and the type that it
makes has the layout class as its primary one.
-/

namespace GuestTypes

namespace World

variable {world : World} {thread : ThreadId} {factory : FactoryId} {cls primary : ClassId}

/-- The row of a type does not change. -/
theorem persistent_hasRow (type : TypeId) (primary : ClassId) (others : List ClassId)
    (kind : TypeKind) : Persistent (HasRow · type primary others kind) :=
  fun _ _ _ grows row => grows.hasRow row

/-- A type that is added has the row that it was made with. -/
theorem hasRow_add (world : World) (row : GuestType) :
    ({ world with types := (world.types.add row).2 } : World).HasRow (world.types.add row).1
      row.primary row.others row.kind := by
  have added := TypeTable.row_add world.types row ⟨world.types.types.size⟩
  rw [if_pos rfl] at added
  exact ⟨world.types.made_add row, (congrArg GuestType.primary added).trans rfl,
    (congrArg GuestType.others added).trans rfl, (congrArg GuestType.kind added).trans rfl⟩

/-- A type is a representation made for its primary class. -/
theorem HasRow.canonical {type : TypeId} {others : List ClassId} {kind : TypeKind}
    (row : world.HasRow type primary others kind) : world.Hosts primary (.canonical type) :=
  ⟨row.made, row.primary, rfl⟩

/-- The adopted classes of a type have representations of their own. -/
theorem HasRow.adopted {type : TypeId} {adopted accepted : List ClassId} {place : Nat}
    (row : world.HasRow type primary (adopted ++ accepted) (.adoptive adopted.length))
    (found : adopted[place]? = some cls) : world.Hosts cls (.adopted type (place + 1)) where
  made := row.made
  host := by
    have within := (List.getElem?_eq_some_iff.mp found).1
    unfold TypeTable.hostClass GuestType.selfClasses
    dsimp only
    rw [row.others, List.getElem?_cons_succ, List.getElem?_append_left within, found]
    rfl
  bound := by
    have within := (List.getElem?_eq_some_iff.mp found).1
    unfold TypeTable.isAccepted GuestType.adoptedCount
    dsimp only
    rw [row.kind]
    exact decide_eq_false (Nat.not_lt.mpr within)

/-- The shared representation was made for the class. -/
structure Shares (world : World) (shared : SharedId) (cls : ClassId) : Prop where
  made : world.types.MadeShared shared
  host : (world.types.sharedRow shared).hostClass = cls

/-- A representation that is made for a class goes on to be shared with it. -/
theorem persistent_shares (shared : SharedId) (cls : ClassId) :
    Persistent (Shares · shared cls) := by
  rintro before after - grows ⟨made, host⟩
  exact ⟨grows.types.madeShared made, by rw [grows.types.sharedRow shared made]; exact host⟩

/-- A class hosts the representation that it shares. -/
theorem Shares.hosts {shared : SharedId} (shares : world.Shares shared cls) :
    world.Hosts cls (.shared shared) := ⟨shares.made, shares.host, rfl⟩

/-- The class is a layout class on which work is assured: it is bound to a shared
representation of its own, or a secret for which nothing was prepared. -/
def Assures (world : World) (factory : FactoryId) (cls : ClassId) : Prop :=
  world.Backed factory cls ∨
    world.Secret factory cls ∧ (world.factory factory).workshop.prepared cls = none

/-- A layout class that is bound is so for good. -/
theorem steady_backed : Steady thread factory (Backed · factory cls) :=
  fun _ _ _ complete spares backed => spares.backed complete.1 backed

/-- Assured work stays assured. -/
theorem steady_assures : Steady thread factory (Assures · factory cls) :=
  steady_backed.or (steady_secret.and
    (steady_factory fun current => current.workshop.prepared cls = none))

/-- Nothing but its own shared representation is promised to a layout class that is bound. -/
theorem Working.backed {again depth : Nat} {fresh : Option ClassId} {assured : Prop}
    {rep : Representation} (working : world.Working thread factory again depth fresh assured)
    (known : assured) (backed : world.Backed factory cls)
    (promised : world.Promised factory cls rep) :
    exists shared, rep = .shared shared ∧ world.Shares shared cls := by
  obtain ⟨shared, bound, made, host⟩ := backed
  rcases promised with published | prepared
  · cases bound.symm.trans published
    exact ⟨shared, rfl, made, host⟩
  · cases bound.symm.trans (working.secret known _ prepared).1

/-- Classes at their places may be given the adopted representations of a type. -/
def OffersEach (world : World) (factory : FactoryId) (owner : TypeId)
    (entries : List (ClassId × Nat)) : Prop :=
  forall entry, entry ∈ entries ->
    world.Namable factory entry.1 ∧ world.Hosts entry.1 (.adopted owner entry.2)

/-- What is offered to classes is offered for good. -/
theorem persistent_offersEach (factory : FactoryId) (owner : TypeId)
    (entries : List (ClassId × Nat)) : Persistent (OffersEach · factory owner entries) :=
  fun _ _ valid grows offers entry member => ⟨grows.namable valid (offers entry member).1,
    persistent_hosts _ _ valid grows (offers entry member).2⟩

/-- The adopted representations of a type are promised to the classes at their places. -/
def PromisesEach (world : World) (factory : FactoryId) (owner : TypeId)
    (entries : List (ClassId × Nat)) : Prop :=
  forall entry, entry ∈ entries -> world.Promised factory entry.1 (.adopted owner entry.2)

/-- What is promised to classes is kept. -/
theorem steady_promisesEach (owner : TypeId) (entries : List (ClassId × Nat)) :
    Steady thread factory (PromisesEach · factory owner entries) :=
  fun _ _ valid complete spares promises entry member =>
    steady_promised valid complete spares (promises entry member)

/-- It survives that other bindings are prepared. -/
theorem outlasts_promisesEach {owner : TypeId} {entries : List (ClassId × Nat)} :
    Outlasts factory cls rep (PromisesEach · factory owner entries) :=
  Outlasts.forall fun _ => outlasts_promised.imp

/-- Assured work on a class that is not bound is on a secret. -/
theorem Assures.secret (assures : world.Assures factory cls)
    (unbound : world.published factory cls = none) : world.Secret factory cls := by
  rcases assures with ⟨shared, bound, -⟩ | ⟨secret, -⟩
  · cases unbound.symm.trans bound
  · exact secret

/-- Only its own shared representation is promised to a class on which work is assured. -/
theorem Assures.shared {again depth : Nat} {fresh : Option ClassId} {assured : Prop}
    {rep : Representation} (assures : world.Assures factory cls)
    (working : world.Working thread factory again depth fresh assured) (known : assured)
    (promised : world.Promised factory cls rep) :
    exists shared, rep = .shared shared ∧ world.Shares shared cls := by
  rcases assures with backed | ⟨secret, unprepared⟩
  · exact working.backed known backed promised
  · exact absurd promised (secret.unpromised unprepared)

end World

open World

variable {σ α : Type} {thread : ThreadId} {call : Option Nat} {factory : FactoryId}
  {again depth : Nat} {fresh : Option ClassId} {assured : Prop} {cls : ClassId}
  {rep : Representation} {known : World -> Prop} {fails : Fault -> World -> Prop}

namespace Serves

/-- A type is made. Unless it shares its representation, everybody may name its primary class. -/
theorem addRow {row : GuestType} (steady : Steady thread factory known)
    (opened : forall world, known world -> row.sharedRepresentation = none ->
      world.Open row.primary) :
    Serves (σ := σ) thread call
      (fun world => world.Working thread factory again depth fresh assured ∧ known world)
      (Request.perform (.addType row))
      (fun type world => world.Working thread factory again depth fresh assured ∧
        known world ∧ world.HasRow type row.primary row.others row.kind) fails := by
  apply sparing steady (fun type => (persistent_hasRow type _ _ _).steady)
  intro now type store valid working holds performed
  cases performed
  have allowed : Allows thread now.world _ := valid.addType (opened now.world holds)
  exact ⟨allowed, allowed.moves.toGrows.spares rfl rfl, now.world.hasRow_add row⟩

/-- A type is added, and its row is known from then on. -/
theorem addType {wanted : TypeDescription} {primary : ClassId} {others : List ClassId}
    {kind : TypeKind} (steady : Steady thread factory known)
    (opened : forall world, known world ->
      (exists shared, kind = .replaceable shared) ∨ world.Open primary) :
    Serves (σ := σ) thread call
      (fun world => world.Working thread factory again depth fresh assured ∧ known world)
      (factory.addType wanted primary others kind)
      (fun type world => world.Working thread factory again depth fresh assured ∧
        known world ∧ world.HasRow type primary others kind) fails := by
  apply bind (glance steady.lasting)
  intro root
  apply bind (glance steady.lasting)
  intro kernel
  apply addRow steady
  intro world holds simple
  rcases opened world holds with ⟨shared, rfl⟩ | opened
  · cases simple
  · exact opened

/-- A shared representation is made anew for a class that the holder of the lock may name. -/
theorem addShared {canonicalClass : Option ClassId} (steady : Steady thread factory known)
    (declared : forall world, known world -> world.hierarchy.Declared cls ∧
      canonicalClass = world.hierarchy.superclass cls) :
    Serves (σ := σ) thread call
      (fun world => world.Working thread factory again depth fresh assured ∧ known world)
      (Request.perform (.addShared { hostClass := cls, canonicalClass }))
      (fun shared world => world.Working thread factory again depth fresh assured ∧
        known world ∧ world.Shares shared cls) fails := by
  apply sparing steady (fun shared => (persistent_shares shared cls).steady)
  intro now shared store valid working holds performed
  cases performed
  obtain ⟨existing, rfl⟩ := declared now.world holds
  have allowed : Allows thread now.world _ := valid.addShared existing
  refine ⟨allowed, allowed.moves.toGrows.spares rfl rfl,
    TypeTable.madeShared_addShared now.world.types _, ?_⟩
  exact (congrArg SharedRepresentation.hostClass
    (TypeTable.sharedRow_addShared now.world.types _ _)).trans
    (congrArg SharedRepresentation.hostClass (if_pos rfl))

/-- A class without a representation gets a shared one of its own. -/
theorem shareNew :
    Serves (σ := σ) thread call
      (fun world => world.Working thread factory again depth fresh assured ∧
        world.Namable factory cls ∧ Found factory cls none world ∧
          (assured -> world.Secret factory cls))
      (do
        let canonicalClass <- Request.observe (·.hierarchy.superclass cls)
        let shared <- Request.perform (.addShared { hostClass := cls, canonicalClass })
        factory.prepare cls (.shared shared)
        return shared)
      (fun shared world => world.Working thread factory again depth fresh assured ∧
        (assured -> world.Shares shared cls) ∧ world.Promised factory cls (.shared shared))
      (fun _ world => world.Working thread factory again depth fresh assured ∧ ¬ assured) := by
  have steady : Steady thread factory fun world => world.Namable factory cls ∧
      Found factory cls none world ∧ (assured -> world.Secret factory cls) :=
    (persistent_namable _ _).steady.and ((steady_found none).and steady_secret.imp)
  have steadyChosen : forall super, Steady thread factory fun world =>
      world.hierarchy.Declared cls ∧ super = world.hierarchy.superclass cls := by
    rintro super before after - - spares ⟨declared, rfl⟩
    exact ⟨spares.hierarchy.declared declared, (spares.hierarchy.superclass declared).symm⟩
  have shares := fun shared => persistent_shares shared cls
  -- The superclass that was read stays the one of the class.
  refine via (fun super world => world.Working thread factory again depth fresh assured ∧
    (world.Namable factory cls ∧ Found factory cls none world ∧
      (assured -> world.Secret factory cls)) ∧
    world.hierarchy.Declared cls ∧ super = world.hierarchy.superclass cls) ?_ fun super => ?_
  · refine observe steady.lasting (fun super => (steady.and (steadyChosen super)).lasting) ?_
    exact fun now valid ⟨working, holds⟩ => ⟨working, holds, holds.1.declared valid, rfl⟩
  refine bind (addShared (steady.and (steadyChosen super)) fun world holds => holds.2)
    fun shared => ?_
  refine bind ((prepare again depth fresh assured cls (.shared shared) (shares shared).steady
    (shares shared).outlasts).weaken ?_ (fun _ _ _ holds => holds)
    (fun _ _ _ failed => ⟨failed.1, failed.2.1⟩)) fun _ => ?_
  · rintro world - ⟨working, ⟨⟨namable, missing, secret⟩, -⟩, shares⟩
    exact ⟨working, ⟨namable, .inl shares.hosts, secret⟩, fun _ => missing.2, shares⟩
  · refine pure ((shares shared).steady.imp.and steady_promised).lasting ?_
    exact fun world _ ⟨working, ⟨promised, _⟩, shares⟩ => ⟨working, fun _ => shares, promised⟩

/-- The shared representation of a class. Work that is assured finds no other one. -/
theorem shareClass {wanted : TypeDescription} :
    Serves (σ := σ) thread call
      (fun world => world.Working thread factory again depth fresh assured ∧
        world.Namable factory wanted.primary ∧ (assured -> world.Assures factory wanted.primary))
      (factory.shareClass wanted)
      (fun shared world => world.Working thread factory again depth fresh assured ∧
        (assured -> world.Shares shared wanted.primary) ∧
          world.Promised factory wanted.primary (.shared shared))
      (fun _ world => world.Working thread factory again depth fresh assured ∧ ¬ assured) := by
  have steady : Steady thread factory fun world => world.Namable factory wanted.primary ∧
      (assured -> world.Assures factory wanted.primary) :=
    (persistent_namable _ _).steady.and steady_assures.imp
  refine bind (foundOr steady steady_secret.imp fun _ _ holds unbound known =>
    (holds.2 known).secret unbound) fun found => ?_
  match found with
  | none =>
      exact shareNew.given fun world _ ⟨working, ⟨namable, _⟩, missing, secret⟩ =>
        ⟨working, namable, missing, secret rfl⟩
  | some (.shared shared) =>
      refine pure ((persistent_shares shared wanted.primary).steady.imp.and
        steady_promised).lasting ?_
      rintro world - ⟨working, ⟨-, assures⟩, ⟨promised, -⟩, -⟩
      refine ⟨working, fun known => ?_, promised⟩
      obtain ⟨other, ⟨⟩, shares⟩ := (assures known).shared working known promised
      exact shares
  | some (.canonical _) | some (.adopted _ _) =>
      refine (clash (fun world =>
        world.Working thread factory again depth fresh assured ∧ ¬ assured)
        (Persistent.const _).steady.lasting).given ?_
      rintro world - ⟨working, ⟨-, assures⟩, ⟨promised, -⟩, -⟩
      refine ⟨working, fun known => ?_⟩
      obtain ⟨shared, ⟨⟩, -⟩ := (assures known).shared working known promised

/-- All adopted classes are offered; those that are refused leave the workshop as it is. If none
is refused, each is promised its representation. -/
theorem adopt (again depth : Nat) (fresh : Option ClassId) (owner : TypeId) (unsure : ¬ assured)
    (place : Nat) (classes : List ClassId) (steady : Steady thread factory known)
    (outlasts : forall cls place, Outlasts factory cls (.adopted owner place) known) :
    Serves (σ := σ) thread call
      (fun world => world.Working thread factory again depth fresh assured ∧ known world ∧
        world.OffersEach factory owner (classes.zipIdx place))
      (factory.adopt owner place classes)
      (fun refusal world => world.Working thread factory again depth fresh assured ∧
        known world ∧ (refusal = none -> world.PromisesEach factory owner (classes.zipIdx place)))
      fails := by
  induction classes generalizing place known with
  | nil =>
      exact pure (steady.and (steady_promisesEach _ _).imp).lasting
        fun world _ holds => ⟨holds.1, holds.2.1, fun _ _ => nofun⟩
  | cons cls rest inductionHypothesis =>
      have later := persistent_offersEach factory owner (rest.zipIdx (place + 1))
      refine bind ((prepare again depth fresh assured cls (.adopted owner place)
        (steady.and later.steady) ((outlasts cls place).and later.outlasts)).attempt.given ?_)
        fun outcome => ?_
      · rintro world - ⟨working, holds, offers⟩
        rw [List.zipIdx_cons] at offers
        obtain ⟨namable, hosts⟩ := offers _ List.mem_cons_self
        exact ⟨working, ⟨namable, .inl hosts, fun known => absurd known unsure⟩,
          fun known => absurd known unsure, holds,
          fun entry member => offers entry (List.mem_cons_of_mem _ member)⟩
      · cases outcome with
        | error fault =>
            refine bind ((inductionHypothesis (place + 1) steady outlasts).given
              fun _ _ ended => ⟨ended.1, ended.2.2⟩) fun remaining => ?_
            exact pure (steady.and (steady_promisesEach _ _).imp).lasting
              fun _ _ holds => ⟨holds.1, holds.2.1, nofun⟩
        | ok _ =>
            -- The promise to this class is carried along, so that it holds at the end as well.
            refine bind ((inductionHypothesis (place + 1) (steady.and steady_promised)
              fun cls place => (outlasts cls place).and outlasts_promised).given
              fun _ _ ended => ⟨ended.1, ⟨ended.2.2.1, ended.2.1.1⟩, ended.2.2.2⟩)
                fun remaining => ?_
            refine pure (steady.and (steady_promisesEach _ _).imp).lasting ?_
            rintro world - ⟨working, ⟨holds, promised⟩, others⟩
            refine ⟨working, holds, fun none entry member => ?_⟩
            rw [List.zipIdx_cons] at member
            rcases List.mem_cons.mp member with rfl | other
            · exact promised
            · exact others none entry other

end Serves

/-! ## Types with their bindings -/

namespace World

/-- What the holder of the lock must know of the classes of a description. -/
structure Describes (world : World) (factory : FactoryId) (wanted : TypeDescription)
    (assured : Prop) : Prop where
  primary : world.Namable factory wanted.primary
  opened : wanted.isReplaceable = false -> world.Open wanted.primary
  adopted : forall cls, cls ∈ wanted.adopted -> world.Namable factory cls
  assures : assured -> world.Assures factory wanted.primary

/-- What must be known of the classes of a description is kept. -/
theorem steady_describes {wanted : TypeDescription} :
    Steady thread factory (Describes · factory wanted assured) := by
  rintro before after valid complete spares ⟨primary, opened, adopted, assures⟩
  exact ⟨spares.namable valid primary, fun kind => spares.opens valid (opened kind),
    fun cls member => spares.namable valid (adopted cls member),
    fun known => steady_assures valid complete spares (assures known)⟩

/-- The adopted classes are those at the places from the second on. -/
theorem Describes.offersEach {world : World} {wanted : TypeDescription} {type : TypeId}
    (describes : world.Describes factory wanted assured)
    (row : world.HasRow type wanted.primary (wanted.adopted ++ wanted.accepted)
      (.adoptive wanted.adopted.length)) :
    world.OffersEach factory type (wanted.adopted.zipIdx 1) := by
  intro entry member
  obtain ⟨above, found⟩ := List.mem_zipIdx_iff_le_and_getElem?_sub.mp member
  have place : entry.2 = entry.2 - 1 + 1 := by omega
  rw [place]
  exact ⟨describes.adopted _ (List.mem_of_getElem? found), row.adopted found⟩

/-- The type shares a representation that is made for a class, and promised to it. -/
structure Makes (world : World) (factory : FactoryId) (type : TypeId) (primary : ClassId)
    (shared : SharedId) : Prop where
  row : world.HasRow type primary [] (.replaceable shared)
  shares : world.Shares shared primary

/-- A type that shares a representation goes on to do so. -/
theorem persistent_makes (factory : FactoryId) (type : TypeId) (primary : ClassId)
    (shared : SharedId) : Persistent (Makes · factory type primary shared) :=
  fun _ _ valid grows makes => ⟨persistent_hasRow _ _ _ _ valid grows makes.row,
    persistent_shares _ _ valid grows makes.shares⟩

/-- The type has the described classes, and all that it claims is promised. -/
structure Drawn (world : World) (factory : FactoryId) (wanted : TypeDescription) (type : TypeId) :
    Prop where
  once : wanted.repeated? = none
  row : world.HasRow type wanted.primary (wanted.adopted ++ wanted.accepted)
    (if wanted.isSimple then .simple else .adoptive wanted.adopted.length)
  promised : forall cls rep, wanted.Claims type cls rep -> world.Promised factory cls rep

/-- What was drawn up for a description is kept. -/
theorem steady_drawn {wanted : TypeDescription} {type : TypeId} :
    Steady thread factory (Drawn · factory wanted type) := by
  rintro before after valid complete spares ⟨once, row, promised⟩
  exact ⟨once, spares.hasRow row, fun cls rep claimed =>
    steady_promised valid complete spares (promised cls rep claimed)⟩

/-- The type shares a representation that is promised to the described class. Assured work made
it for that class. -/
structure Joins (world : World) (factory : FactoryId) (wanted : TypeDescription) (assured : Prop)
    (type : TypeId) (shared : SharedId) : Prop where
  simple : wanted.isSimple = true
  row : exists host, world.HasRow type host [] (.replaceable shared)
  promised : world.Promised factory wanted.primary (.shared shared)
  makes : assured -> world.Makes factory type wanted.primary shared

/-- The type is one of the described kind, with its bindings. -/
structure Matches (world : World) (factory : FactoryId) (wanted : TypeDescription) (assured : Prop)
    (type : TypeId) : Prop where
  joins : wanted.isReplaceable = true -> exists shared,
    world.Joins factory wanted assured type shared
  drawn : wanted.isReplaceable = false -> world.Drawn factory wanted type

end World

namespace Serves

variable {wanted : TypeDescription}

/-- A type that shares its representation. -/
theorem addReplaceable (simple : wanted.isSimple = true) :
    Serves (σ := σ) thread call
      (fun world => world.Working thread factory again depth fresh assured ∧
        world.Describes factory wanted assured)
      (do
        let shared <- factory.shareClass wanted
        let primary <- Request.observe fun store => (store.types.sharedRow shared).hostClass
        factory.addType wanted primary [] (.replaceable shared))
      (fun type world => world.Working thread factory again depth fresh assured ∧
        exists shared, world.Joins factory wanted assured type shared)
      (fun _ world => world.Working thread factory again depth fresh assured ∧ ¬ assured) := by
  refine bind (shareClass.given fun world _ holds =>
    ⟨holds.1, holds.2.primary, holds.2.assures⟩) fun shared => ?_
  have steady : Steady thread factory fun world =>
      (assured -> world.Shares shared wanted.primary) ∧
        world.Promised factory wanted.primary (.shared shared) :=
    (persistent_shares shared wanted.primary).steady.imp.and steady_promised
  have host : forall primary, Steady thread factory fun _ => assured -> primary = wanted.primary :=
    fun primary => (Persistent.const _).steady
  refine bind (look steady host ?_) fun primary => ?_
  · intro now _ holds known
    exact (holds.1 known).host
  · refine (addType (steady.and (host primary)) fun _ _ => .inl ⟨shared, rfl⟩).weaken
      (fun _ _ holds => holds) ?_ (fun _ _ _ failed => failed)
    rintro type world - ⟨working, ⟨⟨shares, promised⟩, same⟩, row⟩
    refine ⟨working, shared, simple, ⟨primary, row⟩, promised, fun known => ⟨?_, shares known⟩⟩
    rw [← same known]
    exact row

/-- A type with one class. -/
theorem addSimple (unsure : ¬ assured) (kind : wanted.isReplaceable = false)
    (once : wanted.repeated? = none) (simple : wanted.isSimple = true) :
    Serves (σ := σ) thread call
      (fun world => world.Working thread factory again depth fresh assured ∧
        world.Describes factory wanted assured)
      (do
        let type <- factory.addType wanted wanted.primary [] .simple
        factory.prepare wanted.primary (.canonical type)
        return type)
      (fun type world => world.Working thread factory again depth fresh assured ∧
        world.Drawn factory wanted type)
      (fun _ world => world.Working thread factory again depth fresh assured ∧ ¬ assured) := by
  apply bind (addType steady_describes fun _ holds => .inr (holds.opened kind))
  intro type
  have row := persistent_hasRow type wanted.primary [] .simple
  refine bind
    ((prepare again depth fresh assured _ (.canonical type) row.steady row.outlasts).weaken
    ?_ (fun _ _ _ holds => holds) fun _ _ _ failed => ⟨failed.1, failed.2.1⟩) fun _ => ?_
  · rintro world - ⟨working, describes, row⟩
    exact ⟨working, ⟨describes.primary, .inl row.canonical, fun known => absurd known unsure⟩,
      fun known => absurd known unsure, row⟩
  · refine pure steady_drawn.lasting ?_
    rintro world - ⟨working, ⟨promised, -⟩, row⟩
    have alone := simple
    simp only [TypeDescription.isSimple, Bool.and_eq_true, List.isEmpty_iff] at alone
    refine ⟨working, once, ?_, ?_⟩
    · rw [alone.1, alone.2, if_pos simple]
      exact row
    · rintro cls rep (⟨rfl, rfl⟩ | ⟨place, found, -⟩)
      · exact promised
      · rw [alone.1] at found
        cases found

/-- A type with adopted or accepted classes. -/
theorem addAdoptive (unsure : ¬ assured) (kind : wanted.isReplaceable = false)
    (once : wanted.repeated? = none) (several : ¬ wanted.isSimple = true) :
    Serves (σ := σ) thread call
      (fun world => world.Working thread factory again depth fresh assured ∧
        world.Describes factory wanted assured)
      (do
        let type <- factory.addType wanted wanted.primary (wanted.adopted ++ wanted.accepted)
          (.adoptive wanted.adopted.length)
        if let some fault <- factory.adopt type 1 wanted.adopted then
          MonadExcept.throw fault
        factory.prepare wanted.primary (.canonical type)
        return type)
      (fun type world => world.Working thread factory again depth fresh assured ∧
        world.Drawn factory wanted type)
      (fun _ world => world.Working thread factory again depth fresh assured ∧ ¬ assured) := by
  refine bind (addType steady_describes fun _ holds => .inr (holds.opened kind)) fun type => ?_
  have row := persistent_hasRow type wanted.primary (wanted.adopted ++ wanted.accepted)
    (.adoptive wanted.adopted.length)
  have kept := (persistent_namable factory wanted.primary).and row
  refine bind ((adopt again depth fresh type unsure 1 wanted.adopted kept.steady
    fun _ _ => kept.outlasts).given ?_) fun refusal => ?_
  · rintro world - ⟨working, describes, row⟩
    exact ⟨working, ⟨describes.primary, row⟩, describes.offersEach row⟩
  · cases refusal with
    | some fault =>
        apply throw (Persistent.const _).steady.lasting
        exact fun world _ holds => ⟨holds.1, unsure⟩
    | none =>
        refine bind ((prepare again depth fresh assured wanted.primary (.canonical type)
          (row.steady.and (steady_promisesEach type (wanted.adopted.zipIdx 1)))
          (row.outlasts.and outlasts_promisesEach)).weaken ?_ (fun _ _ _ holds => holds)
          fun _ _ _ failed => ⟨failed.1, failed.2.1⟩) fun _ => ?_
        · rintro world - ⟨working, ⟨namable, row⟩, promised⟩
          exact ⟨working, ⟨namable, .inl row.canonical, fun known => absurd known unsure⟩,
            fun known => absurd known unsure, row, promised rfl⟩
        · refine pure steady_drawn.lasting ?_
          rintro world - ⟨working, ⟨promised, -⟩, row, others⟩
          refine ⟨working, once, ?_, ?_⟩
          · rw [if_neg several]
            exact row
          · rintro cls rep (⟨rfl, rfl⟩ | ⟨place, found, rfl⟩)
            · exact promised
            · exact others (cls, place + 1)
                (List.mem_zipIdx_iff_le_and_getElem?_sub.mpr ⟨by omega, by simpa using found⟩)

/-- The type of a description is made, and its bindings are prepared. -/
theorem addPartial (sound : assured -> wanted.repeated? = none ∧ wanted.isReplaceable = true ∧
      wanted.isSimple = true) :
    Serves (σ := σ) thread call
      (fun world => world.Working thread factory again depth fresh assured ∧
        world.Describes factory wanted assured)
      (factory.addPartial wanted)
      (fun type world => world.Working thread factory again depth fresh assured ∧
        world.Matches factory wanted assured type)
      (fun _ world => world.Working thread factory again depth fresh assured ∧ ¬ assured) := by
  have refused : forall (fault : Fault) (kept : World -> Prop), ¬ assured ->
      Serves (σ := σ) thread call
        (fun world => world.Working thread factory again depth fresh assured ∧ kept world)
        (MonadExcept.throw fault)
        (fun type world => world.Working thread factory again depth fresh assured ∧
          world.Matches factory wanted assured type)
        (fun _ world => world.Working thread factory again depth fresh assured ∧ ¬ assured) :=
    fun fault kept unsure => throw (Persistent.const _).steady.lasting
      fun world _ holds => ⟨holds.1, unsure⟩
  unfold FactoryId.addPartial
  cases repeated : wanted.repeated? with
  | some twice =>
      have unsure : ¬ assured := by
        intro known
        rw [repeated] at sound
        cases (sound known).1
      exact bind (glance steady_describes.lasting) fun name => refused _ _ unsure
  | none =>
      dsimp only
      cases replaceable : wanted.isReplaceable with
      | true =>
          rw [if_pos rfl]
          by_cases simple : wanted.isSimple = true
          · rw [if_neg (by simp [simple])]
            exact (addReplaceable simple).weaken (fun _ _ holds => holds)
              (fun _ _ _ holds => ⟨holds.1, fun _ => holds.2,
                fun kind => nomatch replaceable.symm.trans kind⟩)
              fun _ _ _ failed => failed
          · rw [if_pos (by simp [simple])]
            exact refused _ _ fun known => simple (sound known).2.2
      | false =>
          have unsure : ¬ assured := fun known => nomatch replaceable.symm.trans (sound known).2.1
          have described : forall type (world : World), world.Drawn factory wanted type ->
              world.Matches factory wanted assured type :=
            fun type world drawn => ⟨(fun kind => nomatch replaceable.symm.trans kind),
              fun _ => drawn⟩
          rw [if_neg nofun]
          by_cases simple : wanted.isSimple = true
          · rw [if_pos simple]
            exact (addSimple unsure replaceable repeated simple).weaken (fun _ _ holds => holds)
              (fun type world _ holds => ⟨holds.1, described type world holds.2⟩)
              fun _ _ _ failed => failed
          · rw [if_neg simple]
            exact (addAdoptive unsure replaceable repeated simple).weaken (fun _ _ holds => holds)
              (fun type world _ holds => ⟨holds.1, described type world holds.2⟩)
              fun _ _ _ failed => failed

end Serves

end GuestTypes
