import GuestTypes.Proofs.Locking

/-!
# The requests of a factory

Creating a type, and finding or making the representation of a class. A class that takes over
is prepared to have the representation of its superclass, which the walk along the superclass
chain finds or which is made for the last class passed.
-/

namespace GuestTypes

open World

variable {σ α : Type} {thread : ThreadId} {call : Option Nat} {factory : FactoryId}
  {again depth : Nat} {fresh : Option ClassId} {assured : Prop} {cls : ClassId}
  {rep : Representation} {known : World -> Prop} {fails : Fault -> World -> Prop}
  {wanted : TypeDescription}

namespace World

variable {world : World}

/-- A change of the lock is none for what a description says. -/
theorem Describes.relock (describes : world.Describes factory wanted assured) (lock : Lock)
    (valid : world.Valid)
    (grows : Grows world (world.changingFactory factory { world.factory factory with lock })) :
    (world.changingFactory factory { world.factory factory with lock }).Describes factory wanted
      assured where
  primary := grows.namable valid describes.primary
  opened := fun kind => grows.opens valid (describes.opened kind)
  adopted := fun cls member => grows.namable valid (describes.adopted cls member)
  assures := by
    have own := world.factory_rework factory { world.factory factory with lock }
    have published : (world.changingFactory factory { world.factory factory with lock }).published
        factory = world.published factory := by
      unfold World.published
      rw [own]
      rfl
    intro given
    rcases describes.assures given with ⟨shared, bound, made, host⟩ | ⟨⟨unbound, made⟩, unprepared⟩
    · exact .inl ⟨shared, (congrFun published _).trans bound, made, host⟩
    · refine .inr ⟨⟨(congrFun published _).trans unbound, made⟩, ?_⟩
      rw [own]
      exact unprepared

/-- The type shares a representation that is published for its primary class. -/
def Backs (world : World) (factory : FactoryId) (type : TypeId) (primary : ClassId) : Prop :=
  exists shared, world.Makes factory type primary shared ∧
    factory.index < world.factoryCount ∧
    world.published factory primary = some (.shared shared)

/-- A type that backs its class goes on to do so. -/
theorem persistent_backs (factory : FactoryId) (type : TypeId) (primary : ClassId) :
    Persistent (Backs · factory type primary) := by
  rintro before after valid grows ⟨shared, makes, founded, bound⟩
  exact ⟨shared, persistent_makes _ _ _ _ valid grows makes,
    Nat.lt_of_lt_of_le founded grows.factories, grows.published founded bound⟩

/-- What is published for a description, by whether it asks for a replaceable type. -/
def Published (world : World) (factory : FactoryId) (wanted : TypeDescription) (type : TypeId) :
    Prop :=
  (wanted.isReplaceable = false -> world.Created factory wanted type) ∧
    (wanted.isReplaceable = true -> world.Joined factory wanted type)

/-- What is published for a description stays published. -/
theorem persistent_published (factory : FactoryId) (wanted : TypeDescription) (type : TypeId) :
    Persistent (Published · factory wanted type) :=
  fun _ _ _ grows published => ⟨fun kind => grows.created (published.1 kind),
    fun kind => grows.joined (published.2 kind)⟩

/-- What is claimed for a type that is created: its own classes, or the class whose shared
representation it shares. -/
def Claimed (wanted : TypeDescription) (type : TypeId) (shared : SharedId) (cls : ClassId)
    (rep : Representation) : Prop :=
  wanted.isReplaceable = true ∧ cls = wanted.primary ∧ rep = .shared shared ∨
    wanted.isReplaceable = false ∧ wanted.Claims type cls rep

/-- What the row of a type that is created says. -/
structure Rowed (wanted : TypeDescription) (assured : Prop) (factory : FactoryId) (type : TypeId)
    (shared : SharedId) (world : World) : Prop where
  makes : assured -> world.Makes factory type wanted.primary shared
  shares : wanted.isReplaceable = true -> wanted.isSimple = true ∧
    exists host, world.HasRow type host [] (.replaceable shared)
  row : wanted.isReplaceable = false -> wanted.repeated? = none ∧
    world.HasRow type wanted.primary (wanted.adopted ++ wanted.accepted)
      (if wanted.isSimple then .simple else .adoptive wanted.adopted.length)

/-- What a row says of a type it says for good. -/
theorem persistent_rowed (type : TypeId) (shared : SharedId) :
    Persistent (Rowed wanted assured factory type shared) := by
  intro before after valid grows rowed
  constructor
  · exact fun given => persistent_makes _ _ _ _ valid grows (rowed.makes given)
  · intro kind
    obtain ⟨simple, host, row⟩ := rowed.shares kind
    exact ⟨simple, host, grows.hasRow row⟩
  · exact fun kind => ⟨(rowed.row kind).1, grows.hasRow (rowed.row kind).2⟩

end World

namespace Serves

/-- Work under the lock, by a thread that held none. -/
theorem locked {work : Request (Clients σ) α} (post : α -> World -> Prop)
    (failed : Fault -> World -> Prop) (before : Persistent known)
    (after : forall answer, Persistent (post answer))
    (refused : forall fault, Persistent (failed fault))
    (serves : Serves thread call (fun world => world.Ready thread factory 0 none ∧ known world) work
      (fun answer world => world.Ready thread factory 0 none ∧ post answer world)
      (fun fault world => world.Ready thread factory 0 none ∧ failed fault world)) :
    Serves thread call
      (fun world => world.Idle thread ∧ world.Complete factory ∧ known world)
      (factory.locked work)
      (fun answer world => world.Idle thread ∧ post answer world)
      (fun fault world => world.Idle thread ∧ failed fault world) := by
  apply bind (acquire before)
  intro _
  apply bind serves.attempt
  intro outcome
  cases outcome with
  | ok answer =>
      apply bind (release (after answer))
      intro _
      exact pure (lasting_idle.and (after answer).lasting) fun _ _ holds => holds
  | error fault =>
      apply bind (release (refused fault))
      intro _
      exact throw (lasting_idle.and (refused fault).lasting) fun _ _ holds => holds

/-- What a creation does under the lock. -/
theorem createInside (again : Nat) (fresh : Option ClassId) (assured : Prop)
    (sound : assured -> wanted.repeated? = none ∧ wanted.isReplaceable = true ∧
      wanted.isSimple = true) :
    Serves (σ := σ) thread call
      (fun world => world.Working thread factory again 0 fresh assured ∧
        world.Describes factory wanted assured)
      (do
        factory.step (.begin (some wanted.name))
        factory.conclude do
          Request.perform (.record (.typeBegun (<- factory.view (·.workshop.depth)) wanted.name))
          factory.addPartial wanted)
      (fun type world => world.Ready thread factory again fresh ∧
        (assured -> world.Backs factory type wanted.primary) ∧
        World.Published world factory wanted type)
      (fun _ world => world.Ready thread factory again fresh ∧ ¬ assured) := by
  apply bind (begin steady_describes indifferent_describes)
  intro _
  refine (conclude assured (Claimed wanted) (Rowed wanted assured factory)
    (fun type shared => persistent_rowed type shared) ?_).weaken (fun _ _ holds => holds) ?_
    fun _ _ _ failed => failed
  · apply bind (glance steady_describes.lasting)
    intro depth
    apply bind (quietly (Action.mild_record _) steady_describes.lasting)
    intro _
    refine (addPartial sound).weaken (fun _ _ holds => holds) ?_ fun _ _ _ failed => failed
    rintro type world - ⟨working, joins, drawn⟩
    cases replaceable : wanted.isReplaceable with
    | true =>
        obtain ⟨shared, simple, row, promised, makes⟩ := joins replaceable
        refine ⟨working, shared, ⟨makes, fun _ => ⟨simple, row⟩, ?_⟩, ?_⟩
        · exact fun kind => nomatch replaceable.symm.trans kind
        · rintro cls rep (⟨-, rfl, rfl⟩ | ⟨kind, -⟩)
          · exact promised
          · cases replaceable.symm.trans kind
    | false =>
        have drawn := drawn replaceable
        refine ⟨working, ⟨0⟩,
          ⟨fun given => ?_, fun kind => ?_, fun _ => ⟨drawn.once, drawn.row⟩⟩, ?_⟩
        · cases replaceable.symm.trans (sound given).2.1
        · cases replaceable.symm.trans kind
        · rintro cls rep (⟨kind, -⟩ | ⟨-, claimed⟩)
          · cases replaceable.symm.trans kind
          · exact drawn.promised cls rep claimed
  · rintro type world - ⟨ready, shared, rowed, bound⟩
    have founded := ready.working.complete.1
    refine ⟨ready, fun given => ?_, fun kind => ?_, fun kind => ?_⟩
    · exact ⟨shared, rowed.makes given, founded, bound _ _ (.inl ⟨(sound given).2.1, rfl, rfl⟩)⟩
    · obtain ⟨once, row⟩ := rowed.row kind
      exact ⟨founded, once, row, fun cls rep claimed => bound cls rep (.inr ⟨kind, claimed⟩)⟩
    · obtain ⟨simple, host, row⟩ := rowed.shares kind
      exact ⟨founded, simple, shared, host, row, bound _ _ (.inl ⟨kind, rfl, rfl⟩)⟩

/-- A type is created on behalf of host code. -/
theorem create :
    Serves (σ := σ) thread call
      (fun world => world.Idle thread ∧ world.Complete factory ∧
        forall cls, cls ∈ wanted.primary :: wanted.adopted -> world.Open cls)
      (factory.create wanted)
      (fun type world => world.Idle thread ∧ World.Published world factory wanted type)
      (fun _ world => world.Idle thread) := by
  have opened : Persistent fun world =>
      forall cls, cls ∈ wanted.primary :: wanted.adopted -> world.Open cls :=
    fun before after valid grows holds cls member => grows.opens valid (holds cls member)
  refine (locked (fun type world => World.Published world factory wanted type)
    (fun _ _ => True) opened (persistent_published factory wanted)
    (fun _ => Persistent.const _) ?_).weaken
    (fun _ _ holds => holds) (fun _ _ _ holds => holds) fun _ _ _ failed => failed.1
  refine (createInside 0 none False nofun).weaken ?_ (fun _ _ _ holds => ⟨holds.1, holds.2.2⟩)
    fun _ _ _ failed => ⟨failed.1, trivial⟩
  rintro world - ⟨ready, opened⟩
  exact ⟨ready.work, .inl (opened _ List.mem_cons_self), fun _ => opened _ List.mem_cons_self,
    fun cls member => .inl (opened cls (List.mem_cons_of_mem _ member)), nofun⟩

/-- A guest class's type is created by a definition, which holds the lock. -/
theorem createAgain (again : Nat) (fresh : Option ClassId)
    (layout : wanted.repeated? = none ∧ wanted.isReplaceable = true ∧ wanted.isSimple = true) :
    Serves (σ := σ) thread call
      (fun world => world.Ready thread factory again fresh ∧
        world.Describes factory wanted True)
      (factory.create wanted)
      (fun type world => world.Ready thread factory again fresh ∧
        world.Backs factory type wanted.primary)
      (fun _ _ => False) := by
  refine bind ((acquireAgain again fresh steady_describes
    fun world lock valid describes grows => describes.relock lock valid grows).given
    fun world _ holds => ⟨holds.1.working, holds.1.empty, holds.2⟩) fun _ => ?_
  refine bind ((createInside (again + 1) fresh True fun _ => layout).attempt.given
    fun world _ holds => ⟨Ready.work ⟨holds.1, holds.2.1⟩, holds.2.2⟩) fun outcome => ?_
  cases outcome with
  | ok type =>
      refine bind ((releaseAgain again fresh (persistent_backs factory type wanted.primary)).given
        fun world _ holds => ⟨holds.1, holds.2.1 trivial⟩) fun _ => ?_
      exact pure (persistent_backs factory type wanted.primary).ready fun _ _ holds => holds
  | error fault =>
      refine bind ((releaseAgain again fresh (Persistent.const False)).given ?_) fun _ => ?_
      · exact fun world _ holds => absurd trivial holds.2
      · exact throw (Persistent.const False).lasting fun _ _ holds => holds.2

/-- What is bound to a class is looked up. Nothing is prepared outside of a request, so what is
found is published. -/
theorem find :
    Serves (σ := σ) thread call
      (fun world => world.Idle thread ∧ world.Complete factory)
      (factory.find cls)
      (fun found world => world.Idle thread ∧ forall rep, found = some rep ->
        factory.index < world.factoryCount ∧ world.published factory cls = some rep)
      (fun _ world => world.Idle thread) := by
  have settled : forall found : Option Representation, Persistent fun world =>
      forall rep, found = some rep ->
        factory.index < world.factoryCount ∧ world.published factory cls = some rep :=
    fun found before after valid grows holds rep same =>
      ⟨Nat.lt_of_lt_of_le (holds rep same).1 grows.factories,
        grows.published (holds rep same).1 (holds rep same).2⟩
  refine (locked _ (fun _ _ => True) (Persistent.const True) settled
    (fun _ => Persistent.const _) ?_).weaken
    (fun _ _ holds => ⟨holds.1, holds.2, trivial⟩) (fun _ _ _ holds => holds)
    fun _ _ _ failed => failed.1
  refine (found (steady_factory fun current => current.workshop = {})).weaken
    (fun world _ holds => ⟨holds.1.working, holds.1.empty⟩) ?_ fun _ _ _ failed => failed
  rintro found world - ⟨working, empty, seen⟩
  refine ⟨⟨working, empty⟩, ?_⟩
  rintro rep rfl
  refine ⟨working.complete.1, seen.1.resolve_right fun prepared => ?_⟩
  rw [empty] at prepared
  cases prepared

end Serves

/-! ## Inheriting a representation -/

namespace World

variable {world : World}

/-- Classes that everybody may name, each followed by its superclasses. -/
def Chain (world : World) : List ClassId -> Prop
  | [] => True
  | cls :: above => world.Open cls ∧
      above = (world.hierarchy.superclass cls).elim [] world.hierarchy.lineage ∧
      world.Chain above

/-- The lineage of a class that everybody may name is a chain. -/
theorem Valid.chain (valid : world.Valid) (opened : world.Open cls) :
    world.Chain (world.hierarchy.lineage cls) := by
  induction cls using Hierarchy.lineage_induction world.hierarchy with
  | step cls inductionHypothesis =>
      rw [Hierarchy.lineage_eq]
      refine ⟨opened, rfl, ?_⟩
      cases chosen : world.hierarchy.superclass cls with
      | none => trivial
      | some super => exact inductionHypothesis super chosen (valid.superclasses cls super chosen)

/-- A chain stays one. -/
theorem persistent_chain (classes : List ClassId) : Persistent (Chain · classes) := by
  intro before after valid grows chain
  induction classes with
  | nil => trivial
  | cons cls above inductionHypothesis =>
      obtain ⟨opened, same, chain⟩ := chain
      refine ⟨grows.opens valid opened, ?_, inductionHypothesis chain⟩
      rw [same, grows.hierarchy.superclass opened.1]
      cases chosen : before.hierarchy.superclass cls with
      | none => rfl
      | some super => exact (grows.hierarchy.lineage (Hierarchy.Declared.superclass chosen)).symm

/-- A class that takes over the representation of its superclass, the next one in a list. -/
structure Follows (world : World) (cls : ClassId) (above : List ClassId) : Prop where
  opened : world.Open cls
  chosen : forall super, above.head? = some super -> world.hierarchy.superclass cls = some super
  takes : FactoryId.takesOver world.hierarchy cls = true

/-- A class goes on to follow its superclass. -/
theorem persistent_follows (cls : ClassId) (above : List ClassId) :
    Persistent (Follows · cls above) := by
  rintro before after valid grows ⟨opened, chosen, takes⟩
  refine ⟨grows.opens valid opened, fun super next => ?_, ?_⟩
  · rw [grows.hierarchy.superclass opened.1]
    exact chosen super next
  · rw [grows.hierarchy.takesOver opened.1]
    exact takes

/-- In a chain a class is followed by its superclass. -/
theorem Chain.superclass {above : List ClassId} {super : ClassId}
    (chain : world.Chain (cls :: above))
    (next : above.head? = some super) : world.hierarchy.superclass cls = some super := by
  obtain ⟨-, rfl, -⟩ := chain
  cases chosen : world.hierarchy.superclass cls with
  | none => simp [chosen] at next
  | some other =>
      rw [chosen] at next
      simp only [Option.elim] at next
      rw [Hierarchy.lineage_eq] at next
      exact congrArg some (Option.some.inj next)

end World

namespace Hierarchy

/-- No class is above itself. -/
theorem nodup_lineage (hierarchy : Hierarchy) (cls : ClassId) : (hierarchy.lineage cls).Nodup := by
  induction cls using lineage_induction hierarchy with
  | step cls inductionHypothesis =>
      rw [lineage_eq]
      cases chosen : hierarchy.superclass cls with
      | none => exact List.nodup_cons.mpr ⟨List.not_mem_nil, List.nodup_nil⟩
      | some super =>
          refine List.nodup_cons.mpr ⟨fun above => ?_, inductionHypothesis super chosen⟩
          have lower := index_le_of_mem_lineage above
          have strict := (superclass_lt chosen).2
          omega

end Hierarchy

namespace World

/-- The factory sees no representation of these classes. -/
def Lacks (world : World) (factory : FactoryId) (spared : ClassId -> Prop) : Prop :=
  forall other, spared other -> Serves.Found factory other none world

/-- Classes that lack a representation lack it as long as the factory is spared. -/
theorem steady_lacks (spared : ClassId -> Prop) :
    Steady thread factory (Lacks · factory spared) :=
  fun _ _ valid complete spares lacks other chosen =>
    Serves.steady_found none valid complete spares (lacks other chosen)

/-- Preparing a class leaves the others without a representation. -/
theorem outlasts_lacks {spared : ClassId -> Prop} (apart : ¬ spared cls) :
    Outlasts factory cls rep (Lacks · factory spared) := by
  intro world valid missing grows founded lacks other chosen
  refine outlasts_missing ?_ valid missing grows founded (lacks other chosen)
  rintro rfl
  exact apart chosen

/-- What was found belongs to the first one of the classes. -/
def Leads (world : World) (factory : FactoryId) (classes : List ClassId)
    (found : Option Representation) : Prop :=
  forall rep, found = some rep ->
    exists cls, classes.head? = some cls ∧ Serves.Found factory cls (some rep) world

/-- What was found above them is kept as well. -/
theorem steady_inherited (spared : ClassId -> Prop) (classes : List ClassId)
    (found : Option Representation) : Steady thread factory fun world =>
      world.Lacks factory spared ∧ world.Leads factory classes found := by
  refine (steady_lacks spared).and ?_
  intro before after valid complete spares leads rep same
  obtain ⟨cls, first, promised⟩ := leads rep same
  exact ⟨cls, first, Serves.steady_found (some rep) valid complete spares promised⟩

/-- What is promised to the first class is what the chain leads to. -/
theorem leads_cons {above : List ClassId} (promised : Serves.Found factory cls (some rep) world) :
    world.Leads factory (cls :: above) (some rep) := by
  rintro _ ⟨⟩
  exact ⟨cls, rfl, promised⟩

end World

namespace Serves

section Inheriting

variable {spared : ClassId -> Prop} {above : List ClassId}

/-- A class that takes over what was found for its superclass is prepared to have it. -/
theorem prepareInherited (apart : ¬ spared cls) (found : Option Representation) :
    Serves (σ := σ) thread call
      (fun world => (world.Working thread factory again depth fresh False ∧
        world.Lacks factory (fun other => spared other ∨ other = cls) ∧
          world.Leads factory above found) ∧ world.Follows cls above)
      (match found with
        | none => return none
        | some rep => do
            factory.step (.prepare cls rep)
            return some rep)
      (fun found world => world.Working thread factory again depth fresh False ∧
        world.Lacks factory spared ∧ world.Leads factory (cls :: above) found) fails := by
  cases found with
  | none =>
      exact pure (steady_inherited _ _ none).lasting fun world _ holds =>
        ⟨holds.1.1, fun other chosen => holds.1.2.1 other (.inl chosen), nofun⟩
  | some rep =>
      refine bind ((prepareStep again depth fresh False cls rep (steady_lacks spared)
        (outlasts_lacks apart)).given ?_) fun _ => pure (steady_inherited _ _ (some rep)).lasting ?_
      · rintro world - ⟨⟨working, lacks, leads⟩, follows⟩
        obtain ⟨super, next, viewed⟩ := leads rep rfl
        exact ⟨working, ⟨.inl follows.opened, .inr ⟨super, follows.opened.1,
          follows.chosen super next, follows.takes, viewed.2⟩, nofun⟩,
          lacks cls (.inr rfl), fun other chosen => lacks other (.inl chosen)⟩
      · exact fun world _ ⟨working, promised, lacks⟩ => ⟨working, lacks, leads_cons promised⟩

/-- The walk along a superclass chain. What it finds is prepared for all classes it passed. -/
theorem inherited (spared : ClassId -> Prop) (classes : List ClassId) (distinct : classes.Nodup)
    (apart : forall cls, cls ∈ classes -> ¬ spared cls) :
    Serves (σ := σ) thread call
      (fun world => world.Working thread factory again depth fresh False ∧
        world.Chain classes ∧ world.Lacks factory spared)
      (factory.inherited classes)
      (fun found world => world.Working thread factory again depth fresh False ∧
        world.Lacks factory spared ∧ world.Leads factory classes found) fails := by
  induction classes generalizing spared with
  | nil =>
      exact pure (steady_inherited _ _ none).lasting
        fun world _ holds => ⟨holds.1, holds.2.2, nofun⟩
  | cons cls above inductionHypothesis =>
      obtain ⟨notAbove, distinct⟩ := List.nodup_cons.mp distinct
      have steady : Steady thread factory fun world =>
          world.Chain (cls :: above) ∧ world.Lacks factory spared :=
        (persistent_chain _).steady.and (steady_lacks spared)
      refine bind (found steady) fun found => ?_
      cases found with
      | some rep =>
          exact pure (steady_inherited _ _ (some rep)).lasting
            fun world _ ⟨working, ⟨_, lacks⟩, promised⟩ => ⟨working, lacks, leads_cons promised⟩
      | none =>
          have persistentTakes : forall takes : Bool, Persistent fun world =>
              world.Open cls ∧ takes = FactoryId.takesOver world.hierarchy cls := by
            rintro takes before after valid grows ⟨opened, same⟩
            exact ⟨grows.opens valid opened, same.trans (grows.hierarchy.takesOver opened.1).symm⟩
          refine bind (look (steady.and (steady_found none))
            (fun takes => (persistentTakes takes).steady)
            fun now _ holds => ⟨holds.1.1.1, rfl⟩) fun takes => ?_
          cases takes with
          | false =>
              exact pure (steady_inherited _ _ none).lasting
                fun world _ holds => ⟨holds.1, holds.2.1.1.2, nofun⟩
          | true =>
              -- The class is spared by the walk above it, which prepares none that it has passed.
              have apartAbove : forall other, other ∈ above -> ¬ (spared other ∨ other = cls) := by
                rintro other member (chosen | rfl)
                · exact apart other (List.mem_cons_of_mem _ member) chosen
                · exact notAbove member
              refine bind (((inductionHypothesis _ distinct apartAbove).keeping
                (persistent_follows cls above)).weaken ?_ (fun _ _ _ holds => holds)
                fun _ _ _ failed => failed.1) fun found =>
                prepareInherited (apart cls List.mem_cons_self) found
              rintro world - ⟨working, ⟨⟨chain, lacks⟩, missing⟩, opened, takes⟩
              refine ⟨⟨working, chain.2.2, ?_⟩, opened, fun super => chain.superclass, takes.symm⟩
              rintro other (chosen | rfl)
              · exact lacks other chosen
              · exact missing

end Inheriting

/-! ## Finding or making a representation -/

/-- A class that the host program made gets a shared representation. -/
theorem makeShared {canonicalClass : Option ClassId} :
    Serves (σ := σ) thread call
      (fun world => world.Working thread factory again depth fresh False ∧
        world.Open cls ∧ canonicalClass = world.hierarchy.superclass cls)
      (do
        let shared <- Request.perform (.addShared { hostClass := cls, canonicalClass })
        factory.prepare cls (.shared shared)
        return .shared shared)
      (fun rep world => world.Working thread factory again depth fresh False ∧
        world.Promised factory cls rep)
      (fun _ world => world.Working thread factory again depth fresh False) := by
  have persistent : Persistent fun world =>
      world.Open cls ∧ canonicalClass = world.hierarchy.superclass cls := by
    rintro before after valid grows ⟨opened, rfl⟩
    exact ⟨grows.opens valid opened, (grows.hierarchy.superclass opened.1).symm⟩
  refine bind (addShared persistent.steady fun world holds => ⟨holds.1.1, holds.2⟩) fun shared => ?_
  refine bind ((prepare again depth fresh False cls (.shared shared)
    (Persistent.const True).steady (Persistent.const True).outlasts).weaken ?_
    (fun _ _ _ holds => holds) fun _ _ _ failed => failed.1) fun _ => ?_
  · rintro world - ⟨working, ⟨opened, -⟩, shares⟩
    exact ⟨working, ⟨.inl opened, .inl shares.hosts, nofun⟩, nofun, trivial⟩
  · exact pure steady_promised.lasting fun _ _ holds => ⟨holds.1, holds.2.1.1⟩

/-- A class that nobody described gets a type of its own. Whether it is made is read off what is
found for the class afterwards. -/
theorem makePlain {name : String} :
    Serves (σ := σ) thread call
      (fun world => world.Working thread factory again depth fresh False ∧ world.Open cls)
      (do
        factory.step (.begin (some name))
        let outcome <- (factory.addPartial (FactoryId.plainDescription name cls)).attempt
        let _ <- factory.step .finish
        let _ <- Request.ofExcept outcome
        match <- factory.found cls with
        | some rep => return rep
        | none => MonadExcept.throw (Fault.clash { mode := .missing, cls }))
      (fun rep world => world.Working thread factory again depth fresh False ∧
        world.Promised factory cls rep)
      (fun _ world => world.Working thread factory again depth fresh False) := by
  have described : forall world : World, world.Open cls ->
      world.Describes factory (FactoryId.plainDescription name cls) False :=
    fun world opened => ⟨.inl opened, fun _ => opened, (fun _ member => nomatch member), nofun⟩
  have nothing : Persistent fun _ => True := .const True
  refine bind ((begin steady_describes indifferent_describes).given
    fun world _ holds => ⟨holds.1, described world holds.2⟩) fun _ => ?_
  refine via (fun _ world =>
    world.Working thread factory again (depth + 1) fresh False ∧ True)
    ((addPartial nofun).attempt.weaken (fun _ _ holds => holds) ?_
      fun _ _ _ failed => failed) fun outcome => ?_
  · rintro (fault | type) world - ended
    · exact ⟨ended.1, trivial⟩
    · exact ⟨ended.1, trivial⟩
  refine bind (finish nothing.steady nothing.indifferent) fun _ => ?_
  refine via (fun _ world => world.Working thread factory again depth fresh False ∧ True)
    ((Request.Mild.done outcome).serves nothing.steady.lasting |>.weaken
      (fun _ _ holds => holds.2) (fun _ _ _ holds => holds) fun _ _ _ failed => failed.1)
    fun _ => ?_
  refine bind (found nothing.steady) fun found => ?_
  cases found with
  | some rep => exact pure steady_promised.lasting fun _ _ holds => ⟨holds.1, holds.2.2.1⟩
  | none => exact throw lasting_working fun _ _ holds => holds.1

/-- A representation is made for a class that has none to inherit. -/
theorem makeRepresentation :
    Serves (σ := σ) thread call
      (fun world => world.Working thread factory again depth fresh False ∧ world.Open cls)
      (factory.makeRepresentation cls)
      (fun rep world => world.Working thread factory again depth fresh False ∧
        world.Promised factory cls rep)
      (fun _ world => world.Working thread factory again depth fresh False) := by
  have persistentRow : forall row : HostClass, Persistent fun world =>
      world.Open cls ∧ row = world.hierarchy.row cls := by
    rintro row before after valid grows ⟨opened, same⟩
    exact ⟨grows.opens valid opened, same.trans (grows.hierarchy.row cls opened.1).symm⟩
  unfold FactoryId.makeRepresentation
  refine bind (look (persistent_open cls).steady (fun row => (persistentRow row).steady)
    fun now _ opened => ⟨opened, rfl⟩) fun row => ?_
  by_cases synthesized : row.isSynthesized = true
  · rw [if_pos synthesized]
    exact makeShared.given fun world _ ⟨working, opened, _, same⟩ =>
      ⟨working, opened, congrArg HostClass.superclass same⟩
  · rw [if_neg synthesized]
    by_cases iface : row.isInterface = true
    · rw [if_pos iface]
      exact throw lasting_working fun _ _ holds => holds.1
    · rw [if_neg iface]
      exact makePlain.given fun world _ holds => ⟨holds.1, holds.2.1⟩

end Serves

end GuestTypes
