import GuestTypes.Proofs.DefinitionOutcome
import GuestTypes.Proofs.Dumping
import GuestTypes.Proofs.EscalationEffect
import GuestTypes.Proofs.NameIssue

/-!
# What a failed definition leaves

A definition that fails leaves all classes, types, bindings and factories as they were. If it was
refused for its bases or its slots, nothing else has happened either. If the kernel faulted, a class
was attempted: one counter has moved on, and the listing of the class may have been written, which
is in the dump directory if there is no slash in the name of the class.
-/

namespace GuestTypes

/-! ## An attempt -/

namespace Synthesizer

/-- The simple name of the class that is synthesized next over a base. -/
def nextSimpleName (synthesizer : Synthesizer) (base : String) : String :=
  Text.simpleName (synthesizer.nextName base)

/-- The path that the listing of that class is written to. -/
def nextListing (synthesizer : Synthesizer) (directory base : String) : String :=
  Path.join directory (synthesizer.nextSimpleName base ++ ".class.txt")

/-- What an attempt to synthesize a class leaves of a synthesizer and of the files. At most one file
is different, which is in the dump directory unless there is a slash in its name. -/
structure Attempts (before after : Synthesizer) (files later : FileTree) (base : String) :
    Prop where
  config : after.config = before.config
  loader : after.loader = before.loader
  dumpDirectory : after.dumpDirectory = before.dumpDirectory
  counters : forall other,
    after.lastIssued other = before.lastIssued other + if base = other then 1 else 0
  silent : before.dumpDirectory = none -> later = files
  dumps : forall directory, before.dumpDirectory = some directory ->
    FileTree.Lists (Path.place directory) (Path.place (before.nextListing directory base))
      files later
  inside : '/' ∉ (before.nextSimpleName base).toList -> forall directory,
    Path.place (before.nextListing directory base) =
      Path.place directory ++ [before.nextSimpleName base ++ ".class.txt"]

variable {synthesizer : Synthesizer} {base : String}

/-- Without a slash in its name, the listing is in the directory. -/
theorem place_nextListing (flat : '/' ∉ (synthesizer.nextSimpleName base).toList)
    (directory : String) : Path.place (synthesizer.nextListing directory base) =
      Path.place directory ++ [synthesizer.nextSimpleName base ++ ".class.txt"] :=
  Path.place_join (Path.plain_listing flat)

/-- The synthesizer once it has issued a number for a base. -/
def afterIssue (synthesizer : Synthesizer) (base : String) : Synthesizer :=
  ((Step.issue base).perform synthesizer).2

/-- A number is used up, and a listing written if there is a directory for it. -/
theorem attempts_afterIssue {files later : FileTree}
    (silent : synthesizer.dumpDirectory = none -> later = files)
    (dumps : forall directory, synthesizer.dumpDirectory = some directory ->
      FileTree.Lists (Path.place directory) (Path.place (synthesizer.nextListing directory base))
        files later) : synthesizer.Attempts (synthesizer.afterIssue base) files later base :=
  ⟨rfl, rfl, rfl, Step.lastIssued_issue synthesizer base, silent, dumps, place_nextListing⟩

end Synthesizer

namespace Store

variable {before middle after : Store} {synthesizers : Table Synthesizer} {files : FileTree}
  {id : SynthesizerId}

/-- The store has other synthesizers and other files, but besides at most records were made. -/
def Alters (before : Store) (synthesizers : Table Synthesizer) (files : FileTree) (after : Store) :
    Prop :=
  after.initState = before.initState ∧ exists progress guards records loaders,
    (forall loader : LoaderId, loaders.get loader.index = before.loader loader) ∧
      after = { before with progress, guards, records, loaders, synthesizers, files }

/-- A store is that with its own synthesizers and files. -/
theorem Alters.refl (store : Store) : store.Alters store.synthesizers store.files store :=
  ⟨rfl, store.progress, store.guards, store.records, store.loaders, fun _ => rfl, rfl⟩

/-- What was altered is so after nothing else happened. -/
theorem Alters.still (alters : before.Alters synthesizers files middle)
    (still : middle.Still after) : before.Alters synthesizers files after := by
  obtain ⟨same, progress, guards, records, loaders, kept, rfl⟩ := alters
  obtain ⟨again, progress, guards, rfl⟩ := still
  exact ⟨again.trans same, progress, guards, records, loaders, kept, rfl⟩

/-- A record more makes no difference. -/
theorem Alters.record (alters : before.Alters synthesizers files middle) (event : Record) :
    before.Alters synthesizers files { middle with records := middle.records.push event } := by
  obtain ⟨same, progress, guards, records, loaders, kept, rfl⟩ := alters
  exact ⟨same, progress, guards, _, loaders, kept, rfl⟩

/-- Then another synthesizer may be changed. -/
theorem Alters.reissue (alters : before.Alters synthesizers files middle)
    (changed : Synthesizer) : before.Alters (synthesizers.set id.index changed) files
      { middle with synthesizers := middle.synthesizers.set id.index changed } := by
  obtain ⟨same, progress, guards, records, loaders, kept, rfl⟩ := alters
  exact ⟨same, progress, guards, records, loaders, kept, rfl⟩

/-- No class is declared on the way. -/
theorem Alters.hierarchy (alters : before.Alters synthesizers files after) :
    after.hierarchy = before.hierarchy := by
  obtain ⟨-, progress, guards, records, loaders, -, rfl⟩ := alters
  rfl

/-- The files are the given ones. -/
theorem Alters.files_eq (alters : before.Alters synthesizers files after) :
    after.files = files := by
  obtain ⟨-, progress, guards, records, loaders, -, rfl⟩ := alters
  rfl

/-- The synthesizers are the given ones. -/
theorem Alters.synthesizer_eq (alters : before.Alters synthesizers files after)
    (id : SynthesizerId) : after.synthesizer id = synthesizers.get id.index := by
  obtain ⟨-, progress, guards, records, loaders, -, rfl⟩ := alters
  rfl

end Store

namespace SynthesizerId

variable {σ : Type} {thread : ThreadId} {begun now : Store} {id : SynthesizerId}
  {spec : Specification} {name directory base : String} {synthesizers : Table Synthesizer}
  {files : FileTree}

/-- What is looked up on the way is looked up where no more was altered. -/
theorem delivers_look {α β : Type} {look : Store -> α} {rest : α -> Request σ β}
    {post : Except Fault β -> Store -> Prop} (alters : begun.Alters synthesizers files now)
    (goesOn : forall seen, begun.Alters synthesizers files seen ->
      (rest (look seen)).run.Delivers thread Store.Still seen post) :
    (Request.observe look >>= rest).run.Delivers thread Store.Still now post := by
  apply Program.Delivers.andThen
  apply Program.Delivers.observe
  exact fun seen still => goesOn seen (alters.still still)

/-- A definition with a loader that fails changes nothing. -/
theorem delivers_define (loader : LoaderId) (body : ClassBody)
    (alters : begun.Alters synthesizers files now) :
    (loader.define body : Request σ ClassId).run.Delivers thread Store.Still now
      fun outcome after => outcome.isOk = false -> begun.Alters synthesizers files after := by
  apply delivers_look alters
  intro seen alters
  cases verified : body.verify seen.hierarchy with
  | error defect => exact fun _ => alters
  | ok layout =>
      apply Program.Delivers.andThen
      apply Program.Delivers.perform
      intro claiming still
      have alters := alters.still still
      by_cases taken : (claiming.loader loader).defined.contains body.name = true
      · refine ⟨false, { claiming with
          loaders := claiming.loaders.set loader.index (claiming.loader loader) }, ?_, fun _ => ?_⟩
        · simp only [Action.perform, Loader.Step.perform, taken, if_true]
        · obtain ⟨same, progress, guards, records, loaders, kept, rfl⟩ := alters
          refine ⟨same, progress, guards, records, _, fun other => ?_, rfl⟩
          rw [Table.get_set]
          split
          · rename_i here
            obtain rfl : loader = other := congrArg LoaderId.mk here
            exact kept loader
          · exact kept other
      · refine ⟨true, _, by simp only [Action.perform, Loader.Step.perform, taken]; rfl, ?_⟩
        apply Program.Delivers.perform
        intro declaring _
        exact ⟨_, _, rfl, fun failed => absurd failed (by simp [Except.isOk, Except.toBool])⟩

/-- An operation on the files that may be refused. -/
theorem delivers_files {action : Action (Except FileProblem Unit)}
    (change : FileTree -> Except FileProblem Unit × FileTree)
    {post : Except Fault (Except FileProblem Unit) -> Store -> Prop}
    (performs : forall later : Store, action.perform thread later =
      some ((change later.files).1, { later with files := (change later.files).2 }))
    (alters : begun.Alters synthesizers files now)
    (ends : forall outcome after, begun.Alters synthesizers (change files).2 after ->
      post (.ok outcome) after) :
    (Request.perform action : Request σ _).run.Delivers thread Store.Still now post := by
  apply Program.Delivers.perform
  intro later still
  obtain ⟨same, progress, guards, records, loaders, kept, rfl⟩ := alters.still still
  exact ⟨_, _, performs _, ends _ _ ⟨same, progress, guards, records, loaders, kept, rfl⟩⟩

/-- A listing that is written, or not, is all that changes. -/
theorem delivers_writeListing {body : ClassBody} (alters : begun.Alters synthesizers files now) :
    (writeListing directory body : Request σ Unit).run.Delivers thread Store.Still now
      fun _ after => exists later, begun.Alters synthesizers later after ∧
        FileTree.Lists (Path.place directory) (Path.place (listingPath directory body)) files
          later := by
  let listing := Path.place (listingPath directory body)
  have made := FileTree.lists_makeDirectories listing files directory
  apply Program.Delivers.andThen
  apply delivers_files (FileTree.makeDirectories · directory)
    (Action.perform_makeDirectories thread · directory) alters
  rintro (problem | _) middle alters
  · exact ⟨_, alters, made⟩
  apply delivers_look alters
  intro seen alters
  apply Program.Delivers.andThen
  let text := body.listing seen.hierarchy ++ "\n"
  have written := FileTree.lists_write (Path.place directory) (files.makeDirectories directory).2
    (listingPath directory body) text
  apply delivers_files (FileTree.write · (listingPath directory body) text)
    (Action.perform_writeFile thread · (listingPath directory body) text) alters
  rintro (problem | _) after alters <;> exact ⟨_, alters, made.trans written⟩

/-- A number is issued. -/
theorem delivers_issue {post : Except Fault UInt32 -> Store -> Prop}
    (alters : begun.Alters begun.synthesizers files now)
    (ends : forall after, begun.Alters (begun.synthesizers.set id.index
        ((begun.synthesizer id).afterIssue base)) files after ->
      post (.ok ((begun.synthesizer id).lastIssued base + 1)) after) :
    (Request.perform (.synthesizer id (.issue base)) : Request σ UInt32).run.Delivers thread
      Store.Still now post := by
  apply Program.Delivers.perform
  intro later still
  have alters := alters.still still
  have same : later.synthesizer id = begun.synthesizer id := alters.synthesizer_eq id
  refine ⟨(begun.synthesizer id).lastIssued base + 1, _, ?_, ends _ (alters.reissue _)⟩
  simp only [Action.perform, same]
  obtain ⟨-, progress, guards, records, loaders, -, rfl⟩ := alters
  rfl

/-- What a failed attempt to synthesize a class over a base leaves. -/
def Fails (begun : Store) (id : SynthesizerId) (base : String) (outcome : Except Fault ClassId)
    (after : Store) : Prop :=
  outcome.isOk = false -> exists issued later,
    begun.Alters (begun.synthesizers.set id.index issued) later after ∧
      (begun.synthesizer id).Attempts issued begun.files later base

/-- Once the listing is written, if one is wanted, only the loader is left. -/
theorem delivers_defineListed {later : FileTree} {issued : Synthesizer} (body : ClassBody)
    (alters : begun.Alters (begun.synthesizers.set id.index issued) later now)
    (attempted : (begun.synthesizer id).Attempts issued begun.files later base) :
    (do (<- id.view (·.loader)).define body : Request σ ClassId).run.Delivers thread Store.Still now
      (Fails begun id base) := by
  apply delivers_look alters
  intro loading alters
  exact (delivers_define _ body alters).weaken fun _ _ failed error =>
    ⟨issued, later, failed error, attempted⟩

/-- A failed attempt to synthesize a class. -/
theorem delivers_attempt (frozen : spec.isFrozen = true) (thread : ThreadId) :
    (id.synthesize spec : Request σ ClassId).run.Delivers thread Store.Still begun
      (Fails begun id (begun.hierarchy.simpleName spec.base)) := by
  let synthesizer := begun.synthesizer id
  let base := begun.hierarchy.simpleName spec.base
  have view : forall {files now}, begun.Alters (begun.synthesizers.set id.index
      (synthesizer.afterIssue base)) files now ->
          now.synthesizer id = synthesizer.afterIssue base := by
    intro files now alters
    rw [alters.synthesizer_eq id, Table.get_set, if_pos rfl]
  unfold synthesize
  rw [frozen]
  apply delivers_look (Store.Alters.refl begun)
  intro naming alters
  rw [alters.hierarchy]
  apply Program.Delivers.andThen
  apply Program.Delivers.andThen
  apply delivers_issue alters
  intro now alters
  apply Program.Delivers.observe
  intro named still
  have alters := alters.still still
  rw [view alters]
  apply delivers_look alters
  intro qualified alters
  rw [view alters]
  apply Program.Delivers.andThen
  apply Program.Delivers.perform
  intro recorded still
  refine ⟨_, _, rfl, ?_⟩
  have alters := (alters.still still).record (.classBegun (synthesizer.nextName base) spec)
  apply delivers_look alters
  intro dumping alters
  rw [view alters]
  have unmoved : (synthesizer.afterIssue base).dumpDirectory = synthesizer.dumpDirectory := rfl
  simp only [unmoved]
  cases dumps : synthesizer.dumpDirectory with
  | none =>
      have attempted :
          synthesizer.Attempts (synthesizer.afterIssue base) begun.files begun.files base :=
        Synthesizer.attempts_afterIssue (fun _ => rfl) (by simp [dumps])
      exact delivers_defineListed _ alters attempted
  | some directory =>
      apply Program.Delivers.andThen
      apply (delivers_writeListing alters).weaken
      rintro outcome after ⟨later, alters, lists⟩
      have attempted :
          synthesizer.Attempts (synthesizer.afterIssue base) begun.files later base := by
        refine Synthesizer.attempts_afterIssue (by simp [dumps]) fun other same => ?_
        cases dumps.symm.trans same
        exact lists
      cases outcome with
      | error fault => exact fun _ => ⟨synthesizer.afterIssue base, later, alters, attempted⟩
      | ok _ => exact delivers_defineListed _ alters attempted

end SynthesizerId

/-! ## A failed definition -/

namespace Store

/-- What a definition that fails leaves as it was. -/
structure Withstands (factory : FactoryId) (before after : Store) : Prop where
  hierarchy : after.hierarchy = before.hierarchy
  types : after.types = before.types
  initState : after.initState = before.initState
  heap : after.heap = before.heap
  factories : forall other, after.factory other = before.factory other
  bindings : forall registry cls,
    (after.registry registry).lookup cls = (before.registry registry).lookup cls
  loaders : forall loader, after.loader loader = before.loader loader
  synthesizers : forall other, other ≠ (before.factory factory).synthesizer ->
    after.synthesizer other = before.synthesizer other

/-- What a definition that fails leaves. Only if the kernel faulted, a class was attempted. -/
structure Fails (factory : FactoryId) (before : Store) (fault : Fault) (after : Store) : Prop
    extends before.Withstands factory after where
  refused : (forall cause, fault ≠ .internal cause) ->
    after.factorySynthesizer factory = before.factorySynthesizer factory ∧
      after.files = before.files
  attempted : forall cause, fault = .internal cause ->
    exists cls, before.hierarchy.Declared cls ∧
      (before.factorySynthesizer factory).Attempts (after.factorySynthesizer factory) before.files
        after.files (before.hierarchy.simpleName cls)

variable {start middle after : Store} {synthesizers : Table Synthesizer} {files : FileTree}
  {id : FactoryId} {thread : ThreadId}

/-- Giving back a lock leaves the alterations. -/
theorem Alters.released (alters : middle.Alters synthesizers files after) :
    (middle.released id thread).Alters synthesizers files (after.released id thread) := by
  obtain ⟨same, progress, guards, records, loaders, kept, rfl⟩ := alters
  exact ⟨same, progress, guards, records, loaders, kept, rfl⟩

/-- A thread alone has left as it was what it has not altered. -/
theorem withstands_of_alters {escalates : start.Escalates id}
    (fits : (Stage.alone id start escalates).fits (start.scene id) middle)
    (alters : middle.Alters synthesizers files after)
    (others : forall other : SynthesizerId, other ≠ (start.factory id).synthesizer ->
      synthesizers.get other.index = start.synthesizer other) : start.Withstands id after := by
  obtain ⟨⟨factory, bound, -, -⟩, types, elsewhere⟩ := fits
  obtain ⟨same, progress, guards, records, loaders, kept, rfl⟩ := alters
  refine ⟨elsewhere.hierarchy, types, same.trans elsewhere.initState, elsewhere.heap,
    fun other => ?_, fun registry cls => ?_, fun loader => ?_, others⟩
  · by_cases own : other = id
    · exact own ▸ factory
    · exact elsewhere.factories other own
  · by_cases own : registry = (start.factory id).registry
    · have lookups := congrFun bound cls
      unfold Store.bound at lookups
      rw [factory] at lookups
      exact own ▸ lookups
    · exact congrArg (·.lookup cls) (elsewhere.registries registry own)
  · exact (kept loader).trans (congrArg (·.get loader.index) elsewhere.loaders)

/-- Refused for its bases or its slots, a definition has changed nothing. -/
theorem fails_of_refused {escalates : start.Escalates id} {fault : Fault}
    (fits : (Stage.alone id start escalates).fits (start.scene id) after)
    (external : forall cause, fault ≠ .internal cause) : start.Fails id fault after := by
  have same : after.synthesizers = start.synthesizers := fits.2.2.synthesizers
  refine { withstands_of_alters fits (.refl after) fun other _ => ?_ with
    refused := fun _ => ⟨?_, fits.2.2.files⟩
    attempted := fun cause internal => absurd internal (external cause) }
  · rw [same]
    rfl
  · unfold factorySynthesizer synthesizer
    rw [same, fits.1.factory]
    rfl

/-- An attempt that failed under the lock has left what it should once the lock is given back. -/
theorem fails_of_attempt {escalates : start.Escalates id} {begun later : Store} {cls : ClassId}
    {outcome : Except Fault ClassId} {cause : Cause InternalFault}
    (free : (start.factory id).lock = .free)
    (fits : (Stage.alone id start escalates).fits ((start.scene id).under thread) begun)
    (declared : start.hierarchy.Declared cls)
    (fails : SynthesizerId.Fails begun (start.factory id).synthesizer
      (begun.hierarchy.simpleName cls) outcome after)
    (refused : outcome.isOk = false) (still : after.Still later) :
    start.Fails id (.internal cause) (later.released id thread) := by
  obtain ⟨issued, files, alters, attempted⟩ := fails refused
  have restored : (Stage.alone id start escalates).fits (start.scene id)
      (begun.released id thread) := Scene.fits_released free rfl fits
  have altered : (begun.released id thread).Alters
      (begun.synthesizers.set (start.factory id).synthesizer.index issued) files
        (later.released id thread) := (alters.still still).released
  obtain ⟨-, -, elsewhere⟩ := fits
  have same : begun.synthesizers = start.synthesizers := elsewhere.synthesizers
  have before : begun.synthesizer (start.factory id).synthesizer =
      start.synthesizer (start.factory id).synthesizer :=
    congrArg (·.get (start.factory id).synthesizer.index) same
  rw [before, elsewhere.files, elsewhere.hierarchy] at attempted
  have withstands := withstands_of_alters restored altered fun other different => by
    have apart : (start.factory id).synthesizer.index ≠ other.index :=
      fun here => different (congrArg SynthesizerId.mk here).symm
    rw [Table.get_set, if_neg apart, same]
    rfl
  have wired : (later.released id thread).factorySynthesizer id = issued := by
    unfold factorySynthesizer
    rw [withstands.factories id, altered.synthesizer_eq, Table.get_set, if_pos rfl]
  refine { withstands with
    refused := fun external => absurd rfl (external cause)
    attempted := fun _ _ => ⟨cls, declared, ?_⟩ }
  rw [wired, altered.files_eq]
  exact attempted

end Store

/-- A draft is refused for the bases or the slots. -/
theorem Inheritance.refused_drafted {hierarchy : Hierarchy} {types : TypeTable} {name : String}
    {bases : List TypeId} {declared : Option (List String)} {dict : Bool} {fault : Fault}
    (drafts : drafted hierarchy types name bases declared dict = .error fault)
    (cause : Cause InternalFault) : fault ≠ .internal cause := by
  rintro rfl
  unfold drafted at drafts
  split at drafts
  · cases drafts
  · split at drafts <;> cases drafts

namespace Machine

variable {σ : Type} {code : ClientCode σ} {machine : Machine (Clients σ)} {factory : FactoryId}
  {bases : List TypeId} {name : String} {declared : Option (List String)} {dict : Bool}
  {thread : ThreadId}

/-- How definitions fail on any stage. -/
theorem Reachable.delivers_failing {stage : Stage factory} {post : Fault -> Store -> Prop}
    (reachable : machine.Reachable code) (offers : machine.store.Offers factory bases)
    (spares : forall before after, stage.around before after -> Store.Spares factory before after)
    (fits : stage.fits (machine.store.scene factory) machine.store)
    (refused : forall fault after, (forall cause, fault ≠ .internal cause) ->
      stage.fits (machine.store.scene factory) after -> post fault after)
    (failed : forall spec begun, spec.Plain -> machine.store.hierarchy.Declared spec.base ->
      stage.fits ((machine.store.scene factory).under thread) begun ->
        ((machine.store.factory factory).synthesizer.synthesize spec :
          Request (Clients σ) ClassId).run.Delivers thread stage.around begun fun outcome after =>
            forall cause, outcome = .error (.internal cause) ->
              ((machine.store.scene factory).under thread).Fits factory after ->
                forall later, stage.around after later ->
                  post (.internal cause) (later.released factory thread)) :
    (factory.defineClass name bases declared dict : Request (Clients σ) TypeId).run.Delivers
      thread stage.around machine.store
      fun outcome after => forall fault, outcome = .error fault -> post fault after := by
  obtain ⟨root, canonical⟩ := reachable.canonical
  let effective := (machine.store.factory factory).effectiveBases bases
  let drafted := Inheritance.drafted machine.store.hierarchy machine.store.types name effective
    declared dict
  have sound : forall spec, drafted = .ok spec ->
      spec.Plain ∧ machine.store.hierarchy.Declared spec.base :=
    fun spec drafts => Inheritance.declared_drafted drafts root canonical
  refine Scene.delivers_define (drafted = ·) spares fits (reachable.poised offers.free) ?_ sound
    ?_ ?_ ?_ ?_
  · intro first second fits further
    exact (Scene.drafted_later (stage.shows further).hierarchy (stage.shows fits).types root
      offers.whole canonical).symm
  · rintro fault after drafts fits _ ⟨⟩
    exact refused fault after (Inheritance.refused_drafted drafts) fits
  · intro spec cls type next after _ _ _ _ fault answered
    cases answered
  · intro spec begun drafts _ fits
    obtain ⟨plain, base⟩ := sound spec drafts
    apply (failed spec begun plain base fits).weaken
    rintro outcome after fails cause same shows later around _ ⟨⟩
    exact fails cause same shows later around
  · intro spec cls hierarchy type next after _ _ _ _ _ fault answered
    cases answered

/-- Amid other threads, a definition that fails leaves the factory and the bindings of its
registry. -/
theorem Reachable.delivers_spared (reachable : machine.Reachable code)
    (offers : machine.store.Offers factory bases) :
    (factory.defineClass name bases declared dict : Request (Clients σ) TypeId).run.Delivers
      thread (Store.Spares factory) machine.store
      fun outcome after => forall fault, outcome = .error fault ->
        after.factory factory = machine.store.factory factory ∧
          after.bound factory = machine.store.bound factory := by
  let stage : Stage factory := .amid factory
  have delivers : (factory.defineClass name bases declared dict :
      Request (Clients σ) TypeId).run.Delivers thread stage.around machine.store
        fun outcome after => forall fault, outcome = .error fault ->
          after.factory factory = machine.store.factory factory ∧
            after.bound factory = machine.store.bound factory := by
    refine reachable.delivers_failing offers (fun _ _ spares => spares)
      (machine.store.fits_scene factory) (fun _ _ _ fits => ⟨fits.factory, fits.bound⟩) ?_
    intro spec begun plain base fits
    apply (Scene.delivers_synthesize plain base fits).weaken
    rintro outcome after - cause - shows later around
    have restored : stage.fits (machine.store.scene factory) (later.released factory thread) :=
      Scene.fits_released offers.free rfl (stage.spared shows around)
    exact ⟨restored.factory, restored.bound⟩
  exact delivers

/-- Alone, a definition that fails leaves what it should. -/
theorem Reachable.delivers_fails (reachable : machine.Reachable code)
    (founded : factory.index < machine.store.factories.size)
    (offers : machine.store.Offers factory bases) :
    (factory.defineClass name bases declared dict : Request (Clients σ) TypeId).run.Delivers
      thread Store.Still machine.store
      fun outcome after => forall fault, outcome = .error fault ->
        machine.store.Fails factory fault after := by
  let stage : Stage factory := .alone factory machine.store (reachable.escalates founded)
  have delivers : (factory.defineClass name bases declared dict :
      Request (Clients σ) TypeId).run.Delivers thread stage.around machine.store
        fun outcome after => forall fault, outcome = .error fault ->
          machine.store.Fails factory fault after := by
    refine reachable.delivers_failing offers (fun _ _ still => still.spares factory)
      ⟨machine.store.fits_scene factory, rfl, .refl _⟩
      (fun fault after external fits => Store.fails_of_refused fits external) ?_
    intro spec begun plain base fits
    have frozen : spec.isFrozen = true := by
      unfold Specification.isFrozen
      rw [plain.frozen]
      rfl
    apply (SynthesizerId.delivers_attempt frozen thread).weaken
    rintro outcome after fails cause rfl shows later still
    exact Store.fails_of_attempt offers.free fits base fails rfl still
  exact delivers

/-- A definition that fails leaves the factory and the bindings of its registry as they were,
whatever the other threads do that spares them. When the thread goes on alone, all classes, types,
bindings and factories are as they were, and so are the names that loaders have defined. If the
definition was refused for its bases or its slots, nothing else has changed either. If the kernel
faulted, the counter of one base has moved on by one, and besides directories on the way to the dump
directory at most the listing of one class is different, which is in the dump directory if there is
no slash in the name of the class. -/
theorem failed_definition (reachable : machine.Reachable code)
    (founded : factory.index < machine.store.factories.size)
    (offers : machine.store.Offers factory bases) (name : String)
    (declared : Option (List String)) (dict : Bool) (thread : ThreadId) :
    let request : Request (Clients σ) TypeId := factory.defineClass name bases declared dict
    let leaves (outcome : Except Fault TypeId) (after : Store) : Prop :=
      forall fault, outcome = .error fault -> machine.store.Fails factory fault after
    (request.run.Delivers thread (Store.Spares factory) machine.store fun outcome after =>
      forall fault, outcome = .error fault ->
        after.factory factory = machine.store.factory factory ∧
          after.bound factory = machine.store.bound factory) ∧
    request.run.Delivers thread Store.Still machine.store leaves ∧
    forall next frames,
      machine.threads[thread.index]? = some (.running (request.run.bind next) frames) ->
        exists outcome later, leaves outcome later.store ∧ later.host = machine.host ∧
          later.threads[thread.index]? = some (.running (next outcome) frames) ∧
            Machine.Steps code.host machine later := by
  intro request leaves
  have alone : request.run.Delivers thread Store.Still machine.store leaves :=
    reachable.delivers_fails founded offers
  exact ⟨reachable.delivers_spared offers, alone, fun _ _ =>
    alone.steps reachable.guarded code.guarded_host Store.still_guards⟩

/-- Host code that defines a class over one whose name is a path. Listings went to the directory on
that path before they were sent elsewhere. -/
def listingElsewhere : Client Unit (Except Fault Unit) :=
  .call (.makeFactory
      { template := "\x7bbase\x7d\x7bn\x7d", dumpDirectory := some "/tmp/first" }) fun _ =>
    .call (.defineClass ⟨0⟩ "Plain" [] none false) fun _ =>
      .call (.redirect ⟨0⟩ (some "/tmp/second")) fun _ =>
        .call (.declare { name := "/tmp/first/x" }) fun _ =>
          .call (.create ⟨0⟩ { name := "Base", primary := ⟨11⟩ }) fun _ =>
            .call (.defineClass ⟨0⟩ "Derived" [⟨3⟩] (some ["$type"]) false) fun _ => .done (.ok ())

/-- A slot with the name of a field is refused, once the class is attempted. -/
theorem failed_definition_listingElsewhere :
    let machine := Machine.run ClientCode.quiet.host 92 (opening listingElsewhere ())
    (FactoryId.defineClass ⟨0⟩ "Derived" [⟨3⟩] (some ["$type"]) false :
        Request (Clients Unit) TypeId).run.Delivers ⟨0⟩ Store.Still machine.store
      fun outcome after => forall fault, outcome = .error fault ->
        machine.store.Fails ⟨0⟩ fault after := by
  intro machine
  have reachable : machine.Reachable ClientCode.quiet :=
    reachable_run ClientCode.quiet listingElsewhere () 92
  have base : (machine.store.factory ⟨0⟩).lock = .free ∧ 0 < machine.store.factories.size ∧
      3 < machine.store.types.types.size ∧
        (machine.store.types.row ⟨3⟩).primary.index < machine.store.hierarchy.rows.size ∧
          (machine.store.types.row ⟨3⟩).sharedRepresentation = none := by decide +kernel
  clear_value machine
  obtain ⟨free, founded, made, primary, unshared⟩ := base
  have offers : machine.store.Offers ⟨0⟩ [⟨3⟩] := by
    refine ⟨free, fun base given => ?_⟩
    obtain rfl := List.mem_singleton.mp given
    exact ⟨made, primary, by simp [unshared]⟩
  exact (failed_definition reachable founded offers "Derived" (some ["$type"]) false ⟨0⟩).2.1

/-- The listing of a class that failed is not always in the dump directory. -/
theorem listing_elsewhere :
    let before := Machine.run ClientCode.quiet.host 92 (opening listingElsewhere ())
    let after := Machine.run ClientCode.quiet.host 20 before
    let fault : Fault := .internal (.found (.malformedBody "typeforge.subclasses./tmp/first/x1"
      (.duplicateField "$type")))
    let place := ["/", "tmp", "first", "x1.class.txt"]
    after.host.calls[5]?.bind (·.definition?) =
      some { name := "Derived", bases := [⟨3⟩], declared := some ["$type"], dict := false
             outcome := .error fault } ∧
    (before.store.factorySynthesizer ⟨0⟩).dumpDirectory = some "/tmp/second" ∧
    ¬ Path.place "/tmp/second" <+: place ∧
    before.store.files.isFile place = false ∧ after.store.files.isFile place = true := by
  intro before after fault place
  decide +kernel

end Machine

end GuestTypes
