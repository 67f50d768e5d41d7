import GuestTypes.Proofs.DistinctNames
import GuestTypes.Proofs.Dumping
import GuestTypes.Proofs.Loading
import Mathlib.Data.List.TakeWhile

/-!
# Listings of classes

The listing of a class goes to a file that is named after the simple name of the class, which is
what stands behind the last dot of its name, and it replaces what that file held. So a synthesizer
that is asked for one class after another leaves at each place the listing of the last class that
was written there. The loader sees to it that the names of the classes are different. If the
template has no dot and there are no slashes then so are the simple names, and each class has a
file of its own.
-/

namespace GuestTypes

/-! ## Names without a dot -/

namespace Text

variable {pattern replacement text : List Char}

/-- Each character of the result is one of the replacement or of the text. -/
theorem mem_substitute (nonempty : pattern ≠ []) {c : Char}
    (member : c ∈ substitute pattern replacement text) : c ∈ replacement ∨ c ∈ text := by
  induction text using occurrence_induction nonempty with
  | nil => cases member
  | hit rest inductionHypothesis =>
      rw [substitute_append_self nonempty] at member
      rcases List.mem_append.mp member with given | later
      · exact .inl given
      · exact (inductionHypothesis later).imp_right (List.mem_append_right _)
  | miss first rest absent inductionHypothesis =>
      rw [substitute_cons absent] at member
      rcases List.mem_cons.mp member with rfl | later
      · exact .inr List.mem_cons_self
      · exact (inductionHypothesis later).imp_right (List.mem_cons_of_mem _)

/-- The simple name is what follows the last dot. -/
theorem toList_simpleName (name : String) :
    (simpleName name).toList = (name.toList.reverse.takeWhile (· ≠ '.')).reverse := by
  simp [simpleName]

/-- There is no dot in a simple name. -/
theorem dot_not_mem_simpleName (name : String) : '.' ∉ (simpleName name).toList := by
  rw [toList_simpleName, List.mem_reverse]
  intro member
  simpa using List.mem_takeWhile_imp member

/-- A name without a dot is the simple name of what it is qualified to. -/
theorem simpleName_qualified {package simple : String} (undotted : '.' ∉ simple.toList) :
    simpleName (qualified package simple) = simple := by
  have all : forall c, c ∈ simple.toList.reverse -> decide (c ≠ '.') = true := by
    intro c member
    refine decide_eq_true ?_
    rintro rfl
    exact undotted (List.mem_reverse.mp member)
  apply String.toList_injective
  rw [toList_simpleName]
  unfold qualified
  split
  · rw [List.takeWhile_eq_self_iff.mpr all, List.reverse_reverse]
  · have split : (package ++ "." ++ simple).toList.reverse =
        simple.toList.reverse ++ '.' :: package.toList.reverse := by simp
    rw [split, List.takeWhile_append_of_pos all, List.takeWhile_cons_of_neg (by simp),
      List.append_nil, List.reverse_reverse]

end Text

namespace Configuration

variable {config : Configuration} {base : String} {number : Nat} {c : Char}

/-- The characters of a class name are those of the template, of the base and digits. -/
theorem mem_simpleClassName (member : c ∈ (config.simpleClassName base number).toList) :
    c.isDigit = true ∨ c ∈ base.toList ∨ c ∈ config.template.toList := by
  rw [toList_simpleClassName] at member
  rcases Text.mem_substitute numberPlaceholder_ne_nil member with digit | based
  · exact .inl (List.all_eq_true.mp (digits_toString number) c digit)
  · exact .inr (Text.mem_substitute basePlaceholder_ne_nil based)

end Configuration

/-! ## One file -/

namespace FileTree

variable {tree : FileTree} {path text : String} {place : List String}

/-- A file that was written takes the place of what was there. -/
theorem files_write (written : (tree.write path text).1 = .ok ()) :
    (tree.write path text).2.files =
      tree.files.filter (·.1 != Path.place path) ++ [(Path.place path, text)] := by
  unfold write at written ⊢
  split at written
  · cases written
  rename_i noZero
  rw [if_neg noZero]
  split at written
  · cases written
  rename_i nonempty
  rw [if_neg nonempty]
  dsimp only at written ⊢
  split at written
  · cases written
  rename_i free
  split at written
  · cases written
  rename_i noDirectory
  rw [if_neg noDirectory]

/-- A file that was written has the text. -/
theorem file?_write (written : (tree.write path text).1 = .ok ()) :
    (tree.write path text).2.file? (Path.place path) = some text := by
  unfold file?
  have cleared : (tree.files.filter (·.1 != Path.place path)).find? (·.1 == Path.place path) =
      none := by
    simp [List.find?_filter]
  rw [files_write written, List.find?_append, cleared]
  simp

/-- Making directories changes no file. -/
theorem file?_makeDirectories (tree : FileTree) (path : String) (place : List String) :
    (tree.makeDirectories path).2.file? place = tree.file? place :=
  (lists_makeDirectories (place ++ [""]) tree path).files place (by simp)

end FileTree

/-- The listing of a body tells the names of the classes that it mentions, which stay. -/
theorem ClassBody.listing_later {before after : Hierarchy} {body : ClassBody}
    (known : body.Known before) (extends_ : before.Extends after) :
    body.listing after = body.listing before := by
  have same : forall cls, before.Declared cls -> after.name cls = before.name cls :=
    fun cls declared => congrArg HostClass.name (extends_.row cls declared)
  have names : body.interfaces.map after.name = body.interfaces.map before.name :=
    List.map_congr_left fun iface member => same iface (known.2 iface member)
  unfold listing
  rw [same _ known.1, names]

/-! ## What a synthesis leaves as it is -/

namespace Store

variable {id : SynthesizerId} {first middle last : Store}

/-- Classes may be declared and their names taken, and numbers may be issued, but a synthesizer
keeps its settings. -/
structure Furthers (id : SynthesizerId) (before after : Store) : Prop where
  hierarchy : before.hierarchy.Extends after.hierarchy
  config : (after.synthesizer id).config = (before.synthesizer id).config
  loader : (after.synthesizer id).loader = (before.synthesizer id).loader
  dumps : (after.synthesizer id).dumpDirectory = (before.synthesizer id).dumpDirectory
  defined : (before.loader (before.synthesizer id).loader).defined ⊆
    (after.loader (before.synthesizer id).loader).defined

theorem Furthers.refl (id : SynthesizerId) (store : Store) : store.Furthers id store :=
  ⟨.refl _, rfl, rfl, rfl, List.Subset.refl _⟩

theorem Furthers.trans (early : first.Furthers id middle) (late : middle.Furthers id last) :
    first.Furthers id last where
  hierarchy := early.hierarchy.trans late.hierarchy
  config := late.config.trans early.config
  loader := late.loader.trans early.loader
  dumps := late.dumps.trans early.dumps
  defined := by
    intro name member
    have later := late.defined
    rw [early.loader] at later
    exact later (early.defined member)

/-- A name that was taken stays taken. -/
theorem Furthers.mem_defined {loader : LoaderId} {name : String} (furthers : first.Furthers id last)
    (same : (first.synthesizer id).loader = loader)
    (member : name ∈ (first.loader loader).defined) :
    name ∈ (last.loader loader).defined := by
  subst same
  exact furthers.defined member

/-- So much may happen around a synthesizer that writes listings, and no file is changed. -/
structure Respects (id : SynthesizerId) (before after : Store) : Prop
    extends before.Furthers id after where
  files : after.files = before.files

/-- What is respected twice is respected. -/
theorem Respects.trans (early : first.Respects id middle) (late : middle.Respects id last) :
    first.Respects id last :=
  ⟨early.toFurthers.trans late.toFurthers, late.files.trans early.files⟩

end Store

namespace SynthesizerId

variable {σ : Type} {thread : ThreadId} {id : SynthesizerId} {start now : Store}
  {spec : Specification} {body : ClassBody} {directory : String}

/-- Where the listing of a body goes. -/
def listingPlace (directory : String) (body : ClassBody) : List String :=
  Path.place (listingPath directory body)

/-- A body was listed: the file has the listing, in which classes have the names that they had when
it was written, and no other file is different. -/
structure Writes (directory : String) (start : Store) (body : ClassBody)
    (after : Store) : Prop where
  listed : exists found, start.hierarchy.Extends found ∧ found.Extends after.hierarchy ∧
    after.files.file? (listingPlace directory body) = some (body.listing found ++ "\n")
  elsewhere : forall place, place ≠ listingPlace directory body ->
    after.files.file? place = start.files.file? place

/-- A listing stays as long as no other one is written. -/
theorem Writes.later {listed after : Store} (lists : Writes directory start body listed)
    (respects : listed.Respects id after) : Writes directory start body after := by
  obtain ⟨⟨found, early, late, text⟩, elsewhere⟩ := lists
  refine ⟨⟨found, early, late.trans respects.hierarchy, ?_⟩, fun place other => ?_⟩
  · rw [respects.files, text]
  · rw [respects.files, elsewhere place other]

/-- A listing that is written is found where it belongs. -/
theorem writeListing_writes (id : SynthesizerId) (directory : String) (body : ClassBody)
    (now : Store) :
    (writeListing directory body : Request σ Unit).run.Delivers thread (Store.Respects id) now
      fun outcome after => outcome = .ok () -> now.Furthers id after ∧
          Writes directory now body after := by
  apply Program.Delivers.andThen
  apply Program.Delivers.perform
  intro making respects
  let made : Store := { making with files := (making.files.makeDirectories directory).2 }
  refine ⟨(making.files.makeDirectories directory).1, made,
    Action.perform_makeDirectories thread making directory, ?_⟩
  have begun : now.Furthers id made :=
    ⟨respects.hierarchy, respects.config, respects.loader, respects.dumps, respects.defined⟩
  cases (making.files.makeDirectories directory).1 with
  | error problem => rintro ⟨⟩
  | ok _ =>
      apply Program.Delivers.andThen
      apply Program.Delivers.observe
      intro looking looked
      apply Program.Delivers.andThen
      apply Program.Delivers.perform
      intro writing kept
      let text := body.listing looking.hierarchy ++ "\n"
      let path := listingPath directory body
      have performed := Action.perform_writeFile thread writing path text
      have writes : (writing.files.write path text).1 = .ok () ->
          (writing.files.write path text).2.file? (Path.place path) = some text :=
        FileTree.file?_write
      have others := (FileTree.lists_write [] writing.files path text).files
      generalize writing.files.write path text = result at performed writes others
      refine ⟨result.1, _, performed, ?_⟩
      cases done : result.1 with
      | error problem => rintro ⟨⟩
      | ok _ =>
          intro _
          have later := (begun.trans looked.toFurthers).trans kept.toFurthers
          refine ⟨⟨later.hierarchy, later.config, later.loader, later.dumps, later.defined⟩, ?_, ?_⟩
          · exact ⟨looking.hierarchy, (begun.trans looked.toFurthers).hierarchy, kept.hierarchy,
              writes done⟩
          · intro place other
            refine (others place other).trans ?_
            rw [kept.files, looked.files]
            show (making.files.makeDirectories directory).2.file? place = _
            rw [FileTree.file?_makeDirectories, respects.files]

/-- What has come of a class that was synthesized. -/
structure Synthesized (id : SynthesizerId) (directory : String) (start : Store)
    (spec : Specification) (cls : ClassId) (after : Store) : Prop where
  furthers : start.Furthers id after
  declared : after.hierarchy.Declared cls
  fresh : after.hierarchy.name cls ∉ (start.loader (start.synthesizer id).loader).defined
  taken : after.hierarchy.name cls ∈ (after.loader (start.synthesizer id).loader).defined
  named : exists found number, start.hierarchy.Extends found ∧ found.Extends after.hierarchy ∧
    after.hierarchy.name cls = (start.synthesizer id).config.className
      ((start.synthesizer id).config.simpleClassName (found.simpleName spec.base) number)
  writes : Writes directory start (.realise (after.hierarchy.name cls) spec) after

/-- A number that is issued changes no setting and no file. -/
theorem respects_issue (id : SynthesizerId) (store : Store) (base : String) :
    store.Respects id { store with
      synthesizers := store.synthesizers.set id.index
        ((Synthesizer.Step.issue base).perform (store.synthesizer id)).2 } := by
  have issued : (store.synthesizers.set id.index
      ((Synthesizer.Step.issue base).perform (store.synthesizer id)).2).get id.index =
        ((Synthesizer.Step.issue base).perform (store.synthesizer id)).2 := by
    simp [Table.get_set]
  exact ⟨⟨.refl _, (congrArg Synthesizer.config issued).trans rfl,
    (congrArg Synthesizer.loader issued).trans rfl,
    (congrArg Synthesizer.dumpDirectory issued).trans rfl, List.Subset.refl _⟩, rfl⟩

/-- To record an event respects listings. -/
theorem respects_record (id : SynthesizerId) (store : Store) (event : Record) :
    store.Respects id { store with records := store.records.push event } :=
  ⟨⟨.refl _, rfl, rfl, rfl, List.Subset.refl _⟩, rfl⟩

/-- A name that is taken stays with those that were. -/
theorem respects_claim (id : SynthesizerId) (store : Store) (loader : LoaderId) (name : String) :
    store.Respects id { store with
      loaders := store.loaders.set loader.index
        { defined := (store.loader loader).defined ++ [name] } } := by
  refine ⟨⟨.refl _, rfl, rfl, rfl, ?_⟩, rfl⟩
  intro other member
  unfold Store.loader at member ⊢
  rw [Table.get_set]
  split
  · rename_i same
    rw [same]
    exact List.mem_append_left _ member
  · exact member

/-- Once the listing is written, the loader defines the class if it is free to. -/
theorem define_synthesized {listed : Store} {name : String} (begun : start.Respects id now)
    (lists : Writes directory now (.realise name spec) listed) (furthers : now.Furthers id listed)
    (named : exists found number, start.hierarchy.Extends found ∧ found.Extends now.hierarchy ∧
      name = (start.synthesizer id).config.className
        ((start.synthesizer id).config.simpleClassName (found.simpleName spec.base) number)) :
    ((start.synthesizer id).loader.define (.realise name spec) :
        Request σ ClassId).run.Delivers thread (Store.Respects id) listed
      fun outcome after => forall cls, outcome = .ok cls ->
        Synthesized id directory start spec cls after := by
  apply Program.Delivers.define
  · rintro seen defect - - cls ⟨⟩
  · rintro seen layout claiming - - - - cls ⟨⟩
  · rintro seen layout claiming declaring respects - again free last cls ⟨⟩
    have claims := respects_claim id claiming (start.synthesizer id).loader name
    have known := begun.toFurthers.trans furthers
    have reserved := known.trans (respects.toFurthers.trans again.toFurthers)
    have later := reserved.trans (claims.toFurthers.trans last.toFurthers)
    have grown := declaring.hierarchy.extends_declare
      (LoaderId.hostClass (.realise name spec) layout)
    have called : (declaring.hierarchy.declare
        (LoaderId.hostClass (.realise name spec) layout)).2.name ⟨declaring.hierarchy.rows.size⟩ =
            name := by
      unfold Hierarchy.name
      rw [Hierarchy.row_declare, if_pos rfl]
      rfl
    have files : declaring.files = listed.files :=
      last.files.trans (claims.files.trans (again.files.trans respects.files))
    have onward := (respects.hierarchy.trans again.hierarchy).trans
      ((claims.hierarchy.trans last.hierarchy).trans grown)
    refine ⟨⟨later.hierarchy.trans grown, later.config, later.loader, later.dumps,
      later.defined⟩, ?_, ?_, ?_, ?_, ?_⟩
    · exact declaring.hierarchy.declared_declare _
    · rw [called]
      exact fun member => free (reserved.defined member)
    · rw [called]
      refine last.toFurthers.mem_defined reserved.loader ?_
      simp [Store.loader, Table.get_set, ClassBody.realise]
    · rw [called]
      obtain ⟨found, number, early, late, same⟩ := named
      exact ⟨found, number, early, late.trans (furthers.hierarchy.trans onward), same⟩
    · rw [called]
      obtain ⟨found, early, late, text⟩ := lists.listed
      refine ⟨⟨found, begun.hierarchy.trans early, late.trans onward, ?_⟩, fun place other => ?_⟩
      · rw [← text]
        exact congrArg (FileTree.file? · _) files
      · rw [← begun.files, ← lists.elsewhere place other]
        exact congrArg (FileTree.file? · _) files

/-- A class that is synthesized is listed. -/
theorem synthesize_lists (dumps : (start.synthesizer id).dumpDirectory = some directory)
    (spec : Specification) (thread : ThreadId) :
    (id.synthesize spec : Request σ ClassId).run.Delivers thread (Store.Respects id) start
      fun outcome after => forall cls, outcome = .ok cls ->
        Synthesized id directory start spec cls after := by
  unfold synthesize
  cases spec.isFrozen with
  | false => rintro cls ⟨⟩
  | true =>
      apply Program.Delivers.andThen
      apply Program.Delivers.observe
      intro naming respects
      apply Program.Delivers.andThen
      apply Program.Delivers.andThen
      apply Program.Delivers.perform
      intro issuing again
      refine ⟨_, _, rfl, ?_⟩
      have issued := respects_issue id issuing (naming.hierarchy.simpleName spec.base)
      apply Program.Delivers.observe
      intro viewing viewed
      have since := again.trans (issued.trans viewed)
      apply Program.Delivers.andThen
      apply Program.Delivers.observe
      intro qualifying qualified
      dsimp only
      rw [qualified.config, (respects.trans since).config]
      apply Program.Delivers.andThen
      apply Program.Delivers.perform
      intro recording recorded
      refine ⟨_, _, rfl, ?_⟩
      apply Program.Delivers.andThen
      apply Program.Delivers.observe
      intro dumping dumped
      have since := (since.trans qualified).trans
        (recorded.trans ((respects_record id recording _).trans dumped))
      have begun := respects.trans since
      dsimp only
      rw [begun.dumps, dumps]
      apply Program.Delivers.andThen
      apply (writeListing_writes id directory _ dumping).weaken
      intro outcome listed written
      cases outcome with
      | error fault => rintro cls ⟨⟩
      | ok _ =>
          obtain ⟨furthers, lists⟩ := written rfl
          apply Program.Delivers.andThen
          apply Program.Delivers.observe
          intro loading loaded
          have known := furthers.trans loaded.toFurthers
          dsimp only
          rw [(begun.toFurthers.trans known).loader]
          exact define_synthesized begun (lists.later loaded) known
            ⟨naming.hierarchy, _, respects.hierarchy, since.hierarchy, rfl⟩

end SynthesizerId

/-! ## One class after another -/

/-- A class that was synthesized for a specification, and the classes that there were before. -/
structure Synthesis where
  known : Hierarchy
  spec : Specification
  cls : ClassId

namespace Synthesis

/-- The body that the class was loaded from. -/
def body (made : Synthesis) (hierarchy : Hierarchy) : ClassBody :=
  .realise (hierarchy.name made.cls) made.spec

/-- Where the listing of the class goes. -/
def place (made : Synthesis) (directory : String) (hierarchy : Hierarchy) : List String :=
  SynthesizerId.listingPlace directory (made.body hierarchy)

end Synthesis

namespace SynthesizerId

variable {σ : Type} {thread : ThreadId} {id : SynthesizerId} {start middle next after : Store}
  {spec : Specification} {specs : List Specification} {directory : String}
  {made : List Synthesis}

/-- Synthesize classes one after another, as long as none is refused. -/
def synthesizeEach (id : SynthesizerId) : List Specification -> Request σ (List Synthesis)
  | [] => return []
  | spec :: rest => do
      let known <- Request.observe (·.hierarchy)
      let cls <- id.synthesize spec
      let later <- id.synthesizeEach rest
      return { known, spec, cls } :: later

/-- The file at the place of a class has its listing. -/
def Listed (directory : String) (after : Store) (one : Synthesis) : Prop :=
  after.files.file? (one.place directory after.hierarchy) =
    some ((one.body after.hierarchy).listing after.hierarchy ++ "\n")

/-- What has come of classes that were synthesized one after another. -/
structure ListsEach (id : SynthesizerId) (directory : String) (start : Store)
    (specs : List Specification) (made : List Synthesis) (after : Store) : Prop where
  furthers : start.Furthers id after
  each : made.map (·.spec) = specs
  distinct : (made.map fun one => after.hierarchy.name one.cls).Nodup
  fresh : forall one, one ∈ made ->
    after.hierarchy.name one.cls ∉ (start.loader (start.synthesizer id).loader).defined
  named : forall one, one ∈ made ->
    exists (found : Hierarchy) (number : Nat), found.Extends after.hierarchy ∧
      after.hierarchy.name one.cls = (start.synthesizer id).config.className
        ((start.synthesizer id).config.simpleClassName (found.simpleName one.spec.base) number)
  /-- The last listing that goes to a place stays there. -/
  latest : forall earlier one later, made = earlier ++ one :: later ->
    (one.body after.hierarchy).Known one.known ->
    (forall other, other ∈ later ->
      other.place directory after.hierarchy ≠ one.place directory after.hierarchy) ->
      Listed directory after one
  elsewhere : forall place,
    (forall one, one ∈ made -> place ≠ one.place directory after.hierarchy) ->
    after.files.file? place = start.files.file? place

/-- Before anything is synthesized nothing is listed. -/
theorem ListsEach.nil (respects : start.Respects id after) :
    ListsEach id directory start [] [] after where
  furthers := respects.toFurthers
  each := rfl
  distinct := List.nodup_nil
  fresh := nofun
  named := nofun
  latest := by simp
  elsewhere := fun place _ => by rw [respects.files]

/-- One class, and those after it. -/
theorem ListsEach.cons {cls : ClassId} (respects : start.Respects id middle)
    (synthesized : Synthesized id directory middle spec cls next)
    (lists : ListsEach id directory next specs made after) :
    ListsEach id directory start (spec :: specs)
      ({ known := middle.hierarchy, spec, cls } :: made) after := by
  let one : Synthesis := { known := middle.hierarchy, spec, cls }
  have name : after.hierarchy.name cls = next.hierarchy.name cls :=
    congrArg HostClass.name (lists.furthers.hierarchy.row cls synthesized.declared)
  have body : one.body after.hierarchy = .realise (next.hierarchy.name cls) spec :=
    congrArg (ClassBody.realise · spec) name
  have begun := respects.toFurthers.trans synthesized.furthers
  have place : one.place directory after.hierarchy =
      listingPlace directory (.realise (next.hierarchy.name cls) spec) :=
    congrArg (listingPlace directory) body
  refine ⟨begun.trans lists.furthers, congrArg (spec :: ·) lists.each, ?_, ?_, ?_, ?_, ?_⟩
  · refine List.nodup_cons.mpr ⟨fun again => ?_, lists.distinct⟩
    obtain ⟨other, member, same⟩ := List.mem_map.mp again
    apply lists.fresh other member
    rw [same, begun.loader, ← respects.loader]
    show after.hierarchy.name cls ∈ _
    rw [name]
    exact synthesized.taken
  · intro other member old
    rcases List.mem_cons.mp member with rfl | member
    · apply synthesized.fresh
      rw [← name, respects.loader]
      exact respects.defined old
    · apply lists.fresh other member
      rw [begun.loader]
      exact begun.defined old
  · intro other member
    rcases List.mem_cons.mp member with rfl | member
    · obtain ⟨found, number, -, late, same⟩ := synthesized.named
      refine ⟨found, number, late.trans lists.furthers.hierarchy, ?_⟩
      rw [name, same, respects.config]
    · rw [← begun.config]
      exact lists.named other member
  · intro earlier other later split known apart
    cases earlier with
    | nil =>
        obtain ⟨rfl, rfl⟩ := List.cons.inj split
        obtain ⟨found, early, late, text⟩ := synthesized.writes.listed
        have same : (one.body after.hierarchy).listing after.hierarchy =
            (one.body after.hierarchy).listing found :=
          (ClassBody.listing_later known (early.trans (late.trans lists.furthers.hierarchy))).trans
            (ClassBody.listing_later known early).symm
        show after.files.file? (one.place directory after.hierarchy) = _
        rw [lists.elsewhere _ fun later member => (apart later member).symm, same,
          place, text, body]
    | cons first earlier =>
        obtain ⟨rfl, rfl⟩ := List.cons.inj split
        exact lists.latest earlier other later rfl known apart
  · intro other apart
    rw [lists.elsewhere other fun later member => apart later (List.mem_cons_of_mem _ member),
      synthesized.writes.elsewhere other (place ▸ apart one List.mem_cons_self), respects.files]

/-- A request for several classes lists each class that it makes. -/
theorem synthesizeEach_lists (dumps : (start.synthesizer id).dumpDirectory = some directory)
    (specs : List Specification) (thread : ThreadId) :
    (id.synthesizeEach specs : Request σ (List Synthesis)).run.Delivers thread (Store.Respects id)
      start fun outcome after => forall made, outcome = .ok made ->
        ListsEach id directory start specs made after := by
  induction specs generalizing start with
  | nil =>
      rintro made ⟨⟩
      exact .nil ⟨.refl id start, rfl⟩
  | cons spec rest inductionHypothesis =>
      apply Program.Delivers.andThen
      apply Program.Delivers.observe
      intro known respects
      apply Program.Delivers.andThen
      apply (synthesize_lists (respects.dumps.trans dumps) spec thread).weaken
      intro outcome next synthesized
      cases outcome with
      | error fault => rintro made ⟨⟩
      | ok cls =>
          have one := synthesized cls rfl
          have begun := respects.toFurthers.trans one.furthers
          apply Program.Delivers.andThen
          apply (inductionHypothesis (begun.dumps.trans dumps)).weaken
          intro outcome after lists
          cases outcome with
          | error fault => rintro made ⟨⟩
          | ok made =>
              rintro _ ⟨⟩
              exact .cons respects one (lists made rfl)

/-! ## Files of their own -/

/-- No dot comes from the template and no slash from the template or the base. -/
structure Flat (config : Configuration) (base : String) : Prop where
  undotted : '.' ∉ config.template.toList
  template : '/' ∉ config.template.toList
  base : '/' ∉ base.toList

variable {config : Configuration}

/-- Then the simple name that the template gives is that of the class, and its listing is in the
directory under that name. -/
theorem listingPlace_eq {base : String} (flat : Flat config base) (simple : '.' ∉ base.toList)
    (number : Nat) (directory : String) (spec : Specification) :
    listingPlace directory (.realise (config.className (config.simpleClassName base number)) spec) =
      Path.place directory ++ [config.simpleClassName base number ++ ".class.txt"] := by
  have undotted : '.' ∉ (config.simpleClassName base number).toList := by
    intro member
    rcases Configuration.mem_simpleClassName member with digit | based | given
    · cases digit
    · exact simple based
    · exact flat.undotted given
  have plain : '/' ∉ (config.simpleClassName base number).toList := by
    intro member
    rcases Configuration.mem_simpleClassName member with digit | based | given
    · cases digit
    · exact flat.base based
    · exact flat.template given
  have named : (ClassBody.realise (config.className (config.simpleClassName base number))
      spec).simpleName = config.simpleClassName base number := Text.simpleName_qualified undotted
  unfold listingPlace listingPath
  rw [named]
  exact Path.place_join (Path.plain_listing plain)

/-- What the simple name of a class was earlier, unless the class is newer. -/
theorem simpleName_earlier {found later : Hierarchy} (extends_ : found.Extends later)
    (cls : ClassId) :
    found.simpleName cls = later.simpleName cls ∨ found.simpleName cls = "object" := by
  by_cases declared : found.Declared cls
  · exact .inl (congrArg HostClass.simpleName (extends_.row cls declared)).symm
  · refine .inr ?_
    unfold Hierarchy.simpleName
    rw [Hierarchy.row_eq_root declared]
    decide

/-- Classes that were synthesized one after another have files of their own. -/
theorem ListsEach.own (lists : ListsEach id directory start specs made after)
    (flat : forall one, one ∈ made ->
      Flat (start.synthesizer id).config (after.hierarchy.simpleName one.spec.base)) :
    (made.map (·.place directory after.hierarchy)).Nodup := by
  let config := (start.synthesizer id).config
  have placed : forall one, one ∈ made -> exists simple,
      after.hierarchy.name one.cls = config.className simple ∧
        one.place directory after.hierarchy = Path.place directory ++ [simple ++ ".class.txt"] := by
    intro one member
    obtain ⟨found, number, extends_, named⟩ := lists.named one member
    refine ⟨_, named, ?_⟩
    have flat := flat one member
    have based : Flat config (found.simpleName one.spec.base) := by
      rcases simpleName_earlier extends_ one.spec.base with same | root
      · rw [same]
        exact flat
      · exact ⟨flat.undotted, flat.template, by rw [root]; decide⟩
    unfold Synthesis.place Synthesis.body
    rw [named]
    exact listingPlace_eq based (Text.dot_not_mem_simpleName _) number directory one.spec
  have distinct := List.pairwise_map.mp lists.distinct
  refine List.pairwise_map.mpr
    (distinct.imp_of_mem fun {first second} member member_ apart same => ?_)
  obtain ⟨simple, named, place⟩ := placed first member
  obtain ⟨other, named_, place_⟩ := placed second member_
  rw [place, place_, List.append_cancel_left_eq, List.singleton_inj, String.append_left_inj] at same
  exact apart (by rw [named, named_, same])

/-- Each listing stays if no other one goes to its place. -/
theorem ListsEach.listed (lists : ListsEach id directory start specs made after)
    (own : (made.map (·.place directory after.hierarchy)).Nodup) {one : Synthesis}
    (member : one ∈ made) (known : (one.body after.hierarchy).Known one.known) :
    Listed directory after one := by
  obtain ⟨earlier, later, rfl⟩ := List.append_of_mem member
  refine lists.latest earlier one later rfl known fun other after_ => ?_
  have apart := (List.pairwise_append.mp (List.pairwise_map.mp own)).2.1
  exact ((List.pairwise_cons.mp apart).1 other after_).symm

/-- The last listing that goes to a place stays there; and if no dot comes into the simple names of
the classes and no slash then each of them goes to a place of its own. -/
theorem listings_kept (dumps : (start.synthesizer id).dumpDirectory = some directory)
    (specs : List Specification) (thread : ThreadId) :
    (id.synthesizeEach specs : Request σ (List Synthesis)).run.Delivers thread (Store.Respects id)
      start fun outcome after => forall made, outcome = .ok made ->
        ListsEach id directory start specs made after ∧
        ((forall one, one ∈ made ->
            Flat (start.synthesizer id).config (after.hierarchy.simpleName one.spec.base)) ->
          (made.map (·.place directory after.hierarchy)).Nodup ∧
          forall one, one ∈ made -> (one.body after.hierarchy).Known one.known ->
            Listed directory after one) := by
  apply (synthesizeEach_lists dumps specs thread).weaken
  intro outcome after listed made succeeded
  have lists := listed made succeeded
  exact ⟨lists, fun flat => ⟨lists.own flat, fun one member known =>
    lists.listed (lists.own flat) member known⟩⟩

/-- A store with a synthesizer that writes listings. -/
def listing : Store :=
  { synthesizers := {
      fallback := default
      cells := #[{ config := {}, loader := ⟨0⟩, dumpDirectory := some "listings" }] } }

/-- Two classes without slots. -/
def twice : List Specification := [Machine.bare Builtin.object, Machine.bare Builtin.object]

/-- Two classes without slots over the root each have their listing. -/
theorem listings_kept_twice : exists made after,
    (synthesizeEach ⟨0⟩ twice : Request Unit (List Synthesis)).run.alone ⟨0⟩ listing =
      some (.ok made, after) ∧
    made.length = 2 ∧ (made.map (·.place "listings" after.hierarchy)).Nodup ∧
      forall one, one ∈ made -> Listed "listings" after one := by
  have ends : ((synthesizeEach ⟨0⟩ twice : Request Unit (List Synthesis)).run.alone ⟨0⟩
      listing).any (fun (outcome, _) => match outcome with
        | .ok made => made.length == 2 && made.all fun one => decide (9 < one.known.rows.size)
        | .error _ => false) = true := by decide +kernel
  obtain ⟨⟨outcome, after⟩, comes, succeeds⟩ := (Option.any_eq_true _ _).mp ends
  cases outcome with
  | error fault => cases succeeds
  | ok made =>
      simp only [Bool.and_eq_true, beq_iff_eq, List.all_eq_true, decide_eq_true_eq] at succeeds
      have dumps : (listing.synthesizer ⟨0⟩).dumpDirectory = some "listings" := rfl
      obtain ⟨lists, own⟩ := (listings_kept dumps twice ⟨0⟩).alone
        (fun store => ⟨.refl ⟨0⟩ store, rfl⟩) comes made rfl
      have spec : forall one, one ∈ made -> one.spec = Machine.bare Builtin.object := by
        intro one member
        have listed : one.spec ∈ made.map (·.spec) := List.mem_map_of_mem member
        rw [lists.each] at listed
        simpa [twice] using listed
      have simple : after.hierarchy.simpleName Builtin.object = "object" := by
        unfold Hierarchy.simpleName
        rw [lists.furthers.hierarchy.row Builtin.object
          (by decide : 0 < Builtin.hierarchy.rows.size)]
        decide
      obtain ⟨apart, listed⟩ := own fun one member => by
        rw [spec one member]
        exact ⟨by decide, by decide, by rw [show (Machine.bare Builtin.object).base =
          Builtin.object from rfl, simple]; decide⟩
      refine ⟨made, after, comes, succeeds.1, apart, fun one member => listed one member ?_⟩
      have known := succeeds.2 one member
      unfold Synthesis.body
      rw [spec one member]
      refine ⟨Nat.lt_of_le_of_lt (Nat.zero_le 9) known, fun iface declared => ?_⟩
      rcases ClassBody.mem_interfaces_realise.mp declared with none_ | rfl | ⟨-, rfl⟩
      · cases none_
      · exact Nat.lt_of_succ_lt known
      · exact known

end SynthesizerId

namespace Machine

/-- A template with both places that ends with that of the base, behind a dot. -/
def dotted : Configuration :=
  { template := "\x7bn\x7d.\x7bbase\x7d", dumpDirectory := some "listings" }

/-- The template can be used, but of two classes over one base only the second has its listing. -/
theorem listing_replaced :
    let calls : List Call := [.makeSynthesizer dotted,
      .synthesize firstSynthesizer (bare Builtin.object),
      .synthesize firstSynthesizer (bare Builtin.object)]
    let machine := Machine.run ClientCode.quiet.host 100 (opening (calling calls) ())
    let listing (cls : ClassId) : String :=
      (ClassBody.realise (machine.store.hierarchy.name cls) (bare Builtin.object)).listing
        machine.store.hierarchy ++ "\n"
    dotted.validate = .ok () ∧
    machine.host.calls.map (·.given?) = [none, some firstDeclared, some secondDeclared] ∧
    machine.store.files.files = [(["listings", "object.class.txt"], listing secondDeclared)] ∧
    listing firstDeclared ≠ listing secondDeclared := by
  decide +kernel

end Machine

end GuestTypes
