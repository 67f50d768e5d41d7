import GuestTypes.Proofs.ResolutionOutcome

/-!
# The order of lookups

Of two classes that a factory is asked for, the first may change what is answered for the second
in one way only: if the second one is below it, and would take over the representation that the
first one gets as its own. Otherwise either order gives each class the same answer, up to the
identities of what is made for it.
-/

namespace GuestTypes

/-! ## Climbing to another class -/

/-- The class would take over what the other one were bound to: it is that class, or it is not
bound, and takes over from a superclass that would. -/
inductive Hierarchy.Climbs (hierarchy : Hierarchy) (bound : ClassId -> Option Representation)
    (other : ClassId) : ClassId -> Prop where
  | refl : Climbs hierarchy bound other other
  | step {cls super : ClassId} (free : bound cls = none)
      (takes : FactoryId.takesOver hierarchy cls = true)
      (chosen : hierarchy.superclass cls = some super)
      (rest : Climbs hierarchy bound other super) : Climbs hierarchy bound other cls

namespace Hierarchy

variable {hierarchy : Hierarchy} {bound later : ClassId -> Option Representation}
  {cls other : ClassId} {rep : Representation}

/-- A class takes over only from itself and from classes that were declared before it. -/
theorem Climbs.le (climbs : hierarchy.Climbs bound other cls) : other.index ≤ cls.index := by
  induction climbs with
  | refl => exact Nat.le_refl _
  | step _ _ chosen _ inductionHypothesis =>
      exact Nat.le_trans inductionHypothesis (Nat.le_of_lt (superclass_lt chosen).2)

/-- What a class inherits, by what its superclass does. -/
theorem inherited_lineage (hierarchy : Hierarchy) (bound : ClassId -> Option Representation)
    (cls : ClassId) :
    hierarchy.inherited bound (hierarchy.lineage cls) =
      (bound cls).or (if FactoryId.takesOver hierarchy cls then
        (hierarchy.superclass cls).bind fun super =>
          hierarchy.inherited bound (hierarchy.lineage super) else none) := by
  rw [lineage_eq, inherited]
  cases hierarchy.superclass cls <;> rfl

/-- Classes that take over what they would inherit anyway change nothing for others. -/
theorem inherited_taken (taken : forall cls, later cls = bound cls ∨
      later cls = some rep ∧ hierarchy.inherited bound (hierarchy.lineage cls) = some rep) :
    hierarchy.inherited later (hierarchy.lineage cls) =
      hierarchy.inherited bound (hierarchy.lineage cls) := by
  induction cls using lineage_induction hierarchy with
  | step cls inductionHypothesis =>
      rcases taken cls with same | ⟨bound_, inherits⟩
      · rw [inherited_lineage, inherited_lineage hierarchy bound, same]
        cases chosen : hierarchy.superclass cls with
        | none => rfl
        | some super => simp only [Option.bind_some, inductionHypothesis super chosen]
      · rw [inherits, inherited_lineage, bound_]
        rfl

/-- A class that is bound since is inherited from by whoever climbs to it. -/
theorem inherited_climbing (others : forall cls, cls ≠ other -> later cls = bound cls)
    (bound_ : later other = some rep) (climbs : hierarchy.Climbs bound other cls) :
    hierarchy.inherited later (hierarchy.lineage cls) = some rep := by
  induction climbs with
  | refl =>
      rw [inherited_lineage, bound_]
      rfl
  | @step cls super free takes chosen _ inductionHypothesis =>
      rw [inherited_lineage]
      by_cases same : cls = other
      · rw [same, bound_]
        rfl
      · rw [others cls same, free, takes, chosen]
        exact inductionHypothesis

/-- A class that is bound since is nothing to those that do not climb to it. -/
theorem inherited_apart (others : forall cls, cls ≠ other -> later cls = bound cls)
    (apart : ¬ hierarchy.Climbs bound other cls) :
    hierarchy.inherited later (hierarchy.lineage cls) =
      hierarchy.inherited bound (hierarchy.lineage cls) := by
  induction cls using lineage_induction hierarchy with
  | step cls inductionHypothesis =>
      have different : cls ≠ other := by
        rintro rfl
        exact apart .refl
      rw [inherited_lineage, inherited_lineage hierarchy bound, others cls different]
      cases free : bound cls with
      | some rep => rfl
      | none =>
          cases takes : FactoryId.takesOver hierarchy cls with
          | false => rfl
          | true =>
              cases chosen : hierarchy.superclass cls with
              | none => rfl
              | some super =>
                  have above := inductionHypothesis super chosen fun climbs =>
                    apart (.step free takes chosen climbs)
                  simp only [Option.bind_some, above]

end Hierarchy

/-! ## The second of two lookups -/

/-- Whatever was made for a class alone since is so too since an earlier moment, and stays so. -/
theorem TypeTable.Own.mono {earlier before after later : TypeTable} {hierarchy : Hierarchy}
    {cls : ClassId} {rep : Representation} (own : before.Own after hierarchy cls rep)
    (early : earlier.Extends before) (late : after.Extends later) :
    earlier.Own later hierarchy cls rep := by
  cases own with
  | canonical plain concrete fresh made primary =>
      refine .canonical plain concrete (fun was => fresh (early.made was)) (late.made made) ?_
      rw [late.row _ made]
      exact primary
  | shared synthesized fresh made host =>
      refine .shared synthesized (fun was => fresh (early.madeShared was)) (late.madeShared made) ?_
      rw [late.sharedRow _ made]
      exact host

/-- The answer for a class follows the verdict. -/
inductive Verdict.Met (before after : TypeTable) (hierarchy : Hierarchy) (cls : ClassId) :
    Verdict -> Except Fault Representation -> Prop where
  | refused {fault : Fault} : Met before after hierarchy cls (.refused fault) (.error fault)
  | inherits {rep : Representation} : Met before after hierarchy cls (.inherits rep) (.ok rep)
  | founds {rep : Representation} (own : before.Own after hierarchy cls rep) :
      Met before after hierarchy cls .founds (.ok rep)

/-- A verdict that was met stays met between an earlier table and a later one. -/
theorem Verdict.Met.mono {earlier before after later : TypeTable} {hierarchy : Hierarchy}
    {cls : ClassId} {verdict : Verdict} {outcome : Except Fault Representation}
    (met : verdict.Met before after hierarchy cls outcome) (early : earlier.Extends before)
    (late : after.Extends later) : verdict.Met earlier later hierarchy cls outcome := by
  cases met with
  | refused => exact .refused
  | inherits => exact .inherits
  | founds own => exact .founds (own.mono early late)

namespace Scene

variable {scene middle last : Scene} {cls other : ClassId} {rep : Representation}
  {verdict : Verdict} {outcome : Except Fault Representation}
  {initialised otherInitialised : Except Fault Unit}

/-- The answer of a registry at rest follows the verdict. -/
theorem Answers.met (answers : scene.Answers cls verdict outcome last) :
    verdict.Met scene.types last.types scene.hierarchy cls outcome := by
  cases answers with
  | refused => exact .refused
  | inherits => exact .inherits
  | founds own => exact .founds own

/-- Whether the class would take over the representation that the other one gets as its own. -/
structure Follows (scene : Scene) (initialised otherInitialised : Except Fault Unit)
    (cls other : ClassId) : Prop where
  apart : cls ≠ other
  usable : initialised = .ok ()
  climbs : scene.hierarchy.Climbs scene.bound other cls
  founds : scene.verdict otherInitialised other = .founds

/-- The verdict on a class follows from what it inherits. -/
theorem verdict_congr (hierarchy : middle.hierarchy = scene.hierarchy)
    (heritage : middle.heritage cls = scene.heritage cls) :
    middle.verdict initialised cls = scene.verdict initialised cls := by
  unfold verdict
  rw [heritage, hierarchy]

end Scene

/-- A thread that may use a class may use all superclasses. -/
theorem Store.Concludes.usable {store : Store} {thread : ThreadId} {cls other : ClassId}
    {initialised : Except Fault Unit} (concludes : store.Concludes thread other (.ok ()))
    (member : cls ∈ store.hierarchy.lineage other)
    (mine : store.Concludes thread cls initialised) : initialised = .ok () := by
  cases initialised with
  | ok _ => rfl
  | error fault =>
      obtain ⟨below, failed, above, reason, split, -, ended, -⟩ := mine
      obtain ⟨before, after, whole⟩ := List.append_of_mem member
      rw [Hierarchy.lineage_of_split whole] at split
      have within : failed ∈ store.hierarchy.lineage other := by
        rw [whole, split]
        simp
      rcases concludes failed within with done | running
      · cases ended.symm.trans done
      · cases ended.symm.trans running

namespace Scene

variable {σ : Type} {thread : ThreadId} {id : FactoryId} {start : Store}
  {scene middle : Scene} {cls other : ClassId} {first : Except Fault Representation}
  {initialised otherInitialised : Except Fault Unit} {rep : Representation}

/-- A class that takes over a representation was initialised. -/
theorem usable_of_inherits (inherits : scene.verdict initialised cls = .inherits rep) :
    initialised = .ok () := by
  cases initialised with
  | ok _ => rfl
  | error fault => cases inherits

/-- A class that is given a type was initialised. -/
theorem usable_of_founds (founds : scene.verdict initialised cls = .founds) :
    initialised = .ok () := by
  cases initialised with
  | ok _ => rfl
  | error fault => cases founds

/-- What the second lookup leads to: the verdict that there was before the first one is met, or
the class takes over the answer of the first one. -/
def Seconds (scene middle : Scene) (initialised otherInitialised : Except Fault Unit)
    (cls other : ClassId) (first outcome : Except Fault Representation) (last : Scene) : Prop :=
  middle.types.Extends last.types ∧
    (¬ scene.Follows initialised otherInitialised cls other ->
      (scene.verdict initialised cls).Met scene.types last.types scene.hierarchy cls outcome) ∧
    (scene.Follows initialised otherInitialised cls other -> outcome = first)

/-- The factory answers for a class that is still not bound by what it has come to. -/
theorem Reaches.resolve_onward (rests : scene.Rests start)
    (decides : start.Decides thread cls initialised) (onward : scene.Onward middle)
    (unbound : middle.bound cls = none) :
    middle.Reaches (σ := σ) thread id start (scene.factory.registry.resolve cls)
      fun outcome last => middle.Answers cls (middle.verdict initialised cls) outcome last ∧
        middle.Onward last := by
  rw [← onward.factory]
  exact resolve_unbound (rests.onward onward) decides unbound

/-- The class is not bound yet, and the verdict on it is as it was. -/
theorem Reaches.resolve_same (rests : scene.Rests start)
    (decides : start.Decides thread cls initialised) (onward : scene.Onward middle)
    (unbound : middle.bound cls = none)
    (same : middle.verdict initialised cls = scene.verdict initialised cls)
    (apart : ¬ scene.Follows initialised otherInitialised cls other) :
    middle.Reaches (σ := σ) thread id start (scene.factory.registry.resolve cls)
      (scene.Seconds middle initialised otherInitialised cls other first) := by
  apply (resolve_onward rests decides onward unbound).weaken
  rintro outcome last ⟨answers, further⟩
  refine ⟨further.types, fun _ => ?_, fun follows => absurd follows apart⟩
  rw [same] at answers
  have met := answers.met
  rw [onward.hierarchy] at met
  exact met.mono onward.types (.refl _)

/-- The class is bound by the first lookup. -/
theorem Reaches.resolve_seen {leads : Except Fault Representation -> Scene -> Prop}
    (onward : scene.Onward middle) (bound : middle.bound cls = some rep)
    (ends : leads (.ok rep) middle) :
    middle.Reaches (σ := σ) thread id start (scene.factory.registry.resolve cls) leads := by
  rw [← onward.factory]
  exact resolve_bound bound ends

/-- A class that climbs to the one that got a representation of its own takes that over, if it
is not refused. -/
theorem Reaches.resolve_climbing (rests : scene.Rests start)
    (decides : start.Decides thread cls initialised) (onward : scene.Onward middle)
    (unbound : middle.bound cls = none) (apart : cls ≠ other)
    (founds : scene.verdict otherInitialised other = .founds)
    (others : forall cls, cls ≠ other -> middle.bound cls = scene.bound cls)
    (own : middle.bound other = some rep) (climbs : scene.hierarchy.Climbs scene.bound other cls) :
    middle.Reaches (σ := σ) thread id start (scene.factory.registry.resolve cls)
      (scene.Seconds middle initialised otherInitialised cls other (.ok rep)) := by
  have heritage : middle.heritage cls = some rep := by
    unfold heritage
    rw [onward.hierarchy]
    exact Hierarchy.inherited_climbing others own climbs
  cases initialised with
  | error fault =>
      refine resolve_same rests decides onward unbound rfl fun follows => ?_
      cases follows.usable
  | ok _ =>
      have follows : scene.Follows (.ok ()) otherInitialised cls other :=
        ⟨apart, rfl, climbs, founds⟩
      apply (resolve_onward rests decides onward unbound).weaken
      rintro outcome last ⟨answers, further⟩
      rw [verdict_inherits heritage] at answers
      refine ⟨further.types, fun not => absurd follows not, fun _ => ?_⟩
      cases answers
      rfl

/-- The second lookup. -/
theorem Reaches.resolve_second (rests : scene.Rests start)
    (decides : start.Decides thread cls initialised)
    (asked : start.Decides thread other otherInitialised) (unbound : scene.bound cls = none)
    (answers : scene.Answers other (scene.verdict otherInitialised other) first middle)
    (onward : scene.Onward middle) :
    middle.Reaches (σ := σ) thread id start (scene.factory.registry.resolve cls)
      (scene.Seconds middle initialised otherInitialised cls other first) := by
  generalize decided : scene.verdict otherInitialised other = verdict at answers
  cases answers with
  | refused kept =>
      refine resolve_same rests decides onward ?_ ?_ fun follows => ?_
      · rw [kept, unbound]
      · apply verdict_congr onward.hierarchy
        rw [heritage, kept, onward.hierarchy]
        rfl
      · cases decided.symm.trans follows.founds
  | inherits _ taken =>
      have apart : ¬ scene.Follows initialised otherInitialised cls other := by
        intro follows
        cases decided.symm.trans follows.founds
      rcases taken cls with same | ⟨bound, inherits, member⟩
      · refine resolve_same rests decides onward ?_ ?_ apart
        · rw [same, unbound]
        · apply verdict_congr onward.hierarchy
          rw [heritage, onward.hierarchy]
          exact Hierarchy.inherited_taken fun other => (taken other).imp_right fun taken =>
            ⟨taken.1, taken.2.1⟩
      · -- The other class, and this one with it, took over from a superclass of both.
        obtain rfl := usable_of_inherits decided
        rw [rests.hierarchy] at member
        obtain rfl := asked.concludes.usable member decides.concludes
        refine resolve_seen onward bound ⟨.refl _, fun _ => ?_, fun follows => absurd follows apart⟩
        rw [verdict_inherits inherits]
        exact .inherits
  | founds own bound others =>
      by_cases same : cls = other
      · subst same
        obtain rfl := usable_of_founds decided
        have member : cls ∈ start.hierarchy.lineage cls := by
          rw [Hierarchy.lineage_eq]
          exact List.mem_cons_self
        obtain rfl := asked.concludes.usable member decides.concludes
        refine resolve_seen onward bound
          ⟨.refl _, fun _ => ?_, fun follows => absurd rfl follows.apart⟩
        rw [decided]
        exact .founds own
      · have still : middle.bound cls = none := (others cls same).trans unbound
        by_cases climbs : scene.hierarchy.Climbs scene.bound other cls
        · exact resolve_climbing rests decides onward still same decided others bound climbs
        · refine resolve_same rests decides onward still ?_ fun follows => climbs follows.climbs
          apply verdict_congr onward.hierarchy
          rw [heritage, onward.hierarchy]
          exact Hierarchy.inherited_apart others climbs

/-- The answers of a registry that is asked for a class and then for another one. -/
structure Both (scene : Scene) (initialised otherInitialised : Except Fault Unit)
    (cls other : ClassId) (early late : Except Fault Representation) (later : TypeTable) :
    Prop where
  types : scene.types.Extends later
  first : (scene.verdict initialised cls).Met scene.types later scene.hierarchy cls early
  apart : ¬ scene.Follows otherInitialised initialised other cls ->
    (scene.verdict otherInitialised other).Met scene.types later scene.hierarchy other late
  follows : scene.Follows otherInitialised initialised other cls -> late = early

/-- What is promised of two answers is promised of them in any later table. -/
theorem Both.mono {early late : Except Fault Representation} {later further : TypeTable}
    (both : scene.Both initialised otherInitialised cls other early late later)
    (extends_ : later.Extends further) :
    scene.Both initialised otherInitialised cls other early late further where
  types := both.types.trans extends_
  first := both.first.mono (.refl _) extends_
  apart := fun apart => (both.apart apart).mono (.refl _) extends_
  follows := both.follows

end Scene

/-- Ask a registry for two classes, one after the other. A fault is an answer. -/
def RegistryId.resolveBoth {σ : Type} (registry : RegistryId) (first second : ClassId) :
    Request σ (Except Fault Representation × Except Fault Representation) := do
  let early <- (registry.resolve first).attempt
  let late <- (registry.resolve second).attempt
  return (early, late)

namespace Scene

variable {σ : Type} {thread : ThreadId} {id : FactoryId} {start : Store}
  {scene : Scene} {cls other : ClassId} {initialised otherInitialised : Except Fault Unit}

/-- A registry that is asked for two unbound classes, one after the other, answers both as
promised. -/
theorem Reaches.resolveBoth (rests : scene.Rests start)
    (decides : start.Decides thread cls initialised)
    (otherDecides : start.Decides thread other otherInitialised)
    (unbound : scene.bound cls = none) (otherUnbound : scene.bound other = none) :
    scene.Reaches (σ := σ) thread id start (scene.factory.registry.resolveBoth cls other)
      fun outcome last => exists early late, outcome = .ok (early, late) ∧
        scene.Both initialised otherInitialised cls other early late last.types := by
  apply bind
  apply attempt
  apply (resolve_unbound rests decides unbound).weaken
  rintro early middle ⟨answers, onward⟩
  apply bind
  apply attempt
  apply (resolve_second rests otherDecides decides otherUnbound answers onward).weaken
  rintro late last ⟨types, apart, follows⟩
  apply ofAttains
  apply AttainsOn.pure
  exact ⟨early, late, rfl, onward.types.trans types, answers.met.mono (.refl _) types, apart,
    follows⟩

end Scene

end GuestTypes
