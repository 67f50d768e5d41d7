import GuestTypes.Proofs.Layouts
import GuestTypes.Proofs.Requests

/-!
# Synthesis under the rules

A class that an idle thread declares is everybody's. Synthesizing one is mild up to the
declaration itself, so what lasts is kept until then; whoever asks for it says what the
declaration achieves.
-/

namespace GuestTypes

open World

variable {σ α : Type} {thread : ThreadId} {call : Option Nat} {pre : World -> Prop}
  {post : ClassId -> World -> Prop} {fails : Fault -> World -> Prop}

/-- Declaring a class adds its row, and answers with the number of that. -/
theorem perform_declare {row : HostClass} {cls : ClassId} {before after : Store}
    (performed : (Action.declare row).perform thread before = some (cls, after)) :
    cls = ⟨before.hierarchy.rows.size⟩ ∧
      after = { before with hierarchy := (before.hierarchy.declare row).2 } := by
  cases performed
  exact ⟨rfl, rfl⟩

/-- The class of a body that realises a specification is equipped for it. -/
theorem Hierarchy.equips_declare {hierarchy : Hierarchy} {spec : Specification} {layout : Layout}
    (builtins : forall cls : ClassId, cls.index < Builtin.hierarchy.rows.size ->
      hierarchy.Declared cls)
    (base : hierarchy.Declared spec.base)
    (interfaces : forall iface, iface ∈ spec.interfaces -> hierarchy.Declared iface)
    (dict : layout.hasDict = spec.hasDict) (name : String) :
    (hierarchy.declare (LoaderId.hostClass (ClassBody.realise name spec) layout)).2.Equips
      ⟨hierarchy.rows.size⟩ spec.base layout spec.interfaces := by
  have mentioned : forall iface, iface ∈ (ClassBody.realise name spec).interfaces ->
      hierarchy.Declared iface := by
    intro iface member
    rcases ClassBody.mem_interfaces_realise.mp member with own | rfl | ⟨-, rfl⟩
    · exact interfaces iface own
    · exact builtins _ (by decide)
    · exact builtins _ (by decide)
  have row : (hierarchy.declare (LoaderId.hostClass (ClassBody.realise name spec) layout)).2.row
      ⟨hierarchy.rows.size⟩ = LoaderId.hostClass (ClassBody.realise name spec) layout :=
    Hierarchy.row_hostClass base mentioned
  refine ⟨fun iface => ?_, congrArg HostClass.superclass row, congrArg HostClass.layout row⟩
  rw [row, dict]
  show iface ∈ (ClassBody.realise name spec).interfaces ↔ _
  exact ClassBody.mem_interfaces_realise

namespace World

/-- A class that is declared without an owner can be named by everybody. -/
theorem open_declaring (world : World) (row : HostClass) :
    (world.declaring row none).Open ⟨world.hierarchy.rows.size⟩ := by
  refine ⟨world.hierarchy.declared_declare row, fun factory call made => ?_⟩
  cases (if_pos rfl).symm.trans made

/-- The classes that a specification mentions can be named by everybody. -/
def Named (world : World) (spec : Specification) : Prop :=
  world.Open spec.base ∧ forall iface, iface ∈ spec.interfaces -> world.Open iface

/-- What a specification names goes on to be named. -/
theorem persistent_named (spec : Specification) : Persistent (Named · spec) :=
  fun _ _ valid grows named => ⟨grows.opens valid named.1,
    fun iface member => grows.opens valid (named.2 iface member)⟩

/-- A specification stays realised. -/
theorem persistent_realised (spec : Specification) (cls : ClassId) :
    Persistent (Realised · spec cls) :=
  fun _ _ valid grows realised => grows.realised valid realised

/-- The declaration of a class that nobody owns. -/
theorem world_declare {now : Instant σ} (valid : now.world.Valid) (row : HostClass) :
    (now.withStore { now.store with hierarchy := (now.store.hierarchy.declare row).2 }).world =
      now.world.declaring row none := by
  have makers : now.world.maker = fun cls =>
      if cls.index = now.world.hierarchy.rows.size then none else now.world.maker cls := by
    funext cls
    by_cases last : cls.index = now.world.hierarchy.rows.size
    · rw [if_pos last]
      cases made : now.world.maker cls with
      | none => rfl
      | some maker =>
          have declared := (valid.makers cls maker.1 maker.2 made).1
          exact absurd last (Nat.ne_of_lt declared)
    · rw [if_neg last]
  unfold declaring
  rw [← makers]
  rfl

end World

namespace Serves

/-- An idle thread declares a class, of which something holds for what is known then. -/
theorem declareWith (row : HostClass) {known : World -> Prop} {holds : ClassId -> World -> Prop}
    (lawful : forall layout, row.layout = some layout -> layout.Lawful)
    (before : Persistent known) (after : forall cls, Persistent (holds cls))
    (achieved : forall world, world.Valid -> known world ->
      (world.declaring row none).Open ⟨world.hierarchy.rows.size⟩ ->
        holds ⟨world.hierarchy.rows.size⟩ (world.declaring row none)) :
    Serves (σ := σ) thread call
      (fun world => world.Idle thread ∧ world.Open (row.superclass.getD Hierarchy.object) ∧
        known world)
      (Request.perform (.declare row)) (fun cls world => world.Idle thread ∧ holds cls world)
      fails := by
  refine perform (lasting_idle.and ((persistent_open _).and before).lasting)
    (fun cls => lasting_idle.and (after cls).lasting) ?_
  rintro now cls store valid ⟨idle, base, known⟩ performed
  obtain ⟨rfl, rfl⟩ := perform_declare performed
  rw [world_declare valid row]
  have allowed : Allows thread now.world (now.world.declaring row none) :=
    valid.declare base lawful nofun nofun fun factory holds => absurd holds (idle factory)
  exact ⟨allowed, idle, achieved _ valid known (open_declaring _ row)⟩

/-- An idle thread declares a class. -/
theorem declare (row : HostClass)
    (lawful : forall layout, row.layout = some layout -> layout.Lawful) :
    Serves (σ := σ) thread call
      (fun world => world.Idle thread ∧ world.Open (row.superclass.getD Hierarchy.object))
      (Request.perform (.declare row))
      (fun cls world => world.Idle thread ∧ world.Open cls) fails :=
  (declareWith row lawful (Persistent.const True) persistent_open
    fun _ _ _ opened => opened).weaken (fun _ _ holds => ⟨holds.1, holds.2, trivial⟩)
    (fun _ _ _ holds => holds) fun _ _ _ failed => failed

/-- An idle thread declares the class of a specification. -/
theorem declareRealised {spec : Specification} {layout : Layout} (name : String)
    (source : exists hierarchy, (ClassBody.realise name spec).verify hierarchy = .ok layout) :
    Serves (σ := σ) thread call
      (fun world => world.Idle thread ∧ world.Named spec)
      (Request.perform (.declare (LoaderId.hostClass (ClassBody.realise name spec) layout)))
      (fun cls world => world.Idle thread ∧ world.Realised spec cls) fails := by
  have dict : layout.hasDict = spec.hasDict :=
    source.elim fun _ verified => ClassBody.hasDict_verify_realise verified
  refine (declareWith (LoaderId.hostClass (ClassBody.realise name spec) layout)
    (ClassBody.lawful_hostClass source) (persistent_named spec)
    (persistent_realised spec) ?_).weaken
    (fun _ _ holds => ⟨holds.1, holds.2.1, holds.2⟩) (fun _ _ _ holds => holds)
    fun _ _ _ failed => failed
  intro world valid opened fresh
  exact ⟨fresh, layout, dict,
    Hierarchy.equips_declare (fun cls builtin => (valid.builtins cls builtin).1)
    opened.1.1 (fun iface member => (opened.2 iface member).1) dict name⟩

/-- Up to the declaration, the definition of a body is mild. -/
theorem define {loader : LoaderId} {body : ClassBody} (lasting : Lasting thread pre)
    (declares : forall layout, (exists hierarchy, body.verify hierarchy = .ok layout) ->
      Serves (σ := σ) thread call pre (Request.perform (.declare (LoaderId.hostClass body layout)))
        post (fun _ => pre)) :
    Serves (σ := σ) thread call pre (loader.define body) post (fun _ => pre) := by
  have refused : forall fault : Fault,
      Serves (σ := σ) thread call pre (MonadExcept.throw fault) post (fun _ => pre) :=
    fun fault => throw lasting fun _ _ holds => holds
  refine via
    (fun verified world => (exists hierarchy, body.verify hierarchy = verified) ∧ pre world)
    (observe lasting (fun _ => (Persistent.const _).lasting.and lasting)
      fun now _ holds => ⟨⟨now.store.hierarchy, rfl⟩, holds⟩) fun verified => ?_
  apply assume
  intro source
  cases verified with
  | error defect => exact refused _
  | ok layout =>
      apply bind (quietly (Action.mild_loader loader (.claim body.name)) lasting)
      intro claimed
      cases claimed with
      | true => exact declares layout source
      | false => exact refused _

/-- Issuing a name is no matter of types and bindings. -/
theorem mild_uniqueName {synthesizer : SynthesizerId} {base : String} :
    (synthesizer.uniqueName base : Request (Clients σ) String).Mild :=
  .bind (.perform (Action.mild_synthesizer synthesizer (.issue base))) fun _ => .observe _

/-- Writing a listing is no matter of types and bindings. -/
theorem mild_writeListing {directory : String} {body : ClassBody} :
    (SynthesizerId.writeListing directory body : Request (Clients σ) Unit).Mild := by
  refine .bind (.perform (Action.mild_makeDirectories directory)) fun made => ?_
  cases made with
  | error problem => exact .throw _
  | ok _ =>
      refine .bind (.observe _) fun text => .bind (.perform (Action.mild_writeFile _ text)) ?_
      intro written
      cases written with
      | error problem => exact .throw _
      | ok _ => exact .pure ()

/-- Up to the declaration, the synthesis of a class is mild. -/
theorem synthesize {synthesizer : SynthesizerId} {spec : Specification}
    (lasting : Lasting thread pre)
    (declares : forall name layout,
      (exists hierarchy, (ClassBody.realise name spec).verify hierarchy = .ok layout) ->
        Serves (σ := σ) thread call pre
          (Request.perform (.declare (LoaderId.hostClass (ClassBody.realise name spec) layout)))
          post (fun _ => pre)) :
    Serves (σ := σ) thread call pre (synthesizer.synthesize spec) post (fun _ => pre) := by
  unfold SynthesizerId.synthesize
  cases spec.isFrozen with
  | false => exact throw lasting fun _ _ holds => holds
  | true =>
      refine bind (glance lasting) fun base => bind (mild_uniqueName.serves lasting)
        fun simple => ?_
      apply bind (glance lasting)
      intro name
      apply bind (quietly (Action.mild_record _) lasting)
      intro _
      apply bind (glance lasting)
      intro directory
      cases directory with
      | none => exact bind (glance lasting) fun loader => define lasting (declares name)
      | some directory =>
          apply bind (mild_writeListing.serves lasting)
          intro _
          exact bind (glance lasting) fun loader => define lasting (declares name)

end Serves

end GuestTypes
