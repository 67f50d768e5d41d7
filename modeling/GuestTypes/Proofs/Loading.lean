import GuestTypes.Proofs.Realisation

/-!
# What loaders accept

Any body may be given to a loader, not only one that realises a specification. What is asked of a
body is put here as a list of conditions, `ClassBody.WellFormed`, which verification decides. A
loader that is given bodies one after the other accepts those that are well formed and bear a name
that it has not accepted before, and a body that it rejects leaves no trace in it.
-/

namespace GuestTypes

namespace ClassBody

variable {hierarchy later : Hierarchy} {body : ClassBody} {method : Method} {layout : Layout}

/-- What is asked of a body. -/
structure WellFormed (hierarchy : Hierarchy) (body : ClassBody) : Prop where
  base : hierarchy.isInterface body.base = false
  interfaces : forall iface, iface ∈ body.interfaces -> hierarchy.isInterface iface = true
  fields : (body.fields.map (·.name)).Nodup
  constructors : forall method, method ∈ body.methods -> method.role = .construct ->
    method.field = none
  accessors : forall method, method ∈ body.methods -> method.role ≠ .construct ->
    exists field, field ∈ body.fields ∧ method.field = some field.name
  /-- The first method of the name that the setter gives is a check of the same field. -/
  setters : forall method, method ∈ body.methods -> method.role = .set ->
    exists name check, method.check = some name ∧ body.method? name = some check ∧
      check.role = .check ∧ check.field = method.field
  type : exists field, field ∈ body.fields ∧ field.name = typeField ∧ field.kind = .type
  dict : forall field, field ∈ body.fields -> field.name = dictField -> field.kind = .dict

/-- A body has a field of a name just if one is listed. -/
theorem isSome_field? {name : String} :
    (body.field? name).isSome = true ↔ exists field, field ∈ body.fields ∧ field.name = name := by
  simp [field?]

/-- The check that a setter calls. -/
theorem hasMatchingCheck_iff : body.hasMatchingCheck method = true ↔
    exists name check, method.check = some name ∧ body.method? name = some check ∧
      check.role = .check ∧ check.field = method.field := by
  unfold hasMatchingCheck
  cases named : method.check with
  | none => simp
  | some name =>
      cases found : body.method? name with
      | none => simp [found]
      | some check => simp [found]

/-- A method has no defect if it is bound to a field just when it is no constructor, and has its
check if it is a setter. -/
theorem methodDefect?_eq_none_iff : body.methodDefect? method = none ↔
    (method.role = .construct -> method.field = none) ∧
    (method.role ≠ .construct ->
      exists field, field ∈ body.fields ∧ method.field = some field.name) ∧
    (method.role = .set -> body.hasMatchingCheck method = true) := by
  unfold methodDefect?
  cases bound : method.field with
  | none => cases role : method.role <;> simp
  | some name =>
      have declared : (exists field, field ∈ body.fields ∧ some name = some field.name) ↔
          (body.field? name).isSome = true := by
        rw [isSome_field?]
        simp only [Option.some.injEq, eq_comm]
      rw [declared]
      cases found : body.field? name <;> cases role : method.role <;> simp [found]

/-- Verification asks for what is asked of a body, and for nothing else. -/
theorem wellFormed_iff : body.WellFormed hierarchy ↔ body.Loadable hierarchy := by
  constructor
  · intro formed
    refine ⟨formed.base, formed.interfaces, formed.fields, ?_, ?_, ?_⟩
    · intro method member
      refine methodDefect?_eq_none_iff.mpr ⟨formed.constructors method member,
        formed.accessors method member, fun setter => ?_⟩
      exact hasMatchingCheck_iff.mpr (formed.setters method member setter)
    · obtain ⟨field, member, named, kind⟩ := formed.type
      rw [← named, field?_of_mem formed.fields member]
      exact beq_iff_eq.mpr kind
    · intro field found
      exact formed.dict field (List.mem_of_find?_eq_some found)
        (by simpa using List.find?_some found)
  · intro loadable
    have sound := fun method member => methodDefect?_eq_none_iff.mp (loadable.methods method member)
    refine ⟨loadable.base, loadable.interfaces, loadable.fields,
      fun method member => (sound method member).1, fun method member => (sound method member).2.1,
      ?_, ?_, ?_⟩
    · exact fun method member setter =>
        hasMatchingCheck_iff.mp ((sound method member).2.2 setter)
    · have typed := loadable.type
      cases found : body.field? typeField with
      | none => simp [found] at typed
      | some field =>
          rw [found, Option.any_some] at typed
          exact ⟨field, List.mem_of_find?_eq_some found, by simpa using List.find?_some found,
            eq_of_beq typed⟩
    · intro field member named
      exact loadable.dict field (named ▸ field?_of_mem loadable.fields member)

/-- The classes that a body mentions exist. -/
def Known (hierarchy : Hierarchy) (body : ClassBody) : Prop :=
  hierarchy.Declared body.base ∧ forall iface, iface ∈ body.interfaces -> hierarchy.Declared iface

/-- Whether a body is well formed is decided by the classes that it mentions. -/
theorem wellFormed_later (known : body.Known hierarchy) (extends_ : hierarchy.Extends later) :
    body.WellFormed later ↔ body.WellFormed hierarchy := by
  have same : forall cls, hierarchy.Declared cls ->
      later.isInterface cls = hierarchy.isInterface cls := by
    intro cls declared
    unfold Hierarchy.isInterface
    rw [extends_.row cls declared]
  constructor
  · intro formed
    exact { formed with
      base := (same _ known.1).symm.trans formed.base
      interfaces := fun iface member =>
        (same _ (known.2 iface member)).symm.trans (formed.interfaces iface member) }
  · intro formed
    exact { formed with
      base := (same _ known.1).trans formed.base
      interfaces := fun iface member =>
        (same _ (known.2 iface member)).trans (formed.interfaces iface member) }

end ClassBody

/-! ## One definition -/

namespace Program.Delivers

variable {σ : Type} {thread : ThreadId} {around : Store -> Store -> Prop} {now : Store}
  {loader : LoaderId} {body : ClassBody} {post : Except Fault ClassId -> Store -> Prop}

/-- A definition looks at the body once, claims the name, and declares the class. -/
theorem define
    (malformed : forall seen defect, around now seen ->
      body.verify seen.hierarchy = .error defect ->
        post (.error (.internal (.found (.malformedBody body.name defect)))) seen)
    (taken : forall seen layout claiming, around now seen ->
      body.verify seen.hierarchy = .ok layout -> around seen claiming ->
      body.name ∈ (claiming.loader loader).defined ->
        post (.error (.internal (.found (.duplicateClass body.name)))) { claiming with
          loaders := claiming.loaders.set loader.index (claiming.loader loader) })
    (declared : forall seen layout claiming declaring, around now seen ->
      body.verify seen.hierarchy = .ok layout -> around seen claiming ->
      body.name ∉ (claiming.loader loader).defined ->
      around { claiming with
          loaders := claiming.loaders.set loader.index
            { defined := (claiming.loader loader).defined ++ [body.name] } } declaring ->
        post (.ok ⟨declaring.hierarchy.rows.size⟩) { declaring with
          hierarchy := (declaring.hierarchy.declare (LoaderId.hostClass body layout)).2 }) :
    (loader.define body : Request σ ClassId).run.Delivers thread around now post := by
  apply andThen
  apply observe
  intro seen spared
  cases verified : body.verify seen.hierarchy with
  | error defect => exact malformed seen defect spared verified
  | ok layout =>
      apply andThen
      apply perform
      intro claiming reserved
      by_cases held : body.name ∈ (claiming.loader loader).defined
      · refine ⟨false, { claiming with
          loaders := claiming.loaders.set loader.index (claiming.loader loader) }, ?_,
          taken seen layout claiming spared verified reserved held⟩
        simp [Action.perform, Loader.Step.perform, held]
      · refine ⟨true, { claiming with
          loaders := claiming.loaders.set loader.index
            { defined := (claiming.loader loader).defined ++ [body.name] } }, ?_, ?_⟩
        · simp [Action.perform, Loader.Step.perform, held]
        · apply perform
          intro declaring kept
          exact ⟨_, _, rfl,
            declared seen layout claiming declaring spared verified reserved held kept⟩

end Program.Delivers

/-- Classes may be declared, but a loader stays as it is. -/
structure Store.Guards (loader : LoaderId) (before after : Store) : Prop where
  hierarchy : before.hierarchy.Extends after.hierarchy
  loader : after.loader loader = before.loader loader

namespace LoaderId

variable {σ : Type} {thread : ThreadId} {loader : LoaderId} {start middle after : Store}
  {body : ClassBody}

/-- What comes of one body. -/
structure Judges (loader : LoaderId) (start : Store) (body : ClassBody)
    (outcome : Except Fault ClassId) (after : Store) : Prop where
  hierarchy : start.hierarchy.Extends after.hierarchy
  accepts : exists found, start.hierarchy.Extends found ∧
    (outcome.isOk = true ↔
      body.WellFormed found ∧ body.name ∉ (start.loader loader).defined)
  rejected : outcome.isOk = false -> after.loader loader = start.loader loader
  accepted : forall cls, outcome = .ok cls ->
    (after.loader loader).defined = (start.loader loader).defined ++ [body.name] ∧
      after.hierarchy.Declared cls ∧ after.hierarchy.name cls = body.name

/-- A body that was not admissible is refused and leaves the loader. -/
theorem Judges.refused {found : Hierarchy} {fault : Fault} (known : start.hierarchy.Extends found)
    (grown : start.hierarchy.Extends after.hierarchy)
    (because : ¬ (body.WellFormed found ∧ body.name ∉ (start.loader loader).defined))
    (kept : after.loader loader = start.loader loader) :
    loader.Judges start body (.error fault) after where
  hierarchy := grown
  accepts := ⟨found, known, nofun, fun all => absurd all because⟩
  rejected := fun _ => kept
  accepted := nofun

/-- A definition comes to its verdict, and the loader takes the name just when it accepts. -/
theorem define_judges (loader : LoaderId) (body : ClassBody) (start : Store) :
    (loader.define body : Request σ ClassId).run.Delivers thread (Store.Guards loader) start
      (loader.Judges start body) := by
  have loads : forall {found : Hierarchy} {layout}, body.verify found = .ok layout ->
      body.WellFormed found := fun verified =>
    ClassBody.wellFormed_iff.mpr (ClassBody.verify_eq_ok_iff.mp verified).1
  apply Program.Delivers.define
  · intro seen defect guards verified
    refine .refused guards.hierarchy guards.hierarchy (fun all => ?_) guards.loader
    have loadable := ClassBody.wellFormed_iff.mp all.1
    cases verified.symm.trans (ClassBody.verify_eq_ok_iff.mpr ⟨loadable, rfl⟩)
  · intro seen layout claiming guards verified again held
    have same := again.loader.trans guards.loader
    refine .refused guards.hierarchy (guards.hierarchy.trans again.hierarchy)
      (fun all => all.2 (same ▸ held)) ?_
    rw [← same]
    simp [Store.loader, Table.get_set]
  · intro seen layout claiming declaring guards verified again free last
    have same := again.loader.trans guards.loader
    have known := guards.hierarchy.trans (again.hierarchy.trans last.hierarchy)
    have grown := declaring.hierarchy.extends_declare (hostClass body layout)
    refine ⟨known.trans grown, ⟨seen.hierarchy, guards.hierarchy,
      fun _ => ⟨loads verified, same ▸ free⟩, fun _ => rfl⟩, nofun, ?_⟩
    rintro cls ⟨⟩
    refine ⟨?_, ?_, ?_⟩
    · show (declaring.loader loader).defined = _
      rw [last.loader, ← same]
      simp [Store.loader, Table.get_set]
    · exact declaring.hierarchy.declared_declare _
    · unfold Hierarchy.name
      rw [Hierarchy.row_declare, if_pos rfl]
      rfl

end LoaderId

/-! ## Definitions one after the other -/

/-- A body that was given to a loader: the classes that there were, what came of it, and what the
loader held afterwards. -/
structure Trial where
  known : Hierarchy
  body : ClassBody
  outcome : Except Fault ClassId
  left : Loader

/-- The class that the loader defined, if it accepted the body. -/
def Trial.cls? (trial : Trial) : Option ClassId := trial.outcome.toOption

/-- The name that the loader took, if it accepted the body. -/
def Trial.name? (trial : Trial) : Option String := trial.cls?.map fun _ => trial.body.name

/-- What a loader holds after trials. -/
def Loader.after (start : Loader) (trials : List Trial) : Loader :=
  (trials.getLast?.map (·.left)).getD start

/-- What a loader holds after trials is what it held after the first one, and then after the
others. -/
theorem Loader.after_cons (start : Loader) (trial : Trial) (trials : List Trial) :
    start.after (trial :: trials) = trial.left.after trials := by
  unfold Loader.after
  rw [List.getLast?_cons]
  cases trials.getLast? <;> rfl

namespace LoaderId

variable {σ : Type} {thread : ThreadId} {loader : LoaderId} {start middle after : Store}
  {body : ClassBody} {bodies : List ClassBody} {trials : List Trial}

/-- Give bodies to a loader one after the other, whatever comes of them. -/
def tryEach (loader : LoaderId) : List ClassBody -> Request σ (List Trial)
  | [] => return []
  | body :: rest => do
      let known <- Request.observe (·.hierarchy)
      let outcome <- (loader.define body).attempt
      let left <- Request.observe (·.loader loader)
      let later <- loader.tryEach rest
      return { known, body, outcome, left } :: later

/-- What comes of bodies that are given to a loader. -/
structure Admits (loader : LoaderId) (start : Store) (bodies : List ClassBody)
    (trials : List Trial) (after : Store) : Prop where
  hierarchy : start.hierarchy.Extends after.hierarchy
  each : trials.map (·.body) = bodies
  /-- A body is accepted if it is well formed and its name was not accepted before. -/
  accepts : forall earlier trial later, trials = earlier ++ trial :: later ->
    trial.body.Known trial.known ->
      (trial.outcome.isOk = true ↔ trial.body.WellFormed trial.known ∧
        trial.body.name ∉ (start.loader loader).defined ∧
        forall before, before ∈ earlier -> before.outcome.isOk = true ->
          before.body.name ≠ trial.body.name)
  /-- A body that is rejected leaves the loader as the bodies before have left it. -/
  rejects : forall earlier trial later, trials = earlier ++ trial :: later ->
    trial.outcome.isOk = false -> trial.left = (start.loader loader).after earlier
  left : after.loader loader = (start.loader loader).after trials
  /-- The loader has the names that it had and those of the bodies that it accepted. -/
  defined : (after.loader loader).defined =
    (start.loader loader).defined ++ trials.filterMap Trial.name?
  /-- The classes that were accepted have the names of their bodies, which are all different. -/
  names : (trials.filterMap Trial.cls?).map after.hierarchy.name =
    trials.filterMap Trial.name?
  distinct : ((trials.filterMap Trial.cls?).map after.hierarchy.name).Nodup
  fresh : forall name, name ∈ (trials.filterMap Trial.cls?).map after.hierarchy.name ->
    name ∉ (start.loader loader).defined

/-- Without bodies, a loader is left as it is. -/
theorem Admits.nil (guards : start.Guards loader after) : loader.Admits start [] [] after where
  hierarchy := guards.hierarchy
  each := rfl
  accepts := by simp
  rejects := by simp
  left := guards.loader
  defined := by simp [guards.loader]
  names := rfl
  distinct := List.nodup_nil
  fresh := nofun

/-- A loader takes the name of a body exactly if it accepts it. -/
theorem Judges.defined_eq {outcome : Except Fault ClassId}
    (judges : loader.Judges start body outcome after) :
    (after.loader loader).defined =
      (start.loader loader).defined ++ if outcome.isOk then [body.name] else [] := by
  cases outcome with
  | error fault => simp [judges.rejected rfl, Except.isOk, Except.toBool]
  | ok cls => exact (judges.accepted cls rfl).1

/-- A judgement stands whatever else is declared. -/
theorem Judges.guards {outcome : Except Fault ClassId}
    (judges : loader.Judges start body outcome middle) (guards : middle.Guards loader after) :
    loader.Judges start body outcome after where
  hierarchy := judges.hierarchy.trans guards.hierarchy
  accepts := judges.accepts
  rejected := fun failed => guards.loader.trans (judges.rejected failed)
  accepted := by
    intro cls accepted
    obtain ⟨defined, declared, named⟩ := judges.accepted cls accepted
    refine ⟨by rw [guards.loader, defined], guards.hierarchy.declared declared, ?_⟩
    rw [← named]
    exact congrArg HostClass.name (guards.hierarchy.row cls declared)

/-- One body, and those after it. -/
theorem Admits.cons {outcome : Except Fault ClassId}
    (guards : start.Guards loader middle) {next : Store}
    (judges : loader.Judges middle body outcome next)
    (admits : loader.Admits next bodies trials after) :
    loader.Admits start (body :: bodies)
      ({ known := middle.hierarchy, body, outcome, left := next.loader loader } :: trials)
      after := by
  have held : (next.loader loader).defined =
      (start.loader loader).defined ++ if outcome.isOk then [body.name] else [] := by
    rw [← guards.loader]
    exact judges.defined_eq
  have named : forall cls, outcome = .ok cls -> after.hierarchy.name cls = body.name := by
    intro cls accepted
    obtain ⟨-, declared, named⟩ := judges.accepted cls accepted
    rw [← named]
    exact congrArg HostClass.name (admits.hierarchy.row cls declared)
  refine ⟨guards.hierarchy.trans (judges.hierarchy.trans admits.hierarchy),
    congrArg (body :: ·) admits.each, ?_, ?_, ?_, ?_, ?_, ?_, ?_⟩
  · intro earlier trial later split known
    cases earlier with
    | nil =>
        obtain ⟨rfl, rfl⟩ := List.cons.inj split
        obtain ⟨found, extends_, verdict⟩ := judges.accepts
        rw [guards.loader, ClassBody.wellFormed_later known extends_] at verdict
        simpa using verdict
    | cons first earlier =>
        obtain ⟨rfl, rfl⟩ := List.cons.inj split
        rw [admits.accepts earlier trial later rfl known, held]
        cases outcome <;> simp [Except.isOk, Except.toBool]; tauto
  · intro earlier trial later split rejected
    cases earlier with
    | nil =>
        obtain ⟨rfl, rfl⟩ := List.cons.inj split
        exact (judges.rejected rejected).trans guards.loader
    | cons first earlier =>
        obtain ⟨rfl, rfl⟩ := List.cons.inj split
        rw [Loader.after_cons]
        exact admits.rejects earlier trial later rfl rejected
  · rw [Loader.after_cons]
    exact admits.left
  · rw [admits.defined, held, List.append_assoc]
    cases outcome <;> rfl
  · cases outcome with
    | error fault => exact admits.names
    | ok cls => exact congrArg₂ List.cons (named cls rfl) admits.names
  · cases outcome with
    | error fault => exact admits.distinct
    | ok cls =>
        refine List.nodup_cons.mpr ⟨fun again => admits.fresh _ again ?_, admits.distinct⟩
        rw [named cls rfl, held]
        exact List.mem_append_right _ List.mem_cons_self
  · have later : forall name, name ∉ (next.loader loader).defined ->
        name ∉ (start.loader loader).defined := by
      intro name absent present
      rw [held] at absent
      exact absent (List.mem_append_left _ present)
    cases outcome with
    | error fault => exact fun name member => later name (admits.fresh name member)
    | ok cls =>
        intro name member
        rcases List.mem_cons.mp member with rfl | member
        · obtain ⟨found, -, verdict⟩ := judges.accepts
          rw [guards.loader] at verdict
          rw [named cls rfl]
          exact (verdict.mp rfl).2
        · exact later name (admits.fresh name member)

/-- A loader that is given bodies one after the other accepts the well-formed ones whose names are
new, whatever else is declared in the meantime. -/
theorem tryEach_admits (loader : LoaderId) (bodies : List ClassBody) (thread : ThreadId)
    (start : Store) :
    (loader.tryEach bodies : Request σ (List Trial)).run.Delivers thread (Store.Guards loader) start
      fun outcome after => exists trials, outcome = .ok trials ∧
        loader.Admits start bodies trials after := by
  induction bodies generalizing start with
  | nil => exact ⟨[], rfl, .nil ⟨.refl _, rfl⟩⟩
  | cons body rest inductionHypothesis =>
      apply Program.Delivers.andThen
      apply Program.Delivers.observe
      intro known guards
      apply Program.Delivers.andThen
      apply Program.Delivers.bind
      apply (define_judges loader body known).weaken
      intro outcome now judges
      apply Program.Delivers.andThen
      apply Program.Delivers.observe
      intro looking guarded
      apply Program.Delivers.andThen
      apply (inductionHypothesis looking).weaken
      rintro _ after ⟨trials, rfl, admits⟩
      exact ⟨_, rfl, .cons guards (judges.guards guarded) admits⟩

end LoaderId

end GuestTypes
