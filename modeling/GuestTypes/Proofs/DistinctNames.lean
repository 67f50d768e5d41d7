import GuestTypes.Proofs.ForeignCode
import GuestTypes.Proofs.NameRequests

/-!
# Distinct names

What the names of a synthesizer are good for, whatever threads ask for numbers at the same time.
Numbers are counted for each base apart, so two bases get different names only if the template
shows which is which. A template may have both places and not do so: then two classes get one
name, and the loader refuses the second.
-/

namespace GuestTypes

open Discipline Naming

variable {σ : Type} {thread : ThreadId} {issuer : SynthesizerId} {now : Tally σ}

/-! ## Host code -/

namespace Naming

/-- Host code goes on, and the calls that have ended achieved something. -/
theorem Valid.hosts (valid : Valid issuer now) {clients : Clients σ}
    (calls : forall (number : Nat) call, Asked number call now ->
      Asked number call ⟨now.store, clients, now.ghost⟩)
    (named : forall (number : Nat) base name, clients.calls[number]? =
      some { call := .uniqueName issuer base, answer := some (.ok name) } ->
        Named issuer number base name now)
    (refused : forall spec fault,
      { call := .synthesize issuer spec, answer := some (.error fault) } ∈ clients.calls ->
        fault.Duplicate -> Crossed issuer now) :
    (naming issuer).Allows thread now ⟨now.store, clients, now.ghost⟩ := by
  have moves : Moves issuer thread now ⟨now.store, clients, now.ghost⟩ :=
    ⟨.refl _, ⟨none, by simp, by simp⟩, fun _ _ => rfl, List.Subset.refl _, calls⟩
  exact ⟨valid.remain moves rfl rfl rfl named refused, moves⟩

/-- A call begins. -/
theorem Valid.begin (valid : Valid issuer now) (call : Call) :
    (naming issuer).Allows thread now
      ⟨now.store, { now.host with calls := now.host.calls ++ [{ call }] }, now.ghost⟩ := by
  refine valid.hosts (fun _ _ asked => asked.append rfl) ?_ ?_
  · intro number base name found
    rw [List.getElem?_append] at found
    split at found
    · exact valid.named number base name found
    · cases List.mem_singleton.mp (List.mem_of_getElem? found)
  · intro spec fault member
    rcases List.mem_append.mp member with was | last
    · exact valid.refused spec fault was
    · cases List.mem_singleton.mp last

/-- A call ends with what it achieves. -/
theorem Valid.finish (valid : Valid issuer now) {number : Nat} {call : Call}
    {outcome : Except Fault call.Answer} (asked : Asked number call now)
    (achieves : Achieves issuer number call outcome now) :
    (naming issuer).Allows thread now
      ⟨now.store, now.host.finish number call outcome, now.ghost⟩ := by
  refine valid.hosts (fun _ _ other => asked.finish other rfl) ?_ ?_
  · intro other base name found
    simp only [Clients.finish, List.getElem?_set] at found
    split at found
    · rename_i same
      subst same
      split at found
      · cases found
        exact achieves rfl
      · cases found
    · exact valid.named other base name found
  · intro spec fault member
    rcases List.mem_or_eq_of_mem_set member with was | last
    · exact valid.refused spec fault was
    · cases last
      exact achieves rfl

/-- Nothing was issued before the first step. -/
theorem valid_initial (files : FileTree) (own : σ) :
    Valid issuer ({ store := { files }, host := { own }, ghost := {} } : Tally σ) where
  configs := fun other => by
    simp only [Store.synthesizer, Table.get, Array.getElem?_empty, Option.getD_none]
    decide
  counts := fun base => by
    simp only [Store.synthesizer, Table.get, Array.getElem?_empty, Option.getD_none]
    rfl
  asked := fun asked => absurd rfl asked
  held := nofun
  alone := nofun
  given := nofun
  once := nofun
  sourced := fun loader name member => by
    simp only [Store.loader, Table.get, Array.getElem?_empty, Option.getD_none] at member
    cases member
  named := fun _ _ _ found => absurd (List.mem_of_getElem? found) List.not_mem_nil
  refused := fun _ _ member => absurd member List.not_mem_nil

end Naming

/-- Host code keeps to the rules. -/
theorem naming_hosts (issuer : SynthesizerId) :
    (naming (σ := σ) issuer).Hosts (fun _ _ => Needs) (fun _ => Achieves issuer) where
  work := fun _ _ _ valid =>
    ⟨Valid.hosts valid (fun _ _ asked => asked) (Valid.named valid) (Valid.refused valid), trivial⟩
  begin := fun _ now call valid _ =>
    ⟨now.ghost, Valid.begin valid call, ⟨{ call }, List.mem_append_right _ List.mem_cons_self, rfl⟩,
      fun _ _ _ => trivial⟩
  request := fun _ number call => call.meets_request number
  leaves := fun _ _ _ => trivial
  asked := fun allowed number call => allowed.moves.calls number call
  finish := fun valid asked achieves => Valid.finish valid asked achieves

/-! ## Runs -/

/-- The base that the program is about to be issued a number for. -/
def Program.asks? {α : Type} (issuer : SynthesizerId) : Program σ α -> Option String
  | .act action _ => action.issues? issuer
  | _ => none

namespace Machine

/-- The base that the thread is about to be issued a number for. -/
def asks? (machine : Machine σ) (issuer : SynthesizerId) (thread : ThreadId) : Option String :=
  match machine.threads[thread.index]? with
  | some (.running control _) => control.asks? issuer
  | some (.finished _) | some (.panicked _) | none => none

/-- The bases that numbers are issued for on the way, in order. -/
def asked (code : HostCode σ) (issuer : SynthesizerId) : List ThreadId -> Machine σ -> List String
  | [], _ => []
  | thread :: schedule, machine =>
      (machine.asks? issuer thread).toList ++
        (machine.step code thread).elim [] (asked code issuer schedule)

section Steps

variable {code : HostCode σ} {machine next : Machine σ}

/-- A step issues the number that its thread asks for, and no other. -/
theorem lastIssued_step (stepped : machine.step code thread = some next) {base : String}
    (unasked : ¬ machine.store.MadeSynthesizer issuer ->
      (machine.store.synthesizer issuer).lastIssued base = 0) :
    (next.store.synthesizer issuer).lastIssued base =
      (machine.store.synthesizer issuer).lastIssued base +
        if machine.asks? issuer thread = some base then 1 else 0 := by
  obtain ⟨control, frames, found, turn⟩ := step_eq_some_iff.mp stepped
  have asks : machine.asks? issuer thread = control.asks? issuer := by
    simp only [asks?, found]
  rw [asks]
  cases control with
  | act action rest =>
      cases turn with
      | acted answer store performed => exact (Action.accounts performed).issued issuer base unasked
  | done _ | host _ _ | initialise _ _ | escalate _ _ _ | fork _ _ | join _ _ | panic _ =>
      obtain ⟨progress, same⟩ := turn.progress rfl
      rw [same]
      exact (UInt32.add_zero _).symm

end Steps

section Runs

variable {code : ClientCode σ} {start machine next : Machine (Clients σ)}

/-- The rules count what is asked for. -/
theorem counted_step (kept : (naming issuer).Kept machine now)
    (stepped : machine.step code.host thread = some next) :
    exists after : Tally σ, (naming issuer).Kept next after ∧
      after.ghost.asked = now.ghost.asked ++ (machine.asks? issuer thread).toList := by
  have trusts := (naming_hosts issuer).trusts (naming_free issuer) code
  obtain ⟨after, allowed, reached⟩ := kept.step trusts stepped
  obtain ⟨issue, grown, numbers⟩ := allowed.moves.issued
  have valid : Valid issuer now := kept.valid
  have same : issue = machine.asks? issuer thread := by
    apply Option.ext
    intro base
    have unasked : ¬ machine.store.MadeSynthesizer issuer ->
        (machine.store.synthesizer issuer).lastIssued base = 0 := by
      rw [kept.store]
      exact valid.unasked base
    have counted := lastIssued_step stepped unasked
    rw [kept.store, reached.store, numbers, UInt32.add_right_inj] at counted
    constructor
    · intro is
      rw [if_pos is] at counted
      exact Classical.byContradiction fun isNot => absurd counted (by rw [if_neg isNot]; decide)
    · intro is
      rw [if_pos is] at counted
      exact Classical.byContradiction fun isNot => absurd counted (by rw [if_neg isNot]; decide)
  exact ⟨after, reached, same ▸ grown⟩

/-- The numbers that are issued along a schedule are recorded in their order. -/
theorem counted_follow {schedule : List ThreadId} (kept : (naming issuer).Kept start now)
    (followed : start.follow code.host schedule = some machine) :
    exists after : Tally σ, (naming issuer).Kept machine after ∧
      after.ghost.asked = now.ghost.asked ++ start.asked code.host issuer schedule := by
  induction schedule generalizing start now with
  | nil =>
      cases followed
      exact ⟨now, kept, (List.append_nil _).symm⟩
  | cons thread schedule inductionHypothesis =>
      obtain ⟨next, stepped, followed⟩ := Option.bind_eq_some_iff.mp followed
      obtain ⟨middle, reached, grown⟩ := counted_step kept stepped
      obtain ⟨after, ended, rest⟩ := inductionHypothesis reached followed
      refine ⟨after, ended, ?_⟩
      rw [rest, grown, asked, stepped, List.append_assoc]
      rfl

/-- A machine before its first step keeps the rules. -/
theorem Opens.counted (opens : start.Opens) (issuer : SynthesizerId) :
    (naming issuer).Kept start ⟨start.store, start.host, {}⟩ := by
  obtain ⟨files, store⟩ := opens.store
  have valid : Valid issuer ⟨start.store, start.host, {}⟩ := by
    rw [store, opens.host]
    exact valid_initial files start.host.own
  exact (naming_hosts issuer).kept (naming_free issuer) opens valid

end Runs

/-! ## Names -/

/-- What holds of the names of a synthesizer after a run in which it was asked for numbers. -/
structure NamesHold (machine : Machine (Clients σ)) (issuer : SynthesizerId)
    (asked : List String) : Prop where
  /-- Bases that the template tells apart are never answered with one name. -/
  distinct : forall first second name, machine.Answered (.uniqueName issuer first) name ->
    machine.Answered (.uniqueName issuer second) name ->
    (machine.store.synthesizer issuer).config.Distinguishes first second -> first = second
  /-- Names that are apart are never refused by the loader. -/
  accepted : machine.store.NamesApart issuer asked machine.host.calls -> forall spec fault,
    { call := .synthesize issuer spec, answer := some (.error fault) } ∈ machine.host.calls ->
      ¬ fault.Duplicate

variable {code : ClientCode σ} {start machine : Machine (Clients σ)} {schedule : List ThreadId}

/-- Whatever the schedule, names hold what the template promises. -/
theorem names_hold (opens : start.Opens)
    (followed : start.follow code.host schedule = some machine) (issuer : SynthesizerId) :
    machine.NamesHold issuer (start.asked code.host issuer schedule) := by
  obtain ⟨now, kept, counted⟩ := counted_follow (opens.counted issuer) followed
  have valid : Valid issuer now := kept.valid
  have asked : now.ghost.asked = start.asked code.host issuer schedule := counted
  constructor
  · intro first second name answered answered_ distinguishes
    rw [Answered, kept.host] at answered answered_
    rw [kept.store] at distinguishes
    obtain ⟨number, found⟩ := List.mem_iff_getElem?.mp answered
    obtain ⟨other, found_⟩ := List.mem_iff_getElem?.mp answered_
    obtain ⟨-, ticket, -, rfl, filled⟩ := valid.named number first name found
    obtain ⟨-, ticket_, -, rfl, filled_⟩ := valid.named other second name found_
    exact distinguishes.base_eq (valid.configs issuer) (filled.trans filled_.symm)
  · intro apart spec fault member duplicate
    rw [kept.host] at member
    rw [kept.store, kept.host, ← asked] at apart
    exact (valid.refused spec fault member duplicate).2 apart

/-- The synthesizer that is made first. -/
def firstSynthesizer : SynthesizerId := ⟨0⟩

/-- A class without slots. -/
def bare (base : ClassId) : Specification := Specification.freeze { name := "Bare", base }

/-- Threads that are started synthesize a class with the first synthesizer. -/
def synthesizing : ClientCode Unit where
  initializer := ClientCode.quiet.initializer
  escalation := ClientCode.quiet.escalation
  body _ := .call (.synthesize firstSynthesizer (bare Builtin.object)) fun _ => .done (.ok ())

/-- Host code that asks for a name and synthesizes a class while another thread does. -/
def synthesizingTwice : Client Unit (Except Fault Unit) :=
  .call (.makeSynthesizer {}) fun
    | .error fault => .done (.error fault)
    | .ok issuer => .fork ⟨0⟩ fun _ => .call (.uniqueName issuer "a1") fun _ =>
        .call (.synthesize issuer (bare Builtin.object)) fun _ => .done (.ok ())

/-- The threads of `synthesizingTwice` take turns once there are two. -/
def alternating : List ThreadId :=
  List.replicate 6 ⟨0⟩ ++ (List.replicate 13 [⟨1⟩, ⟨0⟩]).flatten ++ List.replicate 4 ⟨0⟩

set_option maxRecDepth 20000 in
/-- Two threads that synthesize a class over the same base give them different names. -/
theorem names_hold_synthesizingTwice : exists machine,
    (opening synthesizingTwice ()).follow synthesizing.host alternating = some machine ∧
      (machine.store.loader ⟨0⟩).defined =
        ["typeforge.subclasses.Derived$object$1", "typeforge.subclasses.Derived$object$2"] ∧
      (forall spec fault,
        { call := .synthesize firstSynthesizer spec, answer := some (.error fault) } ∈
          machine.host.calls -> ¬ fault.Duplicate) ∧
      forall base, machine.Answered (.uniqueName firstSynthesizer base) "Derived$a1$1" ->
        Text.Unbraced base.toList -> base = "a1" := by
  have asked : (opening synthesizingTwice ()).asked synthesizing.host firstSynthesizer alternating =
      ["a1", "object", "object"] := by decide +kernel
  have facts : ((opening synthesizingTwice ()).follow synthesizing.host alternating).map
      (fun machine => ((machine.store.loader ⟨0⟩).defined, machine.store.synthesizers.size,
        (machine.store.synthesizer firstSynthesizer).config,
        machine.host.calls.all fun record => match record.call with
          | .defineBody _ _ => false
          | _ => true)) =
      some (["typeforge.subclasses.Derived$object$1", "typeforge.subclasses.Derived$object$2"], 1,
        {}, true) := by decide +kernel
  have named : ((opening synthesizingTwice ()).follow synthesizing.host alternating).bind
      (fun machine => machine.host.calls[2]?) = some {
        call := .uniqueName firstSynthesizer "a1", answer := some (.ok "Derived$a1$1") } := rfl
  obtain ⟨machine, followed, facts⟩ := Option.map_eq_some_iff.mp facts
  simp only [Prod.mk.injEq] at facts
  obtain ⟨defined, size, config, undefining⟩ := facts
  rw [followed] at named
  have hold := names_hold (opens_opening synthesizingTwice ()) followed firstSynthesizer
  rw [asked] at hold
  have unbraced : forall base, base ∈ ["a1", "object", "object"] ->
      Text.Unbraced base.toList := by decide
  have distinguishes : forall first second, Text.Unbraced first.toList ->
      Text.Unbraced second.toList ->
        (machine.store.synthesizer firstSynthesizer).config.Distinguishes first second := by
    intro first second free free_
    rw [config]
    exact ⟨⟨free, free_⟩, .inl Configuration.fences_default⟩
  have apart : machine.store.NamesApart firstSynthesizer ["a1", "object", "object"]
      machine.host.calls := {
    few := fun base => Nat.lt_of_le_of_lt List.count_le_length (by decide)
    distinguished := fun first second member member_ _ =>
      distinguishes first second (unbraced first member) (unbraced second member_)
    unfed := by
      intro record body member call
      have checked := List.all_eq_true.mp undefining record member
      rw [call] at checked
      cases checked
    own := by
      intro other different made
      have only : other.index < 1 := size ▸ made
      exact absurd (congrArg SynthesizerId.mk (Nat.lt_one_iff.mp only)) different }
  refine ⟨machine, followed, defined, hold.accepted apart, fun base answered free => ?_⟩
  exact hold.distinct base "a1" _ answered (List.mem_of_getElem? named)
    (distinguishes base "a1" free (unbraced "a1" List.mem_cons_self))

/-- A template with both places that does not show which is which. -/
def adjoining : Configuration := { package := "p", template := "\x7bbase\x7d\x7bn\x7d" }

/-- The class that host code declares second. -/
def secondDeclared : ClassId := ⟨firstDeclared.index + 1⟩

/-- Host code that makes calls in order. -/
def calling (calls : List Call) : Client Unit (Except Fault Unit) :=
  calls.foldr (fun call rest => .call call fun _ => rest) (.done (.ok ()))

/-- The first class over `a1`, and the eleventh over `a`. -/
def meetingCalls : List Call :=
  [.makeSynthesizer adjoining, .declare { name := "a1" }, .declare { name := "a" },
    .synthesize firstSynthesizer (bare firstDeclared)] ++
  List.replicate 10 (.uniqueName firstSynthesizer "a") ++
  [.synthesize firstSynthesizer (bare secondDeclared),
    .uniqueName firstSynthesizer "a1", .uniqueName firstSynthesizer "a"]

set_option maxRecDepth 20000 in
/-- The template can be used, but two bases are answered with one name, and a class is refused. -/
theorem names_meet : adjoining.validate = .ok () ∧ exists machine,
    (opening (calling meetingCalls) ()).follow ClientCode.quiet.host (List.replicate 83 ⟨0⟩) =
      some machine ∧
    machine.Answered (.uniqueName firstSynthesizer "a1") "a12" ∧
    machine.Answered (.uniqueName firstSynthesizer "a") "a12" ∧
    { call := .synthesize firstSynthesizer (bare secondDeclared)
      answer := some (.error (.internal (.found (.duplicateClass "p.a11")))) } ∈
        machine.host.calls :=
  ⟨by decide, _, rfl, List.mem_of_getElem? (i := 15) rfl, List.mem_of_getElem? (i := 16) rfl,
    List.mem_of_getElem? (i := 14) rfl⟩

end Machine

end GuestTypes
