import GuestTypes.Proofs.ClassNames
import GuestTypes.Proofs.Hosting
import GuestTypes.Proofs.Typing

/-!
# Names that a synthesizer issues

What becomes of each number that one synthesizer issues, whatever threads ask for numbers and
define classes at the same time. A number is issued to one thread, which holds it as a `Ticket`
until it takes the name of it from the loader; so a name that is taken was issued before and is
held by nobody. The rules say so of every loader: its names come from host code that defines a
class with it directly, or from synthesizers that have it as their own.
-/

namespace GuestTypes

variable {σ β : Type} {thread : ThreadId}

/-! ## Single steps -/

namespace Store

/-- The synthesizer exists. -/
def MadeSynthesizer (store : Store) (id : SynthesizerId) : Prop :=
  id.index < store.synthesizers.size

/-- Synthesizers stay, with their configurations and their loaders. -/
structure Equips (before after : Store) : Prop where
  made : forall id, before.MadeSynthesizer id -> after.MadeSynthesizer id
  config : forall id, before.MadeSynthesizer id ->
    (after.synthesizer id).config = (before.synthesizer id).config
  loader : forall id, before.MadeSynthesizer id ->
    (after.synthesizer id).loader = (before.synthesizer id).loader

theorem Equips.refl (store : Store) : store.Equips store :=
  ⟨fun _ => id, fun _ _ => rfl, fun _ _ => rfl⟩

/-- One synthesizer changes, and the others stay. -/
theorem synthesizer_set (store : Store) (id other : SynthesizerId) (changed : Synthesizer) :
    (store.synthesizers.set id.index changed).get other.index =
      if id = other then changed else store.synthesizer other := by
  rw [Table.get_set]
  cases id
  cases other
  simp only [SynthesizerId.mk.injEq]
  rfl

/-- One loader changes, and the others stay. -/
theorem loader_set (store : Store) (id other : LoaderId) (changed : Loader) :
    (store.loaders.set id.index changed).get other.index =
      if id = other then changed else store.loader other := by
  rw [Table.get_set]
  cases id
  cases other
  simp only [LoaderId.mk.injEq]
  rfl

end Store

namespace Synthesizer.Step

/-- No step changes the configuration of a synthesizer. -/
theorem config_perform (step : Synthesizer.Step β) (synthesizer : Synthesizer) :
    (step.perform synthesizer).2.config = synthesizer.config := by
  cases step <;> rfl

/-- No step moves a synthesizer to another loader. -/
theorem loader_perform (step : Synthesizer.Step β) (synthesizer : Synthesizer) :
    (step.perform synthesizer).2.loader = synthesizer.loader := by
  cases step <;> rfl

/-- The numbers of other bases are not looked for among those of a base. -/
theorem find?_filter_base (issued : List (String × UInt32)) (base other : String) :
    (issued.filter (·.1 != base)).find? (·.1 == other) =
      if base = other then none else issued.find? (·.1 == other) := by
  rw [List.find?_filter]
  split
  · rename_i same
    subst same
    rw [List.find?_eq_none]
    simp
  · rename_i different
    congr 1
    funext entry
    by_cases found : entry.1 = other
    · simp [found, Ne.symm different]
    · simp [found]

/-- A number is one more than the last one for its base, and the last one from now on. -/
theorem lastIssued_issue (synthesizer : Synthesizer) (base other : String) :
    (Step.perform (.issue base) synthesizer).2.lastIssued other =
      synthesizer.lastIssued other + if base = other then 1 else 0 := by
  unfold lastIssued perform
  dsimp only
  rw [List.find?_append, find?_filter_base]
  by_cases same : base = other
  · simp [same, lastIssued]
  · simp [same]

end Synthesizer.Step

namespace Action

/-- The base that the synthesizer issues a number for. -/
def issues? (id : SynthesizerId) : Action β -> Option String
  | .synthesizer other (.issue base) => if other = id then some base else none
  | _ => none

/-- The name that is taken from a loader, if it is free. -/
def claims? : Action β -> Option (LoaderId × String)
  | .loader id (.claim name) => some (id, name)
  | _ => none

/-- The configuration of a synthesizer that is made. -/
def configures? : Action β -> Option Configuration
  | .addSynthesizer config _ => some config
  | _ => none

/-- What an action does to synthesizers and to loaders. -/
structure Accounts (action : Action β) (before after : Store) : Prop where
  equips : before.Equips after
  config : forall id, (after.synthesizer id).config = (before.synthesizer id).config ∨
    action.configures? = some (after.synthesizer id).config
  issued : forall id base,
    (¬ before.MadeSynthesizer id -> (before.synthesizer id).lastIssued base = 0) ->
      (after.synthesizer id).lastIssued base = (before.synthesizer id).lastIssued base +
        if action.issues? id = some base then 1 else 0
  made : forall id, action.issues? id ≠ none -> after.MadeSynthesizer id
  defined : forall loader name, name ∈ (after.loader loader).defined ->
    name ∈ (before.loader loader).defined ∨ action.claims? = some (loader, name)

variable {action : Action β} {answer : β} {before after : Store}

/-- Most actions are about neither. -/
theorem Accounts.unseen (issues : forall id, action.issues? id = none)
    (synthesizers : after.synthesizers = before.synthesizers)
    (loaders : after.loaders = before.loaders) : action.Accounts before after := by
  have same : forall id, after.synthesizer id = before.synthesizer id := fun id => by
    unfold Store.synthesizer
    rw [synthesizers]
  exact {
    equips := {
      made := fun id made => by
        unfold Store.MadeSynthesizer
        rw [synthesizers]
        exact made
      config := fun id _ => by rw [same]
      loader := fun id _ => by rw [same] }
    config := fun id => .inl (by rw [same])
    issued := fun id base _ => by simp [same, issues]
    made := fun id asked => absurd (issues id) asked
    defined := fun loader name member => by
      unfold Store.loader at member
      rw [loaders] at member
      exact .inl member }

/-- A synthesizer takes a step. -/
theorem Accounts.synthesizer (id : SynthesizerId) (step : Synthesizer.Step β) (before : Store) :
    (Action.synthesizer id step).Accounts before { before with
      synthesizers := before.synthesizers.set id.index
        (step.perform (before.synthesizer id)).2 } := by
  have changed : forall other, Store.synthesizer { before with
      synthesizers := before.synthesizers.set id.index
        (step.perform (before.synthesizer id)).2 } other =
          if id = other then (step.perform (before.synthesizer id)).2
          else before.synthesizer other := fun other => before.synthesizer_set id other _
  have config : forall other, (Store.synthesizer { before with
      synthesizers := before.synthesizers.set id.index
        (step.perform (before.synthesizer id)).2 } other).config =
          (before.synthesizer other).config := fun other => by
    rw [changed]
    split
    · rename_i same
      rw [step.config_perform, same]
    · rfl
  exact {
    equips := {
      made := fun other made => Nat.lt_of_lt_of_le made (Table.size_le_set _ _ _)
      config := fun other _ => config other
      loader := fun other _ => by
        rw [changed]
        split
        · rename_i same
          rw [step.loader_perform, same]
        · rfl }
    config := fun other => .inl (config other)
    issued := by
      intro other base _
      rw [changed]
      cases step with
      | redirect directory =>
          split
          · rename_i same
            subst same
            simp [Synthesizer.Step.perform, Synthesizer.lastIssued, issues?]
          · simp [issues?]
      | issue asked =>
          split
          · rename_i same
            subst same
            rw [Synthesizer.Step.lastIssued_issue]
            simp [issues?]
          · rename_i different
            simp [issues?, different]
    made := by
      intro other asked
      have same : id = other := by
        cases step with
        | redirect directory => exact absurd rfl asked
        | issue base => exact Classical.byContradiction fun different => asked (if_neg different)
      subst same
      exact Table.lt_size_set _ _ _
    defined := fun _ _ => .inl }

/-- A name is taken from a loader. -/
theorem Accounts.loader (id : LoaderId) (step : Loader.Step β) (before : Store) :
    (Action.loader id step).Accounts before { before with
      loaders := before.loaders.set id.index (step.perform (before.loader id)).2 } := by
  refine ⟨⟨fun _ made => made, fun _ _ => rfl, fun _ _ => rfl⟩, fun _ => .inl rfl,
    fun _ _ _ => (UInt32.add_zero _).symm, fun _ asked => absurd rfl asked, ?_⟩
  intro other taken member
  have found : taken ∈ ((before.loaders.set id.index
    (step.perform (before.loader id)).2).get other.index).defined := member
  rw [before.loader_set] at found
  split at found
  · rename_i same
    subst same
    cases step with
    | claim name =>
        simp only [Loader.Step.perform] at found
        split at found
        · exact .inl found
        · rcases List.mem_append.mp found with was | last
          · exact .inl was
          · cases List.mem_singleton.mp last
            exact .inr rfl
  · exact .inl found

/-- A synthesizer is made. Nobody has asked it for a number yet, or it would exist. -/
theorem Accounts.addSynthesizer (config : Configuration) (loader : LoaderId) (before : Store) :
    (Action.addSynthesizer config loader).Accounts before { before with
      synthesizers := before.synthesizers.push
        { config, loader, dumpDirectory := config.dumpDirectory } } := by
  have pushed : forall id : SynthesizerId, Store.synthesizer { before with
      synthesizers := before.synthesizers.push
        { config, loader, dumpDirectory := config.dumpDirectory } } id =
          if before.synthesizers.size = id.index then
            { config, loader, dumpDirectory := config.dumpDirectory }
          else before.synthesizer id := fun id => Table.get_push _ _ _
  have old : forall id, before.MadeSynthesizer id -> Store.synthesizer { before with
      synthesizers := before.synthesizers.push
        { config, loader, dumpDirectory := config.dumpDirectory } } id = before.synthesizer id :=
    fun id made => (pushed id).trans (if_neg (Nat.ne_of_gt made))
  refine ⟨⟨fun id made => ?_, fun id made => congrArg _ (old id made),
    fun id made => congrArg _ (old id made)⟩,
    fun id => ?_, fun id base unasked => ?_, fun _ asked => absurd rfl asked, fun _ _ => .inl⟩
  · unfold Store.MadeSynthesizer at made ⊢
    rw [Table.size_push]
    omega
  · rw [pushed]
    split
    · exact .inr rfl
    · exact .inl rfl
  · rw [pushed]
    split
    · rename_i last
      rw [unasked (Nat.not_lt_of_le (Nat.le_of_eq last))]
      rfl
    · exact (UInt32.add_zero _).symm

/-- A loader is made, from which no name was taken. -/
theorem Accounts.addLoader (before : Store) :
    Action.addLoader.Accounts before { before with loaders := before.loaders.push {} } := by
  refine ⟨⟨fun _ made => made, fun _ _ => rfl, fun _ _ => rfl⟩, fun _ => .inl rfl,
    fun _ _ _ => (UInt32.add_zero _).symm, fun _ asked => absurd rfl asked, ?_⟩
  intro other taken member
  have found : taken ∈ ((before.loaders.push {}).get other.index).defined := member
  rw [Table.get_push] at found
  split at found
  · cases found
  · exact .inl found

/-- Every action accounts for what it does. -/
theorem accounts {answer : β} (performed : action.perform thread before = some (answer, after)) :
    action.Accounts before after := by
  cases action with
  | synthesizer id step =>
      cases performed
      exact .synthesizer id step before
  | loader id step =>
      cases performed
      exact .loader id step before
  | addSynthesizer config loader =>
      obtain ⟨-, rfl⟩ := Prod.mk.inj (Option.some.inj performed)
      exact .addSynthesizer config loader before
  | addLoader =>
      obtain ⟨-, rfl⟩ := Prod.mk.inj (Option.some.inj performed)
      exact .addLoader before
  | claim cls =>
      obtain ⟨state, -, rfl⟩ := performed_claim performed
      exact .unseen (fun _ => rfl) rfl rfl
  | factory id step =>
      obtain ⟨changed, -, rfl⟩ := perform_factory performed
      exact .unseen (fun _ => rfl) rfl rfl
  | observe _ | declare _ | addType _ | addShared _ | addRegistry _ | addFactory _ _ _
  | registry _ _ | release _ | heap _ | makeDirectories _ | writeFile _ _ | record _ =>
      cases performed
      exact .unseen (fun _ => rfl) rfl rfl

/-- An action that names nothing issues no number, takes no name and makes no synthesizer. -/
theorem Modest.names_nothing {typing making looking : Prop}
    (modest : action.Modest typing making False looking)
    (id : SynthesizerId) :
    action.issues? id = none ∧ action.claims? = none ∧ action.configures? = none := by
  cases action with
  | synthesizer other step =>
      cases step with
      | issue base => exact modest.elim
      | redirect directory => exact ⟨rfl, rfl, rfl⟩
  | loader loader step => exact modest.elim
  | addSynthesizer config loader => exact modest.elim
  | _ => exact ⟨rfl, rfl, rfl⟩

end Action

/-! ## The rules -/

/-- A number that was issued for a base: the first one, the second one and so on. -/
structure Ticket where
  base : String
  place : Nat

/-- What the proofs remember of the numbers that a synthesizer issues. -/
structure Counter where
  /-- The bases that it was asked a number for, in order. -/
  asked : List String := []
  /-- What was issued to a thread last, while the name of it is not taken. -/
  held : ThreadId -> Option Ticket := fun _ => none
  /-- The numbered calls that were answered with a ticket, or are going to be. -/
  given : List (Nat × Ticket) := []

/-- A number is issued to a thread, and to the call that it was asked for in, if it was. -/
def Counter.give (counter : Counter) (thread : ThreadId) (number : Option Nat) (base : String) :
    Counter :=
  let ticket : Ticket := ⟨base, counter.asked.count base + 1⟩
  { asked := counter.asked ++ [base]
    held := fun other => if other = thread then some ticket else counter.held other
    given := counter.given ++ (number.map (·, ticket)).toList }

/-- The name of the ticket that a thread holds is taken. -/
def Counter.release (counter : Counter) (thread : ThreadId) : Counter :=
  { counter with held := fun other => if other = thread then none else counter.held other }

/-- The moments that the rules are about. -/
abbrev Tally (σ : Type) := Moment (Clients σ) Counter

namespace Configuration

/-- The simple name that a ticket stands for. Numbers come round after `UInt32.size`. -/
def simpleTicketName (config : Configuration) (ticket : Ticket) : String :=
  config.simpleClassName ticket.base (UInt32.ofNat ticket.place).toNat

/-- The name that a ticket stands for. -/
def ticketName (config : Configuration) (ticket : Ticket) : String :=
  config.className (config.simpleTicketName ticket)

end Configuration

/-- The numbers that a synthesizer was asked for give different names, and its loader gets names
from it alone. -/
structure Store.NamesApart (store : Store) (issuer : SynthesizerId) (asked : List String)
    (calls : List CallRecord) : Prop where
  /-- No number comes round. -/
  few : forall base, asked.count base < UInt32.size
  /-- The template tells the bases apart. -/
  distinguished : forall first second, first ∈ asked -> second ∈ asked -> first ≠ second ->
    (store.synthesizer issuer).config.Distinguishes first second
  /-- Host code defines no class with the loader directly. -/
  unfed : forall record body, record ∈ calls ->
    record.call ≠ .defineBody (store.synthesizer issuer).loader body
  /-- No other synthesizer has the loader. One has it only if host code guesses identities. -/
  own : forall other, other ≠ issuer -> store.MadeSynthesizer other ->
    (store.synthesizer other).loader ≠ (store.synthesizer issuer).loader

namespace Naming

variable {issuer : SynthesizerId}

/-- The synthesizer issued the ticket. -/
structure Issued (issuer : SynthesizerId) (ticket : Ticket) (now : Tally σ) : Prop where
  made : now.store.MadeSynthesizer issuer
  positive : 0 < ticket.place
  counted : ticket.place ≤ now.ghost.asked.count ticket.base

/-- Host code defined, or is about to define, a class with the loader directly. -/
def Fed (loader : LoaderId) (now : Tally σ) : Prop :=
  exists record body, record ∈ now.host.calls ∧ record.call = .defineBody loader body

/-- Where a name of the loader comes from. One that the synthesizer issued is held by nobody. -/
def Sourced (issuer : SynthesizerId) (loader : LoaderId) (name : String) (now : Tally σ) : Prop :=
  Fed loader now ∨ exists other, now.store.MadeSynthesizer other ∧
    (now.store.synthesizer other).loader = loader ∧ (other = issuer -> exists ticket,
      Issued issuer ticket now ∧ (forall thread, now.ghost.held thread ≠ some ticket) ∧
        (now.store.synthesizer issuer).config.ticketName ticket = name)

/-- The call was given a ticket for the base, which the simple name stands for. -/
def Named (issuer : SynthesizerId) (number : Nat) (base name : String) (now : Tally σ) : Prop :=
  now.store.MadeSynthesizer issuer ∧ exists ticket, (number, ticket) ∈ now.ghost.given ∧
    ticket.base = base ∧ (now.store.synthesizer issuer).config.simpleTicketName ticket = name

/-- The names of the synthesizer may meet, or meet others. -/
def Crossed (issuer : SynthesizerId) (now : Tally σ) : Prop :=
  now.store.MadeSynthesizer issuer ∧
    ¬ now.store.NamesApart issuer now.ghost.asked now.host.calls

end Naming

/-- The loader refuses a name that is taken. -/
def Fault.Duplicate (fault : Fault) : Prop :=
  exists name, fault = .internal (.found (.duplicateClass name))

namespace Naming

/-- What always holds. -/
structure Valid (issuer : SynthesizerId) (now : Tally σ) : Prop where
  configs : forall other, (now.store.synthesizer other).config.validate = .ok ()
  counts : forall base, (now.store.synthesizer issuer).lastIssued base =
    UInt32.ofNat (now.ghost.asked.count base)
  asked : now.ghost.asked ≠ [] -> now.store.MadeSynthesizer issuer
  held : forall thread ticket, now.ghost.held thread = some ticket -> Issued issuer ticket now
  alone : forall thread other ticket, now.ghost.held thread = some ticket ->
    now.ghost.held other = some ticket -> thread = other
  given : forall number ticket, (number, ticket) ∈ now.ghost.given -> Issued issuer ticket now
  once : forall number other ticket, (number, ticket) ∈ now.ghost.given ->
    (other, ticket) ∈ now.ghost.given -> number = other
  sourced : forall loader name, name ∈ (now.store.loader loader).defined ->
    Sourced issuer loader name now
  named : forall (number : Nat) base name, now.host.calls[number]? =
    some { call := .uniqueName issuer base, answer := some (.ok name) } ->
      Named issuer number base name now
  refused : forall spec fault,
    { call := .synthesize issuer spec, answer := some (.error fault) } ∈ now.host.calls ->
      fault.Duplicate -> Crossed issuer now

/-- What a step of a thread may do. -/
structure Moves (issuer : SynthesizerId) (thread : ThreadId) (before after : Tally σ) : Prop where
  equips : before.store.Equips after.store
  /-- One number is issued at most. -/
  issued : exists issue : Option String,
    after.ghost.asked = before.ghost.asked ++ issue.toList ∧
      forall base, (after.store.synthesizer issuer).lastIssued base =
        (before.store.synthesizer issuer).lastIssued base + if issue = some base then 1 else 0
  held : forall other, other ≠ thread -> after.ghost.held other = before.ghost.held other
  given : before.ghost.given ⊆ after.ghost.given
  calls : forall (number : Nat) call, Discipline.Asked number call before ->
    Discipline.Asked number call after

namespace Moves

variable {issuer : SynthesizerId} {before after : Tally σ}

/-- What was issued stays issued. -/
theorem issuedLater (moves : Moves issuer thread before after) {ticket : Ticket}
    (issued : Issued issuer ticket before) : Issued issuer ticket after := by
  obtain ⟨issue, grown, -⟩ := moves.issued
  refine ⟨moves.equips.made issuer issued.made, issued.positive, Nat.le_trans issued.counted ?_⟩
  rw [grown, List.count_append]
  exact Nat.le_add_right _ _

/-- A call on record stays there, whatever it is answered. -/
theorem record (moves : Moves issuer thread before after) {record : CallRecord}
    (member : record ∈ before.host.calls) :
    exists later, later ∈ after.host.calls ∧ later.call = record.call := by
  obtain ⟨number, found⟩ := List.mem_iff_getElem?.mp member
  obtain ⟨later, still, same⟩ := moves.calls number record.call ⟨record, found, rfl⟩
  exact ⟨later, List.mem_iff_getElem?.mpr ⟨number, still⟩, same⟩

/-- A loader that host code feeds is fed from then on. -/
theorem fed (moves : Moves issuer thread before after) {loader : LoaderId}
    (fed : Fed loader before) : Fed loader after := by
  obtain ⟨record, body, member, call⟩ := fed
  obtain ⟨later, still, same⟩ := moves.record member
  exact ⟨later, body, still, same.trans call⟩

/-- The name that a call was given stays its own. -/
theorem named (moves : Moves issuer thread before after) {number : Nat} {base name : String}
    (named : Named issuer number base name before) : Named issuer number base name after := by
  obtain ⟨made, ticket, given, same, filled⟩ := named
  refine ⟨moves.equips.made issuer made, ticket, moves.given given, same, ?_⟩
  rw [moves.equips.config issuer made]
  exact filled

/-- A source stays one, if nobody is given a ticket that was issued before. -/
theorem sourced (moves : Moves issuer thread before after) {loader : LoaderId} {name : String}
    (released : forall holder ticket, after.ghost.held holder = some ticket ->
      before.ghost.held holder = some ticket ∨ ¬ Issued issuer ticket before)
    (sourced : Sourced issuer loader name before) : Sourced issuer loader name after := by
  obtain fed | ⟨other, made, own, issues⟩ := sourced
  · exact .inl (moves.fed fed)
  · refine .inr ⟨other, moves.equips.made other made,
      (moves.equips.loader other made).trans own, fun same => ?_⟩
    obtain ⟨ticket, issued, free, stands⟩ := issues same
    refine ⟨ticket, moves.issuedLater issued, fun holder held => ?_, ?_⟩
    · exact (released holder ticket held).elim (free holder) (absurd issued)
    · rw [moves.equips.config issuer issued.made]
      exact stands

/-- Names that may meet may meet ever after. -/
theorem crossed (moves : Moves issuer thread before after) (crossed : Crossed issuer before) :
    Crossed issuer after := by
  obtain ⟨made, meet⟩ := crossed
  refine ⟨moves.equips.made issuer made, fun apart => meet ?_⟩
  obtain ⟨issue, grown, -⟩ := moves.issued
  have loader := moves.equips.loader issuer made
  have config := moves.equips.config issuer made
  exact {
    few := by
      intro base
      have few := apart.few base
      rw [grown, List.count_append] at few
      omega
    distinguished := by
      intro first second member member_ different
      rw [← config]
      have distinguished := apart.distinguished first second
      rw [grown] at distinguished
      exact distinguished (List.mem_append_left _ member) (List.mem_append_left _ member_) different
    unfed := by
      intro record body member call
      obtain ⟨later, still, same⟩ := moves.record member
      rw [← loader] at call
      exact apart.unfed later body still (same.trans call)
    own := by
      intro other different madeOther same
      apply apart.own other different (moves.equips.made other madeOther)
      rw [moves.equips.loader other madeOther, loader]
      exact same }

end Moves

variable {issuer : SynthesizerId} {now : Tally σ}

theorem Moves.refl : Moves issuer thread now now where
  equips := .refl _
  issued := ⟨none, by simp, by simp⟩
  held := fun _ _ => rfl
  given := List.Subset.refl _
  calls := fun _ _ asked => asked

/-- Names for one base show which number they stand for, unless it has come round. -/
theorem Valid.place_eq (valid : Valid issuer now) {base : String} {place other : Nat}
    (few : now.ghost.asked.count base < UInt32.size) (issued : Issued issuer ⟨base, place⟩ now)
    (issued_ : Issued issuer ⟨base, other⟩ now)
    (same : (now.store.synthesizer issuer).config.simpleTicketName ⟨base, place⟩ =
      (now.store.synthesizer issuer).config.simpleTicketName ⟨base, other⟩) : place = other := by
  have exact_ : forall {place : Nat}, Issued issuer ⟨base, place⟩ now ->
      (UInt32.ofNat place).toNat = place := fun issued =>
    UInt32.toNat_ofNat_of_lt' (Nat.lt_of_le_of_lt issued.counted few)
  rw [← exact_ issued, ← exact_ issued_]
  exact Configuration.number_eq (valid.configs issuer) same

/-- Names that are apart show which ticket they stand for. -/
theorem Valid.ticket_eq (valid : Valid issuer now)
    (apart : now.store.NamesApart issuer now.ghost.asked now.host.calls) {ticket other : Ticket}
    (issued : Issued issuer ticket now) (issued_ : Issued issuer other now)
    (same : (now.store.synthesizer issuer).config.ticketName ticket =
      (now.store.synthesizer issuer).config.ticketName other) : ticket = other := by
  have simple := Configuration.className_injective same
  have listed : forall {ticket : Ticket}, Issued issuer ticket now ->
      ticket.base ∈ now.ghost.asked := fun issued =>
    List.count_pos_iff.mp (Nat.lt_of_lt_of_le issued.positive issued.counted)
  obtain ⟨base, place⟩ := ticket
  obtain ⟨base_, place_⟩ := other
  obtain rfl : base = base_ := by
    by_cases equal : base = base_
    · exact equal
    · exact (apart.distinguished base base_ (listed issued) (listed issued_) equal).base_eq
        (valid.configs issuer) simple
  exact congrArg (Ticket.mk base) (valid.place_eq (apart.few base) issued issued_ simple)

/-- A synthesizer that does not exist has issued nothing. -/
theorem Valid.unasked (valid : Valid issuer now) (base : String)
    (absent : ¬ now.store.MadeSynthesizer issuer) :
    (now.store.synthesizer issuer).lastIssued base = 0 := by
  have none_ : now.ghost.asked = [] := Classical.byContradiction fun some_ =>
    absent (valid.asked some_)
  rw [valid.counts, none_]
  rfl

/-- A number is as far as its base was asked for. -/
theorem ofNat_count_issue (asked : List String) (issue : Option String) (base : String) :
    UInt32.ofNat ((asked ++ issue.toList).count base) =
      UInt32.ofNat (asked.count base) + if issue = some base then 1 else 0 := by
  rw [List.count_append, UInt32.ofNat_add]
  congr 1
  cases issue with
  | none => simp
  | some issued => by_cases same : issued = base <;> simp [same]

/-- The ticket is for the number that the action draws. -/
structure Drawn (issuer : SynthesizerId) (action : Action β) (ticket : Ticket) (now : Tally σ) :
    Prop where
  issues : action.issues? issuer = some ticket.base
  place : ticket.place = now.ghost.asked.count ticket.base + 1

/-- What a thread remembers when an action draws a number: nothing else is given to anyone. -/
structure Draws (issuer : SynthesizerId) (thread : ThreadId) (action : Action β) (now : Tally σ)
    (ghost : Counter) : Prop where
  asked : ghost.asked = now.ghost.asked ++ (action.issues? issuer).toList
  others : forall other, other ≠ thread -> ghost.held other = now.ghost.held other
  held : forall ticket, ghost.held thread = some ticket ->
    now.ghost.held thread = some ticket ∨ Drawn issuer action ticket now
  given : exists fresh : Option (Nat × Ticket), ghost.given = now.ghost.given ++ fresh.toList ∧
    forall number ticket, fresh = some (number, ticket) -> Drawn issuer action ticket now

section Draws

variable {action : Action β} {ghost : Counter} {ticket : Ticket}

/-- Most actions draw no number. -/
theorem Draws.none (issues : action.issues? issuer = none) :
    Draws issuer thread action now now.ghost where
  asked := by simp [issues]
  others := fun _ _ => rfl
  held := fun _ => .inl
  given := ⟨Option.none, by simp, nofun⟩

/-- A number that is drawn has not been issued before. -/
theorem Drawn.unissued (drawn : Drawn issuer action ticket now) : ¬ Issued issuer ticket now := by
  intro issued
  have counted := issued.counted
  have place := drawn.place
  omega

/-- A number that was drawn is issued. -/
theorem Drawn.issued (drawn : Drawn issuer action ticket now)
    (draws : Draws issuer thread action now ghost) {store : Store}
    (accounts : action.Accounts now.store store) :
    Issued issuer ticket ⟨store, now.host, ghost⟩ where
  made := accounts.made issuer (by simp [drawn.issues])
  positive := by
    have place := drawn.place
    omega
  counted := by
    show ticket.place ≤ ghost.asked.count ticket.base
    simp [draws.asked, drawn.issues, drawn.place]

/-- Whoever holds a ticket held it before, or has just drawn it. -/
theorem Draws.holder (draws : Draws issuer thread action now ghost) {holder : ThreadId}
    (has : ghost.held holder = some ticket) : now.ghost.held holder = some ticket ∨
      holder = thread ∧ Drawn issuer action ticket now := by
  by_cases own : holder = thread
  · subst own
    exact (draws.held ticket has).imp_right fun drawn => ⟨rfl, drawn⟩
  · rw [draws.others holder own] at has
    exact .inl has

end Draws

/-- What issues no number and defines no class keeps to the rules, if the calls that it ends have
achieved something. -/
theorem Valid.remain {after : Tally σ} (valid : Valid issuer now)
    (moves : Moves issuer thread now after)
    (synthesizers : after.store.synthesizers = now.store.synthesizers)
    (loaders : after.store.loaders = now.store.loaders) (ghost : after.ghost = now.ghost)
    (named : forall (number : Nat) base name, after.host.calls[number]? =
      some { call := .uniqueName issuer base, answer := some (.ok name) } ->
        Named issuer number base name now)
    (refused : forall spec fault,
      { call := .synthesize issuer spec, answer := some (.error fault) } ∈ after.host.calls ->
        fault.Duplicate -> Crossed issuer now) : Valid issuer after := by
  have synthesizer : after.store.synthesizer = now.store.synthesizer := by
    unfold Store.synthesizer
    rw [synthesizers]
  have loader : after.store.loader = now.store.loader := by
    unfold Store.loader
    rw [loaders]
  exact {
    configs := by
      rw [synthesizer]
      exact valid.configs
    counts := by
      rw [synthesizer, ghost]
      exact valid.counts
    asked := by
      rw [ghost]
      exact fun asked => moves.equips.made issuer (valid.asked asked)
    held := by
      rw [ghost]
      exact fun holder ticket has => moves.issuedLater (valid.held holder ticket has)
    alone := by
      rw [ghost]
      exact valid.alone
    given := by
      rw [ghost]
      exact fun number ticket member => moves.issuedLater (valid.given number ticket member)
    once := by
      rw [ghost]
      exact valid.once
    sourced := by
      rw [loader]
      refine fun loader name member => moves.sourced ?_ (valid.sourced loader name member)
      rw [ghost]
      exact fun _ _ => .inl
    named := fun number base name found => moves.named (named number base name found)
    refused := fun spec fault member duplicate =>
      moves.crossed (refused spec fault member duplicate) }

/-- Initialising classes changes nothing that the rules are about. -/
theorem Valid.progress (valid : Valid issuer now) (progress : Table InitState) :
    Valid issuer (now.withProgress progress) ∧
      Moves issuer thread now (now.withProgress progress) := by
  have moves : Moves issuer thread now (now.withProgress progress) :=
    ⟨⟨fun _ made => made, fun _ _ => rfl, fun _ _ => rfl⟩,
      ⟨none, (List.append_nil _).symm, fun _ => (UInt32.add_zero _).symm⟩,
      fun _ _ => rfl, List.Subset.refl _, fun _ _ asked => asked⟩
  exact ⟨valid.remain moves rfl rfl rfl valid.named valid.refused, moves⟩

end Naming

/-- The rules that keep the names of a synthesizer. -/
def naming {σ : Type} (issuer : SynthesizerId) : Discipline (Clients σ) Counter where
  Valid := Naming.Valid issuer
  Moves := Naming.Moves issuer
  Idle _ _ := True
  Leaves _ _ _ := True
  Quiet _ _ _ := True
  moves_refl _ _ := .refl
  quiet_store _ _ := trivial
  quiet_none _ := trivial
  leaves_refl _ _ := trivial
  leaves_trans _ _ := trivial
  leaves_moves _ _ _ := trivial
  idle_moves _ _ _ _ := trivial
  progress progress valid _ := by
    obtain ⟨valid, moves⟩ := Naming.Valid.progress valid progress
    exact ⟨valid, moves, trivial, trivial⟩

theorem naming_free (issuer : SynthesizerId) : (naming (σ := σ) issuer).Free := fun _ _ => trivial

namespace Naming

variable {issuer : SynthesizerId} {now : Tally σ} {store : Store} {answer : β}

/-- An action keeps to the rules when only a number that it draws is given to its thread, and the
name that is taken has a source. -/
theorem Valid.acts (valid : Valid issuer now) {action : Action β} {answer : β} {store : Store}
    {ghost : Counter} (performed : action.perform thread now.store = some (answer, store))
    (draws : Draws issuer thread action now ghost)
    (configured : forall config, action.configures? = some config -> config.validate = .ok ())
    (sourced : forall loader name, action.claims? = some (loader, name) ->
      name ∉ (now.store.loader loader).defined ->
        Sourced issuer loader name ⟨store, now.host, ghost⟩) :
    (naming issuer).Allows thread now ⟨store, now.host, ghost⟩ := by
  have accounts := Action.accounts performed
  have numbers := fun base => accounts.issued issuer base (valid.unasked base)
  obtain ⟨entry, given, fresh⟩ := draws.given
  have moves : Moves issuer thread now ⟨store, now.host, ghost⟩ :=
    ⟨accounts.equips, ⟨_, draws.asked, numbers⟩, draws.others,
      given ▸ List.subset_append_left now.ghost.given entry.toList, fun _ _ asked => asked⟩
  have newly : forall other, other ∈ ghost.given ->
      other ∈ now.ghost.given ∨ entry = some other := by
    intro other member
    rw [given, List.mem_append, Option.mem_toList] at member
    exact member
  refine ⟨?_, moves⟩
  exact {
    configs := by
      intro other
      rcases accounts.config other with kept | made
      · exact (congrArg _ kept).trans (valid.configs other)
      · exact configured _ made
    counts := by
      intro base
      show (store.synthesizer issuer).lastIssued base = UInt32.ofNat (ghost.asked.count base)
      rw [numbers, draws.asked, ofNat_count_issue, valid.counts]
    asked := by
      intro some_
      cases issues : action.issues? issuer with
      | none =>
          rw [show ghost.asked = now.ghost.asked by simp [draws.asked, issues]] at some_
          exact accounts.equips.made issuer (valid.asked some_)
      | some base => exact accounts.made issuer (by simp [issues])
    held := by
      intro holder ticket has
      rcases draws.holder has with old | ⟨-, drawn⟩
      · exact moves.issuedLater (valid.held holder ticket old)
      · exact drawn.issued draws accounts
    alone := by
      intro holder other ticket has has_
      rcases draws.holder has with old | ⟨own, drawn⟩
      · rcases draws.holder has_ with old_ | ⟨-, drawn_⟩
        · exact valid.alone holder other ticket old old_
        · exact absurd (valid.held holder ticket old) drawn_.unissued
      · rcases draws.holder has_ with old_ | ⟨own_, -⟩
        · exact absurd (valid.held other ticket old_) drawn.unissued
        · exact own.trans own_.symm
    given := by
      intro number ticket member
      rcases newly _ member with old | new
      · exact moves.issuedLater (valid.given number ticket old)
      · exact (fresh number ticket new).issued draws accounts
    once := by
      intro number other ticket member member_
      rcases newly _ member with old | new
      · rcases newly _ member_ with old_ | new_
        · exact valid.once number other ticket old old_
        · exact absurd (valid.given number ticket old) (fresh other ticket new_).unissued
      · rcases newly _ member_ with old_ | new_
        · exact absurd (valid.given other ticket old_) (fresh number ticket new).unissued
        · cases new.symm.trans new_
          rfl
    sourced := by
      intro loader name member
      by_cases was : name ∈ (now.store.loader loader).defined
      · refine moves.sourced ?_ (valid.sourced loader name was)
        exact fun holder ticket has => (draws.holder has).imp_right fun new => new.2.unissued
      · exact sourced loader name ((accounts.defined loader name member).resolve_left was) was
    named := fun number base name found => moves.named (valid.named number base name found)
    refused := fun spec fault member duplicate =>
      moves.crossed (valid.refused spec fault member duplicate) }

/-- An action that names nothing keeps to the rules. -/
theorem Valid.modest (valid : Valid issuer now) {action : Action β}
    (modest : action.Modest True True False True)
    (performed : action.perform thread now.store = some (answer, store)) :
    (naming issuer).Allows thread now (now.withStore store) := by
  obtain ⟨issues, claims, configures⟩ := modest.names_nothing issuer
  exact valid.acts performed (.none issues) (fun config made => nomatch configures.symm.trans made)
    fun loader name taken => nomatch claims.symm.trans taken

/-- A synthesizer is made with a configuration that can be used. -/
theorem Valid.addSynthesizer (valid : Valid issuer now) {config : Configuration} {loader : LoaderId}
    {answer : SynthesizerId} (usable : config.validate = .ok ())
    (performed : (Action.addSynthesizer config loader).perform thread now.store =
      some (answer, store)) :
    (naming issuer).Allows thread now (now.withStore store) :=
  valid.acts performed (.none rfl) (fun _ made => Option.some.inj made ▸ usable) nofun

/-- A number is issued. -/
theorem Valid.issue (valid : Valid issuer now) (number : Option Nat) {base : String}
    {answer : UInt32}
    (performed : (Action.synthesizer issuer (.issue base)).perform thread now.store =
      some (answer, store)) :
    (naming issuer).Allows thread now ⟨store, now.host, now.ghost.give thread number base⟩ := by
  have issues : (Action.synthesizer issuer (.issue base)).issues? issuer = some base := if_pos rfl
  have draws : Draws issuer thread (.synthesizer issuer (.issue base)) now
      (now.ghost.give thread number base) := {
    asked := by rw [issues]; rfl
    others := fun _ different => if_neg different
    held := by
      intro ticket has
      cases (if_pos rfl : (now.ghost.give thread number base).held thread = _).symm.trans has
      exact .inr ⟨issues, rfl⟩
    given := by
      refine ⟨_, rfl, fun other ticket is => ?_⟩
      obtain ⟨_, -, same⟩ := Option.map_eq_some_iff.mp is
      cases same
      exact ⟨issues, rfl⟩ }
  exact valid.acts performed draws nofun nofun

/-- Another synthesizer issues a number. -/
theorem Valid.issueElsewhere (valid : Valid issuer now) {other : SynthesizerId} {base : String}
    {answer : UInt32} (different : other ≠ issuer)
    (performed : (Action.synthesizer other (.issue base)).perform thread now.store =
      some (answer, store)) :
    (naming issuer).Allows thread now (now.withStore store) :=
  valid.acts performed (.none (if_neg different)) nofun nofun

/-- A name that has a source in any case is taken. -/
theorem Valid.claim (valid : Valid issuer now) {loader : LoaderId} {name : String} {answer : Bool}
    (sourced : forall store, now.store.Equips store ->
      Sourced issuer loader name (now.withStore store))
    (performed : (Action.loader loader (.claim name)).perform thread now.store =
      some (answer, store)) :
    (naming issuer).Allows thread now (now.withStore store) := by
  have equips := (Action.accounts performed).equips
  refine valid.acts performed (.none rfl) nofun fun other taken claims _ => ?_
  cases claims
  exact sourced store equips

/-- The name of a ticket is taken from the loader of the synthesizer by whoever holds it. -/
theorem Valid.claimTicket (valid : Valid issuer now) {ticket : Ticket} {loader : LoaderId}
    {name : String} {answer : Bool} (held : now.ghost.held thread = some ticket)
    (own : (now.store.synthesizer issuer).loader = loader)
    (stands : (now.store.synthesizer issuer).config.ticketName ticket = name)
    (performed : (Action.loader loader (.claim name)).perform thread now.store =
      some (answer, store)) :
    (naming issuer).Allows thread now ⟨store, now.host, now.ghost.release thread⟩ := by
  have equips := (Action.accounts performed).equips
  have issued := valid.held thread ticket held
  have released : (now.ghost.release thread).held thread = none := if_pos rfl
  have draws : Draws issuer thread (.loader loader (.claim name)) now
      (now.ghost.release thread) := {
    asked := by simp [Action.issues?, Counter.release]
    others := fun _ different => if_neg different
    held := fun ticket has => nomatch released.symm.trans has
    given := ⟨none, by simp [Counter.release], nofun⟩ }
  refine valid.acts performed draws nofun fun other taken claims _ => ?_
  cases claims
  refine .inr ⟨issuer, equips.made issuer issued.made,
    (equips.loader issuer issued.made).trans own, fun _ => ⟨ticket, ?_, fun holder has => ?_, ?_⟩⟩
  · exact ⟨equips.made issuer issued.made, issued.positive, issued.counted⟩
  · by_cases mine : holder = thread
    · subst mine
      cases released.symm.trans has
    · have still : now.ghost.held holder = some ticket := (if_neg mine).symm.trans has
      exact mine (valid.alone holder thread ticket still held)
  · show (store.synthesizer issuer).config.ticketName ticket = name
    rw [equips.config issuer issued.made]
    exact stands

/-- A name that its holder cannot take any more meets another one. -/
theorem Valid.crossed (valid : Valid issuer now) {ticket : Ticket}
    (held : now.ghost.held thread = some ticket)
    (taken : (now.store.synthesizer issuer).config.ticketName ticket ∈
      (now.store.loader (now.store.synthesizer issuer).loader).defined) : Crossed issuer now := by
  have issued := valid.held thread ticket held
  refine ⟨issued.made, fun apart => ?_⟩
  obtain ⟨record, body, member, call⟩ | ⟨other, made, own, issues⟩ := valid.sourced _ _ taken
  · exact apart.unfed record body member call
  · by_cases same : other = issuer
    · obtain ⟨first, issued_, free, stands⟩ := issues same
      obtain rfl := valid.ticket_eq apart issued_ issued stands
      exact free thread held
    · exact apart.own other same made own

end Naming

end GuestTypes
