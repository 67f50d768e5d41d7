import GuestTypes.Proofs.DistinctNames

/-!
# Unique names

No number is given to two calls, and below the number where the counter comes round the template
shows which number was given. So no two calls are answered with one name for the same base,
whatever text that base is and whatever else is asked meanwhile.
-/

namespace GuestTypes

open Discipline Naming

/-- The name that a call was answered with, if it asked the synthesizer for one for the base. -/
def CallRecord.nameFor? (issuer : SynthesizerId) (base : String) : CallRecord -> Option String
  | ⟨.uniqueName asked other, some (.ok name)⟩ =>
      if asked = issuer ∧ other = base then some name else none
  | _ => none

/-- A call that was answered with a name asked for it. -/
theorem CallRecord.of_nameFor? {issuer : SynthesizerId} {base name : String} {record : CallRecord}
    (answered : record.nameFor? issuer base = some name) :
    record = { call := .uniqueName issuer base, answer := some (.ok name) } := by
  unfold nameFor? at answered
  split at answered
  · split at answered
    · rename_i same
      obtain ⟨rfl, rfl⟩ := same
      cases answered
      rfl
    · cases answered
  · cases answered

/-- Two calls that were given names for one base were given different ones. -/
theorem Naming.Valid.call_eq {σ : Type} {issuer : SynthesizerId} {now : Tally σ}
    {base name : String}
    {number other : Nat} (valid : Valid issuer now)
    (few : now.ghost.asked.count base < UInt32.size)
    (named : Named issuer number base name now) (named_ : Named issuer other base name now) :
    number = other := by
  obtain ⟨-, ⟨base, place⟩, given, rfl, filled⟩ := named
  obtain ⟨-, ⟨base_, place_⟩, given_, same, filled_⟩ := named_
  obtain rfl : base_ = base := same
  obtain rfl : place = place_ := valid.place_eq few (valid.given _ _ given) (valid.given _ _ given_)
    (filled.trans filled_.symm)
  exact valid.once number other _ given given_

namespace Machine

variable {σ : Type} {code : ClientCode σ} {start machine : Machine (Clients σ)}
  {schedule : List ThreadId}

/-- The names that the synthesizer was asked for and has answered for the base, call by call. -/
def namesFor (machine : Machine (Clients σ)) (issuer : SynthesizerId) (base : String) :
    List String :=
  machine.host.calls.filterMap (·.nameFor? issuer base)

/-- Whatever the schedule, the names for a base are all different, if fewer numbers were issued for
it than there are. -/
theorem names_unique (opens : start.Opens)
    (followed : start.follow code.host schedule = some machine) (issuer : SynthesizerId)
    (base : String) (few : (start.asked code.host issuer schedule).count base < UInt32.size) :
    (machine.namesFor issuer base).Nodup := by
  obtain ⟨now, kept, counted⟩ := counted_follow (opens.counted issuer) followed
  have valid : Valid issuer now := kept.valid
  have asked : now.ghost.asked = start.asked code.host issuer schedule := counted
  rw [← asked] at few
  unfold namesFor
  rw [kept.host, List.Nodup, List.pairwise_filterMap, List.pairwise_iff_getElem]
  rintro number other inside inside_ before name answered _ answered_ rfl
  have named := fun (number : Nat) (inside : number < now.host.calls.length)
      (answered : now.host.calls[number].nameFor? issuer base = some name) =>
    valid.named number base name <|
      (List.getElem?_eq_getElem inside).trans (congrArg some (CallRecord.of_nameFor? answered))
  have same := valid.call_eq few (named number inside answered) (named other inside_ answered_)
  exact absurd same (Nat.ne_of_lt before)

/-- A base with the place of the number in it. -/
def numbered : String := "a\x7bn\x7d"

/-- Threads that are started ask the first synthesizer for a name. -/
def askingNumbered : ClientCode Unit where
  initializer := ClientCode.quiet.initializer
  escalation := ClientCode.quiet.escalation
  body _ := .call (.uniqueName firstSynthesizer numbered) fun _ => .done (.ok ())

/-- Host code that asks for names for two bases while another thread does. -/
def namingTwice : Client Unit (Except Fault Unit) :=
  .call (.makeSynthesizer {}) fun _ => .fork ⟨0⟩ fun _ =>
    .call (.uniqueName firstSynthesizer numbered) fun _ =>
      .call (.uniqueName firstSynthesizer "a") fun _ =>
        .call (.uniqueName firstSynthesizer numbered) fun _ => .done (.ok ())

/-- The threads of `namingTwice` take turns once there are two. -/
def namingInTurns : List ThreadId :=
  List.replicate 6 ⟨0⟩ ++ (List.replicate 5 [⟨1⟩, ⟨0⟩]).flatten ++ List.replicate 8 ⟨0⟩

set_option maxRecDepth 20000 in
/-- Three names for one base are different, while another thread asks for names too. -/
theorem names_unique_namingTwice : exists machine,
    (opening namingTwice ()).follow askingNumbered.host namingInTurns = some machine ∧
      machine.namesFor firstSynthesizer numbered =
        ["Derived$a1$1", "Derived$a2$2", "Derived$a3$3"] ∧
      (machine.namesFor firstSynthesizer numbered).Nodup := by
  have asked : (opening namingTwice ()).asked askingNumbered.host firstSynthesizer namingInTurns =
      [numbered, numbered, "a", numbered] := by decide +kernel
  have names : ((opening namingTwice ()).follow askingNumbered.host namingInTurns).map
      (·.namesFor firstSynthesizer numbered) =
      some ["Derived$a1$1", "Derived$a2$2", "Derived$a3$3"] := by decide +kernel
  obtain ⟨machine, followed, names⟩ := Option.map_eq_some_iff.mp names
  refine ⟨machine, followed, names, ?_⟩
  refine names_unique (opens_opening namingTwice ()) followed firstSynthesizer numbered ?_
  rw [asked]
  decide

end Machine

end GuestTypes
