import GuestTypes.Proofs.AttributedRuns

/-!
# Inherited kernel flags

Along every run the kernel flags of every type are those that were asked for it, and the heritable
ones that were asked for any of its ancestors. What was asked for a type is read off the run: it is
made in the innermost call of its thread that has not been answered (`Machine.described`).

Host code is taken to name no bases but types that have been made. A type that is still to be made
could come into being between the reading of its flags and the making of the type over it.
-/

namespace GuestTypes

open Discipline Attributing

namespace Machine

variable {σ : Type}

/-- What holds of the kernel flags of all types, by the calls that they were described in. -/
structure InheritsKernel (machine : Machine (Clients σ))
    (described : List (Option Nat)) : Prop where
  /-- It is known of every type whether it was described in a call. -/
  every : described.length = machine.store.types.types.size
  /-- A call that describes a type is answered with the one that was described in it. -/
  answered : forall (number : Nat) record type, machine.host.calls[number]? = some record ->
    record.made? = some type -> described[type.index]? = some (some number)
  /-- The flags are those that were asked for, and the heritable ones of all ancestors. -/
  inherits : machine.store.types.Inherits (ownKernel machine.host.calls described)

variable {code : ClientCode σ} {start machine : Machine (Clients σ)} {schedule : List ThreadId}

/-- Whatever the schedule, kernel flags are inherited from all ancestors, and nothing else is. -/
theorem kernel_inherited (opens : start.Opens)
    (followed : start.follow code.host schedule = some machine)
    (genuine : start.forges code.host schedule = false) :
    machine.InheritsKernel (described code.host [] schedule start) := by
  obtain ⟨instant, known⟩ := opens.kept
  obtain ⟨now, kept, described, unforged⟩ := attributed_follow opens.attributed known followed
  have valid : Valid now := kept.valid
  have described : now.ghost.described = Machine.described code.host [] schedule start := described
  rw [← described]
  constructor
  · rw [kept.store, valid.every]
  · rw [kept.host]
    exact valid.answered
  · rw [kept.store, kept.host]
    refine TypeTable.inherits_of_folded fun type => ?_
    by_cases made : now.store.types.Made type
    · exact valid.folded (unforged trivial genuine) type made
    · have absent : now.store.types.row type = default := TypeTable.row_unmade made
      have unasked : ownKernel now.host.calls now.ghost.described type = .none := by
        unfold ownKernel
        rw [List.getElem?_eq_none (valid.every ▸ Nat.le_of_not_lt made)]
        rfl
      rw [absent, unasked]
      rfl

/-- Threads that are started ask the first factory for a representation of truth values. -/
def lookingUp : ClientCode Unit where
  initializer := ClientCode.quiet.initializer
  escalation := ClientCode.quiet.escalation
  body _ := .call (.findOrCreate ⟨0⟩ Builtin.bool) fun _ => .done (.ok ())

/-- A flag that is not heritable, one that is, and one without a name. -/
def mixedFlags : KernelFlags := KernelFlags.matchSelf.union (KernelFlags.hasIter.union ⟨0x1000⟩)

/-- Host code that makes a type, one over it and a guest class over that one, while another thread
has a type made for a class. -/
def makingFamily : Client Unit (Except Fault Unit) :=
  .call (.makeFactory {}) fun _ => .fork ⟨0⟩ fun _ =>
    .call (.create ⟨0⟩ { name := "text", primary := Builtin.text, kernel := mixedFlags }) fun
      | .error fault => .done (.error fault)
      | .ok base =>
          .call (.create ⟨0⟩
            { name := "dict", primary := Builtin.dict, bases := [base], kernel := .hasNext }) fun
            | .error fault => .done (.error fault)
            | .ok middle => .call (.defineClass ⟨0⟩ "Leaf" [middle] none false) fun _ =>
                .done (.ok ())

/-- The threads of `makingFamily` take turns until one of them waits for the other. -/
def makingInTurns : List ThreadId :=
  List.replicate 14 ⟨0⟩ ++ (List.replicate 6 [⟨1⟩, ⟨0⟩]).flatten ++ List.replicate 15 ⟨0⟩ ++
    List.replicate 39 ⟨1⟩ ++ List.replicate 73 ⟨0⟩

set_option maxRecDepth 20000 in
/-- Along a family of types the heritable flags are passed on, and the others are not. -/
theorem kernel_inherited_makingFamily : exists machine,
    (opening makingFamily ()).follow lookingUp.host makingInTurns = some machine ∧
      machine.store.types.types.toList.map (·.kernel.bits) = [0, 0, 0x1005, 0, 0x00c, 0x00c] ∧
      machine.InheritsKernel [none, none, some 1, none, some 3, some 4] := by
  have read : described lookingUp.host [] makingInTurns (opening makingFamily ()) =
      [none, none, some 1, none, some 3, some 4] := by decide +kernel
  have genuine : (opening makingFamily ()).forges lookingUp.host makingInTurns = false := by
    decide +kernel
  have flags : ((opening makingFamily ()).follow lookingUp.host makingInTurns).map
      (·.store.types.types.toList.map (·.kernel.bits)) = some [0, 0, 0x1005, 0, 0x00c, 0x00c] := by
    decide +kernel
  obtain ⟨machine, followed, flags⟩ := Option.map_eq_some_iff.mp flags
  refine ⟨machine, followed, flags, ?_⟩
  rw [← read]
  exact kernel_inherited (opens_opening makingFamily ()) followed genuine

end Machine

end GuestTypes
