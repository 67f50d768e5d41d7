import GuestTypes.Proofs.Requests
import GuestTypes.Protocol.Objects

/-!
# Objects under the rules

All that the rules see of an object is its class, which everybody may name. Only allocation
gives an object a class; reading and replacing fields is mild.
-/

namespace GuestTypes

open World

variable {σ α : Type} {thread : ThreadId} {call : Option Nat} {known : World -> Prop}
  {fails : Fault -> World -> Prop} {object : ObjectId} {type : TypeId} {cls : ClassId}

/-! ## Reading and replacing -/

namespace ObjectId

/-- Checking an index changes nothing. -/
theorem mild_checkIndex {index : Nat} :
    (object.checkIndex index : Request (Clients σ) Unit).Mild := by
  refine .bind (.observe _) fun count => ?_
  split
  · exact .bind (.observe _) fun name => .throw _
  · exact .pure ()

/-- Finding the index of a slot changes nothing. -/
theorem mild_slotIndex {name : String} :
    (object.slotIndex name : Request (Clients σ) Nat).Mild := by
  refine .bind (.observe _) fun found => ?_
  cases found with
  | some index => exact .pure index
  | none => exact .bind (.observe _) fun name => .throw _

/-- Writing a slot by its index is a matter of the heap. -/
theorem mild_setSlotAt {index : Nat} {value : Option Value} :
    (object.setSlotAt index value : Request (Clients σ) (Option Value)).Mild :=
  .bind mild_checkIndex fun _ => .perform (Action.mild_exchangeSlot object index value)

/-- Reading a slot by its name changes nothing. -/
theorem mild_slot {name : String} :
    (object.slot name : Request (Clients σ) (Option Value)).Mild :=
  .bind mild_slotIndex fun _ => .bind mild_checkIndex fun _ => .observe _

/-- Writing a slot by its name is a matter of the heap. -/
theorem mild_setSlot {name : String} {value : Value} :
    (object.setSlot name value : Request (Clients σ) (Option Value)).Mild :=
  .bind mild_slotIndex fun _ => mild_setSlotAt

/-- Deleting a slot is a matter of the heap. -/
theorem mild_deleteSlot {name : String} :
    (object.deleteSlot name : Request (Clients σ) (Option Value)).Mild :=
  .bind mild_slotIndex fun _ => mild_setSlotAt

/-- Checking a type against another one changes nothing. -/
theorem mild_checkType {held offered : TypeId} :
    (checkType held offered : Request (Clients σ) Unit).Mild := by
  refine .bind (.observe _) fun types => ?_
  split
  · exact .throw _
  · exact .pure ()

/-- Assigning a class to an instance is a matter of the heap. -/
theorem mild_setType : (object.setType type : Request (Clients σ) Unit).Mild := by
  refine .bind (.bind (.observe _) fun held => ?_) fun _ =>
    .perform (Action.mild_storeType object type)
  cases held with
  | none => exact .pure ()
  | some held => exact mild_checkType

/-- Replacing a dictionary is a matter of the heap. -/
theorem mild_setDict {dict : Value} :
    (object.setDict dict : Request (Clients σ) Unit).Mild := by
  refine .bind (.bind (.observe _) fun fits => ?_) fun _ =>
    .perform (Action.mild_storeDict object dict)
  split
  · exact .bind (.observe _) fun name => .throw _
  · exact .pure ()

end ObjectId

/-! ## Allocation -/

namespace Serves

/-- An object of a class that everybody may name is allocated. -/
theorem allocate {object : HeapObject} (persistent : Persistent known)
    (opened : forall world, world.Valid -> known world -> world.Open object.hostClass) :
    Serves (σ := σ) thread call (fun world => world.Idle thread ∧ known world)
      (Request.perform (.heap (.allocate object)))
      (fun _ world => world.Idle thread ∧ known world) fails := by
  have idle : Lasting thread fun world => world.Idle thread ∧ known world :=
    lasting_idle.and persistent.lasting
  apply perform idle (fun _ => idle)
  rintro now answer store valid ⟨resting, holds⟩ performed
  cases performed
  have classes : forall id : ObjectId,
      now.world.Open (((now.store.heap.push object).get id.index).hostClass) := by
    intro id
    rw [Table.get_push]
    split
    · exact opened now.world valid holds
    · exact valid.objects id
  have allowed : Allows thread now.world { now.world with
      objectClass := fun id => ((now.store.heap.push object).get id.index).hostClass } :=
    valid.changeObjects classes
  exact ⟨allowed, resting, persistent valid allowed.moves.toGrows holds⟩

/-- An instance is made of a class that everybody may name. -/
theorem makeObject :
    Serves (σ := σ) thread call (fun world => world.Idle thread ∧ world.Open cls)
      (ObjectId.make cls type) (fun _ world => world.Idle thread)
      (fun _ world => world.Idle thread) := by
  have opened : Persistent (Open · cls) := persistent_open cls
  apply bind (glance (lasting_idle.and opened.lasting))
  intro row
  cases row.layout with
  | none => exact throw lasting_idle fun _ _ holds => holds.1
  | some layout =>
      have composite : forall dict, Serves (σ := σ) thread call
          (fun world => world.Idle thread ∧ world.Open cls)
          (Request.perform (.heap (.allocate (.composite {
            cls, layout := some layout, type := some type, dict
            slots := List.replicate layout.slots.length none }))))
          (fun _ world => world.Idle thread) (fun _ world => world.Idle thread) := by
        refine fun dict => (allocate opened ?_).weaken (fun _ _ holds => holds)
          (fun _ _ _ holds => holds.1) fun _ _ _ (failed : False) => failed.elim
        exact fun _ _ holds => holds
      have dictionary : Serves (σ := σ) thread call
          (fun world => world.Idle thread ∧ world.Open cls)
          (Request.perform (.heap (.allocate (.dictionary []))))
          (fun _ world => world.Idle thread ∧ world.Open cls)
          (fun _ world => world.Idle thread) := by
        refine (allocate opened ?_)
        exact fun world valid _ => valid.builtins Builtin.dict (by decide)
      dsimp only
      cases layout.hasDict with
      | true =>
          refine bind dictionary fun made => bind (pure (lasting_idle.and opened.lasting)
            fun _ _ holds => holds) composite
      | false =>
          exact bind (pure (lasting_idle.and opened.lasting) fun _ _ holds => holds) composite

/-- An instance is made of a type that everybody may name the primary class of. -/
theorem newInstance :
    Serves (σ := σ) thread call
      (fun world => world.Idle thread ∧ world.types.Made type ∧
        world.Open (world.types.row type).primary)
      type.newInstance (fun _ world => world.Idle thread)
      (fun _ world => world.Idle thread) := by
  have opened : forall row : GuestType, Persistent (Open · row.primary) :=
    fun row => persistent_open row.primary
  have known : Persistent fun world => world.types.Made type ∧
      world.Open (world.types.row type).primary := by
    rintro before after valid grows ⟨made, primary⟩
    refine ⟨grows.types.made made, ?_⟩
    rw [grows.types.row type made]
    exact grows.opens valid primary
  refine bind (observe (lasting_idle.and known.lasting)
    (fun row => lasting_idle.and (opened row).lasting)
    fun now _ holds => ⟨holds.1, holds.2.2⟩) fun row => ?_
  apply bind (glance (lasting_idle.and (opened row).lasting))
  intro synthesized
  split
  · exact makeObject
  · exact throw lasting_idle fun _ _ holds => holds.1

end Serves

end GuestTypes
