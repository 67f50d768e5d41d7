/-!
# Total tables

A `Table` is a growing column of cells that answers every index: an index that was never
written reads as the fallback. Stores built from tables need no bounds reasoning; the three
laws below (`get_set`, `get_push`, `size_push`) are all that later proofs use.
-/

namespace GuestTypes

/-- Cells addressed by position, with a value for the positions never written. -/
structure Table (α : Type) where
  fallback : α
  cells : Array α := #[]

namespace Table

variable {α : Type}

/-- The cell at a position. -/
def get (table : Table α) (index : Nat) : α :=
  table.cells[index]?.getD table.fallback

/-- The number of cells in use. -/
def size (table : Table α) : Nat := table.cells.size

/-- Append a cell; its position is the former `size`. -/
def push (table : Table α) (value : α) : Table α :=
  { table with cells := table.cells.push value }

/-- Overwrite a cell, extending the table with fallbacks when the position is new. -/
def set (table : Table α) (index : Nat) (value : α) : Table α :=
  if index < table.cells.size then
    { table with cells := table.cells.setIfInBounds index value }
  else
    let filler := Array.replicate (index - table.cells.size) table.fallback
    { table with cells := (table.cells ++ filler).push value }

/-- Change one cell. -/
def modify (table : Table α) (index : Nat) (change : α -> α) : Table α :=
  table.set index (change (table.get index))

/-- A write is seen at its own position and nowhere else. -/
theorem get_set (table : Table α) (index other : Nat) (value : α) :
    (table.set index value).get other = if index = other then value else table.get other := by
  unfold set get
  split
  · rename_i within
    by_cases same : index = other
    · subst same
      simp [within]
    · simp [same]
  · rename_i beyond
    have total : table.cells.size + (index - table.cells.size) = index := by omega
    rw [Array.getElem?_push]
    simp only [Array.size_append, Array.size_replicate, total]
    by_cases same : index = other
    · simp [same]
    · rw [if_neg same, if_neg (Ne.symm same), Array.getElem?_append, Array.getElem?_replicate]
      by_cases inside : other < table.cells.size
      · simp [inside]
      · simp only [inside, if_false]
        rw [Array.getElem?_eq_none (by omega)]
        split <;> rfl

/-- Appending leaves the earlier cells alone and puts the new one at the former size. -/
theorem get_push (table : Table α) (other : Nat) (value : α) :
    (table.push value).get other =
      if table.size = other then value else table.get other := by
  unfold push get size
  rw [Array.getElem?_push]
  by_cases same : table.cells.size = other
  · simp [same]
  · simp [same, Ne.symm same]

/-- A table grows by one value. -/
@[simp] theorem size_push (table : Table α) (value : α) :
    (table.push value).size = table.size + 1 := by
  simp [push, size]

/-- A change of one cell is seen at its own position and nowhere else. -/
theorem get_modify (table : Table α) (index other : Nat) (change : α -> α) :
    (table.modify index change).get other =
      if index = other then change (table.get other) else table.get other := by
  unfold modify
  rw [get_set]
  by_cases same : index = other <;> simp [same]

end Table

end GuestTypes
