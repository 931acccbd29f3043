/-
# Changes

A change says which elements left a collection and which entered it.  It carries no positions:
it describes membership, and a reader takes the removals out before it puts the additions in.

A change is also where the unreported part of a batch is gathered, one addition or removal at a
time (`recordAdded`, `recordRemoved`).  The two are not symmetric: a removal cancels an addition
that is still waiting in the same change, while an addition never cancels a removal.  So the
gathered change can always be replayed on the contents that the batch started from.
-/

namespace ChangeAudit

/-- One report of a collection: `removed` has left it, then `added` has entered it. -/
structure Change (α : Type) where
  removed : List α := []
  added : List α := []
  deriving Inhabited, DecidableEq

namespace Change

variable {α : Type}

/-! ## 1. Making a change -/

/-- The change that says nothing. -/
def empty : Change α := {}

/-- A change of additions only. -/
def ofAdded (items : List α) : Change α := { added := items }

/-- A change of removals only. -/
def ofRemoved (items : List α) : Change α := { removed := items }

/-- A change that neither removes nor adds. -/
def isEmpty (c : Change α) : Bool := c.removed.isEmpty && c.added.isEmpty

theorem isEmpty_iff (c : Change α) : c.isEmpty = true ↔ c = empty := by
  cases c
  simp [isEmpty, empty]

/-! ## 2. Gathering a change -/

/-- An addition is always kept, after the earlier ones. -/
def recordAdded (c : Change α) (x : α) : Change α :=
  { c with added := c.added ++ [x] }

/-- A removal takes back the first waiting addition equal to it; if there is none, the element
was there when the change began, and its removal is kept. -/
def recordRemoved [BEq α] (c : Change α) (x : α) : Change α :=
  if c.added.any (· == x) then { c with added := c.added.eraseP (· == x) }
  else { c with removed := c.removed ++ [x] }

/-- Additions, in order. -/
def recordAllAdded (c : Change α) (xs : List α) : Change α := xs.foldl recordAdded c

/-- Removals, in order. -/
def recordAllRemoved [BEq α] (c : Change α) (xs : List α) : Change α :=
  xs.foldl recordRemoved c

theorem recordAllAdded_eq (c : Change α) (xs : List α) :
    c.recordAllAdded xs = { c with added := c.added ++ xs } := by
  induction xs generalizing c with
  | nil => simp [recordAllAdded]
  | cons x xs ih =>
    have h : c.recordAllAdded (x :: xs) = (c.recordAdded x).recordAllAdded xs := rfl
    rw [h, ih]
    simp [recordAdded]

/-- A removal that cancels an addition leaves the kept removals alone. -/
theorem recordRemoved_of_waiting [BEq α] {c : Change α} {x : α}
    (h : c.added.any (· == x) = true) :
    c.recordRemoved x = { c with added := c.added.eraseP (· == x) } := by
  simp [recordRemoved, h]

/-- A removal that cancels nothing leaves the waiting additions alone. -/
theorem recordRemoved_of_not_waiting [BEq α] {c : Change α} {x : α}
    (h : c.added.any (· == x) = false) :
    c.recordRemoved x = { c with removed := c.removed ++ [x] } := by
  simp [recordRemoved, h]

end Change

end ChangeAudit
