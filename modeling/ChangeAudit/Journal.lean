/-
# The journal of a list

A journal is a list together with the part of its history that has not been reported yet: the
pending change, and the number of batches that are open.  Every mutation changes the items and
gathers into the pending change at once; what differs is only when the pending change leaves.

* A mutation that completes with no batch open reports the pending change.
* Ending the last open batch reports it as well.
* Abandoning the last open batch throws it away: it is lost to every observer.

An empty pending change is never reported and never lost (`Journal.flush`).

Two mutations run code of the caller and can be cut short by it.  An insertion cut short keeps
what it has inserted, in the items and in the pending change, and reports nothing.  A selective
removal cut short leaves no items at all and has gathered nothing.

Everything a list does to its contents is one `Action`, and `Journal.step` is its effect.
-/
import ChangeAudit.Change

namespace ChangeAudit

/-! ## 1. Mutations -/

/-- A choice made element by element, in list order, that may depend on the elements visited
earlier.  `none` means that the choice is never made: the code that makes it panics. -/
abbrev Selector (α : Type) := (earlier : List α) → α → Option Bool

/-- The ways to change a list. -/
inductive Mutation (α : Type) where
  | push (x : α)
  /-- Inserts the items one by one; if `interrupted`, the source of the items panics after the
  last of them. -/
  | extend (items : List α) (interrupted : Bool)
  /-- Removes the first element equal to `x`. -/
  | remove (x : α)
  /-- Removes all selected elements. -/
  | removeWhere (selector : Selector α)
  | clear
  /-- Puts `new` in the place of the first element equal to `old`. -/
  | replace (old new : α)

/-- Why a call did not return. -/
inductive Panic where
  /-- The source of inserted items panicked. -/
  | iterator
  /-- The selector of a removal panicked. -/
  | predicate
  /-- The code inside a batch panicked. -/
  | insideBatch
  /-- A callback or an assertion panicked, with this text. -/
  | raised (text : String)
  deriving DecidableEq

/-- The text that a panic carries. -/
def Panic.message : Panic → String
  | .iterator => "iterator panicked"
  | .predicate => "predicate panicked"
  | .insideBatch => "inside batch"
  | .raised text => text

/-- What a completed mutation tells its caller. -/
inductive Answer where
  | done
  /-- Whether there was an element to remove or to replace. -/
  | found (was : Bool)
  /-- How many elements were removed. -/
  | removed (count : Nat)
  deriving DecidableEq

/-! ## 2. The items and what is pending -/

/-- A list, its unreported changes, and how many batches are open. -/
structure Journal (α : Type) where
  items : List α := []
  pending : Change α := {}
  depth : Nat := 0
  deriving Inhabited, DecidableEq

namespace Journal

variable {α : Type}

/-- Visits the elements in order and gives those that were selected and those that were not;
`none` if the selector panics on the way. -/
def select (selector : Selector α) (earlier : List α) : List α → Option (List α × List α)
  | [] => some ([], [])
  | x :: rest =>
    match selector earlier x with
    | none => none
    | some chosen =>
      match select selector (earlier ++ [x]) rest with
      | none => none
      | some (out, kept) => some (if chosen then (x :: out, kept) else (out, x :: kept))

/-- The items with `new` in the place of the first element equal to `old`. -/
def replaceFirst [BEq α] (items : List α) (old new : α) : List α :=
  match items with
  | [] => []
  | x :: rest => if x == old then new :: rest else x :: replaceFirst rest old new

/-- Carries out a mutation: the items and the pending change afterwards, and the answer, or the
panic that cut it short.  Nothing is flushed here. -/
def apply [BEq α] (j : Journal α) : Mutation α → Journal α × Except Panic Answer
  | .push x =>
    ({ j with items := j.items ++ [x], pending := j.pending.recordAdded x }, .ok .done)
  | .extend xs interrupted =>
    ({ j with items := j.items ++ xs, pending := j.pending.recordAllAdded xs },
      if interrupted then .error .iterator else .ok .done)
  | .remove x =>
    match j.items.find? (· == x) with
    | none => (j, .ok (.found false))
    | some y =>
      ({ j with items := j.items.eraseP (· == x), pending := j.pending.recordRemoved y },
        .ok (.found true))
  | .removeWhere selector =>
    match select selector [] j.items with
    | none => ({ j with items := [] }, .error .predicate)
    | some (out, kept) =>
      ({ j with items := kept, pending := j.pending.recordAllRemoved out },
        .ok (.removed out.length))
  | .clear =>
    ({ j with items := [], pending := j.pending.recordAllRemoved j.items }, .ok .done)
  | .replace old new =>
    match j.items.find? (· == old) with
    | none => (j, .ok (.found false))
    | some y =>
      ({ j with items := replaceFirst j.items old new,
                pending := (j.pending.recordRemoved y).recordAdded new },
        .ok (.found true))

/-! ## 3. When the pending change leaves -/

/-- The pending change, unless a batch is open or there is nothing to tell. -/
def due (j : Journal α) : Option (Change α) :=
  if j.depth = 0 && !j.pending.isEmpty then some j.pending else none

/-- Takes out the pending change if no batch is open, and tells what was due. -/
def flush (j : Journal α) : Journal α × Option (Change α) :=
  (if j.depth = 0 then { j with pending := .empty } else j, j.due)

/-- One more batch is open. -/
def opened (j : Journal α) : Journal α := { j with depth := j.depth + 1 }

/-- One batch less is open. -/
def closed (j : Journal α) : Journal α := { j with depth := j.depth - 1 }

end Journal

/-- What can be done to the contents of a list. -/
inductive Action (α : Type) where
  | mutate (m : Mutation α)
  | openBatch
  | endBatch
  /-- The code that opened the batch panicked before it ended the batch. -/
  | abandonBatch

/-- The effect of an action: the journal afterwards, the change to be reported, the change lost
to observers, and the answer or the panic that cut the action short. -/
structure Step (α : Type) where
  journal : Journal α
  reported : Option (Change α) := none
  lost : Option (Change α) := none
  answer : Except Panic Answer := .ok .done

namespace Journal

variable {α : Type}

/-- The effect of one action. -/
def step [BEq α] (j : Journal α) : Action α → Step α
  | .mutate m =>
    match j.apply m with
    | (after, .error cause) => { journal := after, answer := .error cause }
    | (after, .ok answer) =>
      { journal := after.flush.1, reported := after.flush.2, answer := .ok answer }
  | .openBatch => { journal := j.opened }
  | .endBatch => { journal := j.closed.flush.1, reported := j.closed.flush.2 }
  | .abandonBatch => { journal := j.closed.flush.1, lost := j.closed.flush.2 }

/-! ## 4. What a mutation leaves alone -/

@[simp]
theorem apply_depth [BEq α] (j : Journal α) (m : Mutation α) : (j.apply m).1.depth = j.depth := by
  unfold apply
  cases m <;> simp only
  all_goals (try split)
  all_goals rfl

end Journal

end ChangeAudit
