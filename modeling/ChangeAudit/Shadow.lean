/-
# Shadow lists

A shadow is the contents of a collection as its reports tell them.  Replaying a change takes out
the removed elements first, each with the first element equal to it, and then appends the added
ones; so an element that a change both removes and adds is never matched with that change's own
addition.  A removal that finds nothing equal is not an error: the replay goes on, and tells it.

Two small equations say what a replay does to sizes (`Shadow.length_apply`,
`Shadow.removed_add_unmatched`); they hold of every change, also of one that does not fit.
-/
import ChangeAudit.Change

namespace ChangeAudit

/-- The contents of a collection as its reports tell them. -/
structure Shadow (α : Type) where
  items : List α := []
  deriving Inhabited, DecidableEq

/-- What a replayed change did to a shadow. -/
structure Applied (α : Type) where
  /-- How many elements were appended. -/
  added : Nat := 0
  /-- How many elements were taken out. -/
  removed : Nat := 0
  /-- The removals that found nothing equal, in the order of the change. -/
  unmatched : List α := []
  deriving Inhabited, DecidableEq

namespace Shadow

variable {α : Type}

/-- Lists agree element by element. -/
instance [BEq α] : BEq (Shadow α) := ⟨fun s t => s.items == t.items⟩

/-- How many elements it holds. -/
def size (s : Shadow α) : Nat := s.items.length

/-- The outcome of taking elements out of a list. -/
structure Taken (α : Type) where
  /-- The rest of the list. -/
  left : List α
  /-- How many elements were found. -/
  found : Nat := 0
  /-- The elements that were not found. -/
  unmatched : List α := []

/-- Takes elements out of `items`, one after another, each with the first element equal to it. -/
def takeOut [BEq α] (items : List α) : List α → Taken α
  | [] => { left := items }
  | x :: xs =>
    if items.any (· == x) then
      let taken := takeOut (items.eraseP (· == x)) xs
      { taken with found := taken.found + 1 }
    else
      let taken := takeOut items xs
      { taken with unmatched := x :: taken.unmatched }

/-- Replays one change: removals first, then additions. -/
def apply [BEq α] (s : Shadow α) (c : Change α) : Shadow α × Applied α :=
  let taken := takeOut s.items c.removed
  (⟨taken.left ++ c.added⟩,
    { added := c.added.length, removed := taken.found, unmatched := taken.unmatched })

/-! ## Sizes -/

theorem takeOut_left_length [BEq α] (items xs : List α) :
    (takeOut items xs).left.length + (takeOut items xs).found = items.length := by
  induction xs generalizing items with
  | nil => rfl
  | cons x xs ih =>
    unfold takeOut
    split
    · rename_i h
      obtain ⟨a, ha, hax⟩ := List.any_eq_true.mp h
      have hlen := List.length_eraseP_of_mem (p := (· == x)) ha hax
      have hpos := List.length_pos_of_mem ha
      have := ih (items.eraseP (· == x))
      dsimp only
      omega
    · exact ih items

theorem takeOut_found_add_unmatched [BEq α] (items xs : List α) :
    (takeOut items xs).found + (takeOut items xs).unmatched.length = xs.length := by
  induction xs generalizing items with
  | nil => rfl
  | cons x xs ih =>
    unfold takeOut
    split
    · have := ih (items.eraseP (· == x))
      dsimp only [List.length_cons]
      omega
    · have := ih items
      dsimp only [List.length_cons]
      omega

/-- A replay accounts for every element: **what the shadow held and gained is what it holds and
lost**. -/
theorem length_apply [BEq α] (s : Shadow α) (c : Change α) :
    (s.apply c).1.size + (s.apply c).2.removed = s.size + (s.apply c).2.added := by
  have := takeOut_left_length s.items c.removed
  simp only [apply, size, List.length_append]
  omega

/-- Every removal of the change is either carried out or unmatched. -/
theorem removed_add_unmatched [BEq α] (s : Shadow α) (c : Change α) :
    (s.apply c).2.removed + (s.apply c).2.unmatched.length = c.removed.length :=
  takeOut_found_add_unmatched s.items c.removed

end Shadow

end ChangeAudit
