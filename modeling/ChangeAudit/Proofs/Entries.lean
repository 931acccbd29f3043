/-
# Entries

Whatever happens to contents is a sequence of entries: one element was added, or one was removed.
A change gathers entries (`Change.record`), and an entry can also be reported alone, as a change
of its own (`Entry.alone`).

What a change amounts to is its net effect (`Change.net`): for each element the additions less the
removals.  Gathering an entry moves the net effect by just that entry, also when a removal cancels
a waiting addition (`Change.net_record`).  The length of a change moves in the same way
(`Change.growth_record`).
-/
import ChangeAudit.Change
import ChangeAudit.Proofs.Counting

namespace ChangeAudit

open Counting

/-- One element was added, or one was removed. -/
inductive Entry (α : Type) where
  | added (x : α)
  | removed (x : α)

variable {α : Type}

namespace Entry

/-- The change that reports this entry and nothing else. -/
def alone : Entry α → Change α
  | .added x => .ofAdded [x]
  | .removed x => .ofRemoved [x]

end Entry

namespace Change

/-! ## 1. Gathering entries -/

/-- Gathers one entry. -/
def record [BEq α] (c : Change α) : Entry α → Change α
  | .added x => c.recordAdded x
  | .removed x => c.recordRemoved x

/-- Gathers entries, in order. -/
def recordAll [BEq α] (c : Change α) (es : List (Entry α)) : Change α := es.foldl record c

@[simp]
theorem recordAll_nil [BEq α] (c : Change α) : c.recordAll [] = c := rfl

@[simp]
theorem recordAll_cons [BEq α] (c : Change α) (e : Entry α) (es : List (Entry α)) :
    c.recordAll (e :: es) = (c.record e).recordAll es := rfl

theorem recordAll_append [BEq α] (c : Change α) (es fs : List (Entry α)) :
    c.recordAll (es ++ fs) = (c.recordAll es).recordAll fs := List.foldl_append

theorem recordAll_map_added [BEq α] (c : Change α) (xs : List α) :
    c.recordAll (xs.map .added) = c.recordAllAdded xs := by
  rw [recordAll, List.foldl_map]
  rfl

theorem recordAll_map_removed [BEq α] (c : Change α) (xs : List α) :
    c.recordAll (xs.map .removed) = c.recordAllRemoved xs := by
  rw [recordAll, List.foldl_map]
  rfl

/-! ## 2. What a change amounts to -/

/-- How many elements equal to `x` a change adds, less how many it removes. -/
def net [BEq α] (c : Change α) (x : α) : Int := c.added.count x - c.removed.count x

/-- The net effect of several changes. -/
def netAll [BEq α] (x : α) : List (Change α) → Int
  | [] => 0
  | c :: cs => c.net x + netAll x cs

theorem netAll_append [BEq α] (x : α) (cs ds : List (Change α)) :
    netAll x (cs ++ ds) = netAll x cs + netAll x ds := by
  induction cs with
  | nil => rw [List.nil_append, netAll, Int.zero_add]
  | cons c cs ih => rw [List.cons_append, netAll, netAll, ih, Int.add_assoc]

/-- How many elements a change adds, less how many it removes. -/
def growth (c : Change α) : Int := c.added.length - c.removed.length

@[simp]
theorem net_empty [BEq α] (x : α) : (empty : Change α).net x = 0 := rfl

@[simp]
theorem growth_empty : (empty : Change α).growth = 0 := rfl

@[simp]
theorem net_alone_added [BEq α] (x y : α) : (Entry.added y).alone.net x = [y].count x := by
  simp [net, Entry.alone, ofAdded]

@[simp]
theorem net_alone_removed [BEq α] (x y : α) :
    (Entry.removed y).alone.net x = -[y].count x := by
  simp [net, Entry.alone, ofRemoved]

/-- **Gathering an entry moves the net effect by that entry**, whether or not it cancels. -/
theorem net_record [BEq α] [PartialEquivBEq α] (c : Change α) (e : Entry α) (x : α) :
    (c.record e).net x = c.net x + e.alone.net x := by
  cases e with
  | added y =>
    rw [net_alone_added]
    simp only [record, recordAdded, net, List.count_append]
    omega
  | removed y =>
    rw [net_alone_removed]
    cases h : c.added.any (· == y) with
    | true =>
      have herase := count_eraseP_add h x
      simp only [record, recordRemoved_of_waiting h, net]
      omega
    | false =>
      simp only [record, recordRemoved_of_not_waiting h, net, List.count_append]
      omega

/-- Gathering an entry moves the length by one. -/
theorem growth_record [BEq α] (c : Change α) (e : Entry α) :
    (c.record e).growth = c.growth + e.alone.growth := by
  cases e with
  | added y =>
    simp only [record, recordAdded, growth, Entry.alone, ofAdded, List.length_append,
      List.length_singleton, List.length_nil]
    omega
  | removed y =>
    cases h : c.added.any (· == y) with
    | true =>
      have hlen := List.length_eraseP (p := (· == y)) (l := c.added)
      obtain ⟨a, ha, -⟩ := List.any_eq_true.mp h
      have hpos := List.length_pos_of_mem ha
      rw [h, if_pos rfl] at hlen
      simp only [record, recordRemoved_of_waiting h, growth, Entry.alone, ofRemoved,
        List.length_singleton, List.length_nil]
      omega
    | false =>
      simp only [record, recordRemoved_of_not_waiting h, growth, Entry.alone, ofRemoved,
        List.length_append, List.length_singleton, List.length_nil]
      omega

/-! ## 3. What stays of a change while it gathers -/

/-- A removal that was kept stays kept. -/
theorem removed_sublist_recordAll [BEq α] (c : Change α) (es : List (Entry α)) :
    c.removed.Sublist (c.recordAll es).removed := by
  induction es generalizing c with
  | nil => exact .refl _
  | cons e es ih =>
    refine .trans ?_ (ih (c.record e))
    cases e with
    | added y => exact .refl _
    | removed y =>
      cases h : c.added.any (· == y) with
      | true =>
        have hsame : (c.record (.removed y)).removed = c.removed := by
          rw [record, recordRemoved_of_waiting h]
        exact hsame ▸ .refl _
      | false =>
        rw [record, recordRemoved_of_not_waiting h]
        exact List.sublist_append_left _ _

end Change

end ChangeAudit
