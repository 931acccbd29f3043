/-
# What a coalesced change holds

Entries that are gathered into one change cancel each other in one direction only: a removal takes
back an earlier addition, while an addition takes back nothing.  So the removals of `x` that stay
are not the net effect of the entries.  They are as many as the removals ever were ahead of the
additions, at any moment of the gathering (`removed_isGreatest`); the additions of `x` that stay
make up the difference to the net effect (`added_count`).

A coalesced change is replayed like its entries one by one, from every shadow (`Shadow.Replay`).
Each pair that cancels is missing on both sides of the account, once as an addition and once as a
removal, and nothing else is (`Change.length_recordAll`).
-/
import Mathlib.Algebra.GroupWithZero.Nat
import Mathlib.Data.List.Induction
import Mathlib.Order.Bounds.Defs
import ChangeAudit.Proofs.Shadow.Replay

namespace ChangeAudit

open Counting

variable {α : Type}

/-! ## 1. Entries of one kind -/

namespace Entry

/-- The elements that entries add, in order. -/
def additions (es : List (Entry α)) : List α :=
  es.filterMap fun | .added x => some x | .removed _ => none

/-- The elements that entries remove, in order. -/
def removals (es : List (Entry α)) : List α :=
  es.filterMap fun | .added _ => none | .removed x => some x

/-- By how many the removals of `x` are ahead of its additions. -/
def overdraft [BEq α] (x : α) (es : List (Entry α)) : Int :=
  (removals es).count x - (additions es).count x

/-- An entry moves the overdraft by its own net effect, downwards. -/
theorem overdraft_concat [BEq α] (x : α) (es : List (Entry α)) (e : Entry α) :
    overdraft x (es ++ [e]) = overdraft x es - e.alone.net x := by
  cases e with
  | added y =>
    rw [Change.net_alone_added]
    simp only [overdraft, removals, additions, List.filterMap_append, List.filterMap_cons,
      List.filterMap_nil, List.append_nil, List.count_append]
    omega
  | removed y =>
    rw [Change.net_alone_removed]
    simp only [overdraft, removals, additions, List.filterMap_append, List.filterMap_cons,
      List.filterMap_nil, List.append_nil, List.count_append]
    omega

end Entry

open Entry

namespace Change

/-! ## 2. What stays -/

section Counts

variable [BEq α] [PartialEquivBEq α]

theorem net_recordAll (x : α) (es : List (Entry α)) :
    ((.empty : Change α).recordAll es).net x = -overdraft x es := by
  induction es using List.reverseRecOn with
  | nil => rfl
  | append_singleton es e ih =>
    rw [recordAll_append, recordAll_cons, recordAll_nil, net_record, ih, overdraft_concat]
    omega

/-- A removal is kept only where nothing equal is waiting. -/
theorem removed_count_record (c : Change α) (e : Entry α) (x : α) :
    (c.record e).removed.count x = c.removed.count x ∨
      (c.record e).added.count x = 0 ∧ c.removed.count x ≤ (c.record e).removed.count x := by
  cases e with
  | added y => exact Or.inl rfl
  | removed y =>
    cases h : c.added.any (· == y) with
    | true =>
      rw [record, recordRemoved_of_waiting h]
      exact Or.inl rfl
    | false =>
      rw [record, recordRemoved_of_not_waiting h]
      dsimp only
      rw [List.count_append]
      rcases count_eq_zero_of_not_any h x with hzero | hnone
      · exact Or.inl (by omega)
      · exact Or.inr ⟨hnone, by omega⟩

/-- **The removals of an element that stay** are as many as its removals ever were ahead of its
additions. -/
theorem removed_isGreatest (x : α) (es : List (Entry α)) :
    IsGreatest {n : Int | ∃ before, before <+: es ∧ n = overdraft x before}
      (((.empty : Change α).recordAll es).removed.count x) := by
  induction es using List.reverseRecOn with
  | nil =>
    refine ⟨⟨[], List.prefix_rfl, rfl⟩, ?_⟩
    rintro n ⟨before, hbefore, rfl⟩
    rw [List.prefix_nil.mp hbefore]
    exact Int.le_refl 0
  | append_singleton es e ih =>
    obtain ⟨⟨peak, hpeak, hreached⟩, hbound⟩ := ih
    have hnet := net_recordAll x (es ++ [e])
    rw [recordAll_append, recordAll_cons, recordAll_nil] at hnet ⊢
    generalize (.empty : Change α).recordAll es = c at *
    have hstep := c.removed_count_record e x
    rw [net] at hnet
    constructor
    · rcases hstep with hsame | ⟨hnone, -⟩
      · exact ⟨peak, hpeak.trans (List.prefix_append es [e]), by rw [hsame, hreached]⟩
      · exact ⟨es ++ [e], List.prefix_rfl, by omega⟩
    · rintro n ⟨before, hbefore, rfl⟩
      rcases List.prefix_concat_iff.mp hbefore with rfl | hearlier
      · omega
      · have hle := hbound ⟨before, hearlier, rfl⟩
        omega

/-- The additions of an element that stay make up the difference to what the entries amount to. -/
theorem added_count (x : α) (es : List (Entry α)) :
    (((.empty : Change α).recordAll es).added.count x : Int) =
      ((.empty : Change α).recordAll es).removed.count x + (additions es).count x -
        (removals es).count x := by
  have hnet := net_recordAll x es
  rw [net, overdraft] at hnet
  omega

end Counts

/-! ## 3. What cancels -/

section Cancelling

variable [BEq α]

/-- The entry cancels an addition that is waiting. -/
def cancels (c : Change α) : Entry α → Bool
  | .added _ => false
  | .removed x => c.added.any (· == x)

/-- How many pairs of an addition and a later removal cancel while entries are gathered. -/
def cancellations (c : Change α) : List (Entry α) → Nat
  | [] => 0
  | e :: es => (c.cancels e).toNat + (c.record e).cancellations es

theorem length_record (c : Change α) (e : Entry α) :
    (c.record e).added.length + (c.cancels e).toNat =
        c.added.length + (additions [e]).length ∧
      (c.record e).removed.length + (c.cancels e).toNat =
        c.removed.length + (removals [e]).length := by
  cases e with
  | added y => exact ⟨List.length_append, rfl⟩
  | removed y =>
    rw [record, cancels]
    cases h : c.added.any (· == y) with
    | true =>
      obtain ⟨a, ha, hay⟩ := List.any_eq_true.mp h
      have hlength := List.length_eraseP_of_mem (p := (· == y)) ha hay
      have hpos := List.length_pos_of_mem ha
      rw [recordRemoved_of_waiting h, hlength]
      exact ⟨Nat.sub_add_cancel hpos, rfl⟩
    | false =>
      rw [recordRemoved_of_not_waiting h]
      exact ⟨rfl, List.length_append⟩

/-- **Each pair that cancels is missing once on either side**, and nothing else is. -/
theorem length_recordAll (c : Change α) (es : List (Entry α)) :
    (c.recordAll es).added.length + c.cancellations es =
        c.added.length + (additions es).length ∧
      (c.recordAll es).removed.length + c.cancellations es =
        c.removed.length + (removals es).length := by
  induction es generalizing c with
  | nil => exact ⟨rfl, rfl⟩
  | cons e es ih =>
    obtain ⟨hadded, hremoved⟩ := c.length_record e
    obtain ⟨haddedRest, hremovedRest⟩ := ih (c.record e)
    have hadditions : (additions (e :: es)).length =
        (additions [e]).length + (additions es).length := by
      rw [← List.length_append, additions, additions, additions, ← List.filterMap_append]
      rfl
    have hremovals : (removals (e :: es)).length =
        (removals [e]).length + (removals es).length := by
      rw [← List.length_append, removals, removals, removals, ← List.filterMap_append]
      rfl
    rw [recordAll_cons, cancellations]
    omega

end Cancelling

end Change

/-! ## 4. Replaying a coalesced change -/

namespace Shadow

variable [BEq α]

/-- What each of several changes does to a shadow when they are replayed in order. -/
def outcomes (s : Shadow α) : List (Change α) → List (Applied α)
  | [] => []
  | c :: cs => (s.apply c).2 :: (s.apply c).1.outcomes cs

/-- Entries that are replayed one by one add all that they add. -/
theorem sum_added_outcomes (s : Shadow α) (es : List (Entry α)) :
    ((s.outcomes (es.map Entry.alone)).map (·.added)).sum = (additions es).length := by
  induction es generalizing s with
  | nil => rfl
  | cons e es ih =>
    rw [List.map_cons, outcomes, List.map_cons, List.sum_cons, ih]
    cases e with
    | added x => exact Nat.add_comm _ _
    | removed x => exact Nat.zero_add _

/-- They remove all that they remove, but for what is unmatched. -/
theorem sum_removed_outcomes (s : Shadow α) (es : List (Entry α)) :
    ((s.outcomes (es.map Entry.alone)).map (·.removed)).sum +
      (s.replay (es.map Entry.alone)).2.length = (removals es).length := by
  induction es generalizing s with
  | nil => rfl
  | cons e es ih =>
    have hrest := ih (s.apply e.alone).1
    have halone := s.removed_add_unmatched e.alone
    have hlength : (removals (e :: es)).length =
        e.alone.removed.length + (removals es).length := by
      cases e with
      | added x => exact (Nat.zero_add _).symm
      | removed x => exact Nat.add_comm _ _
    rw [List.map_cons, outcomes, List.map_cons, List.sum_cons, replay, List.length_append, hlength]
    omega

end Shadow

/-- **Coalescing is exact.**  For any entries, gathered from nothing:

* the removals of `x` that stay are as many as the removals ever were ahead of the additions, at the
  start or after any of the entries;
* the additions of `x` that stay are as many, and all additions of `x` less all its removals;
* from every shadow, fitting or not, a replay of the gathered change leads to equally many of each
  element as a replay of the entries one by one, and leaves the same removals unmatched;
* it adds and removes less than they do in sum, both by the number of pairs that cancelled. -/
theorem coalescing_exact [BEq α] [PartialEquivBEq α] (es : List (Entry α)) :
    let c := (.empty : Change α).recordAll es
    let cancelled := (.empty : Change α).cancellations es
    (∀ x, IsGreatest {n : Int | ∃ before, before <+: es ∧
        n = ((removals before).count x : Int) - (additions before).count x} (c.removed.count x)) ∧
      (∀ x, (c.added.count x : Int) =
        c.removed.count x + (additions es).count x - (removals es).count x) ∧
      ∀ s : Shadow α,
        (∀ x, (s.apply c).1.items.count x =
          (s.replay (es.map Entry.alone)).1.items.count x) ∧
        (s.apply c).2.unmatched = (s.replay (es.map Entry.alone)).2 ∧
        (s.apply c).2.added + cancelled =
          ((s.outcomes (es.map Entry.alone)).map (·.added)).sum ∧
        (s.apply c).2.removed + cancelled =
          ((s.outcomes (es.map Entry.alone)).map (·.removed)).sum := by
  intro c cancelled
  refine ⟨fun x => Change.removed_isGreatest x es, fun x => Change.added_count x es, fun s => ?_⟩
  obtain ⟨hadded, hremoved⟩ := (.empty : Change α).length_recordAll es
  have halike : Shadow.Alike (s.replay [c]) (s.replay (es.map Entry.alone)) := by
    have hgathered := s.replay_recordAll .empty es []
    rwa [Shadow.replay_empty_cons, List.append_nil] at hgathered
  have hunmatched : (s.apply c).2.unmatched = (s.replay (es.map Entry.alone)).2 := by
    rw [← halike.unmatched_eq, Shadow.replay, Shadow.replay, List.append_nil]
  refine ⟨halike.count_eq, hunmatched, ?_, ?_⟩
  · rw [s.sum_added_outcomes]
    exact hadded.trans (Nat.zero_add _)
  · have hsum := s.sum_removed_outcomes es
    have hone : (s.apply c).2.removed + (s.apply c).2.unmatched.length =
        ((.empty : Change α).recordAll es).removed.length := s.removed_add_unmatched c
    have hnone : (.empty : Change α).removed.length = 0 := rfl
    rw [hunmatched] at hone
    change (s.apply c).2.removed + (.empty : Change α).cancellations es = _
    omega

/-- Of three removals two cancel; the first one and the one of 3 do not, and a shadow that holds
neither finds them unmatched both ways. -/
theorem coalescing_exact_on_unrelated_shadow :
    let es : List (Entry Nat) :=
      [.removed 1, .added 2, .added 1, .removed 2, .removed 1, .removed 3, .added 3]
    let s : Shadow Nat := ⟨[2, 4]⟩
    (.empty : Change Nat).recordAll es = ⟨[1, 3], [3]⟩ ∧
      (.empty : Change Nat).cancellations es = 2 ∧
      (∀ before, before <+: es → overdraft 1 before ≤ 1) ∧
      (s.replay (es.map Entry.alone)).2 = [1, 3] ∧
      ((s.outcomes (es.map Entry.alone)).map (·.added)).sum = 3 ∧
      ((s.outcomes (es.map Entry.alone)).map (·.removed)).sum = 2 := by
  intro es s
  obtain ⟨hgreatest, -, hreplay⟩ := coalescing_exact es
  obtain ⟨-, hunmatched, hadded, hremoved⟩ := hreplay s
  exact ⟨by decide, by decide, fun before hbefore => (hgreatest 1).2 ⟨before, hbefore, rfl⟩,
    hunmatched.symm.trans (by decide), hadded.symm.trans (by decide),
    hremoved.symm.trans (by decide)⟩

end ChangeAudit
