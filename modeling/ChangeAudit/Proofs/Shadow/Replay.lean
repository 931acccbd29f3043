/-
# Replaying changes that were gathered

Replaying several changes leads to a shadow and to a list of unmatched removals.  Two such outcomes
are alike if the shadows hold equally many of each element and the same removals went unmatched, in
the same order (`Shadow.Alike`).

Gathering entries into a change before it is replayed makes no difference: the outcome is like that
of the change without them, followed by each of the entries alone (`replay_recordAll`).  This holds
from every shadow, also from one that does not fit.  There the removals stop at zero, so the net
effect of a change does not determine what it does; what does is that a removal cancels an addition
only when that addition is still waiting, and a replay would find the same addition.
-/
import ChangeAudit.Proofs.Shadow.Counts

namespace ChangeAudit.Shadow

open Counting

variable {α : Type} [BEq α]

/-! ## 1. Replaying one change after another -/

/-- Replays changes in order: the shadow afterwards, and all removals that found nothing equal. -/
def replay (s : Shadow α) : List (Change α) → Shadow α × List α
  | [] => (s, [])
  | c :: cs =>
    (((s.apply c).1.replay cs).1, (s.apply c).2.unmatched ++ ((s.apply c).1.replay cs).2)

theorem replay_append (s : Shadow α) (cs ds : List (Change α)) :
    s.replay (cs ++ ds) =
      (((s.replay cs).1.replay ds).1, (s.replay cs).2 ++ ((s.replay cs).1.replay ds).2) := by
  induction cs generalizing s with
  | nil => rfl
  | cons c cs ih => simp only [List.cons_append, replay, ih, List.append_assoc]

/-- A change that says nothing does nothing. -/
theorem replay_empty_cons (s : Shadow α) (cs : List (Change α)) :
    s.replay (.empty :: cs) = s.replay cs := by
  have happly : s.apply .empty = (s, { added := 0, removed := 0, unmatched := [] }) := by
    rw [apply, Change.empty, takeOut, List.append_nil]
    rfl
  rw [replay, happly, List.nil_append]

theorem replay_concat_empty (s : Shadow α) (cs : List (Change α)) :
    s.replay (cs ++ [.empty]) = s.replay cs := by
  rw [replay_append, replay_empty_cons, replay, List.append_nil]

/-- If every removal is matched, a replay moves the counts by the net effects of the changes. -/
theorem replay_count_of_matched [PartialEquivBEq α] {s : Shadow α} {cs : List (Change α)}
    (h : (s.replay cs).2 = []) (x : α) :
    ((s.replay cs).1.items.count x : Int) = s.items.count x + Change.netAll x cs := by
  induction cs generalizing s with
  | nil => exact (Int.add_zero _).symm
  | cons c cs ih =>
    obtain ⟨hmatched, hrest⟩ := List.append_eq_nil_iff.mp h
    calc (((s.apply c).1.replay cs).1.items.count x : Int)
        = (s.apply c).1.items.count x + Change.netAll x cs := ih hrest
      _ = s.items.count x + c.net x + Change.netAll x cs := by
          rw [apply_count_of_matched hmatched x]
      _ = s.items.count x + Change.netAll x (c :: cs) := Int.add_assoc _ _ _

/-- Outcomes of replays that count the same and lack the same. -/
structure Alike (r r' : Shadow α × List α) : Prop where
  count_eq : ∀ x, r.1.items.count x = r'.1.items.count x
  unmatched_eq : r.2 = r'.2

namespace Alike

theorem refl (r : Shadow α × List α) : Alike r r := ⟨fun _ => rfl, rfl⟩

theorem symm {r r' : Shadow α × List α} (h : Alike r r') : Alike r' r :=
  ⟨fun x => (h.count_eq x).symm, h.unmatched_eq.symm⟩

theorem trans {r r' r'' : Shadow α × List α} (h : Alike r r') (h' : Alike r' r'') :
    Alike r r'' :=
  ⟨fun x => (h.count_eq x).trans (h'.count_eq x), h.unmatched_eq.trans h'.unmatched_eq⟩

end Alike

/-! ## 2. Only counts matter -/

/-- Taking out goes on where it stopped. -/
theorem takeOut_append_unmatched (items xs ys : List α) :
    (takeOut items (xs ++ ys)).unmatched =
      (takeOut items xs).unmatched ++ (takeOut (takeOut items xs).left ys).unmatched := by
  induction xs generalizing items with
  | nil => rfl
  | cons x xs ih =>
    rw [List.cons_append, takeOut, takeOut]
    cases items.any (· == x) with
    | true => exact ih (items.eraseP (· == x))
    | false => exact congrArg (x :: ·) (ih items)

theorem takeOut_singleton_unmatched (items : List α) (y : α) :
    (takeOut items [y]).unmatched = if items.any (· == y) then [] else [y] := by
  rw [takeOut]
  cases items.any (· == y) <;> rfl

variable [PartialEquivBEq α]

/-- What is found depends on the counts only. -/
theorem takeOut_unmatched_congr {items items' : List α}
    (h : ∀ x, items.count x = items'.count x) (xs : List α) :
    (takeOut items xs).unmatched = (takeOut items' xs).unmatched := by
  induction xs generalizing items items' with
  | nil => rfl
  | cons y ys ih =>
    rw [takeOut, takeOut]
    cases hy : items.any (· == y) with
    | true =>
      have hy' : items'.any (· == y) = true := by
        rw [any_beq_iff, ← h y]
        exact any_beq_iff.mp hy
      rw [hy', if_pos rfl, if_pos rfl]
      refine ih fun x => ?_
      have hcount := count_eraseP_add hy x
      have hcount' := count_eraseP_add hy' x
      have hx := h x
      omega
    | false =>
      have hy' : items'.any (· == y) = false := by
        rw [any_beq_eq_false_iff, ← h y]
        exact any_beq_eq_false_iff.mp hy
      rw [hy', if_neg Bool.false_ne_true, if_neg Bool.false_ne_true]
      exact congrArg (y :: ·) (ih h)

/-- Replays of the same changes from shadows that count the same are alike. -/
theorem replay_congr {s t : Shadow α} (h : ∀ x, s.items.count x = t.items.count x)
    (cs : List (Change α)) : Alike (s.replay cs) (t.replay cs) := by
  induction cs generalizing s t with
  | nil => exact ⟨h, rfl⟩
  | cons c cs ih =>
    have hcount : ∀ x, (s.apply c).1.items.count x = (t.apply c).1.items.count x := by
      intro x
      rw [apply_count, apply_count, h x]
    have hunmatched : (s.apply c).2.unmatched = (t.apply c).2.unmatched :=
      takeOut_unmatched_congr h c.removed
    obtain ⟨hrest, hrestUnmatched⟩ := ih hcount
    refine ⟨hrest, ?_⟩
    rw [replay, replay, hunmatched, hrestUnmatched]

/-- What comes after alike outcomes does not set them apart. -/
theorem Alike.append {s t : Shadow α} {cs ds : List (Change α)}
    (h : Alike (s.replay cs) (t.replay ds)) (es : List (Change α)) :
    Alike (s.replay (cs ++ es)) (t.replay (ds ++ es)) := by
  obtain ⟨hcount, hunmatched⟩ := replay_congr h.count_eq es
  rw [replay_append, replay_append]
  refine ⟨hcount, ?_⟩
  rw [h.unmatched_eq, hunmatched]

omit [PartialEquivBEq α] in
/-- Nor does what comes before. -/
theorem Alike.cons {s : Shadow α} (c : Change α) {cs ds : List (Change α)}
    (h : Alike ((s.apply c).1.replay cs) ((s.apply c).1.replay ds)) :
    Alike (s.replay (c :: cs)) (s.replay (c :: ds)) := by
  refine ⟨h.count_eq, ?_⟩
  rw [replay, replay, h.unmatched_eq]

/-! ## 3. Gathering makes no difference -/

/-- The counts after a gathered change: the removals of the entry stop at zero only where those of
the change left nothing. -/
theorem apply_record_count (s : Shadow α) (c : Change α) (e : Entry α) (x : α) :
    (s.apply (c.record e)).1.items.count x =
      ((s.apply c).1.apply e.alone).1.items.count x := by
  rw [apply_count, apply_count, apply_count]
  cases e with
  | added y =>
    simp only [Change.record, Change.recordAdded, Entry.alone, Change.ofAdded, List.count_append,
      List.count_nil]
    omega
  | removed y =>
    cases h : c.added.any (· == y) with
    | true =>
      -- the addition is waiting, so the replay would have put in what it takes out
      have herase := count_eraseP_add h x
      simp only [Change.record, Change.recordRemoved_of_waiting h, Entry.alone, Change.ofRemoved,
        List.count_nil]
      omega
    | false =>
      simp only [Change.record, Change.recordRemoved_of_not_waiting h, Entry.alone,
        Change.ofRemoved, List.count_append, List.count_nil]
      rcases count_eq_zero_of_not_any h x with hzero | hnone
      · omega
      · omega

omit [PartialEquivBEq α] in
/-- The removals that a gathered change leaves unmatched. -/
theorem apply_record_unmatched (s : Shadow α) (c : Change α) (e : Entry α) :
    (s.apply (c.record e)).2.unmatched =
      (s.apply c).2.unmatched ++ ((s.apply c).1.apply e.alone).2.unmatched := by
  cases e with
  | added y => exact (List.append_nil _).symm
  | removed y =>
    have halone : ((s.apply c).1.apply (Entry.removed y).alone).2.unmatched =
        if (s.apply c).1.items.any (· == y) then [] else [y] :=
      takeOut_singleton_unmatched _ y
    rw [halone, apply, apply, List.any_append]
    cases h : c.added.any (· == y) with
    | true =>
      -- the addition that the gathered change lacks would have been found
      rw [Change.record, Change.recordRemoved_of_waiting h, Bool.or_true, if_pos rfl,
        List.append_nil]
    | false =>
      rw [Change.record, Change.recordRemoved_of_not_waiting h, Bool.or_false,
        takeOut_append_unmatched, takeOut_singleton_unmatched]

/-- One more entry may be gathered, or come after. -/
theorem replay_record (s : Shadow α) (c : Change α) (e : Entry α) :
    Alike (s.replay [c.record e]) (s.replay [c, e.alone]) := by
  refine ⟨s.apply_record_count c e, ?_⟩
  simp only [replay, List.append_nil]
  exact s.apply_record_unmatched c e

/-- **Replaying a gathered change is like replaying its entries one by one**, whatever follows. -/
theorem replay_recordAll (s : Shadow α) (c : Change α) (es : List (Entry α))
    (cs : List (Change α)) :
    Alike (s.replay (c.recordAll es :: cs)) (s.replay (c :: (es.map Entry.alone ++ cs))) := by
  induction es generalizing c with
  | nil => exact .refl _
  | cons e es ih =>
    have hone := (s.replay_record c e).append (es.map Entry.alone ++ cs)
    exact (ih (c.record e)).trans hone

end ChangeAudit.Shadow
