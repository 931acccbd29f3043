/-
# What a step can do

A step works in two halves.  First it acts on the journal: a mutation edits the items and gathers
its entries, a batch opens or ends (`Journal.gathered`).  Then it decides what becomes of the
pending change, and there are three ways: it is kept, it is reported, or it is lost
(`Journal.step_fate`).  Only a change that says something leaves, only with no batch open, and it
leaves as a whole.

Every invariant of a journal is proved from these two halves; nothing after this module opens
`Journal.step`.
-/
import Mathlib.Control.Monad.Basic
import ChangeAudit.Proofs.Journal.Edits

namespace ChangeAudit

variable {α : Type}

/-! ## 1. The first half: acting -/

/-- What an action on `items` records, in order. -/
def Action.entries [BEq α] (items : List α) : Action α → List (Entry α)
  | .mutate m => m.entries items
  | .openBatch | .endBatch | .abandonBatch => []

/-- The mutation, if the action is one. -/
def Action.mutation? : Action α → Option (Mutation α)
  | .mutate m => some m
  | .openBatch | .endBatch | .abandonBatch => none

theorem Action.eq_mutate {a : Action α} {m : Mutation α} (h : a.mutation? = some m) :
    a = .mutate m := by
  cases a <;> cases h
  rfl

namespace Journal

/-- The journal at the moment when a step decides about the pending change. -/
def gathered [BEq α] (j : Journal α) : Action α → Journal α
  | .mutate m => (j.apply m).1
  | .openBatch => j.opened
  | .endBatch | .abandonBatch => j.closed

theorem gathered_pending [BEq α] (j : Journal α) (a : Action α) :
    (j.gathered a).pending = j.pending.recordAll (a.entries j.items) := by
  cases a with
  | mutate m => exact j.apply_pending m
  | openBatch => rfl
  | endBatch => rfl
  | abandonBatch => rfl

theorem step_mutate_answer [BEq α] (j : Journal α) (m : Mutation α) :
    (j.step (.mutate m)).answer = (j.apply m).2 := by
  rw [step]
  split
  · rename_i h
    rw [h]
  · rename_i h
    rw [h]

/-- Opening and ending batches touches no items and records nothing. -/
theorem gathered_of_batch [BEq α] (j : Journal α) {a : Action α} (h : a.mutation? = none) :
    (j.gathered a).items = j.items ∧ a.entries j.items = [] := by
  cases a with
  | mutate m => cases h
  | openBatch => exact ⟨rfl, rfl⟩
  | endBatch => exact ⟨rfl, rfl⟩
  | abandonBatch => exact ⟨rfl, rfl⟩

theorem step_batch_answer [BEq α] (j : Journal α) {a : Action α} (h : a.mutation? = none) :
    (j.step a).answer = .ok .done := by
  cases a with
  | mutate m => cases h
  | openBatch => rfl
  | endBatch => rfl
  | abandonBatch => rfl

/-- The first half of a step edits the items, unless a selector panics. -/
theorem gathered_edits [BEq α] (j : Journal α) (a : Action α)
    (h : (j.step a).answer ≠ .error .predicate) :
    Edits j.items (a.entries j.items) (j.gathered a).items := by
  cases a with
  | mutate m =>
    rw [step_mutate_answer] at h
    exact j.apply_edits m h
  | openBatch => exact .done (.refl _)
  | endBatch => exact .done (.refl _)
  | abandonBatch => exact .done (.refl _)

/-- The first half moves the items by the net effect of what it gathers. -/
theorem gathered_count_sub_net [BEq α] [PartialEquivBEq α] {j : Journal α} {a : Action α}
    (h : (j.step a).answer ≠ .error .predicate) (x : α) :
    ((j.gathered a).items.count x : Int) - (j.gathered a).pending.net x =
      j.items.count x - j.pending.net x := by
  rw [gathered_pending]
  exact (j.gathered_edits a h).count_sub_net j.pending x

/-! ## 2. The second half: what becomes of the pending change -/

/-- The pending change of `g` stays. -/
structure Kept (g : Journal α) (s : Step α) : Prop where
  journal : s.journal = g
  reported : s.reported = none
  lost : s.lost = none

/-- The pending change of `g` is reported, as a whole. -/
structure Reported (g : Journal α) (s : Step α) : Prop where
  journal : s.journal = { g with pending := .empty }
  reported : s.reported = some g.pending
  lost : s.lost = none
  depth : g.depth = 0
  nonempty : g.pending.isEmpty = false

/-- The pending change of `g` is lost, as a whole. -/
structure Lost (g : Journal α) (s : Step α) : Prop where
  journal : s.journal = { g with pending := .empty }
  reported : s.reported = none
  lost : s.lost = some g.pending
  depth : g.depth = 0
  nonempty : g.pending.isEmpty = false

/-- A flush does nothing, or it takes out a pending change that says something. -/
theorem flush_cases (j : Journal α) :
    (j.flush = (j, none) ∧ (j.depth = 0 → j.pending = .empty)) ∨
      (j.flush = ({ j with pending := .empty }, some j.pending) ∧ j.depth = 0 ∧
        j.pending.isEmpty = false) := by
  by_cases hd : j.depth = 0
  · cases hp : j.pending.isEmpty with
    | true =>
      have hempty := (Change.isEmpty_iff _).mp hp
      refine Or.inl ⟨?_, fun _ => hempty⟩
      rw [flush, if_pos hd, ← hempty, due, hp, Bool.not_true, Bool.and_false]
      rfl
    | false =>
      refine Or.inr ⟨?_, hd, rfl⟩
      simp [flush, due, hd, hp]
  · refine Or.inl ⟨?_, fun h => absurd h hd⟩
    simp [flush, due, hd]

/-- **The second half of a step keeps, reports or loses the pending change**, and only the
abandoning of a batch loses it. -/
theorem step_fate [BEq α] (j : Journal α) (a : Action α) :
    Kept (j.gathered a) (j.step a) ∨ Reported (j.gathered a) (j.step a) ∨
      (a = .abandonBatch ∧ Lost (j.gathered a) (j.step a)) := by
  cases a with
  | mutate m =>
    rw [step, gathered]
    rcases h : j.apply m with ⟨after, cause | answer⟩
    · exact Or.inl ⟨rfl, rfl, rfl⟩
    · rcases after.flush_cases with ⟨hf, -⟩ | ⟨hf, hd, hp⟩
      · exact Or.inl ⟨congrArg Prod.fst hf, congrArg Prod.snd hf, rfl⟩
      · exact Or.inr (Or.inl ⟨congrArg Prod.fst hf, congrArg Prod.snd hf, rfl, hd, hp⟩)
  | openBatch => exact Or.inl ⟨rfl, rfl, rfl⟩
  | endBatch =>
    rcases j.closed.flush_cases with ⟨hf, -⟩ | ⟨hf, hd, hp⟩
    · exact Or.inl ⟨congrArg Prod.fst hf, congrArg Prod.snd hf, rfl⟩
    · exact Or.inr (Or.inl ⟨congrArg Prod.fst hf, congrArg Prod.snd hf, rfl, hd, hp⟩)
  | abandonBatch =>
    rcases j.closed.flush_cases with ⟨hf, -⟩ | ⟨hf, hd, hp⟩
    · exact Or.inl ⟨congrArg Prod.fst hf, rfl, congrArg Prod.snd hf⟩
    · exact Or.inr (Or.inr ⟨rfl, congrArg Prod.fst hf, rfl, congrArg Prod.snd hf, hd, hp⟩)

/-- The second half leaves the items and the open batches alone. -/
theorem step_gathered [BEq α] (j : Journal α) (a : Action α) :
    (j.step a).journal.items = (j.gathered a).items ∧
      (j.step a).journal.depth = (j.gathered a).depth := by
  rcases j.step_fate a with hk | hr | ⟨-, hl⟩
  · rw [hk.journal]
    exact ⟨rfl, rfl⟩
  · rw [hr.journal]
    exact ⟨rfl, rfl⟩
  · rw [hl.journal]
    exact ⟨rfl, rfl⟩

/-- A step that reports anything reports all that is pending, and loses nothing. -/
theorem reported_of_step [BEq α] {j : Journal α} {a : Action α} {c : Change α}
    (h : (j.step a).reported = some c) : Reported (j.gathered a) (j.step a) := by
  rcases j.step_fate a with hk | hr | ⟨-, hl⟩
  · rw [hk.reported] at h
    cases h
  · exact hr
  · rw [hl.reported] at h
    cases h

/-- Where a step that was not cut short leaves no batch open, it leaves nothing pending. -/
theorem step_pending_of_closed [BEq α] {j : Journal α} {a : Action α} {answer : Answer}
    (h : (j.step a).answer = .ok answer) (hd : (j.step a).journal.depth = 0) :
    (j.step a).journal.pending = .empty := by
  have hflush : ∀ g : Journal α, g.flush.1.depth = 0 → g.flush.1.pending = .empty := by
    intro g hg
    rcases g.flush_cases with ⟨hf, hp⟩ | ⟨hf, -⟩
    · rw [hf] at hg ⊢
      exact hp hg
    · rw [hf]
  cases a with
  | mutate m =>
    rw [step] at h hd ⊢
    rcases hm : j.apply m with ⟨after, cause | answer'⟩
    · rw [hm] at h
      cases h
    · rw [hm] at hd
      exact hflush after hd
  | openBatch => cases hd
  | endBatch => exact hflush j.closed hd
  | abandonBatch => exact hflush j.closed hd

/-- So a step that was not cut short, leaves no batch open and abandons none reports what it has
gathered, if that says anything. -/
theorem reported_of_closed [BEq α] {j : Journal α} {a : Action α} {answer : Answer}
    (h : (j.step a).answer = .ok answer) (ha : a ≠ .abandonBatch)
    (hd : (j.step a).journal.depth = 0) (hne : (j.gathered a).pending.isEmpty = false) :
    Reported (j.gathered a) (j.step a) := by
  rcases j.step_fate a with hk | hr | ⟨habandon, -⟩
  · have hpending := step_pending_of_closed h hd
    rw [hk.journal] at hpending
    rw [hpending] at hne
    cases hne
  · exact hr
  · exact absurd habandon ha

/-- A step that reports was not cut short. -/
theorem answer_of_reported [BEq α] {j : Journal α} {a : Action α} {c : Change α}
    (h : (j.step a).reported = some c) : ∃ answer, (j.step a).answer = .ok answer := by
  cases a with
  | mutate m =>
    rw [step] at h ⊢
    rcases hm : j.apply m with ⟨after, cause | answer⟩
    · rw [hm] at h
      cases h
    · exact ⟨answer, rfl⟩
  | openBatch => exact ⟨_, rfl⟩
  | endBatch => exact ⟨_, rfl⟩
  | abandonBatch => exact ⟨_, rfl⟩

end Journal

end ChangeAudit
