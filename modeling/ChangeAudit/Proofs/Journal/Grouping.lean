/-
# Batches only group reports

However batches are placed around the same mutations, the mutations do the same, and whoever
replays the reports comes to the same end (`grouping_changes_reports_only`).

The reason is a run without any batches that nobody makes: every entry reported alone.  Replaying
the reports of a run, and then what is still pending, is like replaying what was pending before
and then all entries one by one (`replay_reports`).  That the replayer may start from a shadow that
does not fit, and stay out of step for good, does not matter.
-/
import ChangeAudit.Proofs.Journal.Runs
import ChangeAudit.Proofs.Shadow.Replay

namespace ChangeAudit

open Shadow (Alike)

variable {α : Type}

/-! ## 1. Runs and their entries -/

/-- A run makes these mutations, with batches around them that may nest or overlap, and that have
all ended normally in the end. -/
structure Grouping (ms : List (Mutation α)) (as : List (Action α)) : Prop where
  mutations : as.filterMap Action.mutation? = ms
  ended : guardsAfter 0 as = some 0

namespace Journal

variable [BEq α] [PartialEquivBEq α]

/-- **The reports of a run tell of its entries**, one by one, up to what is pending before and
after. -/
theorem replay_reports {j : Journal α} {as : List (Action α)} {n k : Nat}
    (h : guardsAfter n as = some k) (s : Shadow α) :
    Alike (s.replay (j.reports as ++ [(j.afterAll as).pending]))
      (s.replay (j.pending ::
        (Mutation.allEntries j.items (as.filterMap Action.mutation?)).map Entry.alone)) := by
  induction as generalizing j n s with
  | nil => exact .refl _
  | cons a as ih =>
    obtain ⟨n', ha, has⟩ := guardsAfter_cons.mp h
    have hrest := fun s => ih (j := (j.step a).journal) has s
    rw [← j.entries_append_allEntries, List.map_append]
    -- gathering the entries of this action first makes no difference
    refine .trans ?_ (s.replay_recordAll j.pending (a.entries j.items) _)
    rw [← j.gathered_pending a, reports, afterAll]
    rcases j.step_fate a with hk | hr | ⟨rfl, -⟩
    · rw [hk.reported, hk.journal]
      rw [hk.journal] at hrest
      exact hrest s
    · rw [hr.reported, hr.journal]
      rw [hr.journal] at hrest
      have hafter := hrest (s.apply (j.gathered a).pending).1
      rw [Shadow.replay_empty_cons] at hafter
      exact hafter.cons _
    · cases n <;> cases ha

end Journal

/-! ## 2. Two runs of the same mutations -/

variable [BEq α] [PartialEquivBEq α] {items : List α} {ms : List (Mutation α)}
  {as bs : List (Action α)}

omit [PartialEquivBEq α] in
theorem Grouping.outcomes_eq (h : Grouping ms as) :
    ({ items } : Journal α).outcomes as = Mutation.outcomes items ms := by
  rw [Journal.outcomes_eq, h.mutations]

/-- The reports of all groupings are like the entries, each reported alone. -/
theorem Grouping.replay_reports (h : Grouping ms as)
    (hok : ∀ o ∈ Mutation.outcomes items ms, ∃ answer, o.1 = .ok answer) (s : Shadow α) :
    Alike (s.replay (({ items } : Journal α).reports as))
      (s.replay ((Mutation.allEntries items ms).map Entry.alone)) := by
  have hrun := Journal.replay_reports (j := { items }) h.ended s
  have hend : (({ items } : Journal α).afterAll as).depth = 0 := Journal.depth_afterAll h.ended
  have hpending : (({ items } : Journal α).afterAll as).pending = .empty := by
    refine Journal.pending_afterAll (fun _ => rfl) (fun o ho => hok o ?_) hend
    rw [h.outcomes_eq] at ho
    exact ho
  rw [hpending, Shadow.replay_concat_empty, h.mutations] at hrun
  have hstart : ({ items } : Journal α).pending = .empty := rfl
  rw [hstart, Shadow.replay_empty_cons] at hrun
  exact hrun

omit [PartialEquivBEq α] in
/-- A batch around everything leaves at most one report. -/
theorem length_reports_of_outermost (j : Journal α) (hj : j.depth = 0)
    (h : guardsAfter 0 as = some 0) :
    (j.reports (.openBatch :: (as ++ [.endBatch]))).length ≤ 1 := by
  have hopened : j.opened.depth = 0 + 1 := congrArg (· + 1) hj
  have hreports : j.reports (.openBatch :: (as ++ [.endBatch])) =
      j.opened.reports as ++ (j.opened.afterAll as).reports [.endBatch] :=
    j.opened.reports_append as [.endBatch]
  rw [hreports, Journal.reports_of_open hopened h, List.nil_append, Journal.reports,
    Journal.reports, List.append_nil]
  cases ((j.opened.afterAll as).step .endBatch).reported with
  | none => exact Nat.zero_le 1
  | some c => exact Nat.le_refl 1

/-- **Batches change how reports are grouped, and nothing else.**  Two runs that complete the same
mutations give the same answers and the same contents after each mutation; and from any shadow,
also from one that does not fit, replaying the reports of either leads to the same counts and to
the same unmatched removals.  One batch around everything leaves at most one report. -/
theorem grouping_changes_reports_only (ha : Grouping ms as) (hb : Grouping ms bs)
    (hok : ∀ o ∈ Mutation.outcomes items ms, ∃ answer, o.1 = .ok answer) :
    ({ items } : Journal α).outcomes as = ({ items } : Journal α).outcomes bs ∧
      (∀ s : Shadow α, Alike (s.replay (({ items } : Journal α).reports as))
        (s.replay (({ items } : Journal α).reports bs))) ∧
      (({ items } : Journal α).reports (.openBatch :: (as ++ [.endBatch]))).length ≤ 1 := by
  refine ⟨ha.outcomes_eq.trans hb.outcomes_eq.symm, fun s => ?_, ?_⟩
  · exact (ha.replay_reports hok s).trans (hb.replay_reports hok s).symm
  · exact length_reports_of_outermost _ rfl ha.ended

/-- Three mutations, once without a batch and once with one inside another; the shadow does not
fit. -/
theorem grouping_changes_reports_only_nested :
    let ms : List (Mutation Nat) := [.push 3, .replace 1 3, .remove 3]
    let as : List (Action Nat) := ms.map .mutate
    let bs : List (Action Nat) := [.openBatch, .mutate (.push 3), .openBatch,
      .mutate (.replace 1 3), .endBatch, .mutate (.remove 3), .endBatch]
    let j : Journal Nat := { items := [1, 2] }
    let s : Shadow Nat := ⟨[5]⟩
    Grouping ms as ∧ Grouping ms bs ∧
      (∀ o ∈ Mutation.outcomes [1, 2] ms, ∃ answer, o.1 = .ok answer) ∧
      j.reports as = [⟨[], [3]⟩, ⟨[1], [3]⟩, ⟨[3], []⟩] ∧ j.reports bs = [⟨[1], [3]⟩] ∧
      j.outcomes as = j.outcomes bs ∧ Alike (s.replay (j.reports as)) (s.replay (j.reports bs)) ∧
      (s.replay (j.reports bs)).2 = [1] := by
  intro ms as bs j s
  have has : Grouping ms as := ⟨rfl, rfl⟩
  have hbs : Grouping ms bs := ⟨rfl, rfl⟩
  have hok : ∀ o ∈ Mutation.outcomes [1, 2] ms, ∃ answer, o.1 = .ok answer := by
    refine List.forall_mem_cons.mpr ⟨⟨.done, rfl⟩, List.forall_mem_cons.mpr
      ⟨⟨.found true, rfl⟩, List.forall_mem_cons.mpr ⟨⟨.found true, rfl⟩, ?_⟩⟩⟩
    exact List.forall_mem_nil _
  obtain ⟨houtcomes, halike, -⟩ := grouping_changes_reports_only has hbs hok
  exact ⟨has, hbs, hok, rfl, rfl, houtcomes, halike s, rfl⟩

end ChangeAudit
