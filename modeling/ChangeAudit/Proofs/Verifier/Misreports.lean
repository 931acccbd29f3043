/-
# What a verifier makes of a collection that may lie

A collection reports changes and can be read.  It may report what did not happen, keep quiet about
what did, or give contents that have nothing to do with either.  A verifier that compares after
every report sees two things at a notification: the change, and the contents read then
(`Notice`).

What counts is the gap: for each element, how many more of it were read than the shadow holds.  If
every removal is matched, a notification moves the gap by what really happened less what was
reported (`Inspection.gap_after`).  So a false report opens a gap, or goes on record as an unmatched
removal; and a gap stays, and is reported with the same elements each time, as long as the reports
are true and all their removals are matched (`misreport_never_silent`).
-/
import ChangeAudit.Proofs.Verifier.Tracking

namespace ChangeAudit

variable {α : Type}

/-! ## 1. Notifications of any kind -/

/-- A change that a collection reports, and the contents that it gives when it is read then. -/
structure Notice (α : Type) where
  change : Change α
  contents : List α

/-- A verifier, and the contents that its collection gave last. -/
structure Inspection (α : Type) where
  verifier : Verifier α
  contents : List α

namespace Inspection

/-- The verifier has just taken its snapshot. -/
def start (config : Config) (items : List α) : Inspection α := ⟨.ofSnapshot config items, items⟩

variable [BEq α]

/-- A notification. -/
def after (t : Inspection α) (n : Notice α) : Inspection α :=
  ⟨(t.verifier.told n.contents n.change).verifier, n.contents⟩

/-- Notifications, one after another. -/
def run (t : Inspection α) (ns : List (Notice α)) : Inspection α := ns.foldl after t

/-- The mismatch that a notification brings to light: its callback panics with it, or the verifier
keeps it. -/
def complaint (t : Inspection α) (n : Notice α) : Option (Mismatch α) :=
  match t.verifier.config.onMismatch with
  | .panic => (t.verifier.told n.contents n.change).mismatch
  | .record => (t.after n).verifier.violations[t.verifier.violations.length]?

/-- How many removals have found nothing equal so far. -/
def unmatched (t : Inspection α) : Nat := t.verifier.stats.unmatched

/-- How many more elements equal to `x` were read last than the shadow holds. -/
def gap (t : Inspection α) (x : α) : Int :=
  t.contents.count x - t.verifier.shadow.items.count x

/-- By how much the count of `x` has really moved when a notification comes. -/
def moved (t : Inspection α) (n : Notice α) (x : α) : Int :=
  n.contents.count x - t.contents.count x

/-- The report amounts to what really happened. -/
def Accurate (t : Inspection α) (n : Notice α) : Prop := ∀ x, n.change.net x = t.moved n x

/-- All reports are accurate, and none has a removal that finds nothing equal. -/
def Honest (t : Inspection α) : List (Notice α) → Prop
  | [] => True
  | n :: ns => t.Accurate n ∧ (t.after n).unmatched = t.unmatched ∧ (t.after n).Honest ns

/-- The verifier compares as multisets, after every report. -/
structure Vigilant (t : Inspection α) : Prop where
  comparison : t.verifier.config.comparison = .multiset
  verifyOnChange : t.verifier.config.verifyOnChange = true

/-! ## 2. One notification -/

variable {t : Inspection α} {n : Notice α} {ns : List (Notice α)}

/-- Whatever the settings say about mismatches, a complaint is what was found. -/
theorem complaint_eq : t.complaint n = t.verifier.finding n.contents n.change := by
  rw [complaint]
  have hmismatch := t.verifier.told_mismatch n.contents n.change
  have hviolations := t.verifier.told_violations n.contents n.change
  cases hpolicy : t.verifier.config.onMismatch with
  | panic =>
    rw [hpolicy] at hmismatch
    exact hmismatch
  | record =>
    rw [hpolicy] at hviolations
    rw [after, hviolations, List.getElem?_append_right (Nat.le_refl _), Nat.sub_self]
    cases t.verifier.finding n.contents n.change <;> rfl

theorem shadow_after :
    (t.after n).verifier.shadow = (t.verifier.shadow.apply n.change).1 :=
  t.verifier.told_shadow n.contents n.change

theorem unmatched_after : (t.after n).unmatched =
    t.unmatched + (t.verifier.shadow.apply n.change).2.unmatched.length := by
  rw [unmatched, after, t.verifier.told_stats, VerifierStats.record, unmatched]

theorem Vigilant.after (h : t.Vigilant) : (t.after n).Vigilant := by
  have hconfig := t.verifier.told_config n.contents n.change
  exact ⟨hconfig ▸ h.comparison, hconfig ▸ h.verifyOnChange⟩

theorem Vigilant.run (h : t.Vigilant) : (t.run ns).Vigilant := by
  induction ns generalizing t with
  | nil => exact h
  | cons n ns ih => exact ih h.after

/-- **If every removal is matched, a notification moves the gap by what really happened less what
was reported.** -/
theorem gap_after [PartialEquivBEq α] (hu : (t.after n).unmatched = t.unmatched) (x : α) :
    (t.after n).gap x - t.gap x = t.moved n x - n.change.net x := by
  rw [unmatched_after] at hu
  have hnone : (t.verifier.shadow.apply n.change).2.unmatched = [] :=
    List.eq_nil_of_length_eq_zero (by omega)
  have hcount := Shadow.apply_count_of_matched hnone x
  have hcontents : (t.after n).contents = n.contents := rfl
  rw [gap, gap, moved, shadow_after, hcontents, hcount]
  omega

/-- Accurate reports leave the gap as it is. -/
theorem gap_after_of_accurate [PartialEquivBEq α] (ha : t.Accurate n)
    (hu : (t.after n).unmatched = t.unmatched) (x : α) : (t.after n).gap x = t.gap x := by
  have hgap := gap_after hu x
  have hx := ha x
  omega

variable [EquivBEq α]

/-- **A notification brings a complaint just if it leaves a gap.** -/
theorem complaint_isSome_iff (h : t.Vigilant) :
    (t.complaint n).isSome = true ↔ ∃ x, (t.after n).gap x ≠ 0 := by
  have hnone := Session.finding_eq_none_iff h.comparison n.contents n.change
  have hgap : t.complaint n = none ↔ ∀ x, (t.after n).gap x = 0 := by
    rw [complaint_eq, hnone]
    refine ⟨fun hsame x => ?_, fun hzero _ x => ?_⟩
    · have hx := hsame h.verifyOnChange x
      rw [gap, shadow_after, hx]
      exact Int.sub_self _
    · have hx := hzero x
      rw [gap, shadow_after] at hx
      have hcontents : (t.after n).contents = n.contents := rfl
      rw [hcontents] at hx
      omega
  rw [Option.isSome_iff_ne_none, Ne, hgap, not_forall]

omit [EquivBEq α] in
/-- A complaint tells the gap, element by element. -/
theorem count_of_complaint [PartialEquivBEq α] (h : t.Vigilant) {m : Mismatch α}
    (hm : t.complaint n = some m) (x : α) :
    (m.missing.count x : Int) = max 0 (-(t.after n).gap x) ∧
      (m.unexpected.count x : Int) = max 0 ((t.after n).gap x) := by
  rw [complaint_eq, Verifier.finding_eq, Verifier.liveFor, if_pos h.verifyOnChange,
    Option.bind_some, h.comparison] at hm
  obtain ⟨hmissing, hunexpected⟩ := count_of_compare_multiset hm x
  have hcontents : (t.after n).contents = n.contents := rfl
  rw [gap, shadow_after, hcontents, hmissing, hunexpected]
  omega

/-- Without a gap, a report that does not amount to what happened is noticed. -/
theorem noticed_of_inaccurate (h : t.Vigilant) (hzero : ∀ x, t.gap x = 0)
    (hfalse : ¬ t.Accurate n) :
    (t.complaint n).isSome = true ∨ t.unmatched < (t.after n).unmatched := by
  obtain ⟨x, hx⟩ := not_forall.mp hfalse
  have hle : t.unmatched ≤ (t.after n).unmatched := by
    rw [unmatched_after]
    exact Nat.le_add_right _ _
  rcases Nat.lt_or_eq_of_le hle with hlt | heq
  · exact Or.inr hlt
  · -- every removal was matched, so the difference is in the gap now
    have hgap := gap_after heq.symm x
    have hx0 := hzero x
    refine Or.inl ((complaint_isSome_iff h).mpr ⟨x, ?_⟩)
    omega

/-! ## 3. Notifications that follow -/

omit [EquivBEq α] in
/-- Honest reports leave the gap as it is. -/
theorem gap_run_of_honest [PartialEquivBEq α] (h : t.Honest ns) (x : α) :
    (t.run ns).gap x = t.gap x := by
  induction ns generalizing t with
  | nil => rfl
  | cons n ns ih =>
    obtain ⟨ha, hu, hrest⟩ := h
    exact (ih hrest).trans (gap_after_of_accurate ha hu x)

omit [EquivBEq α] in
theorem honest_append {ms : List (Notice α)} (h : t.Honest (ms ++ ns)) :
    t.Honest ms ∧ (t.run ms).Honest ns := by
  induction ms generalizing t with
  | nil => exact ⟨trivial, h⟩
  | cons n ms ih =>
    obtain ⟨ha, hu, hrest⟩ := h
    obtain ⟨hms, hns⟩ := ih hrest
    exact ⟨⟨ha, hu, hms⟩, hns⟩

/-- **A complaint comes back with every honest report that follows**, about the same elements. -/
theorem complaint_of_honest (h : t.Vigilant) {m : Mismatch α} (hm : t.complaint n = some m)
    {before after : List (Notice α)} {n' : Notice α}
    (hh : (t.after n).Honest (before ++ n' :: after)) :
    ∃ m', ((t.after n).run before).complaint n' = some m' ∧
      ∀ x, m'.missing.count x = m.missing.count x ∧
        m'.unexpected.count x = m.unexpected.count x := by
  obtain ⟨hbefore, ha, hu, -⟩ := honest_append hh
  have hvigilant : ((t.after n).run before).Vigilant := h.after.run
  have hgap : ∀ x, (((t.after n).run before).after n').gap x = (t.after n).gap x := fun x =>
    (gap_after_of_accurate ha hu x).trans (gap_run_of_honest hbefore x)
  obtain ⟨x, hx⟩ := (complaint_isSome_iff h).mp (by rw [hm]; rfl)
  have hsome := (complaint_isSome_iff (n := n') hvigilant).mpr ⟨x, by rw [hgap x]; exact hx⟩
  obtain ⟨m', hm'⟩ := Option.isSome_iff_exists.mp hsome
  refine ⟨m', hm', fun y => ?_⟩
  obtain ⟨hmissing, hunexpected⟩ := count_of_complaint h hm y
  obtain ⟨hmissing', hunexpected'⟩ := count_of_complaint hvigilant hm' y
  rw [hgap y] at hmissing' hunexpected'
  omega

/-! ## 4. The main statement -/

/-- **No misreport is silent.**  Let a verifier that compares as multisets after every report have
taken its snapshot, and let any notifications follow, true or not.  The next one brings a complaint
just if it leaves a gap.  If all its removals are matched, it moves the gap by what really happened
less what it reports.  So a false report, where there was no gap, brings a complaint or an
unmatched removal; and a complaint comes back with every later notification, about the same
elements, as long as these are honest. -/
theorem misreport_never_silent {config : Config} (hmode : config.comparison = .multiset)
    (hverify : config.verifyOnChange = true) (items : List α) (ns : List (Notice α)) :
    let t := (start config items).run ns
    ∀ n : Notice α,
      ((t.complaint n).isSome = true ↔ ∃ x, (t.after n).gap x ≠ 0) ∧
      ((t.after n).unmatched = t.unmatched →
        ∀ x, (t.after n).gap x - t.gap x = t.moved n x - n.change.net x) ∧
      ((∀ x, t.gap x = 0) → (∃ x, n.change.net x ≠ t.moved n x) →
        (t.complaint n).isSome = true ∨ t.unmatched < (t.after n).unmatched) ∧
      ∀ m, t.complaint n = some m → ∀ before n' after,
        (t.after n).Honest (before ++ n' :: after) →
          ∃ m', ((t.after n).run before).complaint n' = some m' ∧
            ∀ x, m'.missing.count x = m.missing.count x ∧
              m'.unexpected.count x = m.unexpected.count x := by
  intro t n
  have hstart : (start config items).Vigilant := ⟨hmode, hverify⟩
  have h : t.Vigilant := hstart.run
  refine ⟨complaint_isSome_iff h, gap_after, fun hzero hfalse => ?_, fun m hm before n' after hh =>
    complaint_of_honest h hm hh⟩
  exact noticed_of_inaccurate h hzero (not_forall.mpr hfalse)

omit [BEq α] [EquivBEq α] in
/-- An addition goes unreported: the report of the next change brings the first complaint, and a
true report after it brings the same complaint again. -/
theorem misreport_never_silent_after_omission :
    let t := (start { onMismatch := .record } [1, 2] : Inspection Int64).run []
    let omission : Notice Int64 := ⟨⟨[], [4]⟩, [1, 2, 3, 4]⟩
    let removal : Notice Int64 := ⟨⟨[1], []⟩, [2, 3, 4]⟩
    (t.complaint omission).isSome = true ∧ (t.after omission).gap 3 = 1 ∧
      (t.after omission).Honest [removal] ∧
      ∃ m m', t.complaint omission = some m ∧ (t.after omission).complaint removal = some m' ∧
        ∀ x, m'.missing.count x = m.missing.count x ∧
          m'.unexpected.count x = m.unexpected.count x := by
  intro t omission removal
  have hmatched : (t.after omission).unmatched = t.unmatched := by decide
  have hhonest : (t.after omission).Honest [removal] := by
    refine ⟨fun x => ?_, by decide, trivial⟩
    simp only [removal, omission, after, moved, Change.net, List.count_cons, List.count_nil]
    omega
  have hmode : ({ onMismatch := .record } : Config).comparison = .multiset := rfl
  obtain ⟨-, hgap, hnoticed, hagain⟩ := misreport_never_silent hmode rfl [1, 2] [] omission
  have hnoGap : ∀ x, t.gap x = 0 := fun x => Int.sub_self _
  have hfalse : ∃ x, omission.change.net x ≠ t.moved omission x := ⟨3, by decide⟩
  have hsome : (t.complaint omission).isSome = true :=
    (hnoticed hnoGap hfalse).resolve_right (by rw [hmatched]; exact Nat.lt_irrefl _)
  have hmoved : (t.after omission).gap 3 - t.gap 3 = 1 := hgap hmatched 3
  obtain ⟨m, hm⟩ := Option.isSome_iff_exists.mp hsome
  obtain ⟨m', hm', hsame⟩ := hagain m hm [] removal [] hhonest
  exact ⟨hsome, by rw [← hmoved, hnoGap 3, Int.sub_zero], hhonest, m, m', hm, hm', hsame⟩

end Inspection

end ChangeAudit
