/-
# What a replacement does to a verifier

A list replaces an element where it stands (`FirstAt.replaceFirst_eq`).  The report says only that
the old element went and the new one came, so a shadow that agreed with the list loses the same
element and gets the new one at its end (`FirstAt.eraseP_eq`).  Both are then the same, but for a
rotation of what stood behind the old element; and a rotation by one place is seen unless all that
it passes over equals what is moved (`samePlaces_rotated_iff`).

So a verifier that compares as sequences reports a mismatch just if something behind the old element
differs from the new one, and it has nothing missing and nothing unexpected to tell; one that
compares as multisets reports nothing (`Session.replacement_rotates`).
-/
import ChangeAudit.Proofs.Mismatch.Exactness
import ChangeAudit.Proofs.Shadow.Order
import ChangeAudit.Proofs.Verifier.Tracking

namespace ChangeAudit

open Counting

variable {τ α : Type} [BEq α]

/-! ## 1. A list and its rotation -/

/-- The same front makes no difference. -/
theorem samePlaces_append_left_iff [ReflBEq α] (front : List α) {xs ys : List α} :
    SamePlaces (front ++ xs) (front ++ ys) ↔ SamePlaces xs ys := by
  induction front with
  | nil => rfl
  | cons x front ih =>
    rw [samePlaces_iff_forall₂, List.cons_append, List.cons_append, List.forall₂_cons,
      ← samePlaces_iff_forall₂, ih]
    exact and_iff_right (BEq.refl x)

/-- **A list is not seen to be rotated** just if all its elements equal the one that is moved. -/
theorem samePlaces_rotated_iff [EquivBEq α] (y : α) (xs : List α) :
    SamePlaces (xs ++ [y]) (y :: xs) ↔ ∀ x ∈ xs, (x == y) = true := by
  -- at the later positions each element meets the one in front of it
  have hshifted : ∀ (z : α), (y == z) = true →
      (List.Forall₂ (fun a b => (a == b) = true) (xs ++ [y]) (z :: xs) ↔
        ∀ x ∈ xs, (x == z) = true) := by
    induction xs with
    | nil =>
      intro z hz
      simpa using hz
    | cons x xs ih =>
      intro z hz
      rw [List.cons_append, List.forall₂_cons, List.forall_mem_cons]
      refine and_congr_right fun hx => ?_
      have hsame : ∀ w : α, (w == x) = (w == z) := fun _ => BEq.congr_right hx
      rw [ih x (BEq.trans hz (BEq.symm hx))]
      simp only [hsame]
  rw [samePlaces_iff_forall₂]
  exact hshifted y (BEq.refl y)

/-! ## 2. The first equal element -/

/-- `o` is the first of the items that equals `old`; it stands behind `front` and before `back`. -/
structure FirstAt (old : α) (items front : List α) (o : α) (back : List α) : Prop where
  items_eq : items = front ++ o :: back
  before : ∀ x ∈ front, (x == old) = false
  equal : (o == old) = true

namespace FirstAt

variable {old o : α} {items front back : List α}

theorem find?_eq (h : FirstAt old items front o back) : items.find? (· == old) = some o := by
  rw [List.find?_eq_some_iff_append]
  refine ⟨h.equal, front, back, h.items_eq, fun x hx => ?_⟩
  rw [h.before x hx]
  rfl

/-- A list puts the new element in the place of the old one. -/
theorem replaceFirst_eq (h : FirstAt old items front o back) (new : α) :
    Journal.replaceFirst items old new = front ++ new :: back := by
  obtain ⟨rfl, hbefore, hequal⟩ := h
  induction front with
  | nil => rw [List.nil_append, Journal.replaceFirst, if_pos hequal, List.nil_append]
  | cons x front ih =>
    have hx : ¬(x == old) = true := by
      rw [hbefore x List.mem_cons_self]
      exact Bool.false_ne_true
    rw [List.cons_append, Journal.replaceFirst, if_neg hx,
      ih fun y hy => hbefore y (List.mem_cons_of_mem x hy)]
    rfl

/-- **A shadow that agrees with the list loses the element in the same place.** -/
theorem eraseP_eq [PartialEquivBEq α] (h : FirstAt old items front o back) {shadow : List α}
    (hshadow : SamePlaces shadow items) :
    shadow.eraseP (· == o) = shadow.eraseIdx front.length := by
  obtain ⟨rfl, hbefore, hequal⟩ := h
  obtain ⟨hlength, hplaces⟩ := hshadow
  have hsame : ∀ x : α, (x == o) = (x == old) := fun _ => BEq.congr_right hequal
  have hlt : front.length < shadow.length := by
    rw [hlength]
    simp
  have hfirst : shadow.findIdx? (· == o) = some front.length := by
    rw [List.findIdx?_eq_some_iff_getElem]
    refine ⟨hlt, ?_, fun i hi => ?_⟩
    · have ho := hplaces front.length hlt (hlength ▸ hlt)
      simpa using ho
    · have hx := hplaces i (Nat.lt_trans hi hlt) (hlength ▸ Nat.lt_trans hi hlt)
      rw [List.getElem_append_left hi] at hx
      rw [BEq.congr_left hx, hsame, hbefore _ (List.getElem_mem hi)]
      exact Bool.false_ne_true
  rw [List.eraseP_eq_eraseIdx, hfirst]

/-- What is left of a list without the element. -/
theorem eraseIdx_eq (h : FirstAt old items front o back) :
    items.eraseIdx front.length = front ++ back := by
  rw [h.items_eq, List.eraseIdx_append_of_length_le (Nat.le_refl _), Nat.sub_self,
    List.eraseIdx_cons_zero]

/-- What a replacement makes of a list with nothing pending. -/
theorem gathered_replace {j : Journal α} (h : FirstAt old j.items front o back)
    (hidle : j.pending = .empty) (new : α) :
    j.gathered (.mutate (.replace old new)) =
        { j with items := front ++ new :: back, pending := ⟨[o], [new]⟩ } ∧
      (j.step (.mutate (.replace old new))).answer = .ok (.found true) := by
  rw [Journal.step_mutate_answer, Journal.gathered, Journal.apply, h.find?_eq, h.replaceFirst_eq,
    hidle]
  exact ⟨rfl, rfl⟩

/-- With no batch open it is reported at once. -/
theorem step_replace {j : Journal α} (h : FirstAt old j.items front o back)
    (hdepth : j.depth = 0) (hidle : j.pending = .empty) (new : α) :
    (j.step (.mutate (.replace old new))).reported = some ⟨[o], [new]⟩ ∧
      (j.step (.mutate (.replace old new))).journal.items = front ++ new :: back := by
  obtain ⟨hgathered, hanswer⟩ := h.gathered_replace hidle new
  have hclosed : (j.step (.mutate (.replace old new))).journal.depth = 0 := by
    rw [(j.step_gathered _).2, hgathered]
    exact hdepth
  have hreported := Journal.reported_of_closed hanswer nofun hclosed (by rw [hgathered]; rfl)
  rw [hreported.reported, hreported.journal, hgathered]
  exact ⟨rfl, rfl⟩

end FirstAt

/-! ## 3. What a verifier makes of it -/

namespace Session

variable [EquivBEq α] {v : Verifier α} {contents : List α} {c : Change α}

omit [EquivBEq α] in
/-- Comparing as sequences after a change finds nothing just if all places agree. -/
theorem finding_eq_none_iff_samePlaces (hmode : v.config.comparison = .sequence)
    (hchecks : v.config.verifyOnChange = true) :
    v.finding contents c = none ↔ SamePlaces (v.shadow.apply c).1.items contents := by
  rw [Verifier.finding_eq, Verifier.liveFor, if_pos hchecks, Option.bind_some, hmode,
    compare_eq_none_iff, agrees_sequence_iff]

/-- Where the shadow and the contents agree in all counts, nothing is missing or unexpected. -/
theorem nothing_over_of_finding
    (hcount : ∀ x, (v.shadow.apply c).1.items.count x = contents.count x) {m : Mismatch α}
    (hm : v.finding contents c = some m) : m.missing = [] ∧ m.unexpected = [] := by
  rw [Verifier.finding_eq, Verifier.liveFor] at hm
  split at hm
  · obtain ⟨-, rfl⟩ := eq_of_compare hm
    exact (excess_eq_nil_iff_reordered _ contents).mpr (reordered_of_count hcount)
  · cases hm

variable [Element α] {t : Session τ α} {id : SubscriptionId} {a : Action α} {old new o : α}
  {front back : List α}

omit [EquivBEq α] in
/-- What becomes of a mismatch that a report brings to light: the call panics with it, or the
verifier keeps it. -/
theorem outcome_of_reported (hvalid : t.list.registry.Valid) (ha : t.Allows id a)
    (hc : (t.list.journal.step a).reported = some c) :
    let contents := (t.list.journal.step a).journal.items
    let told := (t.verifier.told contents c).verifier
    match t.verifier.config.onMismatch with
    | .panic => told.violations = t.verifier.violations ∧
        (t.perform a).answer = match t.verifier.finding contents c with
          | none => (t.list.journal.step a).answer
          | some m => .error (.raised m.text)
    | .record =>
        told.violations = t.verifier.violations ++ (t.verifier.finding contents c).toList ∧
          (t.perform a).answer = (t.list.journal.step a).answer := by
  intro contents told
  obtain ⟨-, hanswer⟩ := after_of_reported hvalid ha hc
  have hviolations := t.verifier.told_violations contents c
  rw [Verifier.told_mismatch] at hanswer
  cases hpolicy : t.verifier.config.onMismatch with
  | panic =>
    rw [hpolicy] at hviolations hanswer
    exact ⟨hviolations.trans (List.append_nil _), hanswer⟩
  | record =>
    rw [hpolicy] at hviolations hanswer
    exact ⟨hviolations, hanswer⟩

omit [Element α] in
/-- The shadow after a replacement. -/
theorem apply_replacement (h : FirstAt old t.list.items front o back)
    (hshadow : SamePlaces t.verifier.shadow.items t.list.items) (new : α) :
    (t.verifier.shadow.apply ⟨[o], [new]⟩).1.items =
      t.verifier.shadow.items.eraseIdx front.length ++ [new] := by
  rw [← h.eraseP_eq hshadow, Shadow.apply, Shadow.takeOut_cons_left, Shadow.takeOut]

omit [Element α] in
/-- It is what the list holds, but for the new element, which stands at the end. -/
theorem samePlaces_replacement (h : FirstAt old t.list.items front o back)
    (hshadow : SamePlaces t.verifier.shadow.items t.list.items) (new : α) :
    SamePlaces (t.verifier.shadow.apply ⟨[o], [new]⟩).1.items (front ++ (back ++ [new])) := by
  have herased := hshadow.eraseIdx front.length
  rw [h.eraseIdx_eq] at herased
  rw [apply_replacement h hshadow, ← List.append_assoc]
  exact herased.append (.refl [new])

/-! ## 4. The main statement -/

/-- **A replacement rotates the shadow.**  Let `o` be the first element that equals `old` in a list
with no batch open and nothing pending, and let the shadow of a verifier agree with the list in
every place.  Replacing `old` by `new`

* puts `new` in the place of `o` in the list, but at the end of the shadow, which loses the element
  in the place of `o`; so a shadow that was the list holds the rest of it in order, and then `new`;
* tells the caller that `old` was there, unless the verifier finds a mismatch and panics with it;
  what the verifier keeps is what it finds, if it is set to;
* makes a verifier that compares as sequences after each change find a mismatch just if some
  element behind `o` differs from `new`, and nothing is missing or unexpected then;
* makes a verifier that compares as multisets find nothing. -/
theorem replacement_rotates (hvalid : t.list.registry.Valid) (hdepth : t.list.journal.depth = 0)
    (hidle : t.list.journal.pending = .empty) (hfirst : FirstAt old t.list.items front o back)
    (hshadow : SamePlaces t.verifier.shadow.items t.list.items)
    (ha : t.Allows id (.mutate (.replace old new))) :
    let after := t.after (.mutate (.replace old new))
    let answer := (t.perform (.mutate (.replace old new))).answer
    let told := (t.verifier.told (front ++ new :: back) ⟨[o], [new]⟩).verifier
    let finding := t.verifier.finding (front ++ new :: back) ⟨[o], [new]⟩
    (after.list.items = front ++ new :: back ∧
      after.verifier.shadow.items = t.verifier.shadow.items.eraseIdx front.length ++ [new] ∧
      SamePlaces after.verifier.shadow.items (front ++ back ++ [new]) ∧
      (t.verifier.shadow.items = t.list.items →
        after.verifier.shadow.items = front ++ back ++ [new])) ∧
    (told.LeftAlone after.verifier ∧
      match t.verifier.config.onMismatch with
      | .panic => told.violations = t.verifier.violations ∧
          answer = match finding with
            | none => .ok (.found true)
            | some m => .error (.raised m.text)
      | .record => told.violations = t.verifier.violations ++ finding.toList ∧
          answer = .ok (.found true)) ∧
    (t.verifier.config.comparison = .sequence →
      (t.verifier.config.verifyOnChange = true →
        (finding.isSome = true ↔ ∃ x ∈ back, (x == new) = false)) ∧
      ∀ m, finding = some m → m.missing = [] ∧ m.unexpected = []) ∧
    (t.verifier.config.comparison = .multiset → finding = none) := by
  intro after answer told finding
  obtain ⟨hgathered, hstep⟩ := hfirst.gathered_replace hidle new
  obtain ⟨hc, hcontents⟩ := hfirst.step_replace hdepth hidle new
  have haccounts : t.list.journal.pending.AccountsFor t.verifier.shadow.items t.list.items := by
    rw [hidle]
    exact .of_count_eq hshadow.reordered.count_eq
  have hchange : Change.AccountsFor ⟨[o], [new]⟩ t.verifier.shadow.items
      (front ++ new :: back) := by
    have hafterwards := haccounts.gathered ha.selects
    rwa [hgathered] at hafterwards
  have hplaces := samePlaces_replacement hfirst hshadow new
  have halone := (after_of_reported hvalid ha hc).1
  have houtcome := outcome_of_reported hvalid ha hc
  rw [hcontents] at halone houtcome
  rw [hstep] at houtcome
  have hafter : after.verifier.shadow = (t.verifier.shadow.apply ⟨[o], [new]⟩).1 := by
    rw [halone.shadow, Verifier.told_shadow]
  refine ⟨⟨?_, ?_, ?_, ?_⟩, ⟨halone, houtcome⟩, fun hmode => ⟨fun hchecks => ?_, fun m hm => ?_⟩, ?_⟩
  · rw [ObservableList.items, after_journal, hcontents]
  · rw [hafter, apply_replacement hfirst hshadow]
  · rw [hafter, List.append_assoc]
    exact hplaces
  · intro hexact
    rw [hafter, apply_replacement hfirst hshadow, hexact, hfirst.eraseIdx_eq]
  · have hback := (samePlaces_append_left_iff front).trans (samePlaces_rotated_iff new back)
    have hrotated : finding = none ↔ ∀ x ∈ back, (x == new) = true := by
      rw [finding_eq_none_iff_samePlaces hmode hchecks, ← hback]
      exact ⟨hplaces.symm.trans, hplaces.trans⟩
    rw [Option.isSome_iff_ne_none, Ne, hrotated]
    simp
  · exact nothing_over_of_finding (apply_of_accountsFor hchange).2 hm
  · exact fun hmode => (told_of_accountsFor hmode hchange).1

omit [BEq α] [Element α] [EquivBEq α] in
/-- A `1` between a `5` and a `2` becomes a `2`.  If another `1` comes behind, the shadow is seen to
be in another order than the list; if only a `2` does, it is not. -/
theorem replacement_rotates_among_equals :
    let attached (items : List Int64) : Session Unit Int64 :=
      (attach { comparison := .sequence, onMismatch := .record } (.ofItems "numbers" 0 items) ()).1
    let found (back : List Int64) : Option (Mismatch Int64) :=
      (attached ([5] ++ 1 :: back)).verifier.finding ([5] ++ 2 :: back) ⟨[1], [2]⟩
    let seen := (attached [5, 1, 2, 1]).after (.mutate (.replace 1 2))
    seen.list.items = [5, 2, 2, 1] ∧ seen.verifier.shadow.items = [5, 2, 1, 2] ∧
      seen.verifier.violations.length = 1 ∧ (found [2, 1]).isSome = true ∧
      (∀ m, found [2, 1] = some m → m.missing = [] ∧ m.unexpected = []) ∧
      (found [2, 2]).isSome = false := by
  intro attached found seen
  have hvalid : ∀ items, (attached items).list.registry.Valid := fun items =>
    (attached_attach (Registry.valid_new _ _) _ ()).valid
  have hfirst : ∀ back, FirstAt 1 ([5] ++ 1 :: back) [5] (1 : Int64) back := fun back =>
    ⟨rfl, List.forall_mem_singleton.mpr rfl, rfl⟩
  have hseenAllows : (attached [5, 1, 2, 1]).Allows ⟨0, 0⟩ (.mutate (.replace 1 2)) :=
    .of_alone rfl (by decide)
  have hunseenAllows : (attached [5, 1, 2, 2]).Allows ⟨0, 0⟩ (.mutate (.replace 1 2)) :=
    .of_alone rfl (by decide)
  obtain ⟨⟨hitems, -, -, hshadow⟩, -, hsequence, -⟩ :=
    replacement_rotates (hvalid _) rfl rfl (hfirst [2, 1]) (.refl _) hseenAllows
  obtain ⟨-, -, hsequence', -⟩ :=
    replacement_rotates (hvalid _) rfl rfl (hfirst [2, 2]) (.refl _) hunseenAllows
  obtain ⟨hseen, hnothing⟩ := hsequence rfl
  obtain ⟨hunseen, -⟩ := hsequence' rfl
  refine ⟨hitems, hshadow rfl, by decide, (hseen rfl).mpr ⟨1, by simp, rfl⟩, hnothing, ?_⟩
  exact Bool.eq_false_iff.mpr fun h => absurd ((hunseen rfl).mp h) (by simp)

end Session

end ChangeAudit
