/-
# Verifiers that compare position by position

A verifier that compares as sequences expects the shadow to have every element in its place, and a
list can promise that in two ways (`Regime`).  In a list whose elements are always different,
batches and selectors are free.  In a list without batches equal elements may be there, but a
selector has to treat them alike: a replay takes out the first of them, whichever was selected.

Either way the pending change leads from the shadow to the items, in order (`Session.InOrder`), and
one more action keeps that up (`Session.InOrder.after`).  So every notification leaves the shadow
with the items of the list, and finds nothing (`sequence_fidelity`).
-/
import ChangeAudit.Proofs.Shadow.Order
import ChangeAudit.Proofs.Verifier.Session

namespace ChangeAudit

variable {τ α : Type} [BEq α]

/-! ## 1. Selections -/

/-- Equal elements of `items` get the same answer. -/
def Selector.Fair (selector : Selector α) (items : List α) : Prop :=
  ∀ front x back front' x' back', items = front ++ x :: back → items = front' ++ x' :: back' →
    (x == x') = true → selector front x = selector front' x'

namespace Journal

omit [BEq α] in
/-- What was selected was said to be, and what was kept was said not to be. -/
theorem mem_of_select {selector : Selector α} {earlier items out kept : List α}
    (h : select selector earlier items = some (out, kept)) :
    (∀ x ∈ out, ∃ front back, items = front ++ x :: back ∧
      selector (earlier ++ front) x = some true) ∧
    ∀ x ∈ kept, ∃ front back, items = front ++ x :: back ∧
      selector (earlier ++ front) x = some false := by
  induction items generalizing earlier out kept with
  | nil =>
    obtain ⟨rfl, rfl⟩ := eq_nil_of_select h
    constructor
    · intro x hx
      cases hx
    · intro x hx
      cases hx
  | cons x rest ih =>
    -- an answer further back was given after `x` had been visited
    have hback : ∀ {y : α} {answer : Bool}, (∃ front back, rest = front ++ y :: back ∧
        selector (earlier ++ [x] ++ front) y = some answer) →
          ∃ front back, x :: rest = front ++ y :: back ∧
            selector (earlier ++ front) y = some answer := by
      rintro y answer ⟨front, back, rfl, hy⟩
      refine ⟨x :: front, back, rfl, ?_⟩
      rw [List.append_assoc, List.singleton_append] at hy
      exact hy
    have hhead : ∀ {answer : Bool}, selector earlier x = some answer →
        ∃ front back, x :: rest = front ++ x :: back ∧
          selector (earlier ++ front) x = some answer := by
      intro answer hx
      refine ⟨[], rest, rfl, ?_⟩
      rw [List.append_nil]
      exact hx
    rcases select_cons_cases h with ⟨out', rfl, hx, hrest⟩ | ⟨kept', rfl, hx, hrest⟩
    · obtain ⟨hout, hkept⟩ := ih hrest
      refine ⟨fun y hy => ?_, fun y hy => hback (hkept y hy)⟩
      rcases List.mem_cons.mp hy with rfl | hy
      · exact hhead hx
      · exact hback (hout y hy)
    · obtain ⟨hout, hkept⟩ := ih hrest
      refine ⟨fun y hy => hback (hout y hy), fun y hy => ?_⟩
      rcases List.mem_cons.mp hy with rfl | hy
      · exact hhead hx
      · exact hback (hkept y hy)

/-- A fair selector never keeps an element and removes an equal one. -/
theorem apart_of_fair {selector : Selector α} {items out kept : List α}
    (hfair : Selector.Fair selector items) (h : select selector [] items = some (out, kept)) :
    Apart out kept := by
  intro x hx y hy
  obtain ⟨hout, hkept⟩ := mem_of_select h
  obtain ⟨front, back, hitems, hchosen⟩ := hout x hx
  obtain ⟨front', back', hitems', hspared⟩ := hkept y hy
  rw [Bool.eq_false_iff]
  intro hxy
  have hsame := hfair front x back front' y back' hitems hitems' hxy
  rw [List.nil_append] at hchosen hspared
  rw [hchosen, hspared] at hsame
  cases hsame

/-- Nor does any selector, where all elements are different. -/
theorem apart_of_distinct [PartialEquivBEq α] {selector : Selector α} {items out kept : List α}
    (hdistinct : Distinct items) (h : select selector [] items = some (out, kept)) :
    Apart out kept :=
  (hdistinct.perm (perm_of_select h)).apart

end Journal

/-! ## 2. Mutations in order -/

/-- A mutation of `items` that a replay can follow: it changes nothing in place, and treats equal
elements alike if it selects. -/
def Mutation.Orderly (items : List α) : Mutation α → Prop
  | .push _ | .extend _ _ | .remove _ | .clear => True
  | .removeWhere selector =>
    ∀ out kept, Journal.select selector [] items = some (out, kept) → Apart out kept
  | .replace _ _ => False

/-- **An orderly mutation keeps the pending change leading to the items**, if nothing was waiting
or all elements were different. -/
theorem Journal.apply_leadsTo [EquivBEq α] {j : Journal α} {m : Mutation α} {base : List α}
    (h : j.pending.LeadsTo base j.items) (hone : j.pending.added = [] ∨ Distinct j.items)
    (hm : m.Orderly j.items) (hselects : (j.apply m).2 ≠ .error .predicate) :
    (j.apply m).1.pending.LeadsTo base (j.apply m).1.items := by
  cases m with
  | push x => exact h.recordAllAdded [x]
  | extend xs interrupted => exact h.recordAllAdded xs
  | remove x =>
    simp only [apply]
    cases hx : j.items.find? (· == x) with
    | none => exact h
    | some y =>
      have hyx : (y == x) = true := List.find?_some (p := (· == x)) hx
      have hsame : (fun z : α => z == x) = fun z => z == y :=
        funext fun z => BEq.congr_right (BEq.symm hyx)
      simp only [hsame]
      exact h.recordRemoved hone y
  | removeWhere selector =>
    simp only [apply] at hselects ⊢
    cases hparts : select selector [] j.items with
    | none =>
      rw [hparts] at hselects
      exact absurd rfl hselects
    | some parts =>
      have hkept := h.recordAllRemoved hone parts.1
      rw [Shadow.takeOut_of_select hparts (hm _ _ hparts)] at hkept
      exact hkept
  | clear =>
    have hkept := h.recordAllRemoved hone j.items
    rw [Shadow.takeOut_self_left] at hkept
    exact hkept
  | replace old new => exact hm.elim

/-! ## 3. Two ways to keep the order -/

/-- The ways in which a list keeps its reports in order. -/
inductive Regime where
  /-- It never holds two equal elements.  What an insertion of several items ends with holds
  everything that it went through, so it is enough to look between the actions. -/
  | distinct
  /-- It is used without batches, and selectors treat equal elements alike. -/
  | unbatched

namespace Regime

/-- What holds of the list at all times. -/
def Holds : Regime → Journal α → Prop
  | .distinct, j => Distinct j.items
  | .unbatched, j => j.depth = 0 ∧ j.pending = .empty

/-- What may be done to the list: nothing is replaced in place and nothing lost; further, no two
elements become equal, or no batch is opened, no call panics and selectors are fair. -/
structure Permits (r : Regime) (j : Journal α) (a : Action α) : Prop where
  inPlace : ∀ old new, a ≠ .mutate (.replace old new)
  lost : (j.step a).lost = none
  regime : match r with
    | .distinct => Distinct (j.step a).journal.items
    | .unbatched => ∃ m answer, a = .mutate m ∧ (j.step a).answer = .ok answer ∧
        ∀ selector, m = .removeWhere selector → Selector.Fair selector j.items

variable {r : Regime} {j : Journal α} {a : Action α} {base : List α}

theorem Permits.holds (h : r.Permits j a) (hr : r.Holds j) : r.Holds (j.step a).journal := by
  have hregime := h.regime
  cases r with
  | distinct => exact hregime
  | unbatched =>
    obtain ⟨m, answer, rfl, hanswer, -⟩ := hregime
    have hdepth : (j.step (.mutate m)).journal.depth = 0 := by
      rw [(j.step_gathered (.mutate m)).2, Journal.gathered, Journal.apply_depth]
      exact hr.1
    exact ⟨hdepth, Journal.step_pending_of_closed hanswer hdepth⟩

theorem Permits.orderly [PartialEquivBEq α] {m : Mutation α} (h : r.Permits j (.mutate m))
    (hr : r.Holds j) : m.Orderly j.items := by
  cases m with
  | removeWhere selector =>
    intro out kept hparts
    have hregime := h.regime
    cases r with
    | distinct => exact Journal.apart_of_distinct hr hparts
    | unbatched =>
      obtain ⟨m, -, hm, -, hfair⟩ := hregime
      obtain rfl : .removeWhere selector = m := Action.mutate.inj hm
      exact Journal.apart_of_fair (hfair selector rfl) hparts
  | replace old new => exact h.inPlace old new rfl
  | push | extend | remove | clear => trivial

/-- What is permitted keeps the pending change leading to the items, up to the moment when it may
be reported. -/
theorem Permits.leadsTo [EquivBEq α] (h : r.Permits j a) (hr : r.Holds j)
    (hselects : (j.step a).answer ≠ .error .predicate) (hleads : j.pending.LeadsTo base j.items) :
    (j.gathered a).pending.LeadsTo base (j.gathered a).items := by
  cases a with
  | mutate m =>
    have hone : j.pending.added = [] ∨ Distinct j.items := by
      cases r with
      | distinct => exact Or.inr hr
      | unbatched =>
        rw [hr.2]
        exact Or.inl rfl
    rw [Journal.step_mutate_answer] at hselects
    exact Journal.apply_leadsTo hleads hone (h.orderly hr) hselects
  | openBatch => exact hleads
  | endBatch => exact hleads
  | abandonBatch => exact hleads

end Regime

namespace Session

variable [Element α]

/-! ## 4. Sessions under a regime -/

/-- What a session can come to under a regime. -/
inductive Course (r : Regime) (id : SubscriptionId) (start : Session τ α) : Session τ α → Prop where
  | start : Course r id start start
  | act {t : Session τ α} (h : Course r id start t) (a : Action α) (ha : t.Allows id a)
      (hp : r.Permits t.list.journal a) : Course r id start (t.after a)
  /-- Something else happens, to the other observers or the rest of the world. -/
  | aside {t t' : Session τ α} (h : Course r id start t)
      (hjournal : t'.list.journal = t.list.journal) (hvalid : t'.list.registry.Valid)
      (hverifier : t.verifier.LeftAlone t'.verifier) (hlost : t'.lost = t.lost) :
      Course r id start t'

variable {r : Regime} {t start : Session τ α} {id : SubscriptionId} {a : Action α}
  {config : Config}

theorem Course.run (h : Course r id start t) : Run id start t := by
  induction h with
  | start => exact .start
  | act _ a ha _ ih => exact .act ih a ha
  | aside _ hjournal hvalid hverifier hlost ih => exact .aside ih hjournal hvalid hverifier hlost

/-- The verifier has kept nothing, and the pending change leads from its shadow to the items. -/
structure InOrder (r : Regime) (t : Session τ α) : Prop where
  regime : r.Holds t.list.journal
  violations : t.verifier.violations = []
  leads : t.list.journal.pending.LeadsTo t.verifier.shadow.items t.list.items

omit [Element α] in
/-- A verifier finds nothing if it is told of a change that leads from its shadow to the live
contents. -/
theorem finding_of_leadsTo [ReflBEq α] {v : Verifier α}
    (hmode : v.config.comparison = .sequence) {c : Change α} {contents : List α}
    (h : c.LeadsTo v.shadow.items contents) : v.finding contents c = none := by
  have hitems : (v.shadow.apply c).1.items = contents := h
  rw [Verifier.finding_eq, Verifier.liveFor, hmode, hitems]
  split
  · rw [Option.bind_some, compare_eq_none_iff]
    exact BEq.refl contents
  · rfl

variable [EquivBEq α]

/-- **One more permitted action keeps a verifier in order**; and what it is told leaves its shadow
with the items of the list. -/
theorem InOrder.after (h : InOrder r t) (hmode : t.verifier.config.comparison = .sequence)
    (hvalid : t.list.registry.Valid) (ha : t.Allows id a) (hp : r.Permits t.list.journal a) :
    InOrder r (t.after a) ∧ (t.perform a).answer = (t.list.journal.step a).answer ∧
      ∀ c, (t.list.journal.step a).reported = some c →
        t.verifier.finding (t.list.journal.step a).journal.items c = none ∧
          (t.after a).verifier.shadow.items = (t.after a).list.items := by
  have hleads := hp.leadsTo h.regime ha.selects h.leads
  have hregime := hp.holds h.regime
  have hjournal := after_journal (t := t) (a := a)
  rcases t.list.journal.step_fate a with hk | hr | ⟨-, hl⟩
  · obtain ⟨hv, hanswer⟩ := after_of_quiet hk.reported
    refine ⟨⟨hjournal ▸ hregime, ?_, ?_⟩, hanswer, ?_⟩
    · rw [hv]
      exact h.violations
    · rw [hv, ObservableList.items, hjournal, hk.journal]
      exact hleads
    · intro c hc
      rw [hk.reported] at hc
      cases hc
  · have hfinding := finding_of_leadsTo hmode hleads
    obtain ⟨hmismatch, hviolations⟩ := Verifier.told_of_finding_eq_none hfinding
    obtain ⟨halone, hanswer⟩ := after_of_reported hvalid ha hr.reported
    rw [hr.journal] at hanswer halone
    have hshadow : (t.after a).verifier.shadow.items = (t.after a).list.items := by
      rw [halone.shadow, Verifier.told_shadow, ObservableList.items, hjournal, hr.journal]
      exact hleads
    refine ⟨⟨hjournal ▸ hregime, ?_, ?_⟩, ?_, ?_⟩
    · exact halone.violations_eq_nil (hviolations.trans h.violations)
    · rw [hshadow, hjournal, hr.journal]
      exact .refl _
    · rw [hanswer, hmismatch]
    · intro c hc
      rw [hr.reported, Option.some.injEq] at hc
      rw [← hc, hr.journal]
      exact ⟨hfinding, hshadow⟩
  · have hlost := hp.lost
    rw [hl.lost] at hlost
    cases hlost

/-- So a verifier stays in order. -/
theorem Course.inOrder (h : Course r id start t) (hstart : start.Attached config)
    (hmode : config.comparison = .sequence) (hin : InOrder r start) : InOrder r t := by
  induction h with
  | start => exact hin
  | @act t h a ha hp ih =>
    have hmodeNow : t.verifier.config.comparison = .sequence := by
      rw [h.run.config_eq hstart]
      exact hmode
    exact (ih.after hmodeNow (h.run.valid hstart.valid) ha hp).1
  | aside _ hjournal _ hverifier _ ih =>
    refine ⟨hjournal ▸ ih.regime, ?_, ?_⟩
    · exact hverifier.violations_eq_nil ih.violations
    · rw [hverifier.shadow, ObservableList.items, hjournal]
      exact ih.leads

/-! ## 5. The main statement -/

/-- **Under either regime a shadow has every element in its place.**  Let a verifier that compares
as sequences take its snapshot of a list while nothing is pending.  Then let the list be used in any
way that the regime permits, and let other observers come and go.  Every action that reports leaves
the shadow with the items of the list, element by element, and its notification finds nothing; so
nothing is ever kept, and no call panics for the sake of the verifier. -/
theorem sequence_fidelity (hmode : config.comparison = .sequence) (hstart : start.Attached config)
    (hidle : start.list.journal.pending = .empty) (hregime : r.Holds start.list.journal)
    (hcourse : Course r id start t) :
    t.verifier.violations = [] ∧
      ∀ a, t.Allows id a → r.Permits t.list.journal a →
        (t.perform a).answer = (t.list.journal.step a).answer ∧
          ∀ c, (t.list.journal.step a).reported = some c →
            t.verifier.finding (t.list.journal.step a).journal.items c = none ∧
              (t.after a).verifier.shadow.items = (t.after a).list.items := by
  have hmodeNow : t.verifier.config.comparison = .sequence := by
    rw [hcourse.run.config_eq hstart]
    exact hmode
  have hbegin : InOrder r start := by
    refine ⟨hregime, ?_, ?_⟩
    · rw [hstart.verifier]
      rfl
    · rw [hstart.verifier, hidle]
      exact .refl _
  have hin := hcourse.inOrder hstart hmode hbegin
  refine ⟨hin.violations, fun a ha hp => ?_⟩
  exact (hin.after hmodeNow (hcourse.run.valid hstart.valid) ha hp).2

omit [BEq α] [Element α] [EquivBEq α] in
/-- Neither regime: the removal cancels the addition, but the list loses the older one. -/
example :
    let start : Session Unit Int64 :=
      (attach { comparison := .sequence } (.ofItems "numbers" 0 [1, 2]) ()).1
    let batch := ((start.after .openBatch).after (.mutate (.push 1))).after (.mutate (.remove 1))
    (batch.after .endBatch).list.items = [2, 1] ∧
      (batch.after .endBatch).verifier.shadow.items = [1, 2] := by
  decide

omit [BEq α] [Element α] [EquivBEq α] in
/-- Different elements and a batch, which removes from the base and adds; then equal elements and no
batch, of which a selector removes all of one kind. -/
theorem sequence_fidelity_both_regimes :
    let attached (items : List Int64) : Session Unit Int64 :=
      (attach { comparison := .sequence } (.ofItems "numbers" 0 items) ()).1
    let batch := (((attached [1, 2]).after .openBatch).after (.mutate (.push 3))).after
      (.mutate (.remove 1))
    let ones : Action Int64 := .mutate (.removeWhere fun _ x => some (x == 1))
    Course .distinct ⟨0, 0⟩ (attached [1, 2]) batch ∧
      (batch.list.journal.step .endBatch).reported = some ⟨[1], [3]⟩ ∧
      (batch.after .endBatch).verifier.shadow.items = [2, 3] ∧
      ((attached [1, 2, 1]).list.journal.step ones).reported = some ⟨[1, 1], []⟩ ∧
      ((attached [1, 2, 1]).after ones).verifier.shadow.items = [2] := by
  intro attached batch ones
  have hbatch : Course .distinct ⟨0, 0⟩ (attached [1, 2]) batch :=
    .act (.act (.act .start .openBatch (.of_alone rfl (by decide)) ⟨nofun, rfl, by decide⟩)
      (.mutate (.push 3)) (.of_alone rfl (by decide)) ⟨nofun, rfl, by decide⟩)
      (.mutate (.remove 1)) (.of_alone rfl (by decide)) ⟨nofun, rfl, by decide⟩
  have hstart : ∀ items, (attached items).Attached { comparison := .sequence } := fun items =>
    attached_attach (Registry.valid_new _ _) _ _
  have hend : Regime.Permits .distinct batch.list.journal .endBatch := ⟨nofun, rfl, by decide⟩
  have hones : Regime.Permits .unbatched (attached [1, 2, 1]).list.journal ones := by
    refine ⟨?_, rfl, _, .removed 2, rfl, by decide, ?_⟩
    · intro old new h
      cases Action.mutate.inj h
    · rintro selector ⟨⟩ front x back front' x' back' - - hxx'
      rw [eq_of_beq hxx']
  have hdistinct : Distinct ([1, 2] : List Int64) := by decide
  obtain ⟨-, hreports⟩ :=
    sequence_fidelity (r := .distinct) rfl (hstart [1, 2]) rfl hdistinct hbatch
  obtain ⟨-, hreports'⟩ :=
    sequence_fidelity (r := .unbatched) rfl (hstart [1, 2, 1]) rfl ⟨rfl, rfl⟩ .start
  obtain ⟨-, hshadow⟩ :=
    (hreports .endBatch (.of_alone rfl (by decide)) hend).2 ⟨[1], [3]⟩ (by decide)
  obtain ⟨-, hshadow'⟩ := (hreports' ones (.of_alone rfl (by decide)) hones).2 ⟨[1, 1], []⟩
    (by decide)
  exact ⟨hbatch, by decide, hshadow.trans (by decide), by decide, hshadow'.trans (by decide)⟩

end Session

end ChangeAudit
