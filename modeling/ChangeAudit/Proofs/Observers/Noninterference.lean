/-
# Observers cannot influence the list

Two lists with the same contents are used in the same way: the same mutations are made, and batches
are opened, ended and abandoned, in the same order.  Everything else may differ.  One list may have
no observers at all; the callbacks of the other may subscribe, unsubscribe, close the list or panic,
in the middle of any report.  Whoever uses the lists cannot tell them apart, but for the panics
(`Turn.Agree`, `observers_cannot_influence`).

The reason is one unobserved run that both are compared with: the journal alone
(`Journal.turns`, `Broadcast.turns_faithful`).

A callback that panics makes no exception.  It takes the answer from the caller of that one call,
and nothing else: the call has done all that it would have done if the callback had returned, and
so do the calls that follow.  To say so, the panics are taken out of the callbacks
(`ObservableList.returning`), which leaves everything that they do before.
-/
import Mathlib.Data.List.Forall2
import ChangeAudit.Proofs.Journal.Runs
import ChangeAudit.Proofs.Observers.Reception

namespace ChangeAudit

variable {σ σ' α : Type}

/-! ## 1. What the user of a list can tell -/

/-- What comes of an action on a list: the journal that it leaves, what it reports, and the answer
or the panic. -/
structure Turn (α : Type) where
  journal : Journal α
  reported : Option (Change α)
  answer : Except Panic Answer

namespace Turn

/-- The call has ended by the panic of a callback. -/
def Raised (t : Turn α) : Prop := ∃ text, t.answer = .error (.raised text)

/-- The same has happened, except that a callback may have taken the answer from the caller. -/
structure Agree (t t' : Turn α) : Prop where
  journal : t.journal = t'.journal
  reported : t.reported = t'.reported
  answer : t.answer = t'.answer ∨ t.Raised ∨ t'.Raised

/-- What is observed has gone as what is not, except that a callback may have taken the answer from
the caller. -/
structure Faithful (t own : Turn α) : Prop where
  journal : t.journal = own.journal
  reported : t.reported = own.reported
  answer : t.answer = own.answer ∨ t.Raised

variable {t t' own : Turn α}

theorem Faithful.agree (h : t.Faithful own) (h' : t'.Faithful own) : t.Agree t' := by
  refine ⟨h.journal.trans h'.journal.symm, h.reported.trans h'.reported.symm, ?_⟩
  rcases h.answer with hsame | hraised
  · rcases h'.answer with hsame' | hraised'
    · exact Or.inl (hsame.trans hsame'.symm)
    · exact Or.inr (Or.inr hraised')
  · exact Or.inr (Or.inl hraised)

/-- Runs that have both gone as a third one agree turn by turn. -/
theorem agree_of_faithful {ts ts' owns : List (Turn α)} (h : List.Forall₂ Faithful ts owns)
    (h' : List.Forall₂ Faithful ts' owns) : List.Forall₂ Agree ts ts' := by
  induction h generalizing ts' with
  | nil =>
    cases h'
    exact .nil
  | cons hhead _ ih =>
    cases h' with
    | cons hhead' htail' => exact .cons (hhead.agree hhead') (ih htail')

end Turn

/-- The turns of a journal that nobody observes. -/
def Journal.turns [BEq α] (j : Journal α) : List (Action α) → List (Turn α)
  | [] => []
  | a :: as =>
    ⟨(j.step a).journal, (j.step a).reported, (j.step a).answer⟩ :: (j.step a).journal.turns as

/-- The action on the contents, if the deed is one. -/
def Deed.action? : Deed σ α → Option (Action α)
  | .act a => some a
  | .subscribe _ | .unsubscribe _ | .release _ | .close | .watch | .receive _ _ | .unwatch _
  | .elsewhere _ => none

theorem Deed.eq_act {d : Deed σ α} {a : Action α} (h : d.action? = some a) : d = .act a := by
  cases d <;> cases h
  rfl

namespace Broadcast

variable [BEq α]

/-- The turns of a list that is observed. -/
def turns (b : Broadcast σ α) : List (Deed σ α) → List (Turn α)
  | [] => []
  | d :: ds =>
    match d.action? with
    | none => (b.after d).turns ds
    | some _ =>
      ⟨(b.after d).list.journal, (b.perform d).reported, (b.perform d).answer⟩ ::
        (b.after d).turns ds

/-! ## 2. Observed and unobserved runs -/

variable {b : Broadcast σ α} {d : Deed σ α} {a : Action α}

/-- What is done with the observers leaves the journal alone. -/
theorem after_journal_of_aside (h : d.action? = none) :
    (b.after d).list.journal = b.list.journal := by
  cases d with
  | act a => cases h
  | subscribe callback => rfl
  | unsubscribe id => rfl
  | release s =>
    rcases s.release_cases b.list b.world with hlist | hlist
    · exact congrArg (·.journal) hlist
    · exact congrArg (·.journal) hlist
  | close => rfl
  | watch => rfl
  | receive watcher live =>
    rw [after, perform]
    cases b.list.feed? watcher with
    | none => rfl
    | some f => rfl
  | unwatch watcher => rfl
  | elsewhere world => rfl

/-- It reports nothing and has nothing to answer. -/
theorem perform_of_aside (h : d.action? = none) :
    (b.perform d).reported = none ∧ (b.perform d).answer = .ok .done := by
  cases d with
  | act a => cases h
  | _ => exact ⟨rfl, rfl⟩

theorem perform_act_reported (a : Action α) :
    (b.perform (.act a)).reported = (b.list.journal.step a).reported :=
  b.list.perform_reported b.world a

theorem after_journal_of_act : (b.after (.act a)).list.journal = (b.list.journal.step a).journal :=
  b.list.perform_journal b.world a

/-- **An observed list goes through the turns of its journal**, whatever its observers do in
between and meanwhile. -/
theorem turns_faithful (b : Broadcast σ α) (ds : List (Deed σ α)) :
    List.Forall₂ Turn.Faithful (b.turns ds)
      (b.list.journal.turns (ds.filterMap Deed.action?)) := by
  induction ds generalizing b with
  | nil => exact .nil
  | cons d ds ih =>
    have hrest := ih (b.after d)
    rw [turns]
    cases hd : d.action? with
    | none =>
      rw [after_journal_of_aside hd] at hrest
      rw [List.filterMap_cons_none hd]
      exact hrest
    | some a =>
      obtain rfl := Deed.eq_act hd
      rw [after_journal_of_act] at hrest
      rw [List.filterMap_cons_some hd, Journal.turns]
      exact .cons ⟨after_journal_of_act, perform_act_reported a, b.list.answer_eq_or_raised b.world a⟩
        hrest

/-- Lists that are used in the same way agree turn by turn, and in the end. -/
theorem turns_agree {b : Broadcast σ α} {b' : Broadcast σ' α}
    (hjournal : b.list.journal = b'.list.journal) {ds : List (Deed σ α)} {ds' : List (Deed σ' α)}
    (hsame : ds.filterMap Deed.action? = ds'.filterMap Deed.action?) :
    List.Forall₂ Turn.Agree (b.turns ds) (b'.turns ds') := by
  have h := b.turns_faithful ds
  have h' := b'.turns_faithful ds'
  rw [← hjournal, ← hsame] at h'
  exact Turn.agree_of_faithful h h'

/-- The journal after a run is what the actions make of it. -/
theorem afterAll_journal (b : Broadcast σ α) (ds : List (Deed σ α)) :
    (b.afterAll ds).list.journal = b.list.journal.afterAll (ds.filterMap Deed.action?) := by
  induction ds generalizing b with
  | nil => rfl
  | cons d ds ih =>
    rw [afterAll, ih]
    cases hd : d.action? with
    | none => rw [List.filterMap_cons_none hd, after_journal_of_aside hd]
    | some a =>
      obtain rfl := Deed.eq_act hd
      rw [List.filterMap_cons_some hd, after_journal_of_act, Journal.afterAll]

end Broadcast

/-! ## 3. Callbacks that would have returned -/

/-- The script, but where it would panic it returns. -/
def Script.returning : Script σ α → Script σ α
  | .done => .done
  | .panic _ => .done
  | .read next => .read fun world => (next world).returning
  | .write world next => .write world next.returning
  | .log entries next => .log entries next.returning
  | .subscribe callback next => .subscribe callback fun result => (next result).returning
  | .unsubscribe id next => .unsubscribe id fun was => (next was).returning
  | .close next => .close next.returning

/-- It does what it did, and does not panic. -/
theorem Script.run_returning (script : Script σ α) (s : Scene σ α) :
    script.returning.run s = ((script.run s).1, none) := by
  induction script generalizing s with
  | done => rfl
  | panic text => rfl
  | read next ih => exact ih s.world s
  | write world next ih => exact ih { s with world }
  | log entries next ih => exact ih (s.note entries)
  | subscribe callback next _ ih => exact ih _ (s.subscribe callback).1
  | unsubscribe id next ih => exact ih _ (s.unsubscribe id).1
  | close next ih => exact ih s.close

namespace ObservableList

/-- The list with callbacks that return where they would panic. -/
def returning (l : ObservableList σ α) : ObservableList σ α :=
  { l with registry := { l.registry with
      entries := l.registry.entries.map fun (id, callback) =>
        (id, fun id c contents => (callback id c contents).returning) } }

/-- Such callbacks do not panic, one after another. -/
theorem callAll_returning (c : Change α) (contents : List α)
    (entries : List (SubscriptionId × Callback σ α)) (s : Scene σ α) :
    (callAll c contents (entries.map fun (id, callback) =>
      (id, fun id c contents => (callback id c contents).returning)) s).2.2 = none := by
  induction entries generalizing s with
  | nil => rfl
  | cons entry rest ih =>
    obtain ⟨id, callback⟩ := entry
    have hrun := (callback id c contents).run_returning s
    rw [List.map_cons, (callAll_cons_of_returns _ (congrArg Prod.snd hrun)).2.2]
    exact ih _

/-- So nobody cuts a call short. -/
theorem answer_returning [BEq α] (l : ObservableList σ α) (world : σ) (a : Action α) :
    (l.returning.perform world a).answer = (l.journal.step a).answer := by
  cases hr : (l.journal.step a).reported with
  | none => exact answer_of_quiet world hr
  | some c =>
    have hanswer := (l.returning.concluded_of_reported world hr).answer
    have hcalm : (l.returning.delivery world a c).2.2 = none :=
      callAll_returning c _ l.registry.entries _
    rw [hcalm] at hanswer
    exact hanswer

end ObservableList

/-! ## 4. The main statement -/

namespace Broadcast

variable [BEq α]

/-- All is as it is, but the callbacks return where they would panic. -/
def returning (b : Broadcast σ α) : Broadcast σ α := { b with list := b.list.returning }

/-- **Observers cannot influence the list.**  Let two lists have the same items, the same pending
change and the same open batches, and any observers, and let the same actions be carried out on
both, with anything else in between.  Then they agree in every turn: the journal is the same
afterwards, the same is reported, and the answers are the same unless a callback has panicked.

If one has, the action is nevertheless carried out in full and nothing is left pending; and from
then on the list goes through the same turns as if the callback had returned. -/
theorem observers_cannot_influence {b : Broadcast σ α} {b' : Broadcast σ' α}
    (hjournal : b.list.journal = b'.list.journal) {ds : List (Deed σ α)} {ds' : List (Deed σ' α)}
    (hsame : ds.filterMap Deed.action? = ds'.filterMap Deed.action?) :
    List.Forall₂ Turn.Agree (b.turns ds) (b'.turns ds') ∧
      (b.afterAll ds).list.journal = (b'.afterAll ds').list.journal ∧
      ∀ a text, let now := b.afterAll ds
        (now.perform (.act a)).answer = .error (.raised text) →
          (now.after (.act a)).list.journal =
            { now.list.journal.gathered a with pending := .empty } ∧
          (∃ answer, (now.returning.perform (.act a)).answer = .ok answer) ∧
          ∀ es es' : List (Deed σ α), es.filterMap Deed.action? = es'.filterMap Deed.action? →
            List.Forall₂ Turn.Agree ((now.after (.act a)).turns es)
              ((now.returning.after (.act a)).turns es') := by
  refine ⟨turns_agree hjournal hsame, ?_, ?_⟩
  · rw [afterAll_journal, afterAll_journal, hjournal, hsame]
  · intro a text now hraised
    obtain ⟨c, hcut⟩ := ObservableList.cut_of_raised hraised
    refine ⟨hcut.journal, ?_, ?_⟩
    · obtain ⟨answer, hanswer⟩ := Journal.answer_of_reported hcut.whole.reported
      exact ⟨answer, (now.list.answer_returning now.world a).trans hanswer⟩
    · intro es es' hrest
      refine turns_agree ?_ hrest
      rw [after_journal_of_act, after_journal_of_act]
      rfl

/-- One list is observed by a callback that panics when something is added, and by a watcher; the
other one by a callback that closes it.  The panic takes the answer of the first call, and no
other. -/
theorem observers_cannot_influence_panicking :
    let touchy : Callback Unit Nat := fun _ c _ => if c.added = [] then .done else .panic "no more"
    let closing : Callback Nat Nat := fun _ _ _ => .close .done
    let b : Broadcast Unit Nat := { list := .ofItems "numbers" 0 [1], world := () }
    let b' : Broadcast Nat Nat := { list := .ofItems "digits" 7 [1], world := 5 }
    let push : Action Nat := .mutate (.push 2)
    let ds : List (Deed Unit Nat) := [.subscribe touchy, .act push, .watch,
      .act .openBatch, .act (.mutate (.push 3)), .receive 0 true, .act (.mutate (.remove 3)),
      .act .endBatch, .act (.mutate (.remove 1))]
    let ds' : List (Deed Nat Nat) := [.act push, .act .openBatch, .elsewhere 6,
      .act (.mutate (.push 3)), .subscribe closing, .act (.mutate (.remove 3)), .act .endBatch,
      .act (.mutate (.remove 1)), .subscribe closing]
    let now := b.after (.subscribe touchy)
    b.list.journal = b'.list.journal ∧
      ds.filterMap Deed.action? = ds'.filterMap Deed.action? ∧
      List.Forall₂ Turn.Agree (b.turns ds) (b'.turns ds') ∧
      (b.afterAll ds).list.journal = { items := [2] } ∧
      (b'.afterAll ds').list.journal = { items := [2] } ∧
      (b.turns ds).map (·.answer) = [.error (.raised "no more"), .ok .done, .ok .done,
        .ok (.found true), .ok .done, .ok (.found true)] ∧
      (b'.turns ds').map (·.answer) = [.ok .done, .ok .done, .ok .done, .ok (.found true),
        .ok .done, .ok (.found true)] ∧
      (now.perform (.act push)).answer = .error (.raised "no more") ∧
      (now.after (.act push)).list.journal = { items := [1, 2] } ∧
      ∃ answer, (now.returning.perform (.act push)).answer = .ok answer := by
  intro touchy closing b b' push ds ds' now
  have hjournal : b.list.journal = b'.list.journal := rfl
  have hsame : ds.filterMap Deed.action? = ds'.filterMap Deed.action? := rfl
  obtain ⟨hagree, hend, -⟩ := observers_cannot_influence hjournal hsame
  have hlast : (b.afterAll ds).list.journal = { items := [2] } := by
    rw [afterAll_journal]
    rfl
  have hraised : (now.perform (.act push)).answer = .error (.raised "no more") := rfl
  have hnow : now.list.journal = now.list.journal := rfl
  have hnothing : ([] : List (Deed Unit Nat)).filterMap Deed.action? =
      ([] : List (Deed Unit Nat)).filterMap Deed.action? := rfl
  obtain ⟨-, -, hpanic⟩ := observers_cannot_influence hnow hnothing
  obtain ⟨hfull, hreturned, -⟩ := hpanic push "no more" hraised
  exact ⟨hjournal, hsame, hagree, hlast, hend.symm.trans hlast, by decide +kernel,
    by decide +kernel, hraised, hfull, hreturned⟩

end Broadcast

end ChangeAudit
