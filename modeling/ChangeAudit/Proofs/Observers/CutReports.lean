/-
# Reports that a panicking callback cuts short

Watchers come after the callbacks.  So a callback that panics costs the watchers the report: the
change stays in the list, it is not pending any more, and no later report tells of it
(`ObservableList.cut_of_raised`).  The watcher is not told either that it has missed anything; only
a feed that overflows says so.

What has happened since a watch began is written down in a `Ledger`: what was sent to the watchers,
what was cut short, what was lost with abandoned batches, and what panicking selectors have dropped.
The ledger is complete (`Broadcast.Watching.balance_eq`), and a watcher follows what was sent and
nothing else (`Broadcast.Watching.follows`).  Hence the main statement: whoever replays what a
watcher gets, from the contents that the watch began with, is off by what was cut short, lost,
dropped or is pending, and by nothing else (`watchers_miss_cut_reports`).  Where nothing was cut
short, lost or dropped, the replay leads to the contents.
-/
import ChangeAudit.Proofs.Journal.Dropped
import ChangeAudit.Proofs.Observers.Noninterference
import ChangeAudit.Proofs.Shadow.Replay
import ChangeAudit.Proofs.Verifier.Tracking

namespace ChangeAudit

open Counting

variable {σ α : Type}

/-! ## 1. What is written down -/

/-- What has happened since a watch began, and what the watcher has received. -/
structure Ledger (α : Type) where
  heard : List (Received α) := []
  /-- The reports that went to the watchers. -/
  sent : List (Change α) := []
  /-- The reports that a callback has cut short. -/
  cut : List (Change α) := []
  /-- The pending changes that were lost with an abandoned batch. -/
  lost : List (Change α) := []
  /-- The items that panicking selectors have dropped. -/
  dropped : List α := []

/-- Whether a callback has cut the call short. -/
def Performed.isCut (p : Performed σ α) : Bool :=
  match p.answer with
  | .error (.raised _) => true
  | _ => false

theorem Performed.isCut_iff (p : Performed σ α) :
    p.isCut = true ↔ ∃ text, p.answer = .error (.raised text) := by
  rw [isCut]
  constructor
  · intro h
    split at h
    · rename_i text hanswer
      exact ⟨text, hanswer⟩
    · cases h
  · rintro ⟨text, hanswer⟩
    rw [hanswer]

namespace Broadcast

variable [BEq α]

/-- The report of a deed, if it went to the watchers. -/
def sentBy (b : Broadcast σ α) (d : Deed σ α) : List (Change α) :=
  if (b.perform d).isCut then [] else (b.perform d).reported.toList

/-- The report of a deed, if it was cut short. -/
def cutBy (b : Broadcast σ α) (d : Deed σ α) : List (Change α) :=
  if (b.perform d).isCut then (b.perform d).reported.toList else []

/-- What is lost by a deed. -/
def lostBy (b : Broadcast σ α) (d : Deed σ α) : List (Change α) :=
  match d.action? with
  | none => []
  | some a => (b.list.journal.step a).lost.toList

/-- The items that are dropped by a deed. -/
def droppedBy (b : Broadcast σ α) (d : Deed σ α) : List α :=
  match (b.perform d).answer with
  | .error .predicate => b.list.items
  | _ => []

/-- What is written down after a deed. -/
def entered (b : Broadcast σ α) (d : Deed σ α) (watcher : Nat) (k : Ledger α) : Ledger α where
  heard := k.heard ++ b.hearing d watcher
  sent := k.sent ++ b.sentBy d
  cut := k.cut ++ b.cutBy d
  lost := k.lost ++ b.lostBy d
  dropped := k.dropped ++ b.droppedBy d

/-- What a list can come to, and its observers with it.  Callbacks may panic. -/
inductive Arises : Broadcast σ α → Prop where
  | start (name : String) (source : Nat) (items : List α) (world : σ) :
      Arises { list := .ofItems name source items, world }
  | step {b : Broadcast σ α} (h : Arises b) (d : Deed σ α) : Arises (b.after d)

/-- A watch that began with nothing pending, when the contents were `base`, and what was written
down since. -/
inductive Watching (watcher : Nat) (base : List α) : Ledger α → Broadcast σ α → Prop where
  | start {b : Broadcast σ α} (h : Arises b) (hwatcher : watcher = b.list.nextFeed)
      (hbase : base = b.list.items) (hidle : b.list.journal.pending = .empty) :
      Watching watcher base {} (b.after .watch)
  | step {k : Ledger α} {b : Broadcast σ α} (h : Watching watcher base k b) (d : Deed σ α)
      (hd : d ≠ .unwatch watcher) : Watching watcher base (b.entered d watcher k) (b.after d)

/-! ## 2. Feeds -/

variable {b : Broadcast σ α} {d : Deed σ α} {watcher : Nat} {f : Feed α}

/-- What becomes of the feed of a watcher. -/
def feedAfter (b : Broadcast σ α) (d : Deed σ α) (watcher : Nat) (f : Feed α) : Feed α :=
  match d with
  | .act a => (b.sentBy (.act a)).foldl Feed.send f
  | .receive other live => if watcher = other then (f.receive live).2 else f
  | _ => f

/-- What a call sends goes into every feed, and nothing else does. -/
theorem feed?_after_act (watcher : Nat) (a : Action α) :
    (b.after (.act a)).list.feed? watcher =
        (b.list.feed? watcher).map ((b.sentBy (.act a)).foldl Feed.send) ∧
      (b.after (.act a)).list.nextFeed = b.list.nextFeed := by
  have hreported := perform_act_reported (b := b) a
  cases hr : (b.list.journal.step a).reported with
  | none =>
    have hsilent := ObservableList.silent_of_quiet b.world hr
    rw [hr] at hreported
    have hsent : b.sentBy (.act a) = [] := by
      rw [sentBy, hreported]
      exact ite_self _
    rw [hsent]
    refine ⟨?_, hsilent.nextFeed⟩
    exact (congrArg (List.lookup watcher) hsilent.feeds).trans Option.map_id_apply.symm
  | some c =>
    have hconcluded := b.list.concluded_of_reported b.world hr
    refine ⟨?_, hconcluded.nextFeed⟩
    cases hcut : (b.perform (.act a)).isCut with
    | true =>
      obtain ⟨text, htext⟩ := (Performed.isCut_iff _).mp hcut
      obtain ⟨_, hshort⟩ := ObservableList.cut_of_raised htext
      have hsent : b.sentBy (.act a) = [] := by rw [sentBy, hcut, if_pos rfl]
      rw [hsent]
      exact (congrArg (List.lookup watcher) hshort.feeds).trans Option.map_id_apply.symm
    | false =>
      have hcalm : b.list.Calm b.world a := fun text htext =>
        Bool.false_ne_true (hcut.symm.trans ((Performed.isCut_iff _).mpr ⟨text, htext⟩))
      have hdelivered := ObservableList.delivered_of_calm b.world hcalm hr
      have hsent : b.sentBy (.act a) = [c] := by
        rw [sentBy, hcut, hreported, hr]
        rfl
      rw [hsent]
      exact (congrArg (List.lookup watcher) hdelivered.feeds).trans
        (lookup_mapValues b.list.feeds (fun _ f => f.send c) watcher)

/-- A feed that is there, or is not, stays so, unless its watch begins or ends. -/
theorem feed?_after (hnew : d = .watch → watcher ≠ b.list.nextFeed) (hend : d ≠ .unwatch watcher) :
    (b.after d).list.feed? watcher = (b.list.feed? watcher).map (b.feedAfter d watcher) := by
  have hsame : b.list.feed? watcher = (b.list.feed? watcher).map id := Option.map_id_apply.symm
  cases d with
  | act a => exact (feed?_after_act watcher a).1
  | subscribe callback => exact hsame
  | unsubscribe id => exact hsame
  | release s =>
    rcases s.release_cases b.list b.world with hlist | hlist
    · exact (congrArg (·.feed? watcher) hlist).trans hsame
    · exact (congrArg (·.feed? watcher) hlist).trans hsame
  | close => exact hsame
  | watch =>
    have hfeed := b.list.feed?_watch watcher
    rw [if_neg (hnew rfl), Option.or_none] at hfeed
    exact hfeed.trans hsame
  | receive other live =>
    have hlist : (b.after (.receive other live)).list = (b.list.feed? other).elim b.list
        fun f => b.list.setFeed other (f.receive live).2 := by
      rw [after, perform]
      cases b.list.feed? other with
      | none => rfl
      | some f => rfl
    have hown : b.feedAfter (.receive other live) watcher =
        fun f => if watcher = other then (f.receive live).2 else f := rfl
    rw [hlist, hown]
    by_cases hw : watcher = other
    · subst hw
      cases hother : b.list.feed? watcher with
      | none => exact hother
      | some f =>
        simp only [Option.elim_some, ObservableList.feed?_setFeed, hother, Option.map_some, if_pos]
    · simp only [if_neg hw, Option.map_id']
      cases hother : b.list.feed? other with
      | none => rfl
      | some f =>
        simp only [Option.elim_some, ObservableList.feed?_setFeed, if_neg hw, Option.map_id']
  | unwatch other =>
    have hne : watcher ≠ other := fun h => hend (h ▸ rfl)
    exact (b.list.feed?_unwatch_of_ne hne).trans hsame
  | elsewhere world => exact hsame

theorem nextFeed_le_after : b.list.nextFeed ≤ (b.after d).list.nextFeed := by
  cases d with
  | act a => exact Nat.le_of_eq (feed?_after_act 0 a).2.symm
  | release s =>
    rcases s.release_cases b.list b.world with hlist | hlist
    · exact Nat.le_of_eq (congrArg (·.nextFeed) hlist).symm
    · exact Nat.le_of_eq (congrArg (·.nextFeed) hlist).symm
  | watch => exact Nat.le_succ _
  | receive other live =>
    rw [after, perform]
    cases b.list.feed? other with
    | none => exact Nat.le_refl _
    | some f => exact Nat.le_refl _
  | _ => exact Nat.le_refl _

/-- A number that was not given to any watcher has no feed. -/
theorem Arises.feed?_of_le (h : b.Arises) (hw : b.list.nextFeed ≤ watcher) :
    b.list.feed? watcher = none := by
  induction h with
  | start name source items world => rfl
  | @step b h d ih =>
    have hnone := ih (Nat.le_trans nextFeed_le_after hw)
    by_cases hend : d = .unwatch watcher
    · rw [hend]
      exact b.list.feed?_unwatch_self watcher
    · rw [feed?_after ?_ hend, hnone, Option.map_none]
      rintro rfl rfl
      exact Nat.lt_irrefl _ hw

/-- A watcher follows what is sent. -/
theorem follows_after {log : List (Change α)} {heard : List (Received α)}
    (hf : b.list.feed? watcher = some f) (h : Follows log heard f) :
    Follows (log ++ b.sentBy d) (heard ++ b.hearing d watcher) (b.feedAfter d watcher f) := by
  cases d with
  | act a =>
    have hnone : b.hearing (.act a) watcher = [] := rfl
    rw [hnone, List.append_nil, feedAfter]
    cases hsent : b.sentBy (.act a) with
    | nil =>
      rw [List.append_nil]
      exact h
    | cons c rest =>
      have hrest : rest = [] := by
        rw [sentBy] at hsent
        split at hsent
        · cases hsent
        · cases hr : (b.perform (.act a)).reported <;> rw [hr] at hsent <;> cases hsent
          rfl
      rw [hrest]
      exact h.send c
  | receive other live =>
    have hnone : b.sentBy (.receive other live) = [] := rfl
    rw [hnone, List.append_nil, hearing, feedAfter]
    by_cases hw : watcher = other
    · rw [if_pos hw, if_pos hw, ← hw, hf]
      exact h.receive live
    · rw [if_neg hw, if_neg hw, List.append_nil]
      exact h
  | _ =>
    have hnone : ∀ log : List (Change α), log ++ [] = log := List.append_nil
    simp only [hearing, feedAfter, List.append_nil]
    exact (hnone log).symm ▸ h

variable {base : List α} {k : Ledger α}

/-- **A watcher follows what was sent to it**, whatever was cut short meanwhile. -/
theorem Watching.follows (h : b.Watching watcher base k) :
    watcher < b.list.nextFeed ∧
      ∃ f, b.list.feed? watcher = some f ∧ Follows k.sent k.heard f := by
  induction h with
  | @start b h hwatcher hbase hidle =>
    have hnone := h.feed?_of_le (Nat.le_of_eq hwatcher.symm)
    refine ⟨Nat.lt_succ_of_le (Nat.le_of_eq hwatcher), {}, ?_, .start⟩
    refine (b.list.feed?_watch watcher).trans ?_
    rw [hnone, if_pos hwatcher, Option.none_or]
  | @step k b h d hd ih =>
    obtain ⟨hlt, f, hf, hfollows⟩ := ih
    refine ⟨Nat.lt_of_lt_of_le hlt nextFeed_le_after, b.feedAfter d watcher f, ?_, ?_⟩
    · rw [feed?_after (fun _ => Nat.ne_of_lt hlt) hd, hf, Option.map_some]
    · exact follows_after hf hfollows

/-! ## 3. The ledger is complete -/

/-- What the ledger and the pending change leave open of the contents. -/
def balance (b : Broadcast σ α) (k : Ledger α) (x : α) : Int :=
  b.list.items.count x + k.dropped.count x - b.list.journal.pending.net x -
    (Change.netAll x k.sent + Change.netAll x k.cut + Change.netAll x k.lost)

/-- What is reported is sent or cut short. -/
theorem netAll_sentBy_add_cutBy (x : α) :
    Change.netAll x (b.sentBy d) + Change.netAll x (b.cutBy d) =
      Change.netAll x (b.perform d).reported.toList := by
  rw [sentBy, cutBy]
  cases (b.perform d).isCut with
  | true =>
    rw [if_pos rfl, if_pos rfl, Change.netAll]
    omega
  | false =>
    rw [if_neg Bool.false_ne_true, if_neg Bool.false_ne_true, Change.netAll]
    omega

/-- A selector that panics is the only one to drop anything. -/
theorem droppedBy_act (a : Action α) :
    b.droppedBy (.act a) =
      if (b.list.journal.step a).answer = .error .predicate then b.list.items else [] := by
  rw [droppedBy]
  rcases b.list.answer_eq_or_raised b.world a with hsame | ⟨text, hraised⟩
  · have hanswer : (b.perform (.act a)).answer = (b.list.journal.step a).answer := hsame
    rw [hanswer]
    split
    · rename_i hp
      rw [hp, if_pos rfl]
    · rename_i hp
      rw [if_neg hp]
  · have hanswer : (b.perform (.act a)).answer = .error (.raised text) := hraised
    obtain ⟨c, hcut⟩ := ObservableList.cut_of_raised hraised
    obtain ⟨answer, hok⟩ := Journal.answer_of_reported hcut.whole.reported
    rw [hanswer, hok, if_neg nofun]

/-- What a deed adds to the ledger. -/
theorem balance_entered (x : α) :
    (b.after d).balance (b.entered d watcher k) x =
      (b.after d).list.items.count x - (b.after d).list.journal.pending.net x +
        (k.dropped.count x + (b.droppedBy d).count x) -
        (Change.netAll x k.sent + Change.netAll x k.cut + Change.netAll x k.lost) -
        (Change.netAll x (b.perform d).reported.toList + Change.netAll x (b.lostBy d)) := by
  have hsplit := netAll_sentBy_add_cutBy (b := b) (d := d) x
  simp only [balance, entered, Change.netAll_append, List.count_append]
  omega

section Balance

variable [PartialEquivBEq α]

/-- **Whatever is done, the ledger accounts for it.** -/
theorem balance_after (x : α) : (b.after d).balance (b.entered d watcher k) x = b.balance k x := by
  rw [balance_entered, balance]
  cases hd : d.action? with
  | none =>
    obtain ⟨hreported, hanswer⟩ := perform_of_aside (b := b) hd
    have hdropped : b.droppedBy d = [] := by rw [droppedBy, hanswer]
    have hjournal := after_journal_of_aside (b := b) hd
    rw [lostBy, hd, hreported, hdropped, ObservableList.items, hjournal, ObservableList.items]
    simp only [Option.toList_none, Change.netAll, List.count_nil]
    omega
  | some a =>
    obtain rfl := Deed.eq_act hd
    have hreported := perform_act_reported (b := b) a
    have hlost : b.lostBy (.act a) = (b.list.journal.step a).lost.toList := rfl
    rw [hreported, hlost, droppedBy_act, ObservableList.items, after_journal_of_act,
      ObservableList.items]
    by_cases hp : (b.list.journal.step a).answer = .error .predicate
    · -- the items are dropped, and nothing else happens
      rw [if_pos hp, (Journal.step_of_predicate hp).1]
      simp only [Option.toList_none, Change.netAll, List.count_nil]
      omega
    · have hmove := Journal.gathered_count_sub_net hp x
      rw [if_neg hp, List.count_nil]
      rcases b.list.journal.step_fate a with hk | hr | ⟨-, hl⟩
      · rw [hk.journal, hk.reported, hk.lost]
        simp only [Option.toList_none, Change.netAll]
        omega
      · rw [hr.journal, hr.reported, hr.lost]
        simp only [Option.toList_none, Option.toList_some, Change.netAll, Change.net_empty]
        omega
      · rw [hl.journal, hl.reported, hl.lost]
        simp only [Option.toList_none, Option.toList_some, Change.netAll, Change.net_empty]
        omega

/-- **The ledger tells how the contents came from those at the beginning.** -/
theorem Watching.balance_eq (h : b.Watching watcher base k) (x : α) :
    b.balance k x = base.count x := by
  induction h with
  | @start b h hwatcher hbase hidle =>
    have hitems : (b.after .watch).list.items = b.list.items := rfl
    have hpending : (b.after .watch).list.journal.pending = b.list.journal.pending := rfl
    rw [balance, hitems, hpending, hidle, hbase, Change.net_empty]
    simp only [Change.netAll, List.count_nil]
    omega
  | step h d hd ih => exact (balance_after x).trans ih

end Balance

/-! ## 4. Where nothing was cut short -/

theorem sentBy_of_cutBy_eq_nil (h : b.cutBy d = []) :
    b.sentBy d = (b.perform d).reported.toList := by
  rw [cutBy] at h
  rw [sentBy]
  cases hcut : (b.perform d).isCut with
  | true =>
    rw [hcut, if_pos rfl] at h
    rw [if_pos rfl, h]
  | false => exact if_neg Bool.false_ne_true

variable [EquivBEq α]

/-- **Where nothing was cut short, lost or dropped, the replay lacks what is pending, and nothing
else.** -/
theorem Watching.accounts (h : b.Watching watcher base k) (hcut : k.cut = [])
    (hlost : k.lost = []) (hdropped : k.dropped = []) :
    ((⟨base⟩ : Shadow α).replay k.sent).2 = [] ∧
      b.list.journal.pending.AccountsFor ((⟨base⟩ : Shadow α).replay k.sent).1.items
        b.list.items := by
  induction h with
  | @start b h hwatcher hbase hidle =>
    have hpending : (b.after .watch).list.journal.pending = .empty := hidle
    refine ⟨rfl, ?_⟩
    rw [hpending, hbase]
    exact .refl _
  | @step k b h d hd ih =>
    obtain ⟨hcut, hcutBy⟩ := List.append_eq_nil_iff.mp hcut
    obtain ⟨hlost, hlostBy⟩ := List.append_eq_nil_iff.mp hlost
    obtain ⟨hdropped, hdroppedBy⟩ := List.append_eq_nil_iff.mp hdropped
    obtain ⟨hmatched, haccounts⟩ := ih hcut hlost hdropped
    have hsent : (b.entered d watcher k).sent = k.sent ++ (b.perform d).reported.toList := by
      rw [entered, sentBy_of_cutBy_eq_nil hcutBy]
    rw [hsent]
    cases hact : d.action? with
    | none =>
      rw [(perform_of_aside hact).1, Option.toList_none, List.append_nil, ObservableList.items,
        after_journal_of_aside hact]
      exact ⟨hmatched, haccounts⟩
    | some a =>
      obtain rfl := Deed.eq_act hact
      have hselects : (b.list.journal.step a).answer ≠ .error .predicate := by
        intro hp
        rw [droppedBy_act, if_pos hp] at hdroppedBy
        exact (Journal.step_of_predicate hp).2 hdroppedBy
      have hgathered := haccounts.gathered hselects
      rw [perform_act_reported, ObservableList.items, after_journal_of_act]
      rcases b.list.journal.step_fate a with hk | hr | ⟨-, hl⟩
      · rw [hk.reported, hk.journal, Option.toList_none, List.append_nil]
        exact ⟨hmatched, hgathered⟩
      · obtain ⟨hunmatched, hcounts⟩ := Session.apply_of_accountsFor hgathered
        rw [hr.reported, hr.journal, Option.toList_some, Shadow.replay_append]
        simp only [Shadow.replay, hmatched, hunmatched, List.append_nil]
        exact ⟨trivial, .of_count_eq hcounts⟩
      · have hnone : (b.list.journal.step a).lost.toList = [] := hlostBy
        rw [hl.lost] at hnone
        cases hnone

/-! ## 5. The main statement -/

/-- **A callback that panics costs the watchers the report.**  A report goes to all watchers if no
callback panics; if one does, no watcher gets it, although the change is made and is not pending any
more.  So let a watch begin with nothing pending, and let the watcher never be told that it has
missed anything.  Replaying what it gets, from the contents at the beginning, leads away from the
contents by what was cut short, by what was lost with abandoned batches or dropped by panicking
selectors, and by what is pending, as long as every removal is matched.  If nothing was cut short,
lost or dropped, every removal is matched, and what is pending accounts for the rest. -/
theorem watchers_miss_cut_reports (h : b.Watching watcher base k) :
    (∀ a c, (b.perform (.act a)).reported = some c →
      (b.list.Calm b.world a → (b.after (.act a)).list.feeds =
        b.list.feeds.map fun (n, feed) => (n, feed.send c)) ∧
      ∀ text, (b.perform (.act a)).answer = .error (.raised text) →
        (b.after (.act a)).list.feeds = b.list.feeds ∧
          (b.after (.act a)).list.journal =
            { b.list.journal.gathered a with pending := .empty }) ∧
    ∃ f, b.list.feed? watcher = some f ∧ Follows k.sent k.heard f ∧
      (f.lost = 0 → (∀ count, .lagged count ∉ k.heard) →
        let replayed := (⟨base⟩ : Shadow α).replay (k.heard.filterMap (·.change?) ++ f.unread)
        (replayed.2 = [] → ∀ x, (b.list.items.count x : Int) - replayed.1.items.count x =
          Change.netAll x k.cut + Change.netAll x k.lost + b.list.journal.pending.net x -
            k.dropped.count x) ∧
        (k.cut = [] → k.lost = [] → k.dropped = [] → replayed.2 = [] ∧
          b.list.journal.pending.AccountsFor replayed.1.items b.list.items)) := by
  constructor
  · intro a c hc
    have hdue := (b.list.perform_reported b.world a).symm.trans hc
    constructor
    · intro hcalm
      exact (ObservableList.delivered_of_calm b.world hcalm hdue).feeds
    · intro text hraised
      obtain ⟨_, hcut⟩ := ObservableList.cut_of_raised hraised
      exact ⟨hcut.feeds, hcut.journal⟩
  · obtain ⟨-, f, hf, hfollows⟩ := h.follows
    refine ⟨f, hf, hfollows, ?_⟩
    intro hlost hnone replayed
    have hstream : k.heard.filterMap (·.change?) ++ f.unread = k.sent :=
      hfollows.changes_eq hlost hnone
    have hreplayed : replayed = (⟨base⟩ : Shadow α).replay k.sent :=
      congrArg (Shadow.replay ⟨base⟩) hstream
    rw [hreplayed]
    constructor
    · intro hmatched x
      have hbalance := h.balance_eq x
      have hcount : (((⟨base⟩ : Shadow α).replay k.sent).1.items.count x : Int) =
          base.count x + Change.netAll x k.sent := Shadow.replay_count_of_matched hmatched x
      rw [balance] at hbalance
      omega
    · intro hcut hlost hdropped
      exact h.accounts hcut hlost hdropped

omit [BEq α] [EquivBEq α] in
/-- A callback panics when something is added.  The watcher learns of the removal that follows, and
of nothing that was added. -/
theorem watchers_miss_cut_reports_touchy :
    let touchy : Callback Unit Nat := fun _ c _ => if c.added = [] then .done else .panic "no more"
    let start : Broadcast Unit Nat :=
      ({ list := .ofItems "numbers" 0 [1], world := () } : Broadcast Unit Nat).after
        (.subscribe touchy)
    let watched := start.after .watch
    let pushed := watched.after (.act (.mutate (.push 2)))
    let last := pushed.after (.act (.mutate (.remove 1)))
    let k := pushed.entered (.act (.mutate (.remove 1))) 0
      (watched.entered (.act (.mutate (.push 2))) 0 {})
    last.Watching 0 [1] k ∧ last.list.items = [2] ∧ k.sent = [⟨[1], []⟩] ∧
      k.cut = [⟨[], [2]⟩] ∧
      (watched.perform (.act (.mutate (.push 2)))).answer = .error (.raised "no more") ∧
      pushed.list.feeds = watched.list.feeds ∧
      ∃ f, last.list.feed? 0 = some f ∧ f.lost = 0 ∧ f.unread = [⟨[1], []⟩] ∧
        (last.list.items.count 2 : Int) -
          ((⟨[1]⟩ : Shadow Nat).replay f.unread).1.items.count 2 = 1 := by
  intro touchy start watched pushed last k
  have hwatched : watched.Watching 0 [1] {} :=
    .start (.step (.start "numbers" 0 [1] ()) (.subscribe touchy)) rfl rfl rfl
  have hlast : last.Watching 0 [1] k :=
    .step (.step hwatched (.act (.mutate (.push 2))) nofun) (.act (.mutate (.remove 1))) nofun
  have hraised : (watched.perform (.act (.mutate (.push 2)))).answer =
      .error (.raised "no more") := rfl
  obtain ⟨hreports, -⟩ := watchers_miss_cut_reports hwatched
  obtain ⟨hfeeds, -⟩ := (hreports (.mutate (.push 2)) ⟨[], [2]⟩ rfl).2 "no more" hraised
  obtain ⟨-, f, hf, -, hreplay⟩ := watchers_miss_cut_reports hlast
  have hfeed : last.list.feed? 0 = some { unread := [⟨[1], []⟩] } := rfl
  obtain rfl : { unread := [⟨[1], []⟩] } = f := Option.some.inj (hfeed.symm.trans hf)
  have hmissed := (hreplay rfl nofun).1 rfl 2
  exact ⟨hlast, rfl, rfl, rfl, hraised, hfeeds, _, hf, rfl, rfl, hmissed⟩

end Broadcast

end ChangeAudit
