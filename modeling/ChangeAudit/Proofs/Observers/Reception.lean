/-
# Every observer gets the same log

The changes that a list reports, one after another, are its log.  Meanwhile callbacks come and go:
by calls from outside, and by what other callbacks do in the middle of a report.  Watchers come and
go as well, and receive when they like.

Nobody gets anything but the log.  As long as no callback panics, a callback is called with the
reports that began while it was registered, each once and in order: the log from the moment when it
was registered to the moment when it was not any more (`Broadcast.Standing`).  A callback that came
in the middle of a report came too late for it, and one that went in the middle of a report still
gets it.  A watcher follows the log from where it began, whatever becomes of the callbacks
(`Broadcast.Attendance`).  One that has fallen behind can catch up by receiving until nothing waits:
it is told by how much, and gets the last reports (`Broadcast.receiving_drain`).
-/
import ChangeAudit.Proofs.Observers.Feeds
import ChangeAudit.Proofs.Observers.Registrations

namespace ChangeAudit

variable {σ α : Type}

/-! ## 1. What is remembered of an observer -/

/-- The time for which a callback is registered: how many reports the log held when it came, and
when it went. -/
structure Term where
  began : Nat
  ended : Option Nat := none
  deriving DecidableEq

namespace Term

/-- The part of the log that falls into the time. -/
def part (t : Term) (log : List (Change α)) : List (Change α) :=
  (log.take (t.ended.getD log.length)).drop t.began

/-- What is remembered of an identifier when the log holds `reports` reports and the identifier is
in use, or is not. -/
def next (registered : Bool) (reports : Nat) : Option Term → Option Term
  | none => if registered then some { began := reports } else none
  | some { began, ended := none } =>
    some { began, ended := if registered then none else some reports }
  | some { began, ended := some ended } => some { began, ended := some ended }

end Term

/-- A watch: how many reports the log held when it began, what was received, and the greatest
number of reports that were waiting at a time. -/
structure Watch (α : Type) where
  began : Nat
  heard : List (Received α) := []
  peak : Nat := 0

namespace Watch

/-- How many of `reports` reports the watcher has no account of. -/
def waiting (k : Watch α) (reports : Nat) : Nat :=
  reports - k.began - Received.coverage k.heard

/-- What is remembered when the watcher has received `rs` and the log holds `reports` reports. -/
def hears (k : Watch α) (rs : List (Received α)) (reports : Nat) : Watch α where
  began := k.began
  heard := k.heard ++ rs
  peak := max k.peak ({ k with heard := k.heard ++ rs }.waiting reports)

/-- The watch is in order: it follows the log, and it has missed nothing unless too much was
waiting at some time. -/
structure Keeps (k : Watch α) (log : List (Change α)) (f : Feed α) : Prop where
  began : k.began ≤ log.length
  follows : Follows (log.drop k.began) k.heard f
  intime : k.peak ≤ feedCapacity → f.lost = 0 ∧ ∀ count, .lagged count ∉ k.heard

end Watch

/-! ## 2. A list and its observers -/

/-- One thing that is done with a list. -/
inductive Deed (σ α : Type) where
  | act (a : Action α)
  | subscribe (callback : Callback σ α)
  | unsubscribe (id : SubscriptionId)
  /-- The owner of a subscription releases it. -/
  | release (s : Subscription)
  | close
  | watch
  /-- A watcher receives what is next; `live` if it finds the list there. -/
  | receive (watcher : Nat) (live : Bool)
  | unwatch (watcher : Nat)
  /-- The world goes on. -/
  | elsewhere (world : σ)

/-- The calls of callbacks, each with the change that was told. -/
def Performed.calls (p : Performed σ α) : List (SubscriptionId × Change α) :=
  p.reported.toList.flatMap fun c => p.called.map fun id => (id, c)

/-- A list, the world of its observers, and what is remembered of them. -/
structure Broadcast (σ α : Type) where
  list : ObservableList σ α
  world : σ
  /-- All changes that were reported. -/
  log : List (Change α) := []
  /-- All calls of callbacks. -/
  calls : List (SubscriptionId × Change α) := []
  /-- When each identifier was in use. -/
  terms : SubscriptionId → Option Term := fun _ => none
  /-- The watchers there are. -/
  watches : Nat → Option (Watch α) := fun _ => none

namespace Broadcast

/-- The changes that the callback under an identifier was called with. -/
def received (b : Broadcast σ α) (id : SubscriptionId) : List (Change α) :=
  (b.calls.filter (·.1 = id)).map (·.2)

variable [BEq α]

/-- The effect of a deed on the list and the world. -/
def perform (b : Broadcast σ α) : Deed σ α → Performed σ α
  | .act a => b.list.perform b.world a
  | .subscribe callback =>
    { list := (b.list.subscribe b.world callback).1, world := b.world }
  | .unsubscribe id => { list := (b.list.unsubscribe b.world id).1, world := b.world }
  | .release s =>
    { list := (s.release (some b.list) b.world).list.getD b.list, world := b.world }
  | .close => { list := (b.list.close b.world).1, world := b.world }
  | .watch => { list := b.list.watch.1, world := b.world }
  | .receive watcher live =>
    { list := match b.list.feed? watcher with
        | none => b.list
        | some f => b.list.setFeed watcher (f.receive live).2
      world := b.world }
  | .unwatch watcher => { list := b.list.unwatch watcher, world := b.world }
  | .elsewhere world => { list := b.list, world }

/-- What a watcher receives by a deed. -/
def hearing (b : Broadcast σ α) (d : Deed σ α) (watcher : Nat) : List (Received α) :=
  match d with
  | .receive other live =>
    if watcher = other then ((b.list.feed? other).map fun f => (f.receive live).1).toList else []
  | _ => []

/-- What is remembered of a watcher after a deed. -/
def watchAfter (b : Broadcast σ α) (d : Deed σ α) (reports watcher : Nat) : Option (Watch α) :=
  match d with
  | .watch =>
    if watcher = b.list.nextFeed then some { began := reports }
    else (b.watches watcher).map (·.hears [] reports)
  | .unwatch other =>
    if watcher = other then none else (b.watches watcher).map (·.hears [] reports)
  | d => (b.watches watcher).map (·.hears (b.hearing d watcher) reports)

/-- What there is after a deed. -/
def after (b : Broadcast σ α) (d : Deed σ α) : Broadcast σ α :=
  let p := b.perform d
  let log := b.log ++ p.reported.toList
  { list := p.list
    world := p.world
    log
    calls := b.calls ++ p.calls
    terms id := Term.next (decide (id ∈ p.list.registry.ids)) log.length (b.terms id)
    watches := b.watchAfter d log.length }

/-- What there is after several deeds. -/
def afterAll (b : Broadcast σ α) : List (Deed σ α) → Broadcast σ α
  | [] => b
  | d :: ds => (b.after d).afterAll ds

/-- What there is after a watcher has received a number of times. -/
def receiving (b : Broadcast σ α) (watcher : Nat) (live : Bool) (times : Nat) : Broadcast σ α :=
  b.afterAll (List.replicate times (.receive watcher live))

/-- No callback panics by the deed. -/
def Calm (b : Broadcast σ α) : Deed σ α → Prop
  | .act a => b.list.Calm b.world a
  | _ => True

/-- What a list can come to, and its observers with it, if no callback panics. -/
inductive Reachable : Broadcast σ α → Prop where
  | start (name : String) (source : Nat) (items : List α) (world : σ) :
      Reachable { list := .ofItems name source items, world }
  | step {b : Broadcast σ α} (h : Reachable b) (d : Deed σ α) (hd : b.Calm d) :
      Reachable (b.after d)

/-- What an identifier was used for: the callback under it got the part of the log that falls into
its time. -/
inductive Standing (b : Broadcast σ α) (id : SubscriptionId) : Option Term → Prop where
  | never (hid : id ∉ b.list.registry.ids) (hr : b.received id = []) : Standing b id none
  | current {began : Nat} (hid : id ∈ b.list.registry.ids) (hbegan : began ≤ b.log.length)
      (hr : b.received id = b.log.drop began) : Standing b id (some { began })
  | past {began ended : Nat} (hgiven : id.serial < b.list.registry.next)
      (hid : id ∉ b.list.registry.ids) (hended : ended ≤ b.log.length)
      (hr : b.received id = (b.log.take ended).drop began) :
      Standing b id (some { began, ended := some ended })

/-- What a number is used for: there is no such watcher, or it is in order. -/
inductive Attendance (b : Broadcast σ α) (watcher : Nat) : Option (Watch α) → Prop where
  | nobody (hfeed : b.list.feed? watcher = none) : Attendance b watcher none
  | present {k : Watch α} {f : Feed α} (hgiven : watcher < b.list.nextFeed)
      (hfeed : b.list.feed? watcher = some f) (hkeeps : k.Keeps b.log f) :
      Attendance b watcher (some k)

/-- What holds of every list and its observers. -/
structure Sound (b : Broadcast σ α) : Prop where
  valid : b.list.registry.Valid
  nonempty : ∀ c ∈ b.log, c.isEmpty = false
  standing : ∀ id, b.Standing id (b.terms id)
  attendance : ∀ watcher, b.Attendance watcher (b.watches watcher)

end Broadcast

/-! ## 3. Callbacks -/

/-- An identifier that is in use once is called once. -/
theorem filter_calls_of_nodup {ids : List SubscriptionId} (hnodup : ids.Nodup) (c : Change α)
    (id : SubscriptionId) :
    ((ids.map fun other => (other, c)).filter (·.1 = id)).map (·.2) =
      if id ∈ ids then [c] else [] := by
  have hfilter : (ids.map fun other => (other, c)).filter (·.1 = id) =
      (ids.filter (· = id)).map fun other => (other, c) := List.filter_map
  rw [hfilter, List.filter_eq, hnodup.count]
  split <;> rfl

namespace Broadcast

variable [BEq α] {b : Broadcast σ α} {d : Deed σ α} {id : SubscriptionId}

/-- Whatever is done, the registry only moves on. -/
theorem continues_after (hvalid : b.list.registry.Valid) (hd : b.Calm d) :
    b.list.Continues (b.after d).list := by
  cases d with
  | act a => exact ObservableList.continues_perform hvalid hd
  | subscribe callback => exact ObservableList.continues_subscribe hvalid b.world callback
  | unsubscribe id => exact ObservableList.continues_unsubscribe hvalid b.world id
  | release s =>
    rcases s.release_cases b.list b.world with hlist | hlist
    · exact .of_registry hvalid (congrArg (·.registry) hlist)
    · rw [after, perform, hlist]
      exact ObservableList.continues_unsubscribe hvalid b.world s.id
  | close => exact ObservableList.continues_close b.list b.world
  | watch => exact .of_registry hvalid rfl
  | receive watcher live =>
    refine .of_registry hvalid ?_
    rw [after, perform]
    cases b.list.feed? watcher <;> rfl
  | unwatch watcher => exact .of_registry hvalid rfl
  | elsewhere world => exact .of_registry hvalid rfl

/-- What is reported is delivered to everybody who is registered. -/
theorem delivered_of_reported (hd : b.Calm d) {c : Change α}
    (hc : (b.perform d).reported = some c) :
    ∃ a, d = .act a ∧ b.list.Delivered b.world a c (b.perform d) := by
  cases d with
  | act a =>
    refine ⟨a, rfl, ObservableList.delivered_of_calm b.world hd ?_⟩
    rw [← ObservableList.perform_reported]
    exact hc
  | _ => cases hc

/-- **A deed calls a callback just if it is registered when the deed begins, and reports.** -/
theorem received_after (hvalid : b.list.registry.Valid) (hd : b.Calm d) (id : SubscriptionId) :
    (b.after d).received id = b.received id ++
      if id ∈ b.list.registry.ids then (b.perform d).reported.toList else [] := by
  rw [received, received, after, List.filter_append, List.map_append, Performed.calls]
  congr 1
  cases hc : (b.perform d).reported with
  | none => rw [Option.toList_none, ite_self]; rfl
  | some c =>
    obtain ⟨a, -, hdelivered⟩ := delivered_of_reported hd hc
    rw [hdelivered.called, Option.toList_some, List.flatMap_singleton]
    exact filter_calls_of_nodup hvalid.nodup c id

/-- **The callback under an identifier goes on to get its part of the log.** -/
theorem standing_after (hvalid : b.list.registry.Valid) (hd : b.Calm d)
    (h : b.Standing id (b.terms id)) : (b.after d).Standing id ((b.after d).terms id) := by
  have hcontinues := continues_after hvalid hd
  have hreceived := received_after hvalid hd id
  have hlog : (b.after d).log = b.log ++ (b.perform d).reported.toList := rfl
  have hle : b.log.length ≤ (b.after d).log.length := by
    rw [hlog, List.length_append]
    exact Nat.le_add_right _ _
  have hterms : (b.after d).terms id =
      Term.next (decide (id ∈ (b.after d).list.registry.ids)) (b.after d).log.length
        (b.terms id) := rfl
  rw [hterms]
  generalize b.terms id = t at h
  cases h with
  | never hid hr =>
    rw [if_neg hid, hr, List.append_nil] at hreceived
    by_cases hnow : id ∈ (b.after d).list.registry.ids
    · -- registered meanwhile: for what comes, not for what was reported meanwhile
      rw [decide_eq_true hnow]
      refine .current hnow (Nat.le_refl _) ?_
      rw [hreceived, List.drop_length]
    · rw [decide_eq_false hnow]
      exact .never hnow hreceived
  | @current began hid hbegan hr =>
    rw [if_pos hid, hr, ← List.drop_append_of_le_length hbegan, ← hlog] at hreceived
    by_cases hnow : id ∈ (b.after d).list.registry.ids
    · rw [decide_eq_true hnow]
      exact .current hnow (Nat.le_trans hbegan hle) hreceived
    · -- gone meanwhile, but called with what was reported meanwhile
      rw [decide_eq_false hnow]
      refine .past (Nat.lt_of_lt_of_le (hvalid.given id hid).2 hcontinues.movesOn.next) hnow
        (Nat.le_refl _) ?_
      rw [hreceived, List.take_length]
  | @past began ended hgiven hid hended hr =>
    rw [if_neg hid, hr, List.append_nil] at hreceived
    refine .past (Nat.lt_of_lt_of_le hgiven hcontinues.movesOn.next)
      (hcontinues.movesOn.not_mem hgiven hid) (Nat.le_trans hended hle) ?_
    rw [hreceived, hlog, List.take_append_of_le_length hended]

end Broadcast

/-! ## 4. Watchers -/

namespace Watch

variable {k : Watch α} {log : List (Change α)} {f : Feed α}

/-- A watch that begins has nothing to account for. -/
theorem Keeps.start (log : List (Change α)) : ({ began := log.length } : Watch α).Keeps log {} := by
  refine ⟨Nat.le_refl _, ?_, fun _ => ⟨rfl, fun _ => List.not_mem_nil⟩⟩
  rw [List.drop_length]
  exact .start

/-- The watch stays in order when something is reported or received, if the feed keeps up. -/
theorem Keeps.hears (h : k.Keeps log f) {news : List (Change α)} {rs : List (Received α)}
    {f' : Feed α} (hfollows : Follows (log.drop k.began ++ news) (k.heard ++ rs) f')
    (hrs : f.lost = 0 → ∀ count, .lagged count ∉ rs) :
    (k.hears rs (log ++ news).length).Keeps (log ++ news) f' := by
  have hdrop : (log ++ news).drop k.began = log.drop k.began ++ news :=
    List.drop_append_of_le_length h.began
  refine ⟨?_, ?_, fun hpeak => ?_⟩
  · rw [List.length_append]
    exact Nat.le_trans h.began (Nat.le_add_right _ _)
  · rw [Watch.hears, hdrop]
    exact hfollows
  · -- in time up to now, so nothing was missed before; and there is room for what waits now
    obtain ⟨hbefore, hnow⟩ := Nat.max_le.mp hpeak
    obtain ⟨hlost, hnone⟩ := h.intime hbefore
    refine ⟨?_, fun count hmem => ?_⟩
    · have hpushed := hfollows.lost_eq
      rw [← hdrop, List.length_drop] at hpushed
      rw [hpushed]
      exact Nat.sub_eq_zero_of_le hnow
    · exact (List.mem_append.mp hmem).elim (hnone count) (hrs hlost count)

theorem Keeps.idle (h : k.Keeps log f) : (k.hears [] log.length).Keeps log f := by
  have hfollows : Follows (log.drop k.began ++ []) (k.heard ++ []) f := by
    rw [List.append_nil, List.append_nil]
    exact h.follows
  have hkeeps := h.hears hfollows fun _ _ => List.not_mem_nil
  rw [List.append_nil] at hkeeps
  exact hkeeps

theorem Keeps.sent (h : k.Keeps log f) (c : Change α) :
    (k.hears [] (log ++ [c]).length).Keeps (log ++ [c]) (f.send c) := by
  refine h.hears ?_ fun _ _ => List.not_mem_nil
  rw [List.append_nil]
  exact h.follows.send c

theorem Keeps.got (h : k.Keeps log f) (live : Bool) :
    (k.hears [(f.receive live).1] log.length).Keeps log (f.receive live).2 := by
  have hfollows : Follows (log.drop k.began ++ []) (k.heard ++ [(f.receive live).1])
      (f.receive live).2 := by
    rw [List.append_nil]
    exact h.follows.receive live
  have hkeeps := h.hears hfollows fun hlost count hmem =>
    Feed.receive_ne_lagged hlost live count (List.mem_singleton.mp hmem).symm
  rw [List.append_nil] at hkeeps
  exact hkeeps

end Watch

namespace Broadcast

variable [BEq α] {b b' : Broadcast σ α} {d : Deed σ α} {watcher : Nat}

omit [BEq α] in
/-- A watcher who receives nothing, and whose feed stays as it is. -/
theorem Attendance.idle {k : Option (Watch α)} (h : b.Attendance watcher k)
    (hfeed : b'.list.feed? watcher = b.list.feed? watcher)
    (hnext : b.list.nextFeed ≤ b'.list.nextFeed) (hlog : b'.log = b.log) :
    b'.Attendance watcher (k.map (·.hears [] b'.log.length)) := by
  rw [hlog]
  cases h with
  | nobody hnone => exact .nobody (hfeed.trans hnone)
  | present hgiven hsome hkeeps =>
    exact .present (Nat.lt_of_lt_of_le hgiven hnext) (hfeed.trans hsome) (hlog ▸ hkeeps.idle)

/-- **What is reported is sent to every watcher.** -/
theorem attendance_act {a : Action α} (hd : b.Calm (.act a))
    (h : b.Attendance watcher (b.watches watcher)) :
    (b.after (.act a)).Attendance watcher ((b.after (.act a)).watches watcher) := by
  have hlog : (b.after (.act a)).log = b.log ++ (b.perform (.act a)).reported.toList := rfl
  have hwatches : (b.after (.act a)).watches watcher =
      (b.watches watcher).map (·.hears [] (b.after (.act a)).log.length) := rfl
  rw [hwatches]
  cases hr : (b.perform (.act a)).reported with
  | none =>
    rw [hr, Option.toList_none, List.append_nil] at hlog
    have hsilent := ObservableList.silent_of_quiet b.world
      ((ObservableList.perform_reported b.list b.world a).symm.trans hr)
    exact h.idle (congrArg (List.lookup watcher) hsilent.feeds)
      (Nat.le_of_eq hsilent.nextFeed.symm) hlog
  | some c =>
    rw [hr, Option.toList_some] at hlog
    have hdelivered := ObservableList.delivered_of_calm b.world hd
      ((ObservableList.perform_reported b.list b.world a).symm.trans hr)
    have hfeed : (b.after (.act a)).list.feed? watcher =
        (b.list.feed? watcher).map (·.send c) :=
      (congrArg (List.lookup watcher) hdelivered.feeds).trans
        (lookup_mapValues b.list.feeds (fun _ f => f.send c) watcher)
    rw [hlog]
    generalize b.watches watcher = k at h
    cases h with
    | nobody hnone => exact .nobody (by rw [hfeed, hnone, Option.map_none])
    | @present k f hgiven hsome hkeeps =>
      refine .present (f := f.send c) ?_ (by rw [hfeed, hsome, Option.map_some]) ?_
      · exact Nat.lt_of_lt_of_eq hgiven hdelivered.nextFeed.symm
      · rw [hlog]
        exact hkeeps.sent c

/-- A new watcher begins with the next report. -/
theorem attendance_watch (h : b.Attendance watcher (b.watches watcher)) :
    (b.after .watch).Attendance watcher ((b.after .watch).watches watcher) := by
  have hlog : (b.after .watch).log = b.log := List.append_nil _
  have hwatches : (b.after .watch).watches watcher =
      if watcher = b.list.nextFeed then some { began := (b.after .watch).log.length }
      else (b.watches watcher).map (·.hears [] (b.after .watch).log.length) := rfl
  have hfeed : (b.after .watch).list.feed? watcher =
      (b.list.feed? watcher).or (if watcher = b.list.nextFeed then some {} else none) :=
    b.list.feed?_watch watcher
  rw [hwatches]
  by_cases hnew : watcher = b.list.nextFeed
  · rw [if_pos hnew]
    rw [if_pos hnew] at hfeed
    generalize b.watches watcher = k at h
    cases h with
    | nobody hnone =>
      rw [hnone, Option.none_or] at hfeed
      exact .present (Nat.lt_of_le_of_lt (Nat.le_of_eq hnew) (Nat.lt_succ_self _)) hfeed
        (.start _)
    | present hgiven => exact absurd hnew (Nat.ne_of_lt hgiven)
  · rw [if_neg hnew]
    rw [if_neg hnew, Option.or_none] at hfeed
    exact h.idle hfeed (Nat.le_succ _) hlog

/-- What a watcher receives is no longer in its feed. -/
theorem after_receive {f : Feed α} (hfeed : b.list.feed? watcher = some f) (live : Bool) :
    (b.after (.receive watcher live)).list.feed? watcher = some (f.receive live).2 ∧
      (b.after (.receive watcher live)).watches watcher =
        (b.watches watcher).map (·.hears [(f.receive live).1] b.log.length) := by
  have hlog : (b.after (.receive watcher live)).log = b.log := List.append_nil _
  have hlist : (b.after (.receive watcher live)).list =
      b.list.setFeed watcher (f.receive live).2 := by
    rw [after, perform, hfeed]
  have hheard : b.hearing (.receive watcher live) watcher = [(f.receive live).1] := by
    rw [hearing, if_pos rfl, hfeed]
    rfl
  constructor
  · rw [hlist, ObservableList.feed?_setFeed, hfeed, Option.map_some, if_pos rfl]
  · rw [← hheard, ← hlog]
    rfl

/-- A watcher receives from its own feed. -/
theorem attendance_receive {other : Nat} {live : Bool}
    (h : b.Attendance watcher (b.watches watcher)) :
    (b.after (.receive other live)).Attendance watcher
      ((b.after (.receive other live)).watches watcher) := by
  have hlog : (b.after (.receive other live)).log = b.log := List.append_nil _
  have hwatches : (b.after (.receive other live)).watches watcher =
      (b.watches watcher).map
        (·.hears (b.hearing (.receive other live) watcher)
          (b.after (.receive other live)).log.length) := rfl
  have hlist : (b.after (.receive other live)).list = match b.list.feed? other with
      | none => b.list
      | some f => b.list.setFeed other (f.receive live).2 := rfl
  rw [hwatches]
  by_cases hother : watcher = other
  · subst hother
    rw [hearing, if_pos rfl, hlog]
    generalize b.watches watcher = k at h
    cases h with
    | nobody hnone =>
      rw [hnone] at hlist
      exact .nobody (by rw [hlist, hnone])
    | @present k f hgiven hsome hkeeps =>
      rw [hsome] at hlist ⊢
      exact .present (by rw [hlist]; exact hgiven) (after_receive hsome live).1
        (hlog ▸ hkeeps.got live)
  · rw [hearing, if_neg hother]
    cases hfeed : b.list.feed? other with
    | none =>
      rw [hfeed] at hlist
      exact h.idle (congrArg (·.feed? watcher) hlist)
        (Nat.le_of_eq (congrArg (·.nextFeed) hlist).symm) hlog
    | some f =>
      rw [hfeed] at hlist
      refine h.idle ?_ (by rw [hlist]; exact Nat.le_refl _) hlog
      simp only [hlist, ObservableList.feed?_setFeed, if_neg hother, Option.map_id']

/-- A watch that is over is forgotten, with its feed. -/
theorem attendance_unwatch {other : Nat} (h : b.Attendance watcher (b.watches watcher)) :
    (b.after (.unwatch other)).Attendance watcher
      ((b.after (.unwatch other)).watches watcher) := by
  have hwatches : (b.after (.unwatch other)).watches watcher =
      if watcher = other then none
      else (b.watches watcher).map (·.hears [] (b.after (.unwatch other)).log.length) := rfl
  rw [hwatches]
  by_cases hother : watcher = other
  · rw [if_pos hother, hother]
    exact .nobody (b.list.feed?_unwatch_self other)
  · rw [if_neg hother]
    exact h.idle (b.list.feed?_unwatch_of_ne hother) (Nat.le_refl _) (List.append_nil _)

/-! ## 5. All observers -/

/-- All this is kept by whatever is done, if no callback panics. -/
theorem sound_after (h : b.Sound) (hd : b.Calm d) : (b.after d).Sound := by
  refine ⟨(continues_after h.valid hd).valid, fun c hc => ?_,
    fun id => standing_after h.valid hd (h.standing id), fun watcher => ?_⟩
  · rcases List.mem_append.mp hc with hold | hnew
    · exact h.nonempty c hold
    · obtain ⟨a, -, hdelivered⟩ := delivered_of_reported hd (Option.mem_toList.mp hnew)
      exact hdelivered.nonempty
  · have hwatcher := h.attendance watcher
    cases d with
    | act a => exact attendance_act hd hwatcher
    | subscribe callback =>
      exact hwatcher.idle rfl (Nat.le_refl _) (List.append_nil _)
    | unsubscribe id => exact hwatcher.idle rfl (Nat.le_refl _) (List.append_nil _)
    | release s =>
      rcases s.release_cases b.list b.world with hlist | hlist
      · exact hwatcher.idle (congrArg (·.feed? watcher) hlist)
          (Nat.le_of_eq (congrArg (·.nextFeed) hlist).symm) (List.append_nil _)
      · exact hwatcher.idle (congrArg (·.feed? watcher) hlist)
          (Nat.le_of_eq (congrArg (·.nextFeed) hlist).symm) (List.append_nil _)
    | close => exact hwatcher.idle rfl (Nat.le_refl _) (List.append_nil _)
    | watch => exact attendance_watch hwatcher
    | receive other live => exact attendance_receive hwatcher
    | unwatch other => exact attendance_unwatch hwatcher
    | elsewhere world => exact hwatcher.idle rfl (Nat.le_refl _) (List.append_nil _)

theorem Reachable.sound (h : Reachable b) : b.Sound := by
  induction h with
  | start name source items world =>
    refine ⟨Registry.valid_new name source, fun _ => nofun, fun id => ?_, fun watcher => ?_⟩
    · exact .never List.not_mem_nil rfl
    · exact .nobody rfl
  | step h d hd ih => exact sound_after ih hd

omit [BEq α] in
/-- An identifier is in use just if its time has begun and has not ended. -/
theorem Standing.mem_iff {id : SubscriptionId} {t : Option Term} (h : b.Standing id t) :
    id ∈ b.list.registry.ids ↔ ∃ began, t = some { began } := by
  cases h with
  | never hid hr => exact ⟨fun hmem => absurd hmem hid, nofun⟩
  | @current began hid hbegan hr => exact ⟨fun _ => ⟨began, rfl⟩, fun _ => hid⟩
  | past hgiven hid hended hr => exact ⟨fun hmem => absurd hmem hid, nofun⟩

omit [BEq α] in
theorem Standing.received_eq {id : SubscriptionId} {t : Option Term} (h : b.Standing id t) :
    b.received id = (t.map (·.part b.log)).getD [] := by
  cases h with
  | never hid hr => exact hr
  | current hid hbegan hr =>
    rw [hr, Option.map_some, Option.getD_some, Term.part, Option.getD_none, List.take_length]
  | past hgiven hid hended hr => exact hr

/-! ## 6. Catching up -/

theorem receiving_zero (b : Broadcast σ α) (watcher : Nat) (live : Bool) :
    b.receiving watcher live 0 = b := rfl

theorem receiving_succ (b : Broadcast σ α) (watcher : Nat) (live : Bool) (times : Nat) :
    b.receiving watcher live (times + 1) =
      (b.after (.receive watcher live)).receiving watcher live times := rfl

/-- A watcher who receives as often as there is something to receive gets all that its feed has, and
leaves it empty. -/
theorem receiving_drain {f : Feed α} {k : Watch α} (hfeed : b.list.feed? watcher = some f)
    (hk : b.watches watcher = some k) (live : Bool) :
    (b.receiving watcher live (f.drain live).length).list.feed? watcher = some {} ∧
      ((b.receiving watcher live (f.drain live).length).watches watcher).map (·.heard) =
        some (k.heard ++ f.drain live) := by
  induction hn : (f.drain live).length generalizing b f k with
  | zero =>
    -- there is always something to receive, if only that nothing waits
    rw [f.drain_eq live] at hn
    cases hn
  | succ n ih =>
    obtain ⟨hfeed', hk'⟩ := after_receive hfeed live
    rw [hk, Option.map_some] at hk'
    have hdrain := f.drain_eq live
    rw [hdrain, List.length_cons, Nat.succ_inj] at hn
    rw [receiving_succ]
    by_cases hlast : (f.receive live).1.isLast = true
    · rw [if_pos hlast] at hn hdrain
      subst hn
      rw [List.length_nil, receiving_zero, hfeed', hk', hdrain, Feed.receive_of_isLast hlast]
      exact ⟨rfl, rfl⟩
    · rw [if_neg hlast] at hn hdrain
      obtain ⟨hempty, hall⟩ := ih hfeed' hk' hn
      refine ⟨hempty, hall.trans ?_⟩
      rw [hdrain, Watch.hears, List.append_assoc, List.singleton_append]

/-- A list without callbacks goes on without them, and so in calm. -/
theorem Reachable.afterAll_act (h : Reachable b) (hnobody : b.list.registry.entries = [])
    (as : List (Action α)) : Reachable (b.afterAll (as.map .act)) := by
  induction as generalizing b with
  | nil => exact h
  | cons a as ih =>
    obtain ⟨hcalm, hregistry⟩ := ObservableList.calm_of_nobody hnobody b.world a
    exact ih (h.step (.act a) hcalm) ((congrArg (·.entries) hregistry).trans hnobody)

/-- A watcher receives nothing by what is done to the contents. -/
theorem watches_afterAll_act {k : Watch α} (hk : b.watches watcher = some k)
    (as : List (Action α)) :
    ∃ peak, (b.afterAll (as.map .act)).watches watcher = some { k with peak } := by
  induction as generalizing b k with
  | nil => exact ⟨k.peak, hk⟩
  | cons a as ih =>
    have hstill : (b.after (.act a)).watches watcher =
        some (k.hears [] (b.after (.act a)).log.length) := congrArg (Option.map _) hk
    obtain ⟨peak, hpeak⟩ := ih hstill
    refine ⟨peak, hpeak.trans ?_⟩
    rw [Watch.hears, List.append_nil]

/-! ## 7. The main statement -/

/-- **Every observer gets the same log.**  Nothing in it is empty.  A call that reports is delivered
to the callbacks that were registered when it began, each once, and to the watchers; any other call
reaches nobody.  So what a callback was called with, in all, is the part of the log that falls into
the time for which it was registered.  A watcher follows the log from where it began: what it has
received tells of each report, the feed has what is unread, and what is lost between is just what
was waiting beyond the capacity.  If never more than that was waiting, then what was received and
what is unread are the log itself.  At any time the watcher can catch up: by receiving until nothing
waits it is told how many reports it has lost, if any, and then gets the last ones of the log, as
many as a feed holds.

The callbacks are called in the order in which they were registered.  Nobody should count on that:
it is a choice of the registry, and what anybody receives does not depend on it. -/
theorem observers_share_log (h : Reachable b) :
    (∀ c ∈ b.log, c.isEmpty = false) ∧ b.list.registry.ids.Nodup ∧
      (∀ a, b.list.Calm b.world a →
        ((b.list.perform b.world a).reported = none →
          (b.list.perform b.world a).Silent b.list b.world) ∧
        ∀ c, (b.list.perform b.world a).reported = some c →
          b.list.Delivered b.world a c (b.list.perform b.world a)) ∧
      (∀ id, (id ∈ b.list.registry.ids ↔ ∃ began, b.terms id = some { began }) ∧
        b.received id = ((b.terms id).map (·.part b.log)).getD []) ∧
      ∀ watcher k, b.watches watcher = some k → ∃ f, b.list.feed? watcher = some f ∧
        Follows (b.log.drop k.began) k.heard f ∧
        f.lost = k.waiting b.log.length - feedCapacity ∧
        (k.peak ≤ feedCapacity → (∀ count, .lagged count ∉ k.heard) ∧
          k.heard.filterMap (·.change?) ++ f.unread = b.log.drop k.began) ∧
        ∀ live, let owed := Received.owed (b.log.drop k.began) (k.waiting b.log.length) live
          let caught := b.receiving watcher live owed.length
          caught.list.feed? watcher = some {} ∧
            (caught.watches watcher).map (·.heard) = some (k.heard ++ owed) := by
  have hsound := h.sound
  refine ⟨hsound.nonempty, hsound.valid.nodup, fun a hcalm => ?_, fun id => ?_,
    fun watcher k hk => ?_⟩
  · have hreported := b.list.perform_reported b.world a
    exact ⟨fun hnone => ObservableList.silent_of_quiet b.world (hreported.symm.trans hnone),
      fun c hc => ObservableList.delivered_of_calm b.world hcalm (hreported.symm.trans hc)⟩
  · have hstanding := hsound.standing id
    exact ⟨hstanding.mem_iff, hstanding.received_eq⟩
  · have hattendance := hsound.attendance watcher
    rw [hk] at hattendance
    cases hattendance with
    | @present _ f hgiven hfeed hkeeps =>
      refine ⟨f, hfeed, hkeeps.follows, ?_, fun hpeak => ?_, fun live => ?_⟩
      · rw [hkeeps.follows.lost_eq, List.length_drop, Watch.waiting]
      · obtain ⟨hlost, hnone⟩ := hkeeps.intime hpeak
        exact ⟨hnone, hkeeps.follows.changes_eq hlost hnone⟩
      · have howed : f.drain live =
            Received.owed (b.log.drop k.began) (k.waiting b.log.length) live := by
          rw [hkeeps.follows.drain_eq, List.length_drop, Watch.waiting]
        rw [← howed]
        exact receiving_drain hfeed hk live

omit [BEq α] in
/-- In the middle of the first report a callback gives up its neighbour and registers another one;
in the middle of the second report it closes the list.  A watcher goes on all the while.  It
receives the first report; after 33 more it is told that two are lost, and gets the last ones. -/
theorem observers_share_log_reentrant :
    let quiet : Callback Unit Nat := fun _ _ _ => .done
    let meddling : Callback Unit Nat := fun _ c _ =>
      if c.removed = [] then .unsubscribe ⟨0, 1⟩ fun _ => .subscribe quiet fun _ => .done
      else .close .done
    let start : Broadcast Unit Nat := { list := .ofItems "numbers" 0 [1], world := () }
    let opened := ((start.after (.subscribe meddling)).after (.subscribe quiet)).after .watch
    let told := opened.after (.act (.mutate (.push 2)))
    let last := told.after (.act (.mutate (.remove 1)))
    let pushes : List (Action Nat) := (List.range 33).map fun i => .mutate (.push i)
    let behind := (last.after (.receive 0 true)).afterAll (pushes.map .act)
    Reachable last ∧ last.log = [⟨[], [2]⟩, ⟨[1], []⟩] ∧
      last.received ⟨0, 1⟩ = [⟨[], [2]⟩] ∧ last.received ⟨0, 2⟩ = [⟨[1], []⟩] ∧
      last.list.registry.ids = [] ∧
      last.watches 0 = some { began := 0, peak := 2 } ∧
      (∃ f, last.list.feed? 0 = some f ∧ f.unread = last.log) ∧
      Reachable behind ∧
      ((behind.receiving 0 true 34).watches 0).map (·.heard) =
        some (.change ⟨[], [2]⟩ :: .lagged 2 ::
          ((List.range' 1 32).map fun i => .change ⟨[], [i]⟩) ++ [.empty]) := by
  intro quiet meddling start opened told last pushes behind
  have hopened : Reachable opened :=
    .step (.step (.step (.start "numbers" 0 [1] ()) (.subscribe meddling) trivial)
      (.subscribe quiet) trivial) .watch trivial
  have hpush : (opened.list.perform () (.mutate (.push 2))).answer = .ok .done := rfl
  have htold : Reachable told :=
    hopened.step (.act (.mutate (.push 2))) (ObservableList.Calm.of_answer hpush)
  have hremove : (told.list.perform () (.mutate (.remove 1))).answer = .ok (.found true) := rfl
  have hlast : Reachable last :=
    htold.step (.act (.mutate (.remove 1))) (ObservableList.Calm.of_answer hremove)
  obtain ⟨-, -, -, hcallbacks, hwatchers⟩ := observers_share_log hlast
  have hwatch : last.watches 0 = some ⟨0, [], 2⟩ := rfl
  obtain ⟨f, hf, -, -, hintime, -⟩ := hwatchers 0 _ hwatch
  have hpeak : 2 ≤ feedCapacity := by decide
  have hlog : last.log = [⟨[], [2]⟩, ⟨[1], []⟩] := rfl
  have hgone : last.terms ⟨0, 1⟩ = some ⟨0, some 1⟩ := by decide +zetaReduce
  have hcame : last.terms ⟨0, 2⟩ = some ⟨1, some 2⟩ := by decide +zetaReduce
  have hbehind : Reachable behind :=
    (hlast.step (.receive 0 true) trivial).afterAll_act rfl pushes
  obtain ⟨-, -, -, -, hwatchers⟩ := observers_share_log hbehind
  obtain ⟨_, hfirst⟩ : ∃ peak, (last.after (.receive 0 true)).watches 0 =
      some ⟨0, [.change ⟨[], [2]⟩], peak⟩ := ⟨_, rfl⟩
  obtain ⟨peak, hslow⟩ : ∃ peak, behind.watches 0 = some ⟨0, [.change ⟨[], [2]⟩], peak⟩ :=
    watches_afterAll_act hfirst pushes
  obtain ⟨_, -, -, -, -, hcatch⟩ := hwatchers 0 _ hslow
  have hmore : behind.log = ⟨[], [2]⟩ :: ⟨[1], []⟩ :: (List.range 33).map fun i => ⟨[], [i]⟩ := by
    decide +kernel +zetaReduce
  refine ⟨hlast, hlog, (hcallbacks ⟨0, 1⟩).2.trans ?_, (hcallbacks ⟨0, 2⟩).2.trans ?_, rfl, hwatch,
    ⟨f, hf, (hintime hpeak).2⟩, hbehind, ?_⟩
  · rw [hgone, hlog]
    rfl
  · rw [hcame, hlog]
    rfl
  · have hcaught := (hcatch true).2
    rw [hmore] at hcaught
    exact hcaught

end Broadcast

end ChangeAudit
