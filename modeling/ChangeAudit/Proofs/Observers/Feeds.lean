/-
# What a watcher gets to know

What a watcher receives is an account of the reports that were sent to it: each change is the next
report, and a notice of so many missed ones stands for just so many (`Account`).

A feed has the rest.  At any moment the reports sent to a watcher are those that it has an account
of, then those that were pushed out since, then those that are unread (`Follows`).  The feed counts
the ones pushed out, and pushes out no more than it must: while the watcher has yet to be told of
a loss, the feed is full.

A watcher whose feed was never too small for what was unread loses nothing.  So its account is the
plain list of the reports.  Any other is told how many it has missed, and then gets the last ones,
as many as the feed has room for (`Received.owed`, `Follows.drain_eq`).
-/
import ChangeAudit.ObservableList

namespace ChangeAudit

variable {α : Type}

/-! ## 1. Accounts -/

/-- The change that was received, if it was one. -/
def Received.change? : Received α → Option (Change α)
  | .change c => some c
  | .empty | .closed | .lagged _ => none

/-- How many reports are accounted for. -/
def Received.covered : Received α → Nat
  | .change _ => 1
  | .empty | .closed => 0
  | .lagged count => count

/-- How many reports are accounted for by all that was received. -/
def Received.coverage (heard : List (Received α)) : Nat :=
  heard.foldl (fun count r => count + r.covered) 0

theorem Received.coverage_concat (heard : List (Received α)) (r : Received α) :
    coverage (heard ++ [r]) = coverage heard + r.covered :=
  List.foldl_append

/-- What was received tells of the reports `told`, in order: a change tells of itself, and a notice
of missed ones tells how many they were. -/
inductive Account : List (Received α) → List (Change α) → Prop where
  | start : Account [] []
  | change {heard : List (Received α)} {told : List (Change α)} (h : Account heard told)
      (c : Change α) : Account (heard ++ [.change c]) (told ++ [c])
  | lagged {heard : List (Received α)} {told : List (Change α)} (h : Account heard told)
      (missed : List (Change α)) (hm : missed ≠ []) :
      Account (heard ++ [.lagged missed.length]) (told ++ missed)
  | last {heard : List (Received α)} {told : List (Change α)} (h : Account heard told)
      (r : Received α) (hr : r.isLast = true) : Account (heard ++ [r]) told

namespace Account

variable {heard : List (Received α)} {told : List (Change α)}

theorem length_eq (h : Account heard told) : told.length = Received.coverage heard := by
  induction h with
  | start => rfl
  | change h c ih => rw [List.length_append, ih, Received.coverage_concat]; rfl
  | lagged h missed hm ih => rw [List.length_append, ih, Received.coverage_concat]; rfl
  | last h r hr ih =>
    have hzero : r.covered = 0 := by cases r <;> first | rfl | cases hr
    rw [ih, Received.coverage_concat, hzero, Nat.add_zero]

/-- Where nothing was missed, the changes received are the reports. -/
theorem changes_eq (h : Account heard told) (hnone : ∀ count, .lagged count ∉ heard) :
    heard.filterMap (·.change?) = told := by
  induction h with
  | start => rfl
  | change h c ih =>
    rw [List.filterMap_append, ih fun n hn => hnone n (List.mem_append_left _ hn)]
    rfl
  | lagged h missed hm =>
    exact absurd (List.mem_append_right _ (List.mem_singleton_self _)) (hnone missed.length)
  | last h r hr ih =>
    have hnot : r.change? = none := by cases r <;> first | rfl | cases hr
    rw [List.filterMap_append, ih fun n hn => hnone n (List.mem_append_left _ hn),
      List.filterMap_cons_none hnot, List.filterMap_nil, List.append_nil]

end Account

/-! ## 2. Feeds -/

/-- Where nothing was pushed out, nothing is said to be missed. -/
theorem Feed.receive_ne_lagged {f : Feed α} (hlost : f.lost = 0) (live : Bool) (count : Nat) :
    (f.receive live).1 ≠ .lagged count := by
  rw [receive, if_pos hlost]
  cases f.unread with
  | nil => cases live <;> exact nofun
  | cons c rest => exact nofun

/-- Whoever is told that nothing waits has received everything. -/
theorem Feed.receive_of_isLast {f : Feed α} {live : Bool} (h : (f.receive live).1.isLast = true) :
    (f.receive live).2 = {} := by
  obtain ⟨unread, lost⟩ := f
  rw [receive] at h ⊢
  by_cases hlost : lost = 0
  · subst hlost
    cases unread with
    | nil => rfl
    | cons c rest => cases h
  · rw [if_neg hlost] at h
    cases h

/-- What is to be received when `waiting` of the reports in `log` are: how many of them were missed,
if a feed has no room for all, then those that it has room for, and then that nothing waits. -/
def Received.owed (log : List (Change α)) (waiting : Nat) (live : Bool) : List (Received α) :=
  (if waiting ≤ feedCapacity then [] else [.lagged (waiting - feedCapacity)]) ++
    (log.drop (log.length - min waiting feedCapacity)).map .change ++ [Feed.atEnd live]

/-- Of the reports in `log` the watcher has `heard` so much; the rest is missed or unread. -/
structure Follows (log : List (Change α)) (heard : List (Received α)) (f : Feed α) : Prop where
  split : ∃ told missed, Account heard told ∧ missed.length = f.lost ∧
    log = told ++ missed ++ f.unread
  capacity : f.unread.length ≤ feedCapacity
  /-- Nothing is pushed out while there is room. -/
  full : f.lost ≠ 0 → f.unread.length = feedCapacity

namespace Follows

variable {log : List (Change α)} {heard : List (Received α)} {f : Feed α}

theorem start : Follows ([] : List (Change α)) [] {} :=
  ⟨⟨[], [], .start, rfl, rfl⟩, Nat.zero_le _, fun h => absurd rfl h⟩

/-- One more report is unread; if the feed was full, the oldest one is missed. -/
theorem send (h : Follows log heard f) (c : Change α) : Follows (log ++ [c]) heard (f.send c) := by
  obtain ⟨⟨told, missed, haccount, hmissed, hlog⟩, hcapacity, hfull⟩ := h
  refine ⟨?_, Feed.length_send_le hcapacity c, ?_⟩
  · rw [Feed.send]
    split
    · refine ⟨told, missed, haccount, hmissed, ?_⟩
      rw [hlog, List.append_assoc]
    · rename_i hroom
      cases hunread : f.unread with
      | nil =>
        rw [hunread] at hroom
        exact absurd (show 0 < feedCapacity by decide) hroom
      | cons oldest rest =>
        refine ⟨told, missed ++ [oldest], haccount, ?_, ?_⟩
        · rw [List.length_append, hmissed, List.length_singleton]
        · rw [hlog, hunread]
          simp only [List.append_assoc, List.cons_append, List.nil_append, List.drop_succ_cons,
            List.drop_zero]
  · rw [Feed.send]
    split
    · rename_i hroom
      intro hlost
      exact absurd (hfull hlost) (Nat.ne_of_lt hroom)
    · intro _
      simp only [List.length_drop, List.length_append, List.length_singleton]
      omega

/-- What is received next is the next thing to tell. -/
theorem receive (h : Follows log heard f) (live : Bool) :
    Follows log (heard ++ [(f.receive live).1]) (f.receive live).2 := by
  obtain ⟨⟨told, missed, haccount, hmissed, hlog⟩, hcapacity, hfull⟩ := h
  rw [Feed.receive]
  by_cases hlost : f.lost = 0
  · rw [if_pos hlost]
    have hnone : missed = [] := List.eq_nil_of_length_eq_zero (hmissed.trans hlost)
    subst hnone
    cases hunread : f.unread with
    | nil =>
      exact ⟨⟨told, [], haccount.last _ (Feed.atEnd_isLast live), hmissed, hlog⟩, hcapacity, hfull⟩
    | cons c rest =>
      rw [hunread] at hlog hcapacity
      refine ⟨⟨told ++ [c], [], haccount.change c, hmissed, ?_⟩, ?_, fun h => absurd hlost h⟩
      · rw [hlog]
        simp only [List.append_nil, List.append_assoc, List.cons_append, List.nil_append]
      · exact Nat.le_of_succ_le hcapacity
  · rw [if_neg hlost]
    have hsome : missed ≠ [] := fun hnil => hlost (by rw [← hmissed, hnil, List.length_nil])
    refine ⟨⟨told ++ missed, [], ?_, rfl, ?_⟩, hcapacity, fun h => absurd rfl h⟩
    · rw [← hmissed]
      exact haccount.lagged missed hsome
    · rw [hlog, List.append_nil]

/-- How many reports the watcher has no account of. -/
theorem unheard_eq (h : Follows log heard f) :
    log.length - Received.coverage heard = f.lost + f.unread.length := by
  obtain ⟨⟨told, missed, haccount, hmissed, hlog⟩, -, -⟩ := h
  rw [hlog, List.length_append, List.length_append, haccount.length_eq, hmissed]
  omega

/-- What was pushed out is what the feed has no room for, and no more. -/
theorem lost_eq (h : Follows log heard f) :
    f.lost = log.length - Received.coverage heard - feedCapacity := by
  have hunheard := h.unheard_eq
  have hcapacity := h.capacity
  by_cases hlost : f.lost = 0
  · omega
  · have hfull := h.full hlost
    omega

/-- The unread reports are the last ones, as many as there is room for. -/
theorem unread_eq (h : Follows log heard f) :
    f.unread =
      log.drop (log.length - min (log.length - Received.coverage heard) feedCapacity) := by
  have hunheard := h.unheard_eq
  have hcapacity := h.capacity
  have hlength : f.unread.length = min (log.length - Received.coverage heard) feedCapacity := by
    by_cases hlost : f.lost = 0
    · omega
    · have hfull := h.full hlost
      omega
  obtain ⟨⟨told, missed, -, -, hlog⟩, -, -⟩ := h
  rw [← hlength, hlog, List.length_append, Nat.add_sub_cancel]
  exact (List.drop_left' rfl).symm

/-- Receiving until nothing waits brings just what is owed. -/
theorem drain_eq (h : Follows log heard f) (live : Bool) :
    f.drain live = Received.owed log (log.length - Received.coverage heard) live := by
  have hlost := h.lost_eq
  rw [Feed.drain, Received.owed, ← h.unread_eq, ← hlost]
  simp only [hlost, Nat.sub_eq_zero_iff_le]

/-- Where nothing was missed, the changes received and the unread ones are all the reports. -/
theorem changes_eq (h : Follows log heard f) (hlost : f.lost = 0)
    (hnone : ∀ count, .lagged count ∉ heard) :
    heard.filterMap (·.change?) ++ f.unread = log := by
  obtain ⟨⟨told, missed, haccount, hmissed, hlog⟩, -, -⟩ := h
  have hnil : missed = [] := List.eq_nil_of_length_eq_zero (hmissed.trans hlost)
  rw [haccount.changes_eq hnone, hlog, hnil, List.append_nil]

end Follows

/-! ## 3. The feeds of a list -/

theorem lookup_mapValues (feeds : List (Nat × Feed α)) (g : Nat → Feed α → Feed α) (watcher : Nat) :
    (feeds.map fun (n, f) => (n, g n f)).lookup watcher = (feeds.lookup watcher).map (g watcher) := by
  induction feeds with
  | nil => rfl
  | cons entry rest ih =>
    obtain ⟨n, f⟩ := entry
    rw [List.map_cons, List.lookup_cons, List.lookup_cons]
    cases hn : watcher == n with
    | true => rw [beq_iff_eq.mp hn]; rfl
    | false => exact ih

namespace ObservableList

variable {σ : Type} (l : ObservableList σ α)

theorem feed?_setFeed (watcher other : Nat) (feed : Feed α) :
    (l.setFeed watcher feed).feed? other =
      (l.feed? other).map fun old => if other = watcher then feed else old :=
  lookup_mapValues l.feeds (fun n old => if n = watcher then feed else old) other

theorem feed?_watch (watcher : Nat) :
    l.watch.1.feed? watcher =
      (l.feed? watcher).or (if watcher = l.nextFeed then some {} else none) := by
  simp only [watch, feed?, List.lookup_append, List.lookup_cons, List.lookup_nil]
  by_cases hn : watcher = l.nextFeed
  · rw [if_pos hn, beq_iff_eq.mpr hn]
  · rw [if_neg hn, beq_eq_false_iff_ne.mpr hn]

theorem feed?_unwatch_self (watcher : Nat) : (l.unwatch watcher).feed? watcher = none := by
  refine List.lookup_eq_none_iff.mpr fun entry hentry => ?_
  have hne : entry.1 ≠ watcher := of_decide_eq_true (List.mem_filter.mp hentry).2
  exact bne_iff_ne.mpr hne.symm

theorem feed?_unwatch_of_ne {watcher other : Nat} (hne : other ≠ watcher) :
    (l.unwatch watcher).feed? other = l.feed? other := by
  simp only [unwatch, feed?]
  induction l.feeds with
  | nil => rfl
  | cons entry rest ih =>
    obtain ⟨n, f⟩ := entry
    by_cases hn : n = watcher
    · have hother : (other == n) = false := beq_false_of_ne (hn ▸ hne)
      rw [List.filter_cons_of_neg (by simp [hn]), ih, List.lookup_cons, hother]
    · rw [List.filter_cons_of_pos (by simp [hn]), List.lookup_cons, List.lookup_cons, ih]

end ObservableList

end ChangeAudit
