/-
# The history of a registry

Whoever works on a registry makes one of four calls: he registers a callback and gets an identifier,
he is refused, he tries to give an identifier up and is told whether it was in use, or he closes the
registry (`RegistryCall`).  The calls so far are its history, and the identifiers in use can be read
off it (`inUse`).

An identifier is in use just if it was given out and since then nobody has given it up successfully
or closed the registry (`mem_inUse_iff`).  What callers are told is true (`Truthful`): who tries to
give an identifier up is told that it was in use just if it was.  As no identifier is given out
twice, only one caller is ever told so (`Truthful.length_filter_gaveUp_le`).

A registry is in step with the calls that were made to it (`Registry.Follows`).
-/
import Mathlib.Data.List.Induction
import ChangeAudit.Observer.Registry

namespace ChangeAudit

/-! ## 1. Calls and histories -/

/-- A call that works on a registry, and what the caller was told. -/
inductive RegistryCall where
  /-- A callback was registered under this identifier. -/
  | registered (id : SubscriptionId)
  /-- A callback was refused. -/
  | refused
  /-- Somebody tried to give the identifier up: the owner of this number, or somebody who knew the
  identifier and went to the list.  He was told whether it was in use. -/
  | givenUp (id : SubscriptionId) (owner : Option Nat) (was : Bool)
  | closed
  deriving DecidableEq

namespace RegistryCall

/-- The identifiers in use after a call. -/
def apply (ids : List SubscriptionId) : RegistryCall → List SubscriptionId
  | .registered id => ids ++ [id]
  | .refused => ids
  | .givenUp id _ was => if was then ids.filter (· ≠ id) else ids
  | .closed => []

/-- Whether the caller was told that he has given the identifier up. -/
def gaveUp (id : SubscriptionId) : RegistryCall → Bool
  | .givenUp other _ was => other = id && was
  | .registered _ | .refused | .closed => false

section

variable {ids : List SubscriptionId} {id other : SubscriptionId} {owner : Option Nat} {was : Bool}

theorem mem_of_mem_givenUp (h : id ∈ (givenUp other owner was).apply ids) : id ∈ ids := by
  cases was with
  | false => exact h
  | true => exact (List.mem_filter.mp h).1

/-- Who has tried to give an identifier up finds it out of use. -/
theorem not_mem_givenUp (hwas : was = true ↔ id ∈ ids) : id ∉ (givenUp id owner was).apply ids := by
  cases was with
  | false => simpa [apply] using hwas
  | true => simp [apply]

end

theorem gaveUp_iff {id : SubscriptionId} {call : RegistryCall} :
    call.gaveUp id = true ↔ ∃ owner, call = .givenUp id owner true := by
  cases call <;> simp [gaveUp]

end RegistryCall

/-- The identifiers in use after these calls. -/
def inUse (calls : List RegistryCall) : List SubscriptionId := calls.foldl RegistryCall.apply []

@[simp]
theorem inUse_nil : inUse [] = [] := rfl

@[simp]
theorem inUse_concat (calls : List RegistryCall) (call : RegistryCall) :
    inUse (calls ++ [call]) = call.apply (inUse calls) := by
  simp [inUse]

/-- The identifier was given out, and since then the registry was not closed and nobody has given
the identifier up. -/
def Current (id : SubscriptionId) (calls : List RegistryCall) : Prop :=
  ∃ before after, calls = before ++ .registered id :: after ∧ .closed ∉ after ∧
    ∀ owner, .givenUp id owner true ∉ after

/-- A call in a history is the last one, or there is a last one after it. -/
theorem concat_eq_append_cons {calls before after : List RegistryCall} {last call : RegistryCall}
    (h : calls ++ [last] = before ++ call :: after) :
    (calls = before ∧ last = call ∧ after = []) ∨
      ∃ rest, after = rest ++ [last] ∧ calls = before ++ call :: rest := by
  rcases List.eq_nil_or_concat after with rfl | ⟨rest, last', rfl⟩
  · obtain ⟨hcalls, hlast⟩ := List.append_inj' h rfl
    exact Or.inl ⟨hcalls, List.singleton_inj.mp hlast, rfl⟩
  · rw [List.concat_eq_append, ← List.cons_append, ← List.append_assoc] at h
    obtain ⟨hcalls, hlast⟩ := List.append_inj' h rfl
    exact Or.inr ⟨rest, by rw [List.concat_eq_append, hlast], hcalls⟩

namespace Current

variable {id : SubscriptionId} {calls : List RegistryCall} {call : RegistryCall}

/-- An identifier stays current over a call that does not end it. -/
theorem concat (h : Current id calls) (hclosed : call ≠ .closed)
    (hgiven : ∀ owner, call ≠ .givenUp id owner true) : Current id (calls ++ [call]) := by
  obtain ⟨before, after, rfl, hopen, hkept⟩ := h
  refine ⟨before, after ++ [call], by simp, ?_, fun owner => ?_⟩
  · simp [hopen, hclosed.symm]
  · simp [hkept owner, (hgiven owner).symm]

/-- What is current after a call was so before, or was given out by it. -/
theorem of_concat (h : Current id (calls ++ [call])) :
    call = .registered id ∨
      Current id calls ∧ call ≠ .closed ∧ ∀ owner, call ≠ .givenUp id owner true := by
  obtain ⟨before, after, heq, hopen, hkept⟩ := h
  rcases concat_eq_append_cons heq with ⟨-, hlast, -⟩ | ⟨rest, rfl, rfl⟩
  · exact Or.inl hlast
  · simp only [List.mem_append, List.mem_singleton, not_or] at hopen hkept
    exact Or.inr ⟨⟨before, rest, rfl, hopen.1, fun owner => (hkept owner).1⟩,
      fun h => hopen.2 h.symm, fun owner h => (hkept owner).2 h.symm⟩

/-- How one call changes what is current. -/
theorem concat_iff : Current id (calls ++ [call]) ↔
    call = .registered id ∨
      Current id calls ∧ call ≠ .closed ∧ ∀ owner, call ≠ .givenUp id owner true := by
  refine ⟨of_concat, ?_⟩
  rintro (rfl | ⟨h, hclosed, hgiven⟩)
  · exact ⟨calls, [], rfl, List.not_mem_nil, fun _ => List.not_mem_nil⟩
  · exact h.concat hclosed hgiven

end Current

/-- **What is in use was given out, and not given up since.** -/
theorem mem_inUse_iff {id : SubscriptionId} {calls : List RegistryCall} :
    id ∈ inUse calls ↔ Current id calls := by
  induction calls using List.reverseRecOn with
  | nil => simp [Current]
  | append_singleton calls call ih =>
    rw [inUse_concat, Current.concat_iff, ← ih]
    cases call with
    | registered other =>
      simp only [RegistryCall.apply, List.mem_append, List.mem_singleton, ne_eq, reduceCtorEq,
        not_false_eq_true, implies_true, and_true, RegistryCall.registered.injEq]
      rw [or_comm, eq_comm]
    | refused => simp [RegistryCall.apply]
    | givenUp other owner was =>
      cases was with
      | false => simp [RegistryCall.apply]
      | true =>
        have hsymm : other = id ↔ id = other := eq_comm
        simp [RegistryCall.apply, hsymm]
    | closed => simp [RegistryCall.apply]

theorem registered_of_mem_inUse {id : SubscriptionId} {calls : List RegistryCall}
    (h : id ∈ inUse calls) : .registered id ∈ calls := by
  obtain ⟨before, after, rfl, -, -⟩ := mem_inUse_iff.mp h
  simp

/-! ## 2. What callers are told -/

/-- Every call has told the truth: a new identifier was new, and given out by an open registry; a
refusal came from a closed one; and what was given up was in use just if the caller was told so. -/
inductive Truthful : List RegistryCall → Prop where
  | start : Truthful []
  | registered {calls : List RegistryCall} (h : Truthful calls) {id : SubscriptionId}
      (hnew : .registered id ∉ calls) (hopen : .closed ∉ calls) :
      Truthful (calls ++ [.registered id])
  | refused {calls : List RegistryCall} (h : Truthful calls) (hclosed : .closed ∈ calls) :
      Truthful (calls ++ [.refused])
  | givenUp {calls : List RegistryCall} (h : Truthful calls) {id : SubscriptionId}
      (owner : Option Nat) {was : Bool} (hwas : was = true ↔ id ∈ inUse calls) :
      Truthful (calls ++ [.givenUp id owner was])
  | closed {calls : List RegistryCall} (h : Truthful calls) : Truthful (calls ++ [.closed])

namespace Truthful

variable {calls before after : List RegistryCall} {id : SubscriptionId}

/-- **Who tried to give an identifier up was told whether it was in use at that moment.** -/
theorem was_iff (h : Truthful calls) {owner : Option Nat} {was : Bool}
    (heq : calls = before ++ .givenUp id owner was :: after) :
    was = true ↔ Current id before := by
  induction h generalizing after with
  | start => simp at heq
  | givenUp h owner' hwas ih =>
    rcases concat_eq_append_cons heq with ⟨rfl, hlast, -⟩ | ⟨rest, -, hcalls⟩
    · cases hlast
      rw [hwas, mem_inUse_iff]
    · exact ih hcalls
  | registered h hnew hopen ih | refused h hclosed ih | closed h ih =>
    rcases concat_eq_append_cons heq with ⟨-, hlast, -⟩ | ⟨rest, -, hcalls⟩
    · cases hlast
    · exact ih hcalls

/-- An identifier that somebody has given up is out of use for good. -/
theorem not_mem_inUse_of_gaveUp (h : Truthful calls) {owner : Option Nat}
    (hgave : .givenUp id owner true ∈ calls) : id ∉ inUse calls ∧ .registered id ∈ calls := by
  induction h with
  | start => cases hgave
  | @registered calls h other hnew hopen ih =>
    obtain ⟨hnot, hregistered⟩ := ih (by simpa using hgave)
    have hne : id ≠ other := by
      rintro rfl
      exact hnew hregistered
    simp [RegistryCall.apply, hnot, hregistered, hne]
  | refused h hclosed ih =>
    obtain ⟨hnot, hregistered⟩ := ih (by simpa using hgave)
    simp [RegistryCall.apply, hnot, hregistered]
  | @givenUp calls h other owner' was hwas ih =>
    rcases List.mem_append.mp hgave with hearlier | hlast
    · obtain ⟨hnot, hregistered⟩ := ih hearlier
      cases was <;> simp [RegistryCall.apply, hnot, hregistered]
    · cases List.mem_singleton.mp hlast
      have hregistered := registered_of_mem_inUse (hwas.mp rfl)
      simp [RegistryCall.apply, hregistered]
  | closed h ih =>
    obtain ⟨-, hregistered⟩ := ih (by simpa using hgave)
    simp [RegistryCall.apply, hregistered]

/-- **At most one caller is ever told that he has given an identifier up.** -/
theorem length_filter_gaveUp_le (h : Truthful calls) (id : SubscriptionId) :
    (calls.filter (·.gaveUp id)).length ≤ 1 := by
  induction h with
  | start => exact Nat.zero_le 1
  | @givenUp calls h other owner was hwas ih =>
    cases hgave : (RegistryCall.givenUp other owner was).gaveUp id with
    | false => simpa [hgave] using ih
    | true =>
      -- it was in use, so nobody was told so before
      obtain ⟨owner', hcall⟩ := RegistryCall.gaveUp_iff.mp hgave
      cases hcall
      have hnone : calls.filter (·.gaveUp id) = [] := by
        rw [List.filter_eq_nil_iff]
        intro call hmem hcall
        obtain ⟨owner'', rfl⟩ := RegistryCall.gaveUp_iff.mp hcall
        exact (h.not_mem_inUse_of_gaveUp hmem).1 (hwas.mp rfl)
      simp [hnone, hgave]
  | registered h hnew hopen ih | refused h hclosed ih | closed h ih =>
    simpa [RegistryCall.gaveUp] using ih

/-- **What was given out and is not in use was given up, or the registry was closed.** -/
theorem current_or_ended (h : Truthful calls) (hregistered : .registered id ∈ calls) :
    id ∈ inUse calls ∨ .closed ∈ calls ∨ ∃ owner, .givenUp id owner true ∈ calls := by
  obtain ⟨before, after, rfl⟩ := List.append_of_mem hregistered
  by_cases hclosed : RegistryCall.closed ∈ after
  · exact Or.inr (Or.inl (by simp [hclosed]))
  · by_cases hgiven : ∃ owner, RegistryCall.givenUp id owner true ∈ after
    · obtain ⟨owner, hgiven⟩ := hgiven
      exact Or.inr (Or.inr ⟨owner, by simp [hgiven]⟩)
    · exact Or.inl (mem_inUse_iff.mpr ⟨before, after, rfl, hclosed, not_exists.mp hgiven⟩)

end Truthful

/-! ## 3. Registries and their histories -/

namespace Registry

variable {κ : Type} {r r' : Registry κ} {calls : List RegistryCall} {id : SubscriptionId}

theorem subscribe_eq_none_iff (callback : κ) : r.subscribe callback = none ↔ r.isClosed = true := by
  simp [subscribe]

theorem listName_of_subscribe {callback : κ} (hs : r.subscribe callback = some (r', id)) :
    r'.listName = r.listName := by
  unfold subscribe at hs
  split at hs
  · cases hs
  · cases hs
    rfl

/-- Nothing comes of giving up what is not in use. -/
theorem unsubscribe_of_not_mem (hid : id ∉ r.ids) : r.unsubscribe id = (r, false) := by
  have hentries : r.entries.filter (·.1 ≠ id) = r.entries := by
    refine List.filter_eq_self.mpr fun entry hentry => ?_
    have hne : entry.1 ≠ id := by
      rintro rfl
      exact hid (List.mem_map_of_mem hentry)
    simpa using hne
  simp only [unsubscribe, hentries, List.contains_eq_mem, hid, decide_false]

/-- The registry is what these calls have made of a new one. -/
structure Follows (r : Registry κ) (calls : List RegistryCall) : Prop where
  valid : r.Valid
  ids : r.ids = inUse calls
  closed : r.isClosed = true ↔ .closed ∈ calls
  given : ∀ id, .registered id ∈ calls → id.serial < r.next
  truthful : Truthful calls

theorem Follows.start (listName : String) (source : Nat) :
    ({ listName, source } : Registry κ).Follows [] :=
  ⟨valid_new listName source, rfl, by simp, by simp, .start⟩

/-- A registry that registers a callback was open, and gives a new identifier. -/
theorem Follows.registered (h : r.Follows calls) {callback : κ}
    (hs : r.subscribe callback = some (r', id)) :
    r'.Follows (calls ++ [.registered id]) ∧ .registered id ∉ calls ∧
      r'.entries = r.entries ++ [(id, callback)] := by
  have hvalid := h.valid.subscribe hs
  unfold subscribe at hs
  split at hs
  · cases hs
  · rename_i hopen
    cases hs
    have hnew : .registered r.fresh ∉ calls := fun hmem => Nat.lt_irrefl _ (h.given _ hmem)
    refine ⟨⟨hvalid, ?_, ?_, ?_, h.truthful.registered hnew fun hc => hopen (h.closed.mpr hc)⟩,
      hnew, rfl⟩
    · simp [Registry.ids, ← h.ids, RegistryCall.apply]
    · simpa using h.closed
    · intro id hid
      rcases List.mem_append.mp hid with hold | hlast
      · exact Nat.lt_succ_of_lt (h.given id hold)
      · cases List.mem_singleton.mp hlast
        exact Nat.lt_succ_self _

theorem Follows.refused (h : r.Follows calls) {callback : κ} (hs : r.subscribe callback = none) :
    r.Follows (calls ++ [.refused]) := by
  unfold subscribe at hs
  split at hs
  · rename_i hclosed
    have hc := h.closed.mp hclosed
    exact ⟨h.valid, by simp [RegistryCall.apply, h.ids], by simp [hclosed, hc],
      by simpa using h.given, h.truthful.refused hc⟩
  · cases hs

theorem Follows.givenUp (h : r.Follows calls) (id : SubscriptionId) (owner : Option Nat) :
    (r.unsubscribe id).1.Follows (calls ++ [.givenUp id owner (r.unsubscribe id).2]) := by
  have hwas : (r.unsubscribe id).2 = true ↔ id ∈ inUse calls := by simp [unsubscribe, h.ids]
  refine ⟨h.valid.unsubscribe id, ?_, by simpa [unsubscribe] using h.closed,
    by simpa [unsubscribe] using h.given, h.truthful.givenUp owner hwas⟩
  have hids : (r.unsubscribe id).1.ids = r.ids.filter (· ≠ id) := by
    simp only [unsubscribe, Registry.ids, List.filter_map]
    rfl
  rw [inUse_concat, hids, h.ids, RegistryCall.apply]
  split
  · rfl
  · rename_i hnot
    refine List.filter_eq_self.mpr fun other hother => ?_
    have hne : other ≠ id := by
      rintro rfl
      exact hnot (hwas.mpr hother)
    simpa using hne

theorem Follows.close (h : r.Follows calls) : r.close.1.Follows (calls ++ [.closed]) :=
  ⟨.close, by simp [Registry.close, Registry.ids, RegistryCall.apply], by simp [Registry.close],
    by simpa [Registry.close] using h.given, h.truthful.closed⟩

end Registry

end ChangeAudit
