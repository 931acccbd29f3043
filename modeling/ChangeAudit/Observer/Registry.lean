/-
# The observers of a list

A registry holds the callbacks that are told of a list's changes, each under an identifier of its
own.  Identifiers name the list and count up, so an identifier is never given twice, not even by
two lists, and never again after it was given up.

A registry can be closed.  That drops all callbacks and refuses new ones from then on.
-/

namespace ChangeAudit

/-- The identifier of a registered callback. -/
structure SubscriptionId where
  /-- The number of the list that gave it. -/
  source : Nat
  serial : Nat
  deriving DecidableEq, Inhabited

/-- The callbacks of one list.  They are kept in the order in which they came, and called in it.
That order is settled here for definiteness only: what an observer may count on is that everybody is
called once, not who comes first. -/
structure Registry (κ : Type) where
  /-- The name of the list. -/
  listName : String
  /-- The number of the list. -/
  source : Nat
  /-- The next serial number. -/
  next : Nat := 0
  isClosed : Bool := false
  entries : List (SubscriptionId × κ) := []

namespace Registry

variable {κ : Type}

/-- The identifiers in use. -/
def ids (r : Registry κ) : List SubscriptionId := r.entries.map (·.1)

/-- How many callbacks are registered. -/
def count (r : Registry κ) : Nat := r.entries.length

/-- The identifier that the next callback gets. -/
def fresh (r : Registry κ) : SubscriptionId := { source := r.source, serial := r.next }

/-- Registers a callback; `none` if the registry is closed. -/
def subscribe (r : Registry κ) (callback : κ) : Option (Registry κ × SubscriptionId) :=
  if r.isClosed then none
  else some ({ r with next := r.next + 1, entries := r.entries ++ [(r.fresh, callback)] }, r.fresh)

/-- Gives up an identifier; whether it was in use. -/
def unsubscribe (r : Registry κ) (id : SubscriptionId) : Registry κ × Bool :=
  ({ r with entries := r.entries.filter (·.1 ≠ id) }, r.ids.contains id)

/-- Drops all callbacks for good; how many there were. -/
def close (r : Registry κ) : Registry κ × Nat :=
  ({ r with isClosed := true, entries := [] }, r.count)

/-- What holds of every registry: identifiers in use were given by it, none is in use twice, and
a closed registry is empty. -/
structure Valid (r : Registry κ) : Prop where
  given : ∀ id ∈ r.ids, id.source = r.source ∧ id.serial < r.next
  nodup : r.ids.Nodup
  closed : r.isClosed = true → r.entries = []

theorem fresh_not_mem {r : Registry κ} (h : r.Valid) : r.fresh ∉ r.ids := fun hmem =>
  Nat.lt_irrefl _ (h.given _ hmem).2

theorem valid_new (listName : String) (source : Nat) :
    ({ listName, source } : Registry κ).Valid :=
  ⟨by simp [ids], by simp [ids], fun _ => rfl⟩

theorem Valid.subscribe {r r' : Registry κ} {callback : κ} {id : SubscriptionId} (h : r.Valid)
    (hs : r.subscribe callback = some (r', id)) : r'.Valid := by
  unfold Registry.subscribe at hs
  split at hs
  · simp at hs
  · rename_i hopen
    simp only [Option.some.injEq, Prod.mk.injEq] at hs
    obtain ⟨rfl, rfl⟩ := hs
    refine ⟨?_, ?_, fun hc => absurd hc hopen⟩
    · intro id hid
      simp only [ids, List.map_append, List.map_cons, List.map_nil, List.mem_append,
        List.mem_singleton] at hid
      rcases hid with hid | rfl
      · have := h.given id hid
        exact ⟨this.1, Nat.lt_succ_of_lt this.2⟩
      · exact ⟨rfl, Nat.lt_succ_self _⟩
    · simp only [ids, List.map_append, List.map_cons, List.map_nil]
      refine List.nodup_append.mpr ⟨h.nodup, by simp, ?_⟩
      rintro a ha b hb rfl
      simp only [List.mem_singleton] at hb
      exact fresh_not_mem h (hb ▸ ha)

theorem Valid.unsubscribe {r : Registry κ} (h : r.Valid) (id : SubscriptionId) :
    (r.unsubscribe id).1.Valid := by
  have hsub : (r.unsubscribe id).1.ids.Sublist r.ids := (List.filter_sublist).map _
  refine ⟨fun i hi => h.given i (hsub.subset hi), h.nodup.sublist hsub, fun hc => ?_⟩
  have := h.closed hc
  simp [Registry.unsubscribe, this]

theorem Valid.close {r : Registry κ} : r.close.1.Valid :=
  ⟨by simp [Registry.close, ids], by simp [Registry.close, ids], fun _ => rfl⟩

/-- An identifier that was given up is no longer in use. -/
theorem not_mem_ids_unsubscribe (r : Registry κ) (id : SubscriptionId) :
    id ∉ (r.unsubscribe id).1.ids := by
  simp [Registry.unsubscribe, ids]

end Registry

end ChangeAudit
