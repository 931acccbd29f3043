/-
# How a registry moves on

A callback can register others, give up any subscription and close the list, in any order and
while a report is being made.  Whatever comes of it, serial numbers are only given out and never
taken back: whoever is registered afterwards was registered before, or has a number that had not
been given yet (`Registry.MovesOn`).  So an identifier that was given up once stays given up
(`Registry.MovesOn.not_mem`).
-/
import ChangeAudit.Observer.Subscription
import ChangeAudit.Proofs.Observers.Reports

namespace ChangeAudit

/-! ## 1. Registries -/

namespace Registry

variable {κ : Type} {r r' r'' : Registry κ} {id : SubscriptionId}

/-- `r'` can have come of `r`. -/
structure MovesOn (r r' : Registry κ) : Prop where
  next : r.next ≤ r'.next
  known : ∀ id ∈ r'.ids, id ∈ r.ids ∨ r.next ≤ id.serial

theorem MovesOn.refl (r : Registry κ) : r.MovesOn r := ⟨Nat.le_refl _, fun _ => Or.inl⟩

theorem MovesOn.trans (h : r.MovesOn r') (h' : r'.MovesOn r'') : r.MovesOn r'' := by
  refine ⟨Nat.le_trans h.next h'.next, fun id hid => ?_⟩
  rcases h'.known id hid with hmem | hnew
  · exact h.known id hmem
  · exact Or.inr (Nat.le_trans h.next hnew)

/-- **What was given up stays given up.** -/
theorem MovesOn.not_mem (h : r.MovesOn r') (hgiven : id.serial < r.next) (hid : id ∉ r.ids) :
    id ∉ r'.ids := fun hmem =>
  (h.known id hmem).elim hid (Nat.not_le_of_lt hgiven)

/-- Who is registered now gets a number that was not given before. -/
theorem movesOn_subscribe {callback : κ} (hs : r.subscribe callback = some (r', id)) :
    r.MovesOn r' := by
  unfold subscribe at hs
  split at hs
  · cases hs
  · cases hs
    refine ⟨Nat.le_succ _, fun id hid => ?_⟩
    rw [ids, List.map_append, List.mem_append] at hid
    rcases hid with hold | hnew
    · exact Or.inl hold
    · rw [List.map_singleton, List.mem_singleton] at hnew
      exact Or.inr (Nat.le_of_eq (congrArg SubscriptionId.serial hnew).symm)

theorem movesOn_unsubscribe (r : Registry κ) (id : SubscriptionId) :
    r.MovesOn (r.unsubscribe id).1 := by
  have hsub : (r.unsubscribe id).1.ids ⊆ r.ids := (List.filter_sublist.map _).subset
  exact ⟨Nat.le_refl _, fun other hother => Or.inl (hsub hother)⟩

theorem movesOn_close (r : Registry κ) : r.MovesOn r.close.1 :=
  ⟨Nat.le_refl _, fun _ hid => nomatch hid⟩

end Registry

variable {σ α : Type}

/-! ## 2. Callbacks -/

namespace Scene

theorem movesOn_subscribe (s : Scene σ α) (callback : Callback σ α) :
    s.registry.MovesOn (s.subscribe callback).1.registry := by
  unfold subscribe
  split
  · exact .refl _
  · rename_i hs
    exact Registry.movesOn_subscribe hs

theorem movesOn_unsubscribe (s : Scene σ α) (id : SubscriptionId) :
    s.registry.MovesOn (s.unsubscribe id).1.registry := s.registry.movesOn_unsubscribe id

theorem movesOn_close (s : Scene σ α) : s.registry.MovesOn s.close.registry :=
  s.registry.movesOn_close

end Scene

/-- Whatever a callback does to the registry while it is called, the registry moves on. -/
theorem Script.movesOn_run (script : Script σ α) (s : Scene σ α) :
    s.registry.MovesOn (script.run s).1.registry := by
  induction script generalizing s with
  | done => exact .refl _
  | panic text => exact .refl _
  | read next ih => exact ih s.world s
  | write world next ih => exact ih { s with world }
  | log entries next ih => exact ih (s.note entries)
  | subscribe callback next _ ih => exact (s.movesOn_subscribe callback).trans (ih _ _)
  | unsubscribe id next ih => exact (s.movesOn_unsubscribe id).trans (ih _ _)
  | close next ih => exact s.movesOn_close.trans (ih _)

namespace ObservableList

/-- So it does over a whole report, however many callbacks are called. -/
theorem movesOn_playAll (c : Change α) (contents : List α)
    (entries : List (SubscriptionId × Callback σ α)) (s : Scene σ α) :
    s.registry.MovesOn (playAll c contents entries s).registry := by
  induction entries generalizing s with
  | nil => exact .refl _
  | cons entry rest ih =>
    rw [playAll, List.foldl_cons]
    exact ((entry.2 entry.1 c contents).movesOn_run s).trans (ih _)

/-! ## 3. Calls on a list -/

/-- The registry that a call leaves keeps its order, and has come of the one before. -/
structure Continues (l l' : ObservableList σ α) : Prop where
  valid : l'.registry.Valid
  movesOn : l.registry.MovesOn l'.registry

variable {l l' : ObservableList σ α}

theorem Continues.of_registry (h : l.registry.Valid) (hl : l'.registry = l.registry) :
    l.Continues l' :=
  ⟨hl ▸ h, hl ▸ .refl _⟩

/-- A call that reports lets the callbacks do as they like; any other leaves the registry alone. -/
theorem continues_perform [BEq α] {world : σ} {a : Action α} (h : l.registry.Valid)
    (hcalm : l.Calm world a) : l.Continues (l.perform world a).list := by
  refine ⟨valid_perform h world a, ?_⟩
  cases hr : (l.journal.step a).reported with
  | none =>
    rw [(silent_of_quiet world hr).registry]
    exact .refl _
  | some c =>
    rw [(delivered_of_calm world hcalm hr).registry]
    exact movesOn_playAll c _ l.registry.entries (l.opening world c)

theorem continues_subscribe (h : l.registry.Valid) (world : σ) (callback : Callback σ α) :
    l.Continues (l.subscribe world callback).1 :=
  ⟨(l.scene world).valid_subscribe callback h, (l.scene world).movesOn_subscribe callback⟩

theorem continues_unsubscribe (h : l.registry.Valid) (world : σ) (id : SubscriptionId) :
    l.Continues (l.unsubscribe world id).1 :=
  ⟨(l.scene world).valid_unsubscribe id h, (l.scene world).movesOn_unsubscribe id⟩

theorem continues_close (l : ObservableList σ α) (world : σ) : l.Continues (l.close world).1 :=
  ⟨(l.scene world).valid_close, (l.scene world).movesOn_close⟩

end ObservableList

/-- A subscription that is released gives up its identifier, or has done so before. -/
theorem Subscription.release_cases (s : Subscription) (l : ObservableList σ α) (world : σ) :
    (s.release (some l) world).list.getD l = l ∨
      (s.release (some l) world).list.getD l = (l.unsubscribe world s.id).1 := by
  rw [release]
  split
  · exact Or.inr rfl
  · exact Or.inl rfl

end ChangeAudit
