/-
# A list in use while a verifier observes it

A session follows a list, a verifier of it, and the rest of the world through any sequence of
actions on the list.  It also remembers which pending changes were lost with an abandoned batch.
Between the actions anything else may happen: other observers come and go, watchers receive, the
verifier is asked; only the contents of the list and the tracking of the verifier stay as they are
(`Session.Run`).

One action on the list is one step of its journal; the verifier is told of what the step reports,
and of nothing else (`Session.after_of_quiet`, `Session.after_of_reported`).
-/
import ChangeAudit.Proofs.Journal.Steps
import ChangeAudit.Proofs.Verifier.Delivery

namespace ChangeAudit

variable {τ α : Type}

/-! ## 1. Sessions -/

/-- A list, a verifier of it, the rest of the world, and the changes that were lost so far. -/
structure Session (τ α : Type) where
  list : ObservableList (Verifier α × τ) α
  verifier : Verifier α
  rest : τ
  lost : List (Change α) := []

namespace Session

/-- The effect of an action on the list. -/
def perform [BEq α] (t : Session τ α) (a : Action α) : Performed (Verifier α × τ) α :=
  t.list.perform (t.verifier, t.rest) a

/-- The session after an action on the list. -/
def after [BEq α] (t : Session τ α) (a : Action α) : Session τ α where
  list := (t.perform a).list
  verifier := (t.perform a).world.1
  rest := (t.perform a).world.2
  lost := t.lost ++ (t.list.journal.step a).lost.toList

/-- A verifier with these settings has just taken its snapshot of the list. -/
structure Attached (t : Session τ α) (config : Config) : Prop where
  verifier : t.verifier = .ofSnapshot config t.list.items
  valid : t.list.registry.Valid
  lost : t.lost = []

variable [BEq α] [Element α]

/-- A verifier takes its snapshot of a list and subscribes to it, whatever the state of the list;
the result is its subscription, or the refusal. -/
def attach (config : Config) (l : ObservableList (Verifier α × τ) α) (rest : τ) :
    Session τ α × Except CollectionError SubscriptionId :=
  let verifier := .ofSnapshot config l.items
  let (list, _, result) := l.subscribe (verifier, rest) (Verifier.callback Site.direct)
  ({ list, verifier, rest }, result)

/-- An action with the verifier registered under `id`: no selector panics, and of the callbacks
that are told of a report none but the verifier may panic or touch the verifier. -/
structure Allows (t : Session τ α) (id : SubscriptionId) (a : Action α) : Prop where
  registered : (id, Verifier.callback Site.direct) ∈ t.list.registry.entries
  selects : (t.list.journal.step a).answer ≠ .error .predicate
  undisturbed : ∀ c, (t.list.journal.step a).reported = some c →
    Undisturbed id c (t.list.journal.step a).journal.items t.list.registry.entries
      (t.list.opening (t.verifier, t.rest) c)

/-- What a session can come to. -/
inductive Run (id : SubscriptionId) (start : Session τ α) : Session τ α → Prop where
  | start : Run id start start
  | act {t : Session τ α} (h : Run id start t) (a : Action α) (ha : t.Allows id a) :
      Run id start (t.after a)
  /-- Something else happens, to the other observers or the rest of the world. -/
  | aside {t t' : Session τ α} (h : Run id start t)
      (hjournal : t'.list.journal = t.list.journal) (hvalid : t'.list.registry.Valid)
      (hverifier : t.verifier.LeftAlone t'.verifier) (hlost : t'.lost = t.lost) :
      Run id start t'

/-! ## 2. What an action does to the verifier -/

variable {t start : Session τ α} {id : SubscriptionId} {a : Action α} {c : Change α}
  {config : Config}

theorem attached_attach {l : ObservableList (Verifier α × τ) α} (h : l.registry.Valid)
    (config : Config) (rest : τ) : (attach config l rest).1.Attached config :=
  ⟨rfl, (l.scene _).valid_subscribe _ h, rfl⟩

/-- A verifier that observes a list alone need not fear the others. -/
theorem Allows.of_alone
    (hentries : t.list.registry.entries = [(id, Verifier.callback Site.direct)])
    (hselects : (t.list.journal.step a).answer ≠ .error .predicate) : t.Allows id a := by
  refine ⟨?_, hselects, fun c _ => ?_⟩
  · rw [hentries]
    exact List.mem_singleton.mpr rfl
  · rw [hentries]
    exact ⟨fun hne => absurd rfl hne, fun _ => trivial⟩

omit [Element α] in
theorem after_journal : (t.after a).list.journal = (t.list.journal.step a).journal :=
  t.list.perform_journal _ a

theorem Run.valid (h : Run id start t) (hstart : start.list.registry.Valid) :
    t.list.registry.Valid := by
  induction h with
  | start => exact hstart
  | act _ a _ ih => exact ObservableList.valid_perform ih _ a
  | aside _ _ hvalid _ _ _ => exact hvalid

omit [Element α] in
/-- An action that reports nothing leaves the verifier as it is. -/
theorem after_of_quiet (hc : (t.list.journal.step a).reported = none) :
    (t.after a).verifier = t.verifier ∧
      (t.perform a).answer = (t.list.journal.step a).answer := by
  have hsilent := ObservableList.silent_of_quiet (t.verifier, t.rest) hc
  exact ⟨congrArg Prod.fst hsilent.world, ObservableList.answer_of_quiet _ hc⟩

omit [Element α] in
/-- An action that reports loses nothing. -/
theorem after_lost_of_reported (hc : (t.list.journal.step a).reported = some c) :
    (t.after a).lost = t.lost := by
  rw [after, (Journal.reported_of_step hc).lost]
  exact List.append_nil _

/-- **An action that reports tells the verifier once**, and panics only if the verifier does. -/
theorem after_of_reported (hvalid : t.list.registry.Valid) (ha : t.Allows id a)
    (hc : (t.list.journal.step a).reported = some c) :
    (t.verifier.told (t.list.journal.step a).journal.items c).verifier.LeftAlone
        (t.after a).verifier ∧
      (t.perform a).answer =
        match (t.verifier.told (t.list.journal.step a).journal.items c).mismatch with
        | none => (t.list.journal.step a).answer
        | some m => .error (.raised m.text) := by
  have hconcluded := ObservableList.concluded_of_reported (t.verifier, t.rest) hc
  obtain ⟨halone, hpanic⟩ :=
    ObservableList.callAll_of_registered ha.registered hvalid.nodup (ha.undisturbed c hc)
  have hend : (t.list.delivery (t.verifier, t.rest) a c).2.2 =
      (t.verifier.told (t.list.journal.step a).journal.items c).mismatch.map
        fun m => .raised m.text := hpanic
  refine ⟨?_, ?_⟩
  · rw [after, perform, hconcluded.world]
    exact halone
  · rw [perform, hconcluded.answer, hend]
    cases (t.verifier.told (t.list.journal.step a).journal.items c).mismatch <;> rfl

/-- The removals that go unmatched are counted. -/
theorem unmatched_after_of_reported (hvalid : t.list.registry.Valid) (ha : t.Allows id a)
    (hc : (t.list.journal.step a).reported = some c) :
    (t.after a).verifier.stats.unmatched =
      t.verifier.stats.unmatched + (t.verifier.shadow.apply c).2.unmatched.length := by
  rw [(after_of_reported hvalid ha hc).1.stats, Verifier.told_stats, VerifierStats.record]

/-! ## 3. The settings of the verifier -/

theorem after_config (hvalid : t.list.registry.Valid) (ha : t.Allows id a) :
    (t.after a).verifier.config = t.verifier.config := by
  cases hc : (t.list.journal.step a).reported with
  | none => rw [(after_of_quiet hc).1]
  | some c => rw [(after_of_reported hvalid ha hc).1.config, Verifier.told_config]

/-- The settings stay as they were when the verifier came. -/
theorem Run.config_eq (h : Run id start t) (hstart : start.Attached config) :
    t.verifier.config = config := by
  induction h with
  | start => rw [hstart.verifier, Verifier.ofSnapshot]
  | act h a ha ih => exact (after_config (h.valid hstart.valid) ha).trans ih
  | aside _ _ _ hverifier _ ih => exact hverifier.config.trans ih

theorem Run.comparison_eq (h : Run id start t) (hstart : start.Attached config)
    (hmode : config.comparison = .multiset) : t.verifier.config.comparison = .multiset := by
  rw [h.config_eq hstart]
  exact hmode

end Session

end ChangeAudit
