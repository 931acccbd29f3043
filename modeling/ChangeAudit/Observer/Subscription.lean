/-
# Subscriptions with an owner

A subscription remembers the identifier of one registered callback and gives it up at most once:
when its owner says so, or when its owner goes.  It does not keep the list alive; if the list is
gone, there is nothing left to give up.
-/
import ChangeAudit.ObservableList

namespace ChangeAudit

/-- The right to give up one identifier. -/
structure Subscription where
  id : SubscriptionId
  /-- Whether it has not been given up by this subscription. -/
  active : Bool := true
  deriving DecidableEq

/-- What is left after a subscription was released: the subscription, the list, the log, and
whether the list still knew the identifier. -/
structure Released (σ α : Type) where
  subscription : Subscription
  list : Option (ObservableList σ α)
  log : List (LogEntry α) := []
  was : Bool := false

namespace Subscription

variable {σ α : Type}

/-- Gives up the identifier, unless that was done before; `none` for a list that is gone. -/
def release (s : Subscription) (list : Option (ObservableList σ α)) (world : σ) : Released σ α :=
  if s.active then
    let subscription := { s with active := false }
    match list with
    | none => { subscription, list, log := [.releasing] }
    | some l =>
      let (l, log, was) := l.unsubscribe world s.id
      { subscription, list := some l, log := .releasing :: log, was }
  else { subscription := s, list }

/-- The subscription in a dump. -/
def dump (s : Subscription) : Text.Dump :=
  .record "Subscription" [("id", .atom idSign), ("active", .ofBool s.active)]

/-- After a release a subscription is the same one, and no longer active. -/
theorem subscription_release (s : Subscription) (list : Option (ObservableList σ α)) (world : σ) :
    (s.release list world).subscription = { s with active := false } := by
  unfold release
  split
  · split <;> rfl
  · obtain ⟨id, active⟩ := s
    simp_all

end Subscription

end ChangeAudit
