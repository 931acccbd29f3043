/-
# Feeds

A feed keeps the reports that a watcher has not received yet.  It holds a limited number of them:
one more pushes out the oldest, and the watcher is told first how many it has missed.  A watcher
of a list that is gone still receives what its feed holds.
-/
import ChangeAudit.Change

namespace ChangeAudit

/-- How many reports a feed holds. -/
def feedCapacity : Nat := 32

/-- The unread reports of one watcher, oldest first, and how many were pushed out before them. -/
structure Feed (α : Type) where
  unread : List (Change α) := []
  lost : Nat := 0
  deriving Inhabited

/-- What a watcher receives. -/
inductive Received (α : Type) where
  | change (c : Change α)
  /-- Nothing is waiting. -/
  | empty
  /-- Nothing is waiting, and nothing will come. -/
  | closed
  /-- So many reports were missed. -/
  | lagged (count : Nat)

/-- Whether there is nothing more to receive for now. -/
def Received.isLast {α : Type} : Received α → Bool
  | .empty | .closed => true
  | .change _ | .lagged _ => false

namespace Feed

variable {α : Type}

/-- One more report. -/
def send (f : Feed α) (c : Change α) : Feed α :=
  if f.unread.length < feedCapacity then { f with unread := f.unread ++ [c] }
  else { unread := (f.unread ++ [c]).drop 1, lost := f.lost + 1 }

/-- What is received when nothing waits; `live` if the list still exists. -/
def atEnd (live : Bool) : Received α := if live then .empty else .closed

/-- Receives what is next. -/
def receive (f : Feed α) (live : Bool) : Received α × Feed α :=
  if f.lost = 0 then
    match f.unread with
    | [] => (atEnd live, f)
    | c :: rest => (.change c, { f with unread := rest })
  else (.lagged f.lost, { f with lost := 0 })

/-- Everything that can be received now, up to the first time that nothing waits. -/
def drain (f : Feed α) (live : Bool) : List (Received α) :=
  (if f.lost = 0 then [] else [.lagged f.lost]) ++ f.unread.map .change ++ [atEnd live]

theorem atEnd_isLast (live : Bool) : (atEnd live : Received α).isLast = true := by
  cases live <;> rfl

/-- Draining a feed is receiving from it until nothing waits. -/
theorem drain_eq (f : Feed α) (live : Bool) :
    f.drain live = (f.receive live).1 ::
      if (f.receive live).1.isLast then [] else (f.receive live).2.drain live := by
  unfold receive
  split
  · rename_i h
    split
    · rename_i hu
      simp [drain, h, hu, atEnd_isLast]
    · rename_i c rest hu
      simp [drain, h, hu, Received.isLast]
  · rename_i h
    simp [drain, h, Received.isLast]

/-- A feed never holds more than its capacity. -/
theorem length_send_le {f : Feed α} (h : f.unread.length ≤ feedCapacity) (c : Change α) :
    (f.send c).unread.length ≤ feedCapacity := by
  unfold send
  split
  · simp only [List.length_append, List.length_singleton]
    omega
  · simp only [List.length_drop, List.length_append, List.length_singleton]
    omega

end Feed

end ChangeAudit
