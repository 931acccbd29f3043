/-
# Log entries

What lists, subscriptions and verifiers tell about their work.  An entry has a level and a text;
the identifiers of subscriptions are not spelled out in texts, a fixed sign stands for them.
-/
import ChangeAudit.Mismatch.Report

namespace ChangeAudit

/-- How important an entry is. -/
inductive LogLevel where
  | trace
  | debug
  | warn
  | error
  deriving DecidableEq

/-- The name of a level. -/
def LogLevel.name : LogLevel → String
  | .trace => "TRACE"
  | .debug => "DEBUG"
  | .warn => "WARN"
  | .error => "ERROR"

/-- One thing that happened. -/
inductive LogEntry (α : Type) where
  | subscribed (list : String)
  | unsubscribed (list : String)
  | closed (list : String) (dropped : Nat)
  /-- A change is about to be reported. -/
  | changed (list : String) (removed added : Nat)
  /-- A change was lost with the batch that it was made in. -/
  | abandoned (list : String) (removed added : Nat)
  /-- A subscription is being given up by its owner. -/
  | releasing
  | tracking (collection : String) (size : Nat)
  | unmatched (collection : String) (elements : List α)
  | mismatch (m : Mismatch α)
  | configLoaded (path : String)

/-- The sign that stands for an identifier. -/
def idSign : String := "<id>"

/-- The numbers of removed and added elements. -/
def sizes (removed added : Nat) : String := "-" ++ toString removed ++ " +" ++ toString added

namespace LogEntry

variable {α : Type}

def level : LogEntry α → LogLevel
  | .changed _ _ _ => .trace
  | .abandoned _ _ _ | .unmatched _ _ => .warn
  | .mismatch _ => .error
  | .subscribed _ | .unsubscribed _ | .closed _ _ | .releasing | .tracking _ _
  | .configLoaded _ => .debug

/-- What the entry says. -/
def text [Element α] : LogEntry α → String
  | .subscribed list => "Subscribed " ++ idSign ++ " to list '" ++ list ++ "'"
  | .unsubscribed list => "Unsubscribed " ++ idSign ++ " from list '" ++ list ++ "'"
  | .closed list dropped =>
    "Closed list '" ++ list ++ "', dropped " ++ toString dropped ++ " subscribers"
  | .changed list removed added => "List '" ++ list ++ "' changed: " ++ sizes removed added
  | .abandoned list removed added =>
    "List '" ++ list ++ "': batch abandoned during panic, " ++ sizes removed added ++
      " not delivered"
  | .releasing => "Releasing subscription " ++ idSign
  | .tracking collection size =>
    "Tracking " ++ collection ++ " with " ++ toString size ++ " initial elements (subscription " ++
      idSign ++ ")"
  | .unmatched collection elements =>
    collection ++ ": removal of " ++ Element.listText elements ++
      " matched nothing in the replayed contents"
  | .mismatch m => m.text
  | .configLoaded path => "Loaded verifier config from " ++ path

/-- The entry as a line of a log. -/
def line [Element α] (e : LogEntry α) : String := e.level.name ++ " " ++ e.text

end LogEntry

end ChangeAudit
