/-
# The callback of a verifier

A verifier observes a collection through a callback.  The callback reaches three things through
the world: the verifier itself, as long as its collection exists; a place to put it back; and the
contents of the collection, whose reading may leave a trace in the world (`Site`).  The contents
are read before the change is replayed, and only if the verifier is set to compare.
-/
import ChangeAudit.Observer.Script
import ChangeAudit.Verifier

namespace ChangeAudit

/-- How the callback of a verifier reaches its verifier and its collection. -/
structure Site (σ α : Type) where
  /-- The verifier, `none` if the collection is gone. -/
  find : σ → Option (Verifier α)
  store : Verifier α → σ → σ
  /-- Reads the collection whose list has the given contents. -/
  read : List α → σ → List α × σ

/-- The live contents, if the verifier wants them, and the world after reading them. -/
def Site.readFor {σ α : Type} (site : Site σ α) (v : Verifier α) (contents : List α) (world : σ) :
    Option (List α) × σ :=
  if v.config.verifyOnChange then
    (some (site.read contents world).1, (site.read contents world).2)
  else (none, world)

namespace Verifier

variable {σ α : Type} [BEq α] [Element α]

/-- What the callback ends with: a mismatch that was not kept is a panic. -/
def verdict (mismatch : Option (Mismatch α)) : Script σ α :=
  match mismatch with
  | none => .done
  | some m => .panic m.text

/-- The callback of the verifier at a site. -/
def callback (site : Site σ α) : Callback σ α := fun _ change contents =>
  .read fun world =>
    match site.find world with
    | none => .done
    | some v =>
      let (live, world) := site.readFor v contents world
      let r := v.notify live change
      .write (site.store r.verifier world) (.log r.log (verdict r.mismatch))

end Verifier

end ChangeAudit
