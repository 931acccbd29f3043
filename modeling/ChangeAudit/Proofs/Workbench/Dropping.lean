/-
# Verifiers that were dropped

A verifier is dropped when it lets go of its name, or when another takes it.  It lets go of its
collection before it gives up its subscription.  So if it was the last to hold the collection, the
collection is gone when the subscription should be given up through it, and the callback stays
registered with a list that may live on.

That is the only way to leave a callback behind, and the callback does nothing from then on.  Nothing
else becomes of a verifier that was dropped, whatever is done later
(`dropped_verifier_is_inert`).
-/
import ChangeAudit.Proofs.Workbench.Commands

namespace ChangeAudit.Workbench

variable {α : Type} [BEq α] [Element α]

namespace Bench

/-- No name has this verifier. -/
def Forgets (b : Bench α) (number : Nat) : Prop :=
  ∀ name h, b.verifiers.find? name = some h → h.number ≠ number

end Bench

/-- **A verifier that was dropped has no further effect.**  Let a workbench come to have a verifier,
and lose it by the next command.  If the verifier's callback is registered afterwards, then that
command has released the last hold on its collection.  Whatever is done later, no name leads to the
verifier again and its state does not change; its callback is registered only if it was left behind,
and then its collection is gone for good; and whatever change a list reports then, the callback,
should it be called, does nothing: it reads nothing, replays nothing, logs nothing and does not
panic. -/
theorem dropped_verifier_is_inert (before : List (Command α)) (command : Command α)
    (later : List (Command α)) {name : String} {h : VerifierHandle}
    (hkept : (Bench.afterAll {} before).verifiers.find? name = some h)
    (hdropped : ((Bench.afterAll {} before).run command).1.Forgets h.number) :
    let b := Bench.afterAll {} before
    let dropped := (b.run command).1
    let b' := dropped.afterAll later
    (h.subscription.id ∈ (dropped.registryOf h.collection).ids →
      b.world.isAlive h.collection = true ∧ dropped.world.isAlive h.collection = false) ∧
    b'.Forgets h.number ∧
    b'.world.verifiers[h.number]? = dropped.world.verifiers[h.number]? ∧
    (∀ n, h.subscription.id ∈ (b'.registryOf n).ids →
      n = h.collection ∧ h.subscription.id ∈ (dropped.registryOf n).ids ∧
        b'.world.isAlive n = false) ∧
    ∀ n c contents deliveries log,
      IdleIn h.subscription.id c contents (b'.registryOf n).entries
        { registry := b'.registryOf n, world := { b'.world with deliveries }, log } := by
  intro b dropped b'
  have hb : b.Orderly := Bench.orderly_afterAll before
  have hdrop := Bench.leadsTo_run hb command
  have hlater := Bench.leadsTo_afterAll hdrop.orderly later
  have hall := (hdrop.trans hb hlater).proceeds
  have hh : b.view.handles h := ⟨name, hkept⟩
  have ha := hb.sound.attached h hh
  have hlt := hb.sound.number_lt hh
  have hnot : ¬ dropped.view.Keeps h.number := by
    rintro ⟨h', ⟨name', hname'⟩, hnumber⟩
    exact hdropped name' h' hname' hnumber
  have hlt' := Nat.lt_of_lt_of_le hlt hdrop.proceeds.started
  -- whoever has the identifier is the list of the collection, and has had it since
  have hleft : ∀ n, h.subscription.id ∈ (b'.registryOf n).ids →
      n = h.collection ∧ h.subscription.id ∈ (dropped.registryOf n).ids ∧
        b'.world.IsGone n := by
    intro n hid
    have hsource : h.subscription.id.source = n := by
      rw [(hlater.orderly.sound.valid n).given h.subscription.id hid |>.1]
      exact hlater.orderly.sound.source n
    obtain rfl : h.collection = n := ha.source.symm.trans hsource
    have hid' := (hlater.proceeds.registries h.collection).mem_ids_of_given hid
      (Nat.lt_of_lt_of_le ha.given (hdrop.proceeds.registries h.collection).next)
    exact ⟨rfl, hid', hlater.proceeds.gone _ (hdrop.proceeds.dropped h hh hnot hid')⟩
  refine ⟨?_, ?_, hlater.proceeds.frozen h.number hlt' hnot, ?_, ?_⟩
  · intro hid
    obtain ⟨o, ho, hkept, hcollection⟩ := ha.observed
    exact ⟨World.isAlive_iff.mpr (Or.inr ⟨o, List.mem_of_getElem? ho, hkept, hcollection⟩),
      (hdrop.proceeds.dropped h hh hnot hid).2⟩
  · intro name' h' hname' hnumber
    exact hlater.proceeds.not_keeps hlt' hnot ⟨h', ⟨name', hname'⟩, hnumber⟩
  · exact fun n hid => ⟨(hleft n hid).1, (hleft n hid).2.1, (hleft n hid).2.2.2⟩
  · intro n c contents deliveries log
    have hworld : b'.view.Proceeds { b'.view with world := { b'.world with deliveries } } :=
      hlater.orderly.sound.passes (World.passes_of_eq rfl rfl)
    refine hworld.sound.idleIn ⟨rfl, rfl⟩ h.number _ c contents (hworld.sound.welcome n)
      fun callback hentry => ?_
    obtain ⟨rfl, -, hgone⟩ := hleft n (List.mem_map_of_mem hentry)
    exact ⟨hworld.gone _ hgone,
      ha.tracked callback ((hall.registries _).mem_of_given hentry ha.given)⟩

omit [BEq α] [Element α] in
/-- A verifier is the last to hold the collection of a list that is kept.  When it is dropped its
callback stays registered, and an addition to the list finds it there. -/
theorem dropped_verifier_is_inert_left_behind :
    let before : List (Command Int64) :=
      [.create "l" "numbers" [1], .startVerifier "v" "l" none false, .dropList "l" true]
    let b := Bench.afterAll {} before
    let dropped := (b.run (.dropVerifier "v")).1
    let b' := dropped.afterAll [.mutate "l" (.push 2)]
    (dropped.registryOf 0).ids = [⟨0, 0⟩] ∧ dropped.world.isAlive 0 = false ∧
      (b'.registryOf 0).ids = [⟨0, 0⟩] ∧ b'.Forgets 0 ∧
      ∀ c contents deliveries log,
        IdleIn ⟨0, 0⟩ c contents (b'.registryOf 0).entries
          { registry := b'.registryOf 0, world := { b'.world with deliveries }, log } := by
  intro before b dropped b'
  have hkept : b.verifiers.find? "v" =
      some { number := 0, collection := 0, subscription := { id := ⟨0, 0⟩ } } := rfl
  have hnames : dropped.verifiers = [] := rfl
  have hforgets : dropped.Forgets 0 := by
    intro name h hfind
    rw [hnames] at hfind
    cases hfind
  obtain ⟨-, hforgets', -, -, hidle⟩ := dropped_verifier_is_inert before (.dropVerifier "v")
    [.mutate "l" (.push 2)] hkept hforgets
  exact ⟨by decide, by decide, by decide, hforgets', hidle 0⟩

end ChangeAudit.Workbench
