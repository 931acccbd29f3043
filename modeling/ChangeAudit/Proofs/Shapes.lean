/-
# Arrays and objects are read alike

Settings and changes may be written as objects, which name what they hold, or as arrays, which give
it in order.  Settings that an array gives are the same as the object that names the first few of
them, whatever the values are and whether or not they are legal.  A change needs both of its lists:
an array of the two is the same as any object that names each of them once, in either order and with
any other members between them, and nothing else is a change at all (`shapes_agree`).

For changes this asks one thing of their elements: that an element is read from one document, and
that what comes after the document makes no difference (`Element.Readable`).
-/
import Mathlib.Data.List.Permutation
import ChangeAudit.Change.Written
import ChangeAudit.Proofs.Config.Overlay
import ChangeAudit.Proofs.Json.Shapes

namespace ChangeAudit

open Json (Document Member Meaning ReadError Takes)
open scoped List

/-! ## 1. Elements -/

/-- Elements of which one is read from each document, or none, whatever comes after it. -/
class Element.Readable (α : Type) [Element α] : Prop where
  takes : ∃ value : Document → Except ReadError α, Takes Element.read value

namespace Element

instance : Readable Int64 := ⟨_, Json.takes_int64⟩

instance : Readable String := ⟨_, Json.takes_text "a string"⟩

instance : Readable (Option String) := ⟨_, Json.takes_text?⟩

instance : Readable (List Int64) := ⟨_, Json.takes_int64.list⟩

/-- What the fields of a keyed record are read as. -/
def keyedMeaning : Meaning Keyed := .ofList [
  ("k", fun d => (d.asText "a string").map fun key r => { r with key }),
  ("v", fun d => d.asInt64.map fun value r => { r with value })]

instance : Readable Keyed where
  takes := by
    have hmeans : Keyed.form.Means keyedMeaning :=
      Json.Form.means_ofList <|
        .cons ⟨rfl, (Json.takes_text "a string").field _ _⟩ <|
        .cons ⟨rfl, Json.takes_int64.field _ _⟩ .nil
    exact ⟨_, Json.Form.takes (by decide) hmeans⟩

end Element

/-! ## 2. Settings -/

namespace Config

/-- The names of the settings, in the order in which an array gives them. -/
def keys : List String := ["label", "comparison", "verify_on_change", "on_mismatch"]

theorem ofText_eq {d : Document} {text : String} (h : d.WrittenAs text) :
    ofText text = form.value meaning d :=
  (Json.Form.takes (by decide) form_means).readWhole_eq h

end Config

/-! ## 3. Changes -/

namespace Change

variable {α : Type} {value : Document → Except ReadError α}

/-- What the lists of a change are read as. -/
def meaning (value : Document → Except ReadError α) : Meaning (Change α) := .ofList [
  ("removed", fun d => (d.asList value).map fun removed c => { c with removed }),
  ("added", fun d => (d.asList value).map fun added c => { c with added })]

/-- The members that hold the lists of a change. -/
def known (members : List Member) : List Member :=
  members.filter fun m => m.1 == "removed" || m.1 == "added"

theorem meaning_isSome (name : String) :
    (meaning value name).isSome = (name == "removed" || name == "added") := by
  rw [meaning, Meaning.ofList, List.lookup_cons, List.lookup_cons]
  cases name == "removed" with
  | true => rfl
  | false => cases name == "added" <;> rfl

variable [Element α]

theorem form_means (h : Takes Element.read value) : form.Means (meaning value) :=
  Json.Form.means_ofList <|
    .cons ⟨rfl, h.list.field _ _⟩ <| .cons ⟨rfl, h.list.field _ _⟩ .nil

theorem ofText_eq (h : Takes Element.read value) {d : Document} {text : String}
    (htext : d.WrittenAs text) : ofText text = form.value (meaning value) d := by
  have hnames : ((form (α := α)).fields.map (·.name)).Nodup := by
    change ["removed", "added"].Nodup
    decide
  exact (Json.Form.takes hnames (form_means h)).readWhole_eq htext

/-- An array of two is a change just if both are lists. -/
theorem value_array_eq_ok_iff (r a : Document) (c : Change α) :
    form.value (meaning value) (.array [r, a]) = .ok c ↔
      r.asList value = .ok c.removed ∧ a.asList value = .ok c.added := by
  obtain ⟨removed, added⟩ := c
  have hne : "added" ≠ "removed" := by decide
  have hpair : (meaning value).takeAll ([], {}) [("removed", r), ("added", a)] = _ :=
    Meaning.takeAll_pair rfl rfl hne _ r a
  have hvalue : form.value (meaning value) (.array [r, a]) =
      ((meaning value).takeAll ([], {}) [("removed", r), ("added", a)]).bind
        fun state => .ok state.2 := rfl
  rw [hvalue, hpair]
  cases r.asList value with
  | error e => simp [Except.map, Except.bind]
  | ok xs => cases a.asList value <;> simp [Except.map, Except.bind]

/-- So is an object that names each of the two once, in either order. -/
theorem value_ofMembers_eq_ok_iff {members : List Member} {r a : Document}
    (h : known members ~ [("removed", r), ("added", a)]) (c : Change α) :
    form.value (meaning value) (.ofMembers members) = .ok c ↔
      r.asList value = .ok c.removed ∧ a.asList value = .ok c.added := by
  obtain ⟨removed, added⟩ := c
  have hknown : (members.filter fun m => (meaning value m.1).isSome) = known members := by
    simp only [meaning_isSome, known]
  have hvalue : form.value (meaning value) (.ofMembers members) =
      ((meaning value).takeAll ([], {}) (known members)).bind form.concluded := by
    rw [← hknown, Meaning.takeAll_filter, ← Meaning.foldlM_takeNamed_map]
    rfl
  have hboth : ∀ c : Change α, form.concluded (["added", "removed"], c) = .ok c := fun _ => rfl
  have hboth' : ∀ c : Change α, form.concluded (["removed", "added"], c) = .ok c := fun _ => rfl
  have hne : "added" ≠ "removed" := by decide
  rw [hvalue]
  rcases List.perm_pair.mp h with h | h
  · have hpair : (meaning value).takeAll ([], {}) [("removed", r), ("added", a)] = _ :=
      Meaning.takeAll_pair rfl rfl hne _ r a
    rw [h, hpair]
    cases r.asList value with
    | error e => simp [Except.map, Except.bind]
    | ok xs => cases a.asList value <;> simp [Except.map, Except.bind, hboth]
  · have hpair : (meaning value).takeAll ([], {}) [("added", a), ("removed", r)] = _ :=
      Meaning.takeAll_pair rfl rfl hne.symm _ a r
    rw [h, hpair]
    cases a.asList value with
    | error e => simp [Except.map, Except.bind]
    | ok ys => cases r.asList value <;> simp [Except.map, Except.bind, hboth', and_comm]

end Change

/-! ## 4. The main statement -/

/-- **Arrays and objects are read alike.**  For texts that are written in any way:

* settings are read alike, mistakes included, from an array of up to four values and from the object
  that names the first so many settings with these values;
* an array of more values is no settings;
* a change is read from an array of two values just if it is read from any object that names the one
  `removed` and the other `added`, in either order and with any other members, and it is the same
  change;
* no other array is a change, and no object that lacks or repeats one of the two;
* an object with a name that is no text, for half of a pair stands alone in it, is neither settings
  nor a change, whichever member has the name. -/
theorem shapes_agree {α : Type} [Element α] [Element.Readable α] :
    (∀ (values : List Document) (text text' : String), values.length ≤ 4 →
      (Document.array values).WrittenAs text →
      (Document.ofMembers (Config.keys.zip values)).WrittenAs text' →
        Config.ofText text = Config.ofText text') ∧
    (∀ (values : List Document) (text : String) (c : Config), 4 < values.length →
      (Document.array values).WrittenAs text → Config.ofText text ≠ .ok c) ∧
    (∀ (r a : Document) (members : List Member) (text text' : String) (c : Change α),
      Change.known members ~ [("removed", r), ("added", a)] →
      (Document.array [r, a]).WrittenAs text → (Document.ofMembers members).WrittenAs text' →
        (Change.ofText text = .ok c ↔ Change.ofText text' = .ok c)) ∧
    (∀ (values : List Document) (text : String) (c : Change α), values.length ≠ 2 →
      (Document.array values).WrittenAs text → Change.ofText text ≠ .ok c) ∧
    (∀ (members : List (Option String × Document)) (text : String) (c : Change α),
      (Document.object members).WrittenAs text → Change.ofText text = .ok c →
        (members.map (·.1)).count (some "removed") = 1 ∧
          (members.map (·.1)).count (some "added") = 1) ∧
    ∀ (members : List (Option String × Document)) (text : String), none ∈ members.map (·.1) →
      (Document.object members).WrittenAs text →
        (∀ c, Config.ofText text ≠ .ok c) ∧ ∀ c : Change α, Change.ofText text ≠ .ok c := by
  obtain ⟨value, hvalue⟩ := Element.Readable.takes (α := α)
  refine ⟨?_, ?_, ?_, ?_, ?_, ?_⟩
  · intro values text text' hlength htext htext'
    rw [Config.ofText_eq htext, Config.ofText_eq htext']
    exact Json.Form.value_array_eq rfl hlength
  · intro values text c hlength htext hc
    rw [Config.ofText_eq htext] at hc
    have hle := (Json.Form.length_of_ofItems hc).1
    exact absurd hlength (Nat.not_lt.mpr hle)
  · intro r a members text text' c hknown htext htext'
    rw [Change.ofText_eq hvalue htext, Change.ofText_eq hvalue htext',
      Change.value_array_eq_ok_iff, Change.value_ofMembers_eq_ok_iff hknown]
  · intro values text c hlength htext hc
    rw [Change.ofText_eq hvalue htext] at hc
    exact hlength ((Json.Form.length_of_ofItems hc).2 rfl)
  · intro members text c htext hc
    rw [Change.ofText_eq hvalue htext] at hc
    have hmeans := Change.form_means hvalue
    have hcount : ∀ name ∈ ["removed", "added"], (members.map (·.1)).count (some name) = 1 :=
      fun name hname => Json.Form.count_of_ofNamed hmeans rfl hc hname
    exact ⟨hcount "removed" (by simp), hcount "added" (by simp)⟩
  · intro members text hnone htext
    rw [Config.ofText_eq htext, Change.ofText_eq hvalue htext]
    exact ⟨fun c hc => Json.Form.none_not_mem_of_ofNamed hc hnone,
      fun c hc => Json.Form.none_not_mem_of_ofNamed hc hnone⟩

/-- Settings of two values, with blanks and without names; and a change whose lists are named in the
other order, after a note. -/
theorem shapes_agree_after_a_note :
    Config.ofText "[null, \"sequence\"]" =
        Config.ofText "\x7b\"label\":null,\"comparison\":\"sequence\"\x7d" ∧
      ∀ c : Change Int64, Change.ofText "[[1],[2]]" = .ok c ↔
        Change.ofText "\x7b\"note\":[],\"added\":[2],\"removed\":[1]\x7d" = .ok c := by
  have hcompact : ∀ d : Json, d.document.WrittenAs d.compact := by
    intro d
    have hlayout := Json.compact_layout d [] fun c hc => by cases hc
    rw [List.append_nil] at hlayout
    rwa [Document.WrittenAs, Json.compact, String.toList_ofList]
  obtain ⟨hsettings, -, hchanges, -⟩ := shapes_agree (α := Int64)
  constructor
  · refine hsettings [.null, .text (some "sequence")] _ _ (by decide) ?_
      (hcompact (.object [("label", .null), ("comparison", .string "sequence")]))
    exact .fixed (t := .openArray) rfl <| .fixed (t := .null) rfl <| .fixed (t := .comma) rfl <|
      .blank (c := ' ') rfl <| .plain (s := "sequence".toList) rfl <|
      .fixed (t := .closeArray) rfl .done
  · intro c
    exact hchanges (.array [.number (.ofInt 1)]) (.array [.number (.ofInt 2)])
      [("note", .array []), ("added", .array [.number (.ofInt 2)]),
        ("removed", .array [.number (.ofInt 1)])] _ _ c (.swap _ _ _)
      (hcompact (.array [.array [.int 1], .array [.int 2]]))
      (hcompact (.object [("note", .array []), ("added", .array [.int 2]),
        ("removed", .array [.int 1])]))

end ChangeAudit
