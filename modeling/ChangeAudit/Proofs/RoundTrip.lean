/-
# What is written is read back

Settings and changes are written in the compact form of their documents.  A reader gives them back
as they were, whatever the label and whatever the elements are made of (`written_is_read_back`), so
different settings, or different changes, are never written alike.

An element type is faithful if its elements are read back from their documents
(`Element.Faithful`).  A change of such elements is read back (`Change.ofText_compact`): that is all
it needs to know of them.
-/
import ChangeAudit.Change.Written
import ChangeAudit.Config.Written
import ChangeAudit.Proofs.Json.Reading

namespace ChangeAudit

open Json (Document Reads)
open Json.Form (WrittenField)

/-! ## 1. Elements -/

/-- Elements that are read back as they were written. -/
class Element.Faithful (α : Type) [Element α] : Prop where
  reads : ∀ x : α, Reads Element.read (Element.toJson x).document x

namespace Element

variable {α : Type} [Element α]

/-- A list of faithful elements is read back. -/
theorem reads_listToJson [Faithful α] (xs : List α) :
    Reads (Json.readList Element.read) (listToJson xs).document xs := by
  have hitems : (listToJson xs).document =
      .array (xs.map fun x => (Element.toJson x).document) := by
    rw [listToJson, Json.document, Json.documents_eq_map, List.map_map]
    rfl
  rw [hitems]
  exact Json.reads_list fun x _ => Faithful.reads x

instance : Faithful Int64 := ⟨Json.reads_int64⟩

instance : Faithful String := ⟨Json.reads_text⟩

instance : Faithful (Option String) := ⟨Json.reads_text?⟩

instance : Faithful (List Int64) := ⟨fun xs => reads_listToJson xs⟩

instance : Faithful Keyed where
  reads r := by
    have hfields : List.Forall₂ WrittenField.Fits Keyed.form.fields _ :=
      .cons (.of (Json.reads_text r.key) _ _) (.cons (.of (Json.reads_int64 r.value) _ _) .nil)
    exact Keyed.form.reads_written (by decide) hfields

end Element

/-! ## 2. Changes and settings -/

/-- A change of faithful elements is read back. -/
theorem Change.ofText_compact {α : Type} [Element α] [Element.Faithful α] (c : Change α) :
    Change.ofText c.toJson.compact = .ok c := by
  have hfields : List.Forall₂ WrittenField.Fits (Change.form (α := α)).fields _ :=
    .cons (.of (Element.reads_listToJson c.removed) _ _) <|
    .cons (.of (Element.reads_listToJson c.added) _ _) .nil
  have hnames : ["removed", "added"].Nodup := by decide
  exact Json.readWhole_compact (Change.form.reads_written hnames hfields)

/-- Settings are read back. -/
theorem Config.ofText_compact (c : Config) : Config.ofText c.toJson.compact = .ok c := by
  have hmode : (ComparisonMode.all.map fun m => (m.name, m)).lookup c.comparison.name =
      some c.comparison := by
    cases c.comparison <;> decide
  have hpolicy : (MismatchPolicy.all.map fun p => (p.name, p)).lookup c.onMismatch.name =
      some c.onMismatch := by
    cases c.onMismatch <;> decide
  have hfields : List.Forall₂ WrittenField.Fits Config.form.fields _ :=
    .cons (.of (Json.reads_text? c.label) _ _) <|
    .cons (.of (Json.reads_variant hmode) _ _) <|
    .cons (.of (Json.reads_bool c.verifyOnChange) _ _) <|
    .cons (.of (Json.reads_variant hpolicy) _ _) .nil
  exact Json.readWhole_compact (Config.form.reads_written (by decide) hfields)

/-- What is read back determines what was written. -/
theorem injective_of_reads_back {α : Type} {write : α → String}
    {read : String → Except Json.ReadError α} (h : ∀ a, read (write a) = .ok a) :
    Function.Injective write := by
  intro a b hab
  have hread := h a
  rw [hab, h b] at hread
  cases hread
  rfl

/-! ## 3. Round trips -/

/-- **What is written is read back.**  The compact form of any settings is read as those settings,
whatever the label; and the compact form of any change is read as that change, element by element,
if its elements are whole numbers of 64 bits, texts, texts that may be absent, lists of whole
numbers, or keyed records.  So no two settings, and no two changes of one kind, are written
alike. -/
theorem written_is_read_back :
    (∀ c : Config, Config.ofText c.toJson.compact = .ok c) ∧
      ((∀ c : Change Int64, Change.ofText c.toJson.compact = .ok c) ∧
        (∀ c : Change String, Change.ofText c.toJson.compact = .ok c) ∧
        (∀ c : Change (Option String), Change.ofText c.toJson.compact = .ok c) ∧
        (∀ c : Change (List Int64), Change.ofText c.toJson.compact = .ok c) ∧
        (∀ c : Change Keyed, Change.ofText c.toJson.compact = .ok c)) ∧
      Function.Injective (fun c : Config => c.toJson.compact) ∧
      Function.Injective (fun c : Change Int64 => c.toJson.compact) ∧
      Function.Injective (fun c : Change String => c.toJson.compact) ∧
      Function.Injective (fun c : Change (Option String) => c.toJson.compact) ∧
      Function.Injective (fun c : Change (List Int64) => c.toJson.compact) ∧
      Function.Injective (fun c : Change Keyed => c.toJson.compact) :=
  ⟨Config.ofText_compact,
    ⟨Change.ofText_compact, Change.ofText_compact, Change.ofText_compact, Change.ofText_compact,
      Change.ofText_compact⟩,
    injective_of_reads_back Config.ofText_compact, injective_of_reads_back Change.ofText_compact,
    injective_of_reads_back Change.ofText_compact, injective_of_reads_back Change.ofText_compact,
    injective_of_reads_back Change.ofText_compact, injective_of_reads_back Change.ofText_compact⟩

end ChangeAudit
