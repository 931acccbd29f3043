/-
# Settings over their defaults

An object of settings is read member by member.  A member that names no setting counts for nothing;
one that does has to be the first of its name, and to hold a value that the setting can have
(`Clean`).  If all are so, the settings are the defaults, overwritten where a member says so
(`Config.overlaid`), and the order of the members makes no difference.  Otherwise the first member
that is not so says what is wrong (`offence`).  A name in which half of a character pair stands
alone is no text, and makes the object malformed even if it would count for nothing (`NamesHalf`).
-/
import Mathlib.Data.List.Induction
import ChangeAudit.Config.Written
import ChangeAudit.Proofs.Json.Shapes
import ChangeAudit.Proofs.Json.Spelling

namespace ChangeAudit

open Json (Document Member ReadError Token)

/-! ## 1. The settings -/

/-- One of the settings. -/
inductive Setting where
  | label
  | comparison
  | verifyOnChange
  | onMismatch
  deriving DecidableEq

/-- The modes, by their names. -/
def ComparisonMode.known : List (String × ComparisonMode) :=
  ComparisonMode.all.map fun m => (m.name, m)

/-- The policies, by their names. -/
def MismatchPolicy.known : List (String × MismatchPolicy) :=
  MismatchPolicy.all.map fun p => (p.name, p)

namespace Setting

def all : List Setting := [.label, .comparison, .verifyOnChange, .onMismatch]

/-- The name of the member that holds a setting. -/
def key : Setting → String
  | .label => "label"
  | .comparison => "comparison"
  | .verifyOnChange => "verify_on_change"
  | .onMismatch => "on_mismatch"

/-- The setting that a member of this name holds. -/
def named? (name : String) : Option Setting := all.find? (·.key == name)

/-- The values that a setting can have. -/
def Legal : Setting → Document → Prop
  | .label, d => d = .null ∨ ∃ label, d = .text (some label)
  | .comparison, d => ∃ m : ComparisonMode, d.Names m.name
  | .verifyOnChange, d => ∃ b, d = .bool b
  | .onMismatch, d => ∃ p : MismatchPolicy, d.Names p.name

/-- What a value makes of the settings. -/
def overwrite : Setting → Document → Except ReadError (Config → Config)
  | .label, d => d.asText?.map fun label c => { c with label }
  | .comparison, d =>
    (d.asVariant ComparisonMode.known).map fun comparison c => { c with comparison }
  | .verifyOnChange, d => d.asBool.map fun verifyOnChange c => { c with verifyOnChange }
  | .onMismatch, d =>
    (d.asVariant MismatchPolicy.known).map fun onMismatch c => { c with onMismatch }

theorem key_injective {s s' : Setting} (h : s.key = s'.key) : s = s' := by
  cases s <;> cases s' <;> first | rfl | exact absurd h (by decide)

theorem named?_eq_some {name : String} {s : Setting} : named? name = some s ↔ s.key = name := by
  constructor
  · intro h
    have hkey := List.find?_some h
    exact beq_iff_eq.mp hkey
  · rintro rfl
    cases s <;> decide

theorem named?_eq_none {name : String} : named? name = none ↔ ∀ s : Setting, s.key ≠ name := by
  rw [Option.eq_none_iff_forall_ne_some]
  exact forall_congr' fun s => not_congr named?_eq_some

end Setting

/-- What the settings make of the members of an object. -/
def Config.meaning : Json.Meaning Config := fun name => (Setting.named? name).map Setting.overwrite

namespace Setting

/-- The field of a record that holds a setting. -/
def field : Setting → Json.Field Config
  | .label => .of "label" Json.readText? fun c label => { c with label }
  | .comparison =>
    .of "comparison" (Json.readVariant ComparisonMode.known)
      fun c comparison => { c with comparison }
  | .verifyOnChange =>
    .of "verify_on_change" Json.readBool fun c verifyOnChange => { c with verifyOnChange }
  | .onMismatch =>
    .of "on_mismatch" (Json.readVariant MismatchPolicy.known)
      fun c onMismatch => { c with onMismatch }

theorem field_read (s : Setting) (d : Document) (ts : List Token) :
    s.field.read (d.tokens ++ ts) = (s.overwrite d).map (·, ts) := by
  cases s <;> simp only [field, overwrite]
  case label => exact Json.takes_text?.field _ _ d ts
  case comparison => exact (Json.takes_variant _).field _ _ d ts
  case verifyOnChange => exact Json.takes_bool.field _ _ d ts
  case onMismatch => exact (Json.takes_variant _).field _ _ d ts

end Setting

theorem Config.field?_form (name : String) :
    Config.form.field? name = (Setting.named? name).map Setting.field := by
  have hfields : Config.form.fields = Setting.all.map Setting.field := rfl
  have hname : ∀ s : Setting, s.field.name = s.key := by rintro (_ | _ | _ | _) <;> rfl
  rw [Json.Form.field?, hfields, List.find?_map, Setting.named?]
  congr 2
  funext s
  exact congrArg (· == name) (hname s)

/-- The settings are read as they are meant. -/
theorem Config.form_means : Config.form.Means Config.meaning := by
  intro name
  rw [Config.field?_form, Config.meaning]
  cases Setting.named? name with
  | none => exact .none
  | some s => exact .some s.field_read

/-! ## 2. Legal values -/

namespace Setting

theorem map_eq_ok {β γ : Type} {value : Except ReadError β} {f : β → γ} {c : γ} :
    value.map f = .ok c ↔ ∃ b, value = .ok b ∧ f b = c := by
  cases value <;> simp [Except.map]

/-- A value can be taken exactly if the setting can have it. -/
theorem overwrite_isOk (s : Setting) (d : Document) :
    (∃ update, s.overwrite d = .ok update) ↔ s.Legal d := by
  have hmap : ∀ {β : Type} (value : Except ReadError β) (store : β → Config → Config),
      (∃ update, value.map store = .ok update) ↔ ∃ b, value = .ok b := by
    intro β value store
    simp only [map_eq_ok]
    exact ⟨fun ⟨_, b, hb, _⟩ => ⟨b, hb⟩, fun ⟨b, hb⟩ => ⟨store b, b, hb, rfl⟩⟩
  cases s <;> simp only [overwrite, Legal, hmap]
  case label => exact d.asText?_isOk
  case verifyOnChange => exact d.asBool_isOk
  case comparison =>
    have hall : ∀ m : ComparisonMode, m ∈ ComparisonMode.all := by rintro (_ | _) <;> decide
    simp [Document.asVariant_isOk, ComparisonMode.known, hall]
  case onMismatch =>
    have hall : ∀ p : MismatchPolicy, p ∈ MismatchPolicy.all := by rintro (_ | _) <;> decide
    simp [Document.asVariant_isOk, MismatchPolicy.known, hall]

/-- What is wrong with a value, if the setting cannot have it. -/
def complaint? (s : Setting) (d : Document) : Option ReadError :=
  match s.overwrite d with
  | .ok _ => none
  | .error e => some e

theorem complaint?_eq_none (s : Setting) (d : Document) : s.complaint? d = none ↔ s.Legal d := by
  rw [← overwrite_isOk, complaint?]
  cases s.overwrite d <;> simp

end Setting

/-! ## 3. Members -/

namespace Config

/-- The names of members. -/
def names (members : List Member) : List String := members.map (·.1)

/-- No setting is given twice, and each that is given has a value that it can have. -/
structure Clean (members : List Member) : Prop where
  once : ∀ s : Setting, (names members).count s.key ≤ 1
  legal : ∀ (s : Setting) (d : Document), (s.key, d) ∈ members → s.Legal d

/-- What is wrong with a member that comes after others. -/
def offence (earlier : List Member) : Member → Option ReadError
  | (name, d) =>
    match Setting.named? name with
    | none => none
    | some s =>
      if name ∈ names earlier then some (.unfit (.duplicateField name)) else s.complaint? d

/-- The value that the members give a setting. -/
def given {β : Type} (members : List Member) (s : Setting) (value : Document → Except ReadError β) :
    Option β :=
  (members.lookup s.key).bind fun d => (value d).toOption

/-- The settings `c`, overwritten where the members say so. -/
def overlaid (c : Config) (members : List Member) : Config where
  label := (given members .label Document.asText?).getD c.label
  comparison :=
    (given members .comparison (Document.asVariant ComparisonMode.known)).getD c.comparison
  verifyOnChange := (given members .verifyOnChange Document.asBool).getD c.verifyOnChange
  onMismatch :=
    (given members .onMismatch (Document.asVariant MismatchPolicy.known)).getD c.onMismatch

theorem offence_eq_none {earlier : List Member} {name : String} {d : Document} :
    offence earlier (name, d) = none ↔
      ∀ s : Setting, s.key = name → name ∉ names earlier ∧ s.Legal d := by
  rw [offence]
  cases h : Setting.named? name with
  | none =>
    have hnone := Setting.named?_eq_none.mp h
    exact iff_of_true rfl fun s hs => absurd hs (hnone s)
  | some s =>
    obtain rfl := Setting.named?_eq_some.mp h
    have hsame : ∀ s' : Setting, s'.key = s.key ↔ s' = s :=
      fun s' => ⟨Setting.key_injective, congrArg _⟩
    by_cases hearlier : s.key ∈ names earlier
    · simp [hearlier, hsame]
    · simp [hearlier, hsame, Setting.complaint?_eq_none]

/-- Members are clean if they are so up to the last and nothing is wrong with that one. -/
theorem clean_concat (earlier : List Member) (m : Member) :
    Clean (earlier ++ [m]) ↔ Clean earlier ∧ offence earlier m = none := by
  obtain ⟨name, d⟩ := m
  have hcount : ∀ s : Setting, (names (earlier ++ [(name, d)])).count s.key =
      (names earlier).count s.key + if s.key = name then 1 else 0 := by
    intro s
    rw [names, List.map_append, List.count_append]
    by_cases hs : s.key = name
    · simp [names, hs]
    · simp [names, hs, Ne.symm hs]
  rw [offence_eq_none]
  constructor
  · intro h
    refine ⟨⟨fun s => ?_, fun s d' hd' => h.legal s d' (List.mem_append_left _ hd')⟩,
      fun s hs => ⟨?_, ?_⟩⟩
    · have := h.once s
      rw [hcount] at this
      omega
    · have := h.once s
      rw [hcount, if_pos hs] at this
      rw [← hs, ← List.count_eq_zero]
      omega
    · exact h.legal s d (by rw [hs]; exact List.mem_concat_self)
  · rintro ⟨h, hm⟩
    refine ⟨fun s => ?_, fun s d' hd' => ?_⟩
    · rw [hcount]
      split
      · rename_i hs
        have := List.count_eq_zero.mpr (hm s hs).1
        rw [hs]
        omega
      · exact h.once s
    · rcases List.mem_append.mp hd' with hd' | hd'
      · exact h.legal s d' hd'
      · obtain ⟨rfl, rfl⟩ := Prod.mk.inj (List.mem_singleton.mp hd')
        exact (hm s rfl).2

/-- Members that are not clean have a first one with which something is wrong. -/
theorem exists_first_offence {members : List Member} (h : ¬ Clean members) :
    ∃ earlier m later e,
      members = earlier ++ m :: later ∧ Clean earlier ∧ offence earlier m = some e := by
  induction members using List.reverseRecOn with
  | nil => exact absurd ⟨fun s => by simp [names], fun s d hd => by cases hd⟩ h
  | append_singleton rest m ih =>
    by_cases hrest : Clean rest
    · cases hm : offence rest m with
      | none => exact absurd ((clean_concat rest m).mpr ⟨hrest, hm⟩) h
      | some e => exact ⟨rest, m, [], e, rfl, hrest, hm⟩
    · obtain ⟨earlier, m', later, e, rfl, hearlier, he⟩ := ih hrest
      exact ⟨earlier, m', later ++ [m], e, by simp, hearlier, he⟩

/-- The members that name settings. -/
def known (members : List Member) : List Member :=
  members.filter fun m => (Setting.named? m.1).isSome

theorem mem_known (s : Setting) (d : Document) (members : List Member) :
    (s.key, d) ∈ known members ↔ (s.key, d) ∈ members := by
  rw [known, List.mem_filter, and_iff_left]
  rw [Setting.named?_eq_some.mpr rfl]
  rfl

theorem count_names_known (s : Setting) (members : List Member) :
    (names (known members)).count s.key = (names members).count s.key := by
  simp only [names, known, List.count_eq_countP, List.countP_map, List.countP_filter]
  refine List.countP_congr fun m _ => ?_
  simp only [Function.comp_apply, Bool.and_eq_true, beq_iff_eq, and_iff_left_iff_imp]
  intro hm
  rw [Setting.named?_eq_some.mpr hm.symm]
  rfl

/-- Whether members are clean depends on those that name settings, and not on their order. -/
theorem Clean.of_perm {a b : List Member} (ha : Clean a) (h : (known a).Perm (known b)) :
    Clean b where
  once s := by
    have hcount : (names (known a)).count s.key = (names (known b)).count s.key :=
      (h.map Prod.fst).count_eq s.key
    rw [← count_names_known, ← hcount, count_names_known]
    exact ha.once s
  legal s d hd := ha.legal s d ((mem_known s d a).mp (h.mem_iff.mpr ((mem_known s d b).mpr hd)))

theorem Clean.lookup_eq_some {members : List Member} (h : Clean members) (s : Setting)
    (d : Document) : members.lookup s.key = some d ↔ (s.key, d) ∈ members := by
  constructor
  · intro hd
    obtain ⟨before, after, rfl, -⟩ := List.lookup_eq_some_iff.mp hd
    exact List.mem_append_right _ List.mem_cons_self
  · intro hd
    obtain ⟨before, after, rfl⟩ := List.append_of_mem hd
    refine List.lookup_eq_some_iff.mpr ⟨before, after, rfl, fun m hm => ?_⟩
    -- a second member of this name would be one too many
    rw [bne_iff_ne]
    intro hkey
    have honce := h.once s
    have hbefore : 0 < (names before).count s.key :=
      List.count_pos_iff.mpr (hkey ▸ List.mem_map_of_mem hm)
    simp only [names, List.map_append, List.map_cons, List.count_append, List.count_cons_self]
      at honce hbefore
    omega

/-- What clean members make of the settings depends on those that name settings, and not on their
order. -/
theorem Clean.overlaid_congr {a b : List Member} (ha : Clean a) (h : (known a).Perm (known b))
    (c : Config) : c.overlaid a = c.overlaid b := by
  have hlookup : ∀ s : Setting, a.lookup s.key = b.lookup s.key := by
    intro s
    refine Option.ext fun d => ?_
    rw [ha.lookup_eq_some, (ha.of_perm h).lookup_eq_some, ← mem_known, h.mem_iff, mem_known]
  simp only [overlaid, given, hlookup]

/-! ## 4. Reading members -/

/-- What the members of `earlier` leave for the next. -/
def Left (earlier : List Member) (state : List String × Config) : Prop :=
  state.2 = ({} : Config).overlaid earlier ∧
    ∀ s : Setting, s.key ∈ state.1 ↔ s.key ∈ names earlier

theorem take_of_offence {earlier : List Member} {state : List String × Config}
    (hstate : Left earlier state) {m : Member} {e : ReadError} (h : offence earlier m = some e) :
    meaning.take state m = .error e := by
  obtain ⟨seen, c⟩ := state
  obtain ⟨name, d⟩ := m
  rw [offence] at h
  rw [Json.Meaning.take, meaning]
  cases hs : Setting.named? name with
  | none => simp [hs] at h
  | some s =>
    obtain rfl := Setting.named?_eq_some.mp hs
    have hseen := hstate.2 s
    simp only [hs] at h
    simp only [Option.map_some, List.contains_iff_mem, hseen]
    by_cases hearlier : s.key ∈ names earlier
    · rw [if_pos hearlier] at h ⊢
      cases h
      rfl
    · rw [if_neg hearlier] at h ⊢
      rw [Setting.complaint?] at h
      cases hd : s.overwrite d with
      | ok update => simp [hd] at h
      | error e' =>
        simp only [hd, Option.some.injEq] at h
        rw [h]
        rfl

theorem given_concat_of_ne {β : Type} {s : Setting} {name : String} (h : s.key ≠ name)
    (earlier : List Member) (d : Document) (value : Document → Except ReadError β) :
    given (earlier ++ [(name, d)]) s value = given earlier s value := by
  simp [given, List.lookup_append, List.lookup_cons, beq_false_of_ne h]

theorem lookup_of_not_mem {earlier : List Member} {name : String} (h : name ∉ names earlier) :
    earlier.lookup name = none := by
  refine List.lookup_eq_none_iff.mpr fun m hm => ?_
  rw [bne_iff_ne]
  rintro rfl
  exact h (List.mem_map_of_mem hm)

theorem given_concat_self {β : Type} {s : Setting} {earlier : List Member}
    (h : s.key ∉ names earlier) (d : Document) (value : Document → Except ReadError β) :
    given (earlier ++ [(s.key, d)]) s value = (value d).toOption := by
  simp [given, List.lookup_append, lookup_of_not_mem h]

/-- A member that names no setting overwrites nothing. -/
theorem overlaid_concat_of_unknown {name : String} (h : ∀ s : Setting, s.key ≠ name) (c : Config)
    (earlier : List Member) (d : Document) :
    c.overlaid (earlier ++ [(name, d)]) = c.overlaid earlier := by
  simp only [overlaid, given_concat_of_ne (h _)]

/-- A member that is the first to name a setting overwrites that. -/
theorem overlaid_concat {s : Setting} {earlier : List Member} (h : s.key ∉ names earlier)
    {d : Document} {update : Config → Config} (hd : s.overwrite d = .ok update) (c : Config) :
    c.overlaid (earlier ++ [(s.key, d)]) = update (c.overlaid earlier) := by
  have hne : ∀ s' : Setting, s' ≠ s → s'.key ≠ s.key := fun s' hs' hkey =>
    hs' (Setting.key_injective hkey)
  cases s <;> obtain ⟨b, hb, rfl⟩ := Setting.map_eq_ok.mp hd <;>
    simp [overlaid, given_concat_self h, given_concat_of_ne (hne _ _), hb, Except.toOption]

theorem take_of_no_offence {earlier : List Member} {state : List String × Config}
    (hstate : Left earlier state) {m : Member} (h : offence earlier m = none) :
    ∃ state', meaning.take state m = .ok state' ∧ Left (earlier ++ [m]) state' := by
  obtain ⟨seen, c⟩ := state
  obtain ⟨name, d⟩ := m
  obtain ⟨hc, hseen⟩ := hstate
  have hnames : ∀ s : Setting, s.key ∈ names (earlier ++ [(name, d)]) ↔
      s.key ∈ names earlier ∨ s.key = name := by simp [names]
  rw [offence_eq_none] at h
  rw [Json.Meaning.take, meaning]
  cases hs : Setting.named? name with
  | none =>
    have hnone := Setting.named?_eq_none.mp hs
    refine ⟨(seen, c), rfl, ?_, fun s => ?_⟩
    · rw [overlaid_concat_of_unknown hnone, ← hc]
    · rw [hnames, hseen, or_iff_left (hnone s)]
  | some s =>
    obtain rfl := Setting.named?_eq_some.mp hs
    obtain ⟨hearlier, hlegal⟩ := h s rfl
    obtain ⟨update, hupdate⟩ := (s.overwrite_isOk d).mpr hlegal
    refine ⟨(s.key :: seen, update c), ?_, ?_, fun s' => ?_⟩
    · simp [hseen, hearlier, hupdate, Except.map]
    · rw [overlaid_concat hearlier hupdate, ← hc]
    · rw [hnames, List.mem_cons, hseen, or_comm]

theorem takeAll_concat (state : List String × Config) (earlier : List Member) (m : Member) :
    meaning.takeAll state (earlier ++ [m]) =
      (meaning.takeAll state earlier).bind fun state => meaning.take state m := by
  simp only [Json.Meaning.takeAll, List.foldlM_append, List.foldlM_cons, List.foldlM_nil, bind_pure]
  rfl

theorem takeAll_of_clean {members : List Member} (h : Clean members) :
    ∃ state, meaning.takeAll ([], {}) members = .ok state ∧ Left members state := by
  induction members using List.reverseRecOn with
  | nil => exact ⟨([], {}), rfl, rfl, fun s => Iff.rfl⟩
  | append_singleton earlier m ih =>
    obtain ⟨hearlier, hm⟩ := (clean_concat earlier m).mp h
    obtain ⟨state, hstate, hleft⟩ := ih hearlier
    obtain ⟨state', htake, hleft'⟩ := take_of_no_offence hleft hm
    exact ⟨state', by rw [takeAll_concat, hstate]; exact htake, hleft'⟩

theorem takeAll_of_offence {earlier : List Member} {m : Member} {e : ReadError}
    (hearlier : Clean earlier) (h : offence earlier m = some e) :
    meaning.takeAll ([], {}) (earlier ++ [m]) = .error e := by
  obtain ⟨state, hstate, hleft⟩ := takeAll_of_clean hearlier
  rw [takeAll_concat, hstate]
  exact take_of_offence hleft h

/-! ## 5. Texts -/

/-- The text is an object with these members, however it is written. -/
def Written (members : List Member) (text : String) : Prop :=
  Json.Layout [] (Document.ofMembers members).tokens text.toList

/-- The text begins like an object with these members, whatever comes after them. -/
def Begins (members : List Member) (text : String) : Prop :=
  ∃ rest, Json.Layout rest (.openObject :: Json.memberTokens true members) text.toList

/-- The text begins like an object with these members, and goes on with a name in which half of a
pair stands alone. -/
def NamesHalf (members : List Member) (text : String) : Prop :=
  ∃ rest ts, Json.Layout rest (.openObject :: (Json.memberTokens true members ++
    ((if members.isEmpty then [] else [.comma]) ++ .string none :: ts))) text.toList

theorem ofText_of_clean {members : List Member} {text : String} (h : Written members text)
    (hclean : Clean members) : ofText text = .ok (({} : Config).overlaid members) := by
  obtain ⟨state, hstate, hleft⟩ := takeAll_of_clean hclean
  have htokens : Json.tokens text.toList = (Document.ofMembers members).tokens := by
    rw [Json.tokens_of_layout h]
    exact List.append_nil _
  have hread : form.read (Document.ofMembers members).tokens = .ok (state.2, []) := by
    rw [Json.Form.read_ofMembers form_means rfl]
    exact congrArg (Except.map fun state => (state.2, [])) hstate
  rw [ofText, Json.readWhole, htokens, hread, hleft.1]

theorem ofText_of_offence {earlier : List Member} {m : Member} {e : ReadError} {text : String}
    (hearlier : Clean earlier) (hm : offence earlier m = some e)
    (h : Begins (earlier ++ [m]) text) : ofText text = .error e := by
  obtain ⟨rest, h⟩ := h
  rw [ofText, Json.readWhole, Json.tokens_of_layout h, List.cons_append,
    Json.Form.read_of_error form_means (takeAll_of_offence hearlier hm)]

/-- A name in which half of a pair stands alone makes the text malformed, wherever it comes, so the
members of an object have texts for names. -/
theorem ofText_of_half_name {earlier : List Member} {text : String} (hearlier : Clean earlier)
    (h : NamesHalf earlier text) : ofText text = .error (.broken .malformed) := by
  obtain ⟨rest, ts, h⟩ := h
  obtain ⟨state, hstate, -⟩ := takeAll_of_clean hearlier
  rw [ofText, Json.readWhole, Json.tokens_of_layout h, List.cons_append, List.append_assoc,
    List.append_assoc, List.cons_append, Json.Form.read_of_half_name form_means hstate]

theorem Written.begins {a b : List Member} {text : String} (h : Written (a ++ b) text) :
    Begins a text := by
  rw [Written, Json.tokens_ofMembers, Json.memberTokens_append, List.append_assoc,
    ← List.cons_append] at h
  exact h.left

/-- What is wrong with the first member with which something is wrong is what is wrong with the
text. -/
theorem ofText_of_not_clean {members : List Member} {text : String} (h : Written members text)
    (hclean : ¬ Clean members) :
    ∃ earlier m later e,
      members = earlier ++ m :: later ∧ Clean earlier ∧ offence earlier m = some e ∧
        ofText text = .error e ∧
        ∀ text', Begins (earlier ++ [m]) text' → ofText text' = .error e := by
  obtain ⟨earlier, m, later, e, rfl, hearlier, hm⟩ := exists_first_offence hclean
  rw [List.append_cons] at h
  exact ⟨earlier, m, later, e, rfl, hearlier, hm, ofText_of_offence hearlier hm h.begins,
    fun text' => ofText_of_offence hearlier hm⟩

/-- **Settings overlay their defaults.**  For a text that is an object, with any members in any
order, and written in any way:

* it is read exactly if no setting is given twice and each one that is given has a value that it
  can have;
* what is read then are the defaults, overwritten where a member says so;
* any other text with the same settings in any order, and with any other members between them, is
  read as the same;
* otherwise there is a first member with which something is wrong, and that is the error, for this
  text and for any other that begins with the members up to that one, whatever it goes on with;
* the names of the members are texts: a name in which half of a pair stands alone makes a text
  malformed, whether or not it was meant for a setting, if nothing is wrong with the members before
  it. -/
theorem settings_overlay_defaults (members : List Member) (text : String)
    (h : Written members text) :
    ((∃ c, ofText text = .ok c) ↔ Clean members) ∧
      (Clean members → ofText text = .ok (({} : Config).overlaid members)) ∧
      (Clean members → ∀ members' text', Written members' text' →
        (known members').Perm (known members) → ofText text' = ofText text) ∧
      (¬ Clean members → ∃ earlier m later e,
        members = earlier ++ m :: later ∧ Clean earlier ∧ offence earlier m = some e ∧
          ofText text = .error e ∧
          ∀ text', Begins (earlier ++ [m]) text' → ofText text' = .error e) ∧
      (Clean members → ∀ text', NamesHalf members text' →
        ofText text' = .error (.broken .malformed)) := by
  refine ⟨⟨?_, fun hclean => ⟨_, ofText_of_clean h hclean⟩⟩, ofText_of_clean h, ?_,
    ofText_of_not_clean h, fun hclean _ => ofText_of_half_name hclean⟩
  · rintro ⟨c, hc⟩
    by_contra hclean
    obtain ⟨-, -, -, e, -, -, -, he, -⟩ := ofText_of_not_clean h hclean
    rw [hc] at he
    cases he
  · intro hclean members' text' h' hperm
    have hclean' : Clean members' := hclean.of_perm hperm.symm
    rw [ofText_of_clean h hclean, ofText_of_clean h' hclean', hclean'.overlaid_congr hperm]

/-- A list with an object in it is passed over, and an escaped name is what it stands for.  Half of
a pair stands for nothing, not even for the name of a member that would be passed over. -/
theorem settings_overlay_defaults_after_a_note :
    ofText ("\x7b\"note\": [1e+5, \x7b\"label\":null\x7d], \"l\\u0061bel\": \"a\", " ++
        "\"comparison\": \x7b\"sequence\":null\x7d\x7d") =
        .ok { label := some "a", comparison := .sequence } ∧
      ofText "\x7b\"\\ud800\": 1\x7d" = .error (.broken .malformed) := by
  let n : Json.Numeral := { whole := ['1'], exponent := some (false, ['5']) }
  let members : List Member := [
    ("note", .array [.number n, .object [(some "label", .null)]]),
    ("label", .text (some "a")),
    ("comparison", .object [(some "sequence", .null)])]
  have hn : Json.SpellsNumeral n ['1', 'e', '+', '5'] :=
    ⟨.digits (by decide) (by decide), by decide, _, .plus (.inl rfl) (by decide), rfl⟩
  -- the second letter of the name is given by its code unit
  have hlabel := Json.Spells.text [.plain 'l' rfl,
    .unit ⟨⟨'0', 0, rfl⟩, ⟨'0', 0, rfl⟩, ⟨'6', 6, rfl⟩, ⟨'1', 1, rfl⟩⟩,
    .plain 'b' rfl, .plain 'e' rfl, .plain 'l' rfl]
  have hlayout : Json.Layout [] (Document.ofMembers members).tokens _ :=
    .fixed (t := .openObject) rfl <| .plain (s := "note".toList) rfl <|
    .fixed (t := .colon) rfl <| .blank (c := ' ') rfl <| .fixed (t := .openArray) rfl <|
    .token (.number hn) (fun _ _ c hc => by cases hc; decide) <|
    .fixed (t := .comma) rfl <| .blank (c := ' ') rfl <| .fixed (t := .openObject) rfl <|
    .plain (s := "label".toList) rfl <| .fixed (t := .colon) rfl <|
    .fixed (t := .null) rfl <| .fixed (t := .closeObject) rfl <| .fixed (t := .closeArray) rfl <|
    .fixed (t := .comma) rfl <| .blank (c := ' ') rfl <| .token hlabel (fun _ h => by cases h) <|
    .fixed (t := .colon) rfl <| .blank (c := ' ') rfl <| .plain (s := "a".toList) rfl <|
    .fixed (t := .comma) rfl <| .blank (c := ' ') rfl <|
    .plain (s := "comparison".toList) rfl <| .fixed (t := .colon) rfl <|
    .blank (c := ' ') rfl <| .fixed (t := .openObject) rfl <|
    .plain (s := "sequence".toList) rfl <| .fixed (t := .colon) rfl <|
    .fixed (t := .null) rfl <| .fixed (t := .closeObject) rfl <|
    .fixed (t := .closeObject) rfl .done
  have hclean : Clean members := by
    refine ⟨by rintro (_ | _ | _ | _) <;> decide, fun s d hd => ?_⟩
    cases s <;> simp [members, Setting.key] at hd <;> subst hd
    · exact .inr ⟨"a", rfl⟩
    · exact ⟨.sequence, .inr rfl⟩
  -- the first half of a pair, and no second half
  have hhalf := Json.Spells.text
    [.unit ⟨⟨'d', 13, rfl⟩, ⟨'8', 8, rfl⟩, ⟨'0', 0, rfl⟩, ⟨'0', 0, rfl⟩⟩]
  have hempty : Written [] "\x7b\x7d" :=
    .fixed (t := .openObject) rfl <| .fixed (t := .closeObject) rfl .done
  constructor
  · refine (settings_overlay_defaults members _ ?_).2.1 hclean
    rw [Written]
    simpa [Json.Piece.chars] using hlayout
  · have hnothing : Clean [] := ⟨fun _ => Nat.zero_le 1, fun _ _ hd => by cases hd⟩
    refine (settings_overlay_defaults [] _ hempty).2.2.2.2 hnothing _ ?_
    exact ⟨": 1\x7d".toList, [], .fixed (t := .openObject) rfl <|
      .token hhalf (fun _ h => by cases h) .done⟩

end Config

end ChangeAudit
