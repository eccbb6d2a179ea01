import DiagramForge.Config.Basic
import DiagramForge.Config.Check
import DiagramForge.Proofs.Entries
import Mathlib.Data.List.Forall2
import Mathlib.Data.List.Pairwise

/-!
# Data with settings

A `Schema` says which keys of an object are settings, at any depth. A setting has two spellings, and
an object may hold further entries. With respect to a schema there is

* `SpelledOnce`, data in which no setting stands twice;
* `Respelled`, data with settings written in their other spelling;
* `Kept`, what becomes of the further entries when data is read and written again.

A group of settings is read field by field, and what no field is read from is kept as it is. Such a
reader is `Faithful` if the readers of its fields are, `Describes.faithful`.
-/

namespace DiagramForge

open DataReader

/-- What is recognized in data. -/
inductive Schema where
  /-- Nothing: the data is taken as a whole. -/
  | value
  /-- The settings of a group, by their names. -/
  | group (settings : List (String × Schema))

namespace Schema

/-- A group of settings none of which is a group. -/
def ofNames (names : List String) : Schema :=
  .group (names.map (·, .value))

/-- Whether a key is one of the two spellings of a setting. -/
def spells (key name : String) : Bool :=
  key == name || key == Naming.toCamel name

/-- The entries have different keys, which are no spellings of one setting. -/
def Apart (names : List String) (e e' : String × Data) : Prop :=
  e.1 ≠ e'.1 ∧ ∀ name ∈ names, spells e.1 name → ¬ spells e'.1 name

theorem sizeOf_lt_of_mem {settings : List (String × Schema)} {s : String × Schema}
    (h : s ∈ settings) : sizeOf s.2 < sizeOf (group settings) := by
  have hs : sizeOf s < sizeOf settings := List.sizeOf_lt_of_mem h
  obtain ⟨name, s⟩ := s
  simp only [Prod.mk.sizeOf_spec, group.sizeOf_spec] at hs ⊢
  omega

/-- No object repeats a key, and no setting is given in both spellings. -/
def SpelledOnce : Schema → Data → Prop
  | .group settings, .object es =>
    es.Pairwise (Apart (settings.map Prod.fst)) ∧
      ∀ s, s ∈ settings → ∀ e ∈ es, spells e.1 s.1 → s.2.SpelledOnce e.2
  | _, _ => True
termination_by s => s
decreasing_by exact sizeOf_lt_of_mem ‹_›

/-- The second data is the first with any settings, at any depth, in another spelling. -/
def Respelled : Schema → Data → Data → Prop
  | .group settings, .object es, .object es' =>
    List.Forall₂ (fun e e' ↦ e' = e ∨ ∃ s, ∃ _ : s ∈ settings,
      spells e.1 s.1 ∧ spells e'.1 s.1 ∧ s.2.Respelled e.2 e'.2) es es'
  | _, d, d' => d' = d
termination_by s => s
decreasing_by exact sizeOf_lt_of_mem ‹_›

/-- The second data has each setting of the first, under its name, and each further entry of the
first as it is, at any depth. -/
def Kept : Schema → Data → Data → Prop
  | .group settings, .object es, .object es' =>
    (∀ s, s ∈ settings → ∀ e ∈ es, spells e.1 s.1 →
      ∃ d, Entries.get? es' s.1 = some d ∧ s.2.Kept e.2 d) ∧
    ∀ e ∈ es, (∀ s ∈ settings, ¬ spells e.1 s.1) → Entries.get? es' e.1 = some e.2
  | .group _, _, _ => False
  | .value, _, _ => True
termination_by s => s
decreasing_by exact sizeOf_lt_of_mem ‹_›

/-! ## Names and spellings -/

/-- No key spells two of the names. -/
def Distinct (names : List String) : Prop :=
  names.Pairwise fun a b ↦ ¬ spells b a ∧ ¬ spells (Naming.toCamel b) a

theorem spells_self (name : String) : spells name name := by
  simp [spells]

/-- A key spells one member of a list at most. -/
theorem Distinct.eq_of_spells {α : Type*} {name : α → String} {as : List α}
    (h : Distinct (as.map name)) {a b : α} (ha : a ∈ as) (hb : b ∈ as) {key : String}
    (hka : spells key (name a)) (hkb : spells key (name b)) : a = b := by
  have hdisjoint : as.Pairwise fun a b ↦ ¬ (spells key (name a) ∧ spells key (name b)) := by
    refine (List.pairwise_map.mp h).imp fun {a b} hab hkey ↦ ?_
    rcases Bool.or_eq_true _ _ ▸ hkey.2 with hk | hk
    · exact hab.1 (eq_of_beq hk ▸ hkey.1)
    · exact hab.2 (eq_of_beq hk ▸ hkey.1)
  have : Std.Symm fun a b ↦ ¬ (spells key (name a) ∧ spells key (name b)) :=
    ⟨fun _ _ h hkey ↦ h hkey.symm⟩
  by_contra hne
  exact hdisjoint.forall ha hb hne ⟨hka, hkb⟩

instance (names : List String) : Decidable (Distinct names) :=
  inferInstanceAs (Decidable (List.Pairwise _ _))

variable {names : List String} {name : String} {es : List (String × Data)} {e e' : String × Data}

instance : Decidable (Apart names e e') :=
  inferInstanceAs (Decidable (_ ∧ _))

instance : Std.Symm (Apart names) where
  symm _ _ h := ⟨h.1.symm, fun name hn he' he ↦ h.2 name hn he he'⟩

theorem nodup_keys (h : es.Pairwise (Apart names)) : (es.map Prod.fst).Nodup :=
  List.pairwise_map.mpr (h.imp fun h ↦ h.1)

/-- A setting stands in one entry at most. -/
theorem eq_of_spells (h : es.Pairwise (Apart names)) (hn : name ∈ names) (he : e ∈ es)
    (he' : e' ∈ es) (hs : spells e.1 name) (hs' : spells e'.1 name) : e = e' := by
  by_contra hne
  exact (h.forall he he' hne).2 name hn hs hs'

end Schema

/-! ## Reading the fields of a group -/

open Schema

section Fields

variable {names : List String} {name : String} {es es' : List (String × Data)}
  {e : String × Data}

/-- The entry of a field is the one whose key spells its name. -/
theorem spelled?_eq_some_iff (h : es.Pairwise (Apart names)) (hn : name ∈ names) :
    spelled? es name = some e ↔ e ∈ es ∧ spells e.1 name := by
  have hfound : ∀ e, spelled? es name = some e → e ∈ es ∧ spells e.1 name := by
    intro e he
    simp only [spelled?] at he
    split at he
    next d hd =>
      obtain rfl := Option.some.inj he
      exact ⟨Entries.mem_of_get? hd, by simp [spells]⟩
    next =>
      obtain ⟨d, hd, rfl⟩ := Option.map_eq_some_iff.mp he
      exact ⟨Entries.mem_of_get? hd, spells_self name⟩
  refine ⟨hfound e, fun ⟨he, hs⟩ ↦ ?_⟩
  cases hentry : spelled? es name with
  | some e' =>
    obtain ⟨he', hs'⟩ := hfound e' hentry
    rw [eq_of_spells h hn he he' hs hs']
  | none =>
    have hget : Entries.get? es e.1 = some e.2 := Entries.get?_of_mem (nodup_keys h) he
    simp only [spelled?] at hentry
    split at hentry
    next => cases hentry
    next hcamel =>
      rcases Bool.or_eq_true _ _ ▸ hs with hk | hk
      · rw [← eq_of_beq hk, hget] at hentry
        cases hentry
      · rw [← eq_of_beq hk, hget] at hcamel
        cases hcamel

theorem spelled?_eq_none_iff (h : es.Pairwise (Apart names)) (hn : name ∈ names) :
    spelled? es name = none ↔ ∀ e ∈ es, ¬ spells e.1 name := by
  rw [Option.eq_none_iff_forall_not_mem]
  simp only [Option.mem_def, spelled?_eq_some_iff h hn, not_and]

/-- What no field is read from are the entries that spell no setting. -/
theorem unread_eq_filter (h : es.Pairwise (Apart names)) :
    unread es names = es.filter fun e ↦ !names.any (spells e.1) := by
  refine List.filter_congr fun e he ↦ congrArg _ (Bool.eq_iff_iff.mpr ?_)
  rw [List.contains_iff_mem, List.mem_filterMap, List.any_eq_true]
  constructor
  · rintro ⟨name, hn, hkey⟩
    obtain ⟨e', he', heq⟩ := Option.map_eq_some_iff.mp hkey
    exact ⟨name, hn, heq ▸ ((spelled?_eq_some_iff h hn).mp he').2⟩
  · rintro ⟨name, hn, hs⟩
    exact ⟨name, hn, by rw [(spelled?_eq_some_iff h hn).mpr ⟨he, hs⟩]; rfl⟩

end Fields

/-! ## Respelled entries -/

namespace Schema

theorem exists_of_forall₂ {α β : Type} {r : α → β → Prop} {as : List α} {bs : List β}
    (h : List.Forall₂ r as bs) {b : β} (hb : b ∈ bs) : ∃ a ∈ as, r a b := by
  induction h with
  | nil => cases hb
  | cons hab _ ih =>
    rcases List.mem_cons.mp hb with rfl | hb
    · exact ⟨_, List.mem_cons_self, hab⟩
    · obtain ⟨a, ha, hab⟩ := ih hb
      exact ⟨a, List.mem_cons_of_mem _ ha, hab⟩

/-- An entry is left as it is, or a setting in another spelling. -/
def RespelledEntry (settings : List (String × Schema)) (e e' : String × Data) : Prop :=
  e' = e ∨ ∃ s ∈ settings, spells e.1 s.1 ∧ spells e'.1 s.1 ∧ s.2.Respelled e.2 e'.2

variable {settings : List (String × Schema)} {s : String × Schema} {e e' : String × Data}
  {es es' : List (String × Data)} {d d' : Data}

theorem respelled_object : (group settings).Respelled (.object es) d' ↔
    ∃ es', d' = .object es' ∧ List.Forall₂ (RespelledEntry settings) es es' := by
  cases d' with
  | object es' =>
    simp only [Respelled, exists_prop, Data.object.injEq, exists_eq_left']
    rfl
  | _ => simp [Respelled]

theorem Respelled.refl (schema : Schema) (d : Data) : schema.Respelled d d := by
  cases schema with
  | value => simp [Respelled]
  | group settings =>
    cases d with
    | object es =>
      exact respelled_object.mpr ⟨es, rfl, List.forall₂_same.mpr fun _ _ ↦ .inl rfl⟩
    | _ => simp [Respelled]

theorem RespelledEntry.spells_iff (hnames : Distinct (settings.map Prod.fst))
    (h : RespelledEntry settings e e') (hs : s ∈ settings) :
    spells e.1 s.1 ↔ spells e'.1 s.1 := by
  obtain rfl | ⟨t, ht, hold, hnew, -⟩ := h
  · rfl
  · exact ⟨fun h ↦ hnames.eq_of_spells ht hs hold h ▸ hnew,
      fun h ↦ hnames.eq_of_spells ht hs hnew h ▸ hold⟩

theorem RespelledEntry.respelled (hnames : Distinct (settings.map Prod.fst))
    (h : RespelledEntry settings e e') (hs : s ∈ settings) (he : spells e.1 s.1) :
    s.2.Respelled e.2 e'.2 := by
  obtain rfl | ⟨t, ht, hold, -, hd⟩ := h
  · exact .refl _ _
  · exact hnames.eq_of_spells ht hs hold he ▸ hd

theorem RespelledEntry.apart {f f' : String × Data} (hnames : Distinct (settings.map Prod.fst))
    (he : RespelledEntry settings e e') (hf : RespelledEntry settings f f')
    (h : Apart (settings.map Prod.fst) e f) : Apart (settings.map Prod.fst) e' f' := by
  have hspells : ∀ name ∈ settings.map Prod.fst, spells e'.1 name → ¬ spells f'.1 name := by
    intro name hn he' hf'
    obtain ⟨s, hs, rfl⟩ := List.mem_map.mp hn
    exact h.2 s.1 hn ((he.spells_iff hnames hs).mpr he') ((hf.spells_iff hnames hs).mpr hf')
  refine ⟨fun hkey ↦ ?_, hspells⟩
  obtain rfl | ⟨s, hs, -, hnew, -⟩ := he
  · obtain rfl | ⟨s, hs, -, hnew, -⟩ := hf
    · exact h.1 hkey
    · exact hspells s.1 (List.mem_map_of_mem hs) (hkey ▸ hnew) hnew
  · exact hspells s.1 (List.mem_map_of_mem hs) hnew (hkey ▸ hnew)

/-- Respelled settings are as far apart as they were. -/
theorem pairwise_respelled (hnames : Distinct (settings.map Prod.fst))
    (h : List.Forall₂ (RespelledEntry settings) es es')
    (hes : es.Pairwise (Apart (settings.map Prod.fst))) :
    es'.Pairwise (Apart (settings.map Prod.fst)) := by
  induction h with
  | nil => exact .nil
  | cons he htail ih =>
    rw [List.pairwise_cons] at hes
    refine List.pairwise_cons.mpr ⟨fun f' hf' ↦ ?_, ih hes.2⟩
    obtain ⟨f, hf, hff'⟩ := exists_of_forall₂ htail hf'
    exact he.apart hnames hff' (hes.1 f hf)

/-- Respelling leaves the further entries as they are. -/
theorem filter_respelled (hnames : Distinct (settings.map Prod.fst))
    (h : List.Forall₂ (RespelledEntry settings) es es') :
    (es'.filter fun e ↦ !(settings.map Prod.fst).any (spells e.1)) =
      es.filter fun e ↦ !(settings.map Prod.fst).any (spells e.1) := by
  induction h with
  | nil => rfl
  | @cons e e' _ _ he htail ih =>
    have hany : (settings.map Prod.fst).any (spells e'.1) =
        (settings.map Prod.fst).any (spells e.1) := by
      rw [Bool.eq_iff_iff, List.any_map, List.any_map, List.any_eq_true, List.any_eq_true]
      exact exists_congr fun s ↦ and_congr_right fun hs ↦ (he.spells_iff hnames hs).symm
    rw [List.filter_cons, List.filter_cons, hany, ih]
    obtain rfl | ⟨s, hs, hold, -⟩ := he
    · rfl
    · have hsome : (settings.map Prod.fst).any (spells e.1) :=
        List.any_eq_true.mpr ⟨s.1, List.mem_map_of_mem hs, hold⟩
      rw [hsome]
      rfl

end Schema

/-! ## Faithful readers -/

variable {α β : Type}

/-- A reader does not see which spelling a setting has, and reads what it has read from its own
output, in which everything stands that was there. -/
structure Faithful (schema : Schema) (read : DataReader α) (dump : α → Data) : Prop where
  /-- Settings may have either spelling. -/
  respelled {steps d d' a} : schema.SpelledOnce d → schema.Respelled d d' → read steps d = .ok a →
    ∀ steps', read steps' d' = .ok a
  /-- What has been written is read again. -/
  restored {steps d a} : schema.SpelledOnce d → read steps d = .ok a →
    ∀ steps', read steps' (dump a) = .ok a
  /-- What stands in the data stands in the output. -/
  kept {steps d a} : schema.SpelledOnce d → read steps d = .ok a → schema.Kept d (dump a)

theorem Schema.SpelledOnce.value (d : Data) : Schema.value.SpelledOnce d := by
  simp [SpelledOnce]

/-- A reader of data as a whole is faithful if it reads what it has read from its own output. -/
theorem Faithful.value {read : DataReader α} {dump : α → Data}
    (hsteps : ∀ {steps d a}, read steps d = .ok a → ∀ steps', read steps' d = .ok a)
    (hdump : ∀ {steps d a}, read steps d = .ok a → read steps (dump a) = .ok a) :
    Faithful .value read dump where
  respelled _ hd hread := by
    rw [Respelled] at hd
    · exact hd ▸ hsteps hread
    · simp
  restored _ hread := hsteps (hdump hread)
  kept _ _ := by rw [Kept]; trivial

/-! ## Groups of settings -/

/-- How the values of a setting are read and written. -/
structure Codec (β : Type) where
  /-- What is recognized in their data. -/
  schema : Schema
  /-- How they are read. -/
  read : DataReader β
  /-- How they are written. -/
  dump : β → Data
  /-- They are read faithfully. -/
  faithful : Faithful schema read dump

/-- Some data is read as the value. -/
def Codec.Attains (c : Codec β) (b : β) : Prop :=
  ∃ d steps, c.schema.SpelledOnce d ∧ c.read steps d = .ok b

/-- A field of a group of settings. -/
structure Field (α : Type) where
  /-- The name of the setting. -/
  name : String
  /-- The type of its values. -/
  {β : Type}
  /-- How its values are read and written. -/
  codec : Codec β
  /-- Its value in a group. -/
  get : α → β
  /-- Its value if it is not given. -/
  default : β
  /-- The default can be given. -/
  attained : codec.Attains default

namespace Field

/-- The schema of a group with these fields. -/
def schema (fields : List (Field α)) : Schema :=
  .group (fields.map fun f ↦ (f.name, f.codec.schema))

/-- The settings of a group as they are written. -/
def entries (fields : List (Field α)) (a : α) : List (String × Data) :=
  fields.map fun f ↦ (f.name, f.codec.dump (f.get a))

end Field

/-- A group of settings is read from its fields, and written as its fields with the further entries
set over them. -/
structure Describes (fields : List (Field α)) (extra : α → Extra) (read : DataReader α)
    (dump : α → Data) : Prop where
  isObject {steps d a} : read steps d = .ok a → ∃ es, d = .object es
  read_iff {steps es a} : read steps (.object es) = .ok a ↔
    (∀ f ∈ fields, field es steps f.name f.codec.read f.default = .ok (f.get a)) ∧
      unread es (fields.map Field.name) = extra a
  dump_eq (a) : dump a = .object (withExtra (Field.entries fields a) (extra a))

variable {steps steps' : List DataStep} {es es' : List (String × Data)}

section

variable {names : List String} {name : String} {default b : β}

/-- A field has the value of the entry that spells its name, or the default if there is none. -/
theorem field_eq_ok_iff {r : DataReader β} (h : es.Pairwise (Apart names)) (hn : name ∈ names) :
    field es steps name r default = .ok b ↔
      (∃ e ∈ es, spells e.1 name ∧ r (steps ++ [.key e.1]) e.2 = .ok b) ∨
        (∀ e ∈ es, ¬ spells e.1 name) ∧ default = b := by
  rw [field]
  cases hentry : spelled? es name with
  | some e =>
    obtain ⟨he, hspells⟩ := (spelled?_eq_some_iff h hn).mp hentry
    constructor
    · exact fun hr ↦ .inl ⟨e, he, hspells, hr⟩
    · rintro (⟨e', he', hspells', hr⟩ | ⟨hnone, -⟩)
      · exact eq_of_spells h hn he he' hspells hspells' ▸ hr
      · exact absurd hspells (hnone e he)
  | none =>
    have hnone := (spelled?_eq_none_iff h hn).mp hentry
    constructor
    · exact fun hr ↦ .inr ⟨hnone, by cases hr; rfl⟩
    · rintro (⟨e, he, hspells, -⟩ | ⟨-, rfl⟩)
      · exact absurd hspells (hnone e he)
      · rfl

/-- A field has the same value in respelled settings. -/
theorem field_respelled {settings : List (String × Schema)}
    (hnames : Distinct (settings.map Prod.fst)) (h : es.Pairwise (Apart (settings.map Prod.fst)))
    {c : Codec β} (hs : (name, c.schema) ∈ settings)
    (honce : ∀ e ∈ es, spells e.1 name → c.schema.SpelledOnce e.2)
    (hes : List.Forall₂ (RespelledEntry settings) es es')
    (hfield : field es steps name c.read default = .ok b) :
    field es' steps' name c.read default = .ok b := by
  have hn : name ∈ settings.map Prod.fst := List.mem_map_of_mem (f := Prod.fst) hs
  rw [field_eq_ok_iff (pairwise_respelled hnames hes h) hn]
  rcases (field_eq_ok_iff h hn).mp hfield with ⟨e, he, hspells, hread⟩ | ⟨hnone, hdefault⟩
  · obtain ⟨e', he', hee' : RespelledEntry settings e e'⟩ := exists_of_forall₂ hes.flip he
    have hd : c.schema.Respelled e.2 e'.2 := hee'.respelled hnames hs hspells
    exact .inl ⟨e', he', (hee'.spells_iff hnames hs).mp hspells,
      c.faithful.respelled (honce e he hspells) hd hread _⟩
  · refine .inr ⟨fun e' he' hspells ↦ ?_, hdefault⟩
    obtain ⟨e, he, hee'⟩ := exists_of_forall₂ hes he'
    exact hnone e he ((hee'.spells_iff hnames hs).mpr hspells)

/-- The value of a field is read again from what it is written as. -/
theorem field_restored (h : es.Pairwise (Apart names)) (hn : name ∈ names)
    {c : Codec β} (honce : ∀ e ∈ es, spells e.1 name → c.schema.SpelledOnce e.2)
    (hdefault : c.Attains default) (hfield : field es steps name c.read default = .ok b) :
    c.read steps' (c.dump b) = .ok b := by
  rcases (field_eq_ok_iff h hn).mp hfield with ⟨e, he, hspells, hread⟩ | ⟨-, rfl⟩
  · exact c.faithful.restored (honce e he hspells) hread steps'
  · obtain ⟨d, steps, hd, hread⟩ := hdefault
    exact c.faithful.restored hd hread steps'

end

/-! ## Groups are faithful -/

section Groups

variable {fields : List (Field α)} {extra : α → Extra} {read : DataReader α} {dump : α → Data}
  {d : Data} {a : α}

theorem mem_settings {f : Field α} (hf : f ∈ fields) :
    (f.name, f.codec.schema) ∈ fields.map fun f ↦ (f.name, f.codec.schema) :=
  List.mem_map_of_mem (f := fun f ↦ (f.name, f.codec.schema)) hf

theorem names_settings (fields : List (Field α)) :
    (fields.map fun f ↦ (f.name, f.codec.schema)).map Prod.fst = fields.map Field.name :=
  List.map_map

/-- The settings that are written are apart from each other and from the further entries. -/
theorem pairwise_written (hnames : Distinct (fields.map Field.name))
    (h : es.Pairwise (Apart (fields.map Field.name))) (a : α) :
    (Field.entries fields a ++ es.filter fun e ↦ !(fields.map Field.name).any (spells e.1)).Pairwise
      (Apart (fields.map Field.name)) := by
  rw [List.pairwise_append, Field.entries, List.pairwise_map]
  refine ⟨?_, h.filter _, ?_⟩
  · refine (List.pairwise_map.mp hnames).imp_of_mem fun {f g} hf hg hfg ↦ ⟨fun hkey ↦ ?_, ?_⟩
    · exact hfg.1 ((show f.name = g.name from hkey) ▸ spells_self f.name)
    · intro name hn hspells hspells'
      obtain ⟨k, hk, rfl⟩ := List.mem_map.mp hn
      obtain rfl := hnames.eq_of_spells hk hf hspells (spells_self f.name)
      obtain rfl := hnames.eq_of_spells hk hg hspells' (spells_self g.name)
      exact hfg.1 (spells_self k.name)
  · rintro _ he e' he'
    obtain ⟨f, hf, rfl⟩ := List.mem_map.mp he
    have hfree : ∀ name ∈ fields.map Field.name, ¬ spells e'.1 name := by
      simpa using (List.mem_filter.mp he').2
    exact ⟨fun hkey ↦ hfree f.name (List.mem_map_of_mem hf) (hkey ▸ spells_self f.name),
      fun name hn _ ↦ hfree name hn⟩

/-- No field is read from the further entries that are written. -/
theorem unread_written (hnames : Distinct (fields.map Field.name))
    (h : es.Pairwise (Apart (fields.map Field.name))) (a : α) :
    unread (Field.entries fields a ++
        es.filter fun e ↦ !(fields.map Field.name).any (spells e.1)) (fields.map Field.name) =
      es.filter fun e ↦ !(fields.map Field.name).any (spells e.1) := by
  have hsettings : (Field.entries fields a).filter
      (fun e ↦ !(fields.map Field.name).any (spells e.1)) = [] := by
    rw [List.filter_eq_nil_iff]
    intro e he
    obtain ⟨f, hf, rfl⟩ := List.mem_map.mp he
    have hany : (fields.map Field.name).any (spells f.name) :=
      List.any_eq_true.mpr ⟨f.name, List.mem_map_of_mem hf, spells_self f.name⟩
    simp only [hany, Bool.not_true, Bool.false_eq_true, not_false_eq_true]
  rw [unread_eq_filter (pairwise_written hnames h a), List.filter_append, hsettings,
    List.nil_append, List.filter_filter]
  simp only [Bool.and_self]

theorem spelledOnce_object : (Field.schema fields).SpelledOnce (.object es) ↔
    es.Pairwise (Apart (fields.map Field.name)) ∧
      ∀ f ∈ fields, ∀ e ∈ es, spells e.1 f.name → f.codec.schema.SpelledOnce e.2 := by
  rw [Field.schema, SpelledOnce, names_settings]
  simp only [List.forall_mem_map]

/-- What a group is read from and how it is written. -/
theorem Describes.written (D : Describes fields extra read dump)
    (hnames : Distinct (fields.map Field.name))
    (h : es.Pairwise (Apart (fields.map Field.name))) (hread : read steps (.object es) = .ok a) :
    dump a = .object (Field.entries fields a ++
      es.filter fun e ↦ !(fields.map Field.name).any (spells e.1)) := by
  rw [D.dump_eq, ← (D.read_iff.mp hread).2, unread_eq_filter h, withExtra,
    Entries.merge_of_nodup (nodup_keys (pairwise_written hnames h a))]

/-- A group is read faithfully, since each of its fields is. -/
theorem Describes.faithful (D : Describes fields extra read dump)
    (hnames : Distinct (fields.map Field.name)) : Faithful (Field.schema fields) read dump where
  respelled := by
    intro steps d d' a honce hd hread steps'
    obtain ⟨es, rfl⟩ := D.isObject hread
    obtain ⟨es', rfl, hes⟩ := respelled_object.mp hd
    obtain ⟨hapart, hnested⟩ := spelledOnce_object.mp honce
    obtain ⟨hvalues, hextra⟩ := D.read_iff.mp hread
    rw [← names_settings] at hnames hapart hextra
    have hapart' := pairwise_respelled hnames hes hapart
    refine D.read_iff.mpr ⟨fun f hf ↦ ?_, ?_⟩
    · exact field_respelled hnames hapart (mem_settings hf) (hnested f hf) hes (hvalues f hf)
    · rw [← hextra, ← names_settings, unread_eq_filter hapart', unread_eq_filter hapart,
        filter_respelled hnames hes]
  restored := by
    intro steps d a honce hread steps'
    obtain ⟨es, rfl⟩ := D.isObject hread
    obtain ⟨hapart, hnested⟩ := spelledOnce_object.mp honce
    obtain ⟨hvalues, hextra⟩ := D.read_iff.mp hread
    have hwritten := pairwise_written hnames hapart a
    rw [D.written hnames hapart hread]
    refine D.read_iff.mpr ⟨fun f hf ↦ ?_, ?_⟩
    · have hn : f.name ∈ fields.map Field.name := List.mem_map_of_mem hf
      rw [field_eq_ok_iff hwritten hn]
      exact .inl ⟨_, List.mem_append_left _ (List.mem_map_of_mem hf), spells_self f.name,
        field_restored hapart hn (hnested f hf) f.attained (hvalues f hf)⟩
    · rw [unread_written hnames hapart, ← hextra, unread_eq_filter hapart]
  kept := by
    intro steps d a honce hread
    obtain ⟨es, rfl⟩ := D.isObject hread
    obtain ⟨hapart, hnested⟩ := spelledOnce_object.mp honce
    obtain ⟨hvalues, -⟩ := D.read_iff.mp hread
    have hkeys := nodup_keys (pairwise_written hnames hapart a)
    rw [D.written hnames hapart hread, Field.schema, Kept]
    constructor
    · intro s hs e he hspells
      obtain ⟨f, hf, rfl⟩ := List.mem_map.mp hs
      refine ⟨_, Entries.get?_of_mem hkeys (List.mem_append_left _ (List.mem_map_of_mem hf)), ?_⟩
      have hn : f.name ∈ fields.map Field.name := List.mem_map_of_mem hf
      rcases (field_eq_ok_iff hapart hn).mp (hvalues f hf) with ⟨e', he', hspells', hr⟩ | ⟨hnone, -⟩
      · obtain rfl := eq_of_spells hapart hn he he' hspells hspells'
        exact f.codec.faithful.kept (hnested f hf e he hspells) hr
      · exact absurd hspells (hnone e he)
    · intro e he hfree
      have hany : (!(fields.map Field.name).any (spells e.1)) = true := by
        simpa using fun f hf ↦ hfree _ (List.mem_map_of_mem hf)
      exact Entries.get?_of_mem hkeys
        (List.mem_append_right _ (List.mem_filter.mpr ⟨he, hany⟩))

/-- The default of a group is what no entries are read as. -/
theorem Describes.attained (D : Describes fields extra read dump) {default : α}
    (hdefault : ∀ f ∈ fields, f.default = f.get default) (hextra : extra default = []) :
    ∃ d steps, (Field.schema fields).SpelledOnce d ∧ read steps d = .ok default := by
  refine ⟨.object [], [], spelledOnce_object.mpr ⟨.nil, fun _ _ _ h ↦ nomatch h⟩, ?_⟩
  exact D.read_iff.mpr ⟨fun f hf ↦ congrArg Checked.ok (hdefault f hf), hextra.symm⟩

end Groups

end DiagramForge
