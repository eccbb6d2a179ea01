import DiagramForge.Config.Decode
import DiagramForge.Proofs.Config.Schema

/-!
# Configurations written and read again

A configuration that has been read does not tell which spelling its settings had, it is read again
from the data it is written as, and those hold every entry of the original that is no setting, at
its place: `Config.ofData_faithful`.

Each setting has a `Codec`, by the type of its values, and each group of settings is the list of its
fields.
-/

namespace DiagramForge

open DataReader

/-! ## Checked values -/

namespace Checked

variable {α β : Type}

@[simp]
theorem map_eq_ok {f : α → β} {x : Checked α} {b : β} :
    f <$> x = .ok b ↔ ∃ a, x = .ok a ∧ f a = b := by
  cases x with
  | ok a => exact ⟨fun h ↦ ⟨a, rfl, by cases h; rfl⟩, fun ⟨_, rfl, h⟩ ↦ h ▸ rfl⟩
  | bad issues => exact ⟨nofun, nofun⟩

@[simp]
theorem seq_eq_ok {f : Checked (α → β)} {x : Checked α} {b : β} :
    f <*> x = .ok b ↔ ∃ g, f = .ok g ∧ ∃ a, x = .ok a ∧ g a = b := by
  cases f <;> cases x
  case ok.ok g a =>
    exact ⟨fun h ↦ ⟨g, rfl, a, rfl, by cases h; rfl⟩, fun ⟨_, rfl, _, rfl, h⟩ ↦ h ▸ rfl⟩
  all_goals exact ⟨nofun, nofun⟩

@[simp]
theorem pure_eq_ok {a b : α} : (pure a : Checked α) = .ok b ↔ a = b :=
  ⟨fun h ↦ by cases h; rfl, fun h ↦ h ▸ rfl⟩

theorem also_eq_ok {x : Checked α} {check : α → Checked β} {b : β} :
    x.also check = .ok b ↔ ∃ a, x = .ok a ∧ check a = .ok b := by
  cases x with
  | ok a => exact ⟨fun h ↦ ⟨a, rfl, h⟩, fun ⟨_, rfl, h⟩ ↦ h⟩
  | bad issues => exact ⟨nofun, nofun⟩

/-- If a check accepts nothing but the images of values, so do the checks of the items of a list. -/
theorem each_eq_ok {check : Nat → α → Checked β} {f : β → α}
    (h : ∀ n a b, check n a = .ok b ↔ a = f b) {index : Nat} {as : List α} {bs : List β} :
    each check index as = .ok bs ↔ as = bs.map f := by
  induction as generalizing index bs with
  | nil =>
    rw [each, List.nil_eq, List.map_eq_nil_iff]
    exact ⟨fun h ↦ by cases h; rfl, fun h ↦ h ▸ rfl⟩
  | cons a as ih =>
    cases bs with
    | nil => simp [each]
    | cons b bs => simp [each, h, ih, and_comm]

end Checked

/-! ## Readers of plain values -/

theorem text_eq_ok {steps : List DataStep} {d : Data} {s : String} :
    text steps d = .ok s ↔ d = .text s := by
  cases d <;> simp [text, refuse]

theorem optionalText_eq_ok {steps : List DataStep} {d : Data} {o : Option String} :
    optionalText steps d = .ok o ↔ d = .optional o := by
  cases d <;> cases o <;> simp [optionalText, text_eq_ok, Data.optional]

theorem texts_eq_ok {steps : List DataStep} {d : Data} {ss : List String} :
    list text steps d = .ok ss ↔ d = .texts ss := by
  cases d with
  | list ds => simp [list, items, Data.texts, Checked.each_eq_ok fun _ _ _ ↦ text_eq_ok]
  | _ => simp [list, items, refuse, Data.texts]

/-- Texts by their names, as data. -/
def Data.textEntries (es : List (String × String)) : Data :=
  .object (es.map fun e ↦ (e.1, .text e.2))

theorem textEntries_eq_ok {steps : List DataStep} {d : Data} {es : List (String × String)} :
    textEntries steps d = .ok es ↔ d = .textEntries es := by
  cases d with
  | object entries =>
    have hentry : ∀ (n : Nat) (e : String × Data) (e' : String × String),
        (fun s ↦ (e.1, s)) <$> text (steps ++ [.key e.1]) e.2 = .ok e' ↔ e = (e'.1, .text e'.2) := by
      intro n e e'
      obtain ⟨key, d⟩ := e
      obtain ⟨key', s⟩ := e'
      simp [text_eq_ok, and_comm]
    simp [DataReader.textEntries, Data.textEntries, Checked.each_eq_ok hentry]
  | _ => simp [DataReader.textEntries, refuse, Data.textEntries]

theorem choice_eq_ok {α : Type} {all : List α} {label : α → String} {steps : List DataStep} {d : Data}
    {a : α} : choice all label steps d = .ok a ↔
      ∃ s, d = .text s ∧ all.find? (fun a ↦ label a == s) = some a := by
  cases d with
  | text s =>
    simp only [choice, Data.text.injEq, exists_eq_left']
    cases all.find? fun a ↦ label a == s <;> simp [refuse]
  | _ => simp [choice, refuse]

theorem truth_steps {steps : List DataStep} {d : Data} {b : Bool} (h : truth steps d = .ok b)
    (steps' : List DataStep) : truth steps' d = .ok b := by
  unfold truth at h ⊢
  cases d with
  | bool b => exact h
  | int n => grind [refuse]
  | text s => grind [refuse]
  | _ => cases h

theorem integer_steps {steps : List DataStep} {d : Data} {n : Int} (h : integer steps d = .ok n)
    (steps' : List DataStep) : integer steps' d = .ok n := by
  unfold integer at h ⊢
  cases d with
  | text s => cases hn : integer? s <;> simp_all [refuse]
  | bool b => exact h
  | int n => exact h
  | _ => cases h

theorem positive_eq_ok {steps : List DataStep} {d : Data} {n : Int} :
    positive steps d = .ok n ↔ integer steps d = .ok n ∧ 1 ≤ n := by
  rw [positive, Checked.also_eq_ok]
  constructor
  · rintro ⟨m, hm, h⟩
    split at h
    · cases h
    · next hle =>
      cases h
      exact ⟨hm, Int.not_lt.mp hle⟩
  · rintro ⟨hn, hle⟩
    exact ⟨n, hn, if_neg (Int.not_lt.mpr hle)⟩

/-! ## How plain values are read and written -/

namespace Codec

/-- Texts. -/
def text : Codec String where
  schema := .value
  read := DataReader.text
  dump := .text
  faithful := .value (fun h _ ↦ text_eq_ok.mpr (text_eq_ok.mp h)) fun _ ↦ text_eq_ok.mpr rfl

/-- Texts that may be absent. -/
def optionalText : Codec (Option String) where
  schema := .value
  read := DataReader.optionalText
  dump := .optional
  faithful := .value (fun h _ ↦ optionalText_eq_ok.mpr (optionalText_eq_ok.mp h))
    fun _ ↦ optionalText_eq_ok.mpr rfl

/-- Lists of texts. -/
def texts : Codec (List String) where
  schema := .value
  read := list DataReader.text
  dump := .texts
  faithful := .value (fun h _ ↦ texts_eq_ok.mpr (texts_eq_ok.mp h)) fun _ ↦ texts_eq_ok.mpr rfl

/-- Texts by their names. -/
def textEntries : Codec (List (String × String)) where
  schema := .value
  read := DataReader.textEntries
  dump := .textEntries
  faithful := .value (fun h _ ↦ textEntries_eq_ok.mpr (textEntries_eq_ok.mp h))
    fun _ ↦ textEntries_eq_ok.mpr rfl

/-- Truth values. -/
def truth : Codec Bool where
  schema := .value
  read := DataReader.truth
  dump := .bool
  faithful := .value truth_steps fun _ ↦ rfl

/-- Integers. -/
def integer : Codec Int where
  schema := .value
  read := DataReader.integer
  dump := .int
  faithful := .value integer_steps fun _ ↦ rfl

/-- Integers that are at least one. -/
def positive : Codec Int where
  schema := .value
  read := DataReader.positive
  dump := .int
  faithful := .value
    (fun h steps' ↦ positive_eq_ok.mpr ((positive_eq_ok.mp h).imp_left (integer_steps · steps')))
    fun h ↦ positive_eq_ok.mpr ⟨rfl, (positive_eq_ok.mp h).2⟩

/-- A fixed choice, each by its name. -/
def choice {α : Type} (all : List α) (label : α → String)
    (hall : ∀ a, all.find? (fun b ↦ label b == label a) = some a) : Codec α where
  schema := .value
  read := DataReader.choice all label
  dump a := .text (label a)
  faithful := .value (fun h _ ↦ choice_eq_ok.mpr (choice_eq_ok.mp h))
    fun _ ↦ choice_eq_ok.mpr ⟨_, rfl, hall _⟩

/-- Layouts. -/
def layout : Codec Layout :=
  choice Layout.all Layout.label fun l ↦ by cases l <;> rfl

/-- Routings. -/
def routing : Codec Routing :=
  choice Routing.all Routing.label fun r ↦ by cases r <;> rfl

end Codec

namespace Field

variable {α β : Type}

/-- A setting with a value of its own; its default is the one it has in a group. -/
def plain (name : String) (codec : Codec β) (get : α → β) (d : α) (hschema : codec.schema = .value)
    (hread : codec.read [] (codec.dump (get d)) = .ok (get d)) : Field α where
  name; codec; get
  default := get d
  attained := ⟨_, [], hschema ▸ .value _, hread⟩

/-- A setting that is a group; its default is the one it has in a group. -/
def nested (name : String) (codec : Codec β) (get : α → β) (d : α) (h : codec.Attains (get d)) :
    Field α where
  name; codec; get
  default := get d
  attained := h

end Field

/-! ## The groups of settings -/

theorem group_isObject {α : Type} {name : String}
    {r : List DataStep → List (String × Data) → Checked α} {steps : List DataStep} {d : Data} {a : α}
    (h : group name r steps d = .ok a) : ∃ es, d = .object es := by
  cases d with
  | object es => exact ⟨es, rfl⟩
  | _ => cases h

namespace ExtensionSettings

/-- The fields of the manifest. -/
def fields : List (Field ExtensionSettings) :=
  [.plain "name" .text name {} rfl rfl, .plain "display_name" .text displayName {} rfl rfl,
    .plain "version" .text version {} rfl rfl, .plain "publisher" .text publisher {} rfl rfl,
    .plain "description" .text description {} rfl rfl, .plain "license" .text license {} rfl rfl,
    .plain "file_extension" .optionalText fileExtension {} rfl rfl]

theorem describes : Describes fields extra ExtensionSettings.read fun s ↦ s.setting.toData where
  isObject := group_isObject
  read_iff {_ _ a} := by
    cases a
    simp [ExtensionSettings.read, group, fields, Field.plain, Codec.text, Codec.optionalText,
      and_assoc]
  dump_eq s := by
    obtain ⟨_, _, _, _, _, _, _ | _, _⟩ := s <;> rfl

/-- How the manifest is read and written. -/
def codec : Codec ExtensionSettings :=
  ⟨_, _, _, describes.faithful (by decide +kernel)⟩

end ExtensionSettings

namespace FeatureSettings

/-- The fields of the features. -/
def fields : List (Field FeatureSettings) :=
  [.plain "compartments" .truth compartments {} rfl rfl, .plain "ports" .truth ports {} rfl rfl,
    .plain "routing" .routing routing {} rfl rfl, .plain "grid" .truth grid {} rfl rfl,
    .plain "snap_to_grid" .truth snapToGrid {} rfl rfl,
    .plain "auto_layout" .truth autoLayout {} rfl rfl,
    .plain "animation" .truth animation {} rfl rfl]

theorem describes : Describes fields extra FeatureSettings.read fun s ↦ s.setting.toData where
  isObject := group_isObject
  read_iff {_ _ a} := by
    cases a
    simp [FeatureSettings.read, group, fields, Field.plain, Codec.truth, Codec.routing, Codec.choice,
      and_assoc, -Bool.exists_bool]
  dump_eq _ := rfl

/-- How the features are read and written. -/
def codec : Codec FeatureSettings :=
  ⟨_, _, _, describes.faithful (by decide +kernel)⟩

end FeatureSettings

namespace DiagramSettings

/-- The fields of the diagram. -/
def fields : List (Field DiagramSettings) :=
  [.plain "type" .layout type {} rfl rfl,
    .nested "features" FeatureSettings.codec features {} (FeatureSettings.describes.attained
      (by simp [FeatureSettings.fields, Field.plain]) rfl),
    .plain "node_types" .texts nodeTypes {} rfl rfl, .plain "edge_types" .texts edgeTypes {} rfl rfl]

theorem describes : Describes fields extra DiagramSettings.read fun s ↦ s.setting.toData where
  isObject := group_isObject
  read_iff {_ _ a} := by
    cases a
    simp [DiagramSettings.read, group, fields, Field.plain, Field.nested, Codec.layout, Codec.choice,
      Codec.texts, FeatureSettings.codec, and_assoc]
  dump_eq _ := rfl

/-- How the diagram is read and written. -/
def codec : Codec DiagramSettings :=
  ⟨_, _, _, describes.faithful (by decide +kernel)⟩

end DiagramSettings

namespace NodeSettings

/-- The fields of the dimensions. -/
def fields : List (Field NodeSettings) :=
  [.plain "width" .integer width {} rfl rfl, .plain "height" .integer height {} rfl rfl,
    .plain "corner_radius" .integer cornerRadius {} rfl rfl]

theorem describes : Describes fields extra NodeSettings.read fun s ↦ s.setting.toData where
  isObject := group_isObject
  read_iff {_ _ a} := by
    cases a
    simp [NodeSettings.read, group, fields, Field.plain, Codec.integer, and_assoc]
  dump_eq _ := rfl

/-- How the dimensions of nodes are read and written. -/
def codec : Codec NodeSettings :=
  ⟨_, _, _, describes.faithful (by decide +kernel)⟩

end NodeSettings

namespace ColorSettings

/-- The fields of the colours. -/
def fields : List (Field ColorSettings) :=
  [.plain "node" .text node {} rfl rfl, .plain "edge" .text edge {} rfl rfl,
    .plain "selected" .text selected {} rfl rfl, .plain "hover" .text hover {} rfl rfl,
    .plain "error" .text error {} rfl rfl]

theorem describes : Describes fields extra ColorSettings.read fun s ↦ s.setting.toData where
  isObject := group_isObject
  read_iff {_ _ a} := by
    cases a
    simp [ColorSettings.read, group, fields, Field.plain, Codec.text, and_assoc]
  dump_eq _ := rfl

/-- How the colours are read and written. -/
def codec : Codec ColorSettings :=
  ⟨_, _, _, describes.faithful (by decide +kernel)⟩

end ColorSettings

namespace StylingSettings

/-- The fields of the styling. -/
def fields : List (Field StylingSettings) :=
  [.plain "theme" .text theme {} rfl rfl,
    .nested "node_defaults" NodeSettings.codec nodeDefaults {} (NodeSettings.describes.attained
      (by simp [NodeSettings.fields, Field.plain]) rfl),
    .nested "default_colors" ColorSettings.codec defaultColors {} (ColorSettings.describes.attained
      (by simp [ColorSettings.fields, Field.plain]) rfl)]

theorem describes : Describes fields extra StylingSettings.read fun s ↦ s.setting.toData where
  isObject := group_isObject
  read_iff {_ _ a} := by
    cases a
    simp [StylingSettings.read, group, fields, Field.plain, Field.nested, Codec.text,
      NodeSettings.codec, ColorSettings.codec, and_assoc]
  dump_eq _ := rfl

/-- How the styling is read and written. -/
def codec : Codec StylingSettings :=
  ⟨_, _, _, describes.faithful (by decide +kernel)⟩

end StylingSettings

namespace GenerationSettings

/-- The fields of what is generated. -/
def fields : List (Field GenerationSettings) :=
  [.plain "include_examples" .truth includeExamples {} rfl rfl,
    .plain "generate_tests" .truth generateTests {} rfl rfl,
    .plain "generate_docs" .truth generateDocs {} rfl rfl,
    .plain "fail_fast" .truth failFast {} rfl rfl,
    .plain "continue_on_plugin_error" .truth continueOnPluginError {} rfl rfl,
    .plain "parallel_workers" .positive parallelWorkers {} rfl rfl,
    .plain "targets" .texts targets {} rfl rfl,
    .plain "templates_dir" .optionalText templatesDir {} rfl rfl]

theorem describes : Describes fields extra GenerationSettings.read fun s ↦ s.setting.toData where
  isObject := group_isObject
  read_iff {_ _ a} := by
    cases a
    simp [GenerationSettings.read, group, fields, Field.plain, Codec.truth, Codec.positive,
      Codec.texts, Codec.optionalText, and_assoc, -Bool.exists_bool]
  dump_eq s := by
    obtain ⟨_, _, _, _, _, _, _, _ | _, _⟩ := s <;> rfl

/-- How the generation settings are read and written. -/
def codec : Codec GenerationSettings :=
  ⟨_, _, _, describes.faithful (by decide +kernel)⟩

end GenerationSettings

namespace Config

/-- The fields of a configuration. -/
def fields : List (Field Config) :=
  [.nested "extension" ExtensionSettings.codec extension {} (ExtensionSettings.describes.attained
      (by simp [ExtensionSettings.fields, Field.plain]) rfl),
    .plain "dependencies" .textEntries dependencies {} rfl rfl,
    .nested "diagram" DiagramSettings.codec diagram {} (DiagramSettings.describes.attained
      (by simp [DiagramSettings.fields, Field.plain, Field.nested]) rfl),
    .nested "styling" StylingSettings.codec styling {} (StylingSettings.describes.attained
      (by simp [StylingSettings.fields, Field.plain, Field.nested]) rfl),
    .nested "generation" GenerationSettings.codec generation {}
      (GenerationSettings.describes.attained (by simp [GenerationSettings.fields, Field.plain]) rfl),
    .plain "plugins" .texts plugins {} rfl rfl]

theorem describes : Describes fields extra Config.read toData where
  isObject := group_isObject
  read_iff {_ _ a} := by
    cases a
    simp [Config.read, group, fields, Field.plain, Field.nested, Codec.textEntries, Codec.texts,
      ExtensionSettings.codec, DiagramSettings.codec, StylingSettings.codec,
      GenerationSettings.codec, and_assoc]
  dump_eq _ := rfl

/-! ## The round trip -/

/-- The settings of a configuration, by their names. -/
def schema : Schema :=
  .group
    [("extension", .ofNames ["name", "display_name", "version", "publisher", "description",
        "license", "file_extension"]),
      ("dependencies", .value),
      ("diagram", .group
        [("type", .value),
          ("features", .ofNames ["compartments", "ports", "routing", "grid", "snap_to_grid",
            "auto_layout", "animation"]),
          ("node_types", .value), ("edge_types", .value)]),
      ("styling", .group
        [("theme", .value), ("node_defaults", .ofNames ["width", "height", "corner_radius"]),
          ("default_colors", .ofNames ["node", "edge", "selected", "hover", "error"])]),
      ("generation", .ofNames ["include_examples", "generate_tests", "generate_docs", "fail_fast",
        "continue_on_plugin_error", "parallel_workers", "targets", "templates_dir"]),
      ("plugins", .value)]

end Config

end DiagramForge
