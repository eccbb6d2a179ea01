import DiagramForge.Config.Basic
import DiagramForge.Diagnostic

/-!
# Settings in effect

A run works with settings that plugins may have assigned, and an assigned value is not checked: it
is what uses a setting that finds out whether its value will do. So the settings in effect are a
tree whose groups have names for their parts and whose leaves hold any data. A configuration that
has been read is such a tree as well, all of whose leaves have the type of their setting.

A part of a group is one of its settings or a further entry. Assigning a name that no setting bears
makes a further entry; in the entries of a group those stand over the settings.
-/

namespace DiagramForge

/-! ## Groups -/

/-- The groups of settings. -/
inductive GroupKind where
  /-- The whole configuration. -/
  | config
  /-- The manifest. -/
  | extension
  /-- The diagram. -/
  | diagram
  /-- The features. -/
  | features
  /-- The styling. -/
  | styling
  /-- The dimensions of nodes. -/
  | nodes
  /-- The colours. -/
  | colors
  /-- What is generated. -/
  | generation
deriving DecidableEq, Inhabited

namespace GroupKind

/-- The name of a group in messages. -/
def label : GroupKind → String
  | config => "GenerationConfig"
  | extension => "ExtensionConfig"
  | diagram => "DiagramConfig"
  | features => "DiagramFeatures"
  | styling => "StylingConfig"
  | nodes => "NodeDefaults"
  | colors => "ColorConfig"
  | generation => "GenerationOptions"

/-- The settings of a group that are integers. -/
def integers : GroupKind → List String
  | nodes => ["width", "height", "corner_radius"]
  | generation => ["parallel_workers"]
  | _ => []

/-- The value of a setting as the entries of its group have it: where an integer belongs, a truth
value is zero or one. -/
def entry (kind : GroupKind) (name : String) : Data → Data
  | .bool b => if kind.integers.contains name then .int (if b then 1 else 0) else .bool b
  | d => d

end GroupKind

/-- A setting in effect. -/
inductive Setting where
  /-- A value of any type. -/
  | value (d : Data)
  /-- A layout. -/
  | layout (l : Layout)
  /-- A routing. -/
  | routing (r : Routing)
  /-- A group with its settings and its further entries. -/
  | group (kind : GroupKind) (settings : List (String × Setting)) (extra : Extra)
deriving Inhabited

namespace Setting

/-! ## Settings as data -/

mutual

/-- A setting as data. -/
def toData : Setting → Data
  | value d => d
  | layout l => .text l.label
  | routing r => .text r.label
  | group kind settings extra => .object (withExtra (entriesOf kind settings) extra)

/-- The settings of a group as entries. -/
def entriesOf (kind : GroupKind) : List (String × Setting) → List (String × Data)
  | [] => []
  | (name, s) :: more => (name, kind.entry name s.toData) :: entriesOf kind more

end

/-- The entries of a group; a setting of another kind has none. -/
def entries (s : Setting) : List (String × Data) :=
  match s.toData with
  | .object es => es
  | _ => []

/-- The name of the type of a setting. -/
def typeName : Setting → String
  | value d => d.typeName
  | layout _ => "DiagramType"
  | routing _ => "EdgeRouting"
  | group kind _ _ => kind.label

/-- Whether a setting counts as true. -/
def isTrue : Setting → Bool
  | value d => d.isTrue
  | _ => true

/-! ## Parts -/

/-- The part of a setting with a name. -/
def part (s : Setting) (name : String) : Except Crash Setting :=
  match s with
  | group kind settings extra =>
    match Entries.get? settings name with
    | some t => .ok t
    | none =>
      match Entries.get? extra name with
      | some d => .ok (value d)
      | none => .error (Crash.noAttribute kind.label name)
  | s => .error (Crash.noAttribute s.typeName name)

/-- The part of a setting that a path of names leads to. -/
def partAt (s : Setting) : (path : List String) → Except Crash Setting
  | [] => .ok s
  | name :: path => do (← s.part name).partAt path

/-- Assigns a part of a setting. Groups admit any name, but keep what begins with an underscore out
of their entries; a choice admits it too, and it makes no difference there; other values have no
parts. -/
def setPart (s : Setting) (name : String) (t : Setting) : Except Crash Setting :=
  match s, t with
  | group kind settings extra, t =>
    if Entries.has settings name then .ok (group kind (Entries.set settings name t) extra)
    else if name.startsWith "_" then .ok s
    else .ok (group kind settings (Entries.set extra name t.toData))
  | value d, _ => .error (Crash.noAttribute d.typeName name)
  | s, _ => .ok s

/-- Assigns data to the part of a setting that a path of names leads to. -/
def assign (s : Setting) (d : Data) : (path : List String) → Except Crash Setting
  | [] => .ok (value d)
  | [name] => s.setPart name (value d)
  | name :: path => do s.setPart name (← (← s.part name).assign d path)

/-! ## Features -/

/-- The names of the features that are switched on, further entries included, in ascending
order. -/
def enabled : Setting → Except Crash (List String)
  | s@(group ..) => .ok ((s.entries.filterMap fun e ↦
      if e.2 == .bool true then some e.1 else none).mergeSort (· ≤ ·))
  | s => .error (Crash.noAttribute s.typeName "enabled")

end Setting

/-! ## The settings of a configuration -/

/-- A truth value as a setting. -/
def Setting.bool (b : Bool) : Setting := .value (.bool b)

/-- A number as a setting. -/
def Setting.int (n : Int) : Setting := .value (.int n)

/-- A text as a setting. -/
def Setting.text (s : String) : Setting := .value (.text s)

/-- The manifest as a setting. -/
def ExtensionSettings.setting (s : ExtensionSettings) : Setting :=
  .group .extension
    [("name", .text s.name), ("display_name", .text s.displayName), ("version", .text s.version),
      ("publisher", .text s.publisher), ("description", .text s.description),
      ("license", .text s.license), ("file_extension", .value (.optional s.fileExtension))]
    s.extra

/-- The features as a setting. -/
def FeatureSettings.setting (s : FeatureSettings) : Setting :=
  .group .features
    [("compartments", .bool s.compartments), ("ports", .bool s.ports),
      ("routing", .routing s.routing), ("grid", .bool s.grid),
      ("snap_to_grid", .bool s.snapToGrid), ("auto_layout", .bool s.autoLayout),
      ("animation", .bool s.animation)]
    s.extra

/-- The diagram as a setting. -/
def DiagramSettings.setting (s : DiagramSettings) : Setting :=
  .group .diagram
    [("type", .layout s.type), ("features", s.features.setting),
      ("node_types", .value (.texts s.nodeTypes)), ("edge_types", .value (.texts s.edgeTypes))]
    s.extra

/-- The dimensions of nodes as a setting. -/
def NodeSettings.setting (s : NodeSettings) : Setting :=
  .group .nodes
    [("width", .int s.width), ("height", .int s.height), ("corner_radius", .int s.cornerRadius)]
    s.extra

/-- The colours as a setting. -/
def ColorSettings.setting (s : ColorSettings) : Setting :=
  .group .colors
    [("node", .text s.node), ("edge", .text s.edge), ("selected", .text s.selected),
      ("hover", .text s.hover), ("error", .text s.error)]
    s.extra

/-- The styling as a setting. -/
def StylingSettings.setting (s : StylingSettings) : Setting :=
  .group .styling
    [("theme", .text s.theme), ("node_defaults", s.nodeDefaults.setting),
      ("default_colors", s.defaultColors.setting)]
    s.extra

/-- What is generated as a setting. -/
def GenerationSettings.setting (s : GenerationSettings) : Setting :=
  .group .generation
    [("include_examples", .bool s.includeExamples), ("generate_tests", .bool s.generateTests),
      ("generate_docs", .bool s.generateDocs), ("fail_fast", .bool s.failFast),
      ("continue_on_plugin_error", .bool s.continueOnPluginError),
      ("parallel_workers", .int s.parallelWorkers), ("targets", .value (.texts s.targets)),
      ("templates_dir", .value (.optional s.templatesDir))]
    s.extra

/-- The settings of a configuration. -/
def Config.settings (c : Config) : Setting :=
  .group .config
    [("extension", c.extension.setting),
      ("dependencies", .value (.object (c.dependencies.map fun e ↦ (e.1, .text e.2)))),
      ("diagram", c.diagram.setting), ("styling", c.styling.setting),
      ("generation", c.generation.setting), ("plugins", .value (.texts c.plugins))]
    c.extra

/-- A configuration as data. -/
def Config.toData (c : Config) : Data :=
  c.settings.toData

/-- The entries of a configuration. -/
def Config.entries (c : Config) : List (String × Data) :=
  c.settings.entries

/-- The names of the features that are switched on. -/
def FeatureSettings.enabled (s : FeatureSettings) : List String :=
  s.setting.enabled.toOption.getD []

end DiagramForge
