import DiagramForge.Config.Check
import DiagramForge.Config.Settings

/-!
# Reading a configuration from data

Each group of settings is read by one `DataReader`, field by field in the order of declaration; what
no field is read from becomes the group's further entries. Reading reports everything that is
wrong, not only what is wrong first.
-/

namespace DiagramForge

open DataReader

/-- Reads the manifest. -/
def ExtensionSettings.read : DataReader ExtensionSettings :=
  group GroupKind.extension.label fun steps es ↦
    let d : ExtensionSettings := {}
    ExtensionSettings.mk
      <$> field es steps "name" text d.name
      <*> field es steps "display_name" text d.displayName
      <*> field es steps "version" text d.version
      <*> field es steps "publisher" text d.publisher
      <*> field es steps "description" text d.description
      <*> field es steps "license" text d.license
      <*> field es steps "file_extension" optionalText d.fileExtension
      <*> pure (unread es ["name", "display_name", "version", "publisher", "description", "license",
        "file_extension"])

/-- Reads the features. -/
def FeatureSettings.read : DataReader FeatureSettings :=
  group GroupKind.features.label fun steps es ↦
    let d : FeatureSettings := {}
    FeatureSettings.mk
      <$> field es steps "compartments" truth d.compartments
      <*> field es steps "ports" truth d.ports
      <*> field es steps "routing" (choice Routing.all Routing.label) d.routing
      <*> field es steps "grid" truth d.grid
      <*> field es steps "snap_to_grid" truth d.snapToGrid
      <*> field es steps "auto_layout" truth d.autoLayout
      <*> field es steps "animation" truth d.animation
      <*> pure (unread es ["compartments", "ports", "routing", "grid", "snap_to_grid",
        "auto_layout", "animation"])

/-- Reads the settings of the diagram. -/
def DiagramSettings.read : DataReader DiagramSettings :=
  group GroupKind.diagram.label fun steps es ↦
    let d : DiagramSettings := {}
    DiagramSettings.mk
      <$> field es steps "type" (choice Layout.all Layout.label) d.type
      <*> field es steps "features" FeatureSettings.read d.features
      <*> field es steps "node_types" (list text) d.nodeTypes
      <*> field es steps "edge_types" (list text) d.edgeTypes
      <*> pure (unread es ["type", "features", "node_types", "edge_types"])

/-- Reads the dimensions of nodes. -/
def NodeSettings.read : DataReader NodeSettings :=
  group GroupKind.nodes.label fun steps es ↦
    let d : NodeSettings := {}
    NodeSettings.mk
      <$> field es steps "width" integer d.width
      <*> field es steps "height" integer d.height
      <*> field es steps "corner_radius" integer d.cornerRadius
      <*> pure (unread es ["width", "height", "corner_radius"])

/-- Reads the colours. -/
def ColorSettings.read : DataReader ColorSettings :=
  group GroupKind.colors.label fun steps es ↦
    let d : ColorSettings := {}
    ColorSettings.mk
      <$> field es steps "node" text d.node
      <*> field es steps "edge" text d.edge
      <*> field es steps "selected" text d.selected
      <*> field es steps "hover" text d.hover
      <*> field es steps "error" text d.error
      <*> pure (unread es ["node", "edge", "selected", "hover", "error"])

/-- Reads the styling. -/
def StylingSettings.read : DataReader StylingSettings :=
  group GroupKind.styling.label fun steps es ↦
    let d : StylingSettings := {}
    StylingSettings.mk
      <$> field es steps "theme" text d.theme
      <*> field es steps "node_defaults" NodeSettings.read d.nodeDefaults
      <*> field es steps "default_colors" ColorSettings.read d.defaultColors
      <*> pure (unread es ["theme", "node_defaults", "default_colors"])

/-- Reads the generation settings. -/
def GenerationSettings.read : DataReader GenerationSettings :=
  group GroupKind.generation.label fun steps es ↦
    let d : GenerationSettings := {}
    GenerationSettings.mk
      <$> field es steps "include_examples" truth d.includeExamples
      <*> field es steps "generate_tests" truth d.generateTests
      <*> field es steps "generate_docs" truth d.generateDocs
      <*> field es steps "fail_fast" truth d.failFast
      <*> field es steps "continue_on_plugin_error" truth d.continueOnPluginError
      <*> field es steps "parallel_workers" positive d.parallelWorkers
      <*> field es steps "targets" (list text) d.targets
      <*> field es steps "templates_dir" optionalText d.templatesDir
      <*> pure (unread es ["include_examples", "generate_tests", "generate_docs", "fail_fast",
        "continue_on_plugin_error", "parallel_workers", "targets", "templates_dir"])

/-- Reads a configuration. -/
def Config.read : DataReader Config :=
  group GroupKind.config.label fun steps es ↦
    let d : Config := {}
    Config.mk
      <$> field es steps "extension" ExtensionSettings.read d.extension
      <*> field es steps "dependencies" textEntries d.dependencies
      <*> field es steps "diagram" DiagramSettings.read d.diagram
      <*> field es steps "styling" StylingSettings.read d.styling
      <*> field es steps "generation" GenerationSettings.read d.generation
      <*> field es steps "plugins" (list text) d.plugins
      <*> pure (unread es ["extension", "dependencies", "diagram", "styling", "generation",
        "plugins"])

/-- The configuration that data describe. -/
def Config.ofData (d : Data) : Except (List Issue) Config :=
  (Config.read [] d).toExcept

end DiagramForge
