import DiagramForge.Data
import DiagramForge.Path

/-!
# Configuration

What a user can set: the manifest of the extension, the diagram, its styling, and how generation
behaves. Every setting has a default, so the empty configuration is complete.

Each group of settings keeps the entries it does not know, for templates to use. Such an entry may
bear the name of a setting; it then hides the setting from templates, but not from the generator.
-/

namespace DiagramForge

/-- Entries of a configuration that no setting is made of. -/
abbrev Extra := List (String × Data)

/-- The layouts a diagram can have. -/
inductive Layout where
  /-- Nodes connected by edges. -/
  | nodeEdge
  /-- Nodes with compartments. -/
  | compartment
  /-- Nodes with ports. -/
  | port
  /-- Nodes inside nodes. -/
  | hierarchical
deriving DecidableEq, Inhabited

/-- The name of a layout. -/
def Layout.label : Layout → String
  | nodeEdge => "node-edge"
  | compartment => "compartment"
  | port => "port"
  | hierarchical => "hierarchical"

/-- All layouts. -/
def Layout.all : List Layout :=
  [nodeEdge, compartment, port, hierarchical]

/-- The ways to draw an edge. -/
inductive Routing where
  /-- Straight segments. -/
  | polyline
  /-- Horizontal and vertical segments. -/
  | manhattan
  /-- A curve. -/
  | bezier
deriving DecidableEq, Inhabited

/-- The name of a routing. -/
def Routing.label : Routing → String
  | polyline => "polyline"
  | manhattan => "manhattan"
  | bezier => "bezier"

/-- All routings. -/
def Routing.all : List Routing :=
  [polyline, manhattan, bezier]

/-- The manifest of the extension. -/
structure ExtensionSettings where
  /-- The name of the package. -/
  name : String := "my-glsp-extension"
  /-- The name shown to users. -/
  displayName : String := "My GLSP Extension"
  /-- The version of the package. -/
  version : String := "1.0.0"
  /-- Who publishes the package. -/
  publisher : String := "my-company"
  /-- What the package is for. -/
  description : String := "A GLSP-based visual modeling tool"
  /-- The licence of the package. -/
  license : String := "MIT"
  /-- The suffix of model files, without its dot. -/
  fileExtension : Option String := none
  /-- Further entries. -/
  extra : Extra := []
deriving Inhabited

/-- What a diagram can do. -/
structure FeatureSettings where
  /-- Nodes have compartments. -/
  compartments : Bool := false
  /-- Nodes have ports. -/
  ports : Bool := false
  /-- How edges are drawn. -/
  routing : Routing := .polyline
  /-- A grid is shown. -/
  grid : Bool := true
  /-- Elements snap to the grid. -/
  snapToGrid : Bool := true
  /-- Elements are placed automatically. -/
  autoLayout : Bool := false
  /-- Changes are animated. -/
  animation : Bool := true
  /-- Further entries. -/
  extra : Extra := []
deriving Inhabited

/-- The diagram, and which interfaces are what in it. -/
structure DiagramSettings where
  /-- The layout. -/
  type : Layout := .nodeEdge
  /-- What the diagram can do. -/
  features : FeatureSettings := {}
  /-- Interfaces that are nodes whatever they look like. -/
  nodeTypes : List String := []
  /-- Interfaces that are edges whatever they look like. -/
  edgeTypes : List String := []
  /-- Further entries. -/
  extra : Extra := []
deriving Inhabited

/-- The dimensions of nodes. -/
structure NodeSettings where
  /-- The width. -/
  width : Int := 100
  /-- The height. -/
  height : Int := 60
  /-- The radius of the corners. -/
  cornerRadius : Int := 5
  /-- Further entries. -/
  extra : Extra := []
deriving Inhabited

/-- The colours of the diagram. -/
structure ColorSettings where
  /-- The colour of nodes. -/
  node : String := "#4A90E2"
  /-- The colour of edges. -/
  edge : String := "#333333"
  /-- The colour of what is selected. -/
  selected : String := "#FF6B6B"
  /-- The colour of what is under the pointer. -/
  hover : String := "#FFA500"
  /-- The colour of errors. -/
  error : String := "#DC143C"
  /-- Further entries. -/
  extra : Extra := []
deriving Inhabited

/-- How the diagram looks. -/
structure StylingSettings where
  /-- The theme. -/
  theme : String := "light"
  /-- The dimensions of nodes. -/
  nodeDefaults : NodeSettings := {}
  /-- The colours. -/
  defaultColors : ColorSettings := {}
  /-- Further entries. -/
  extra : Extra := []
deriving Inhabited

/-- What is generated, and how failures are handled. -/
structure GenerationSettings where
  /-- Sample models are generated. -/
  includeExamples : Bool := true
  /-- Tests are generated. -/
  generateTests : Bool := true
  /-- Documentation is generated. -/
  generateDocs : Bool := true
  /-- The first template that fails ends its strategy. -/
  failFast : Bool := false
  /-- A plugin that fails is reported and does not end the run. -/
  continueOnPluginError : Bool := false
  /-- How many interfaces are rendered at a time. -/
  parallelWorkers : Int := 1
  /-- The categories of output that are wanted; none stands for all. -/
  targets : List String := []
  /-- The directory of the project's own templates. -/
  templatesDir : Option String := none
  /-- Further entries. -/
  extra : Extra := []
deriving Inhabited

/-- The packages that the generated code depends on. -/
def defaultDependencies : List (String × String) :=
  [("@eclipse-glsp/server", "^2.0.0"), ("@eclipse-glsp/client", "^2.0.0"),
    ("@eclipse-glsp/theia-integration", "^2.0.0"), ("@theia/core", "^1.35.0")]

/-- A configuration. -/
structure Config where
  /-- The manifest of the extension. -/
  extension : ExtensionSettings := {}
  /-- The packages that the generated code depends on, with their versions. -/
  dependencies : List (String × String) := defaultDependencies
  /-- The diagram. -/
  diagram : DiagramSettings := {}
  /-- How the diagram looks. -/
  styling : StylingSettings := {}
  /-- What is generated. -/
  generation : GenerationSettings := {}
  /-- The plugins that take part. -/
  plugins : List String := []
  /-- Further entries. -/
  extra : Extra := []
deriving Inhabited

/-! ## Configurations as data -/

/-- A text that may be absent, as data. -/
def Data.optional : Option String → Data
  | some s => .text s
  | none => .null

/-- A list of texts, as data. -/
def Data.texts (ss : List String) : Data :=
  .list (ss.map .text)

/-- The entries of a group: its settings, and the further entries set over them. -/
def withExtra (settings : List (String × Data)) (extra : Extra) : List (String × Data) :=
  Entries.merge settings extra

/-! ## Derived settings -/

/-- The directory of the project's own templates, seen from the directory of the project. -/
def Config.templatesPath? (c : Config) (project : Path) : Option Path :=
  match c.generation.templatesDir with
  | none => none
  | some dir => if dir == "" then none else some (project.join (Path.ofString dir))

end DiagramForge
