import DiagramForge.Config.Settings
import DiagramForge.Grammar.Basic
import DiagramForge.Naming
import DiagramForge.Template.Stream

/-!
# Diagrams

What templates render: every interface of a grammar as an element of a diagram, either a node or an
edge, with its properties resolved and its inherited properties gathered.

Whatever follows from the elements and the configuration is a function and not a field: the
identifier of an element, the node and edge types, the variables of templates. So these can never
disagree with what they are made from.
-/

namespace DiagramForge

/-! ## Elements -/

/-- What an element of a diagram can be. -/
inductive ElementKind where
  /-- A node. -/
  | node
  /-- An edge between two nodes. -/
  | edge
deriving DecidableEq, Inhabited

/-- The name of a kind of element. -/
def ElementKind.label : ElementKind → String
  | node => "node"
  | edge => "edge"

/-- What the name of a type denotes in a grammar. -/
inductive TypeTarget where
  /-- A primitive type. -/
  | primitive
  /-- An interface. -/
  | interface
  /-- An alias. -/
  | typeAlias
deriving DecidableEq, Inhabited

/-- The name of what a type denotes. -/
def TypeTarget.label : TypeTarget → String
  | primitive => "primitive"
  | interface => "interface"
  | typeAlias => "type_alias"

/-- A property of which is known what its type denotes and where it is declared. -/
structure ResolvedProperty extends Property where
  /-- What the name of its type denotes. -/
  target : TypeTarget
  /-- The interface that declares it. -/
  declaredIn : String
deriving DecidableEq, Inhabited

namespace ResolvedProperty

/-- Whether its values are elements. -/
def isReference (p : ResolvedProperty) : Bool :=
  p.target == .interface

/-- Whether its values are primitive. -/
def isPrimitive (p : ResolvedProperty) : Bool :=
  p.target == .primitive

/-- Whether it refers to a single element, as the ends of an edge do. -/
def isEnd (p : ResolvedProperty) : Bool :=
  p.isReference && !p.array

/-- Its type in generated code, where an element is known by its identifier. -/
def codeType (p : ResolvedProperty) : String :=
  let base := if p.isReference then "string" else p.type
  if p.array then base ++ "[]" else base

/-- The type that determines its default value. -/
def defaultType (p : ResolvedProperty) : String :=
  if p.array then "array" else p.type

end ResolvedProperty

/-- An interface as an element of a diagram. -/
structure Element where
  /-- The name of the interface. -/
  name : String
  /-- Whether it is a node or an edge. -/
  kind : ElementKind
  /-- The properties that the interface declares. -/
  properties : List ResolvedProperty
  /-- The inherited properties and those it declares itself. -/
  allProperties : List ResolvedProperty
  /-- The interfaces it extends. -/
  superTypes : List String
  /-- All interfaces it inherits from, the nearest first. -/
  ancestors : List String
  /-- The notes attached to it. -/
  annotations : Annotations
deriving DecidableEq, Inhabited

namespace Element

/-- The identifier that the diagram knows the element by. -/
def typeId (e : Element) : String :=
  e.kind.label ++ ":" ++ Text.lowerString e.name

/-- Whether it is a node. -/
def isNode (e : Element) : Bool :=
  e.kind == .node

/-- Whether it is an edge. -/
def isEdge (e : Element) : Bool :=
  e.kind == .edge

/-- Its properties that refer to elements. -/
def references (e : Element) : List ResolvedProperty :=
  e.allProperties.filter (·.isReference)

/-- The value of a note. -/
def note? (e : Element) (key : String) : Option String :=
  Entries.get? e.annotations key

/-- Whether a note leaves a feature switched on. -/
def allows (e : Element) (feature : String) : Bool :=
  match e.note? feature with
  | none => true
  | some value => Text.lower (Text.trim value.toList) != "false".toList

/-- The label of the element. -/
def label (e : Element) : String :=
  (e.note? "label").getD (Naming.toLabel e.name)

end Element

/-! ## Node types -/

/-- Parts of a name that suggest a circle. -/
def circleHints : List String :=
  ["start", "initial", "end", "final"]

/-- Parts of a name that suggest a diamond. -/
def diamondHints : List String :=
  ["decision", "choice", "gateway"]

/-- The shape that a name suggests. -/
def defaultShape (name : String) : String :=
  let name := Text.lowerString name
  if circleHints.any fun hint ↦ Text.stringOccursIn hint name then "circle"
  else if diamondHints.any fun hint ↦ Text.stringOccursIn hint name then "diamond"
  else "rectangle"

/-- A place of a node where edges can end. -/
structure Port where
  /-- The identifier of the port. -/
  id : String
  /-- Whether edges come in or go out. -/
  direction : String
deriving DecidableEq, Inhabited

/-- The dimensions of a node, which are numbers unless a plugin has set them to something else. -/
structure NodeSize where
  /-- The width. -/
  width : Data
  /-- The height. -/
  height : Data
  /-- The radius of the corners. -/
  cornerRadius : Data
deriving Inhabited

/-- A node with what determines its looks. -/
structure NodeType where
  /-- The element. -/
  element : Element
  /-- The shape. -/
  shape : String
  /-- The dimensions. -/
  size : NodeSize
  /-- The ports. -/
  ports : List Port
deriving Inhabited

/-- The ports of a node. -/
def portsOf (name : String) : List Port :=
  let name := Naming.toKebab name
  [⟨name ++ "-in", "in"⟩, ⟨name ++ "-out", "out"⟩]

/-- The dimensions of nodes in a group of settings. -/
def NodeSize.ofSetting (defaults : Setting) : Except Crash NodeSize := do
  let entry (name : String) : Except Crash Data := return (← defaults.part name).toData
  return ⟨← entry "width", ← entry "height", ← entry "corner_radius"⟩

/-- The node type of an element. -/
def NodeType.ofElement (s : Setting) (e : Element) : Except Crash NodeType := do
  let defaults ← s.partAt ["styling", "node_defaults"]
  let ports ← s.partAt ["diagram", "features", "ports"]
  return {
    element := e
    shape := (e.note? "shape").getD (defaultShape e.name)
    size := ← NodeSize.ofSetting defaults
    ports := if ports.isTrue then portsOf e.name else [] }

/-! ## Edge types -/

/-- The two properties that an edge runs between. -/
structure Ends where
  /-- The property that holds the source. -/
  source : ResolvedProperty
  /-- The property that holds the target. -/
  target : ResolvedProperty
deriving DecidableEq, Inhabited

/-- An edge with its ends. -/
structure EdgeType where
  /-- The element. -/
  element : Element
  /-- How it is drawn. -/
  routing : Routing
  /-- The ends, if the element has properties that can be ends. -/
  ends : Option Ends
deriving Inhabited

/-! ## Ancestry -/

/-- For each interface the interfaces it inherits from, the nearest first. -/
abbrev Ancestry := List (String × List String)

/-- The interfaces that an interface inherits from. -/
def Ancestry.of (a : Ancestry) (name : String) : List String :=
  (Entries.get? a name).getD []

/-! ## Diagrams -/

/-- What templates render. -/
structure Diagram where
  /-- The name of the project. -/
  projectName : String
  /-- The grammar. -/
  grammar : Grammar
  /-- The interfaces of the grammar in declaration order. -/
  elements : List Element
  /-- The nodes among the elements. -/
  nodeTypes : List NodeType
  /-- The edges among the elements. -/
  edgeTypes : List EdgeType
  /-- The inheritance between the interfaces. -/
  ancestry : Ancestry
  /-- The features that are switched on. -/
  features : List String := []
  /-- The entries of the configuration. -/
  config : List (String × Data) := []
  /-- When the diagram was built. -/
  generatedAt : String := ""
  /-- The functions that templates can call. -/
  helpers : List (String × Template.Helper) := []
  /-- The texts of the fragments that templates can include. -/
  partials : List (String × String) := []
  /-- Values that plugins add for templates. -/
  extras : List (String × Data) := []
deriving Inhabited

namespace Diagram

/-- The name of the grammar; a grammar without one is named after its project. -/
def grammarName (d : Diagram) : String :=
  match d.grammar.grammarName with
  | none => d.projectName
  | some name => if name == "" then d.projectName else name

/-- What the names of generated classes begin with. -/
def classPrefix (d : Diagram) : String :=
  match d.grammar.grammarName with
  | none => Naming.toPascal d.projectName
  | some name => if name == "" then Naming.toPascal d.projectName else name

/-- Whether a feature is switched on. -/
def hasFeature (d : Diagram) (name : String) : Bool :=
  d.features.contains name

/-- The first element with a name. -/
def element? (d : Diagram) (name : String) : Option Element :=
  d.elements.find? fun e ↦ e.name == name

end Diagram

end DiagramForge
