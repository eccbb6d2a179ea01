import DiagramForge.Diagram.Basic
import DiagramForge.Grammar.View

/-!
# Diagrams as templates see them

The records that templates read a diagram through, and the variables that every template has.
-/

namespace DiagramForge

open Template

/-- A class of records that describe a diagram. -/
def diagramClass (name : String) : RecordClass :=
  { home := "glspgen.context.models", name }

/-- What a type denotes, as one of a fixed choice. -/
def TypeTarget.view (t : TypeTarget) : Value :=
  .choice "glspgen.core.grammar" "TypeRefKind" (Text.upperString t.label) t.label

/-- The class of the record of a type that denotes something. -/
def TypeTarget.recordClass : TypeTarget → RecordClass
  | primitive => grammarClass "PrimitiveType"
  | interface => grammarClass "InterfaceRef"
  | typeAlias => grammarClass "TypeAliasRef"

/-- The record of a resolved property. -/
def ResolvedProperty.view (p : ResolvedProperty) : Value :=
  .record (diagramClass "ResolvedProperty")
    [("name", .text p.name), ("type", .text p.type),
      ("type_ref",
        .record p.target.recordClass [("kind", p.target.view), ("name", .text p.type)] []),
      ("optional", .bool p.optional), ("array", .bool p.array),
      ("cross_reference", .bool p.crossReference), ("declared_in", .text p.declaredIn)]
    [("is_reference", .bool p.isReference), ("is_primitive", .bool p.isPrimitive),
      ("ts_type", .text p.codeType), ("default_type", .text p.defaultType)]

/-- The records of resolved properties. -/
def propertyViews (ps : List ResolvedProperty) : Value :=
  .tuple (ps.map ResolvedProperty.view)

/-- A kind of element, as one of a fixed choice. -/
def ElementKind.view (k : ElementKind) : Value :=
  .choice "glspgen.context.models" "ElementKind" (Text.upperString k.label) k.label

/-- The record of an element. -/
def Element.view (e : Element) : Value :=
  .record (diagramClass "InterfaceInfo")
    [("name", .text e.name), ("kind", e.kind.view), ("type_id", .text e.typeId),
      ("properties", propertyViews e.properties),
      ("all_properties", propertyViews e.allProperties), ("super_types", .textTuple e.superTypes),
      ("ancestors", .textTuple e.ancestors),
      ("annotations", .object .fixed (Annotations.entries e.annotations))]
    [("is_node", .bool e.isNode), ("is_edge", .bool e.isEdge),
      ("reference_properties", propertyViews e.references)]

/-- What the records of node and edge types take from the element. -/
def Element.parts (e : Element) : List (String × Value) :=
  [("name", .text e.name), ("type_id", .text e.typeId),
    ("properties", propertyViews e.allProperties)]

/-- The record of a port. -/
def Port.view (p : Port) : Value :=
  .record (diagramClass "PortInfo") [("id", .text p.id), ("kind", .text p.direction)] []

/-- The record of a node type. -/
def NodeType.view (n : NodeType) : Value :=
  let e := n.element
  .record (diagramClass "NodeTypeInfo")
    [("interface", e.view), ("label", .text e.label), ("shape", .text n.shape),
      ("width", .ofData n.size.width), ("height", .ofData n.size.height),
      ("corner_radius", .ofData n.size.cornerRadius), ("ports", .tuple (n.ports.map Port.view)),
      ("icon", .optionalText (e.note? "icon")), ("category", .optionalText (e.note? "category")),
      ("resizable", .bool (e.allows "resizable")), ("deletable", .bool (e.allows "deletable")),
      ("moveable", .bool (e.allows "moveable"))]
    e.parts

/-- The record of an edge type. -/
def EdgeType.view (t : EdgeType) : Value :=
  let e := t.element
  let ofEnd (f : Ends → String) := Value.optionalText (t.ends.map f)
  .record (diagramClass "EdgeTypeInfo")
    [("interface", e.view), ("label", .text e.label), ("routing", .text t.routing.label),
      ("source_property", ofEnd (·.source.name)), ("target_property", ofEnd (·.target.name)),
      ("source_type", ofEnd (·.source.type)), ("target_type", ofEnd (·.target.type)),
      ("deletable", .bool (e.allows "deletable"))]
    e.parts

/-- The record of an alias in a diagram. -/
def TypeAlias.info (t : TypeAlias) : Value :=
  .record (diagramClass "TypeInfo")
    [("name", .text t.name), ("definition", .text t.definition),
      ("union_types", .textTuple t.unionTypes),
      ("annotations", .object .fixed (Annotations.entries t.annotations))]
    [("is_literal_union", .bool t.isLiteralUnion)]

/-- The inheritance between interfaces, by interface. -/
def Ancestry.view (a : Ancestry) : Value :=
  .object .fixed (a.map fun e ↦ (e.1, .textTuple e.2))

/-- The value of entries that can only be read. -/
def fixedEntries (es : List (String × Data)) : Value :=
  .mapping .fixed (Value.ofEntries es)

namespace Diagram

/-- The name that generated files record as their generator. -/
def generatorName : String := "glspgen"

/-- The version that generated files record. -/
def generatorVersion : String := "0.0.0+unknown"

/-- What is recorded about the generation itself. -/
def metadata (d : Diagram) : List (String × Data) :=
  [("generated_at", .text d.generatedAt), ("generator", .text generatorName),
    ("version", .text generatorVersion)]

/-- The variables that every template has. -/
def vars (d : Diagram) : List (String × Value) :=
  [("project_name", .text d.projectName), ("grammar_name", .text d.grammarName),
    ("prefix", .text d.classPrefix), ("grammar", d.grammar.view),
    ("interfaces", .tuple (d.elements.map Element.view)),
    ("types", .tuple (d.grammar.types.map TypeAlias.info)),
    ("node_types", .tuple (d.nodeTypes.map NodeType.view)),
    ("edge_types", .tuple (d.edgeTypes.map EdgeType.view)),
    ("type_hierarchy", d.ancestry.view), ("features", .textTuple d.features),
    ("config", fixedEntries d.config), ("metadata", fixedEntries d.metadata),
    ("extras", .ofData (.object d.extras))]

end Diagram

end DiagramForge
