import DiagramForge.Grammar.Basic
import DiagramForge.Template.Value

/-!
# Grammars as templates see them

Templates and reports read a grammar through records, whose attributes are named as the generated
documentation names them.
-/

namespace DiagramForge

open Template

/-- A class of records that describe a grammar, lists of named fields; `finders` are the methods
that look up a record in a field. -/
def grammarClass (name : String) (finders : List (String × String) := []) : RecordClass :=
  { home := "glspgen.core.grammar", name, bare := true, finders }

/-- The record of a property. -/
def Property.view (p : Property) : Value :=
  .record (grammarClass "Property")
    [("name", .text p.name), ("type", .text p.type), ("optional", .bool p.optional),
      ("array", .bool p.array), ("cross_reference", .bool p.crossReference)] []

/-- The entries of notes. -/
def Annotations.entries (notes : Annotations) : List (String × Value) :=
  notes.map fun e ↦ (e.1, .text e.2)

/-- The record of an interface. -/
def Interface.view (i : Interface) : Value :=
  .record (grammarClass "GrammarInterface" [("get_property", "properties")])
    [("name", .text i.name), ("properties", .tuple (i.properties.map Property.view)),
      ("super_types", .textTuple i.superTypes),
      ("annotations", .object .plain (Annotations.entries i.annotations))] []

/-- The record of an alias. -/
def TypeAlias.view (t : TypeAlias) : Value :=
  .record (grammarClass "TypeAlias")
    [("name", .text t.name), ("definition", .text t.definition),
      ("union_types", .textTuple t.unionTypes),
      ("annotations", .object .plain (Annotations.entries t.annotations))]
    [("is_literal_union", .bool t.isLiteralUnion)]

/-- The record of a grammar. -/
def Grammar.view (g : Grammar) : Value :=
  .record (grammarClass "GrammarModel" [("get_interface", "interfaces"), ("get_type", "types")])
    [("project_name", .text g.projectName), ("grammar_name", .optionalText g.grammarName),
      ("interfaces", .tuple (g.interfaces.map Interface.view)),
      ("types", .tuple (g.types.map TypeAlias.view)), ("rules", .textTuple g.rules),
      ("source_path", .optionalText g.sourcePath)]
    [("interface_names", .texts g.interfaceNames), ("type_names", .texts g.typeNames)]

end DiagramForge
