import DiagramForge.Strategy.Template

/-!
# The built-in strategies

The files that server and browser code share, those of the server, and those of the browser. They
run in this order, because server and browser code import the shared types.

Values that are computed by a helper use the helper of the diagram, so a helper that is replaced is
replaced here too.
-/

namespace DiagramForge

open Template

/-! ## Computed values -/

/-- The value of a helper of the diagram for a text. -/
def Diagram.convert (d : Diagram) (helper : String) (s : String) : Except Failure Value :=
  match Entries.get? d.helpers helper with
  | some f => (f [.text s] []).result.mapError RenderFault.early
  | none => .error (.crash (Crash.missingKey helper))

/-- Whether one of some words occurs in a name, capitals left out of account. -/
def hints (words : List String) (name : String) : Bool :=
  let name := Text.lowerString name
  words.any fun word ↦ Text.stringOccursIn word name

/-! ## Shared files -/

/-- The variables of the shared files: the identifiers of the elements, and the aliases. -/
def sharedVariables (d : Diagram) : List (String × Value) :=
  let (literal, other) := d.grammar.types.partition (·.isLiteralUnion)
  [("element_type_ids", .list (d.elements.map fun e ↦ .textTuple [e.name, e.typeId])),
    ("literal_types", .list (literal.map TypeAlias.info)),
    ("alias_types", .list (other.map TypeAlias.info))]

/-- The strategy for shared files. -/
def commonStrategy : TemplateStrategy where
  name := "common"
  categories := ["common", "shared"]
  fixed :=
    [{ template := "model-types", output := "model-types.ts", required := true },
      { template := "protocol", output := "protocol.ts" },
      { template := "actions", output := "actions.ts" },
      { template := "utils", output := "utils.ts" },
      { template := "constants", output := "constants.ts" },
      { template := "readme", output := "README.md", gate := some "generate_docs" }]
  vars d := .ok (sharedVariables d)

/-! ## Files of the server -/

/-- The operations that every server handles, with their types. -/
def standardOperations : List (String × String) :=
  [("CreateNode", "create"), ("CreateEdge", "create"), ("DeleteElement", "delete"),
    ("ChangeContainer", "move"), ("ChangeBounds", "resize"), ("ReconnectEdge", "reconnect"),
    ("LayoutOperation", "layout")]

/-- The operations of a grammar: the standard ones, and the rules that are named as such. -/
def operations (g : Grammar) : List (String × String) :=
  standardOperations
    ++ (g.rules.filter (hints ["operation", "command"])).map fun rule ↦ (rule, "custom")

/-- The initial value of a property in generated code: the first literal of a union, or else what
the helper says. -/
def initialValue (d : Diagram) (p : ResolvedProperty) : Except Failure String := do
  let union :=
    if !p.array && p.target == .typeAlias then
      (d.grammar.type? p.type).bind fun t ↦ t.unionTypes.head?
    else none
  match union with
  | some literal => return "'" ++ literal ++ "'"
  | none =>
    let v ← d.convert "defaultValue" p.defaultType
    v.display.mapError RenderFault.early

/-- A class of records that describe the files of the server. -/
def serverClass (name : String) : RecordClass :=
  { home := "glspgen.strategies.server", name }

/-- The names and initial values of the properties that the handler of an element sets: those that
refer to nothing. -/
def handlerDefaults (d : Diagram) (e : Element) : Except Failure Value := do
  let properties := e.allProperties.filter fun p ↦ !p.isReference
  return .list (← properties.mapM fun p ↦ do
    return .record (serverClass "PropertyDefault")
      [("name", .text p.name), ("value", .text (← initialValue d p))] [])

/-- The variables of the files of the server. -/
def serverVariables (d : Diagram) : Except Failure (List (String × Value)) := do
  let elements := d.nodeTypes.map (·.element) ++ d.edgeTypes.map (·.element)
  let defaults ← elements.mapM fun e ↦ return (e.name, ← handlerDefaults d e)
  return [
    ("operations", .list ((operations d.grammar).map fun o ↦
      .record (serverClass "Operation") [("name", .text o.1), ("type", .text o.2)] [])),
    ("handler_defaults", .object .plain (Entries.ofList defaults))]

/-- The strategy for files of the server. -/
def serverStrategy : TemplateStrategy where
  name := "server"
  categories := ["server", "backend"]
  fixed :=
    [{ template := "server-module", output := "server-module.ts", required := true },
      { template := "model-factory", output := "model-factory.ts" },
      { template := "model-serializer", output := "model-serializer.ts" },
      { template := "command-handler", output := "command-handler.ts" },
      { template := "operation-handler", output := "operation-handler.ts" },
      { template := "model-validator", output := "model-validator.ts" },
      { template := "layout-engine", output := "layout-engine.ts" },
      { template := "model-index", output := "model-index.ts" },
      { template := "di-config", output := "di.config.ts" },
      { template := "model-factory-spec", output := "__tests__/model-factory.spec.ts",
        gate := some "generate_tests" }]
  perElement :=
    [{ template := "node-handler", output := r"handlers/create-{kebab}-handler.ts", kind := .node },
      { template := "edge-handler", output := r"handlers/create-{kebab}-handler.ts", kind := .edge }]
  vars := serverVariables

/-! ## Files of the browser -/

/-- A class of records that describe the files of the browser. -/
def browserClass (name : String) : RecordClass :=
  { home := "glspgen.strategies.browser", name }

/-- The record of a command. -/
def commandView (id label : Value) (custom : Bool) : Value :=
  .record (browserClass "Command") [("id", id), ("label", label), ("custom", .bool custom)] []

/-- The commands that every diagram has. -/
def standardCommands : List Value :=
  [commandView (.text "fit") (.text "Fit to Screen") false,
    commandView (.text "center") (.text "Center") false,
    commandView (.text "export") (.text "Export as SVG") false]

/-- The commands of a diagram: the standard ones, and the rules that are named as such. -/
def commands (d : Diagram) : Except Failure (List Value) := do
  let custom ← (d.grammar.rules.filter (hints ["command", "action"])).mapM fun rule ↦ do
    let id ← d.convert "toKebabCase" rule
    return commandView id (← d.convert "humanize" rule) true
  return standardCommands ++ custom

/-- The palette group of nodes that name none. -/
def defaultGroup : String := "Nodes"

/-- The palette group of a node. -/
def groupOf (n : NodeType) : String :=
  match n.element.note? "category" with
  | none => defaultGroup
  | some category => if category == "" then defaultGroup else category

/-- The nodes by palette group, in the order the groups first occur. -/
def groupNodes (ns : List NodeType) : List (String × List NodeType) :=
  ns.foldl (fun groups n ↦
    Entries.set groups (groupOf n) (((Entries.get? groups (groupOf n)).getD []) ++ [n])) []

/-- The palette groups of a diagram. -/
def paletteGroups (d : Diagram) : Except Failure (List Value) :=
  (groupNodes d.nodeTypes).mapM fun (label, ns) ↦ do
    let id ← d.convert "toKebabCase" (String.ofList (label.toList.filter (· != ' ')))
    return .record (browserClass "PaletteGroup")
      [("id", id), ("label", .text label), ("nodes", .tuple (ns.map NodeType.view))] []

/-- The variables of the files of the browser. -/
def browserVariables (d : Diagram) : Except Failure (List (String × Value)) := do
  let cs ← commands d
  return [("commands", .list cs), ("palette_groups", .list (← paletteGroups d))]

/-- The strategy for files of the browser. -/
def browserStrategy : TemplateStrategy where
  name := "browser"
  categories := ["browser", "client"]
  fixed :=
    [{ template := "frontend-module", output := "frontend-module.ts", required := true },
      { template := "diagram-configuration", output := "diagram-configuration.ts" },
      { template := "command-contribution", output := "command-contribution.ts" },
      { template := "tool-palette-contribution", output := "tool-palette-contribution.ts" },
      { template := "property-palette-contribution", output := "property-palette-contribution.ts" },
      { template := "context-menu-contribution", output := "context-menu-contribution.ts" },
      { template := "model-source", output := "model-source.ts" },
      { template := "views", output := "views.ts" },
      { template := "di-config", output := "di.config.ts" },
      { template := "sample-model", output := "examples/sample-model.json",
        gate := some "include_examples" }]
  perElement := [{ template := "node-view", output := r"views/{kebab}-view.tsx", kind := .node }]
  vars := browserVariables

/-! ## All strategies -/

/-- The built-in strategies in the order they run. -/
def builtinStrategies : List TemplateStrategy :=
  [commonStrategy, serverStrategy, browserStrategy]

end DiagramForge
