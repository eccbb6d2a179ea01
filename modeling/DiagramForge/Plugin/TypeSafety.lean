import DiagramForge.Plugin.Basic

/-!
# Type safety

A plugin that summarises how a grammar uses types, and adds code that checks values against the
types of the model when the generated program runs.
-/

namespace DiagramForge

/-! ## Summary -/

/-- Whether the summary counts a property as a reference: its type is neither primitive nor an
alias. -/
def Grammar.countsAsReference (g : Grammar) (p : Property) : Bool :=
  !Grammar.isPrimitive p.type && (g.type? p.type).isNone

/-- A summary of how a grammar uses types. -/
def Grammar.typeSummary (g : Grammar) : List (String × Data) :=
  let properties := g.interfaces.flatMap (·.properties)
  let count (f : Property → Bool) : Data := .int (properties.countP f)
  [("interfaces", .int g.interfaces.length),
    ("literal_unions", .texts ((g.types.filter (·.isLiteralUnion)).map (·.name))),
    ("reference_properties", count g.countsAsReference),
    ("array_properties", count (·.array)),
    ("optional_properties", count (·.optional))]

/-! ## Generated checks -/

/-- The primitive types whose values a running program can tell apart. -/
def checkedTypes : List String :=
  ["string", "number", "boolean", "bigint"]

/-- The conditions that a guard checks for a property. -/
def propertyChecks (strict : Bool) (p : ResolvedProperty) : List String :=
  if p.optional then []
  else
    ("'" ++ p.name ++ "' in value")
      :: if strict && !p.array && checkedTypes.contains p.type then
          ["typeof (value as any)." ++ p.name ++ " === '" ++ p.type ++ "'"]
        else []

/-- The lines of the guard of an element. -/
def guardLines (strict : Bool) (e : Element) : List String :=
  let checks := "typeof value === 'object'" :: "value !== null"
    :: e.allProperties.flatMap (propertyChecks strict)
  ["export function is" ++ e.name ++ "(value: unknown): value is " ++ e.name ++ " \x7b",
    "    return " ++ Text.joinStrings "\n        && " checks ++ ";", "\x7d", ""]

/-- The line that takes names from a module, and an empty line; nothing if there are no names. -/
def importLines (names : List String) (module : String) : List String :=
  if names.isEmpty then []
  else ["import \x7b " ++ Text.joinStrings ", " names ++ " \x7d from './" ++ module ++ "';", ""]

/-- The text of the guards of a diagram. -/
def guardsText (strict : Bool) (d : Diagram) : String :=
  Text.joinStrings "\n"
    (["// Type guards for the " ++ d.grammarName ++ " model", ""]
      ++ importLines (d.elements.map (·.name)) "model-types"
      ++ d.elements.flatMap (guardLines strict))

/-- The lines of the validator of an element. -/
def validatorLines (e : Element) : List String :=
  ["export function validate" ++ e.name ++ "(value: unknown): string[] \x7b",
    "    return is" ++ e.name ++ "(value) ? [] : ['Not a valid " ++ e.name ++ "'];", "\x7d", ""]

/-- The text of the validators of a diagram. -/
def validatorsText (d : Diagram) : String :=
  Text.joinStrings "\n"
    (["// Validators for the " ++ d.grammarName ++ " model", ""]
      ++ importLines (d.elements.map fun e ↦ "is" ++ e.name) "type-guards"
      ++ d.elements.flatMap validatorLines)

/-! ## The plugin -/

namespace TypeSafety

open HookAction

variable {σ : Type}

/-- What the plugin adds. -/
structure Options where
  /-- It adds guards. -/
  guards : Bool := true
  /-- It adds validators, which use the guards. -/
  validators : Bool := false
  /-- Guards check the types of primitive properties. -/
  strict : Bool := true

/-- The name of the plugin. -/
def name : String := "type-safety"

/-- The key of the summary in the report. -/
def summaryKey : String := "type_info"

/-- Records the summary. -/
def analyze : Handler σ := fun s ↦
  match s.grammar with
  | none =>
    throw (.diagnostic
      { kind := .plugin, message := "No grammar to analyze", place := { plugin := some name } })
  | some g => setMetadata summaryKey (.object g.typeSummary)

/-- Tells templates what the plugin adds. -/
def annotate (o : Options) : Handler σ := fun s ↦
  match s.diagram with
  | none => return
  | some _ => contribute fun c ↦
    { c with
      extras := Entries.set c.extras "type_safety" (.object
        [("generate_guards", .bool o.guards), ("generate_validators", .bool o.validators),
          ("strict", .bool o.strict),
          ("types", (Entries.get? c.metadata summaryKey).getD (.object []))]) }

/-- Adds the files. -/
def addFiles (o : Options) : Handler σ := fun s ↦ do
  match s.diagram with
  | none => return
  | some d =>
    if o.guards then addFile s "common/type-guards.ts" (guardsText o.strict d)
    if o.validators then addFile s "common/validators.ts" (validatorsText d)

/-- The plugin. -/
def plugin (o : Options) : Plugin σ where
  name := name
  version := "1.0.0"
  hooks :=
    [(Hook.afterParse.label, analyze), (Hook.beforeTemplateRender.label, annotate o),
      (Hook.afterTemplateRender.label, addFiles o)]
  problems := .ok (if o.validators && !o.guards then ["validators require type guards"] else [])

end TypeSafety

end DiagramForge
