/-!
# Built-in templates: shared code

The model types, the protocol and the actions that server and browser code share, and the
read-me file.

Each template is the list of its lines.
-/

namespace DiagramForge.Template.Builtin.Common

/-- The actions that create elements. -/
def actions : List String :=
  [r#"{{ partial("header") }}"#,
    r#"import { Action, Point } from '@eclipse-glsp/protocol';"#,
    r#"{% for node in node_types %}"#,
    "",
    r#"export interface Create{{ node.name }}Action extends Action {"#,
    r#"    kind: 'create{{ node.name }}';"#,
    r#"    location?: Point;"#,
    r#"}"#,
    "",
    r#"export namespace Create{{ node.name }}Action {"#,
    r#"    export const KIND = 'create{{ node.name }}';"#,
    "",
    r#"    export function create(location?: Point): Create{{ node.name }}Action {"#,
    r#"        return { kind: KIND, location };"#,
    r#"    }"#,
    r#"}"#,
    r#"{% endfor %}"#,
    r#"{% for edge in edge_types %}"#,
    "",
    r#"export interface Create{{ edge.name }}Action extends Action {"#,
    r#"    kind: 'create{{ edge.name }}';"#,
    r#"    sourceId: string;"#,
    r#"    targetId: string;"#,
    r#"}"#,
    "",
    r#"export namespace Create{{ edge.name }}Action {"#,
    r#"    export const KIND = 'create{{ edge.name }}';"#,
    "",
    r#"    export function create(sourceId: string, targetId: string): Create{{ edge.name }}Action {"#,
    r#"        return { kind: KIND, sourceId, targetId };"#,
    r#"    }"#,
    r#"}"#,
    r#"{% endfor %}"#,
    ""]

/-- The types of the model. -/
def modelTypes : List String :=
  [r#"{{ partial("header") }}"#,
    r#"/**"#,
    r#" * Model types for the {{ grammar_name }} language."#,
    r#" * References to other elements are stored as element ids."#,
    r#" */"#,
    r#"{% for t in types %}"#,
    "",
    r#"{% if t.is_literal_union %}"#,
    r#"export type {{ t.name }} = {% for member in t.union_types %}'{{ member }}'{{ " | " if not loop.last else "" }}{% endfor %};"#,
    r#"{% else %}"#,
    r#"export type {{ t.name }} = {{ t.definition }};"#,
    r#"{% endif %}"#,
    r#"{% endfor %}"#,
    r#"{% for iface in interfaces %}"#,
    "",
    r#"export interface {{ iface.name }}{{ " extends " ~ join(iface.super_types) if iface.super_types else "" }} {"#,
    r#"{% for prop in iface.properties %}"#,
    r#"    {{ prop.name }}{{ "?" if prop.optional else "" }}: {{ prop.ts_type }};{{ " // " ~ prop.type ~ " id" if prop.is_reference else "" }}"#,
    r#"{% endfor %}"#,
    r#"}"#,
    r#"{% endfor %}"#,
    ""]

/-- The identifiers and requests that both sides know. -/
def protocol : List String :=
  [r#"{{ partial("header") }}"#,
    r#"export const DIAGRAM_TYPE = '{{ project_name }}-diagram';"#,
    r#"export const LANGUAGE_ID = '{{ project_name }}';"#,
    r#"{% if config.extension.file_extension %}"#,
    r#"export const FILE_EXTENSION = '.{{ config.extension.file_extension }}';"#,
    r#"{% endif %}"#,
    "",
    r#"export namespace {{ prefix }}Types {"#,
    r#"{% for name, type_id in element_type_ids %}"#,
    r#"    export const {{ name }} = '{{ type_id }}';"#,
    r#"{% endfor %}"#,
    r#"}"#,
    "",
    r#"export const NODE_TYPES: string[] = ["#,
    r#"{% for node in node_types %}"#,
    r#"    {{ prefix }}Types.{{ node.name }}{{ "," if not loop.last else "" }}"#,
    r#"{% endfor %}"#,
    r#"];"#,
    "",
    r#"export const EDGE_TYPES: string[] = ["#,
    r#"{% for edge in edge_types %}"#,
    r#"    {{ prefix }}Types.{{ edge.name }}{{ "," if not loop.last else "" }}"#,
    r#"{% endfor %}"#,
    r#"];"#,
    "",
    r#"export const TYPE_HIERARCHY: Record<string, string[]> = {"#,
    r#"{% for name, ancestors in type_hierarchy.items() %}"#,
    r#"    '{{ name }}': [{% for ancestor in ancestors %}'{{ ancestor }}'{{ ", " if not loop.last else "" }}{% endfor %}]{{ "," if not loop.last else "" }}"#,
    r#"{% endfor %}"#,
    r#"};"#,
    ""]

/-- The read-me file. -/
def readme : List String :=
  [r#"{{ partial("readme_header") }}"#,
    "",
    r#"{{ config.extension.description }}"#,
    "",
    r#"Generated from the `{{ grammar_name }}` grammar."#,
    "",
    r#"## Diagram elements"#,
    "",
    r#"| Element | Kind | Type id |"#,
    r#"|---|---|---|"#,
    r#"{% for iface in interfaces %}"#,
    r#"| {{ iface.name }} | {{ iface.kind.value }} | `{{ iface.type_id }}` |"#,
    r#"{% endfor %}"#,
    r#"{% if features %}"#,
    "",
    r#"## Enabled features"#,
    "",
    r#"{% for feature in features %}"#,
    r#"- {{ humanize(feature) }}"#,
    r#"{% endfor %}"#,
    r#"{% endif %}"#,
    "",
    r#"## Dependencies"#,
    "",
    r#"{% for name, version in config.dependencies.items() %}"#,
    r#"- `{{ name }}` {{ version }}"#,
    r#"{% endfor %}"#,
    ""]

/-- Functions on identifiers. -/
def utils : List String :=
  [r#"{{ partial("header") }}"#,
    r#"import { TYPE_HIERARCHY } from './protocol';"#,
    "",
    r#"let idCounter = 0;"#,
    "",
    r#"export function generateId(prefix: string): string {"#,
    r#"    idCounter += 1;"#,
    r#"    return `${prefix}_${idCounter}`;"#,
    r#"}"#,
    "",
    r#"export function isSubtypeOf(type: string, superType: string): boolean {"#,
    r#"    return type === superType || (TYPE_HIERARCHY[type] ?? []).includes(superType);"#,
    r#"}"#,
    "",
    r#"export function elementLabel(type: string, name?: string): string {"#,
    r#"    return name && name.length > 0 ? name : type;"#,
    r#"}"#,
    ""]

/-- The templates by name. -/
def templates : List (String × List String) :=
  [("actions", actions),
    ("model-types", modelTypes),
    ("protocol", protocol),
    ("readme", readme),
    ("utils", utils)]

end DiagramForge.Template.Builtin.Common
