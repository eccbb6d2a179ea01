/-!
# Built-in templates: the browser

The diagram configuration, the views, and what the browser adds to menus and palettes.

Each template is the list of its lines.
-/

namespace DiagramForge.Template.Builtin.Browser

/-- The commands. -/
def commandContribution : List String :=
  [r#"{{ partial("header") }}"#,
    r#"import { injectable } from 'inversify';"#,
    r#"import { Command, CommandContribution, CommandRegistry } from '@theia/core';"#,
    "",
    r#"export namespace {{ prefix }}Commands {"#,
    r#"{% for command in commands %}"#,
    r#"    export const {{ toUpperCase(command.id) | replace("-", "_") }}: Command = { id: '{{ project_name }}.{{ command.id }}', label: '{{ command.label }}' };"#,
    r#"{% endfor %}"#,
    r#"}"#,
    "",
    r#"@injectable()"#,
    r#"export class {{ prefix }}CommandContribution implements CommandContribution {"#,
    r#"    registerCommands(registry: CommandRegistry): void {"#,
    r#"{% for command in commands %}"#,
    r#"        registry.registerCommand({{ prefix }}Commands.{{ toUpperCase(command.id) | replace("-", "_") }}, {"#,
    r#"            execute: () => this.execute('{{ command.id }}')"#,
    r#"        });"#,
    r#"{% endfor %}"#,
    r#"    }"#,
    "",
    r#"    protected execute(commandId: string): void {"#,
    r#"        console.debug(`[{{ project_name }}] ${commandId}`);"#,
    r#"    }"#,
    r#"}"#,
    ""]

/-- The container of the browser. -/
def diConfig : List String :=
  [r#"{{ partial("header") }}"#,
    r#"import { Container } from 'inversify';"#,
    r#"import { create{{ prefix }}DiagramContainer } from './frontend-module';"#,
    "",
    r#"export function create{{ prefix }}Container(widgetId: string): Container {"#,
    r#"    const container = create{{ prefix }}DiagramContainer(widgetId);"#,
    r#"    return container;"#,
    r#"}"#,
    ""]

/-- The configuration of the diagram. -/
def diagramConfiguration : List String :=
  [r#"{{ partial("header") }}"#,
    r#"import { ContainerModule } from 'inversify';"#,
    r#"import { configureDefaultModelElements, configureModelElement, GEdge, RectangularNode, CircularNode, DiamondNode } from '@eclipse-glsp/client';"#,
    r#"import { {{ prefix }}Types } from '../common/protocol';"#,
    "",
    r#"export const DIAGRAM_OPTIONS = {"#,
    r#"    grid: {{ "true" if "grid" in features else "false" }},"#,
    r#"    snapToGrid: {{ "true" if "snap_to_grid" in features else "false" }},"#,
    r#"    animation: {{ "true" if "animation" in features else "false" }},"#,
    r#"    compartments: {{ "true" if "compartments" in features else "false" }},"#,
    r#"    ports: {{ "true" if "ports" in features else "false" }},"#,
    r#"    routingType: '{{ config.diagram.features.routing }}'"#,
    r#"};"#,
    "",
    r#"export const NODE_DEFAULTS = {"#,
    r#"    width: {{ config.styling.node_defaults.width }},"#,
    r#"    height: {{ config.styling.node_defaults.height }},"#,
    r#"    cornerRadius: {{ config.styling.node_defaults.corner_radius }}"#,
    r#"};"#,
    "",
    r#"export const {{ toCamelCase(project_name) }}DiagramModule = new ContainerModule((bind, unbind, isBound, rebind) => {"#,
    r#"    const context = { bind, unbind, isBound, rebind };"#,
    r#"    configureDefaultModelElements(context);"#,
    r#"{% for node in node_types %}"#,
    r#"    configureModelElement(context, {{ prefix }}Types.{{ node.name }}, {{ {"circle": "CircularNode", "diamond": "DiamondNode"}.get(node.shape, "RectangularNode") }});"#,
    r#"{% endfor %}"#,
    r#"{% for edge in edge_types %}"#,
    r#"    configureModelElement(context, {{ prefix }}Types.{{ edge.name }}, GEdge);"#,
    r#"{% endfor %}"#,
    r#"});"#,
    ""]

/-- The frontend module. -/
def frontendModule : List String :=
  [r#"{{ partial("header") }}"#,
    r#"import { ContainerModule } from 'inversify';"#,
    r#"import { createDiagramContainer } from '@eclipse-glsp/client';"#,
    r#"import { {{ toCamelCase(project_name) }}DiagramModule } from './diagram-configuration';"#,
    r#"import { {{ prefix }}CommandContribution } from './command-contribution';"#,
    r#"import { {{ prefix }}ToolPaletteContribution } from './tool-palette-contribution';"#,
    r#"import { {{ toCamelCase(project_name) }}ViewsModule } from './views';"#,
    "",
    r#"export function create{{ prefix }}DiagramContainer(widgetId: string) {"#,
    r#"    return createDiagramContainer("#,
    r#"        {{ toCamelCase(project_name) }}DiagramModule,"#,
    r#"        {{ toCamelCase(project_name) }}ViewsModule"#,
    r#"    );"#,
    r#"}"#,
    "",
    r#"export default new ContainerModule(bind => {"#,
    r#"    bind({{ prefix }}CommandContribution).toSelf().inSingletonScope();"#,
    r#"    bind({{ prefix }}ToolPaletteContribution).toSelf().inSingletonScope();"#,
    r#"});"#,
    ""]

/-- The view of a node. -/
def nodeView : List String :=
  [r#"{{ partial("header") }}"#,
    r#"/** @jsx svg */"#,
    r#"import { injectable } from 'inversify';"#,
    r#"import { GNode, RenderingContext, ShapeView, svg } from '@eclipse-glsp/client';"#,
    r#"import { VNode } from 'snabbdom';"#,
    "",
    r#"@injectable()"#,
    r#"export class {{ node.name }}View extends ShapeView {"#,
    r#"    render(node: GNode, context: RenderingContext): VNode | undefined {"#,
    r#"        if (!this.isVisible(node, context)) {"#,
    r#"            return undefined;"#,
    r#"        }"#,
    r#"        return ("#,
    r#"            <g class-{{ toKebabCase(node.name) }}={true} class-selected={node.selected}>"#,
    r#"{% if node.shape == "circle" %}"#,
    r#"                <circle r={Math.min(node.size.width, node.size.height) / 2} cx={node.size.width / 2} cy={node.size.height / 2} />"#,
    r#"{% elif node.shape == "diamond" %}"#,
    r#"                <polygon points={`${node.size.width / 2},0 ${node.size.width},${node.size.height / 2} ${node.size.width / 2},${node.size.height} 0,${node.size.height / 2}`} />"#,
    r#"{% else %}"#,
    r#"                <rect width={node.size.width} height={node.size.height} rx={ {{- node.corner_radius -}} } />"#,
    r#"{% endif %}"#,
    r#"{% for port in node.ports %}"#,
    r#"                <circle class-port-{{ port.kind }}={true} data-port-id="{{ port.id }}" r={4} />"#,
    r#"{% endfor %}"#,
    r#"                {context.renderChildren(node)}"#,
    r#"            </g>"#,
    r#"        );"#,
    r#"    }"#,
    r#"}"#,
    "",
    r#"export const {{ toUpperCase(toKebabCase(node.name)) | replace("-", "_") }}_DEFAULTS = {"#,
    r#"    width: {{ node.width }},"#,
    r#"    height: {{ node.height }},"#,
    r#"    resizable: {{ "true" if node.resizable else "false" }},"#,
    r#"    deletable: {{ "true" if node.deletable else "false" }},"#,
    r#"    moveable: {{ "true" if node.moveable else "false" }}"#,
    r#"};"#,
    ""]

/-- A sample model. -/
def sampleModel : List String :=
  [r#"{"#,
    r#"  "id": "{{ project_name }}-root","#,
    r#"  "type": "graph","#,
    r#"  "children": ["#,
    r#"{% for node in node_types %}"#,
    r#"    {"#,
    r#"      "id": "{{ toKebabCase(node.name) }}-1","#,
    r#"      "type": "{{ node.type_id }}","#,
    r#"      "position": { "x": {{ loop.index0 * (node.width + 40) }}, "y": 0 },"#,
    r#"      "size": { "width": {{ node.width }}, "height": {{ node.height }} }"#,
    r#"    }{{ "," if not loop.last else "" }}"#,
    r#"{% endfor %}"#,
    r#"  ]"#,
    r#"}"#,
    ""]

/-- The tool palette. -/
def toolPaletteContribution : List String :=
  [r#"{{ partial("header") }}"#,
    r#"import { injectable } from 'inversify';"#,
    r#"import { PaletteItem } from '@eclipse-glsp/client';"#,
    r#"import { {{ prefix }}Types } from '../common/protocol';"#,
    "",
    r#"@injectable()"#,
    r#"export class {{ prefix }}ToolPaletteContribution {"#,
    r#"    getPaletteItems(): PaletteItem[] {"#,
    r#"        return ["#,
    r#"{% for group in palette_groups %}"#,
    r#"            {"#,
    r#"                id: '{{ group.id }}',"#,
    r#"                label: '{{ group.label }}',"#,
    r#"                sortString: '{{ loop.index }}',"#,
    r#"                children: ["#,
    r#"{% for node in group.nodes %}"#,
    r#"                    { id: 'create-{{ toKebabCase(node.name) }}', label: '{{ node.label }}', sortString: '{{ loop.index }}', actions: [{ kind: 'triggerNodeCreation', elementTypeId: {{ prefix }}Types.{{ node.name }} }]{{ ", icon: '" ~ node.icon ~ "'" if node.icon else "" }} }{{ "," if not loop.last else "" }}"#,
    r#"{% endfor %}"#,
    r#"                ]"#,
    r#"            },"#,
    r#"{% endfor %}"#,
    r#"{% if edge_types %}"#,
    r#"            {"#,
    r#"                id: 'edges',"#,
    r#"                label: 'Edges',"#,
    r#"                sortString: 'z',"#,
    r#"                children: ["#,
    r#"{% for edge in edge_types %}"#,
    r#"                    { id: 'create-{{ toKebabCase(edge.name) }}', label: '{{ edge.label }}', sortString: '{{ loop.index }}', actions: [{ kind: 'triggerEdgeCreation', elementTypeId: {{ prefix }}Types.{{ edge.name }} }] }{{ "," if not loop.last else "" }}"#,
    r#"{% endfor %}"#,
    r#"                ]"#,
    r#"            }"#,
    r#"{% endif %}"#,
    r#"        ];"#,
    r#"    }"#,
    r#"}"#,
    ""]

/-- The list of views. -/
def views : List String :=
  [r#"{{ partial("header") }}"#,
    r#"import { ContainerModule } from 'inversify';"#,
    r#"import { configureModelElement } from '@eclipse-glsp/client';"#,
    r#"import { {{ prefix }}Types } from '../common/protocol';"#,
    r#"{% for node in node_types %}"#,
    r#"import { {{ node.name }}View } from './views/{{ toKebabCase(node.name) }}-view';"#,
    r#"{% endfor %}"#,
    "",
    r#"export const {{ toCamelCase(project_name) }}ViewsModule = new ContainerModule((bind, unbind, isBound, rebind) => {"#,
    r#"    const context = { bind, unbind, isBound, rebind };"#,
    r#"{% for node in node_types %}"#,
    r#"    configureModelElement(context, {{ prefix }}Types.{{ node.name }}, undefined, {{ node.name }}View);"#,
    r#"{% endfor %}"#,
    r#"});"#,
    ""]

/-- The templates by name. -/
def templates : List (String × List String) :=
  [("command-contribution", commandContribution),
    ("di-config", diConfig),
    ("diagram-configuration", diagramConfiguration),
    ("frontend-module", frontendModule),
    ("node-view", nodeView),
    ("sample-model", sampleModel),
    ("tool-palette-contribution", toolPaletteContribution),
    ("views", views)]

end DiagramForge.Template.Builtin.Browser
