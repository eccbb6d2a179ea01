/-!
# Built-in templates: the server

The server module, the model factory and its test, and the handlers that create elements.

Each template is the list of its lines.
-/

namespace DiagramForge.Template.Builtin.Server

/-- The container of the server. -/
def diConfig : List String :=
  [r#"{{ partial("header") }}"#,
    r#"import { ContainerModule } from 'inversify';"#,
    r#"import { {{ prefix }}DiagramModule } from './server-module';"#,
    r#"import { {{ prefix }}ModelValidator } from './model-validator';"#,
    r#"import { {{ prefix }}LayoutEngine } from './layout-engine';"#,
    "",
    r#"export const {{ toCamelCase(project_name) }}ServerModule = new ContainerModule(bind => {"#,
    r#"    bind({{ prefix }}DiagramModule).toSelf().inSingletonScope();"#,
    r#"    bind({{ prefix }}ModelValidator).toSelf().inSingletonScope();"#,
    r#"    bind({{ prefix }}LayoutEngine).toSelf().inSingletonScope();"#,
    r#"});"#,
    ""]

/-- The handler that creates an edge. -/
def edgeHandler : List String :=
  [r#"{{ partial("header") }}"#,
    r#"import { CreateEdgeOperation, CreateEdgeOperationHandler, GEdge } from '@eclipse-glsp/server';"#,
    r#"import { injectable } from 'inversify';"#,
    r#"import { {{ prefix }}Types } from '../../common/protocol';"#,
    r#"import { {{ prefix }}ModelFactory } from '../model-factory';"#,
    "",
    r#"@injectable()"#,
    r#"export class Create{{ edge.name }}Handler extends CreateEdgeOperationHandler {"#,
    r#"    readonly elementTypeIds = [{{ prefix }}Types.{{ edge.name }}];"#,
    r#"    readonly label = '{{ edge.label }}';"#,
    r#"{% if edge.source_type and edge.target_type %}"#,
    r#"    // {{ edge.source_property }}: {{ edge.source_type }} -> {{ edge.target_property }}: {{ edge.target_type }}"#,
    r#"{% endif %}"#,
    "",
    r#"    createEdge(operation: CreateEdgeOperation): GEdge {"#,
    r#"        return {{ prefix }}ModelFactory.create{{ edge.name }}({"#,
    r#"            id: this.modelState.index.createId('{{ toLowerCase(edge.name) }}'),"#,
    r#"            sourceId: operation.sourceElementId,"#,
    r#"            targetId: operation.targetElementId,"#,
    r#"{% for default in handler_defaults[edge.name] %}"#,
    r#"            {{ default.name }}: {{ default.value }},"#,
    r#"{% endfor %}"#,
    r#"        });"#,
    r#"    }"#,
    r#"}"#,
    ""]

/-- The layout engine. -/
def layoutEngine : List String :=
  [r#"{{ partial("header") }}"#,
    r#"import { LayoutEngine, MaybePromise, GGraph } from '@eclipse-glsp/server';"#,
    r#"import { injectable } from 'inversify';"#,
    "",
    r#"export const AUTO_LAYOUT = {{ "true" if "auto_layout" in features else "false" }};"#,
    r#"export const EDGE_ROUTING = '{{ config.diagram.features.routing }}';"#,
    "",
    r#"@injectable()"#,
    r#"export class {{ prefix }}LayoutEngine implements LayoutEngine {"#,
    r#"    layout(): MaybePromise<GGraph> {"#,
    r#"        throw new Error('No layout engine configured for {{ grammar_name }}');"#,
    r#"    }"#,
    r#"}"#,
    ""]

/-- The model factory. -/
def modelFactory : List String :=
  [r#"{{ partial("header") }}"#,
    r#"import { GEdge, GGraph, GModelFactory, GNode } from '@eclipse-glsp/server';"#,
    r#"import { injectable } from 'inversify';"#,
    r#"import { DIAGRAM_TYPE, {{ prefix }}Types } from '../common/protocol';"#,
    r#"{% if interfaces %}"#,
    r#"import { {{ join(interfaces | map(attribute="name") | list) }} } from '../common/model-types';"#,
    r#"{% endif %}"#,
    "",
    r#"@injectable()"#,
    r#"export class {{ prefix }}ModelFactory implements GModelFactory {"#,
    r#"    createModel(): GGraph {"#,
    r#"        return GGraph.builder().id('{{ project_name }}-root').type(DIAGRAM_TYPE).build();"#,
    r#"    }"#,
    r#"{% for node in node_types %}"#,
    "",
    r#"    static create{{ node.name }}(element: Partial<{{ node.name }}> & { id: string }): GNode {"#,
    r#"        return GNode.builder()"#,
    r#"            .id(element.id)"#,
    r#"            .type({{ prefix }}Types.{{ node.name }})"#,
    r#"            .size({{ node.width }}, {{ node.height }})"#,
    r#"            .addCssClass('{{ node.shape }}')"#,
    r#"            .build();"#,
    r#"    }"#,
    r#"{% endfor %}"#,
    r#"{% for edge in edge_types %}"#,
    "",
    r#"    static create{{ edge.name }}(element: Partial<{{ edge.name }}> & { id: string; sourceId: string; targetId: string }): GEdge {"#,
    r#"        return GEdge.builder()"#,
    r#"            .id(element.id)"#,
    r#"            .type({{ prefix }}Types.{{ edge.name }})"#,
    r#"            .sourceId(element.sourceId)"#,
    r#"            .targetId(element.targetId)"#,
    r#"            .build();"#,
    r#"    }"#,
    r#"{% endfor %}"#,
    r#"}"#,
    ""]

/-- The test of the model factory. -/
def modelFactorySpec : List String :=
  [r#"{{ partial("header") }}"#,
    r#"import { {{ prefix }}ModelFactory } from '../model-factory';"#,
    r#"import { {{ prefix }}Types } from '../../common/protocol';"#,
    "",
    r#"describe('{{ prefix }}ModelFactory', () => {"#,
    r#"{% for node in node_types %}"#,
    r#"    it('creates {{ node.name }} nodes', () => {"#,
    r#"        const node = {{ prefix }}ModelFactory.create{{ node.name }}({ id: 'n1' });"#,
    r#"        expect(node.type).toBe({{ prefix }}Types.{{ node.name }});"#,
    r#"    });"#,
    r#"{% endfor %}"#,
    r#"{% for edge in edge_types %}"#,
    r#"    it('creates {{ edge.name }} edges', () => {"#,
    r#"        const edge = {{ prefix }}ModelFactory.create{{ edge.name }}({ id: 'e1', sourceId: 'a', targetId: 'b' });"#,
    r#"        expect(edge.sourceId).toBe('a');"#,
    r#"    });"#,
    r#"{% endfor %}"#,
    r#"});"#,
    ""]

/-- The index of the model. -/
def modelIndex : List String :=
  [r#"{{ partial("header") }}"#,
    r#"import { GModelIndex } from '@eclipse-glsp/server';"#,
    r#"import { injectable } from 'inversify';"#,
    r#"import { NODE_TYPES, EDGE_TYPES } from '../common/protocol';"#,
    "",
    r#"@injectable()"#,
    r#"export class {{ prefix }}ModelIndex extends GModelIndex {"#,
    r#"    isNode(type: string): boolean {"#,
    r#"        return NODE_TYPES.includes(type);"#,
    r#"    }"#,
    "",
    r#"    isEdge(type: string): boolean {"#,
    r#"        return EDGE_TYPES.includes(type);"#,
    r#"    }"#,
    r#"}"#,
    ""]

/-- The validator of the model. -/
def modelValidator : List String :=
  [r#"{{ partial("header") }}"#,
    r#"import { GModelElement, Marker, MarkerKind, ModelValidator } from '@eclipse-glsp/server';"#,
    r#"import { injectable } from 'inversify';"#,
    "",
    r#"@injectable()"#,
    r#"export class {{ prefix }}ModelValidator implements ModelValidator {"#,
    r#"    validate(elements: GModelElement[]): Marker[] {"#,
    r#"        const markers: Marker[] = [];"#,
    r#"        for (const element of elements) {"#,
    r#"{% for edge in edge_types %}"#,
    r#"            if (element.type === '{{ edge.type_id }}' && !('sourceId' in element && 'targetId' in element)) {"#,
    r#"                markers.push({ elementId: element.id, kind: MarkerKind.ERROR, label: '{{ edge.label }}', description: 'Edge must connect two elements' });"#,
    r#"            }"#,
    r#"{% endfor %}"#,
    r#"        }"#,
    r#"        return markers;"#,
    r#"    }"#,
    r#"}"#,
    ""]

/-- The handler that creates a node. -/
def nodeHandler : List String :=
  [r#"{{ partial("header") }}"#,
    r#"import { CreateNodeOperation, CreateNodeOperationHandler, GNode } from '@eclipse-glsp/server';"#,
    r#"import { injectable } from 'inversify';"#,
    r#"import { {{ prefix }}Types } from '../../common/protocol';"#,
    r#"import { {{ prefix }}ModelFactory } from '../model-factory';"#,
    "",
    r#"@injectable()"#,
    r#"export class Create{{ node.name }}Handler extends CreateNodeOperationHandler {"#,
    r#"    readonly elementTypeIds = [{{ prefix }}Types.{{ node.name }}];"#,
    r#"    readonly label = '{{ node.label }}';"#,
    "",
    r#"    createNode(operation: CreateNodeOperation): GNode {"#,
    r#"        return {{ prefix }}ModelFactory.create{{ node.name }}({"#,
    r#"            id: this.modelState.index.createId('{{ toLowerCase(node.name) }}'),"#,
    r#"{% for default in handler_defaults[node.name] %}"#,
    r#"            {{ default.name }}: {{ default.value }},"#,
    r#"{% endfor %}"#,
    r#"        });"#,
    r#"    }"#,
    r#"}"#,
    ""]

/-- The server module. -/
def serverModule : List String :=
  [r#"{{ partial("header") }}"#,
    r#"import { DiagramConfiguration, DiagramModule, GModelFactory, GModelIndex, OperationHandlerConstructor, SourceModelStorage } from '@eclipse-glsp/server';"#,
    r#"import { injectable } from 'inversify';"#,
    r#"import { DIAGRAM_TYPE } from '../common/protocol';"#,
    r#"import { {{ prefix }}ModelFactory } from './model-factory';"#,
    r#"import { {{ prefix }}ModelIndex } from './model-index';"#,
    r#"{% for iface in interfaces %}"#,
    r#"import { Create{{ iface.name }}Handler } from './handlers/create-{{ toKebabCase(iface.name) }}-handler';"#,
    r#"{% endfor %}"#,
    "",
    r#"@injectable()"#,
    r#"export class {{ prefix }}DiagramModule extends DiagramModule {"#,
    r#"    get diagramType(): string {"#,
    r#"        return DIAGRAM_TYPE;"#,
    r#"    }"#,
    "",
    r#"    protected bindGModelFactory(): typeof GModelFactory {"#,
    r#"        return {{ prefix }}ModelFactory;"#,
    r#"    }"#,
    "",
    r#"    protected bindGModelIndex(): typeof GModelIndex {"#,
    r#"        return {{ prefix }}ModelIndex;"#,
    r#"    }"#,
    "",
    r#"    protected configureOperationHandlers(binding: { add(handler: OperationHandlerConstructor): void }): void {"#,
    r#"        super.configureOperationHandlers(binding);"#,
    r#"{% for iface in interfaces %}"#,
    r#"        binding.add(Create{{ iface.name }}Handler);"#,
    r#"{% endfor %}"#,
    r#"    }"#,
    r#"}"#,
    "",
    r#"/** Operations handled by the {{ grammar_name }} server. */"#,
    r#"export const SUPPORTED_OPERATIONS = ["#,
    r#"{% for op in operations %}"#,
    r#"    { name: '{{ op.name }}', type: '{{ op.type }}' }{{ "," if not loop.last else "" }}"#,
    r#"{% endfor %}"#,
    r#"];"#,
    ""]

/-- The templates by name. -/
def templates : List (String × List String) :=
  [("di-config", diConfig),
    ("edge-handler", edgeHandler),
    ("layout-engine", layoutEngine),
    ("model-factory", modelFactory),
    ("model-factory-spec", modelFactorySpec),
    ("model-index", modelIndex),
    ("model-validator", modelValidator),
    ("node-handler", nodeHandler),
    ("server-module", serverModule)]

end DiagramForge.Template.Builtin.Server
