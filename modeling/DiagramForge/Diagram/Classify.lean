import DiagramForge.Diagram.Basic
import DiagramForge.Grammar.Validation

/-!
# Nodes and edges

An element is an edge if it is requested as one, or if nothing is requested and two of its
properties can be the ends of an edge: single references, of which one is named as a source and
another as a target, or of which both refer to compatible interfaces.

The words of names decide what is a source or a target, so a property is found in any spelling:
`sourceNode`, `source_node` and `from` are sources.
-/

namespace DiagramForge

/-! ## The ends of an edge -/

/-- Words that name a source. -/
def sourceWords : List String :=
  ["source", "from"]

/-- Words that name a target. -/
def targetWords : List String :=
  ["target", "to"]

/-- Whether one of some words occurs in a name. -/
def mentions (ws : List String) (name : String) : Bool :=
  (Naming.tokenStrings name).any ws.contains

/-- Whether two interfaces are the same, or one inherits from the other. -/
def Ancestry.compatible (a : Ancestry) (x y : String) : Bool :=
  x == y || (a.of y).contains x || (a.of x).contains y

/-- The first source, and the first target other than it. -/
def namedEnds? (candidates : List ResolvedProperty) : Option Ends :=
  match candidates.findIdx? fun p ↦ mentions sourceWords p.name with
  | none => none
  | some n =>
    match candidates[n]?, (candidates.eraseIdx n).find? fun p ↦ mentions targetWords p.name with
    | some source, some target => some ⟨source, target⟩
    | _, _ => none

/-- The first property that a later one is compatible with, and the first such one. -/
def compatibleEnds? (a : Ancestry) : List ResolvedProperty → Option Ends
  | [] => none
  | p :: ps =>
    match ps.find? fun q ↦ a.compatible p.type q.type with
    | some q => some ⟨p, q⟩
    | none => compatibleEnds? a ps

/-- The ends of an edge with some properties, if they make one. -/
def edgeEnds? (a : Ancestry) (properties : List ResolvedProperty) : Option Ends :=
  let candidates := properties.filter (·.isEnd)
  (namedEnds? candidates).orElse fun _ ↦ compatibleEnds? a candidates

/-- The ends of an element that is an edge in any case: if no ends are found, its first two single
references. -/
def requestedEnds? (a : Ancestry) (properties : List ResolvedProperty) : Option Ends :=
  (edgeEnds? a properties).orElse fun _ ↦
    match properties.filter (·.isEnd) with
    | p :: q :: _ => some ⟨p, q⟩
    | _ => none

/-! ## Requests -/

/-- The note that requests a kind of element. -/
def kindNote : String := "glspType"

/-- The kind of element with a name, blanks around it and capitals left out of account. -/
def ElementKind.ofText? (s : String) : Option ElementKind :=
  let cs := Text.lower (Text.trim s.toList)
  if cs == node.label.toList then some node
  else if cs == edge.label.toList then some edge
  else none

/-- The interfaces that a configuration requests as nodes and as edges. -/
structure Requests where
  /-- The names of nodes: a list, or a text that a name can be a part of. -/
  nodes : Data
  /-- The names of edges, in the same form. -/
  edges : Data

/-- Whether names include a name. -/
def Data.mentions (names : Data) (name : String) : Bool :=
  match names with
  | .list ds => ds.contains (.text name)
  | .text s => Text.stringOccursIn name s
  | _ => false

/-- Checks that names can be looked up: there is none that has parts itself. -/
def Requests.checkNames : List Data → Except Crash Unit
  | [] => .ok ()
  | d :: ds =>
    match d with
    | .list _ | .object _ =>
      .error (Crash.badType ("unhashable type: '" ++ d.typeName ++ "'"))
    | _ => checkNames ds

/-- Checks that the names of nodes and those of edges make one list, or one text. -/
def Requests.check (r : Requests) : Except Crash Unit :=
  match r.nodes, r.edges with
  | .list ds, .list es => checkNames (ds ++ es)
  | .text _, .text _ => .ok ()
  | .int _, .int _ | .int _, .bool _ | .bool _, .int _ | .bool _, .bool _ =>
    .error (Crash.notIterable "int")
  | d, e => .error (Crash.notAdded d.typeName e.typeName)

/-- The requests of a configuration. -/
def Requests.ofSettings (s : Setting) : Except Crash Requests := do
  let nodes ← s.partAt ["diagram", "node_types"]
  let edges ← s.partAt ["diagram", "edge_types"]
  let r : Requests := ⟨nodes.toData, edges.toData⟩
  r.check
  return r

/-- Whether an interface is requested as an element of a kind, by a note or in the
configuration. -/
def Requests.include (r : Requests) (i : Interface) (kind : ElementKind) : Bool :=
  let listed := match kind with
    | .node => r.nodes
    | .edge => r.edges
  (Entries.get? i.annotations kindNote).bind ElementKind.ofText? == some kind
    || listed.mentions i.name

/-- The kind that an interface is requested as, if any; it must not be both. -/
def Requests.kindOf (r : Requests) (i : Interface) :
    Except Grammar.StructuralFault (Option ElementKind) :=
  match r.include i .node, r.include i .edge with
  | true, true => .error (.dualKind i.name)
  | true, false => .ok (some .node)
  | false, true => .ok (some .edge)
  | false, false => .ok none

/-- The kind of element that an interface with some properties is. -/
def classify (r : Requests) (a : Ancestry) (i : Interface)
    (properties : List ResolvedProperty) : Except Grammar.StructuralFault ElementKind :=
  match r.kindOf i with
  | .error fault => .error fault
  | .ok (some kind) => .ok kind
  | .ok none => .ok (if (edgeEnds? a properties).isSome then .edge else .node)

end DiagramForge
