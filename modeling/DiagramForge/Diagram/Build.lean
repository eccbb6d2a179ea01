import DiagramForge.Diagram.Classify
import DiagramForge.Template.Helper

/-!
# From grammar to diagram

`Diagram.build` resolves the names in a grammar and classifies its interfaces. It is defined for a
grammar whose supertypes are declared and free of cycles, whose property types are declared, and of
whose interfaces none is requested as a node and as an edge; for any other it yields the first
fault in this order. Settings that a plugin has given values they cannot have are a fault where
they are used.

Where a name is declared more than once, the last declaration is what the name refers to.

## Ancestors

The ancestors of an interface are found breadth first, so they are listed by distance. The search
needs no bound from outside: a declared interface is expanded only once, and an undeclared one adds
nothing to the queue.
-/

namespace DiagramForge

open Grammar (StructuralFault)

/-! ## Ancestors -/

/-- The interfaces that an interface extends; one that is not declared extends none. -/
def Grammar.supers (g : Grammar) (name : String) : List String :=
  (g.superTypesOf? name).getD []

/-- The declared interfaces that are not among the names found. -/
def Grammar.unfound (g : Grammar) (found : List String) : List String :=
  g.interfaceNames.filter fun name ↦ !found.contains name

theorem Grammar.supers_eq_nil {g : Grammar} {name : String} (h : name ∉ g.interfaceNames) :
    g.supers name = [] := by
  have : g.lastInterface? name = none := by
    rw [Grammar.lastInterface?, List.findRev?_eq_find?_reverse, List.find?_eq_none]
    intro i hi
    have : i.name ≠ name := fun h' ↦ h (h' ▸ List.mem_map_of_mem (List.mem_reverse.1 hi))
    simpa using this
  simp [supers, superTypesOf?, this]

theorem Grammar.unfound_length_le (g : Grammar) (found : List String) (name : String) :
    (g.unfound (found ++ [name])).length ≤ (g.unfound found).length := by
  have : g.unfound (found ++ [name]) = (g.unfound found).filter fun n ↦ n != name := by
    simp only [unfound, List.filter_filter]
    congr 1
    funext n
    by_cases h : n = name <;> simp [h]
  rw [this]
  exact List.length_filter_le _ _

theorem Grammar.unfound_length_lt {g : Grammar} {found : List String} {name : String}
    (declared : name ∈ g.interfaceNames) (new : name ∉ found) :
    (g.unfound (found ++ [name])).length < (g.unfound found).length := by
  have : g.unfound (found ++ [name]) = (g.unfound found).filter fun n ↦ n != name := by
    simp only [unfound, List.filter_filter]
    congr 1
    funext n
    by_cases h : n = name <;> simp [h]
  rw [this]
  exact List.length_filter_lt_length_iff_exists.2
    ⟨name, by simp [unfound, declared, new], by simp⟩

/-- The names found, followed by those that the queue leads to. -/
def Grammar.ancestorsFrom (g : Grammar) (found : List String) (queue : List String) :
    List String :=
  match queue with
  | [] => found
  | name :: queue =>
    if found.contains name then g.ancestorsFrom found queue
    else g.ancestorsFrom (found ++ [name]) (queue ++ g.supers name)
termination_by ((g.unfound found).length, queue.length)
decreasing_by
  · exact Prod.Lex.right _ (by simp)
  · rename_i new
    by_cases declared : name ∈ g.interfaceNames
    · exact Prod.Lex.left _ _ (Grammar.unfound_length_lt declared (by simpa using new))
    · rw [Grammar.supers_eq_nil declared, List.append_nil]
      rcases Nat.lt_or_eq_of_le (g.unfound_length_le found name) with h | h
      · exact Prod.Lex.left _ _ h
      · rw [h]
        exact Prod.Lex.right _ (by simp)

/-- The interfaces that an interface inherits from, the nearest first. -/
def Grammar.ancestors (g : Grammar) (name : String) : List String :=
  g.ancestorsFrom [] (g.supers name)

/-- The ancestors of all interfaces. -/
def Grammar.ancestry (g : Grammar) : Ancestry :=
  Entries.ofList (g.interfaceNames.map fun name ↦ (name, g.ancestors name))

/-! ## Properties -/

/-- What the name of a type denotes. An interface hides an alias of its name, and both hide a
primitive type. -/
def Grammar.target? (g : Grammar) (type : String) : Option TypeTarget :=
  if g.hasInterface type then some .interface
  else if g.typeNames.contains type then some .typeAlias
  else if isPrimitive type then some .primitive
  else none

/-- A property of an interface with what its type denotes. -/
def Grammar.resolve (g : Grammar) (i : Interface) (p : Property) :
    Except StructuralFault ResolvedProperty :=
  match g.target? p.type with
  | some target => .ok { toProperty := p, target, declaredIn := i.name }
  | none => .error (.unresolvedType i.name p.name p.type)

/-- The properties that each interface declares. -/
abbrev OwnProperties := List (String × List ResolvedProperty)

/-- The properties that an interface declares. -/
def OwnProperties.of (own : OwnProperties) (name : String) : List ResolvedProperty :=
  (Entries.get? own name).getD []

/-- Resolves the properties of all interfaces. -/
def Grammar.ownProperties (g : Grammar) : Except StructuralFault OwnProperties := do
  return Entries.ofList (← g.interfaces.mapM fun i ↦ do
    return (i.name, ← i.properties.mapM (g.resolve i)))

/-- Properties with a repeated name at its first place and as it is declared last. -/
def mergeProperties (ps : List ResolvedProperty) : List ResolvedProperty :=
  (Entries.ofList (ps.map fun p ↦ (p.name, p))).map (·.2)

/-- The properties of an interface, those of its farthest ancestor first. -/
def gatherProperties (own : OwnProperties) (ancestors : List String) (name : String) :
    List ResolvedProperty :=
  mergeProperties ((ancestors.reverse ++ [name]).flatMap own.of)

/-! ## Building -/

/-- The first fault of inheritance: an interface that is not declared, or else a cycle. -/
def Grammar.checkInheritance (g : Grammar) : Except StructuralFault Unit :=
  let dangling := g.interfaces.flatMap fun i ↦
    (i.superTypes.filter fun s ↦ !g.hasInterface s).map fun s ↦ (i.name, s)
  match dangling, g.inheritanceCycles with
  | (name, s) :: _, _ => .error (.unknownSuperType name s)
  | [], cycle :: _ => .error (.cycle cycle)
  | [], [] => .ok ()

/-- The element of an interface. -/
def Element.ofInterface (requests : Requests) (a : Ancestry) (own : OwnProperties)
    (i : Interface) : Except StructuralFault Element := do
  let all := gatherProperties own (a.of i.name) i.name
  let kind ← classify requests a i all
  return {
    name := i.name, kind, properties := own.of i.name, allProperties := all,
    superTypes := i.superTypes, ancestors := a.of i.name, annotations := i.annotations }

/-- The edge type of an element. -/
def EdgeType.ofElement (s : Setting) (a : Ancestry) (e : Element) : Except Crash EdgeType := do
  match ← s.partAt ["diagram", "features", "routing"] with
  | .routing routing => return ⟨e, routing, requestedEnds? a e.allProperties⟩
  | other => throw (Crash.noAttribute other.typeName "value")

/-- The name of a project that nothing names. -/
def unnamedProject : String := "unknown"

/-- The name of the project of a grammar. -/
def Grammar.project (g : Grammar) : String :=
  if g.projectName != "" then g.projectName
  else
    match g.grammarName with
    | none => unnamedProject
    | some name => if name == "" then unnamedProject else name

/-- The fragments that every template can include. -/
def builtinPartials : List (String × String) :=
  [("header",
      Text.joinStrings "\n"
        ["/*",
          r" * Generated by {{ metadata.generator }} from the {{ grammar_name }} grammar.",
          " * Do not edit by hand; changes are overwritten on regeneration.",
          " */",
          ""]),
    ("readme_header", r"# {{ config.extension.display_name }}" ++ "\n")]

/-- What a diagram takes from outside its grammar and configuration. -/
structure BuildOptions where
  /-- Further helpers; they win over those that every template can call. -/
  helpers : List (String × Template.Helper) := []
  /-- Further fragments; they win over those that every template can include. -/
  partials : List (String × String) := []
  /-- The time to record. -/
  now : String := ""

/-- Why a grammar has no diagram. -/
inductive BuildFault where
  /-- The grammar does not make sense. -/
  | structural (fault : StructuralFault)
  /-- A setting has a value that it cannot have. -/
  | crash (c : Crash)

/-- The failure that a fault is reported as. -/
def BuildFault.failure : BuildFault → Failure
  | structural fault => .diagnostic fault.diagnostic
  | crash c => .crash c

/-- The diagram of a grammar, given the settings in effect. -/
def Diagram.build (options : BuildOptions) (g : Grammar) (s : Setting) :
    Except BuildFault Diagram := do
  g.checkInheritance.mapError .structural
  let a := g.ancestry
  let own ← g.ownProperties.mapError .structural
  let requests ← (Requests.ofSettings s).mapError .crash
  let elements ←
    (g.interfaces.mapM (Element.ofInterface requests a own)).mapError .structural
  let nodes ← ((elements.filter (·.isNode)).mapM (NodeType.ofElement s)).mapError .crash
  let edges ← ((elements.filter (·.isEdge)).mapM (EdgeType.ofElement s a)).mapError .crash
  let features ← (do (← s.partAt ["diagram", "features"]).enabled).mapError BuildFault.crash
  return {
    projectName := g.project
    grammar := g
    elements
    nodeTypes := nodes
    edgeTypes := edges
    ancestry := a
    features
    config := s.entries
    generatedAt := options.now
    helpers := Entries.merge Template.builtinHelpers options.helpers
    partials := Entries.merge builtinPartials options.partials }

end DiagramForge
