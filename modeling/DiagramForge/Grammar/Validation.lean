import DiagramForge.Diagnostic
import DiagramForge.Grammar.Basic

/-!
# Validation of grammars

A grammar can be rendered if every name in it refers to something, no interface extends itself,
and no name is declared twice. What stands in the way is an error; a departure from the usual
style of names is a warning.

## Cycles

`inheritanceCycles` searches the interfaces depth first along their supertypes. A supertype that
is on the path from the start to the current interface closes a cycle. A set of names is reported
once, and an interface that has been left is not searched again.
-/

namespace DiagramForge.Grammar

open Text

/-! ## Faults of structure -/

/-- Why a grammar is unusable as it is structured. -/
inductive StructuralFault where
  /-- An interface extends something that is no interface. -/
  | unknownSuperType (interface superType : String)
  /-- A property has a type that nothing declares. -/
  | unknownType (interface property type : String)
  /-- A property whose type is needed has a type that nothing declares. -/
  | unresolvedType (interface property type : String)
  /-- Interfaces extend each other in a circle; the first one is repeated at the end. -/
  | cycle (names : List String)
  /-- A name is declared twice. -/
  | duplicate (name : String)
  /-- An interface is requested as a node and as an edge. -/
  | dualKind (interface : String)
deriving DecidableEq

namespace StructuralFault

/-- The wording of a fault. -/
def message : StructuralFault → String
  | unknownSuperType i s => "Interface '" ++ i ++ "' extends unknown interface '" ++ s ++ "'"
  | unknownType i p t => "Property '" ++ i ++ "." ++ p ++ "' has unknown type '" ++ t ++ "'"
  | unresolvedType i p t =>
    "Property '" ++ i ++ "." ++ p ++ "' references unknown type '" ++ t ++ "'"
  | cycle names => "Circular inheritance: " ++ joinStrings " -> " names
  | duplicate name => "Duplicate declaration '" ++ name ++ "'"
  | dualKind i => "Interface '" ++ i ++ "' is classified as both node and edge"

/-- The interface a fault is about. -/
def interface? : StructuralFault → Option String
  | unknownSuperType i _ | unknownType i _ _ | unresolvedType i _ _ | dualKind i => some i
  | cycle names => names.head?
  | duplicate name => some name

/-- The property a fault is about. -/
def property? : StructuralFault → Option String
  | unknownType _ p _ | unresolvedType _ p _ => some p
  | _ => none

/-- The diagnostic for a fault. -/
def diagnostic (f : StructuralFault) : Diagnostic :=
  { kind := .structural
    message := f.message
    place :=
      { phase := some "validating", interface := f.interface?, property := f.property? } }

end StructuralFault

/-! ## References -/

/-- Whether a name is that of an interface. -/
def hasInterface (g : Grammar) (name : String) : Bool :=
  g.interfaceNames.contains name

/-- Whether a name denotes a type. -/
def hasType (g : Grammar) (name : String) : Bool :=
  g.hasInterface name || g.typeNames.contains name || isPrimitive name

/-- The faults of the references that an interface makes. -/
def referenceFaults (g : Grammar) (i : Interface) : List StructuralFault :=
  ((i.superTypes.filter fun s ↦ !g.hasInterface s).map fun s ↦ .unknownSuperType i.name s)
    ++ (i.properties.filter fun p ↦ !g.hasType p.type).map fun p ↦ .unknownType i.name p.name p.type

/-- The warnings about the references that an interface makes. -/
def referenceWarnings (g : Grammar) (i : Interface) : List String :=
  (i.properties.filter fun p ↦ p.crossReference && g.hasType p.type && !g.hasInterface p.type).map
    fun p ↦ "Property '" ++ i.name ++ "." ++ p.name ++ "' cross-references '" ++ p.type
      ++ "', which is not an interface"

/-! ## Cycles -/

/-- The supertypes of an interface, by its last declaration. -/
def superTypesOf? (g : Grammar) (name : String) : Option (List String) :=
  (g.lastInterface? name).map (·.superTypes)

/-- The state of the search for cycles. -/
structure CycleSearch where
  /-- The interfaces that have been left. -/
  done : List String := []
  /-- The cycles found, each with its first name repeated at the end. -/
  cycles : List (List String) := []

/-- Whether two lists hold the same names. -/
def sameNames (a b : List String) : Bool :=
  (a.all fun x ↦ b.contains x) && b.all fun x ↦ a.contains x

/-- Adds a cycle, unless one of the same names has been found. -/
def CycleSearch.addCycle (s : CycleSearch) (cycle : List String) : CycleSearch :=
  if s.cycles.any (sameNames cycle) then s else { s with cycles := s.cycles ++ [cycle] }

/-- Searches an interface and what it extends. `path` leads from the start of the search to the
interface. The names on a path differ and are declared, so `depth` need not exceed the number of
interfaces. -/
def searchFrom (g : Grammar) (depth : Nat) (path : List String) (s : CycleSearch)
    (name : String) : CycleSearch :=
  match depth with
  | 0 => s
  | depth + 1 =>
    if path.contains name then s.addCycle (path.dropWhile (· != name) ++ [name])
    else if s.done.contains name then s
    else
      match g.superTypesOf? name with
      | none => s
      | some supers =>
        let s := supers.foldl (searchFrom g depth (path ++ [name])) s
        { s with done := name :: s.done }

/-- The cycles of the supertype relation, each with its first name repeated at the end. -/
def inheritanceCycles (g : Grammar) : List (List String) :=
  (g.interfaceNames.foldl (searchFrom g (g.interfaces.length + 1) []) {}).cycles

/-! ## Declarations -/

/-- The names that occur before in a list, once for each further occurrence. -/
def repeats (seen : List String) : List String → List String
  | [] => []
  | name :: names =>
    if seen.contains name then name :: repeats seen names else repeats (name :: seen) names

/-- A text without a line feed at its end. -/
def withoutNewline (cs : List Char) : List Char :=
  if cs.getLast? == some '\n' then cs.dropLast else cs

/-- Whether a name is spelled as a type is, a line feed at its end left out of account. -/
def isTypeName (name : String) : Bool :=
  match withoutNewline name.toList with
  | [] => false
  | c :: cs => c.isUpper && cs.all Char.isAlphanum

/-- Whether a name is spelled as a property is, a line feed at its end left out of account. -/
def isPropertyName (name : String) : Bool :=
  match withoutNewline name.toList with
  | [] => false
  | c :: cs =>
    (c.isLower || c == '_' || c == '$') && cs.all fun c ↦ c.isAlphanum || c == '_' || c == '$'

/-- The warnings about a property, `seen` being the names of those before it. -/
def propertyWarnings (interface : String) (seen : List String) (p : Property) : List String :=
  (if seen.contains p.name then
    ["Interface '" ++ interface ++ "' declares property '" ++ p.name ++ "' more than once"]
   else [])
    ++ if isPropertyName p.name then []
       else ["Property '" ++ interface ++ "." ++ p.name ++ "' should be camelCase"]

/-- The warnings about properties, `seen` being the names of those before them. -/
def propertiesWarnings (interface : String) (seen : List String) : List Property → List String
  | [] => []
  | p :: ps =>
    propertyWarnings interface seen p ++ propertiesWarnings interface (p.name :: seen) ps

/-- The warnings about the names in an interface. -/
def interfaceWarnings (i : Interface) : List String :=
  (if isTypeName i.name then [] else ["Interface '" ++ i.name ++ "' should be PascalCase"])
    ++ propertiesWarnings i.name [] i.properties

/-- The warnings about the name of an alias. -/
def aliasWarnings (t : TypeAlias) : List String :=
  if isTypeName t.name then [] else ["Type '" ++ t.name ++ "' should be PascalCase"]

/-! ## Reports -/

/-- The outcome of validation: errors keep a grammar from being rendered, warnings do not. -/
structure ValidationReport where
  /-- What keeps the grammar from being rendered. -/
  errors : List Diagnostic
  /-- What is only worth mentioning. -/
  warnings : List String

/-- Whether the grammar can be rendered. -/
def ValidationReport.ok (r : ValidationReport) : Bool :=
  r.errors.isEmpty

/-- The faults of a grammar: of its references, of its inheritance, of its declarations. -/
def faults (g : Grammar) : List StructuralFault :=
  g.interfaces.flatMap g.referenceFaults
    ++ g.inheritanceCycles.map .cycle
    ++ (repeats [] (g.interfaceNames ++ g.typeNames)).map .duplicate

/-- The warnings about a grammar. -/
def warnings (g : Grammar) : List String :=
  (if g.interfaces.isEmpty && g.types.isEmpty then
    ["Grammar declares no interfaces or types."]
   else [])
    ++ g.interfaces.flatMap g.referenceWarnings
    ++ g.interfaces.flatMap interfaceWarnings
    ++ g.types.flatMap aliasWarnings

/-- Validates a grammar. -/
def validate (g : Grammar) : ValidationReport :=
  ⟨g.faults.map StructuralFault.diagnostic, g.warnings⟩

end DiagramForge.Grammar
