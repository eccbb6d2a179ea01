import DiagramForge.Data

/-!
# Grammars

The part of a language grammar that diagrams are made from: interfaces with typed properties, type
aliases, and the names of the parser rules. Everything after the scanner only reads these types.

Names are not assumed to be distinct. A lookup by name finds the first declaration; the tables of
the later stages say for themselves which declaration of a repeated name they keep.
-/

namespace DiagramForge

/-- A property of an interface. -/
structure Property where
  /-- The name of the property. -/
  name : String
  /-- The name of its type: a primitive, an interface or an alias. -/
  type : String
  /-- Whether it may be absent. -/
  optional : Bool := false
  /-- Whether it holds a sequence. -/
  array : Bool := false
  /-- Whether it is declared to refer to an element instead of containing it. -/
  crossReference : Bool := false
deriving DecidableEq, Inhabited

/-- Key-value notes attached to a declaration, in the order they were first written. -/
abbrev Annotations := List (String × String)

/-- A record type with properties in declaration order. -/
structure Interface where
  /-- The name of the interface. -/
  name : String
  /-- The properties it declares itself. -/
  properties : List Property := []
  /-- The names of the interfaces it extends. -/
  superTypes : List String := []
  /-- The notes attached to it. -/
  annotations : Annotations := []
deriving DecidableEq, Inhabited

/-- The first property with a name. -/
def Interface.property? (i : Interface) (name : String) : Option Property :=
  i.properties.find? fun p ↦ p.name == name

/-- A type that stands for another type expression. -/
structure TypeAlias where
  /-- The name of the alias. -/
  name : String
  /-- The expression it stands for, as written. -/
  definition : String
  /-- The members, if the expression is a union of quoted literals only. -/
  unionTypes : List String := []
  /-- The notes attached to it. -/
  annotations : Annotations := []
deriving DecidableEq, Inhabited

/-- Whether the alias stands for a union of literals. -/
def TypeAlias.isLiteralUnion (t : TypeAlias) : Bool :=
  !t.unionTypes.isEmpty

/-- A grammar, as far as diagrams depend on it. -/
structure Grammar where
  /-- The identifier of the project, usually from the name of the grammar file. -/
  projectName : String := ""
  /-- The name the grammar declares. -/
  grammarName : Option String := none
  /-- The interfaces, the declared ones before the inferred ones. -/
  interfaces : List Interface := []
  /-- The type aliases. -/
  types : List TypeAlias := []
  /-- The names of the parser rules. -/
  rules : List String := []
  /-- The file the grammar was read from. -/
  sourcePath : Option String := none
deriving DecidableEq, Inhabited

namespace Grammar

/-- The types every grammar knows without declaring them. -/
def primitiveTypes : List String :=
  ["string", "number", "boolean", "bigint", "Date"]

/-- Whether a name is that of a primitive type. -/
def isPrimitive (name : String) : Bool :=
  primitiveTypes.contains name

/-- The names of the interfaces, in declaration order. -/
def interfaceNames (g : Grammar) : List String :=
  g.interfaces.map (·.name)

/-- The names of the aliases, in declaration order. -/
def typeNames (g : Grammar) : List String :=
  g.types.map (·.name)

/-- The first interface with a name. -/
def interface? (g : Grammar) (name : String) : Option Interface :=
  g.interfaces.find? fun i ↦ i.name == name

/-- The first alias with a name. -/
def type? (g : Grammar) (name : String) : Option TypeAlias :=
  g.types.find? fun t ↦ t.name == name

/-- The last interface with a name: the one that counts when a name is declared twice. -/
def lastInterface? (g : Grammar) (name : String) : Option Interface :=
  g.interfaces.findRev? fun i ↦ i.name == name

/-- The last alias with a name. -/
def lastType? (g : Grammar) (name : String) : Option TypeAlias :=
  g.types.findRev? fun t ↦ t.name == name

end Grammar

end DiagramForge
