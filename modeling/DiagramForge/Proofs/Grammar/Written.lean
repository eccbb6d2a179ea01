import DiagramForge.Grammar.Parse

/-!
# Declarations as they are written

The customary layout of explicit declarations, as data. A structure holds the names, the notes and
the blanks of a construct together with what must hold of them so that they can be written; `text`
is how it is written, and what it declares is told by a function of its own.

## Blanks

Where the layout admits blanks at all, any blanks will do: in front of a property, before a closing
brace, and between declarations, where a blank line is customary. A note stands on a line of its
own, directly above the next note or the declaration that it is attached to.
-/

namespace DiagramForge.Grammar.Written

open Text

/-- Texts with a separator between each two of them. -/
def joined (sep : List Char) : List (List Char) → List Char
  | [] => []
  | t :: more => t ++ more.flatMap fun u ↦ sep ++ u

/-! ## Names and blanks -/

/-- A name. -/
structure Name where
  /-- Its characters. -/
  chars : List Char
  /-- They make an identifier. -/
  ident : isIdent chars = true

/-- The name as declarations hold it. -/
def Name.string (n : Name) : String :=
  String.ofList n.chars

/-- Any number of blanks. -/
structure Blanks where
  /-- The blanks. -/
  chars : List Char
  /-- They are blanks. -/
  blank : allBlank chars = true

/-! ## Notes -/

/-- A note. -/
structure Note where
  /-- Its key. -/
  key : List Char
  /-- Its value. -/
  value : List Char
  /-- There is a key. -/
  key_ne_nil : key ≠ []
  /-- The key is a word. -/
  key_word : ∀ c ∈ key, isWordChar c = true
  /-- There is a value. -/
  value_ne_nil : value ≠ []
  /-- There are no blanks around the value. -/
  value_trimmed : trim value = value
  /-- The value is one line. -/
  value_line : '\n' ∉ value
  /-- The value begins no block comment. -/
  value_plain : ¬ ['/', '*'] <:+: value

/-- The comment that makes a note. -/
def Note.comment (n : Note) : List Char :=
  ' ' :: '@' :: (n.key ++ ' ' :: n.value)

/-- The line of a note. -/
def Note.line (n : Note) : List Char :=
  '/' :: '/' :: (n.comment ++ ['\n'])

/-- The notes of a declaration. -/
structure Notes where
  /-- The notes. -/
  items : List Note
  /-- Their keys differ. -/
  distinct : (items.map (·.key)).Nodup

/-- The note as a declaration holds it. -/
def Note.entry (n : Note) : String × String :=
  (String.ofList n.key, String.ofList n.value)

/-- The lines of notes. -/
def Notes.text (ns : Notes) : List Char :=
  ns.items.flatMap Note.line

/-- The notes as a declaration holds them. -/
def Notes.annotations (ns : Notes) : Annotations :=
  ns.items.map Note.entry

/-! ## Interfaces -/

/-- A property. -/
structure Property where
  /-- Its name. -/
  name : Name
  /-- Whether it may be absent. -/
  optional : Bool
  /-- Whether it refers to an element. -/
  crossReference : Bool
  /-- The name of its type. -/
  type : Name
  /-- Whether it holds a sequence. -/
  array : Bool

/-- The type of a property, with the sign of a reference. -/
def Property.base (p : Property) : List Char :=
  (if p.crossReference then ['@'] else []) ++ p.type.chars

/-- How the type of a property is written. -/
def Property.typeText (p : Property) : List Char :=
  p.base ++ if p.array then ['[', ']'] else []

/-- How a property is written. -/
def Property.text (p : Property) : List Char :=
  p.name.chars ++ ((if p.optional then ['?'] else []) ++ ':' :: ' ' :: p.typeText)

/-- The property that is declared. -/
def Property.declared (p : Property) : DiagramForge.Property where
  name := p.name.string
  type := p.type.string
  optional := p.optional
  array := p.array
  crossReference := p.crossReference

/-- What ends a property. -/
inductive Mark where
  /-- The end of the line. -/
  | newline
  /-- A semicolon. -/
  | semicolon
  /-- A comma. -/
  | comma

/-- The character of a mark. -/
def Mark.char : Mark → Char
  | newline => '\n'
  | semicolon => ';'
  | comma => ','

/-- The body of an interface, between its braces. -/
inductive Body where
  /-- Nothing but blanks. -/
  | close (closing : Blanks)
  /-- A last property that no mark ends. -/
  | last (before : Blanks) (p : Property) (closing : Blanks)
  /-- A property, a mark, and more. -/
  | line (before : Blanks) (p : Property) (mark : Mark) (more : Body)

namespace Body

/-- How a body is written. -/
def text : Body → List Char
  | close closing => closing.chars
  | last before p closing => before.chars ++ (p.text ++ closing.chars)
  | line before p mark more => before.chars ++ (p.text ++ mark.char :: more.text)

/-- The properties of a body. -/
def properties : Body → List Property
  | close _ => []
  | last _ p _ => [p]
  | line _ p _ more => p :: more.properties

end Body

/-- An interface. -/
structure Interface where
  /-- The notes above it. -/
  notes : Notes
  /-- Its name. -/
  name : Name
  /-- What it extends. -/
  superTypes : List Name
  /-- Its body. -/
  body : Body

/-- How the names that an interface extends are written. -/
def supersText : List Name → List Char
  | [] => []
  | s :: more => ' ' :: ("extends".toList ++ ' ' :: joined [',', ' '] ((s :: more).map Name.chars))

/-- How an interface is written, below its notes. -/
def Interface.text (i : Interface) : List Char :=
  "interface".toList
    ++ ' ' :: (i.name.chars ++ (supersText i.superTypes ++ ' ' :: '{' :: (i.body.text ++ ['}'])))

/-- The interface that is declared. -/
def Interface.declared (i : Interface) : DiagramForge.Interface where
  name := i.name.string
  properties := i.body.properties.map Property.declared
  superTypes := i.superTypes.map Name.string
  annotations := i.notes.annotations

/-! ## Aliases -/

/-- A literal between single quotes. -/
structure Literal where
  /-- What stands between the quotes. -/
  contents : List Char
  /-- It does not end the literal. -/
  quote : '\'' ∉ contents
  /-- It holds no escape. -/
  escape : '\\' ∉ contents
  /-- It does not end the member. -/
  bar : '|' ∉ contents
  /-- It begins no block comment. -/
  plain : ¬ ['/', '*'] <:+: contents

/-- How a literal is written. -/
def Literal.text (l : Literal) : List Char :=
  '\'' :: (l.contents ++ ['\''])

/-- The members of an alias, of which there is at least one. -/
inductive Members where
  /-- They are names. -/
  | names (first : Name) (more : List Name)
  /-- They are literals. -/
  | literals (first : Literal) (more : List Literal)

namespace Members

/-- How each of the members is written. -/
def texts : Members → List (List Char)
  | names first more => (first :: more).map Name.chars
  | literals first more => (first :: more).map Literal.text

/-- The literals among the members as a declaration holds them. -/
def unionTypes : Members → List String
  | names _ _ => []
  | literals first more => (first :: more).map fun l ↦ String.ofList l.contents

/-- How the members are written, with bars between them. -/
def text (ms : Members) : List Char :=
  joined [' ', '|', ' '] ms.texts

end Members

/-- An alias. -/
structure Alias where
  /-- The notes above it. -/
  notes : Notes
  /-- Its name. -/
  name : Name
  /-- What it stands for. -/
  members : Members

/-- How an alias is written, below its notes. -/
def Alias.text (t : Alias) : List Char :=
  "type".toList ++ ' ' :: (t.name.chars ++ ' ' :: '=' :: ' ' :: (t.members.text ++ [';']))

/-- The alias that is declared. -/
def Alias.declared (t : Alias) : TypeAlias where
  name := t.name.string
  definition := String.ofList t.members.text
  unionTypes := t.members.unionTypes
  annotations := t.notes.annotations

/-! ## Documents -/

/-- An explicit declaration. -/
inductive Item where
  /-- An interface. -/
  | interface (i : Interface)
  /-- An alias. -/
  | typeAlias (t : Alias)

namespace Item

/-- The notes above a declaration. -/
def notes : Item → Notes
  | interface i => i.notes
  | typeAlias t => t.notes

/-- How a declaration is written, below its notes. -/
def text : Item → List Char
  | interface i => i.text
  | typeAlias t => t.text

/-- What is declared. -/
def declared : Item → Declaration
  | interface i => .interface i.declared
  | typeAlias t => .alias t.declared

/-- The interface that is declared, if it is one. -/
def interface? : Item → Option DiagramForge.Interface
  | interface i => some i.declared
  | typeAlias _ => none

/-- The alias that is declared, if it is one. -/
def alias? : Item → Option TypeAlias
  | interface _ => none
  | typeAlias t => some t.declared

end Item

/-- A grammar text of explicit declarations. -/
structure Document where
  /-- The name that its first line gives the grammar, if there is such a line. -/
  header : Option Name
  /-- What stands before the declarations. -/
  lead : Blanks
  /-- The declarations with what stands after each of them. -/
  items : List (Item × Blanks)

namespace Document

/-- How the name of the grammar is written. -/
def headerText : Option Name → List Char
  | none => []
  | some n => "grammar".toList ++ ' ' :: (n.chars ++ ['\n'])

/-- How declarations are written. -/
def itemsText (items : List (Item × Blanks)) : List Char :=
  items.flatMap fun e ↦ e.1.notes.text ++ (e.1.text ++ e.2.chars)

/-- How a document is written. -/
def text (d : Document) : List Char :=
  headerText d.header ++ (d.lead.chars ++ itemsText d.items)

/-- The grammar that a document declares. -/
def declared (d : Document) (projectName : String) (file : Option Path) : Grammar where
  projectName :=
    if projectName == "" then Naming.toProjectName ((d.header.map Name.string).getD "")
    else projectName
  grammarName := d.header.map Name.string
  interfaces := d.items.filterMap fun e ↦ e.1.interface?
  types := d.items.filterMap fun e ↦ e.1.alias?
  rules := []
  sourcePath := file.map Path.toString

end Document

end DiagramForge.Grammar.Written
