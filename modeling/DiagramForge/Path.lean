import DiagramForge.Text.Blank

/-!
# Paths

Paths are kept in normal form: empty components and the component `.` are dropped, so that two
spellings of the same path are equal as values. The component `..` is kept, because what it denotes
depends on the links of a file system and not on the text alone.
-/

namespace DiagramForge

/-- A path in normal form. -/
structure Path where
  /-- What the path starts from: nothing for a relative path, one slash, or exactly two. -/
  root : String
  /-- The components, none of them empty or `.`. -/
  parts : List String
deriving DecidableEq, Inhabited

namespace Path

/-- The components of a text, without the empty ones and those that denote the same directory. -/
def components (s : String) : List String :=
  (Text.fieldStrings (· == '/') s).filter fun part ↦ part != "" && part != "."

/-- The root of a path text. Two leading slashes are a root of their own; three or more count as
one. -/
def rootOf (s : String) : String :=
  match s.toList.takeWhile (· == '/') with
  | [] => ""
  | [_, _] => "//"
  | _ => "/"

/-- Reads a path. -/
def ofString (s : String) : Path :=
  ⟨rootOf s, components s⟩

/-- Writes a path; the path without components is the current directory. -/
def toString (p : Path) : String :=
  if p.root == "" && p.parts.isEmpty then "." else p.root ++ Text.joinStrings "/" p.parts

instance : ToString Path := ⟨toString⟩

/-- The normal form of a path text. -/
def normalize (s : String) : String :=
  (ofString s).toString

/-- Whether the path is resolved without the current directory. -/
def isAbsolute (p : Path) : Bool :=
  p.root != ""

/-- The second path as seen from the first one; an absolute path is seen alike from anywhere. -/
def join (p q : Path) : Path :=
  if q.isAbsolute then q else ⟨p.root, p.parts ++ q.parts⟩

/-- The path of an entry of a directory. -/
def child (p : Path) (name : String) : Path :=
  ⟨p.root, p.parts ++ [name]⟩

/-- The directory a path lies in. -/
def parent (p : Path) : Path :=
  ⟨p.root, p.parts.dropLast⟩

/-- The last component, empty if there is none. -/
def name (p : Path) : String :=
  p.parts.getLast?.getD ""

/-- The last component cut at its last dot, unless that dot begins or ends it. -/
def stemAndSuffix (p : Path) : String × String :=
  let cs := p.name.toList
  let suffix := (cs.reverse.takeWhile (· != '.')).reverse
  let stemLength := cs.length - suffix.length - 1
  if suffix.isEmpty || suffix.length == cs.length || stemLength == 0 then (p.name, "")
  else (String.ofList (cs.take stemLength), String.ofList ('.' :: suffix))

/-- The last component without its suffix. -/
def stem (p : Path) : String :=
  p.stemAndSuffix.1

/-- The suffix of the last component, with its dot. -/
def suffix (p : Path) : String :=
  p.stemAndSuffix.2

/-- Whether the path lies strictly below a directory. -/
def below (dir p : Path) : Bool :=
  dir.root == p.root && dir.parts.length < p.parts.length && dir.parts.isPrefixOf p.parts

end Path

end DiagramForge
