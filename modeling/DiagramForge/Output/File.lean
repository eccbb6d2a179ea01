import DiagramForge.Diagnostic
import DiagramForge.Text.Blank

/-!
# Output files

What a run produces: texts with the paths they are to be written to. An `OutputPath` carries the
proof that it leads into the output directory, so nobody downstream has to check it again.
-/

namespace DiagramForge

/-- Whether a path leads into the directory it is seen from: it is not empty, it does not start at
the root, and it does not go up. -/
def leadsInside (path : String) : Bool :=
  path != "" && path.toList.head? != some '/'
    && !(Text.fieldStrings (· == '/') path).contains ".."

/-- A path that leads into the output directory. -/
structure OutputPath where
  /-- The path as it was given. -/
  text : String
  /-- It leads into the output directory. -/
  inside : leadsInside text = true
deriving DecidableEq

namespace OutputPath

/-- The crash for a path that does not lead into the output directory. -/
def refused (path : String) : Crash :=
  Crash.badValue
    ("Generated file path must be relative and inside the output root: " ++ Text.quoted path)

/-- A path text as an output path. -/
def ofString (path : String) : Except Crash OutputPath :=
  if inside : leadsInside path = true then .ok ⟨path, inside⟩ else .error (refused path)

/-- The path that is written to, given the output directory. -/
def target (root : Path) (p : OutputPath) : Path :=
  root.join (Path.ofString p.text)

end OutputPath

/-- A file to be written. -/
structure OutputFile where
  /-- Where to write it. -/
  path : OutputPath
  /-- Its text. -/
  content : String
  /-- The name of the encoding to write it in. -/
  encoding : String := "utf-8"
  /-- The template it was rendered from, if any. -/
  template : Option String := none
deriving DecidableEq

end DiagramForge
