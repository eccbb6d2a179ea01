import DiagramForge.Data
import DiagramForge.Disk
import DiagramForge.Template.Builtin.Browser
import DiagramForge.Template.Builtin.Common
import DiagramForge.Template.Builtin.Server
import DiagramForge.Text.Digest
import DiagramForge.Text.Position

/-!
# Template libraries

Where the texts of templates come from. A template is asked for by name, such as
`server/model-factory`. A library in memory holds texts by name; a library of files looks for
`<name>.j2` in a list of directories, of which the first that has it wins, so that a project can
replace any single template that is built in.

## Keys

Compiled templates are kept under a `TemplateKey`, which tells apart whatever a name may come to
stand for: which file it is, or which of the texts that were given in turn.

A key is written as one text, its `spelling`. A name that no template has is a spelling itself, and
nothing keeps it from being that of another key.
-/

namespace DiagramForge.Template

/-- What a compiled template is kept under. -/
inductive TemplateKey where
  /-- A file of the project. -/
  | file (place : DiskPlace)
  /-- A built-in file. -/
  | builtin (place : DiskPlace)
  /-- A text of a library in memory: which library, which name, and which of its texts in turn. -/
  | memory (library : Nat) (name : String) (revision : Nat)
  /-- A fragment with its text. -/
  | fragment (name source : String)
  /-- A name that no template has. -/
  | unresolved (name : String)
deriving DecidableEq

/-- How a key is written: a file by its path, a text of a library in memory by its place there, a
fragment by its name with the digest of its text. -/
def TemplateKey.spelling : TemplateKey → String
  | file place | builtin place => "/" ++ Text.joinStrings "/" place
  | memory library name revision =>
    "memory://" ++ toString library ++ "/" ++ name ++ "@" ++ toString revision
  | fragment name source => "partial://" ++ name ++ "/" ++ Text.shortDigest source
  | unresolved name => name

/-! ## Libraries in memory -/

/-- A library in memory. -/
structure MemoryLibrary where
  /-- What tells the library apart from others. -/
  id : Nat := 0
  /-- The texts by name. -/
  sources : List (String × String) := []
  /-- How many texts each name has been given after its first one. A name keeps its number when
  its text is removed. -/
  revisions : List (String × Nat) := []

namespace MemoryLibrary

/-- A library of given texts. -/
def ofList (sources : List (String × String)) : MemoryLibrary :=
  let sources := Entries.ofList sources
  { sources, revisions := sources.map fun e ↦ (e.1, 0) }

/-- Gives a name a text. -/
def set (l : MemoryLibrary) (name source : String) : MemoryLibrary :=
  let revision := match Entries.get? l.revisions name with
    | some n => n + 1
    | none => 0
  { l with
    sources := Entries.set l.sources name source
    revisions := Entries.set l.revisions name revision }

/-- Removes the text of a name. -/
def remove (l : MemoryLibrary) (name : String) : MemoryLibrary :=
  { l with sources := Entries.erase l.sources name }

/-- The number of the last text that a name was given. -/
def revision (l : MemoryLibrary) (name : String) : Nat :=
  (Entries.get? l.revisions name).getD 0

end MemoryLibrary

/-! ## Libraries of files -/

/-- The suffix of template files. -/
def templateSuffix : String := ".j2"

/-- The built-in templates by name, each as the list of its lines. -/
def builtinTemplates : List (String × List String) :=
  let within (category : String) (templates : List (String × List String)) :=
    templates.map fun e ↦ (category ++ "/" ++ e.1, e.2)
  within "browser" Builtin.Browser.templates ++ within "common" Builtin.Common.templates
    ++ within "server" Builtin.Server.templates

/-- The directory of the built-in templates on a disk of their own. -/
def builtinRoot : Path := Path.ofString "/templates"

/-- The disk with the built-in templates. -/
def builtinDisk : Disk :=
  builtinTemplates.foldl (fun disk e ↦
    disk.install (builtinRoot.join (Path.ofString (e.1 ++ templateSuffix)))
      (.file (Text.encodeUtf8 (Text.joinStrings "\n" e.2).toList) 0)) (Disk.empty [])

/-- A directory that templates are looked for in. -/
inductive SearchDirectory where
  /-- A directory of the project's disk. -/
  | project (directory : Path)
  /-- The directory of the built-in templates. -/
  | builtin
deriving DecidableEq

namespace SearchDirectory

/-- The disk and the path of the directory. -/
def locate (disk : Disk) : SearchDirectory → Disk × Path
  | project directory => (disk, directory)
  | builtin => (builtinDisk, builtinRoot)

/-- The key of the file at a place of the directory's disk. -/
def keyAt (place : DiskPlace) : SearchDirectory → TemplateKey
  | project _ => .file place
  | builtin => .builtin place

end SearchDirectory

/-- A template file that was found. -/
structure TemplateFile where
  /-- The key of the template. -/
  key : TemplateKey
  /-- Its bytes. -/
  bytes : List UInt8
  /-- When the file was last replaced. -/
  modified : Int

/-- The file of a name in a directory. -/
def SearchDirectory.file? (disk : Disk) (dir : SearchDirectory) (name : String) :
    Except Failure (Option TemplateFile) := do
  let (disk, directory) := dir.locate disk
  let path := directory.join (Path.ofString (name ++ templateSuffix))
  if !(← (disk.isFile path).mapError .crash) then return none
  match disk.find path with
  | .ok (place, .file bytes modified) => return some ⟨dir.keyAt place, bytes, modified⟩
  | _ => return none

/-- The file of a name in the first directory that has one. -/
def findTemplate? (disk : Disk) : List SearchDirectory → (name : String) →
    Except Failure (Option TemplateFile)
  | [], _ => .ok none
  | dir :: dirs, name => do
    match ← dir.file? disk name with
    | some file => return some file
    | none => findTemplate? disk dirs name

/-- The directories of a library of files: the project's own if there is one, further ones, and the
built-in one unless it is left out. -/
def searchDirectories (disk : Disk) (own : Option Path) (further : List Path)
    (includeBuiltin : Bool) : Except Failure (List SearchDirectory) := do
  let existing ← (own.toList.filterM disk.isDirectory).mapError .crash
  return existing.map .project ++ further.map .project
    ++ if includeBuiltin then [.builtin] else []

/-- The names of the templates in a directory. -/
def SearchDirectory.names (disk : Disk) (dir : SearchDirectory) : Except Failure (List String) := do
  let (disk, directory) := dir.locate disk
  if !(← (disk.isDirectory directory).mapError .crash) then return []
  match disk.find directory with
  | .ok (place, .directory _) =>
    return (disk.placesBelow place).filterMap fun parts ↦
      let cs := (Text.joinStrings "/" parts).toList
      let suffix := templateSuffix.toList
      if suffix.isSuffixOf cs then some (String.ofList (cs.take (cs.length - suffix.length)))
      else none
  | _ => return []

/-! ## Libraries -/

/-- A source of templates. -/
inductive TemplateLibrary where
  /-- A library in memory. -/
  | memory (library : MemoryLibrary)
  /-- A library of files in directories. -/
  | files (directories : List SearchDirectory)

/-- The diagnostic about a template that does not exist. -/
def templateNotFound (name : String) : Diagnostic :=
  { kind := .templateNotFound
    message := "Template '" ++ name ++ "' not found"
    place := { phase := some "rendering", template := some name } }

namespace TemplateLibrary

/-- Whether there is a template with a name. -/
def has (l : TemplateLibrary) (disk : Disk) (name : String) : Except Failure Bool :=
  match l with
  | memory m => .ok (Entries.has m.sources name)
  | files dirs => return (← findTemplate? disk dirs name).isSome

/-- The key of the template with a name. -/
def key (l : TemplateLibrary) (disk : Disk) (name : String) : Except Failure TemplateKey :=
  match l with
  | memory m => .ok (.memory m.id name (m.revision name))
  | files dirs => do
    match ← findTemplate? disk dirs name with
    | some file => return file.key
    | none => return .unresolved name

/-- The text in the bytes of a template file, with its line ends unified. -/
def decodeSource (bytes : List UInt8) : Except Failure String :=
  match Text.decodeUtf8 bytes with
  | .error fault => .error (.crash ⟨"UnicodeDecodeError", fault.message⟩)
  | .ok cs => .ok (String.ofList (Text.unifyNewlines cs))

/-- The text of the template with a name. -/
def load (l : TemplateLibrary) (disk : Disk) (name : String) : Except Failure String :=
  match l with
  | memory m =>
    match Entries.get? m.sources name with
    | some source => .ok source
    | none => .error (.diagnostic (templateNotFound name))
  | files dirs => do
    match ← findTemplate? disk dirs name with
    | some file => decodeSource file.bytes
    | none => throw (.diagnostic (templateNotFound name))

/-- When the template with a name was last replaced, if that is recorded. -/
def modified? (l : TemplateLibrary) (disk : Disk) (name : String) : Except Failure (Option Int) :=
  match l with
  | memory _ => .ok none
  | files dirs => return (← findTemplate? disk dirs name).map (·.modified)

/-- Whether a name is in a category, if one is given. -/
def inCategory (category : Option String) (name : String) : Bool :=
  category.all fun c ↦ (c ++ "/").toList.isPrefixOf name.toList

/-- The names of all templates, or of those in one category, in ascending order. -/
def names (l : TemplateLibrary) (disk : Disk) (category : Option String) :
    Except Failure (List String) := do
  let all : List String ← match l with
    | memory m => pure (m.sources.map (·.1))
    | files dirs => do pure (← dirs.mapM fun dir ↦ dir.names disk).flatten
  let wanted := all.filter (inCategory category)
  return (wanted.mergeSort (· ≤ ·)).eraseDups

end TemplateLibrary

end DiagramForge.Template
