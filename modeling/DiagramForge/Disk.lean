import DiagramForge.Diagnostic
import DiagramForge.Text.Utf8

/-!
# Disks

A disk is a tree of directories and files, held as the list of its entries by place: the components
from the root on. The root is a directory; every other entry lies in a directory that is an entry
itself. One directory is the current one, from which relative paths are resolved.

All operations are functions from a disk to a disk, so what an operation leaves alone can be stated
and proved. An operation that can fail halfway yields the disk it leaves behind in either case.
-/

namespace DiagramForge

/-! ## Entries and faults -/

/-- A place on a disk: the components from the root on. -/
abbrev DiskPlace := List String

/-- What a disk holds at a place. -/
inductive DiskEntry where
  /-- A directory: the time that what lies in it last changed. -/
  | directory (modified : Int)
  /-- A file: its bytes and the time they were last replaced. -/
  | file (bytes : List UInt8) (modified : Int)
deriving DecidableEq

/-- The time that directories count as last changed at, unless it is set. What is in them changes
while programs run, so it is later than the times that files are given. -/
def directoryTime : Int := 2000000000

/-- A directory as it is made. -/
def DiskEntry.newDirectory : DiskEntry :=
  .directory directoryTime

/-- A place and the places above it, from the top down; the root is left out. -/
def DiskPlace.ancestry (place : DiskPlace) : List DiskPlace :=
  (List.range place.length).map fun n ↦ place.take (n + 1)

/-- Why the disk refuses an operation. -/
inductive DiskFault where
  /-- There is no such entry. -/
  | notFound
  /-- There is an entry already. -/
  | alreadyExists
  /-- Something that is used as a directory is a file. -/
  | notDirectory
  /-- Something that is used as a file is a directory. -/
  | isDirectory
  /-- The path names a directory by its role and not by its name. -/
  | busy
  /-- A component of the path is longer than a disk can record. -/
  | nameTooLong
  /-- The path holds the null character. -/
  | nullCharacter
deriving DecidableEq, Inhabited

namespace DiskFault

/-- The number that reports give a fault. -/
def number : DiskFault → Nat
  | notFound => 2
  | alreadyExists => 17
  | notDirectory => 20
  | isDirectory => 21
  | busy => 16
  | nameTooLong => 36
  | nullCharacter => 22

/-- The wording of a fault. -/
def wording : DiskFault → String
  | notFound => "No such file or directory"
  | alreadyExists => "File exists"
  | notDirectory => "Not a directory"
  | isDirectory => "Is a directory"
  | busy => "Device or resource busy"
  | nameTooLong => "File name too long"
  | nullCharacter => "embedded null byte"

/-- The class of a fault in reports. -/
def label : DiskFault → String
  | notFound => "FileNotFoundError"
  | alreadyExists => "FileExistsError"
  | notDirectory => "NotADirectoryError"
  | isDirectory => "IsADirectoryError"
  | busy => "OSError"
  | nameTooLong => "OSError"
  | nullCharacter => "ValueError"

/-- The message about a fault without the paths. -/
def headline (f : DiskFault) : String :=
  match f with
  | nullCharacter => f.wording
  | f => "[Errno " ++ ToString.toString f.number ++ "] " ++ f.wording

/-- The message about a fault at paths that are given as they are shown. -/
def message (f : DiskFault) (paths : String) : String :=
  match f with
  | nullCharacter => f.headline
  | f => f.headline ++ ": " ++ paths

/-- The crash for a fault at a path. -/
def crash (f : DiskFault) (path : Path) : Crash :=
  ⟨f.label, f.message (Text.quoted path.toString)⟩

end DiskFault

/-! ## Disks -/

/-- A disk with its current directory. -/
structure Disk where
  /-- The current directory. -/
  current : DiskPlace
  /-- The entries, the root left out. -/
  entries : List (DiskPlace × DiskEntry)

namespace Disk

/-- The disk with nothing but the current directory and what it lies in. -/
def empty (current : DiskPlace) : Disk :=
  ⟨current, (DiskPlace.ancestry current).map fun place ↦ (place, .newDirectory)⟩

/-- The entry at a place. -/
def lookup (d : Disk) (place : DiskPlace) : Option DiskEntry :=
  if place = [] then some .newDirectory else (d.entries.find? fun e ↦ e.1 == place).map (·.2)

/-- Puts an entry at a place. -/
def put (d : Disk) (place : DiskPlace) (e : DiskEntry) : Disk :=
  if d.entries.any fun e' ↦ e'.1 == place then
    { d with entries := d.entries.map fun e' ↦ if e'.1 == place then (place, e) else e' }
  else { d with entries := d.entries ++ [(place, e)] }

/-- Removes the entry at a place. -/
def erase (d : Disk) (place : DiskPlace) : Disk :=
  { d with entries := d.entries.filter fun e ↦ e.1 != place }

/-- Records that what lies in a directory has changed. -/
def renew (d : Disk) (place : DiskPlace) : Disk :=
  if place = [] then d else d.put place .newDirectory

/-! ## Resolving paths -/

/-- The number of bytes a component may have. -/
def nameLimit : Nat := 255

/-- The number of bytes that a path is too long with. -/
def pathLimit : Nat := 4096

/-- Follows components from a place; each place on the way has to be a directory. -/
def follow (d : Disk) (place : DiskPlace) : List String → Except DiskFault DiskPlace
  | [] => .ok place
  | part :: parts =>
    match d.lookup place with
    | none => .error .notFound
    | some (.file _ _) => .error .notDirectory
    | some (.directory _) =>
      if nameLimit < part.utf8ByteSize then .error .nameTooLong
      else follow d (if part == ".." then place.dropLast else place ++ [part]) parts

/-- The place that a path denotes; there need not be an entry. -/
def locate (d : Disk) (p : Path) : Except DiskFault DiskPlace :=
  if p.parts.any fun part ↦ part.toList.contains '\x00' then .error .nullCharacter
  else if pathLimit ≤ p.toString.utf8ByteSize then .error .nameTooLong
  else d.follow (if p.isAbsolute then [] else d.current) p.parts

/-- The place that a path denotes, with the entry there. -/
def find (d : Disk) (p : Path) : Except DiskFault (DiskPlace × DiskEntry) := do
  let place ← d.locate p
  match d.lookup place with
  | none => .error .notFound
  | some e => .ok (place, e)

/-! ## Questions about paths

A path that denotes nothing is an answer to these questions, and so is one that nothing can have. A
path that is too long is not: there is no telling what it denotes. -/

/-- The entry that a path denotes, if there is one. -/
def probe (d : Disk) (p : Path) : Except Crash (Option DiskEntry) :=
  match d.find p with
  | .ok (_, e) => .ok (some e)
  | .error .nameTooLong => .error (DiskFault.nameTooLong.crash p)
  | .error _ => .ok none

/-- Whether a path denotes a file. -/
def isFile (d : Disk) (p : Path) : Except Crash Bool := do
  match ← d.probe p with
  | some (.file _ _) => return true
  | _ => return false

/-- Whether a path denotes a directory. -/
def isDirectory (d : Disk) (p : Path) : Except Crash Bool := do
  match ← d.probe p with
  | some (.directory _) => return true
  | _ => return false

/-- Whether a path denotes anything. -/
def holds (d : Disk) (p : Path) : Except Crash Bool :=
  return (← d.probe p).isSome

/-- The first of some paths that denotes anything. -/
def firstHeld? (d : Disk) : List Path → Except Crash (Option Path)
  | [] => .ok none
  | p :: ps => do if ← d.holds p then return some p else d.firstHeld? ps

/-- The bytes of a file. -/
def read (d : Disk) (p : Path) : Except DiskFault (List UInt8) := do
  match ← d.find p with
  | (_, .file bytes _) => .ok bytes
  | (_, .directory _) => .error .isDirectory

/-- The time that what a path text denotes was last changed. A text that ends in a slash can only
denote a directory, and the empty text denotes nothing. -/
def modified? (d : Disk) (text : String) : Option Int :=
  let entersDirectory := ["", ".", ".."].contains ((Text.fieldStrings (· == '/') text).getLastD "")
  if text == "" then none
  else
    match d.find (Path.ofString text), entersDirectory with
    | .ok (_, .file _ time), false => some time
    | .ok (_, .directory time), _ => some time
    | _, _ => none

/-- Whether a path denotes a directory, one that is too long included among those that do not. -/
def hasDirectory (d : Disk) (p : Path) : Bool :=
  (d.isDirectory p).toOption == some true

/-! ## Changing a disk -/

/-- Makes a directory in a directory that exists. -/
def makeDirectory (d : Disk) (p : Path) : Except DiskFault Disk := do
  let place ← d.locate p
  match d.lookup place with
  | some _ => .error .alreadyExists
  | none => .ok (d.put place .newDirectory)

/-- Makes a directory and the directories it lies in, as far as they do not exist. Yields the disk
it leaves behind and, if it failed, the fault with the path it arose at. `parts` is the number of
components of the path. -/
def makeDirectoriesFrom (d : Disk) (p : Path) : (parts : Nat) → Disk × Option (DiskFault × Path)
  | 0 =>
    match d.makeDirectory p with
    | .ok d' => (d', none)
    | .error fault => if d.hasDirectory p then (d, none) else (d, some (fault, p))
  | parts + 1 =>
    match d.makeDirectory p with
    | .ok d' => (d', none)
    | .error .notFound =>
      match makeDirectoriesFrom d p.parent parts with
      | (d', some fault) => (d', some fault)
      | (d', none) =>
        match d'.makeDirectory p with
        | .ok d'' => (d'', none)
        | .error fault => if d'.hasDirectory p then (d', none) else (d', some (fault, p))
    | .error fault => if d.hasDirectory p then (d, none) else (d, some (fault, p))

/-- Makes a directory and the directories it lies in, as far as they do not exist. -/
def makeDirectories (d : Disk) (p : Path) : Disk × Option (DiskFault × Path) :=
  d.makeDirectoriesFrom p p.parts.length

/-- Moves a file to a path, in place of the file there if there is one. -/
def moveFile (d : Disk) (source : DiskPlace) (target : Path) : Except DiskFault Disk := do
  if target.parts.isEmpty || target.parts.getLast? == some ".." then .error .busy
  else
    let place ← d.locate target
    match d.lookup place, d.lookup source with
    | some (.directory _), _ => .error .isDirectory
    | _, some e => .ok ((d.erase source).put place e)
    | _, none => .error .notFound

/-- Sets the time that a file or a directory counts as last changed at. -/
def setTime (d : Disk) (p : Path) (time : Int) : Except Crash Disk :=
  match d.find p with
  | .ok (place, .file bytes _) => .ok (d.put place (.file bytes time))
  | .ok (place, .directory _) => .ok (d.put place (.directory time))
  | .error fault => .error ⟨fault.label, fault.headline⟩

/-- Removes a file. The directory that it lay in has changed then. -/
def removeFile (d : Disk) (p : Path) : Except Crash Disk :=
  match d.find p with
  | .ok (place, .file ..) => .ok ((d.erase place).renew place.dropLast)
  | .ok (_, .directory _) => .error (DiskFault.isDirectory.crash p)
  | .error fault => .error (fault.crash p)

/-- Writes a file and makes the directories it lies in, whatever was at their places. -/
def install (d : Disk) (p : Path) (e : DiskEntry) : Disk :=
  let place := (if p.isAbsolute then [] else d.current) ++ p.parts
  let made := (DiskPlace.ancestry place.dropLast).foldl (fun (d : Disk) dir ↦
    if (d.lookup dir).isSome then d else d.put dir .newDirectory) d
  made.put place e

/-- The files below a place, each with its components from there on. -/
def filesBelow (d : Disk) (place : DiskPlace) : List (List String × List UInt8) :=
  d.entries.filterMap fun e ↦
    match e.2 with
    | .file bytes _ =>
      if place.isPrefixOf e.1 then some (e.1.drop place.length, bytes) else none
    | .directory _ => none

/-- The places below a place, each given by its components from there on. -/
def placesBelow (d : Disk) (place : DiskPlace) : List (List String) :=
  d.entries.filterMap fun e ↦
    if place.isPrefixOf e.1 && place.length < e.1.length then some (e.1.drop place.length) else none

end Disk

end DiagramForge
