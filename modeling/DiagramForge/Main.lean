import DiagramForge.Cli.Needs
import DiagramForge.Text.Moment
import Std.Time.DateTime.Timestamp

/-!
# The program

The outer layer: it copies what a command needs from the file system to a `Disk`, runs the command
on it, puts out what the command yields, and copies what has changed on the disk back. A command is
a function, so nothing here decides anything about its outcome.
-/

namespace DiagramForge.Program

/-- The memory of the plugins: the marks of one stopwatch, whose clock stands still. -/
abbrev Memory := Marks

/-- The stopwatch of the program. -/
def stopwatch : Stopwatch Memory where
  read m := (0, m)
  marks m := m
  setMarks m _ := m

/-- The place on a disk that a path denotes if no directory is a link. -/
def placeOf (disk : Disk) (p : Path) : DiskPlace :=
  p.parts.foldl (fun place part ↦ if part == ".." then place.dropLast else place ++ [part])
    (if p.isAbsolute then [] else disk.current)

/-- Puts an entry on a disk. -/
def record (disk : Disk) (p : Path) (e : DiskEntry) : Disk :=
  disk.install ⟨"/", placeOf disk p⟩ e

/-- Copies a file or a directory to a disk, the latter with what lies in it down to some depth.
What does not exist or cannot be read is left out. -/
def copyIn (depth : Nat) (disk : Disk) (p : Path) : IO Disk := do
  match ← (IO.FS.readBinFile p.toString).toBaseIO with
  | .ok bytes => return record disk p (.file bytes.toList 0)
  | .error _ =>
    match ← (do (← IO.FS.realPath p.toString).readDir).toBaseIO with
    | .error _ => return disk
    | .ok children =>
      let disk := record disk p .newDirectory
      match depth with
      | 0 => return disk
      | depth + 1 =>
        children.foldlM (fun disk child ↦ copyIn depth disk (p.child child.fileName)) disk

/-- How deep directories of templates are searched. -/
def templatesDepth : Nat := 32

/-- A disk with nothing but the current directory. -/
def currentDisk : IO Disk := do
  return Disk.empty (Path.ofString (← IO.currentDir).toString).parts

/-- What diagrams are built with: the present moment. -/
def buildOptions : IO BuildOptions := do
  let now ← Std.Time.Timestamp.now
  return { now := Text.writeMoment (now.toNanosecondsSinceUnixEpoch.toInt.toNat / 1000) }

/-- The world that a request is run in. -/
def gather (options : BuildOptions) (request : Cli.Request) : IO (World Memory) := do
  let disk ← request.files.foldlM (copyIn 0) (← currentDisk)
  let disk ← (request.templates? disk).toList.foldlM (copyIn templatesDepth) disk
  let targets := request.targets stopwatch options { disk, memory := {} }
  let disk ← (targets.flatMap Cli.withParents).eraseDups.foldlM (copyIn 0) disk
  return { disk, memory := {} }

/-- Writes a file under another name first, so that nobody reads half of it. -/
def writeFile (file : Path) (bytes : List UInt8) : IO Unit := do
  let temporary := file.parent.child (temporaryName file.name 0)
  IO.FS.writeBinFile temporary.toString ⟨bytes.toArray⟩
  IO.FS.rename temporary.toString file.toString

/-- Copies what has changed from one disk to another to the file system. -/
def copyOut (before after : Disk) : IO Unit :=
  after.entries.forM fun (place, e) ↦ do
    if before.lookup place != some e then
      let p : Path := ⟨"/", place⟩
      match e with
      | .directory _ => IO.FS.createDirAll p.toString
      | .file bytes _ => writeFile p bytes

/-- Runs a command line; yields the exit code. -/
def run (args : List String) : IO UInt32 := do
  let options ← buildOptions
  let world ← match Cli.readRequest args with
    | .ok request => gather options request
    | .error _ => pure { disk := ← currentDisk, memory := {} }
  let (outcome, after) := Cli.run stopwatch options args world
  copyOut world.disk after.disk
  outcome.lines.forM fun line ↦ IO.println line
  outcome.report.toList.forM fun report ↦ IO.println (Data.Json.document report)
  outcome.complaints.forM fun line ↦ IO.eprintln line
  return outcome.exitCode.toUInt32

end DiagramForge.Program

/-- Runs the command line that the program is given. -/
def main (args : List String) : IO UInt32 :=
  DiagramForge.Program.run args
