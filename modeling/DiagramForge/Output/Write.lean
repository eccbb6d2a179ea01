import DiagramForge.Disk
import DiagramForge.Output.File
import DiagramForge.Text.Encoding

/-!
# Writing output files

A file is written under a temporary name next to its target and then moved into place, so nobody
ever reads half of it. Whatever fails, the temporary file is gone afterwards and the target is as
it was; directories that were made for it stay.

All writing takes a disk and yields the disk it leaves behind, along with its outcome.
-/

namespace DiagramForge

/-- When the latest change on the disk happened. -/
def Disk.latest (d : Disk) : Int :=
  d.entries.foldl (fun latest e ↦
    match e.2 with
    | .file _ modified => max latest modified
    | .directory _ => latest) 0

/-- The number of digits in the name of a temporary file; longer numbers take more. -/
def temporaryDigits : Nat := 8

/-- The name of a temporary file next to a file. -/
def temporaryName (name : String) (n : Nat) : String :=
  let digits := Nat.toDigits 10 n
  let zeros := List.replicate (temporaryDigits - digits.length) '0'
  "." ++ name ++ "." ++ String.ofList (zeros ++ digits) ++ ".tmp"

/-- The place of a temporary file in a directory, which nothing is at. -/
def Disk.temporaryPlace (d : Disk) (dir : DiskPlace) (name : String) : DiskPlace :=
  let candidates := (List.range (d.entries.length + 1)).map fun n ↦ dir ++ [temporaryName name n]
  (candidates.find? fun place ↦ (d.lookup place).isNone).getD dir

namespace OutputFile

/-- The diagnostic about a file that cannot be written. -/
def notWritten (f : OutputFile) (reason : String) : Diagnostic :=
  { kind := .outputWrite
    message := "Cannot write " ++ f.path.text ++ ": " ++ reason
    place := { phase := some "writing", path := some f.path.text } }

/-- The failure for a fault of the disk; `paths` are the paths concerned, as they are shown. -/
def diskFailure (f : OutputFile) (fault : DiskFault) (paths : String) : Failure :=
  match fault with
  | .nullCharacter => .crash (Crash.badValue fault.wording)
  | fault => .diagnostic (f.notWritten (fault.message paths))

/-- Moves a temporary file, whose content is complete, to the target. -/
def settle (f : OutputFile) (d : Disk) (temporary : DiskPlace) (target : Path) :
    Disk × Except Failure Path :=
  match d.moveFile temporary target with
  | .ok d => (d, .ok target)
  | .error fault =>
    (d.erase temporary,
      .error (f.diskFailure fault ("'TMP' -> " ++ Text.quoted target.toString)))

/-- Writes a file whose directory exists. The temporary file is there, and still empty, before the
content is encoded; it is removed whatever fails from then on. -/
def writeInto (f : OutputFile) (d : Disk) (target : Path) : Disk × Except Failure Path :=
  match d.locate (target.parent.child (temporaryName target.name 0)) with
  | .error fault => (d, .error (f.diskFailure fault (Text.quoted target.toString)))
  | .ok place =>
    let temporary := d.temporaryPlace place.dropLast target.name
    let time := d.latest + 1
    let opened := d.put temporary (.file [] time)
    match Text.encodeAs .file f.encoding f.content with
    | .error .nullCharacter =>
      (opened.erase temporary,
        .error (.crash (Crash.badValue Text.EncodeFault.nullCharacter.message)))
    | .error fault => (opened.erase temporary, .error (.diagnostic (f.notWritten fault.message)))
    | .ok bytes => f.settle (opened.put temporary (.file bytes time)) temporary target

/-- Writes a file below an output directory. -/
def write (f : OutputFile) (d : Disk) (root : Path) : Disk × Except Failure Path :=
  let target := f.path.target root
  match d.makeDirectories target.parent with
  | (d, some (fault, path)) =>
    (d, .error (f.diskFailure fault (Text.quoted path.toString)))
  | (d, none) => f.writeInto d target

/-- Writes files up to the first that cannot be written. -/
def writeAll (d : Disk) (root : Path) : List OutputFile → Disk × Except Failure (List Path)
  | [] => (d, .ok [])
  | f :: fs =>
    match f.write d root with
    | (d, .error failure) => (d, .error failure)
    | (d, .ok path) =>
      match writeAll d root fs with
      | (d, .error failure) => (d, .error failure)
      | (d, .ok paths) => (d, .ok (path :: paths))

end OutputFile

end DiagramForge
