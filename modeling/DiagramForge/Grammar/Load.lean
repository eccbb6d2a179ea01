import DiagramForge.Disk
import DiagramForge.Grammar.Parse

/-!
# Loading a grammar file
-/

namespace DiagramForge.Grammar

/-- Why a grammar file cannot be loaded. -/
inductive LoadFault where
  /-- The file cannot be read. -/
  | unreadable (file : Path) (fault : DiskFault)
  /-- The file holds no grammar. -/
  | invalid (d : Diagnostic)

/-- The failure that a fault is reported as. -/
def LoadFault.failure : LoadFault → Failure
  | unreadable file fault => .crash (fault.crash file)
  | invalid d => .diagnostic d

/-- Loads the grammar in a file. -/
def load (disk : Disk) (file : Path) : Except LoadFault Grammar :=
  match disk.read file with
  | .error fault => .error (.unreadable file fault)
  | .ok bytes => (parseBytes file bytes).mapError .invalid

/-- Whether a path denotes a file that holds a grammar. -/
def isGrammarFile (disk : Disk) (file : Path) : Except Crash Bool :=
  return (← disk.isFile file) && (load disk file).isOk

end DiagramForge.Grammar
