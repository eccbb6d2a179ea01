import DiagramForge.Cli.Commands

/-!
# What commands need

Which part of a file system a command looks at, so that the disk it runs on need not hold more than
that. The files are known from the command line, the directory of templates from the configuration
among these files, and the places that are written to from a run that leaves its files unwritten.
-/

namespace DiagramForge.Cli

/-- The configuration files that a command considers. -/
def configFiles (given : Option Path) (grammar : Path) : List Path :=
  match given with
  | some file => [file]
  | none => configNames.map grammar.parent.child

/-- The files that a command reads, its templates left out. -/
def Request.files : Request → List Path
  | .generate r => r.grammar :: configFiles r.config r.grammar
  | .validate grammar config => grammar :: configFiles config grammar
  | .templates _ _ => []
  | .information => []

/-- The directory of templates that a command looks at, given a disk with its files. -/
def Request.templates? (disk : Disk) : Request → Option Path
  | .generate r =>
    match loadConfig disk r.config r.grammar with
    | .ok config => (r.adjust config).templatesPath? ⟨"", []⟩
    | .error _ => none
  | .templates _ directory => directory
  | _ => none

/-- The paths that a command writes to, given a world with its files and its templates. -/
def Request.targets {σ : Type} (w : Stopwatch σ) (options : BuildOptions) (world : World σ) :
    Request → List Path
  | .generate r =>
    if r.dryRun then []
    else
      match { r with dryRun := true }.run w options world with
      | (.ok report, _) => report.files.map (·.path.target r.output)
      | (.error _, _) => []
  | _ => []

/-- A path and the paths of the directories it lies in, from the outermost on. -/
def withParents (p : Path) : List Path :=
  (DiskPlace.ancestry p.parts).map fun parts ↦ ⟨p.root, parts⟩

end DiagramForge.Cli
