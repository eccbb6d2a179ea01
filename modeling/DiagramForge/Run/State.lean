import DiagramForge.Disk
import DiagramForge.Plugin.Registry
import DiagramForge.Strategy.Basic

/-!
# The state of a run

A run passes through phases, calls the plugins at its hooks, and collects what it produces. It ends
in the phase `done` or, whatever goes wrong, in the phase `failed`. The `RunReport` is a function
of the state, so it can be read off at any point.

The journal lists, in order, the phases a run has entered, the hooks it has called with the handlers
that have run, the strategies it has rendered and the files it has written.
-/

namespace DiagramForge

/-! ## Phases -/

/-- The phases of a run. -/
inductive Phase where
  /-- The plugins are configured. -/
  | notStarted
  /-- The grammar is read. -/
  | parsing
  /-- The grammar is validated and its diagram is built. -/
  | validating
  /-- The strategies render. -/
  | rendering
  /-- The files are written. -/
  | writing
  /-- The run has reached its end. -/
  | done
  /-- The run has ended before. -/
  | failed
deriving DecidableEq, Inhabited

/-- The name of a phase. -/
def Phase.label : Phase → String
  | notStarted => "not_started"
  | parsing => "parsing"
  | validating => "validating"
  | rendering => "rendering"
  | writing => "writing"
  | done => "done"
  | failed => "failed"

/-! ## Reports -/

/-- The outcome of a run. -/
structure RunReport where
  /-- Whether the run has reached its end without errors. -/
  success : Bool
  /-- The last phase. -/
  phase : Phase
  /-- The phase in which the run has failed, if it has. -/
  failedPhase : Option Phase := none
  /-- The files in output order; not all of them if the run has failed. -/
  files : List OutputFile := []
  /-- The paths that have been written to. -/
  written : List Path := []
  /-- All errors. -/
  errors : List Diagnostic := []
  /-- All warnings. -/
  warnings : List String := []
  /-- Values recorded by the run and by plugins. -/
  metadata : List (String × Data) := []
  /-- What each strategy has rendered. -/
  results : List StrategyResult := []

/-- The first file of a report with a path. -/
def RunReport.file? (r : RunReport) (path : String) : Option OutputFile :=
  r.files.find? fun f ↦ f.path.text == path

/-! ## States -/

/-- What a run works on: a disk, the compiled templates, and the memory of the plugins. -/
structure World (σ : Type) where
  /-- The disk. -/
  disk : Disk
  /-- The compiled templates. -/
  store : Template.TemplateStore := {}
  /-- What the plugins keep to themselves. -/
  memory : σ

/-- A step of a run. -/
inductive RunEvent where
  /-- A phase is entered. -/
  | entered (phase : Phase)
  /-- The plugins are called. -/
  | called (hook : Hook)
  /-- A handler has run. -/
  | handled (run : HandlerRun)
  /-- A strategy renders. -/
  | rendered (strategy : String)
  /-- A file is written. -/
  | wrote (path : OutputPath)
deriving DecidableEq

/-- The state of a run. -/
structure RunState (σ : Type) where
  /-- What plugins are told. -/
  status : RunStatus
  /-- What plugins contribute. -/
  contributions : Contributions := {}
  /-- What the run works on. -/
  world : World σ
  /-- The phase. -/
  phase : Phase := .notStarted
  /-- The phase in which the run has failed, if it has. -/
  failedPhase : Option Phase := none
  /-- The errors so far. -/
  errors : List Diagnostic := []
  /-- What the strategies have rendered so far. -/
  results : List StrategyResult := []
  /-- The files of the run, once they are settled. -/
  settled : Option (List OutputFile) := none
  /-- The steps so far. -/
  journal : List RunEvent := []

namespace RunState

variable {σ : Type}

/-- The state after the handlers of a hook have run. -/
def receive (s : RunState σ) (result : HookResult σ) : RunState σ :=
  { s with
    contributions := result.state.1
    world := { s.world with memory := result.state.2 }
    journal := s.journal ++ result.runs.map .handled }

/-- The values that a report records: those of the plugins, those of the diagram unless a plugin
has set them, and the names of the strategies. -/
def metadata (s : RunState σ) : List (String × Data) :=
  let recorded := s.contributions.metadata
  let recorded := match s.status.diagram with
    | none => recorded
    | some d =>
      if Entries.has recorded "context" then recorded
      else Entries.set recorded "context" (.object d.metadata)
  Entries.set recorded "strategies" (.texts (s.results.map (·.strategy)))

/-- The report of a run. -/
def report (s : RunState σ) : RunReport where
  success := s.phase == .done && s.errors.isEmpty
  phase := s.phase
  failedPhase := s.failedPhase
  files := s.settled.getD (allFiles s.status s.contributions)
  written := s.status.written
  errors := s.errors
  warnings := s.contributions.warnings
  metadata := s.metadata
  results := s.results

end RunState

/-! ## Running -/

/-- Why a run does not go on. -/
inductive RunStop where
  /-- The run has failed; its state tells why. -/
  | failed
  /-- Something outside the rules of a run has broken. -/
  | escaped (f : Failure)

/-- A part of a run. -/
abbrev RunStep (σ : Type) := ExceptT RunStop (StateM (RunState σ))

namespace RunStep

variable {σ : Type}

/-- Adds a step to the journal. -/
def record (e : RunEvent) : RunStep σ Unit :=
  modify fun s ↦ { s with journal := s.journal ++ [e] }

/-- Enters a phase. -/
def enter (p : Phase) : RunStep σ Unit := do
  modify fun s ↦ { s with phase := p, status := { s.status with phase := p.label } }
  record (.entered p)

/-- Ends the run with errors, which arose in its phase. -/
def fail {α : Type} (errors : List Diagnostic) : RunStep σ α := do
  modify fun s ↦
    { s with
      errors := s.errors ++ errors.map (·.withPhase s.phase.label)
      failedPhase := some s.phase }
  enter .failed
  throw .failed

/-- Changes what plugins are told. -/
def setStatus (f : RunStatus → RunStatus) : RunStep σ Unit :=
  modify fun s ↦ { s with status := f s.status }

/-- Adds warnings. -/
def warn (warnings : List String) : RunStep σ Unit :=
  modify fun s ↦
    { s with
      contributions :=
        { s.contributions with warnings := s.contributions.warnings ++ warnings } }

/-- Breaks the run off if something outside its rules has broken. -/
def orEscape {α : Type} : Except Crash α → RunStep σ α
  | .ok a => return a
  | .error c => throw (.escaped (.crash c))

end RunStep

end DiagramForge
