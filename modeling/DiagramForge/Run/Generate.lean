import DiagramForge.Diagram.Build
import DiagramForge.Grammar.Load
import DiagramForge.Output.Write
import DiagramForge.Run.State

/-!
# Generating

A `Generator` holds what runs have in common: a template library, strategies, plugins, and what
diagrams are built with. `Generator.generate` is one run from a grammar to files.

All errors that strategies report go into the report. A strategy that gives up ends the run, but
only after the strategies behind it have had their turn, unless the configuration asks to stop at
the first failure. Files are written only if all files of the run have different paths.
-/

namespace DiagramForge

open RunStep

/-- What runs have in common. -/
structure Generator (σ : Type) where
  /-- Where templates come from. -/
  library : Template.TemplateLibrary
  /-- The strategies in the order they run. -/
  strategies : List Strategy
  /-- The plugins. -/
  plugins : PluginRegistry σ := {}
  /-- What diagrams are built with. -/
  options : BuildOptions := {}

/-- Where a grammar comes from. -/
inductive GrammarSource where
  /-- It is given. -/
  | given (g : Grammar)
  /-- It is read from a file. -/
  | file (path : Path)

/-- Where the files of a run go. -/
structure OutputTarget where
  /-- The output directory; without one the files are not written. -/
  directory : Option Path := none
  /-- Whether the files are left unwritten. -/
  dryRun : Bool := false

namespace Generator

variable {σ : Type} (gen : Generator σ)

/-! ## Plugins -/

/-- Whether a plugin that fails is reported and does not end the run. The settings can isolate
failures that the registry does not. -/
def isolates (settings : Setting) : Except Crash Bool := do
  let asked ← settings.partAt ["generation", "continue_on_plugin_error"]
  return asked.isTrue || gen.plugins.isolates

/-- The diagnostic about a run that a plugin has ended. -/
def abortedIn (hook : Hook) (phase : Phase) (reason : String) : Diagnostic :=
  { kind := .plugin, message := "Run aborted in " ++ hook.label ++ ": " ++ reason
    place := { phase := some phase.label } }

/-- Calls the plugins. -/
def callHook (hook : Hook) : RunStep σ Unit := do
  let isolate ← orEscape (gen.isolates (← get).status.settings)
  record (.called hook)
  let s ← get
  let result := gen.plugins.dispatch s.status hook isolate (s.contributions, s.world.memory)
  set (s.receive result)
  match result.failure, result.state.1.abortReason with
  | some d, _ => fail [d]
  | none, some reason => fail [abortedIn hook s.phase reason]
  | none, none => return

/-- Lets the plugins adjust the settings, and checks the plugins themselves. -/
def configurePlugins : RunStep σ Unit := do
  let s ← get
  let (r, memory) := (gen.plugins.configure s.status.settings).run s.world.memory
  set { s with world := { s.world with memory } }
  match r with
  | .error d => fail [d]
  | .ok settings =>
    setStatus fun status ↦ { status with settings }
    match gen.plugins.problems with
    | [] => return
    | problems => fail problems

/-! ## Parsing and validating -/

/-- The diagnostic about a grammar file that cannot be read. -/
def unreadable (file : Path) (fault : DiskFault) : Diagnostic :=
  { kind := .parse
    message := "Cannot read grammar: " ++ fault.message (Text.quoted file.toString)
    place := { file := some file } }

/-- Reads the grammar. -/
def parse : GrammarSource → RunStep σ Grammar
  | .given g => return g
  | .file path => do
    match Grammar.load (← get).world.disk path with
    | .ok g => return g
    | .error (.invalid d) => fail [d]
    | .error (.unreadable file .nullCharacter) =>
      throw (.escaped (.crash (DiskFault.nullCharacter.crash file)))
    | .error (.unreadable file fault) => fail [unreadable file fault]

/-- Validates a grammar and builds its diagram. -/
def validate (g : Grammar) : RunStep σ Unit := do
  let report := g.validate
  setStatus fun status ↦ { status with validation := some report }
  warn report.warnings
  if !report.ok then fail report.errors
  match Diagram.build gen.options g (← get).status.settings with
  | .error (.structural fault) => fail [fault.diagnostic]
  | .error (.crash c) => throw (.escaped (.crash c))
  | .ok d => setStatus fun status ↦ { status with diagram := some d }

/-! ## Rendering -/

/-- The result of a strategy that breaks. -/
def brokenResult (strategy : String) (f : Failure) : StrategyResult :=
  let d := match f with
    | .diagnostic d => d.withPhase "rendering"
    | .crash c =>
      { kind := .templateRender, message := "Strategy '" ++ strategy ++ "' failed: " ++ c.text
        place := { phase := some "rendering" } }
  { strategy, errors := [d], aborted := true }

/-- Renders a diagram with a strategy. -/
def runStrategy (strategy : Strategy) (d : Diagram) : RunStep σ StrategyResult := do
  record (.rendered strategy.name)
  let s ← get
  let d := { d with extras := s.contributions.extras }
  let (r, store) := (strategy.render gen.library s.world.disk d).run s.world.store
  set { s with world := { s.world with store } }
  match r with
  | .ok result => return result
  | .error f => return brokenResult strategy.name f

/-- Adds the result of a strategy to the run. -/
def addResult (result : StrategyResult) : RunStep σ Unit := do
  modify fun s ↦
    { s with
      results := s.results ++ [result]
      errors := if result.aborted then s.errors else s.errors ++ result.errors }
  setStatus fun status ↦ { status with files := status.files ++ result.files }
  warn result.warnings

/-- Whether targets, which are any data that has items, include a category that a strategy renders.
Without targets all are included. -/
def isTargeted (targets : Data) (strategy : Strategy) : Except Crash Bool :=
  if !targets.isTrue then .ok true
  else
    match targets with
    | .list ds => .ok (ds.any fun d ↦
        match d with
        | .text category => strategy.handles category
        | _ => false)
    | .text s => .ok (s.toList.any fun c ↦ strategy.handles (String.singleton c))
    | .object es => .ok (es.any fun e ↦ strategy.handles e.1)
    | d => .error (Crash.notIterable d.typeName)

/-- Renders a diagram with strategies one after another; yields the errors of those that have given
up. -/
def runStrategies (failFast : Bool) (d : Diagram) :
    List Strategy → RunStep σ (List Diagnostic)
  | [] => return []
  | strategy :: more => do
    let result ← runStrategy gen strategy d
    addResult result
    let lost := if result.aborted then result.errors else []
    if failFast && !result.success then return lost
    return lost ++ (← runStrategies failFast d more)

/-- Renders the diagram of the run with all strategies that are wanted. -/
def render : RunStep σ Unit := do
  let s ← get
  match s.status.diagram with
  | none => return
  | some d =>
    let generation ← orEscape (s.status.settings.part "generation")
    let targets ← orEscape (generation.part "targets")
    let failFast ← orEscape (generation.part "fail_fast")
    let wanted ← orEscape (gen.strategies.filterM (isTargeted targets.toData))
    let lost ← gen.runStrategies failFast.isTrue d wanted
    let s ← get
    if !lost.isEmpty || (!s.errors.isEmpty && failFast.isTrue) then fail lost

/-! ## Output -/

/-- What a file comes from, as messages say it. -/
def originOf (f : OutputFile) : String :=
  match f.template with
  | none => "a plugin"
  | some template => if template == "" then "a plugin" else template

/-- The diagnostic about two files with one path. -/
def conflict (first second : OutputFile) : Diagnostic :=
  { kind := .outputConflict
    message := "'" ++ second.path.text ++ "' is generated by both " ++ originOf first ++ " and "
      ++ originOf second
    place := { phase := some "rendering", path := some second.path.text } }

/-- The conflicts among files, `seen` being those before them with different paths. -/
def conflictsAfter (seen : List OutputFile) : List OutputFile → List Diagnostic
  | [] => []
  | f :: fs =>
    match seen.find? fun g ↦ g.path.text == f.path.text with
    | some g => conflict g f :: conflictsAfter seen fs
    | none => conflictsAfter (seen ++ [f]) fs

/-- The conflicts among files. -/
def conflicts (fs : List OutputFile) : List Diagnostic :=
  conflictsAfter [] fs

/-- Settles the files of the run. -/
def collect : RunStep σ (List OutputFile) := do
  setStatus fun status ↦ { status with filesCollected := true }
  let s ← get
  let files := allFiles s.status s.contributions
  match conflicts files with
  | [] =>
    set { s with settled := some files }
    return files
  | found => fail found

/-- Writes files. -/
def write (root : Path) : List OutputFile → RunStep σ Unit
  | [] => return
  | f :: fs => do
    record (.wrote f.path)
    let s ← get
    let (disk, r) := f.write s.world.disk root
    set { s with world := { s.world with disk } }
    match r with
    | .ok path =>
      setStatus fun status ↦ { status with written := status.written ++ [path] }
      write root fs
    | .error (.diagnostic d) => fail [d]
    | .error f => throw (.escaped f)

/-! ## Runs -/

/-- All phases of a run. -/
def execute (source : GrammarSource) (output : OutputTarget) : RunStep σ Unit := do
  gen.configurePlugins
  enter .parsing
  if let .file path := source then
    setStatus fun status ↦ { status with grammarPath := some path }
  gen.callHook .beforeGenerate
  let g ← parse source
  setStatus fun status ↦ { status with grammar := some g }
  gen.callHook .afterParse
  enter .validating
  gen.validate g
  gen.callHook .afterValidation
  enter .rendering
  gen.callHook .beforeTemplateRender
  gen.render
  gen.callHook .afterTemplateRender
  let files ← collect
  enter .writing
  match output.directory, output.dryRun with
  | some root, false => write root files
  | _, _ => pure ()
  gen.callHook .afterGenerate
  enter .done

/-- A run from its first state to its last; also, what has escaped from it. -/
def run (source : GrammarSource) (config : Config) (output : OutputTarget) (world : World σ) :
    Option Failure × RunState σ :=
  match (gen.execute source output).run { status := { settings := config.settings }, world } with
  | (.error (.escaped f), s) => (some f, s)
  | (_, s) => (none, s)

/-- A run; yields its report and what it leaves behind. -/
def generate (source : GrammarSource) (config : Config) (output : OutputTarget)
    (world : World σ) : Except Failure RunReport × World σ :=
  match gen.run source config output world with
  | (some f, s) => (.error f, s.world)
  | (none, s) => (.ok s.report, s.world)

end Generator

end DiagramForge
