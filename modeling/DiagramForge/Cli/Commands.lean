import DiagramForge.Cli.Arguments
import DiagramForge.Cli.Console
import DiagramForge.Config.Load
import DiagramForge.Run.Setup

/-!
# Commands

What the commands do: a function of a disk and a command line to what is put out, an exit code, and
the disk as it is left behind. Results are kept apart from complaints, so that a reader of the
results never meets a message about a failure among them.
-/

namespace DiagramForge.Cli

/-- The outcome of a command that fails for a reason that is foreseen. -/
def Outcome.failed (what reason : String) : Outcome :=
  { exitCode := 1 : Outcome }.saying [.complaint ("[red]" ++ what ++ ":[/red] " ++ reason)]

/-- The messages about warnings. -/
def warningMessages (warnings : List String) : List Message :=
  warnings.map fun w ↦ .result ("[yellow]warning:[/yellow] " ++ w)

/-- The message about a success. -/
def successMessage (what : String) : Message :=
  .result ("[green]✓[/green] " ++ what)

/-! ## Configuration -/

/-- The names of configuration files that are looked for next to a grammar. -/
def configNames : List String :=
  ["glspgen.toml", "glspgen.json"]

/-- The configuration file to load: the one that is given, or else one next to the grammar. -/
def configFile (disk : Disk) (given : Option Path) (grammar : Path) :
    Except Crash (Option Path) :=
  match given with
  | some file => .ok file
  | none => disk.firstHeld? (configNames.map grammar.parent.child)

/-- Loads the configuration. A failure that is foreseen ends the command with an exit code. -/
def loadConfig (disk : Disk) (given : Option Path) (grammar : Path) : Except Outcome Config := do
  let file ← (configFile disk given grammar).mapError (Outcome.broken ∘ .crash)
  (Config.load disk file).mapError fun fault ↦
    match fault.failure with
    | .diagnostic d => .failed "Config error" d.text
    | f => .broken f

/-! ## Generating -/

/-- The configuration with what the command line asks for. -/
def GenerateRequest.adjust (r : GenerateRequest) (c : Config) : Config :=
  let g := c.generation
  { c with
    generation :=
      { g with
        targets := if r.targets.isEmpty then g.targets else r.targets
        templatesDir := (r.templates.map Path.toString).orElse fun _ ↦ g.templatesDir
        failFast := r.failFast || g.failFast
        parallelWorkers := if 1 < r.workers then r.workers else g.parallelWorkers }
    plugins := c.plugins ++ r.plugins.filter fun p ↦ !c.plugins.contains p }

/-- A report as data. -/
def reportData (r : RunReport) : Data :=
  .object
    [("success", .bool r.success), ("phase", .text r.phase.label),
      ("files", .texts (r.files.map (·.path.text))),
      ("written", .texts (r.written.map Path.toString)),
      ("errors", .list (r.errors.map fun d ↦
        .object [("kind", .text d.kind.label), ("message", .text d.text)])),
      ("warnings", .texts r.warnings)]

/-- What a report says. -/
def reportMessages (r : RunReport) (output : Path) (dryRun : Bool) : List Message :=
  let verb := if dryRun then "Would generate" else "Generated"
  let phase := (r.failedPhase.getD r.phase).label
  warningMessages r.warnings
    ++ (r.errors.map fun d ↦ .complaint ("[red]" ++ d.kind.label ++ ":[/red] " ++ d.text))
    ++ [if r.success then
        successMessage (verb ++ " " ++ toString r.files.length ++ " files in " ++ output.toString)
      else
        .complaint ("[red]✗[/red] Generation failed (" ++ phase ++ "): "
          ++ toString r.errors.length ++ " error(s), " ++ toString r.written.length
          ++ " file(s) written")]

/-- The run that a request asks for. -/
def GenerateRequest.run {σ : Type} (r : GenerateRequest) (w : Stopwatch σ)
    (options : BuildOptions) (world : World σ) : Except Outcome RunReport × World σ :=
  match loadConfig world.disk r.config r.grammar with
  | .error outcome => (.error outcome, world)
  | .ok config =>
    let config := r.adjust config
    match Generator.ofConfig w config ⟨"", []⟩ world.disk with
    | .error (.diagnostic d) => (.error (.failed "Plugin error" d.text), world)
    | .error f => (.error (.broken f), world)
    | .ok gen =>
      let output := { directory := some r.output, dryRun := r.dryRun }
      match { gen with options }.generate (.file r.grammar) config output world with
      | (.error f, world) => (.error (.broken f), world)
      | (.ok report, world) => (.ok report, world)

/-- What is put out about a run. -/
def GenerateRequest.outcome (r : GenerateRequest) (report : RunReport) : Outcome :=
  let exitCode := if report.success then 0 else 1
  if r.asJson then { exitCode, report := some (reportData report) }
  else { exitCode : Outcome }.saying (reportMessages report r.output r.dryRun)

/-- Generates an extension. -/
def generate {σ : Type} (w : Stopwatch σ) (options : BuildOptions) (r : GenerateRequest)
    (world : World σ) : Outcome × World σ :=
  match r.run w options world with
  | (.error outcome, world) => (outcome, world)
  | (.ok report, world) => (r.outcome report, world)

/-! ## Checking and listing -/

/-- The outcome of a check whose grammar cannot be loaded. -/
def Outcome.unloaded : Grammar.LoadFault → Outcome
  | .invalid d => .failed "Parse error" d.text
  | .unreadable file .nullCharacter => .broken (.crash (DiskFault.nullCharacter.crash file))
  | .unreadable file fault => .failed "Cannot read grammar" (fault.crash file).message

/-- Checks a grammar. -/
def validate (disk : Disk) (options : BuildOptions) (grammar : Path) (config : Option Path) :
    Outcome :=
  match loadConfig disk config grammar with
  | .error outcome => outcome
  | .ok config =>
    match Grammar.load disk grammar with
    | .error fault => .unloaded fault
    | .ok g =>
      let report := g.validate
      let complaints (errors : List Diagnostic) : List Message :=
        errors.map fun d ↦ .complaint ("[red]error:[/red] " ++ d.text)
      let next : Outcome :=
        if !report.ok then { exitCode := 1 }
        else
          match Diagram.build options g config.settings with
          | .ok _ => { exitCode := 0 : Outcome }.saying [successMessage "Grammar is valid"]
          | .error (.structural fault) =>
            { exitCode := 1 : Outcome }.saying (complaints [fault.diagnostic])
          | .error (.crash c) => .broken (.crash c)
      next.saying (warningMessages report.warnings ++ complaints report.errors)

/-- Lists templates. -/
def listTemplates (disk : Disk) (category : Option String) (directory : Option Path) : Outcome :=
  let names := do
    let directories ← Template.searchDirectories disk directory [] true
    (Template.TemplateLibrary.files directories).names disk category
  match names with
  | .error f => .broken f
  | .ok [] => { exitCode := 0 : Outcome }.saying [.result "[yellow]No templates found[/yellow]"]
  | .ok names => { exitCode := 0 : Outcome }.saying (names.map .result)

/-! ## Command lines -/

/-- The exit code of a command line that cannot be read. -/
def usageExitCode : Nat := 2

/-- Does what a command line asks for. -/
def run {σ : Type} (w : Stopwatch σ) (options : BuildOptions) (args : List String)
    (world : World σ) : Outcome × World σ :=
  match readRequest args with
  | .error fault => ({ exitCode := usageExitCode, complaints := [fault.message] }, world)
  | .ok .information => ({ exitCode := 0, lines := usageLines }, world)
  | .ok (.generate r) => generate w options r world
  | .ok (.validate grammar config) => (validate world.disk options grammar config, world)
  | .ok (.templates category directory) =>
    (listTemplates world.disk category directory, world)

end DiagramForge.Cli
