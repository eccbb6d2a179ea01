import DiagramForge.Plugin.Builtin
import DiagramForge.Run.Generate
import DiagramForge.Strategy.Builtin

/-!
# Generators from a configuration

The generator that a configuration asks for: the built-in strategies, the project's templates in
front of the built-in ones, and the plugins that it names.
-/

namespace DiagramForge

variable {σ : Type}

/-- Registers the built-in plugins with some names. -/
def PluginRegistry.registerBuiltin (w : Stopwatch σ) (r : PluginRegistry σ) :
    List String → Except Diagnostic (PluginRegistry σ)
  | [] => .ok r
  | name :: names => do
    let p ← builtinPlugin w name
    registerBuiltin w (← r.register p) names

/-- The generator that a configuration asks for. `project` is the directory that the directory of
templates is seen from. -/
def Generator.ofConfig (w : Stopwatch σ) (c : Config) (project : Path) (disk : Disk) :
    Except Failure (Generator σ) := do
  let directories ← Template.searchDirectories disk (c.templatesPath? project) [] true
  let plugins ← (PluginRegistry.registerBuiltin w {} c.plugins).mapError .diagnostic
  return {
    library := .files directories
    strategies := builtinStrategies.map TemplateStrategy.toStrategy
    plugins }

/-- The report of a run that has not started. -/
def RunReport.notStarted (d : Diagnostic) : RunReport where
  success := false
  phase := .failed
  failedPhase := some .notStarted
  errors := [d]

/-- A run with the generator that a configuration asks for. -/
def generate (w : Stopwatch σ) (options : BuildOptions) (source : GrammarSource) (c : Config)
    (output : OutputTarget) (world : World σ) : Except Failure RunReport × World σ :=
  match Generator.ofConfig w c ⟨"", []⟩ world.disk with
  | .error (.diagnostic d) => (.ok (RunReport.notStarted d), world)
  | .error f => (.error f, world)
  | .ok gen => { gen with options }.generate source c output world

end DiagramForge
