import DiagramForge.Config.Check
import DiagramForge.Strategy.Basic
import DiagramForge.Strategy.Pattern

/-!
# Strategies made of templates

A `TemplateStrategy` is data: the templates that are rendered once, and those that are rendered for
each node or edge. Every path is put below the name of the strategy, so the files of two strategies
never meet.

A template that fails costs its own file and nothing else, unless the configuration asks to stop at
the first failure. A missing template that is required costs all files of the strategy.

## Working through jobs

The files for elements may be rendered side by side. `runInOrder` does one job after another;
`runTogether` does all of them, in whichever order they are completed, and then puts what they
yield into the order of the jobs. With a failure to stop at, both keep the same files.
-/

namespace DiagramForge

open Template

/-! ## Specifications -/

/-- A template that is rendered once. -/
structure FixedTemplate where
  /-- Its name within the strategy. -/
  template : String
  /-- The path of the file within the strategy. -/
  output : String
  /-- Whether the strategy cannot do without it. -/
  required : Bool := false
  /-- The generation setting that switches it on, if there is one. -/
  gate : Option String := none

/-- A template that is rendered for each element of a kind. -/
structure ElementTemplate where
  /-- Its name within the strategy. -/
  template : String
  /-- The pattern of the paths within the strategy. -/
  output : String
  /-- The kind of element. -/
  kind : ElementKind

/-- A strategy made of templates. -/
structure TemplateStrategy where
  /-- Its name. -/
  name : String
  /-- The categories of output it renders. -/
  categories : List String := []
  /-- The templates that are rendered once. -/
  fixed : List FixedTemplate := []
  /-- The templates that are rendered for each element. -/
  perElement : List ElementTemplate := []
  /-- The variables it adds to those of the diagram. -/
  vars : Diagram → Except Failure (List (String × Value)) := fun _ ↦ .ok []

namespace TemplateStrategy

/-- What all its paths begin with. -/
def directory (s : TemplateStrategy) : String :=
  s.name ++ "/"

/-- The full name of one of its templates. -/
def qualified (s : TemplateStrategy) (template : String) : String :=
  s.name ++ "/" ++ template

/-- The full names of all its templates. -/
def templateNames (s : TemplateStrategy) : List String :=
  s.fixed.map (fun t ↦ s.qualified t.template) ++ s.perElement.map fun t ↦ s.qualified t.template

/-- Whether it renders a category of output. -/
def handles (s : TemplateStrategy) (category : String) : Bool :=
  s.categories.contains category

end TemplateStrategy

/-! ## Settings -/

/-- A generation setting as templates see it. -/
def Diagram.setting? (d : Diagram) (name : String) : Option Data :=
  match Entries.get? d.config "generation" with
  | some (.object es) => Entries.get? es name
  | _ => none

/-- Whether a generation setting is on. -/
def Diagram.isOn (d : Diagram) (name : String) : Bool :=
  (d.setting? name).any Data.isTrue

/-- How many files may be rendered side by side. -/
def Diagram.workers (d : Diagram) : Except Crash Int :=
  match d.setting? "parallel_workers" with
  | some (.int n) => .ok n
  | some (.bool _) | none => .ok 1
  | some (.text s) =>
    if s == "" then .ok 1
    else (Text.readInteger s).mapError (Crash.ofRead s)
  | some d =>
    if d.isTrue then
      .error (Crash.badType ("int() argument must be a string, a bytes-like object or a real "
        ++ "number, not '" ++ d.typeName ++ "'"))
    else .ok 1

/-! ## Jobs -/

/-- A file to be rendered. -/
structure Job where
  /-- The place of the file among the files of the strategy. -/
  index : Nat
  /-- The full name of the template. -/
  template : String
  /-- The path within the strategy. -/
  output : String
  /-- The variables besides those of the diagram. -/
  vars : List (String × Value)

namespace TemplateStrategy

variable (s : TemplateStrategy) (library : TemplateLibrary) (disk : Disk) (d : Diagram)

/-- The templates that are required and do not exist. -/
def missing : Except Failure (List String) :=
  ((s.fixed.filter (·.required)).map fun t ↦ s.qualified t.template).filterM fun name ↦
    return !(← library.has disk name)

/-- Whether a template is rendered: its setting is on, and it exists. -/
def isActive (t : FixedTemplate) : Except Failure Bool :=
  if !t.gate.all (fun gate ↦ gate == "" || d.isOn gate) then .ok false
  else if t.required then .ok true
  else library.has disk (s.qualified t.template)

/-- The jobs of the templates that are rendered once. -/
def fixedJobs (vars : List (String × Value)) : Except Failure (List Job) := do
  let active ← s.fixed.zipIdx.filterM fun e ↦ s.isActive library disk d e.1
  return active.map fun (t, index) ↦ ⟨index, s.qualified t.template, t.output, vars⟩

/-- The record of the element that files are rendered for. -/
def elementView (e : Element) : Value :=
  match d.nodeTypes.findRev? fun n ↦ n.element.name == e.name with
  | some n => n.view
  | none => ((d.edgeTypes.findRev? fun t ↦ t.element.name == e.name).map EdgeType.view).getD .none

/-- The templates for elements with the elements they are for, element by element in declaration
order. -/
def elementFiles : List (Element × ElementTemplate) :=
  d.elements.flatMap fun e ↦ (s.perElement.filter fun t ↦ t.kind == e.kind).map fun t ↦ (e, t)

/-- The path of the file that a template for an element is rendered to, if the template exists. -/
def elementOutput (e : Element) (t : ElementTemplate) :
    Except Failure (Option (Element × ElementTemplate × String)) := do
  if ← library.has disk (s.qualified t.template) then
    return some (e, t, ← (fillPattern t.output e.name).mapError .crash)
  else return none

/-- The jobs of the templates that are rendered for elements. -/
def elementJobs (vars : List (String × Value)) : Except Failure (List Job) := do
  let outputs ← (s.elementFiles d).mapM fun (e, t) ↦ s.elementOutput library disk e t
  return (outputs.filterMap id).zipIdx.map fun ((e, t, output), index) ↦
    let view := elementView d e
    { index := s.fixed.length + index, template := s.qualified t.template, output
      vars := (e.kind.label, view) :: ("element", view) :: vars }

/-- Renders a file. -/
def runJob (job : Job) : Rendering OutputFile := do
  let content ← renderTemplate library disk d job.template job.vars
  match OutputPath.ofString (s.directory ++ job.output) with
  | .ok path => return { path, content, template := some job.template }
  | .error c => throw (.crash c)

end TemplateStrategy

/-! ## Working through jobs -/

section Jobs

variable {σ : Type} (run : Job → ExceptT Failure (StateM σ) OutputFile) (failFast : Bool)

/-- Does a job; a failure that is foreseen is what the job yields. -/
def attempt (job : Job) : ExceptT Failure (StateM σ) (Except Diagnostic OutputFile) :=
  ExceptT.mk do
    match ← (run job).run with
    | .ok f => return .ok (.ok f)
    | .error (.diagnostic d) => return .ok (.error (d.withPhase "rendering"))
    | .error (.crash c) => return .error (.crash c)

/-- Adds what a job yields to a result. -/
def StrategyResult.record (r : StrategyResult) : Except Diagnostic OutputFile → StrategyResult
  | .ok f => r.addFile f
  | .error d => { r.addError d with aborted := r.aborted || failFast }

/-- Does jobs one after another, up to the first failure to stop at. -/
def runInOrder (r : StrategyResult) : List Job → ExceptT Failure (StateM σ) StrategyResult
  | [] => return r
  | job :: jobs => do
    match ← attempt run job with
    | .ok f => runInOrder (r.record failFast (.ok f)) jobs
    | .error d =>
      let r := r.record failFast (.error d)
      if failFast then return r else runInOrder r jobs

/-- Adds what jobs have yielded to a result, up to the first failure to stop at. -/
def StrategyResult.collect (r : StrategyResult) :
    List (Except Diagnostic OutputFile) → StrategyResult
  | [] => r
  | .ok f :: outcomes => (r.record failFast (.ok f)).collect outcomes
  | .error d :: outcomes =>
    let r := r.record failFast (.error d)
    if failFast then r else r.collect outcomes

/-- Does all jobs, which are given in the order they are completed, and collects what they yield in
the order of their indices. -/
def runTogether (r : StrategyResult) (completed : List Job) :
    ExceptT Failure (StateM σ) StrategyResult := do
  let outcomes ← completed.mapM fun job ↦ return (job.index, ← attempt run job)
  return r.collect failFast ((outcomes.mergeSort fun a b ↦ a.1 ≤ b.1).map (·.2))

end Jobs

/-! ## Rendering -/

namespace TemplateStrategy

variable (s : TemplateStrategy)

/-- The diagnostic about a required template that does not exist. -/
def missingTemplate (template : String) : Diagnostic :=
  { kind := .templateNotFound
    message :=
      "Required template '" ++ template ++ "' is missing; " ++ s.name ++ " output discarded"
    place := { phase := some "rendering", template := some template } }

/-- Renders a diagram. -/
def render (library : TemplateLibrary) (disk : Disk) (d : Diagram) :
    Rendering StrategyResult := do
  let failFast := d.isOn "fail_fast"
  match ← ExceptT.mk (pure (s.missing library disk)) with
  | [] =>
    let own ← ExceptT.mk (pure (s.vars d))
    let vars := own ++ [("strategy", .text s.name)]
    let run := s.runJob library disk d
    let fixed ← ExceptT.mk (pure (s.fixedJobs library disk d vars))
    let r ← runInOrder run failFast { strategy := s.name } fixed
    if r.aborted then return r
    let jobs ← ExceptT.mk (pure (s.elementJobs library disk d vars))
    let workers ← ExceptT.mk (pure (d.workers.mapError .crash))
    if 1 < workers && 1 < jobs.length then runTogether run failFast r jobs
    else runInOrder run failFast r jobs
  | missing => return {
      strategy := s.name, errors := missing.map s.missingTemplate, aborted := true }

/-- The strategy. -/
def toStrategy : Strategy :=
  ⟨s.name, s.handles, s.render⟩

end TemplateStrategy

end DiagramForge
