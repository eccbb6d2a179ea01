import DiagramForge.Diagram.Basic
import DiagramForge.Grammar.Validation
import DiagramForge.Output.File

/-!
# Plugins

A plugin has handlers for some of the hooks of a run. A handler reads the `RunStatus`, which it
cannot change, and works on the `Contributions`, which all plugins and the run share: values for
the report and for templates, warnings, further files, and a reason to end the run. It can fail,
and what it did before it failed stays.

Plugins may keep things to themselves between hooks. Their memory is a type `σ` that the rest of
the library never looks into.
-/

namespace DiagramForge

/-! ## Hooks -/

/-- The points of a run where plugins are called. -/
inductive Hook where
  /-- Before the grammar is parsed. -/
  | beforeGenerate
  /-- When there is a grammar. -/
  | afterParse
  /-- When there is a diagram. -/
  | afterValidation
  /-- Before the strategies render. -/
  | beforeTemplateRender
  /-- After the strategies have rendered. -/
  | afterTemplateRender
  /-- When the files have been written. -/
  | afterGenerate
deriving DecidableEq, Inhabited

namespace Hook

/-- The name of a hook. -/
def label : Hook → String
  | beforeGenerate => "beforeGenerate"
  | afterParse => "afterParse"
  | afterValidation => "afterValidation"
  | beforeTemplateRender => "beforeTemplateRender"
  | afterTemplateRender => "afterTemplateRender"
  | afterGenerate => "afterGenerate"

/-- All hooks in the order a run reaches them. -/
def all : List Hook :=
  [beforeGenerate, afterParse, afterValidation, beforeTemplateRender, afterTemplateRender,
    afterGenerate]

/-- The hook with a name. -/
def ofLabel? (s : String) : Option Hook :=
  all.find? fun h ↦ h.label == s

end Hook

/-! ## What plugins see and what they change -/

/-- What a run tells its plugins. -/
structure RunStatus where
  /-- The settings in effect. -/
  settings : Setting := ({} : Config).settings
  /-- The grammar, once there is one. -/
  grammar : Option Grammar := none
  /-- The grammar file, if the grammar is read from one. -/
  grammarPath : Option Path := none
  /-- The diagram, once there is one. -/
  diagram : Option Diagram := none
  /-- What validation has found, once it is done. -/
  validation : Option Grammar.ValidationReport := none
  /-- The name of the phase. -/
  phase : String := "not_started"
  /-- The files that the strategies have rendered. -/
  files : List OutputFile := []
  /-- The paths that have been written to. -/
  written : List Path := []
  /-- Whether the files of the run are settled. -/
  filesCollected : Bool := false

/-- What plugins contribute to a run. -/
structure Contributions where
  /-- Values for the report. -/
  metadata : List (String × Data) := []
  /-- Values for templates. -/
  extras : List (String × Data) := []
  /-- The warnings so far, those of the run included. -/
  warnings : List String := []
  /-- Files besides those of the strategies. -/
  files : List OutputFile := []
  /-- Why the run is to end, if it is. -/
  abortReason : Option String := none

/-- Whether the run is to end. -/
def Contributions.aborted (c : Contributions) : Bool :=
  c.abortReason.isSome

/-- The files of the strategies and of the plugins. -/
def allFiles (s : RunStatus) (c : Contributions) : List OutputFile :=
  s.files ++ c.files

/-! ## Handlers -/

/-- What a handler does. -/
abbrev HookAction (σ : Type) := ExceptT Failure (StateM (Contributions × σ))

/-- A handler of a hook. -/
abbrev Handler (σ : Type) := RunStatus → HookAction σ Unit

namespace HookAction

variable {σ : Type}

/-- The contributions so far. -/
def contributions : HookAction σ Contributions := do
  return (← get).1

/-- Changes the contributions. -/
def contribute (f : Contributions → Contributions) : HookAction σ Unit :=
  modify fun (c, memory) ↦ (f c, memory)

/-- Works on the memory of the plugins. -/
def onMemory {α : Type} (f : σ → α × σ) : HookAction σ α :=
  modifyGet fun (c, memory) ↦ let (a, memory) := f memory; (a, c, memory)

/-- Breaks. -/
def crash {α : Type} (c : Crash) : HookAction σ α :=
  throw (.crash c)

/-- Sets a value for the report. -/
def setMetadata (key : String) (d : Data) : HookAction σ Unit :=
  contribute fun c ↦ { c with metadata := Entries.set c.metadata key d }

/-- Sets a value for templates, which needs a diagram. -/
def setExtra (s : RunStatus) (key : String) (d : Data) : HookAction σ Unit :=
  if s.diagram.isSome then contribute fun c ↦ { c with extras := Entries.set c.extras key d }
  else crash (Crash.noAttribute "NoneType" "extras")

/-- Adds a file, unless the files of the run are settled. -/
def addFile (s : RunStatus) (path content : String) : HookAction σ Unit :=
  if s.filesCollected then
    crash ⟨"RuntimeError", "Cannot add '" ++ path ++ "' after output files were collected"⟩
  else
    match OutputPath.ofString path with
    | .ok path => contribute fun c ↦ { c with files := c.files ++ [{ path, content }] }
    | .error c => crash c

end HookAction

/-! ## Plugins -/

/-- A plugin. -/
structure Plugin (σ : Type) where
  /-- Its name. -/
  name : String := "unnamed-plugin"
  /-- Its version. -/
  version : String := "0.0.0"
  /-- Its rank among plugins. -/
  priority : Int := 0
  /-- Its handlers by the names of their hooks. -/
  hooks : List (String × Handler σ) := []
  /-- Adjusts the settings; yields a replacement, if there is to be one. -/
  configure : Setting → ExceptT Failure (StateM σ) (Option Setting) := fun _ ↦ return none
  /-- What is wrong with the plugin itself. -/
  problems : Except Failure (List String) := .ok []

namespace Plugin

variable {σ : Type}

/-- The name and version of a plugin. -/
def label (p : Plugin σ) : String :=
  p.name ++ "@" ++ p.version

/-! ## Several plugins as one -/

/-- Runs handlers one after another, until the run is to end. -/
def chain : List (Handler σ) → Handler σ
  | [], _ => return
  | h :: hs, s => do
    if (← HookAction.contributions).aborted then return
    h s
    chain hs s

/-- The handlers of plugins by the names of their hooks, in the order the hooks first occur. -/
def gather (ps : List (Plugin σ)) : List (String × List (Handler σ)) :=
  (ps.flatMap (·.hooks)).foldl (fun chains (hook, h) ↦
    Entries.set chains hook (((Entries.get? chains hook).getD []) ++ [h])) []

/-- Lets plugins adjust the settings one after another. -/
def configureAll : List (Plugin σ) → Setting → ExceptT Failure (StateM σ) Setting
  | [], s => return s
  | p :: ps, s => do configureAll ps ((← p.configure s).getD s)

/-- The problems of plugins, each with the name of the plugin. -/
def problemsOf (ps : List (Plugin σ)) : Except Failure (List String) := do
  return (← ps.mapM fun p ↦ do
    return (← p.problems).map fun problem ↦ p.name ++ ": " ++ problem).flatten

/-- The greatest priority of plugins; zero if there are none. -/
def greatestPriority : List (Plugin σ) → Int
  | [] => 0
  | p :: ps => ps.foldl (fun n q ↦ max n q.priority) p.priority

/-- Several plugins as one. Handlers of one hook run as a chain. -/
def composite (name : String) (ps : List (Plugin σ)) (version : String := "1.0.0") : Plugin σ where
  name := name
  version := version
  priority := greatestPriority ps
  hooks := (gather ps).map fun (hook, hs) ↦ (hook, chain hs)
  configure s := do return some (← configureAll ps s)
  problems := problemsOf ps

end Plugin

end DiagramForge
