import DiagramForge.Output.File
import DiagramForge.Template.Engine

/-!
# Strategies

A strategy renders the files of one part of the output. What it does is a function of a template
library, a disk that it only reads, and a diagram; it works with the store of compiled templates
and can fail.
-/

namespace DiagramForge

open Template

/-- What a strategy has rendered. -/
structure StrategyResult where
  /-- The name of the strategy. -/
  strategy : String := ""
  /-- The files, in the order they are put out. -/
  files : List OutputFile := []
  /-- What went wrong. -/
  errors : List Diagnostic := []
  /-- What the user should know. -/
  warnings : List String := []
  /-- Values for plugins. -/
  artifacts : List (String × Data) := []
  /-- Whether the strategy gave up. -/
  aborted : Bool := false

namespace StrategyResult

/-- Whether nothing went wrong. -/
def success (r : StrategyResult) : Bool :=
  r.errors.isEmpty

/-- Adds a file. -/
def addFile (r : StrategyResult) (f : OutputFile) : StrategyResult :=
  { r with files := r.files ++ [f] }

/-- Adds an error. -/
def addError (r : StrategyResult) (d : Diagnostic) : StrategyResult :=
  { r with errors := r.errors ++ [d] }

/-- Adds a warning. -/
def addWarning (r : StrategyResult) (warning : String) : StrategyResult :=
  { r with warnings := r.warnings ++ [warning] }

/-- The first result with what the second one adds. -/
def merge (r s : StrategyResult) : StrategyResult :=
  { r with
    files := r.files ++ s.files
    errors := r.errors ++ s.errors
    warnings := r.warnings ++ s.warnings
    artifacts := Entries.merge r.artifacts s.artifacts
    aborted := r.aborted || s.aborted }

end StrategyResult

/-- A strategy. -/
structure Strategy where
  /-- Its name. -/
  name : String
  /-- Whether it renders a category of output. -/
  handles : String → Bool
  /-- Renders a diagram. -/
  render : TemplateLibrary → Disk → Diagram → Rendering StrategyResult

end DiagramForge
