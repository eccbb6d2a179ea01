import DiagramForge.Plugin.Basic
import DiagramForge.Text.Encoding

/-!
# Metrics

A plugin that measures how long the phases of a run take, and what the run produces. It records
both in the report.

A `Stopwatch` says where in the plugins' memory the clock is, and where the marks of one particular
instance of the plugin are kept.
-/

namespace DiagramForge

/-- The times a stopwatch keeps. -/
structure Marks where
  /-- When it was started. -/
  start : Int := 0
  /-- When it was last read, if it was. -/
  last : Option Int := none

/-- A stopwatch in the memory of plugins. -/
structure Stopwatch (σ : Type) where
  /-- Reads the clock. -/
  read : σ → Int × σ
  /-- The marks. -/
  marks : σ → Marks
  /-- Replaces the marks. -/
  setMarks : Marks → σ → σ

namespace Metrics

open HookAction

variable {σ : Type}

/-- The key of the metrics in the report. -/
def key : String := "metrics"

/-- The key of the durations in the metrics. -/
def phasesKey : String := "phases"

/-- Metrics without any durations. -/
def blank : Data :=
  .object [(phasesKey, .object [])]

/-- The crash for a part of something that has no parts of that kind. -/
def notIndexed : Data → Crash
  | .object _ => Crash.missingKey phasesKey
  | .list _ => Crash.badType "list indices must be integers or slices, not str"
  | .text _ => Crash.badType "string indices must be integers, not 'str'"
  | d => Crash.badType ("'" ++ d.typeName ++ "' object is not subscriptable")

/-- The entries of metrics, and the durations in them. -/
def parts (metrics : Data) :
    Except Crash (List (String × Data) × List (String × Data)) :=
  match metrics with
  | .object es =>
    match Entries.get? es phasesKey with
    | some (.object phases) => .ok (es, phases)
    | some d => .error (Crash.noAttribute d.typeName "get")
    | none => .error (notIndexed metrics)
  | metrics => .error (notIndexed metrics)

/-- The duration that metrics hold for a phase; a truth value counts as zero or one. `type` is the
type of the number that is to be added. -/
def durationOf (type : String) : Option Data → Except Crash Int
  | none => .ok 0
  | some (.int n) => .ok n
  | some (.bool b) => .ok (if b then 1 else 0)
  | some d => .error (Crash.notAdded d.typeName type)

/-- The metrics in the report. -/
def recorded : HookAction σ (List (String × Data) × List (String × Data)) := do
  let c ← contributions
  match parts ((Entries.get? c.metadata key).getD blank) with
  | .ok found => return found
  | .error c => crash c

/-- Starts the stopwatch. -/
def begin (w : Stopwatch σ) : Handler σ := fun _ ↦ do
  let now ← onMemory w.read
  onMemory fun memory ↦ ((), w.setMarks ⟨now, some now⟩ memory)
  setMetadata key blank

/-- Adds the time since the last reading to the duration of the phase. -/
def mark (w : Stopwatch σ) : Handler σ := fun s ↦ do
  let now ← onMemory w.read
  if !Entries.has (← contributions).metadata key then setMetadata key blank
  let (es, phases) ← recorded
  let marks ← onMemory fun memory ↦ (w.marks memory, memory)
  let type := if marks.last.isSome then "int" else "float"
  match durationOf type (Entries.get? phases s.phase) with
  | .error c => crash c
  | .ok duration =>
    let phases := Entries.set phases s.phase (.int (duration + (now - marks.last.getD 0)))
    setMetadata key (.object (Entries.set es phasesKey (.object phases)))
    onMemory fun memory ↦ ((), w.setMarks { marks with last := some now } memory)

/-- Sets an entry of the metrics. -/
def note (name : String) (n : Int) : HookAction σ Unit := do
  let (es, _) ← recorded
  setMetadata key (.object (Entries.set es name (.int n)))

/-- The number of bytes that a file takes in its encoding. -/
def sizeOf (f : OutputFile) : Except Crash Nat :=
  match Text.encodeAs .measure f.encoding f.content with
  | .ok bytes => .ok bytes.length
  | .error fault => .error ⟨fault.label, fault.message⟩

/-- Records what the run has produced. -/
def finish (w : Stopwatch σ) : Handler σ := fun s ↦ do
  mark w s
  let files := allFiles s (← contributions)
  note "file_count" files.length
  match files.mapM sizeOf with
  | .error c => crash c
  | .ok sizes => note "total_size" (sizes.foldl (· + ·) 0 : Nat)
  let now ← onMemory w.read
  let marks ← onMemory fun memory ↦ (w.marks memory, memory)
  note "total_duration" (now - marks.start)

/-- The plugin. -/
def plugin (w : Stopwatch σ) : Plugin σ where
  name := "metrics"
  version := "1.0.0"
  hooks :=
    [(Hook.beforeGenerate.label, begin w), (Hook.afterParse.label, mark w),
      (Hook.afterValidation.label, mark w), (Hook.beforeTemplateRender.label, mark w),
      (Hook.afterTemplateRender.label, mark w), (Hook.afterGenerate.label, finish w)]

end Metrics

end DiagramForge
