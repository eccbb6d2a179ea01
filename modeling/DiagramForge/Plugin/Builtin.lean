import DiagramForge.Plugin.Metrics
import DiagramForge.Plugin.TypeSafety

/-!
# The built-in plugins

The plugins that a configuration can name.
-/

namespace DiagramForge

variable {σ : Type}

/-- The built-in plugins by name, in ascending order. -/
def builtinPlugins (w : Stopwatch σ) : List (Plugin σ) :=
  [Metrics.plugin w, TypeSafety.plugin {}]

/-- The built-in plugin with a name. -/
def builtinPlugin (w : Stopwatch σ) (name : String) : Except Diagnostic (Plugin σ) :=
  match (builtinPlugins w).find? fun p ↦ p.name == name with
  | some p => .ok p
  | none =>
    .error
      { kind := .plugin
        message := "Unknown plugin '" ++ name ++ "' (available: "
          ++ Text.joinStrings ", " ((builtinPlugins w).map (·.name)) ++ ")"
        place := { plugin := some name } }

end DiagramForge
