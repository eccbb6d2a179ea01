import DiagramForge.Plugin.Basic

/-!
# The registry of plugins

Plugins run in the order of registration. A plugin that is registered by priority goes in front of
the first one of lower priority; the others keep their order.

The handlers of all hooks stand in one table. It follows from the plugins, so registering and
removing need not keep track of it.
-/

namespace DiagramForge

/-- How a handler has run. -/
structure HandlerRun where
  /-- The plugin it belongs to. -/
  plugin : String
  /-- Whether it has failed. -/
  failed : Bool
  /-- Whether the run is to end after it. -/
  aborted : Bool
deriving DecidableEq

/-- What comes of running the handlers of a hook. -/
structure HookResult (σ : Type) where
  /-- How the handlers have run, as far as they have. -/
  runs : List HandlerRun := []
  /-- The failure that ends the run, if there is one. -/
  failure : Option Diagnostic := none
  /-- The contributions and the memory of the plugins after it. -/
  state : Contributions × σ

/-- A result with a handler in front that has run before. -/
def HookResult.after {σ : Type} (result : HookResult σ) (handled : HandlerRun) : HookResult σ :=
  { result with runs := handled :: result.runs }

/-! ## The table of handlers -/

/-- The handlers of each hook with the names of their plugins, in the order they run. -/
abbrev HookTable (σ : Type) := Hook → List (String × Handler σ)

namespace HookTable

variable {σ : Type}

/-- The table without handlers. -/
def empty : HookTable σ := fun _ ↦ []

/-- Enters a handler of a plugin, behind those that its hook has so far. -/
def enter (t : HookTable σ) (hook : Hook) (plugin : String) (handler : Handler σ) : HookTable σ :=
  fun h ↦ if h = hook then t h ++ [(plugin, handler)] else t h

/-- Enters the handlers of a plugin. A hook that does not exist is passed over; no plugin is
registered with one. -/
def enterPlugin (t : HookTable σ) (p : Plugin σ) : HookTable σ :=
  p.hooks.foldl (fun t (label, handler) ↦
    match Hook.ofLabel? label with
    | some hook => t.enter hook p.name handler
    | none => t) t

theorem enterPlugin_apply (t : HookTable σ) (p : Plugin σ) (hook : Hook) :
    t.enterPlugin p hook = t hook ++
      (p.hooks.filter fun h ↦ Hook.ofLabel? h.1 == some hook).map fun h ↦ (p.name, h.2) := by
  rw [enterPlugin]
  induction p.hooks generalizing t with
  | nil => exact (List.append_nil _).symm
  | cons h hs ih =>
    rw [List.foldl_cons, ih]
    cases hlabel : Hook.ofLabel? h.1 with
    | none => simp [hlabel]
    | some hook' =>
      by_cases heq : hook = hook'
      · simp [hlabel, enter, heq]
      · simp [hlabel, enter, heq, Ne.symm heq]

end HookTable

/-! ## The registry -/

/-- The registered plugins. -/
structure PluginRegistry (σ : Type) where
  /-- The plugins in the order they run. -/
  plugins : List (Plugin σ) := []
  /-- Whether a handler that fails is reported and does not end the run. -/
  isolates : Bool := false

namespace PluginRegistry

variable {σ : Type}

/-- A diagnostic about a plugin. -/
def about (name message : String) (phase : Option String := none) : Diagnostic :=
  { kind := .plugin, message, place := { phase, plugin := some name } }

/-! ## Registration -/

/-- The first hook of a plugin that does not exist. -/
def unknownHook? (p : Plugin σ) : Option String :=
  (p.hooks.find? fun h ↦ (Hook.ofLabel? h.1).isNone).map (·.1)

/-- Puts a plugin in front of the first one of lower priority, or at the end. -/
def insertByPriority (p : Plugin σ) : List (Plugin σ) → List (Plugin σ)
  | [] => [p]
  | q :: qs => if q.priority < p.priority then p :: q :: qs else q :: insertByPriority p qs

/-- Registers a plugin. -/
def register (r : PluginRegistry σ) (p : Plugin σ) (byPriority : Bool := false) :
    Except Diagnostic (PluginRegistry σ) :=
  if r.plugins.any fun q ↦ q.name == p.name then
    .error (about p.name ("Plugin '" ++ p.name ++ "' is already registered"))
  else
    match unknownHook? p with
    | some hook =>
      .error (about p.name ("Plugin '" ++ p.name ++ "' registers unknown hook '" ++ hook ++ "'"))
    | none =>
      .ok { r with
        plugins := if byPriority then insertByPriority p r.plugins else r.plugins ++ [p] }

/-- Registers plugins up to the first that cannot be registered, which is reported. -/
def registerAll (r : PluginRegistry σ) : List (Plugin σ) → PluginRegistry σ × Option Diagnostic
  | [] => (r, none)
  | p :: ps =>
    match r.register p with
    | .ok r => registerAll r ps
    | .error d => (r, some d)

/-- Removes a plugin. -/
def unregister (r : PluginRegistry σ) (name : String) : PluginRegistry σ :=
  { r with plugins := r.plugins.filter fun p ↦ p.name != name }

/-! ## Dispatch -/

/-- The table of the handlers of the plugins. -/
def hookTable (r : PluginRegistry σ) : HookTable σ :=
  r.plugins.foldl HookTable.enterPlugin .empty

/-- The handlers of a hook with the names of their plugins, in the order they run. -/
def handlers (r : PluginRegistry σ) (hook : Hook) : List (String × Handler σ) :=
  r.hookTable hook

theorem handlers_eq_flatMap (r : PluginRegistry σ) (hook : Hook) :
    r.handlers hook = r.plugins.flatMap fun p ↦
      (p.hooks.filter fun h ↦ Hook.ofLabel? h.1 == some hook).map fun h ↦ (p.name, h.2) := by
  have hplugins : ∀ (ps : List (Plugin σ)) (t : HookTable σ),
      ps.foldl HookTable.enterPlugin t hook = t hook ++ ps.flatMap fun p ↦
        (p.hooks.filter fun h ↦ Hook.ofLabel? h.1 == some hook).map fun h ↦ (p.name, h.2) := by
    intro ps
    induction ps with
    | nil => exact fun t ↦ (List.append_nil _).symm
    | cons p ps ih =>
      intro t
      rw [List.foldl_cons, ih, HookTable.enterPlugin_apply, List.flatMap_cons, List.append_assoc]
  exact (hplugins r.plugins .empty).trans (List.nil_append _)

/-- The diagnostic about a handler that has failed. -/
def handlerFailed (s : RunStatus) (hook : Hook) (plugin : String) (f : Failure) : Diagnostic :=
  about plugin ("Plugin '" ++ plugin ++ "' failed in " ++ hook.label ++ ": " ++ f.reason)
    (some s.phase)

/-- Runs handlers, until one fails or the run is to end. A failure that is isolated becomes a
warning. -/
def runHandlers (s : RunStatus) (hook : Hook) (isolate : Bool) :
    List (String × Handler σ) → Contributions × σ → HookResult σ
  | [], state => { state }
  | (plugin, handler) :: more, state =>
    if state.1.aborted then { state }
    else
      match (handler s).run.run state with
      | (.ok _, state) =>
        (runHandlers s hook isolate more state).after ⟨plugin, false, state.1.aborted⟩
      | (.error f, c, memory) =>
        let d := handlerFailed s hook plugin f
        let handled : HandlerRun := ⟨plugin, true, c.aborted⟩
        if isolate then
          (runHandlers s hook isolate more
            ({ c with warnings := c.warnings ++ [d.text] }, memory)).after handled
        else { runs := [handled], failure := some d, state := (c, memory) }

/-- Runs the handlers of a hook. -/
def dispatch (r : PluginRegistry σ) (s : RunStatus) (hook : Hook) (isolate : Bool) :
    Contributions × σ → HookResult σ :=
  runHandlers s hook isolate (r.handlers hook)

/-- Runs the handlers of a hook, whichever they are. -/
def runHook (r : PluginRegistry σ) (s : RunStatus) (hook : Hook) (isolate : Bool) :
    ExceptT Diagnostic (StateM (Contributions × σ)) Unit :=
  ExceptT.mk fun state ↦
    let result := r.dispatch s hook isolate state
    (match result.failure with
      | none => .ok ()
      | some d => .error d, result.state)

/-! ## Configuration -/

/-- The diagnostic about a plugin that fails to adjust the settings. -/
def configureFailed (plugin : String) (f : Failure) : Diagnostic :=
  about plugin ("Plugin '" ++ plugin ++ "' failed to configure: " ++ f.reason) (some "configuring")

/-- Lets plugins adjust settings one after another. -/
def configureFrom (s : Setting) : List (Plugin σ) → ExceptT Diagnostic (StateM σ) Setting
  | [] => return s
  | p :: ps => do
    let replacement ← (p.configure s).adapt (configureFailed p.name)
    configureFrom (replacement.getD s) ps

/-- Lets all plugins adjust settings. -/
def configure (r : PluginRegistry σ) (s : Setting) : ExceptT Diagnostic (StateM σ) Setting :=
  configureFrom s r.plugins

/-- The problems of a plugin; that it cannot tell them is one. -/
def problemsOf (p : Plugin σ) : List String :=
  match p.problems with
  | .ok problems => problems
  | .error f => ["validate raised " ++ f.className ++ ": " ++ f.reason]

/-- What is wrong with the plugins. -/
def problems (r : PluginRegistry σ) : List Diagnostic :=
  r.plugins.flatMap fun p ↦ (problemsOf p).map fun problem ↦
    about p.name ("Plugin '" ++ p.name ++ "' is misconfigured: " ++ problem) (some "configuring")

end PluginRegistry

end DiagramForge
