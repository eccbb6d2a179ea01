import DiagramForge.Proofs.Plugin.Chain

/-!
# Plugins put together

A bundle of plugins is registered as one plugin. The registry then sees one handler a hook, and the
handlers of the members run in a chain that the registry does not look into. It makes no difference:
arrangements of plugins with the same `leaves` agree at every hook and on the settings, however the
plugins are put together. That is `runHook_alike` and `configure_alike`; `composite_transparent` is
about one bundle in its place among other plugins.

## Which handlers run

A handler does not tell that it is called. `Bundle.logged` lets every plugin of an arrangement note
its calls in the memory that plugins share. Arrangements agree for any kind of memory, so they agree
on the notes too. The notes change nothing else (`runHook_logged`), and where each plugin is
registered by itself they are what the registry says of the handlers it has run (`calls_singles`).
-/

namespace DiagramForge

variable {σ : Type}

/-! ## Arrangements of plugins -/

/-- A plugin as it is, or several put together under a name. The members of a bundle can be bundles
themselves. -/
inductive Bundle (σ : Type) where
  /-- A plugin. -/
  | single (p : Plugin σ)
  /-- Several plugins as one. -/
  | several (name version : String) (members : List (Bundle σ))

/-- A call of a plugin: its name, and the name of what is called. -/
abbrev PluginCall := String × String

namespace Bundle

mutual

/-- A bundle as the plugin that is registered. -/
def plugin : Bundle σ → Plugin σ
  | single p => p
  | several name version members => Plugin.composite name (plugins members) version

/-- Bundles as the plugins that are registered. -/
def plugins : List (Bundle σ) → List (Plugin σ)
  | [] => []
  | b :: bs => b.plugin :: plugins bs

end

mutual

/-- The plugins that a bundle is made of. -/
def leaves : Bundle σ → List (Plugin σ)
  | single p => [p]
  | several _ _ members => allLeaves members

/-- The plugins that bundles are made of, in their order. -/
def allLeaves : List (Bundle σ) → List (Plugin σ)
  | [] => []
  | b :: bs => b.leaves ++ allLeaves bs

end

theorem plugins_eq_map (bs : List (Bundle σ)) : plugins bs = bs.map plugin := by
  induction bs with
  | nil => rfl
  | cons b bs ih => rw [plugins, ih, List.map_cons]

theorem allLeaves_append (bs bs' : List (Bundle σ)) :
    allLeaves (bs ++ bs') = allLeaves bs ++ allLeaves bs' := by
  induction bs with
  | nil => rfl
  | cons b bs ih => rw [List.cons_append, allLeaves, allLeaves, ih, List.append_assoc]

open Plugin (chain atHook handlersFor configureAll)

mutual

/-- At a hook, a bundle does what its leaves do. -/
theorem chain_handlersFor_plugin (hook : Hook) :
    ∀ b : Bundle σ, chain (handlersFor hook b.plugin) = atHook hook b.leaves
  | single p => by
    rw [plugin, leaves, atHook, List.flatMap_singleton]
  | several name version members => by
    rw [plugin, Plugin.chain_handlersFor_composite, leaves, atHook_plugins hook members]

/-- At a hook, bundles do what their leaves do. -/
theorem atHook_plugins (hook : Hook) :
    ∀ bs : List (Bundle σ), atHook hook (plugins bs) = atHook hook (allLeaves bs)
  | [] => rfl
  | b :: bs => by
    funext s
    rw [plugins, allLeaves, Plugin.atHook_cons, Plugin.atHook_append,
      chain_handlersFor_plugin hook b, atHook_plugins hook bs]

end

mutual

/-- A bundle adjusts settings as its leaves do. -/
theorem configureAll_plugin_cons : ∀ (b : Bundle σ) (ps : List (Plugin σ)) (settings : Setting),
    configureAll (b.plugin :: ps) settings = configureAll b.leaves settings >>= configureAll ps
  | single p, ps, settings => by
    rw [plugin, leaves, ← Plugin.configureAll_append]
    rfl
  | several name version members, ps, settings => by
    rw [plugin, Plugin.configureAll_composite, leaves, configureAll_plugins members]

/-- Bundles adjust settings as their leaves do. -/
theorem configureAll_plugins : ∀ (bs : List (Bundle σ)),
    configureAll (plugins bs) = configureAll (allLeaves bs)
  | [] => rfl
  | b :: bs => by
    funext settings
    rw [plugins, allLeaves, configureAll_plugin_cons b, Plugin.configureAll_append,
      configureAll_plugins bs]

end

/-! ## Arrangements with the same leaves -/

/-- The registry of bundles that are registered in their order. -/
def registry (bs : List (Bundle σ)) : PluginRegistry σ where
  plugins := plugins bs

variable {bs bs' : List (Bundle σ)}

/-- However plugins are put together, they do the same at a hook. -/
theorem runHook_alike (hleaves : allLeaves bs = allLeaves bs') (s : RunStatus) (hook : Hook)
    (state : Contributions × σ) :
    SameButNames (PluginRegistry.handlerFailed s hook)
        (((registry bs).runHook s hook false).run state).1
        (((registry bs').runHook s hook false).run state).1 ∧
      (((registry bs).runHook s hook false).run state).2 =
        (((registry bs').runHook s hook false).run state).2 := by
  have h := (registry bs).runHook_reports s hook state
  have h' := (registry bs').runHook_reports s hook state
  rw [registry, atHook_plugins, hleaves, ← registry] at h
  rw [registry, atHook_plugins, ← registry] at h'
  exact ⟨h.1.alike h'.1, h.2.trans h'.2.symm⟩

/-- However plugins are put together, they make the same of the settings. -/
theorem configure_alike (hleaves : allLeaves bs = allLeaves bs') (settings : Setting)
    (memory : σ) :
    SameButNames PluginRegistry.configureFailed (((registry bs).configure settings).run memory).1
        (((registry bs').configure settings).run memory).1 ∧
      (((registry bs).configure settings).run memory).2 =
        (((registry bs').configure settings).run memory).2 := by
  have h := PluginRegistry.configureFrom_reports (plugins bs) settings memory
  have h' := PluginRegistry.configureFrom_reports (plugins bs') settings memory
  rw [configureAll_plugins, hleaves] at h
  rw [configureAll_plugins] at h'
  exact ⟨h.1.alike h'.1, h.2.trans h'.2.symm⟩

/-! ## Noting the calls -/

end Bundle

/-- An action that notes a call before it does what it does. -/
def HookAction.noting {α : Type} (call : PluginCall) (m : HookAction σ α) :
    HookAction (List PluginCall × σ) α :=
  ExceptT.mk fun (c, calls, memory) ↦
    let (r, c, memory) := m.run (c, memory)
    (r, c, calls ++ [call], memory)

/-- A plugin that notes each of its calls. -/
def Plugin.logged (p : Plugin σ) : Plugin (List PluginCall × σ) where
  name := p.name
  version := p.version
  priority := p.priority
  hooks := p.hooks.map fun (hook, h) ↦ (hook, fun s ↦ (h s).noting (p.name, hook))
  configure settings := ExceptT.mk fun (calls, memory) ↦
    let (r, memory) := (p.configure settings).run memory
    (r, calls ++ [(p.name, "configure")], memory)
  problems := p.problems

namespace Bundle

open Plugin (chain atHook handlersFor)

mutual

/-- A bundle of plugins that note their calls. -/
def logged : Bundle σ → Bundle (List PluginCall × σ)
  | single p => .single p.logged
  | several name version members => .several name version (allLogged members)

/-- Bundles of plugins that note their calls. -/
def allLogged : List (Bundle σ) → List (Bundle (List PluginCall × σ))
  | [] => []
  | b :: bs => b.logged :: allLogged bs

end

mutual

theorem leaves_logged : ∀ b : Bundle σ, b.logged.leaves = b.leaves.map Plugin.logged
  | single p => rfl
  | several _ _ members => by rw [logged, leaves, leaves, allLeaves_allLogged members]

theorem allLeaves_allLogged :
    ∀ bs : List (Bundle σ), allLeaves (allLogged bs) = (allLeaves bs).map Plugin.logged
  | [] => rfl
  | b :: bs => by
    rw [allLogged, allLeaves, allLeaves, leaves_logged b, allLeaves_allLogged bs, List.map_append]

end

/-- The calls that a hook comes to, in their order. -/
def calls (bs : List (Bundle σ)) (s : RunStatus) (hook : Hook) (state : Contributions × σ) :
    List PluginCall :=
  (((registry (allLogged bs)).runHook s hook false).run (state.1, [], state.2)).2.2.1

/-- The calls that configuring comes to, in their order. -/
def configureCalls (bs : List (Bundle σ)) (settings : Setting) (memory : σ) : List PluginCall :=
  (((registry (allLogged bs)).configure settings).run ([], memory)).2.1

theorem calls_eq_of_leaves {bs bs' : List (Bundle σ)} (h : allLeaves bs = allLeaves bs')
    (s : RunStatus) (hook : Hook) (state : Contributions × σ) :
    calls bs s hook state = calls bs' s hook state := by
  have hlogged : allLeaves (allLogged bs) = allLeaves (allLogged bs') := by
    rw [allLeaves_allLogged, allLeaves_allLogged, h]
  have hstates := (runHook_alike hlogged s hook (state.1, [], state.2)).2
  exact congrArg (fun noted : Contributions × List PluginCall × σ ↦ noted.2.1) hstates

theorem configureCalls_eq_of_leaves {bs bs' : List (Bundle σ)} (h : allLeaves bs = allLeaves bs')
    (settings : Setting) (memory : σ) :
    configureCalls bs settings memory = configureCalls bs' settings memory := by
  have hlogged : allLeaves (allLogged bs) = allLeaves (allLogged bs') := by
    rw [allLeaves_allLogged, allLeaves_allLogged, h]
  exact congrArg Prod.fst (configure_alike hlogged settings ([], memory)).2

/-- A state with notes and the state without them. -/
def Forgets (noted : Contributions × List PluginCall × σ) (state : Contributions × σ) : Prop :=
  noted.1 = state.1 ∧ noted.2.2 = state.2

theorem inStep_noting {α : Type} (call : PluginCall) (m : HookAction σ α) :
    InStep Forgets Eq (m.noting call) m := by
  rintro ⟨c, calls, memory⟩ ⟨_, _⟩ ⟨rfl, rfl⟩
  exact ⟨sameOutcome_eq_iff.mpr rfl, rfl, rfl⟩

theorem inStep_chain {hs' : List (Handler (List PluginCall × σ))} {hs : List (Handler σ)}
    {s : RunStatus} (h : List.Forall₂ (fun h' h ↦ InStep Forgets Eq (h' s) (h s)) hs' hs) :
    InStep Forgets Eq (chain hs' s) (chain hs s) := by
  induction h with
  | nil => exact InStep.pure rfl
  | @cons h' h hs' hs hhead _ ih =>
    intro noted state hforgets
    have haborted : noted.1.aborted = state.1.aborted := congrArg _ hforgets.1
    cases haborts : state.1.aborted with
    | true =>
      rw [Plugin.chain_of_aborted _ s (haborted.trans haborts),
        Plugin.chain_of_aborted _ s haborts]
      exact ⟨sameOutcome_eq_iff.mpr rfl, hforgets⟩
    | false =>
      rw [Plugin.chain_cons _ _ s (haborted.trans haborts), Plugin.chain_cons _ _ s haborts]
      exact hhead.bind (fun _ _ _ ↦ ih) noted state hforgets

theorem handlersFor_logged (hook : Hook) (p : Plugin σ) : handlersFor hook p.logged =
    (handlersFor hook p).map fun h s ↦ (h s).noting (p.name, hook.label) := by
  rw [Plugin.handlersFor_eq, Plugin.handlersFor_eq, List.map_map]
  change ((p.hooks.map fun e ↦ (e.1, fun s ↦ (e.2 s).noting (p.name, e.1))).filter _).map _ = _
  rw [List.filter_map, List.map_map]
  refine List.map_congr_left fun e he ↦ ?_
  have hkey : e.1 = hook.label := eq_of_beq (List.mem_filter.mp he).2
  rw [Function.comp_apply, Function.comp_apply, hkey]

theorem inStep_atHook_logged (hook : Hook) (ps : List (Plugin σ)) (s : RunStatus) :
    InStep Forgets Eq (atHook hook (ps.map Plugin.logged) s) (atHook hook ps s) := by
  refine inStep_chain ?_
  rw [List.flatMap_map]
  induction ps with
  | nil => exact .nil
  | cons p ps ih =>
    rw [List.flatMap_cons, List.flatMap_cons, handlersFor_logged]
    refine List.rel_append ?_ ih
    rw [List.forall₂_map_left_iff, List.forall₂_same]
    exact fun h _ ↦ inStep_noting _ (h s)

/-- Noting the calls changes nothing else. -/
theorem runHook_logged (bs : List (Bundle σ)) (s : RunStatus) (hook : Hook)
    {noted : Contributions × List PluginCall × σ} {state : Contributions × σ}
    (h : Forgets noted state) :
    SameButNames (PluginRegistry.handlerFailed s hook)
        (((registry (allLogged bs)).runHook s hook false).run noted).1
        (((registry bs).runHook s hook false).run state).1 ∧
      Forgets (((registry (allLogged bs)).runHook s hook false).run noted).2
        (((registry bs).runHook s hook false).run state).2 := by
  have hplain := (registry bs).runHook_reports s hook state
  have hnoted := (registry (allLogged bs)).runHook_reports s hook noted
  rw [registry, atHook_plugins, ← registry] at hplain
  rw [registry, atHook_plugins, allLeaves_allLogged, ← registry] at hnoted
  obtain ⟨houtcome, hstate⟩ := inStep_atHook_logged hook (allLeaves bs) s noted state h
  rw [sameOutcome_eq_iff.mp houtcome] at hnoted
  rw [hplain.2, hnoted.2]
  exact ⟨hnoted.1.alike hplain.1, hstate⟩

theorem inStep_configureAll_logged (ps : List (Plugin σ)) (settings : Setting) :
    InStep (fun noted memory ↦ noted.2 = memory) Eq
      (Plugin.configureAll (ps.map Plugin.logged) settings)
      (Plugin.configureAll ps settings) := by
  induction ps generalizing settings with
  | nil => exact InStep.pure rfl
  | cons p ps ih =>
    have hp : InStep (fun (noted : List PluginCall × σ) memory ↦ noted.2 = memory) Eq
        (p.logged.configure settings) (p.configure settings) := by
      rintro ⟨calls, memory⟩ _ rfl
      exact ⟨sameOutcome_eq_iff.mpr rfl, rfl⟩
    exact hp.bind_eq fun replacement ↦ ih (replacement.getD settings)

/-- Noting the calls does not change what plugins make of the settings. -/
theorem configure_logged (bs : List (Bundle σ)) (settings : Setting) (calls : List PluginCall)
    (memory : σ) :
    SameButNames PluginRegistry.configureFailed
        (((registry (allLogged bs)).configure settings).run (calls, memory)).1
        (((registry bs).configure settings).run memory).1 ∧
      (((registry (allLogged bs)).configure settings).run (calls, memory)).2.2 =
        (((registry bs).configure settings).run memory).2 := by
  have hplain := PluginRegistry.configureFrom_reports (plugins bs) settings memory
  have hnoted :=
    PluginRegistry.configureFrom_reports (plugins (allLogged bs)) settings (calls, memory)
  rw [configureAll_plugins] at hplain
  rw [configureAll_plugins, allLeaves_allLogged] at hnoted
  obtain ⟨houtcome, hstate⟩ :=
    inStep_configureAll_logged (allLeaves bs) settings (calls, memory) memory rfl
  rw [sameOutcome_eq_iff.mp houtcome] at hnoted
  refine ⟨hnoted.1.alike hplain.1, ?_⟩
  exact (congrArg Prod.snd hnoted.2).trans (hstate.trans hplain.2.symm)

/-- The registry's own account of the handlers it runs is what they note. The induction is on the
handlers, and the notes of a handler come before those of the handlers after it. -/
theorem runHandlers_noting (s : RunStatus) (hook : Hook) (hs : List (String × Handler σ))
    (c : Contributions) (cs : List PluginCall) (memory : σ) :
    (PluginRegistry.runHandlers s hook false
        (hs.map fun e ↦ (e.1, fun s ↦ (e.2 s).noting (e.1, hook.label)))
        (c, cs, memory)).state.2.1 =
      cs ++ (PluginRegistry.runHandlers s hook false hs (c, memory)).runs.map
        fun run ↦ (run.plugin, hook.label) := by
  induction hs generalizing c cs memory with
  | nil => exact (List.append_nil cs).symm
  | cons e more ih =>
    obtain ⟨name, handler⟩ := e
    rw [List.map_cons, PluginRegistry.runHandlers, PluginRegistry.runHandlers]
    cases haborts : c.aborted with
    | true => exact (List.append_nil cs).symm
    | false =>
      rw [if_neg Bool.false_ne_true, if_neg Bool.false_ne_true]
      have hrun : ((handler s).noting (name, hook.label)).run.run (c, cs, memory) =
          (((handler s).run.run (c, memory)).1, ((handler s).run.run (c, memory)).2.1,
            cs ++ [(name, hook.label)], ((handler s).run.run (c, memory)).2.2) := rfl
      rw [hrun]
      rcases (handler s).run.run (c, memory) with ⟨f | _, c', memory'⟩
      · rfl
      · exact (ih c' _ memory').trans (List.append_assoc _ _ _)

/-- Where each plugin is registered by itself, the calls are those of the handlers that the registry
says have run. -/
theorem calls_singles (ps : List (Plugin σ)) (s : RunStatus) (hook : Hook)
    (state : Contributions × σ) : calls (ps.map .single) s hook state =
      (({ plugins := ps } : PluginRegistry σ).dispatch s hook false state).runs.map
        fun run ↦ (run.plugin, hook.label) := by
  have hplugins : plugins (allLogged (ps.map single)) = ps.map Plugin.logged := by
    induction ps with
    | nil => rfl
    | cons p ps ih => rw [List.map_cons, allLogged, plugins, ih, List.map_cons, logged, plugin]
  have hhandlers : (registry (allLogged (ps.map single))).handlers hook =
      (PluginRegistry.handlers { plugins := ps } hook).map
        fun e ↦ (e.1, fun s ↦ (e.2 s).noting (e.1, hook.label)) := by
    rw [registry, hplugins, PluginRegistry.handlers_eq, PluginRegistry.handlers_eq,
      List.map_flatMap, List.flatMap_map]
    refine congrArg (ps.flatMap ·) (funext fun p ↦ ?_)
    rw [handlersFor_logged, List.map_map, List.map_map]
    rfl
  rw [calls, PluginRegistry.run_runHook, PluginRegistry.dispatch, hhandlers]
  exact (runHandlers_noting s hook _ state.1 [] state.2).trans (List.nil_append _)

/-! ## A bundle in its place -/

theorem registerAll_plugins {bs : List (Bundle σ)} (hnames : (bs.map (·.plugin.name)).Nodup)
    (hhooks : ∀ b ∈ bs, PluginRegistry.unknownHook? b.plugin = none) :
    PluginRegistry.registerAll {} (plugins bs) = (registry bs, none) := by
  rw [registry, plugins_eq_map]
  refine PluginRegistry.registerAll_eq ?_ (List.forall_mem_map.mpr hhooks)
  rwa [List.nil_append, List.map_map]

/-- A bundle of plugins can be registered in place of its members. At every hook and for every
state, a run without isolation ends in the same state, it fails in the same cases and for the same
reason, and the same handlers are called in the same order; the same holds of the settings. The
names of plugins in diagnostics are all that differs. -/
theorem composite_transparent {front members back bundled separate : List (Bundle σ)}
    {name version : String} (hb : bundled = front ++ several name version members :: back)
    (hs : separate = front ++ members ++ back)
    (hbundled : (bundled.map (·.plugin.name)).Nodup)
    (hseparate : (separate.map (·.plugin.name)).Nodup)
    (hhooks : ∀ b ∈ separate, PluginRegistry.unknownHook? b.plugin = none) :
    PluginRegistry.registerAll {} (plugins bundled) = (registry bundled, none) ∧
      PluginRegistry.registerAll {} (plugins separate) = (registry separate, none) ∧
      (∀ s hook state,
        SameButNames (PluginRegistry.handlerFailed s hook)
          (((registry bundled).runHook s hook false).run state).1
          (((registry separate).runHook s hook false).run state).1 ∧
        (((registry bundled).runHook s hook false).run state).2 =
          (((registry separate).runHook s hook false).run state).2 ∧
        calls bundled s hook state = calls separate s hook state) ∧
      ∀ settings memory,
        SameButNames PluginRegistry.configureFailed
          (((registry bundled).configure settings).run memory).1
          (((registry separate).configure settings).run memory).1 ∧
        (((registry bundled).configure settings).run memory).2 =
          (((registry separate).configure settings).run memory).2 ∧
        configureCalls bundled settings memory = configureCalls separate settings memory := by
  subst hb hs
  have hleaves : allLeaves (front ++ several name version members :: back) =
      allLeaves (front ++ members ++ back) := by
    rw [allLeaves_append, allLeaves_append, allLeaves_append, allLeaves, leaves,
      List.append_assoc]
  have hbundledHooks : ∀ b ∈ front ++ several name version members :: back,
      PluginRegistry.unknownHook? b.plugin = none := by
    simp only [List.forall_mem_append, List.forall_mem_cons] at hhooks ⊢
    obtain ⟨⟨hfront, hmembers⟩, hback⟩ := hhooks
    refine ⟨hfront, ?_, hback⟩
    rw [plugin, plugins_eq_map]
    exact PluginRegistry.unknownHook?_composite (List.forall_mem_map.mpr hmembers)
  refine ⟨registerAll_plugins hbundled hbundledHooks, registerAll_plugins hseparate hhooks,
    fun s hook state ↦ ?_, fun settings memory ↦ ?_⟩
  · rw [← and_assoc]
    exact ⟨runHook_alike hleaves s hook state, calls_eq_of_leaves hleaves s hook state⟩
  · rw [← and_assoc]
    exact ⟨configure_alike hleaves settings memory,
      configureCalls_eq_of_leaves hleaves settings memory⟩

/-- The second of three plugins wants the run to end, and the bundle around it and the third has a
bundle as a member. -/
theorem composite_transparent_of_abort :
    let noteName (name : String) : Plugin Unit :=
      { name, hooks := [("afterParse", fun _ ↦ HookAction.setMetadata name (.bool true))] }
    let ending : Plugin Unit :=
      { name := "ending"
        hooks := [("afterParse", fun _ ↦
          HookAction.contribute fun c ↦ { c with abortReason := some "enough" })] }
    let bundled := [single (noteName "first"),
      several "bundle" "1.0.0" [several "inner" "1.0.0" [single ending], single (noteName "last")]]
    let separate := [single (noteName "first"), several "inner" "1.0.0" [single ending],
      single (noteName "last")]
    (bundled.map (·.plugin.name)).Nodup ∧ (separate.map (·.plugin.name)).Nodup ∧
      (∀ b ∈ separate, PluginRegistry.unknownHook? b.plugin = none) ∧
      (∀ s : RunStatus, calls bundled s .afterParse ({}, ()) =
        [("first", "afterParse"), ("ending", "afterParse")]) ∧
      ∀ s state, (((registry bundled).runHook s .afterParse false).run state).2 =
        (((registry separate).runHook s .afterParse false).run state).2 := by
  intro noteName ending bundled separate
  have hbundled : (bundled.map (·.plugin.name)).Nodup := by decide
  have hseparate : (separate.map (·.plugin.name)).Nodup := by decide
  have hhooks : ∀ b ∈ separate, PluginRegistry.unknownHook? b.plugin = none := by
    simp only [separate, List.forall_mem_cons]
    exact ⟨rfl, rfl, rfl, nofun⟩
  have htransparent := @composite_transparent Unit [single (noteName "first")]
    [several "inner" "1.0.0" [single ending], single (noteName "last")] [] bundled separate
    "bundle" "1.0.0" rfl rfl hbundled hseparate hhooks
  exact ⟨hbundled, hseparate, hhooks, fun _ ↦ rfl,
    fun s state ↦ (htransparent.2.2.1 s .afterParse state).2.1⟩

end Bundle

end DiagramForge
