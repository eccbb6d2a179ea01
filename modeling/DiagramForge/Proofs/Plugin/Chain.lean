import DiagramForge.Plugin.Registry
import DiagramForge.Proofs.Entries
import DiagramForge.Proofs.InStep

/-!
# Chains of handlers

Two loops run handlers: the chain of a bundle of plugins, and the loop of the registry over the
handlers that it knows. Both stop when the run is to end or a handler fails.

What plugins do at a hook is one chain, `Plugin.atHook`. A chain that is an item of a chain can be
replaced by its items (`chain_append`, `chain_singleton`), so at a hook a bundle does what its
members do: `chain_handlersFor_composite`. The registry without isolation runs the chain of its
plugins, and puts a failure into words that name a plugin: `runHook_reports`.
-/

namespace DiagramForge

variable {σ : Type}

/-! ## Chains -/

namespace Plugin

theorem chain_of_aborted (hs : List (Handler σ)) (s : RunStatus) {state : Contributions × σ}
    (h : state.1.aborted = true) : (chain hs s).run state = (.ok (), state) := by
  cases hs with
  | nil => rfl
  | cons handler hs =>
    change (if state.1.aborted = true then pure () else handler s >>= fun _ ↦ chain hs s
      : HookAction σ Unit).run state = _
    rw [if_pos h]
    rfl

theorem chain_cons (handler : Handler σ) (hs : List (Handler σ)) (s : RunStatus)
    {state : Contributions × σ} (h : state.1.aborted = false) :
    (chain (handler :: hs) s).run state = (handler s >>= fun _ ↦ chain hs s).run state := by
  change (if state.1.aborted = true then pure () else handler s >>= fun _ ↦ chain hs s
    : HookAction σ Unit).run state = _
  rw [h, if_neg Bool.false_ne_true]

/-- The induction is on the first handlers: once one of them wants the run to end, neither chain
does anything more. -/
theorem chain_append (hs hs' : List (Handler σ)) (s : RunStatus) :
    chain (hs ++ hs') s = chain hs s >>= fun _ ↦ chain hs' s := by
  induction hs with
  | nil => exact (pure_bind () fun _ ↦ chain hs' s).symm
  | cons handler hs ih =>
    apply ExceptT.ext
    funext state
    cases haborts : state.1.aborted with
    | true =>
      have hboth := chain_of_aborted (handler :: hs ++ hs') s haborts
      have hfirst := chain_of_aborted (handler :: hs) s haborts
      have hsecond := chain_of_aborted hs' s haborts
      rw [hboth, run_bind, hfirst]
      exact hsecond.symm
    | false =>
      have hfirst := chain_cons handler hs s haborts
      rw [List.cons_append, chain_cons handler (hs ++ hs') s haborts, ih, ← bind_assoc]
      rw [run_bind state (handler s >>= fun _ ↦ chain hs s)]
      rw [run_bind state (chain (handler :: hs) s), hfirst]

/-- A chain is not changed by being an item of a chain: the outer one asks first whether the run is
to end, and so does the inner one. -/
theorem chain_singleton (hs : List (Handler σ)) : chain [chain hs] = chain hs := by
  funext s
  apply ExceptT.ext
  funext state
  cases haborts : state.1.aborted with
  | true => exact (chain_of_aborted _ s haborts).trans (chain_of_aborted hs s haborts).symm
  | false =>
    have hunit : (chain hs s >>= fun _ ↦ chain [] s) = chain hs s := bind_pure (chain hs s)
    rw [chain_cons _ _ s haborts, hunit]

/-! ## What plugins do at a hook -/

/-- The handlers that a plugin has for a hook. -/
def handlersFor (hook : Hook) (p : Plugin σ) : List (Handler σ) :=
  (p.hooks.filter fun h ↦ Hook.ofLabel? h.1 == some hook).map (·.2)

/-- What plugins do at a hook, one after another. -/
def atHook (hook : Hook) (ps : List (Plugin σ)) : Handler σ :=
  chain (ps.flatMap (handlersFor hook))

theorem atHook_append (hook : Hook) (ps qs : List (Plugin σ)) (s : RunStatus) :
    atHook hook (ps ++ qs) s = atHook hook ps s >>= fun _ ↦ atHook hook qs s := by
  rw [atHook, List.flatMap_append, chain_append]
  rfl

theorem ofLabel?_eq_some_iff {s : String} {hook : Hook} :
    Hook.ofLabel? s = some hook ↔ s = hook.label := by
  constructor
  · intro h
    have hlabel := List.find?_some h
    exact (eq_of_beq hlabel).symm
  · rintro rfl
    cases hook <;> rfl

theorem handlersFor_eq (hook : Hook) (p : Plugin σ) :
    handlersFor hook p = (p.hooks.filter fun h ↦ h.1 == hook.label).map (·.2) := by
  refine congrArg (List.map Prod.snd) (List.filter_congr fun h _ ↦ ?_)
  rw [Bool.eq_iff_iff, beq_iff_eq, beq_iff_eq, ofLabel?_eq_some_iff]

/-! ## The handlers of a bundle -/

/-- Puts a handler at the end of the chain of its hook. -/
def addHandler (chains : List (String × List (Handler σ))) (e : String × Handler σ) :
    List (String × List (Handler σ)) :=
  Entries.set chains e.1 (((Entries.get? chains e.1).getD []) ++ [e.2])

theorem gather_eq (ps : List (Plugin σ)) :
    gather ps = (ps.flatMap (·.hooks)).foldl addHandler [] := rfl

theorem getD_get?_foldl_addHandler (es : List (String × Handler σ))
    (chains : List (String × List (Handler σ))) (key : String) :
    (Entries.get? (es.foldl addHandler chains) key).getD [] =
      (Entries.get? chains key).getD [] ++ (es.filter fun e ↦ e.1 == key).map (·.2) := by
  induction es generalizing chains with
  | nil => exact (List.append_nil _).symm
  | cons e es ih =>
    rw [List.foldl_cons, ih, addHandler, Entries.get?_set, List.filter_cons]
    split
    next hkey => rw [eq_of_beq hkey, Option.getD_some, List.append_assoc, List.map_cons,
      List.singleton_append]
    next => rfl

theorem nodup_foldl_addHandler (es : List (String × Handler σ))
    {chains : List (String × List (Handler σ))} (h : (chains.map Prod.fst).Nodup) :
    ((es.foldl addHandler chains).map Prod.fst).Nodup := by
  induction es generalizing chains with
  | nil => exact h
  | cons e es ih => exact ih (Entries.nodup_set h _ _)

theorem mem_of_mem_foldl_addHandler {es : List (String × Handler σ)}
    {chains : List (String × List (Handler σ))} {key : String}
    (h : key ∈ (es.foldl addHandler chains).map Prod.fst) :
    key ∈ chains.map Prod.fst ∨ key ∈ es.map Prod.fst := by
  induction es generalizing chains with
  | nil => exact .inl h
  | cons e es ih =>
    rw [List.map_cons, List.mem_cons]
    rcases ih h with h | h
    · obtain ⟨e', he', rfl⟩ := List.mem_map.mp h
      rcases Entries.mem_of_mem_set he' with he' | rfl
      · exact .inl (List.mem_map_of_mem he')
      · exact .inr (.inl rfl)
    · exact .inr (.inr h)

/-- The chain of a hook is made of the handlers that the members have for it. -/
theorem getD_get?_gather (hook : Hook) (ps : List (Plugin σ)) :
    (Entries.get? (gather ps) hook.label).getD [] = ps.flatMap (handlersFor hook) := by
  rw [gather_eq, getD_get?_foldl_addHandler, List.filter_flatMap, List.map_flatMap]
  exact congrArg ps.flatMap (funext fun p ↦ (handlersFor_eq hook p).symm)

/-- At a hook, a bundle does what its members do. -/
theorem chain_handlersFor_composite (hook : Hook) (name version : String)
    (ps : List (Plugin σ)) :
    chain (handlersFor hook (composite name ps version)) = atHook hook ps := by
  have hhandlers : handlersFor hook (composite name ps version) =
      ((gather ps).filter fun e ↦ e.1 == hook.label).map fun e ↦ chain e.2 := by
    rw [handlersFor_eq]
    change (((gather ps).map fun e ↦ (e.1, chain e.2)).filter _).map _ = _
    rw [List.filter_map, List.map_map]
    rfl
  rw [hhandlers, atHook, ← getD_get?_gather]
  cases hget : Entries.get? (gather ps) hook.label with
  | none =>
    have hnone : ((gather ps).filter fun e ↦ e.1 == hook.label) = [] :=
      List.filter_eq_nil_iff.mpr fun e he hkey ↦
        List.find?_eq_none.mp (Option.map_eq_none_iff.mp hget) e he hkey
    rw [hnone]
    rfl
  | some hs =>
    have hnodup : ((gather ps).map Prod.fst).Nodup := nodup_foldl_addHandler _ .nil
    rw [Entries.filter_eq_singleton hnodup hget]
    exact chain_singleton hs

theorem atHook_cons (hook : Hook) (p : Plugin σ) (ps : List (Plugin σ)) (s : RunStatus) :
    atHook hook (p :: ps) s = chain (handlersFor hook p) s >>= fun _ ↦ atHook hook ps s := by
  rw [atHook, List.flatMap_cons, chain_append]
  rfl

/-! ## How plugins adjust settings -/

theorem configureAll_append (ps qs : List (Plugin σ)) (settings : Setting) :
    configureAll (ps ++ qs) settings = configureAll ps settings >>= configureAll qs := by
  induction ps generalizing settings with
  | nil => exact (pure_bind settings (configureAll qs)).symm
  | cons p ps ih =>
    rw [List.cons_append, configureAll, configureAll, bind_assoc]
    exact congrArg _ (funext fun _ ↦ ih _)

/-- A bundle always has a replacement: what its members make of the settings. -/
theorem configureAll_composite (name version : String) (ps qs : List (Plugin σ))
    (settings : Setting) : configureAll (composite name ps version :: qs) settings =
      configureAll ps settings >>= configureAll qs := by
  rw [configureAll]
  change (configureAll ps settings >>= fun t ↦ pure (some t)) >>= _ = _
  rw [bind_assoc]
  exact congrArg _ (funext fun _ ↦ pure_bind _ _)

end Plugin

/-! ## The words of the registry -/

/-- What the registry makes of an outcome: a failure is reported with the name of a plugin. -/
inductive Reports {α : Type} (report : String → Failure → Diagnostic) :
    Except Failure α → Except Diagnostic α → Prop where
  /-- There is no failure. -/
  | ok (a : α) : Reports report (.ok a) (.ok a)
  /-- A failure is reported. -/
  | failed (plugin : String) (f : Failure) : Reports report (.error f) (.error (report plugin f))

/-- Two outcomes are the same, except that a failure may be reported with the names of two
plugins. -/
inductive SameButNames {α : Type} (report : String → Failure → Diagnostic) :
    Except Diagnostic α → Except Diagnostic α → Prop where
  /-- There is no failure. -/
  | ok (a : α) : SameButNames report (.ok a) (.ok a)
  /-- The same failure is reported. -/
  | failed (plugin plugin' : String) (f : Failure) :
    SameButNames report (.error (report plugin f)) (.error (report plugin' f))

theorem Reports.alike {α : Type} {report : String → Failure → Diagnostic} {r : Except Failure α}
    {d d' : Except Diagnostic α} (h : Reports report r d) (h' : Reports report r d') :
    SameButNames report d d' := by
  cases h with
  | ok a =>
    cases h'
    exact .ok a
  | failed plugin f =>
    cases h' with
    | failed plugin' _ => exact .failed plugin plugin' f

namespace PluginRegistry

open Plugin (chain atHook handlersFor configureAll)

/-- The loop over handlers and the chain of the same handlers: the induction is on the handlers,
and both stop at the same one. -/
theorem runHandlers_reports (s : RunStatus) (hook : Hook) (hs : List (String × Handler σ))
    (state : Contributions × σ) :
    Reports (handlerFailed s hook) ((chain (hs.map Prod.snd) s).run state).1
        ((runHandlers s hook false hs state).failure.elim (.ok ()) .error) ∧
      (runHandlers s hook false hs state).state = ((chain (hs.map Prod.snd) s).run state).2 := by
  induction hs generalizing state with
  | nil => exact ⟨.ok (), rfl⟩
  | cons e more ih =>
    obtain ⟨plugin, handler⟩ := e
    rw [runHandlers, List.map_cons]
    cases haborts : state.1.aborted with
    | true =>
      rw [if_pos rfl, Plugin.chain_of_aborted _ s haborts]
      exact ⟨.ok (), rfl⟩
    | false =>
      rw [if_neg Bool.false_ne_true, Plugin.chain_cons _ _ s haborts, run_bind]
      have hrun : (handler s).run.run state = (handler s).run state := rfl
      rw [hrun]
      -- the handler is the last one, or it succeeds and leaves the rest to the others
      rcases (handler s).run state with ⟨f | _, after⟩
      · exact ⟨.failed plugin f, rfl⟩
      · exact ih after

theorem handlers_eq (r : PluginRegistry σ) (hook : Hook) :
    r.handlers hook = r.plugins.flatMap fun p ↦ (handlersFor hook p).map (p.name, ·) :=
  (r.handlers_eq_flatMap hook).trans
    (congrArg (r.plugins.flatMap ·) (funext fun _ ↦ List.map_map.symm))

theorem snd_handlers (r : PluginRegistry σ) (hook : Hook) :
    (r.handlers hook).map Prod.snd = r.plugins.flatMap (handlersFor hook) := by
  rw [handlers_eq, List.map_flatMap]
  refine congrArg (r.plugins.flatMap ·) (funext fun p ↦ ?_)
  rw [List.map_map]
  exact List.map_id _

theorem run_runHook (r : PluginRegistry σ) (s : RunStatus) (hook : Hook) (isolate : Bool)
    (state : Contributions × σ) : (r.runHook s hook isolate).run state =
      ((r.dispatch s hook isolate state).failure.elim (.ok ()) .error,
        (r.dispatch s hook isolate state).state) := by
  change (_, (r.dispatch s hook isolate state).state) = _
  cases (r.dispatch s hook isolate state).failure <;> rfl

/-- Where failures are not isolated, the registry runs the chain of its plugins. -/
theorem runHook_reports (r : PluginRegistry σ) (s : RunStatus) (hook : Hook)
    (state : Contributions × σ) :
    Reports (handlerFailed s hook) ((atHook hook r.plugins s).run state).1
        ((r.runHook s hook false).run state).1 ∧
      ((r.runHook s hook false).run state).2 = ((atHook hook r.plugins s).run state).2 := by
  have hreports := runHandlers_reports s hook (r.handlers hook) state
  rw [snd_handlers] at hreports
  rw [run_runHook]
  exact hreports

/-- The registry lets its plugins adjust settings as `Plugin.configureAll` does. -/
theorem configureFrom_reports (ps : List (Plugin σ)) (settings : Setting) (memory : σ) :
    Reports configureFailed ((configureAll ps settings).run memory).1
        ((configureFrom settings ps).run memory).1 ∧
      ((configureFrom settings ps).run memory).2 = ((configureAll ps settings).run memory).2 := by
  induction ps generalizing settings memory with
  | nil => exact ⟨.ok settings, rfl⟩
  | cons p ps ih =>
    rw [configureFrom, configureAll, run_bind, run_bind]
    have hadapt : ((p.configure settings).adapt (configureFailed p.name)).run memory =
        (((p.configure settings).run memory).1.mapError (configureFailed p.name),
          ((p.configure settings).run memory).2) := rfl
    rw [hadapt]
    -- the plugin fails, or the others go on with its replacement
    rcases (p.configure settings).run memory with ⟨f | replacement, after⟩
    · exact ⟨.failed p.name f, rfl⟩
    · exact ih (replacement.getD settings) after

/-! ## Registration -/

theorem unknownHook?_eq_none_iff {p : Plugin σ} :
    unknownHook? p = none ↔ ∀ key ∈ p.hooks.map Prod.fst, (Hook.ofLabel? key).isSome = true := by
  rw [unknownHook?, Option.map_eq_none_iff, List.find?_eq_none, List.forall_mem_map]
  refine forall₂_congr fun h _ ↦ ?_
  rw [Option.isNone_iff_eq_none, ← Option.not_isSome_iff_eq_none, not_not]

/-- A bundle has the hooks of its members. -/
theorem unknownHook?_composite {name version : String} {ps : List (Plugin σ)}
    (h : ∀ p ∈ ps, unknownHook? p = none) :
    unknownHook? (Plugin.composite name ps version) = none := by
  rw [unknownHook?_eq_none_iff]
  intro key hkey
  have hgathered : key ∈ (Plugin.gather ps).map Prod.fst := by
    change key ∈ ((Plugin.gather ps).map fun e ↦ (e.1, chain e.2)).map Prod.fst at hkey
    rwa [List.map_map] at hkey
  rcases Plugin.mem_of_mem_foldl_addHandler hgathered with hmem | hmem
  · exact absurd hmem List.not_mem_nil
  · obtain ⟨e, he, rfl⟩ := List.mem_map.mp hmem
    obtain ⟨p, hp, he⟩ := List.mem_flatMap.mp he
    exact unknownHook?_eq_none_iff.mp (h p hp) e.1 (List.mem_map_of_mem he)

/-- Plugins with names of their own and with hooks that exist are all registered, in their order. -/
theorem registerAll_eq {r : PluginRegistry σ} {ps : List (Plugin σ)}
    (hnames : ((r.plugins ++ ps).map (·.name)).Nodup) (hhooks : ∀ p ∈ ps, unknownHook? p = none) :
    r.registerAll ps = ({ r with plugins := r.plugins ++ ps }, none) := by
  induction ps generalizing r with
  | nil => rw [registerAll, List.append_nil]
  | cons p ps ih =>
    obtain ⟨hp, hps⟩ := List.forall_mem_cons.mp hhooks
    have hnew : ¬ (r.plugins.any fun q ↦ q.name == p.name) = true := by
      rw [List.any_eq_true]
      rintro ⟨q, hq, hname⟩
      rw [List.map_append, List.nodup_append] at hnames
      exact hnames.2.2 q.name (List.mem_map_of_mem hq) p.name
        (List.mem_map_of_mem List.mem_cons_self) (eq_of_beq hname)
    have hregister : r.register p = .ok { r with plugins := r.plugins ++ [p] } := by
      rw [register, if_neg hnew, hp]
      rfl
    rw [registerAll, hregister]
    rw [← List.singleton_append, ← List.append_assoc] at hnames
    dsimp only
    rw [ih hnames hps, List.append_assoc]
    rfl

end PluginRegistry

end DiagramForge
