import DiagramForge.Proofs.Run.Conflict
import DiagramForge.Proofs.Run.Dated
import DiagramForge.Proofs.Strategy.Paths

/-!
# Runs that nothing disturbs

A run without plugins whose grammar is valid, whose strategies all come to a result and whose files
have different paths gets to the point where its files are to be written. These are the files of its
strategies, in the order of the strategies: `Generator.prepared_eq_ok`.

`RunState.Plain` is what is known of the states on the way. There is one lemma about it for each
part of a run, from any state that is plain to another one.
-/

namespace DiagramForge

open RunStep Template Outcome

variable {σ : Type}

/-- A state of a run without plugins that goes well. Its diagram and its files are those that it has
come to so far. -/
structure RunState.Plain (config : Config) (disk : Disk) (diagram : Option Diagram)
    (files : List OutputFile) (s : RunState σ) : Prop where
  /-- The settings are those of the configuration. -/
  settings : s.status.settings = config.settings
  /-- The diagram, once it is built. -/
  diagram : s.status.diagram = diagram
  /-- The files that have been rendered. -/
  files : s.status.files = files
  /-- No plugin has added a value. -/
  extras : s.contributions.extras = []
  /-- No plugin has added a file. -/
  added : s.contributions.files = []
  /-- No plugin has ended the run. -/
  going : s.contributions.abortReason = none
  /-- The disk is as it was. -/
  disk : s.world.disk = disk
  /-- What the store has kept can be relied on. -/
  store : s.world.store.Sound builtinReads

namespace Generator

variable {now : String} {config : Config} {disk : Disk} {diagram : Option Diagram} {d : Diagram}
  {files : List OutputFile} {strategies : List TemplateStrategy} {results : List StrategyResult}
  {s : RunState σ}

theorem plain_enter (p : Phase) (h : s.Plain config disk diagram files) :
    LeadsTo (enter p) s (fun _ t ↦ t.Plain config disk diagram files) fun _ _ ↦ False := by
  rw [leadsTo_enter]
  exact { h with }

theorem plain_callHook (hook : Hook) (h : s.Plain config disk diagram files) :
    LeadsTo ((builtin now).callHook hook) s (fun _ t ↦ t.Plain config disk diagram files)
      fun _ _ ↦ False := by
  rw [callHook, leadsTo_bind, leadsTo_get, leadsTo_bind, leadsTo_orEscape, h.settings]
  refine ⟨fun isolate _ ↦ ?_, fun c hc ↦ by cases hc⟩
  rw [leadsTo_bind, leadsTo_record, leadsTo_bind, leadsTo_get]
  dsimp only
  rw [dispatch_builtin, leadsTo_bind, leadsTo_set]
  dsimp only
  rw [h.going]
  exact { h with }

theorem plain_validate {g : Grammar} (hvalid : g.validate.ok = true)
    (hbuild : Diagram.build (builtin now : Generator σ).options g config.settings = .ok d)
    (h : s.Plain config disk diagram files) :
    LeadsTo ((builtin now).validate g) s (fun _ t ↦ t.Plain config disk (some d) files)
      fun _ _ ↦ False := by
  rw [validate, leadsTo_bind, leadsTo_setStatus, leadsTo_bind, leadsTo_warn, hvalid,
    if_neg (by decide), leadsTo_bind, leadsTo_get]
  dsimp only
  rw [h.settings, hbuild]
  exact { h with settings := rfl, diagram := rfl }

/-! ## Rendering -/

/-- What strategies come to, none of which gives up. -/
def ComeTo (disk : Disk) (d : Diagram) :
    List TemplateStrategy → List StrategyResult → Prop :=
  List.Forall₂ fun strategy r ↦ r.aborted = false ∧
    ComesTo (TemplateStore.Sound builtinReads)
      (strategy.render builtinLibrary disk { d with extras := [] }) (.ok r)

theorem plain_runStrategy {strategy : TemplateStrategy} {r : StrategyResult}
    (hr : ComesTo (TemplateStore.Sound builtinReads)
      (strategy.render builtinLibrary disk { d with extras := [] }) (.ok r))
    (h : s.Plain config disk diagram files) :
    LeadsTo ((builtin now).runStrategy strategy.toStrategy d) s
      (fun result t ↦ result = r ∧ t.Plain config disk diagram files) fun _ _ ↦ False := by
  obtain ⟨hrender, hstore⟩ := hr s.world.store h.store
  rw [leadsTo_runStrategy, h.extras, h.disk]
  exact ⟨resultOf_of_ok hrender, { h with store := hstore }⟩

theorem plain_addResult (r : StrategyResult) (h : s.Plain config disk diagram files) :
    LeadsTo (addResult r) s (fun _ t ↦ t.Plain config disk diagram (files ++ r.files))
      fun _ _ ↦ False := by
  rw [addResult, leadsTo_bind, leadsTo_modify, leadsTo_bind, leadsTo_setStatus, leadsTo_warn]
  exact { h with files := congrArg (· ++ r.files) h.files }

theorem plain_runStrategies (hresults : ComeTo disk d strategies results)
    (h : s.Plain config disk diagram files) :
    LeadsTo ((builtin now).runStrategies false d (strategies.map (·.toStrategy))) s
      (fun lost t ↦ lost = [] ∧
        t.Plain config disk diagram (files ++ results.flatMap (·.files))) fun _ _ ↦ False := by
  induction hresults generalizing s files with
  | nil =>
    rw [List.flatMap_nil, List.append_nil]
    exact ⟨rfl, h⟩
  | @cons strategy r strategies results hr _ ih =>
    obtain ⟨haborted, hr⟩ := hr
    rw [List.map_cons, runStrategies, leadsTo_bind]
    refine (plain_runStrategy hr h).mono (fun result s h ↦ ?_) fun _ _ h ↦ h
    obtain ⟨rfl, h⟩ := h
    rw [leadsTo_bind]
    refine (plain_addResult result h).mono (fun _ s h ↦ ?_) fun _ _ h ↦ h
    rw [haborted, Bool.false_and, if_neg Bool.false_ne_true, if_neg Bool.false_ne_true,
      leadsTo_bind, List.flatMap_cons, ← List.append_assoc]
    exact ih h

theorem plain_render (hfast : config.generation.failFast = false)
    (hwanted : (builtin now : Generator σ).strategies.filterM
      (isTargeted (.texts config.generation.targets)) = .ok (strategies.map (·.toStrategy)))
    (hresults : ComeTo disk d strategies results) (h : s.Plain config disk (some d) files) :
    LeadsTo (builtin now).render s
      (fun _ t ↦ t.Plain config disk (some d) (files ++ results.flatMap (·.files)))
      fun _ _ ↦ False := by
  have hread : ∀ {α β : Type} {m : Except Crash α} {a : α} {f : α → RunStep σ β}
      {Q : β → RunState σ → Prop}, m = .ok a → LeadsTo (f a) s Q (fun _ _ ↦ False) →
      LeadsTo (orEscape m >>= f) s Q fun _ _ ↦ False := by
    rintro α β m a f Q rfl hf
    rw [leadsTo_bind]
    exact hf
  rw [render, leadsTo_bind, leadsTo_get, h.diagram]
  dsimp only
  rw [h.settings]
  refine hread rfl (hread rfl (hread rfl (hread hwanted ?_)))
  change LeadsTo ((builtin now).runStrategies config.generation.failFast d _ >>= _) s _ _
  rw [hfast, leadsTo_bind]
  refine (plain_runStrategies hresults h).mono (fun lost s h ↦ ?_) fun _ _ h ↦ h
  obtain ⟨rfl, h⟩ := h
  rw [leadsTo_bind, leadsTo_get]
  have hfailFast : (Setting.bool false).isTrue = false := rfl
  rw [if_neg (by simp [hfailFast]), leadsTo_pure]
  exact h

/-! ## Up to writing -/

/-- **What a run comes to that nothing disturbs.** If the grammar is valid and has a diagram, and
all strategies that are wanted come to results that together have different paths, then the run
comes to their files. -/
theorem prepared_eq_ok {g : Grammar} {world : World σ} (hvalid : g.validate.ok = true)
    (hbuild : Diagram.build (builtin now : Generator σ).options g config.settings = .ok d)
    (hfast : config.generation.failFast = false)
    (hwanted : (builtin now : Generator σ).strategies.filterM
      (isTargeted (.texts config.generation.targets)) = .ok (strategies.map (·.toStrategy)))
    (hresults : ComeTo world.disk d strategies results)
    (hdistinct : (pathTexts (results.flatMap (·.files))).Nodup)
    (hstore : world.store.Sound builtinReads) :
    prepared now g config world = .ok (results.flatMap (·.files)) := by
  have hno : ∀ (stop : RunStop) (t : RunState σ), False → False := fun _ _ ↦ id
  have hprepare : LeadsTo ((builtin now).prepare (.given g)) (start config world)
      (fun files _ ↦ files = results.flatMap (·.files)) fun _ _ ↦ False := by
    have hstart : (start config world).Plain config world.disk none [] :=
      ⟨rfl, rfl, rfl, rfl, rfl, rfl, rfl, hstore⟩
    rw [prepare, leadsTo_bind]
    change LeadsTo (enter .parsing >>= _) (start config world) _ _
    rw [leadsTo_bind]
    refine (plain_enter _ hstart).mono (fun _ s h ↦ ?_) hno
    rw [leadsTo_bind, noteSource, leadsTo_pure, leadsTo_bind]
    refine (plain_callHook _ h).mono (fun _ s h ↦ ?_) hno
    rw [leadsTo_bind, parse, leadsTo_pure, leadsTo_bind, leadsTo_setStatus, leadsTo_bind]
    have h : RunState.Plain config world.disk none []
      { s with status := { s.status with grammar := some g } } := { h with }
    refine (plain_callHook _ h).mono (fun _ s h ↦ ?_) hno
    rw [leadsTo_bind]
    refine (plain_enter _ h).mono (fun _ s h ↦ ?_) hno
    rw [leadsTo_bind]
    refine (plain_validate hvalid hbuild h).mono (fun _ s h ↦ ?_) hno
    rw [leadsTo_bind]
    refine (plain_callHook _ h).mono (fun _ s h ↦ ?_) hno
    rw [leadsTo_bind]
    refine (plain_enter _ h).mono (fun _ s h ↦ ?_) hno
    rw [leadsTo_bind]
    refine (plain_callHook _ h).mono (fun _ s h ↦ ?_) hno
    rw [leadsTo_bind]
    refine (plain_render hfast hwanted hresults h).mono (fun _ s h ↦ ?_) hno
    rw [leadsTo_bind]
    refine (plain_callHook _ h).mono (fun _ s h ↦ ?_) hno
    have hfiles : allFiles s.status s.contributions = results.flatMap (·.files) := by
      rw [allFiles, h.files, h.added, List.append_nil, List.nil_append]
    rw [leadsTo_bind, leadsTo_collect_iff, hfiles]
    exact ⟨fun _ ↦ rfl, fun hconflicts ↦ hconflicts (conflicts_eq_nil_iff.mpr hdistinct)⟩
  rw [LeadsTo] at hprepare
  rw [prepared]
  generalize ((builtin now : Generator σ).prepare (.given g)).run (start config world) = p at *
  obtain ⟨_ | files, s⟩ := p
  · exact hprepare.elim
  · exact congrArg Except.ok hprepare

end Generator

end DiagramForge
