import DiagramForge.Proofs.Diagram.Buildable
import DiagramForge.Proofs.Run.Accounts
import DiagramForge.Proofs.Strategy.Dated

/-!
# What a run does not show of its time

Two runs without plugins render the same grammar with the built-in strategies. They have clocks of
their own, disks of their own, and stores that may have kept different templates. Up to the point
where their files are to be written, nothing tells them apart but the time in the diagram:
`Generator.prepare_inStep`.

`RunState.Twin time d e` relates the states of two such runs. It is kept by every step that does not
look at what may differ, and that is every step but two: building the diagram, which records the
time, and rendering it, which has been shown not to show the time.
-/

namespace DiagramForge

open RunStep Template

variable {σ α β : Type} {time : String} {d e : Disk}

/-! ## States of two runs -/

/-- The state of a run at another time, and in another world. -/
def RunState.dated (s : RunState σ) (time : String) (world : World σ) : RunState σ :=
  { s with status := { s.status with diagram := s.status.diagram.map (·.dated time) }, world }

/-- Two states that differ in nothing but the time of their diagram and the world. The fragments of
the diagram do not read the time, and both stores are sound. -/
def RunState.Twin (time : String) (d e : Disk) (s t : RunState σ) : Prop :=
  ∃ world, t = s.dated time world ∧
    (∀ diagram ∈ s.status.diagram, ∀ p ∈ diagram.partials, Timeless p.2) ∧
    BothSound builtinReads s.world.store world.store ∧ s.world.disk = d ∧ world.disk = e

/-- The worlds of two such states. -/
theorem RunState.Twin.worlds {s t : RunState σ} (h : s.Twin time d e t) :
    s.world.disk = d ∧ t.world.disk = e ∧ BothSound builtinReads s.world.store t.world.store := by
  obtain ⟨world, rfl, -, hstores, hdisk, hdisk'⟩ := h
  exact ⟨hdisk, hdisk', hstores⟩

namespace RunStep

/-- A part of a run that goes alike in both runs, with the same value. -/
abbrev Alike (time : String) (d e : Disk) (m m' : RunStep σ α) : Prop :=
  InStep (RunState.Twin time d e) Eq m m'

theorem alike_modify {f : RunState σ → RunState σ}
    (hdated : ∀ s world, f (s.dated time world) = (f s).dated time world)
    (hdiagram : ∀ s, (f s).status.diagram = s.status.diagram)
    (hworld : ∀ s, (f s).world = s.world) :
    Alike time d e (modify f : RunStep σ PUnit) (modify f) := by
  rintro s _ ⟨world, rfl, hpartials, hstores, hdisk, hdisk'⟩
  refine ⟨.ok rfl, world, hdated s world, ?_, ?_, ?_, hdisk'⟩
  · rwa [← hdiagram] at hpartials
  · rwa [← hworld] at hstores
  · rwa [← hworld] at hdisk

theorem alike_record (event : RunEvent) :
    Alike time d e (record event : RunStep σ Unit) (record event) :=
  alike_modify (fun _ _ ↦ rfl) (fun _ ↦ rfl) fun _ ↦ rfl

theorem alike_enter (p : Phase) : Alike time d e (enter p : RunStep σ Unit) (enter p) :=
  InStep.bind_eq (alike_modify (fun _ _ ↦ rfl) (fun _ ↦ rfl) fun _ ↦ rfl) fun _ ↦ alike_record _

theorem alike_warn (warnings : List String) :
    Alike time d e (warn warnings : RunStep σ Unit) (warn warnings) :=
  alike_modify (fun _ _ ↦ rfl) (fun _ ↦ rfl) fun _ ↦ rfl

theorem alike_fail (errors : List Diagnostic) :
    Alike time d e (fail errors : RunStep σ α) (fail errors) :=
  InStep.bind_eq (alike_modify (fun _ _ ↦ rfl) (fun _ ↦ rfl) fun _ ↦ rfl) fun _ ↦
    (alike_enter _).bind_eq fun _ ↦ .throw _

/-- What follows a value may use which value it is. -/
theorem alike_orEscape_bind {r : Except Crash α} {f f' : α → RunStep σ β}
    (hf : ∀ a, r = .ok a → Alike time d e (f a) (f' a)) :
    Alike time d e (orEscape r >>= f) (orEscape r >>= f') := by
  cases r with
  | error c => exact .throw _
  | ok a => exact hf a rfl

end RunStep

/-! ## The generator -/

namespace Generator

/-- The generator for the built-in strategies with the built-in templates, without plugins, at a
time. -/
def builtin (now : String) : Generator σ where
  library := builtinLibrary
  strategies := builtinStrategies.map (·.toStrategy)
  options := { now }

variable {now now' : String}

/-- Without plugins nothing comes of calling them. -/
theorem dispatch_builtin (status : RunStatus) (hook : Hook) (isolate : Bool)
    (state : Contributions × σ) :
    (builtin now : Generator σ).plugins.dispatch status hook isolate state = { state } := rfl

theorem alike_callHook (hook : Hook) :
    Alike time d e ((builtin now : Generator σ).callHook hook)
      ((builtin now' : Generator σ).callHook hook) := by
  refine InStep.get.bind fun s t hst ↦ ?_
  obtain ⟨world, rfl, -⟩ := hst
  refine alike_orEscape_bind fun isolate _ ↦ (alike_record _).bind_eq fun _ ↦
    InStep.get.bind fun s t hst ↦ ?_
  obtain ⟨world, rfl, hst⟩ := hst
  refine (InStep.set ⟨world, rfl, hst⟩).bind_eq fun _ ↦ ?_
  rw [dispatch_builtin, dispatch_builtin]
  cases habort : s.contributions.abortReason with
  | none =>
    simp only [RunState.dated, habort]
    exact .pure rfl
  | some reason =>
    simp only [RunState.dated, habort]
    exact alike_fail _

theorem alike_configurePlugins :
    Alike time d e (builtin now : Generator σ).configurePlugins
      (builtin now' : Generator σ).configurePlugins := by
  refine InStep.get.bind fun s t hst ↦ ?_
  obtain ⟨world, rfl, hst⟩ := hst
  refine (InStep.set ⟨world, rfl, hst⟩).bind_eq fun _ ↦ ?_
  exact InStep.bind_eq (alike_modify (fun _ _ ↦ rfl) (fun _ ↦ rfl) fun _ ↦ rfl) fun _ ↦ .pure rfl

theorem alike_parse (g : Grammar) :
    Alike time d e (parse (.given g) : RunStep σ Grammar) (parse (.given g)) :=
  .pure rfl

/-- A diagram that is built at another time. -/
theorem build_builtin (now now' : String) (g : Grammar) (settings : Setting) :
    Diagram.build (builtin now' : Generator σ).options g settings =
      (·.dated now') <$> Diagram.build (builtin now : Generator σ).options g settings := by
  simp only [Diagram.build, map_bind]
  rfl

theorem partials_of_build {g : Grammar} {settings : Setting} {diagram : Diagram}
    (h : Diagram.build (builtin now : Generator σ).options g settings = .ok diagram) :
    ∀ p ∈ diagram.partials, Timeless p.2 := by
  obtain ⟨-, _, _, _, _, _, _, -, -, -, -, -, -, rfl⟩ := Diagram.build_eq_ok_iff.mp h
  exact timeless_partials

theorem alike_validate (g : Grammar) :
    Alike time d e ((builtin now : Generator σ).validate g)
      ((builtin time : Generator σ).validate g) := by
  refine InStep.bind_eq (alike_modify (fun _ _ ↦ rfl) (fun _ ↦ rfl) fun _ ↦ rfl) fun _ ↦
    (alike_warn _).bind_eq fun _ ↦ ?_
  refine (alike_fail _).guarded (InStep.get.bind fun s t hst ↦ ?_)
  obtain ⟨world, rfl, -⟩ := hst
  have hsettings : (s.dated time world).status.settings = s.status.settings := rfl
  rw [hsettings, build_builtin now time]
  cases hbuild : Diagram.build (builtin now : Generator σ).options g s.status.settings with
  | error fault =>
    cases fault with
    | structural fault => exact alike_fail _
    | crash c => exact .throw _
  | ok diagram =>
    -- the diagrams differ in their time from here on
    rintro s _ ⟨world, rfl, -, hworlds⟩
    refine ⟨.ok rfl, world, rfl, fun diagram' hdiagram' ↦ ?_, hworlds⟩
    obtain rfl : diagram = diagram' := Option.some.inj hdiagram'
    exact partials_of_build hbuild

/-! ## Rendering -/

theorem run_runStrategy (gen : Generator σ) (strategy : Strategy) (diagram : Diagram)
    (s : RunState σ) : (gen.runStrategy strategy diagram).run s =
      (.ok (gen.resultOf strategy s.world.disk
          { diagram with extras := s.contributions.extras } s.world.store),
        { s with
          journal := s.journal ++ [.rendered strategy.name]
          world := { s.world with store := ((strategy.render gen.library s.world.disk
            { diagram with extras := s.contributions.extras }).run s.world.store).2 } }) :=
  (gen.leadsTo_runStrategy.mpr ⟨rfl, rfl⟩).run_eq

/-- A strategy comes to the same result in both runs. -/
theorem alike_runStrategy {strategy : TemplateStrategy} (hstrategy : strategy ∈ builtinStrategies)
    {diagram : Diagram} (hpartials : ∀ p ∈ diagram.partials, Timeless p.2) :
    Alike time d e ((builtin now : Generator σ).runStrategy strategy.toStrategy diagram)
      ((builtin now' : Generator σ).runStrategy strategy.toStrategy (diagram.dated time)) := by
  rintro s _ ⟨world, rfl, hdiagram, hstores, hdisk, hdisk'⟩
  obtain ⟨hresult, hstores'⟩ := @TemplateStrategy.render_inStep strategy
    { diagram with extras := s.contributions.extras } hstrategy hpartials s.world.disk world.disk
    time s.world.store world.store hstores
  rw [run_runStrategy, run_runStrategy]
  refine ⟨.ok ?_, _, rfl, hdiagram, hstores', hdisk, hdisk'⟩
  exact resultOf_congr (sameOutcome_eq_iff.mp hresult)

theorem alike_addResult (result : StrategyResult) :
    Alike time d e (addResult result : RunStep σ Unit) (addResult result) :=
  InStep.bind_eq (alike_modify (fun _ _ ↦ rfl) (fun _ ↦ rfl) fun _ ↦ rfl) fun _ ↦
    InStep.bind_eq (alike_modify (fun _ _ ↦ rfl) (fun _ ↦ rfl) fun _ ↦ rfl) fun _ ↦ alike_warn _

theorem alike_runStrategies (failFast : Bool) {diagram : Diagram}
    (hpartials : ∀ p ∈ diagram.partials, Timeless p.2) {strategies : List TemplateStrategy}
    (hstrategies : strategies ⊆ builtinStrategies) :
    Alike time d e
      ((builtin now : Generator σ).runStrategies failFast diagram (strategies.map (·.toStrategy)))
      ((builtin now' : Generator σ).runStrategies failFast (diagram.dated time)
        (strategies.map (·.toStrategy))) := by
  induction strategies with
  | nil => exact .pure rfl
  | cons strategy more ih =>
    rw [List.cons_subset] at hstrategies
    refine (alike_runStrategy hstrategies.1 hpartials).bind_eq fun result ↦
      (alike_addResult result).bind_eq fun _ ↦ ?_
    exact InStep.ite (.pure rfl) ((ih hstrategies.2).bind_eq fun _ ↦ .pure rfl)

theorem alike_render :
    Alike time d e (builtin now : Generator σ).render (builtin now' : Generator σ).render := by
  refine InStep.get.bind fun s t hst ↦ ?_
  obtain ⟨world, rfl, hpartials, -⟩ := hst
  cases hdiagram : s.status.diagram with
  | none =>
    simp only [RunState.dated, hdiagram]
    exact .pure rfl
  | some diagram =>
    simp only [RunState.dated, hdiagram]
    refine alike_orEscape_bind fun generation _ ↦ alike_orEscape_bind fun targets _ ↦
      alike_orEscape_bind fun failFast _ ↦ alike_orEscape_bind fun _ hfiltered ↦ ?_
    -- the strategies that are wanted are some of the built-in ones
    obtain ⟨wanted, hwanted, rfl⟩ := List.sublist_map_iff.mp (Outcome.sublist_of_filterM hfiltered)
    refine (alike_runStrategies _ (hpartials diagram hdiagram) hwanted.subset).bind_eq fun lost ↦
      InStep.get.bind fun s t hst ↦ ?_
    obtain ⟨world, rfl, -⟩ := hst
    exact InStep.ite (alike_fail _) (.pure rfl)

/-! ## Output -/

theorem alike_collect :
    Alike time d e (collect : RunStep σ (List OutputFile)) collect := by
  refine InStep.bind_eq (alike_modify (fun _ _ ↦ rfl) (fun _ ↦ rfl) fun _ ↦ rfl) fun _ ↦
    InStep.get.bind fun s t hst ↦ ?_
  obtain ⟨world, rfl, hst⟩ := hst
  have hfiles : allFiles (s.dated time world).status (s.dated time world).contributions =
      allFiles s.status s.contributions := rfl
  dsimp only
  rw [hfiles]
  cases conflicts (allFiles s.status s.contributions) with
  | nil => exact (InStep.set ⟨world, rfl, hst⟩).bind_eq fun _ ↦ .pure rfl
  | cons conflict more => exact alike_fail _

/-! ## Up to writing -/

/-- A run up to the point where its files are to be written. -/
def prepare (gen : Generator σ) (source : GrammarSource) : RunStep σ (List OutputFile) := do
  gen.configurePlugins
  enter .parsing
  noteSource source
  gen.callHook .beforeGenerate
  let g ← parse source
  setStatus fun status ↦ { status with grammar := some g }
  gen.callHook .afterParse
  enter .validating
  gen.validate g
  gen.callHook .afterValidation
  enter .rendering
  gen.callHook .beforeTemplateRender
  gen.render
  gen.callHook .afterTemplateRender
  let files ← collect
  enter .writing
  return files

/-- The rest of a run. -/
def finish (gen : Generator σ) (output : OutputTarget) (files : List OutputFile) :
    RunStep σ Unit := do
  writeAll output files
  gen.callHook .afterGenerate
  enter .done

theorem execute_eq_prepare (gen : Generator σ) (source : GrammarSource) (output : OutputTarget) :
    gen.execute source output = gen.prepare source >>= gen.finish output := by
  rw [execute_eq]
  simp only [prepare, finish, bind_assoc, pure_bind]

/-- **The time does not show in a run before its files are written.** Two runs without plugins come
to the same files, or stop for the same reason. -/
theorem prepare_inStep (g : Grammar) :
    Alike time d e ((builtin now : Generator σ).prepare (.given g))
      ((builtin time : Generator σ).prepare (.given g)) := by
  refine alike_configurePlugins.bind_eq fun _ ↦ (alike_enter _).bind_eq fun _ ↦ ?_
  refine InStep.bind_eq (.pure rfl) fun _ ↦ (alike_callHook _).bind_eq fun _ ↦ ?_
  refine (alike_parse g).bind_eq fun g ↦
    InStep.bind_eq (alike_modify (fun _ _ ↦ rfl) (fun _ ↦ rfl) fun _ ↦ rfl) fun _ ↦ ?_
  refine (alike_callHook _).bind_eq fun _ ↦ (alike_enter _).bind_eq fun _ ↦ ?_
  refine (alike_validate g).bind_eq fun _ ↦ (alike_callHook _).bind_eq fun _ ↦ ?_
  refine (alike_enter _).bind_eq fun _ ↦ (alike_callHook _).bind_eq fun _ ↦ ?_
  refine alike_render.bind_eq fun _ ↦ (alike_callHook _).bind_eq fun _ ↦ ?_
  exact alike_collect.bind_eq fun _ ↦ (alike_enter _).bind_eq fun _ ↦ .pure rfl

/-- The state that a run starts in. -/
def start (config : Config) (world : World σ) : RunState σ :=
  { status := { settings := config.settings }, world }

/-- Runs with one configuration start alike. -/
theorem start_twin (time : String) (config : Config) {world world' : World σ}
    (hstores : BothSound builtinReads world.store world'.store) :
    (start config world).Twin time world.disk world'.disk (start config world') :=
  ⟨world', rfl, by simp [start], hstores, rfl, rfl⟩

/-- The files that a run comes to, or why it stops before it has any. -/
def prepared (now : String) (g : Grammar) (config : Config) (world : World σ) :
    Except RunStop (List OutputFile) :=
  (((builtin now : Generator σ).prepare (.given g)).run (start config world)).1

theorem prepared_eq (now now' : String) (g : Grammar) (config : Config) {world world' : World σ}
    (hstores : BothSound builtinReads world.store world'.store) :
    prepared now' g config world' = prepared now g config world := by
  obtain ⟨hresult, -⟩ := @prepare_inStep σ now' _ _ now g _ _ (start_twin now' config hstores)
  exact (sameOutcome_eq_iff.mp hresult).symm

/-- The files that a run has prepared are settled. -/
theorem leadsTo_prepare_settled (gen : Generator σ) (source : GrammarSource) (s : RunState σ) :
    LeadsTo (gen.prepare source) s (fun files t ↦ t.settled = some files) fun _ _ ↦ True := by
  -- only the end of it matters
  have hlast : ∀ {γ : Type} {m : RunStep σ γ} {f : γ → RunStep σ (List OutputFile)}
      {s : RunState σ}, (∀ a t, LeadsTo (f a) t (fun files t ↦ t.settled = some files) fun _ _ ↦ True) →
      LeadsTo (m >>= f) s (fun files t ↦ t.settled = some files) fun _ _ ↦ True := by
    intro γ m f s hf
    have hany : LeadsTo m s (fun _ _ ↦ True) fun _ _ ↦ True := by
      rw [LeadsTo]
      split
      · trivial
      · trivial
    rw [leadsTo_bind]
    exact hany.mono (fun a t _ ↦ hf a t) fun _ _ h ↦ h
  rw [prepare]
  iterate 14 refine hlast fun _ s ↦ ?_
  rw [leadsTo_bind, leadsTo_collect_iff]
  exact ⟨fun _ ↦ rfl, fun _ ↦ trivial⟩

end Generator

end DiagramForge
