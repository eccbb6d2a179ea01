import DiagramForge.Proofs.Diagram.TypeIds
import DiagramForge.Proofs.Run.Accounts
import DiagramForge.Proofs.Strategy.DistinctPaths
import Mathlib.Data.List.Flatten

/-!
# Runs whose files never conflict

The files that the strategies of a run have rendered are a part of its `RunDraft`. Only rendering
adds to them, and whatever it comes to, their paths are among those that the strategies list for the
diagram of the run: `RunDraft.Listed`. For the built-in strategies this list has no repetitions if
the interfaces are named as types are. So as long as the plugins add no files, collecting them never
ends a run: `Generator.run_builtin_distinct`.

## Keeping the draft

Nearly every part of a run leaves the draft alone, whether it stops the run or not, which is
`RunStep.KeepsDraft`. Up to the grammar the disk is followed as well, because a grammar may be read
from it.
-/

namespace DiagramForge

open RunStep Template

variable {σ α β : Type}

/-! ## Drafts -/

/-- The grammars that a source can give. -/
def GrammarSource.Gives (disk : Disk) : GrammarSource → Grammar → Prop
  | .given g, g' => g' = g
  | .file path, g' => Grammar.load disk path = .ok g'

/-- What has come of a grammar so far. -/
structure RunDraft where
  /-- Its diagram, once there is one. -/
  diagram : Option Diagram
  /-- The files that have been rendered. -/
  files : List OutputFile

/-- The draft of a state. -/
def RunState.draft (s : RunState σ) : RunDraft where
  diagram := s.status.diagram
  files := s.status.files

/-- Strategies can have rendered the files from a diagram of a grammar that the source gives. -/
def RunDraft.Listed (gen : Generator σ) (source : GrammarSource) (disk : Disk)
    (strategies : List TemplateStrategy) (r : RunDraft) : Prop :=
  r.files = [] ∨ ∃ g settings d, source.Gives disk g ∧ g.validate.ok = true ∧
    Diagram.build gen.options g settings = .ok d ∧
    (pathTexts r.files).Subperm (strategies.flatMap (·.paths d))

/-! ## Parts of a run that keep the draft -/

namespace RunStep

/-- A part of a run that keeps the draft, whether it stops the run or not. -/
def KeepsDraft (m : RunStep σ α) : Prop :=
  ∀ s, LeadsTo m s (fun _ t ↦ t.draft = s.draft) (fun _ t ↦ t.draft = s.draft)

theorem keepsDraft_pure (a : α) : KeepsDraft (pure a : RunStep σ α) := fun _ ↦ rfl

theorem keepsDraft_fail (errors : List Diagnostic) : KeepsDraft (fail errors : RunStep σ α) :=
  fun s ↦ (leadsTo_fail (s := s) errors).mpr rfl

theorem keepsDraft_throw (stop : RunStop) : KeepsDraft (throw stop : RunStep σ α) :=
  fun _ ↦ rfl

theorem keepsDraft_setStatus {f : RunStatus → RunStatus}
    (hf : ∀ s : RunState σ, RunState.draft { s with status := f s.status } = s.draft := by
      exact fun _ ↦ rfl) : KeepsDraft (setStatus f : RunStep σ Unit) := hf

/-- What comes after a part that keeps the draft. -/
theorem KeepsDraft.andThen {m : RunStep σ α} {f : α → RunStep σ β} {s : RunState σ}
    {Q : β → RunState σ → Prop} {E : RunStop → RunState σ → Prop} {r : RunDraft}
    (hm : KeepsDraft m) (hs : s.draft = r) (hE : ∀ stop t, t.draft = r → E stop t)
    (hf : ∀ a t, t.draft = r → LeadsTo (f a) t Q E) : LeadsTo (m >>= f) s Q E := by
  subst hs
  rw [leadsTo_bind]
  exact (hm s).mono hf hE

/-- What comes after a part that keeps the outline too, and with it the disk. -/
theorem KeepsDraft.andThenRead {m : RunStep σ α} {f : α → RunStep σ β} {s : RunState σ}
    {Q : β → RunState σ → Prop} {E : RunStop → RunState σ → Prop} {r : RunDraft} {disk : Disk}
    (hm : KeepsDraft m) (houtline : Keeps m) (hs : s.draft = r) (hdisk : s.world.disk = disk)
    (hE : ∀ stop t, t.draft = r → E stop t)
    (hf : ∀ a t, t.draft = r → t.world.disk = disk → LeadsTo (f a) t Q E) :
    LeadsTo (m >>= f) s Q E := by
  rw [leadsTo_bind]
  refine ((hm s).and (houtline s)).mono (fun a t ⟨ht, hkept⟩ ↦ ?_)
    fun stop t ⟨ht, _⟩ ↦ hE stop t (ht.trans hs)
  exact hf a t (ht.trans hs) ((congrArg RunOutline.disk hkept).trans hdisk)

theorem KeepsDraft.bind {m : RunStep σ α} {f : α → RunStep σ β} (hm : KeepsDraft m)
    (hf : ∀ a, KeepsDraft (f a)) : KeepsDraft (m >>= f) := fun _ ↦
  hm.andThen rfl (fun _ _ h ↦ h) fun a t ht ↦ ht ▸ hf a t

/-- The state may be read, and replaced by one with the same draft. -/
theorem keepsDraft_get_set {t : RunState σ → RunState σ} {f : RunState σ → RunStep σ β}
    (ht : ∀ s, (t s).draft = s.draft) (hf : ∀ s, KeepsDraft (f s)) :
    KeepsDraft (get >>= fun s ↦ set (t s) >>= fun _ ↦ f s) := by
  intro s
  rw [leadsTo_bind, leadsTo_get, leadsTo_bind, leadsTo_set, ← ht s]
  exact hf s (t s)

end RunStep

namespace Generator

variable (gen : Generator σ)

theorem keepsDraft_enter (p : Phase) : KeepsDraft (enter p : RunStep σ Unit) := fun _ ↦ rfl

theorem keepsDraft_callHook (hook : Hook) : KeepsDraft (gen.callHook hook) := by
  intro s
  rw [callHook, leadsTo_bind, leadsTo_get, leadsTo_bind, leadsTo_orEscape]
  refine ⟨fun isolate _ ↦ ?_, fun _ _ ↦ rfl⟩
  rw [leadsTo_bind, leadsTo_record, leadsTo_bind, leadsTo_get, leadsTo_bind, leadsTo_set]
  split
  · exact (leadsTo_fail _).mpr rfl
  · exact (leadsTo_fail _).mpr rfl
  · rfl

theorem keepsDraft_configurePlugins : KeepsDraft gen.configurePlugins := by
  refine keepsDraft_get_set (fun _ ↦ rfl) fun s ↦ ?_
  split
  · exact keepsDraft_fail _
  · refine KeepsDraft.bind keepsDraft_setStatus fun _ ↦ ?_
    split
    · exact keepsDraft_pure _
    · exact keepsDraft_fail _

theorem keepsDraft_noteSource (source : GrammarSource) :
    KeepsDraft (noteSource source : RunStep σ Unit) := by
  cases source with
  | given g => exact keepsDraft_pure _
  | file path =>
    rw [noteSource]
    exact keepsDraft_setStatus

theorem keepsDraft_collect : KeepsDraft (collect : RunStep σ (List OutputFile)) := by
  intro s
  exact leadsTo_collect_iff.mpr ⟨fun _ ↦ rfl, fun _ ↦ rfl⟩

theorem keepsDraft_write (root : Path) (files : List OutputFile) :
    KeepsDraft (write root files : RunStep σ Unit) := by
  induction files with
  | nil => exact keepsDraft_pure _
  | cons f files ih =>
    have hrecord : KeepsDraft (record (.wrote f.path) : RunStep σ Unit) := fun _ ↦ rfl
    refine hrecord.bind fun _ ↦ keepsDraft_get_set (fun _ ↦ rfl) fun s ↦ ?_
    split
    · exact KeepsDraft.bind keepsDraft_setStatus fun _ ↦ ih
    · exact keepsDraft_fail _
    · exact keepsDraft_throw _

theorem keepsDraft_writeAll (output : OutputTarget) (files : List OutputFile) :
    KeepsDraft (writeAll output files : RunStep σ Unit) := by
  rw [writeAll]
  split
  · exact keepsDraft_write _ _
  · exact keepsDraft_pure _

/-! ## The parts that change it -/

theorem leadsTo_parse_gives (source : GrammarSource) (s : RunState σ) :
    LeadsTo (parse source) s (fun g t ↦ source.Gives s.world.disk g ∧ t.draft = s.draft)
      (fun _ t ↦ t.draft = s.draft) := by
  cases source with
  | given g => exact ⟨rfl, rfl⟩
  | file path =>
    rw [parse, leadsTo_bind, leadsTo_get]
    split
    next g hload => exact ⟨hload, rfl⟩
    all_goals rfl

/-- Validation adds the diagram of the grammar. -/
theorem leadsTo_validate_draft (g : Grammar) (s : RunState σ) :
    LeadsTo (gen.validate g) s
      (fun _ t ↦ g.validate.ok = true ∧ ∃ d, Diagram.build gen.options g s.status.settings = .ok d ∧
        t.draft = { s.draft with diagram := some d })
      (fun _ t ↦ t.draft = s.draft) := by
  rw [validate, leadsTo_bind, leadsTo_setStatus, leadsTo_bind, leadsTo_warn]
  split
  · rw [leadsTo_bind, leadsTo_fail]
    rfl
  next hok =>
    rw [leadsTo_bind, leadsTo_get]
    split
    · exact (leadsTo_fail _).mpr rfl
    · exact (leadsTo_throw _).mpr rfl
    next d hbuild =>
      rw [Bool.not_eq_true', Bool.not_eq_false] at hok
      exact (leadsTo_setStatus _).mpr ⟨hok, d, hbuild, rfl⟩

/-- A strategy that breaks has no files, and any other has those it lists. -/
theorem subperm_resultOf (strategy : TemplateStrategy) (disk : Disk) (d : Diagram)
    (store : TemplateStore) :
    (pathTexts (gen.resultOf strategy.toStrategy disk d store).files).Subperm
      (strategy.paths d) := by
  rw [resultOf]
  split
  next r hr => exact strategy.yields_render store r hr
  next => exact List.nil_subperm

theorem leadsTo_runStrategies_draft (failFast : Bool) (d : Diagram)
    (strategies : List TemplateStrategy) (s : RunState σ) :
    LeadsTo (gen.runStrategies failFast d (strategies.map (·.toStrategy))) s
      (fun _ t ↦ ∃ fs, t.draft = { s.draft with files := s.draft.files ++ fs } ∧
        (pathTexts fs).Subperm (strategies.flatMap (·.paths d)))
      (fun _ _ ↦ False) := by
  induction strategies generalizing s with
  | nil =>
    rw [List.map_nil, runStrategies, leadsTo_pure]
    refine ⟨[], ?_, List.nil_subperm⟩
    rw [List.append_nil]
  | cons strategy more ih =>
    rw [List.map_cons, runStrategies, leadsTo_bind, leadsTo_runStrategy, leadsTo_bind, addResult,
      leadsTo_bind, leadsTo_modify, leadsTo_bind, leadsTo_setStatus, leadsTo_warn]
    have hresult := gen.subperm_resultOf strategy s.world.disk
      { d with extras := s.contributions.extras } s.world.store
    dsimp only
    generalize gen.resultOf strategy.toStrategy s.world.disk
      { d with extras := s.contributions.extras } s.world.store = result at hresult ⊢
    split
    · rw [leadsTo_pure]
      exact ⟨result.files, rfl, hresult.trans (List.sublist_append_left _ _).subperm⟩
    · rw [leadsTo_bind]
      refine (ih _).mono ?_ fun _ _ h ↦ h
      rintro _ t ⟨fs, ht, hfs⟩
      refine ⟨result.files ++ fs, ?_, ?_⟩
      · rw [ht]
        exact congrArg (RunDraft.mk _) (List.append_assoc _ _ _)
      · rw [pathTexts, List.map_append]
        exact ((List.subperm_append_right _).mpr hresult).trans
          ((List.subperm_append_left _).mpr hfs)

variable {gen} {source : GrammarSource} {disk : Disk} {strategies : List TemplateStrategy}

/-- The strategies that are wanted are some of those there are. -/
theorem leadsTo_render_listed (hstrategies : gen.strategies = strategies.map (·.toStrategy))
    {s : RunState σ} {g : Grammar} {settings : Setting} {d : Diagram} (hgives : source.Gives disk g)
    (hvalid : g.validate.ok = true) (hbuild : Diagram.build gen.options g settings = .ok d)
    (hs : s.draft = ⟨some d, []⟩) :
    LeadsTo gen.render s (fun _ t ↦ t.draft.Listed gen source disk strategies)
      (fun _ t ↦ t.draft.Listed gen source disk strategies) := by
  have hnone : s.draft.Listed gen source disk strategies := .inl (congrArg RunDraft.files hs)
  have hdiagram : s.status.diagram = some d := congrArg RunDraft.diagram hs
  have hescape : ∀ {γ : Type} {m : Except Crash γ} {f : γ → RunStep σ Unit},
      (∀ a, m = .ok a → LeadsTo (f a) s
        (fun _ t ↦ t.draft.Listed gen source disk strategies)
        fun _ t ↦ t.draft.Listed gen source disk strategies) →
      LeadsTo (orEscape m >>= f) s (fun _ t ↦ t.draft.Listed gen source disk strategies)
        fun _ t ↦ t.draft.Listed gen source disk strategies := by
    intro γ m f hf
    rw [leadsTo_bind, leadsTo_orEscape]
    exact ⟨hf, fun _ _ ↦ hnone⟩
  rw [render, leadsTo_bind, leadsTo_get, hdiagram]
  refine hescape fun generation _ ↦ hescape fun targets _ ↦ hescape fun failFast _ ↦
    hescape fun _ hfiltered ↦ ?_
  have hsublist := Outcome.sublist_of_filterM hfiltered
  rw [hstrategies] at hsublist
  obtain ⟨wanted, hwanted, rfl⟩ := List.sublist_map_iff.mp hsublist
  rw [leadsTo_bind]
  refine (gen.leadsTo_runStrategies_draft failFast.isTrue d wanted s).mono ?_
    fun _ _ ↦ False.elim
  rintro lost t ⟨fs, ht, hfs⟩
  have hrendered : t.draft.Listed gen source disk strategies := by
    rw [ht, hs]
    exact .inr ⟨g, settings, d, hgives, hvalid, hbuild, hfs.trans (hwanted.flatMap _).subperm⟩
  rw [leadsTo_bind, leadsTo_get]
  split
  · exact (leadsTo_fail _).mpr hrendered
  · exact hrendered

/-! ## Runs -/

theorem leadsTo_execute_listed (hstrategies : gen.strategies = strategies.map (·.toStrategy))
    (output : OutputTarget) {s : RunState σ} (hs : s.draft = ⟨none, []⟩)
    (hdisk : s.world.disk = disk) :
    LeadsTo (gen.execute source output) s
      (fun _ t ↦ t.draft.Listed gen source disk strategies)
      (fun _ t ↦ t.draft.Listed gen source disk strategies) := by
  -- up to rendering there are no files, and from then on the draft is kept
  have hnone : ∀ {diagram : Option Diagram} (_ : RunStop) (t : RunState σ),
      t.draft = ⟨diagram, []⟩ → t.draft.Listed gen source disk strategies :=
    fun _ _ ht ↦ .inl (congrArg RunDraft.files ht)
  have hkept : ∀ {r : RunDraft}, r.Listed gen source disk strategies → ∀ (_ : RunStop)
      (t : RunState σ), t.draft = r → t.draft.Listed gen source disk strategies :=
    fun hr _ _ ht ↦ ht ▸ hr
  rw [execute_eq]
  refine gen.keepsDraft_configurePlugins.andThenRead gen.keeps_configurePlugins hs hdisk hnone
    fun _ s hs hdisk ↦ ?_
  rw [leadsTo_bind, leadsTo_enter]
  refine (keepsDraft_noteSource source).andThenRead (keeps_noteSource source) hs hdisk hnone
    fun _ s hs hdisk ↦ ?_
  refine (gen.keepsDraft_callHook _).andThenRead (gen.keeps_callHook _) hs hdisk hnone
    fun _ s hs hdisk ↦ ?_
  rw [leadsTo_bind]
  refine (leadsTo_parse_gives source s).mono (fun g t ⟨hgives, ht⟩ ↦ ?_)
    fun stop t ht ↦ hnone stop t (ht.trans hs)
  rw [hs] at ht
  rw [hdisk] at hgives
  refine (KeepsDraft.andThen keepsDraft_setStatus) ht hnone fun _ s hs ↦ ?_
  refine (gen.keepsDraft_callHook _).andThen hs hnone fun _ s hs ↦ ?_
  refine (keepsDraft_enter _).andThen hs hnone fun _ s hs ↦ ?_
  rw [leadsTo_bind]
  refine (gen.leadsTo_validate_draft g s).mono (fun _ t ⟨hvalid, d, hbuild, ht⟩ ↦ ?_)
    fun stop t ht ↦ hnone stop t (ht.trans hs)
  rw [hs] at ht
  refine (gen.keepsDraft_callHook _).andThen ht hnone fun _ s hs ↦ ?_
  refine (keepsDraft_enter _).andThen hs hnone fun _ s hs ↦ ?_
  refine (gen.keepsDraft_callHook _).andThen hs hnone fun _ s hs ↦ ?_
  rw [leadsTo_bind]
  refine (leadsTo_render_listed hstrategies hgives hvalid hbuild hs).mono (fun _ s hlisted ↦ ?_)
    fun _ _ h ↦ h
  refine (gen.keepsDraft_callHook _).andThen rfl (hkept hlisted) fun _ t ht ↦ ?_
  refine keepsDraft_collect.andThen ht (hkept hlisted) fun _ t ht ↦ ?_
  refine (keepsDraft_enter _).andThen ht (hkept hlisted) fun _ t ht ↦ ?_
  refine (keepsDraft_writeAll output _).andThen ht (hkept hlisted) fun _ t ht ↦ ?_
  refine (gen.keepsDraft_callHook _).andThen ht (hkept hlisted) fun _ t ht ↦ ?_
  rw [leadsTo_enter]
  exact hkept hlisted .failed _ ht

/-- The files of a run have paths that its strategies list for a diagram of its grammar. -/
theorem run_listed (hstrategies : gen.strategies = strategies.map (·.toStrategy))
    (source : GrammarSource) (config : Config) (output : OutputTarget) (world : World σ) :
    (gen.run source config output world).2.draft.Listed gen source world.disk strategies := by
  have hexecute : LeadsTo (gen.execute source output)
      { status := { settings := config.settings }, world }
      (fun _ t ↦ t.draft.Listed gen source world.disk strategies)
      (fun _ t ↦ t.draft.Listed gen source world.disk strategies) :=
    leadsTo_execute_listed hstrategies output rfl rfl
  rw [LeadsTo] at hexecute
  rw [Generator.run]
  generalize (gen.execute source output).run _ = outcome at hexecute ⊢
  obtain ⟨r, s⟩ := outcome
  cases r with
  | ok _ => exact hexecute
  | error stop => cases stop <;> exact hexecute

/-- A run does not fail because of conflicts if its files have distinct paths. -/
theorem not_clashed_of_nodup {s : RunState σ}
    (h : ((allFiles s.status s.contributions).map (·.path.text)).Nodup) : ¬ s.Clashed := by
  rintro ⟨u, -, hconflicts, rfl⟩
  exact hconflicts (conflicts_eq_nil_iff.mpr h)

/-- **The files of the built-in strategies never conflict.** Whatever the templates come to, and
whatever the configuration and the plugins do, the files have distinct paths if the interfaces of
the grammar are named as types are. If the plugins add no files, then the run does not fail because
of conflicts: once its files are collected, it goes on to write them. -/
theorem run_builtin_distinct (hstrategies : gen.strategies = builtinStrategies.map (·.toStrategy))
    (source : GrammarSource) (config : Config) (output : OutputTarget) (world : World σ)
    (hnames : ∀ g, source.Gives world.disk g →
      ∀ name ∈ g.interfaceNames, Grammar.isTypeName name = true) :
    (pathTexts (gen.run source config output world).2.status.files).Nodup ∧
    ((gen.run source config output world).2.contributions.files = [] →
      ¬ (gen.run source config output world).2.Clashed ∧
      ((gen.run source config output world).2.status.filesCollected = true →
        .entered .writing ∈ (gen.run source config output world).2.journal)) := by
  have hlisted := run_listed hstrategies source config output world
  obtain ⟨n, hover, -, hclashed⟩ := gen.run_over source config output world
  generalize (gen.run source config output world).2 = s at hlisted hover hclashed ⊢
  have hdistinct : (pathTexts s.status.files).Nodup := by
    rcases hlisted with hnil | ⟨g, settings, d, hgives, hvalid, hbuild, hpaths⟩
    · rw [show s.status.files = [] from hnil]
      exact List.nodup_nil
    · have htypes : ∀ e ∈ d.elements, Grammar.isTypeName e.name = true := by
        intro e he
        refine hnames g hgives e.name ?_
        rw [← Diagram.elements_map_name hbuild]
        exact List.mem_map_of_mem he
      have hall := nodup_builtinPaths (Diagram.nodup_elements_map_name hvalid hbuild) htypes
      obtain ⟨paths, hperm, hsublist⟩ := hpaths
      exact hperm.nodup_iff.mp (hall.sublist hsublist)
  refine ⟨hdistinct, fun hfiles ↦ ?_⟩
  have hapart : ¬ s.Clashed := not_clashed_of_nodup (by
    rw [allFiles, hfiles, List.append_nil]
    exact hdistinct)
  refine ⟨hapart, fun hcollected ↦ (hover.entered_mem_iff (by decide)).mpr ?_⟩
  by_contra hwriting
  exact hapart (hclashed hwriting hcollected).2

/-! ### Names that differ in capitals -/

/-- A generator for the built-in strategies with the templates they cannot do without, and with those
for elements. -/
def sparse : Generator Unit where
  library := .memory (.ofList [("common/model-types", ""), ("server/server-module", ""),
    ("server/node-handler", ""), ("server/edge-handler", ""), ("browser/frontend-module", ""),
    ("browser/node-view", "")])
  strategies := builtinStrategies.map (·.toStrategy)

/-- The files for `Task` are others than those for `TASK`. -/
theorem run_builtin_distinct_shouted :
    (∀ name ∈ Grammar.shouted.interfaceNames, Grammar.isTypeName name = true) ∧
    ∃ s, s = (sparse.run (.given .shouted) {} {} { disk := .empty [], memory := () }).2 ∧
      (pathTexts s.status.files).Nodup ∧
      (s.contributions.files = [] → ¬ s.Clashed ∧
        (s.status.filesCollected = true → .entered .writing ∈ s.journal)) := by
  have hnames : ∀ name ∈ Grammar.shouted.interfaceNames, Grammar.isTypeName name = true := by
    decide
  refine ⟨hnames, _, rfl, ?_⟩
  exact sparse.run_builtin_distinct rfl (.given .shouted) {} {} { disk := .empty [], memory := () }
    fun g hg ↦ by
      cases hg
      exact hnames

end Generator

end DiagramForge
