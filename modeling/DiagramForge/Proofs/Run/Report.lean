import DiagramForge.Proofs.Run.Outline

/-!
# Reports are consistent

However a run goes, its report agrees with itself, and the disk changes only while files are
written: `Generator.generate_consistent`.

## The ends of a run

`RunOutline.Ended` lists the outlines a run can end with. It can fail before its files are to be
written, fail when some of them are, or reach its end. `Generator.leadsTo_execute` follows the run
through its phases to one of these, and the report is read off the outline.
-/

namespace DiagramForge

open RunStep

variable {σ α β : Type}

/-! ## Writing -/

/-- The output directory that files are written to; none if they are left unwritten. -/
def OutputTarget.root? (o : OutputTarget) : Option Path :=
  if o.dryRun then none else o.directory

/-- The paths that are written to for some files. -/
def OutputTarget.paths (o : OutputTarget) (fs : List OutputFile) : List Path :=
  match o.root? with
  | some root => fs.map (·.path.target root)
  | none => []

theorem OutputTarget.paths_nil (o : OutputTarget) : o.paths [] = [] := by
  rw [paths]
  split <;> rfl

namespace OutputFile

theorem settle_ok {f : OutputFile} {d : Disk} {temporary : DiskPlace} {target path : Path}
    (h : (f.settle d temporary target).2 = .ok path) : path = target := by
  rw [settle] at h
  split at h
  · cases h
    rfl
  · cases h

theorem writeInto_ok {f : OutputFile} {d : Disk} {target path : Path}
    (h : (f.writeInto d target).2 = .ok path) : path = target := by
  rw [writeInto] at h
  split at h
  · cases h
  · dsimp only at h
    split at h
    · cases h
    · cases h
    · exact settle_ok h

/-- A file that is written goes to its target. -/
theorem write_ok {f : OutputFile} {d : Disk} {root path : Path}
    (h : (f.write d root).2 = .ok path) : path = f.path.target root := by
  rw [write] at h
  split at h
  · cases h
  · exact writeInto_ok h

end OutputFile

/-- The outline `v` is `u`, but for the disk and the targets of `fs`, which have been written to. -/
def RunOutline.Wrote (u : RunOutline) (root : Path) (fs : List OutputFile) (v : RunOutline) :
    Prop :=
  ∃ d, v = { u with disk := d, written := u.written ++ fs.map (·.path.target root) }

theorem RunOutline.wrote_nil (u : RunOutline) (root : Path) : u.Wrote root [] u := by
  refine ⟨u.disk, ?_⟩
  rw [List.map_nil, List.append_nil]

/-- Writing one file and then some more is writing all of them. -/
theorem RunOutline.Wrote.cons {u v w : RunOutline} {root : Path} {f : OutputFile}
    {fs : List OutputFile} (hf : u.Wrote root [f] v) (hfs : v.Wrote root fs w) :
    u.Wrote root (f :: fs) w := by
  obtain ⟨d, rfl⟩ := hf
  obtain ⟨d', rfl⟩ := hfs
  refine ⟨d', ?_⟩
  rw [List.append_assoc, ← List.map_append, List.singleton_append]

namespace Generator

/-- Files are written in order; if one cannot be written, those before it have been. -/
theorem leadsTo_write (root : Path) (fs : List OutputFile) (s : RunState σ) :
    LeadsTo (write root fs) s (fun _ t ↦ s.outline.Wrote root fs t.outline)
      (fun stop t ↦ stop = .failed →
        ∃ written v, written <+: fs ∧ s.outline.Wrote root written v ∧ t.FailedFrom v) := by
  induction fs generalizing s with
  | nil => exact s.outline.wrote_nil root
  | cons f fs ih =>
    rw [write, leadsTo_bind, leadsTo_record, leadsTo_bind, leadsTo_get]
    split
    next disk r hwrite =>
    rw [leadsTo_bind, leadsTo_set]
    cases r with
    | error failure =>
      have hnone : s.outline.Wrote root [] { s.outline with disk := disk } := by
        refine ⟨disk, ?_⟩
        rw [List.map_nil, List.append_nil]
      cases failure with
      | diagnostic d =>
        rw [leadsTo_fail]
        refine fun _ ↦ ⟨[], _, List.nil_prefix, hnone, ?_⟩
        exact RunState.failedFrom_failing (.inr (List.cons_ne_nil _ _))
      | crash c => exact nofun
    | ok path =>
      have hpath : path = f.path.target root := OutputFile.write_ok (by rw [hwrite])
      subst hpath
      rw [leadsTo_bind, leadsTo_setStatus]
      refine (ih _).mono (fun _ t ht ↦ ?_) (fun stop t ht hstop ↦ ?_)
      · exact RunOutline.Wrote.cons ⟨disk, rfl⟩ ht
      · obtain ⟨written, v, hinit, hv, hfailed⟩ := ht hstop
        refine ⟨f :: written, v, List.cons_prefix_cons.mpr ⟨rfl, hinit⟩, ?_, hfailed⟩
        exact RunOutline.Wrote.cons ⟨disk, rfl⟩ hv

/-- The files of a run are settled unless two of them have one path. -/
theorem leadsTo_collect {s : RunState σ} {p : Phase} {d : Disk}
    (hs : s.outline = RunOutline.going p d none) :
    LeadsTo collect s (fun files t ↦ t.outline = RunOutline.going p d (some files))
      (fun stop t ↦ stop = .failed → t.FailedFrom (RunOutline.going p d none)) := by
  rw [collect, leadsTo_bind]
  have hkeeps : Keeps (setStatus fun t ↦ { t with filesCollected := true } : RunStep σ Unit) :=
    keeps_setStatus fun _ ↦ rfl
  refine (Keeps.leadsTo hkeeps hs).mono (fun _ t ht ↦ ?_) (fun _ _ h ↦ h)
  rw [leadsTo_bind, leadsTo_get]
  dsimp only
  split
  · rw [leadsTo_bind, leadsTo_set, leadsTo_pure]
    change { t.outline with settled := some (allFiles t.status t.contributions) } = _
    rw [ht]
    rfl
  next hconflicts =>
    rw [leadsTo_fail, ← ht]
    exact fun _ ↦ RunState.failedFrom_failing (.inr hconflicts)

end Generator

/-! ## Whole runs -/

/-- How a run that has started on the disk `d` can end. -/
inductive RunOutline.Ended (output : OutputTarget) (d : Disk) : RunOutline → Prop where
  /-- It has failed before its files were to be written. -/
  | early (p : Phase) (hp : p ≠ .writing) : Ended output d (going p d none).failed
  /-- It has failed when some of its files were written. -/
  | late (files written : List OutputFile) (hwritten : written <+: files) (d' : Disk)
    (hdisk : output.root? = none → d' = d) :
    Ended output d ⟨.failed, some .writing, d', output.paths written, some files⟩
  /-- It has reached its end. -/
  | whole (files : List OutputFile) (d' : Disk) (hdisk : output.root? = none → d' = d) :
    Ended output d ⟨.done, none, d', output.paths files, some files⟩

/-- A run has ended, and not without errors if it has failed. -/
def RunState.Ended (output : OutputTarget) (d : Disk) (s : RunState σ) : Prop :=
  s.outline.Ended output d ∧ (s.phase = .failed → s.errors ≠ [])

theorem RunState.FailedFrom.ended {output : OutputTarget} {d : Disk} {v : RunOutline}
    {s : RunState σ} (h : s.FailedFrom v) (hv : v.failed.Ended output d) : s.Ended output d := by
  refine ⟨?_, fun _ ↦ h.2⟩
  rw [h.1]
  exact hv

/-- A part of a run that keeps the outline leads to what follows it. -/
theorem RunStep.Keeps.andThen {m : RunStep σ α} {f : α → RunStep σ β} {s : RunState σ}
    {v : RunOutline} {Q : β → RunState σ → Prop} {output : OutputTarget} {d : Disk}
    (hm : Keeps m) (hs : s.outline = v) (hv : v.failed.Ended output d)
    (hf : ∀ a t, t.outline = v →
      LeadsTo (f a) t Q (fun stop u ↦ stop = .failed → u.Ended output d)) :
    LeadsTo (m >>= f) s Q (fun stop u ↦ stop = .failed → u.Ended output d) := by
  rw [leadsTo_bind]
  exact (hm.leadsTo hs).mono hf fun _ _ h hstop ↦ (h hstop).ended hv

/-- Entering a phase changes nothing else. -/
theorem RunStep.leadsTo_enter_bind {f : Unit → RunStep σ α} {s : RunState σ} {v : RunOutline}
    {p : Phase} {Q : α → RunState σ → Prop} {E : RunStop → RunState σ → Prop}
    (hs : s.outline = v)
    (hf : ∀ t : RunState σ, t.outline = { v with phase := p } → LeadsTo (f ()) t Q E) :
    LeadsTo (enter p >>= f) s Q E := by
  rw [leadsTo_bind, leadsTo_enter]
  refine hf _ ?_
  rw [← hs]
  rfl

namespace Generator

variable (gen : Generator σ)

/-- Tells the plugins which file the grammar is read from. -/
def noteSource (source : GrammarSource) : RunStep σ Unit :=
  match source with
  | .file path => setStatus fun status ↦ { status with grammarPath := some path }
  | .given _ => pure ()

theorem keeps_noteSource (source : GrammarSource) : Keeps (noteSource source : RunStep σ Unit) := by
  cases source with
  | given g => exact keeps_pure _
  | file path => exact keeps_setStatus fun _ ↦ rfl

/-- Writes the files of a run if they are to be written. -/
def writeAll (output : OutputTarget) (files : List OutputFile) : RunStep σ Unit :=
  match output.directory, output.dryRun with
  | some root, false => write root files
  | _, _ => pure ()

theorem leadsTo_writeAll {output : OutputTarget} {s : RunState σ} {d : Disk}
    {files : List OutputFile} (hs : s.outline = RunOutline.going .writing d (some files)) :
    LeadsTo (writeAll output files) s
      (fun _ t ↦ ∃ d', (output.root? = none → d' = d) ∧
        t.outline = ⟨.writing, none, d', output.paths files, some files⟩)
      (fun stop t ↦ stop = .failed → t.Ended output d) := by
  rw [writeAll]
  split
  next root hroot hdry =>
    have hroot : output.root? = some root := by
      rw [OutputTarget.root?, hdry, hroot]
      rfl
    have hpaths : ∀ fs : List OutputFile, output.paths fs = fs.map (·.path.target root) := by
      intro fs
      rw [OutputTarget.paths, hroot]
    refine (leadsTo_write root files s).mono (fun _ t ht ↦ ?_) (fun stop t ht hstop ↦ ?_)
    · obtain ⟨d', hd'⟩ := ht
      refine ⟨d', fun hnone ↦ ?_, ?_⟩
      · rw [hroot] at hnone
        cases hnone
      · rw [hd', hs, hpaths]
        rfl
    · obtain ⟨written, v, hinit, ⟨d', rfl⟩, hfailed⟩ := ht hstop
      refine hfailed.ended ?_
      rw [hs, ← hpaths]
      refine .late files written hinit d' fun hnone ↦ ?_
      rw [hroot] at hnone
      cases hnone
  next hskip =>
    have hroot : output.root? = none := by
      rw [OutputTarget.root?]
      split
      · rfl
      next hdry =>
        cases hdirectory : output.directory with
        | none => rfl
        | some root => exact absurd (Bool.eq_false_iff.mpr hdry) (hskip root hdirectory)
    rw [leadsTo_pure]
    refine ⟨d, fun _ ↦ rfl, ?_⟩
    rw [hs, OutputTarget.paths, hroot]
    rfl

/-- The phases of a run one after another. -/
theorem execute_eq (source : GrammarSource) (output : OutputTarget) :
    gen.execute source output = (do
      gen.configurePlugins
      enter .parsing
      noteSource source
      gen.callHook .beforeGenerate
      let g ← parse source
      setStatus fun status ↦ { status with grammar := some g }
      gen.callHook .afterParse
      enter .validating
      gen.validate g
      gen.callHook .afterValidation
      enter .rendering
      gen.callHook .beforeTemplateRender
      gen.render
      gen.callHook .afterTemplateRender
      let files ← collect
      enter .writing
      writeAll output files
      gen.callHook .afterGenerate
      enter .done) := by
  obtain ⟨directory, dryRun⟩ := output
  cases source <;> cases directory <;> cases dryRun <;>
    simp only [execute, noteSource, writeAll, pure_bind]

/-- A run ends in one of the ways `RunOutline.Ended` lists, unless something escapes from it. -/
theorem leadsTo_execute (source : GrammarSource) (output : OutputTarget) {s : RunState σ}
    {d : Disk} (hs : s.outline = RunOutline.going .notStarted d none) :
    LeadsTo (gen.execute source output) s (fun _ t ↦ t.Ended output d)
      (fun stop t ↦ stop = .failed → t.Ended output d) := by
  have hearly : ∀ p : Phase, p ≠ .writing →
      (RunOutline.going p d none).failed.Ended output d := .early
  rw [execute_eq]
  refine gen.keeps_configurePlugins.andThen hs (hearly _ (by decide)) fun _ s hs ↦ ?_
  refine leadsTo_enter_bind hs fun s (hs : s.outline = .going .parsing d none) ↦ ?_
  refine (keeps_noteSource source).andThen hs (hearly _ (by decide)) fun _ s hs ↦ ?_
  refine (gen.keeps_callHook _).andThen hs (hearly _ (by decide)) fun _ s hs ↦ ?_
  refine (keeps_parse source).andThen hs (hearly _ (by decide)) fun g s hs ↦ ?_
  refine Keeps.andThen (keeps_setStatus fun _ ↦ rfl) hs (hearly _ (by decide)) fun _ s hs ↦ ?_
  refine (gen.keeps_callHook _).andThen hs (hearly _ (by decide)) fun _ s hs ↦ ?_
  refine leadsTo_enter_bind hs fun s (hs : s.outline = .going .validating d none) ↦ ?_
  refine (gen.keeps_validate g).andThen hs (hearly _ (by decide)) fun _ s hs ↦ ?_
  refine (gen.keeps_callHook _).andThen hs (hearly _ (by decide)) fun _ s hs ↦ ?_
  refine leadsTo_enter_bind hs fun s (hs : s.outline = .going .rendering d none) ↦ ?_
  refine (gen.keeps_callHook _).andThen hs (hearly _ (by decide)) fun _ s hs ↦ ?_
  refine gen.keeps_render.andThen hs (hearly _ (by decide)) fun _ s hs ↦ ?_
  refine (gen.keeps_callHook _).andThen hs (hearly _ (by decide)) fun _ s hs ↦ ?_
  rw [leadsTo_bind]
  refine (leadsTo_collect hs).mono (fun files s hs ↦ ?_)
    fun stop t ht hstop ↦ (ht hstop).ended (hearly _ (by decide))
  -- from here on the files are settled, and the disk may change
  refine leadsTo_enter_bind hs fun s (hs : s.outline = .going .writing d (some files)) ↦ ?_
  rw [leadsTo_bind]
  refine (leadsTo_writeAll hs).mono (fun _ s hs ↦ ?_) fun _ _ h ↦ h
  obtain ⟨d', hd', hs⟩ := hs
  refine (gen.keeps_callHook _).andThen hs (.late files files List.prefix_rfl d' hd')
    fun _ s hs ↦ ?_
  rw [leadsTo_enter]
  refine ⟨?_, nofun⟩
  change RunOutline.Ended output d { s.outline with phase := .done }
  rw [hs]
  exact .whole files d' hd'

end Generator

/-! ## Reports -/

/-- A report agrees with itself and with where the files of the run go. -/
structure RunReport.Consistent (output : OutputTarget) (r : RunReport) : Prop where
  /-- The run is over. -/
  ended : r.phase = .done ∨ r.phase = .failed
  /-- A failed phase is reported exactly if the run has failed. -/
  failed_iff : r.phase = .failed ↔ ∃ p, r.failedPhase = some p
  /-- A run does not fail without errors. -/
  errors_ne_nil : r.phase = .failed → r.errors ≠ []
  /-- A run is a success if it has reached its end without errors. -/
  success_iff : r.success = true ↔ r.phase = .done ∧ r.errors = []
  /-- The files are written in order. -/
  written_prefix : ∀ root, output.directory = some root →
    ∃ fs, fs <+: r.files ∧ r.written = fs.map (·.path.target root)
  /-- All files are written if the run reaches its end and they are to be written. -/
  written_all : ∀ root, output.directory = some root → output.dryRun = false → r.phase = .done →
    r.written = r.files.map (·.path.target root)
  /-- Nothing is written if nothing is to be. -/
  written_nil : output.directory = none ∨ output.dryRun = true → r.written = []

section

variable {output : OutputTarget} {d : Disk} {s : RunState σ}

theorem OutputTarget.root?_eq_none {o : OutputTarget} :
    o.root? = none ↔ o.directory = none ∨ o.dryRun = true := by
  rw [root?]
  split
  next hdry => exact ⟨fun _ ↦ .inr hdry, fun _ ↦ rfl⟩
  next hdry => exact ⟨.inl, fun h ↦ h.resolve_right hdry⟩

theorem OutputTarget.root?_eq_some {o : OutputTarget} {root : Path}
    (hdirectory : o.directory = some root) (hdry : o.dryRun = false) : o.root? = some root := by
  rw [root?, hdry, hdirectory]
  rfl

/-- The paths written to, with or without files to write. -/
theorem OutputTarget.paths_prefix {o : OutputTarget} {root : Path}
    (hdirectory : o.directory = some root) {written files : List OutputFile}
    (h : written <+: files) :
    ∃ fs, fs <+: files ∧ o.paths written = fs.map (·.path.target root) := by
  cases hdry : o.dryRun with
  | true =>
    refine ⟨[], List.nil_prefix, ?_⟩
    rw [paths, root?_eq_none.mpr (.inr hdry), List.map_nil]
  | false =>
    refine ⟨written, h, ?_⟩
    rw [paths, root?_eq_some hdirectory hdry]

/-- A report of a state whose outline is known, once that it says what it should is checked on the
outline. -/
theorem RunState.report_consistent {v : RunOutline} (hs : s.outline = v)
    (hended : v.phase = .done ∨ v.phase = .failed)
    (hfailed : v.phase = .failed ↔ ∃ p, v.failedPhase = some p)
    (herrors : v.phase = .failed → s.errors ≠ [])
    (hwritten : ∃ written, written <+: s.report.files ∧ v.written = output.paths written ∧
      (v.phase = .done → written = s.report.files)) : s.report.Consistent output := by
  subst hs
  obtain ⟨written, hinit, hpaths, hall⟩ := hwritten
  change s.report.written = output.paths written at hpaths
  refine ⟨hended, hfailed, herrors, ?_, ?_, ?_, ?_⟩
  · change (s.phase == .done && s.errors.isEmpty) = true ↔ s.phase = .done ∧ s.errors = []
    rw [Bool.and_eq_true, beq_iff_eq, List.isEmpty_iff]
  · intro root hroot
    rw [hpaths]
    exact OutputTarget.paths_prefix hroot hinit
  · intro root hroot hdry hdone
    rw [hpaths, hall hdone, OutputTarget.paths, OutputTarget.root?_eq_some hroot hdry]
  · intro hnone
    rw [hpaths, OutputTarget.paths, OutputTarget.root?_eq_none.mpr hnone]

/-- The report of a run that has ended is consistent. -/
theorem RunState.Ended.consistent (h : s.Ended output d) : s.report.Consistent output := by
  obtain ⟨hv, herrors⟩ := h
  have hfiles : s.report.files = s.outline.settled.getD (allFiles s.status s.contributions) := rfl
  generalize hs : s.outline = v at hv hfiles
  have hphase : s.phase = v.phase := congrArg RunOutline.phase hs
  rw [hphase] at herrors
  cases hv with
  | early p hp =>
    exact s.report_consistent hs (.inr rfl) ⟨fun _ ↦ ⟨p, rfl⟩, fun _ ↦ rfl⟩ herrors
      ⟨[], List.nil_prefix, output.paths_nil.symm, nofun⟩
  | late files written hwritten d' hdisk =>
    refine s.report_consistent hs (.inr rfl) ⟨fun _ ↦ ⟨_, rfl⟩, fun _ ↦ rfl⟩ herrors
      ⟨written, ?_, rfl, nofun⟩
    rw [hfiles]
    exact hwritten
  | whole files d' hdisk =>
    refine s.report_consistent hs (.inl rfl) ⟨nofun, nofun⟩ herrors ⟨files, ?_, rfl, fun _ ↦ ?_⟩
    · rw [hfiles]
      exact List.prefix_rfl
    · rw [hfiles]
      rfl

/-- The disk of a run that has ended is as it was, unless files were to be written and the run came
that far. -/
theorem RunState.Ended.disk_eq (h : s.Ended output d)
    (hroot : (∃ p, s.failedPhase = some p ∧ p ≠ .writing) ∨ output.root? = none) :
    s.world.disk = d := by
  have hv := h.1
  have hphase : s.failedPhase = s.outline.failedPhase := rfl
  have hdisk : s.world.disk = s.outline.disk := rfl
  rw [hphase] at hroot
  rw [hdisk]
  cases hs : s.outline with
  | mk phase failedPhase disk written settled =>
    rw [hs] at hv hroot
    cases hv with
    | early p hp => rfl
    | late files written hwritten d' hunwritten =>
      obtain ⟨p, hp, hne⟩ | hnone := hroot
      · cases hp
        exact absurd rfl hne
      · exact hunwritten hnone
    | whole files d' hunwritten =>
      obtain ⟨p, hp, -⟩ | hnone := hroot
      · cases hp
      · exact hunwritten hnone

end

/-- A run that nothing escapes from ends in one of the ways `RunOutline.Ended` lists. -/
theorem Generator.run_ended (gen : Generator σ) (source : GrammarSource) (config : Config)
    (output : OutputTarget) (world : World σ) (h : (gen.run source config output world).1 = none) :
    (gen.run source config output world).2.Ended output world.disk := by
  have hexecute := gen.leadsTo_execute source output (d := world.disk)
    (s := { status := { settings := config.settings }, world }) rfl
  rw [LeadsTo] at hexecute
  rw [Generator.run] at h ⊢
  generalize (gen.execute source output).run _ = outcome at h hexecute ⊢
  obtain ⟨r, s⟩ := outcome
  cases r with
  | ok _ => exact hexecute
  | error stop =>
    cases stop with
    | failed => exact hexecute rfl
    | escaped f => cases h

/-- Every run that yields a report yields a consistent one, and if it has failed before its files
were to be written, or they are not to be written at all, the disk is as it was. -/
theorem Generator.generate_consistent (gen : Generator σ) (source : GrammarSource)
    (config : Config) (output : OutputTarget) (world world' : World σ) (r : RunReport)
    (h : gen.generate source config output world = (.ok r, world')) :
    r.Consistent output ∧
      ((∃ p, r.failedPhase = some p ∧ p ≠ .writing) ∨ output.dryRun = true ∨
        output.directory = none → world'.disk = world.disk) := by
  have hended := gen.run_ended source config output world
  rw [generate] at h
  cases hrun : gen.run source config output world with
  | mk escaped s =>
    rw [hrun] at h hended
    cases escaped with
    | some f => cases h
    | none =>
      cases h
      specialize hended rfl
      refine ⟨hended.consistent, fun hroot ↦ hended.disk_eq ?_⟩
      exact hroot.imp_right fun h ↦ OutputTarget.root?_eq_none.mpr h.symm

/-! ### A run that writes a file -/

/-- A generator without strategies, whose one plugin adds a file when there is a grammar. -/
def Generator.adding (f : OutputFile) : Generator Unit where
  library := .files []
  strategies := []
  plugins :=
    { plugins := [{
        hooks := [(Hook.label .afterParse, fun _ ↦ HookAction.contribute fun c ↦
          { c with files := c.files ++ [f] })] }] }

/-- Its file is written below the output directory, and the report says so. -/
theorem Generator.generate_consistent_adding :
    ∃ r world',
      (Generator.adding { path := ⟨"a.txt", by decide⟩, content := "a" }).generate (.given {}) {}
        { directory := some ⟨"/", ["out"]⟩ } { disk := ⟨[], []⟩, memory := () }
        = (.ok r, world') ∧
      r.phase = .done ∧ r.written = [⟨"/", ["out", "a.txt"]⟩] ∧
      r.Consistent { directory := some ⟨"/", ["out"]⟩ } := by
  generalize hgen : Generator.adding { path := ⟨"a.txt", by decide⟩, content := "a" } = gen
  generalize houtput : ({ directory := some ⟨"/", ["out"]⟩ } : OutputTarget) = output
  have hends :
      (gen.generate (.given {}) {} output { disk := ⟨[], []⟩, memory := () }).1.toOption.map
        (fun r ↦ (r.phase, r.written)) = some (.done, [⟨"/", ["out", "a.txt"]⟩]) := by
    rw [← hgen, ← houtput]
    decide +kernel
  cases hrun : gen.generate (.given {}) {} output { disk := ⟨[], []⟩, memory := () } with
  | mk outcome world' =>
    rw [hrun] at hends
    cases outcome with
    | error f => cases hends
    | ok r =>
      have hr : (r.phase, r.written) = (.done, [⟨"/", ["out", "a.txt"]⟩]) :=
        Option.some.inj hends
      obtain ⟨hphase, hwritten⟩ := Prod.mk.inj hr
      exact ⟨r, world', rfl, hphase, hwritten,
        (gen.generate_consistent _ _ output _ world' r hrun).1⟩

end DiagramForge
