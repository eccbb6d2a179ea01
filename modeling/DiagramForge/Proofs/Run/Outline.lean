import DiagramForge.Proofs.Run.LeadsTo
import DiagramForge.Run.Generate

/-!
# What a run keeps

`RunState.outline` is what a report says about a run besides its errors, together with the disk.
Plugins, strategies, parsing and validation all leave the outline alone: each of them `Keeps` it,
or it ends the run in the state `RunOutline.failed` with at least one error. So the outline changes
at three places only: where a phase is entered, where the files are settled, and where a file is
written.

What escapes from a run yields no report. `RunStep.Keeps` says nothing about it.
-/

namespace DiagramForge

open RunStep

/-! ## Outlines -/

/-- What a report says about a run besides its errors, and the disk. -/
structure RunOutline where
  /-- The phase. -/
  phase : Phase
  /-- The phase in which the run has failed, if it has. -/
  failedPhase : Option Phase
  /-- The disk. -/
  disk : Disk
  /-- The paths that have been written to. -/
  written : List Path
  /-- The files of the run, once they are settled. -/
  settled : Option (List OutputFile)

namespace RunOutline

/-- A run that goes on and has written nothing. -/
def going (p : Phase) (d : Disk) (settled : Option (List OutputFile)) : RunOutline where
  phase := p
  failedPhase := none
  disk := d
  written := []
  settled := settled

/-- The outline after the run has failed in its phase. -/
def failed (v : RunOutline) : RunOutline :=
  { v with phase := .failed, failedPhase := some v.phase }

end RunOutline

variable {σ α β : Type}

/-- The outline of a state. -/
def RunState.outline (s : RunState σ) : RunOutline where
  phase := s.phase
  failedPhase := s.failedPhase
  disk := s.world.disk
  written := s.status.written
  settled := s.settled

theorem RunState.outline_failing (s : RunState σ) (errors : List Diagnostic) :
    (s.failing errors).outline = s.outline.failed := rfl

/-- The state in which a run with the outline `v` has failed. -/
def RunState.FailedFrom (v : RunOutline) (s : RunState σ) : Prop :=
  s.outline = v.failed ∧ s.errors ≠ []

theorem RunState.failedFrom_failing {s : RunState σ} {errors : List Diagnostic}
    (h : s.errors ≠ [] ∨ errors ≠ []) : (s.failing errors).FailedFrom s.outline := by
  refine ⟨s.outline_failing errors, fun hnil ↦ ?_⟩
  obtain ⟨hs, herrors⟩ := List.append_eq_nil_iff.mp hnil
  rw [List.map_eq_nil_iff] at herrors
  exact h.elim (fun h ↦ h hs) (fun h ↦ h herrors)

namespace RunStep

/-- A step keeps the outline, or the run fails in it. What escapes from a run has no report, so
nothing is said about it. -/
def Keeps (m : RunStep σ α) : Prop :=
  ∀ s, LeadsTo m s (fun _ t ↦ t.outline = s.outline)
    (fun stop t ↦ stop = .failed → t.FailedFrom s.outline)

theorem Keeps.leadsTo {m : RunStep σ α} {s : RunState σ} {v : RunOutline} (h : Keeps m)
    (hs : s.outline = v) : LeadsTo m s (fun _ t ↦ t.outline = v)
      (fun stop t ↦ stop = .failed → t.FailedFrom v) := by
  subst hs
  exact h s

theorem keeps_pure (a : α) : Keeps (pure a : RunStep σ α) := fun _ ↦ rfl

theorem Keeps.bind {m : RunStep σ α} {f : α → RunStep σ β} (hm : Keeps m)
    (hf : ∀ a, Keeps (f a)) : Keeps (m >>= f) := by
  intro s
  rw [leadsTo_bind]
  exact (hm s).mono (fun a t ht ↦ (hf a).leadsTo ht) (fun _ _ h ↦ h)

/-- Reading the state is no obstacle, and what follows may use which state it is. -/
theorem keeps_get_bind {f : RunState σ → RunStep σ β}
    (h : ∀ s, LeadsTo (f s) s (fun _ t ↦ t.outline = s.outline)
      (fun stop t ↦ stop = .failed → t.FailedFrom s.outline)) : Keeps (get >>= f) := by
  intro s
  rw [leadsTo_bind, leadsTo_get]
  exact h s

theorem keeps_get : Keeps (get : RunStep σ (RunState σ)) := fun _ ↦ leadsTo_get.mpr rfl

theorem keeps_modify {f : RunState σ → RunState σ} (h : ∀ s, (f s).outline = s.outline) :
    Keeps (modify f : RunStep σ PUnit) := fun s ↦ (leadsTo_modify f).mpr (h s)

theorem keeps_setStatus {f : RunStatus → RunStatus}
    (h : ∀ t, (f t).written = t.written) :
    Keeps (setStatus f : RunStep σ Unit) := by
  intro s
  rw [leadsTo_setStatus]
  change RunOutline.mk _ _ _ (f s.status).written _ = _
  rw [h]
  rfl

theorem keeps_record (e : RunEvent) : Keeps (record e : RunStep σ Unit) := fun _ ↦
  (leadsTo_record e).mpr rfl

theorem keeps_warn (warnings : List String) : Keeps (warn warnings : RunStep σ Unit) :=
  fun _ ↦ (leadsTo_warn warnings).mpr rfl

theorem keeps_orEscape (r : Except Crash α) : Keeps (orEscape r : RunStep σ α) := by
  intro s
  rw [leadsTo_orEscape]
  exact ⟨fun _ _ ↦ rfl, nofun⟩

theorem keeps_escape (f : Failure) : Keeps (throw (.escaped f) : RunStep σ α) := by
  intro s
  rw [leadsTo_throw]
  exact nofun

theorem keeps_fail {errors : List Diagnostic} (h : errors ≠ []) :
    Keeps (fail errors : RunStep σ α) := by
  intro s
  rw [leadsTo_fail]
  exact fun _ ↦ RunState.failedFrom_failing (.inr h)

end RunStep

/-! ## What the phases keep -/

namespace Generator

variable (gen : Generator σ)

/-- Whatever the handlers of a hook do to the contributions and to the memory of the plugins. -/
theorem keeps_callHook (hook : Hook) : Keeps (gen.callHook hook) := by
  refine keeps_get.bind fun s₀ ↦ (keeps_orEscape _).bind fun isolate ↦ ?_
  refine (keeps_record _).bind fun _ ↦ keeps_get_bind fun s ↦ ?_
  rw [leadsTo_bind, leadsTo_set]
  refine Keeps.leadsTo ?_ rfl
  split
  · exact keeps_fail (List.cons_ne_nil _ _)
  · exact keeps_fail (List.cons_ne_nil _ _)
  · exact keeps_pure _

theorem keeps_configurePlugins : Keeps gen.configurePlugins := by
  refine keeps_get_bind fun s ↦ ?_
  split
  next r memory _ =>
    rw [leadsTo_bind, leadsTo_set]
    refine Keeps.leadsTo ?_ rfl
    cases r with
    | error d => exact keeps_fail (List.cons_ne_nil _ _)
    | ok settings =>
      refine Keeps.bind (keeps_setStatus fun _ ↦ rfl) fun _ ↦ ?_
      split
      · exact keeps_pure _
      next hproblems => exact keeps_fail hproblems

theorem keeps_parse (source : GrammarSource) : Keeps (parse source : RunStep σ Grammar) := by
  cases source with
  | given g => exact keeps_pure g
  | file path =>
    refine keeps_get.bind fun s ↦ ?_
    split
    · exact keeps_pure _
    · exact keeps_fail (List.cons_ne_nil _ _)
    · exact keeps_escape _
    · exact keeps_fail (List.cons_ne_nil _ _)

/-- A step that is taken only in some cases. -/
theorem Keeps.guarded {α β : Type} {b : Bool} {x : RunStep σ α} {y : RunStep σ β}
    (hx : b = true → Keeps x) (hy : Keeps y) :
    Keeps (if b = true then x >>= fun _ ↦ y else y) := by
  split
  next h => exact (hx h).bind fun _ ↦ hy
  · exact hy

theorem keeps_validate (g : Grammar) : Keeps (gen.validate g) := by
  refine Keeps.bind (keeps_setStatus fun _ ↦ rfl) fun _ ↦ (keeps_warn _).bind fun _ ↦ ?_
  refine Keeps.guarded (fun hok ↦ keeps_fail fun hnil ↦ ?_) (keeps_get.bind fun s ↦ ?_)
  · rw [Grammar.ValidationReport.ok, hnil] at hok
    exact absurd hok (by decide)
  · split
    · exact keeps_fail (List.cons_ne_nil _ _)
    · exact keeps_escape _
    · exact keeps_setStatus fun _ ↦ rfl

theorem keeps_runStrategy (strategy : Strategy) (d : Diagram) :
    Keeps (gen.runStrategy strategy d) := by
  refine (keeps_record _).bind fun _ ↦ keeps_get_bind fun s ↦ ?_
  dsimp only
  split
  next r store _ =>
    rw [leadsTo_bind, leadsTo_set]
    refine Keeps.leadsTo ?_ rfl
    cases r with
    | error f => exact keeps_pure _
    | ok result => exact keeps_pure _

theorem keeps_addResult (result : StrategyResult) :
    Keeps (addResult result : RunStep σ Unit) := by
  refine (keeps_modify ?_).bind fun _ ↦
    Keeps.bind (keeps_setStatus fun _ ↦ rfl) fun _ ↦ keeps_warn _
  exact fun _ ↦ rfl

theorem keeps_runStrategies (failFast : Bool) (d : Diagram) (strategies : List Strategy) :
    Keeps (gen.runStrategies failFast d strategies) := by
  induction strategies with
  | nil => exact keeps_pure _
  | cons strategy more ih =>
    refine (gen.keeps_runStrategy strategy d).bind fun result ↦
      (keeps_addResult result).bind fun _ ↦ ?_
    dsimp only
    split
    · exact keeps_pure _
    · exact ih.bind fun _ ↦ keeps_pure _

/-- Rendering fails only if a strategy has given up or the run has errors already, so a run that
fails in it has errors. -/
theorem keeps_render : Keeps gen.render := by
  refine keeps_get.bind fun s ↦ ?_
  split
  · exact keeps_pure _
  next d _ =>
    refine (keeps_orEscape _).bind fun generation ↦ (keeps_orEscape _).bind fun targets ↦
      (keeps_orEscape _).bind fun failFast ↦ (keeps_orEscape _).bind fun wanted ↦
      (gen.keeps_runStrategies _ d wanted).bind fun lost ↦ keeps_get_bind fun t ↦ ?_
    split
    next hlost =>
      rw [leadsTo_fail]
      intro _
      refine RunState.failedFrom_failing ?_
      simp only [Bool.or_eq_true, Bool.and_eq_true, Bool.not_eq_true', List.isEmpty_eq_false_iff]
        at hlost
      exact hlost.symm.imp_left And.left
    · exact rfl

end Generator

end DiagramForge
