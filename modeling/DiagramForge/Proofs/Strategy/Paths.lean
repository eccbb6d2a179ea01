import DiagramForge.Proofs.Strategy.Completion
import Mathlib.Data.List.Perm.Subperm

/-!
# The paths of rendered files

`TemplateStrategy.paths` lists the paths that a strategy can render a diagram to: one for each
template that is rendered once, and one for each element and template for it. Whatever templates
there are, whichever of them fail and in whatever order jobs are completed, the files of the result
have paths of this list, none of them more often than it is listed: `TemplateStrategy.yields_render`.

So to keep the files of strategies apart it is enough to keep the listed paths apart, and these
depend on the names of the elements alone.
-/

namespace DiagramForge

open Template Outcome

/-! ## What computations yield -/

section Yields

variable {σ α β : Type}

/-- From whatever state it begins in, a computation yields only what satisfies `P`. -/
def Yields (m : ExceptT Failure (StateM σ) α) (P : α → Prop) : Prop :=
  ∀ s a, (m.run s).1 = .ok a → P a

namespace Yields

variable {m : ExceptT Failure (StateM σ) α} {P : α → Prop} {Q : β → Prop}

protected theorem pure {a : α} (h : P a) : Yields (pure a : ExceptT Failure (StateM σ) α) P := by
  intro s a' ha
  cases ha
  exact h

theorem ofExcept (r : Except Failure α) :
    Yields (ExceptT.mk (pure r) : ExceptT Failure (StateM σ) α) fun a ↦ r = .ok a :=
  fun _ _ ha ↦ ha

protected theorem bind {f : α → ExceptT Failure (StateM σ) β} (hm : Yields m P)
    (hf : ∀ a, P a → Yields (f a) Q) : Yields (m >>= f) Q := by
  intro s b hb
  rw [run_bind] at hb
  cases hr : m.run s with
  | mk r s' =>
    rw [hr] at hb
    cases r with
    | error e => cases hb
    | ok a =>
      have ha : P a := hm s a (by rw [hr])
      exact hf a ha s' b hb

protected theorem mono {P' : α → Prop} (hm : Yields m P) (h : ∀ a, P a → P' a) : Yields m P' :=
  fun s a ha ↦ h a (hm s a ha)

theorem mapM {f : α → ExceptT Failure (StateM σ) β} {R : α → β → Prop} {as : List α}
    (h : ∀ a, Yields (f a) (R a)) : Yields (as.mapM f) (List.Forall₂ R as) := by
  induction as with
  | nil => exact .pure .nil
  | cons a as ih =>
    rw [List.mapM_cons]
    exact (h a).bind fun b hb ↦ ih.bind fun bs hbs ↦ .pure (.cons hb hbs)

end Yields

end Yields

/-! ## Files and their paths -/

/-- The paths of files. -/
def pathTexts (fs : List OutputFile) : List String :=
  fs.map (·.path.text)

/-- A result has the files of another one, and behind them files with some of the paths, each used
at most as often as it is listed. -/
def StrategyResult.Gains (r : StrategyResult) (paths : List String) (r' : StrategyResult) : Prop :=
  ∃ fs, r'.files = r.files ++ fs ∧ (pathTexts fs).Subperm paths

namespace StrategyResult

variable {r r' r'' : StrategyResult} {paths paths' : List String}

theorem gains_self (r : StrategyResult) (paths : List String) : r.Gains paths r :=
  ⟨[], (List.append_nil _).symm, List.nil_subperm⟩

theorem Gains.mono (h : r.Gains paths r') (hpaths : paths.Subperm paths') : r.Gains paths' r' := by
  obtain ⟨fs, hfiles, hfs⟩ := h
  exact ⟨fs, hfiles, hfs.trans hpaths⟩

theorem Gains.trans (h : r.Gains paths r') (h' : r'.Gains paths' r'') :
    r.Gains (paths ++ paths') r'' := by
  obtain ⟨fs, hfiles, hfs⟩ := h
  obtain ⟨fs', hfiles', hfs'⟩ := h'
  refine ⟨fs ++ fs', by rw [hfiles', hfiles, List.append_assoc], ?_⟩
  rw [pathTexts, List.map_append]
  exact ((List.subperm_append_right _).mpr hfs).trans ((List.subperm_append_left _).mpr hfs')

/-- What a result has that began without files. -/
theorem Gains.subperm {name : String} (h : ({ strategy := name } : StrategyResult).Gains paths r) :
    (pathTexts r.files).Subperm paths := by
  obtain ⟨fs, hfiles, hfs⟩ := h
  rw [hfiles]
  exact hfs

theorem gains_addFile {f : OutputFile} : r.Gains [f.path.text] (r.addFile f) :=
  ⟨[f], rfl, List.Subperm.refl _⟩

/-- What is collected are files among the outcomes. -/
theorem gains_collect (failFast : Bool) (r : StrategyResult)
    (os : List (Except Diagnostic OutputFile)) :
    r.Gains (pathTexts (os.filterMap Except.toOption)) (r.collect failFast os) := by
  induction os generalizing r with
  | nil => exact gains_self r []
  | cons o os ih =>
    cases o with
    | ok f => exact gains_addFile.trans (ih (r.addFile f))
    | error e =>
      rw [collect]
      cases failFast with
      | true => exact gains_self r _
      | false => exact ih _

end StrategyResult

/-! ## Jobs -/

section Jobs

variable {σ : Type} {run : Job → ExceptT Failure (StateM σ) OutputFile} {path : Job → String}
  {failFast : Bool}

/-- A file that a job has come to has the path of the job. -/
def HasPathOf (path : Job → String) (job : Job) (o : Except Diagnostic OutputFile) : Prop :=
  ∀ f, o = .ok f → f.path.text = path job

theorem yields_attempt {job : Job} (hrun : Yields (run job) fun f ↦ f.path.text = path job) :
    Yields (attempt run job) (HasPathOf path job) := by
  intro s o ho
  rw [run_attempt] at ho
  rintro f rfl
  have hf : ((run job).run s).1 = .ok f := by
    revert ho
    cases ((run job).run s).1 with
    | ok f' =>
      intro ho
      cases ho
      rfl
    | error failure => cases failure <;> exact nofun
  exact hrun s f hf

/-- The files that jobs have come to have their paths. -/
theorem paths_of_outcomes {jobs : List Job} {os : List (Except Diagnostic OutputFile)}
    (h : List.Forall₂ (HasPathOf path) jobs os) :
    (pathTexts (os.filterMap Except.toOption)).Sublist (jobs.map path) := by
  induction h with
  | nil => exact .slnil
  | @cons job o jobs os hpath _ ih =>
    cases o with
    | ok f =>
      have hf : f.path.text = path job := hpath f rfl
      rw [List.map_cons, ← hf]
      exact ih.cons_cons _
    | error e => exact ih.cons _

theorem yields_runInOrder (hrun : ∀ job, Yields (run job) fun f ↦ f.path.text = path job)
    (jobs : List Job) (r : StrategyResult) :
    Yields (runInOrder run failFast r jobs) fun r' ↦ r.Gains (jobs.map path) r' := by
  induction jobs generalizing r with
  | nil => exact .pure (StrategyResult.gains_self r _)
  | cons job jobs ih =>
    rw [runInOrder]
    refine (yields_attempt (hrun job)).bind fun o ho ↦ ?_
    have hskipped : (jobs.map path).Subperm ((job :: jobs).map path) :=
      (List.sublist_cons_self _ _).subperm
    cases o with
    | ok f =>
      refine (ih _).mono fun r' hr' ↦ ?_
      rw [List.map_cons, ← ho f rfl]
      exact StrategyResult.gains_addFile.trans hr'
    | error e =>
      cases failFast with
      | true => exact .pure (StrategyResult.gains_self r _)
      | false => exact (ih _).mono fun r' hr' ↦ hr'.mono hskipped

theorem yields_runTogether (hrun : ∀ job, Yields (run job) fun f ↦ f.path.text = path job)
    (completed : List Job) (r : StrategyResult) :
    Yields (runTogether run failFast r completed) fun r' ↦ r.Gains (completed.map path) r' := by
  have hindexed : Yields (completed.mapM fun job ↦ return (job.index, ← attempt run job))
      (List.Forall₂ (fun job (o : Nat × _) ↦ HasPathOf path job o.2) completed) :=
    Yields.mapM fun job ↦ (yields_attempt (hrun job)).bind fun o ho ↦ .pure ho
  refine hindexed.bind fun outcomes houtcomes ↦ .pure ?_
  -- the files are those of the outcomes in another order
  have hsorted := (List.mergeSort_perm outcomes fun a b ↦ decide (a.1 ≤ b.1)).map Prod.snd
  have hpaths := (hsorted.filterMap Except.toOption).map (·.path.text)
  have hsublist := paths_of_outcomes (List.forall₂_map_right_iff.mpr houtcomes)
  exact (r.gains_collect failFast _).mono (hpaths.subperm.trans hsublist.subperm)

end Jobs

/-! ## Strategies -/

namespace TemplateStrategy

variable (s : TemplateStrategy) (d : Diagram)

/-- The paths within a strategy of the files for elements. -/
def elementOutputs : List String :=
  (s.elementFiles d).filterMap fun (e, t) ↦ (fillPattern t.output e.name).toOption

/-- The paths of the files that a strategy can render a diagram to. -/
def paths : List String :=
  (s.fixed.map (·.output) ++ s.elementOutputs d).map (s.directory ++ ·)

variable {s d} {library : TemplateLibrary} {disk : Disk}

theorem yields_runJob (job : Job) :
    Yields (s.runJob library disk d job) fun f ↦ f.path.text = s.directory ++ job.output := by
  refine Yields.bind (P := fun _ ↦ True) (fun _ _ _ ↦ trivial) fun content _ ↦ ?_
  split
  next path hpath =>
    rw [OutputPath.ofString] at hpath
    split at hpath
    · cases hpath
      exact .pure rfl
    · cases hpath
  next => exact fun _ _ h ↦ nomatch h

theorem outputs_fixedJobs {vars : List (String × Value)} {jobs : List Job}
    (h : s.fixedJobs library disk d vars = .ok jobs) :
    (jobs.map Job.output).Sublist (s.fixed.map (·.output)) := by
  obtain ⟨active, hactive, h⟩ := bind_eq_ok.mp h
  cases h
  have hsublist := (sublist_of_filterM hactive).map fun e ↦ e.1.output
  rw [← List.zipIdx_map_fst 0 s.fixed, List.map_map, List.map_map]
  exact hsublist

/-- A template that is not there costs its path, and no other. -/
theorem outputs_of_elementOutput {es : List (Element × ElementTemplate)}
    {os : List (Option (Element × ElementTemplate × String))}
    (h : List.Forall₂ (fun e o ↦ s.elementOutput library disk e.1 e.2 = .ok o) es os) :
    ((os.filterMap id).map (·.2.2)).Sublist
      (es.filterMap fun e ↦ (fillPattern e.2.output e.1.name).toOption) := by
  induction h with
  | nil => exact .slnil
  | @cons e o es os heo _ ih =>
    obtain ⟨present, -, heo⟩ := bind_eq_ok.mp heo
    cases present with
    | false =>
      cases heo
      exact ih.trans ((List.sublist_cons_self e es).filterMap _)
    | true =>
      obtain ⟨output, houtput, heo⟩ := bind_eq_ok.mp heo
      cases heo
      rw [mapError_eq_ok] at houtput
      rw [List.filterMap_cons_some (b := output) (by rw [houtput]; rfl)]
      exact ih.cons_cons output

theorem outputs_elementJobs {vars : List (String × Value)} {jobs : List Job}
    (h : s.elementJobs library disk d vars = .ok jobs) :
    (jobs.map Job.output).Sublist (s.elementOutputs d) := by
  obtain ⟨outputs, houtputs, h⟩ := bind_eq_ok.mp h
  cases h
  have hoffered := outputs_of_elementOutput (mapM_eq_ok.mp houtputs)
  rw [← List.zipIdx_map_fst 0 (outputs.filterMap id), List.map_map] at hoffered
  rw [List.map_map]
  exact hoffered

theorem subperm_map_directory {jobs : List Job} {outputs : List String}
    (h : (jobs.map Job.output).Sublist outputs) :
    (jobs.map fun job ↦ s.directory ++ job.output).Subperm (outputs.map (s.directory ++ ·)) := by
  have hsublist := h.map (s.directory ++ ·)
  rw [List.map_map] at hsublist
  exact hsublist.subperm

/-- **Where the files of a strategy can be.** Whatever the templates come to, and in whatever order
jobs are completed, the files have paths of the list. -/
theorem yields_renderCompleting {order : List Job → List Job}
    (horder : ∀ jobs, (order jobs).Perm jobs) :
    Yields (s.renderCompleting library disk d order) fun r ↦
      (pathTexts r.files).Subperm (s.paths d) := by
  have hrun : ∀ job, Yields (s.runJob library disk d job)
      fun f ↦ f.path.text = s.directory ++ job.output := yields_runJob
  -- without files for elements, the paths are those of the templates that are rendered once
  have hfirst : ((s.fixed.map (·.output)).map (s.directory ++ ·)).Subperm (s.paths d) :=
    ((List.sublist_append_left _ _).map _).subperm
  rw [renderCompleting, renderBy]
  refine (Yields.ofExcept _).bind fun missing _ ↦ ?_
  cases missing with
  | cons name names => exact .pure List.nil_subperm
  | nil =>
    refine (Yields.ofExcept _).bind fun own _ ↦ ?_
    refine (Yields.ofExcept _).bind fun fixed hfixed ↦ ?_
    refine (yields_runInOrder hrun fixed _).bind fun r hr ↦ ?_
    have hr := hr.mono (subperm_map_directory (outputs_fixedJobs hfixed))
    split
    · exact .pure (hr.subperm.trans hfirst)
    · refine (Yields.ofExcept _).bind fun jobs hjobs ↦ ?_
      refine (Yields.ofExcept _).bind fun workers _ ↦ ?_
      have hworked : Yields (if 1 < workers && 1 < jobs.length then
          runTogether (s.runJob library disk d) (d.isOn "fail_fast") r (order jobs)
          else runInOrder (s.runJob library disk d) (d.isOn "fail_fast") r jobs)
          fun r' ↦ r.Gains (jobs.map fun job ↦ s.directory ++ job.output) r' := by
        split
        · refine (yields_runTogether hrun (order jobs) r).mono fun r' hr' ↦ hr'.mono ?_
          exact ((horder jobs).map _).subperm
        · exact yields_runInOrder hrun jobs r
      refine hworked.mono fun r' hr' ↦ ?_
      have hr' := hr'.mono (subperm_map_directory (outputs_elementJobs hjobs))
      rw [paths, List.map_append]
      exact (hr.trans hr').subperm

/-- What holds in any order of completion holds of the jobs' own. -/
theorem yields_render :
    Yields (s.render library disk d) fun r ↦ (pathTexts r.files).Subperm (s.paths d) := by
  rw [render_eq]
  exact yields_renderCompleting fun jobs ↦ List.Perm.refl jobs

end TemplateStrategy

end DiagramForge
