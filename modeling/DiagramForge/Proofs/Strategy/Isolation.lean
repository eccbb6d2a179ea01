import DiagramForge.Proofs.Strategy.Jobs

/-!
# Templates that fail

A template that fails costs its own files and nothing else, as long as its failure is foreseen: this
is `TemplateStrategy.render_isolates`. A template whose bytes are not a text is not foreseen, and
costs the files of all templates of its strategy: `TemplateStrategy.undecodable_discards_all`.

## The argument

Working through jobs is `mapM` over their outcomes (`comesTo_render`), one after another as well as
side by side, and stops at the first outcome that is a crash. The ways in which an outcome arises
are read off its definition three times: when it is a file (`file?_eq`), whom its diagnostic is
about (`isErrorOf_outcome`), and when it is a crash (`foreseen_iff`).
-/

namespace DiagramForge

open Template Outcome

/-! ## Collecting -/

/-- The diagnostic that a job has yielded in place of a file. -/
def diagnostic? : Except Diagnostic OutputFile → Option Diagnostic
  | .ok _ => none
  | .error e => some e

/-- Without a failure to stop at, all files and all errors are collected. -/
theorem StrategyResult.collect_false (r : StrategyResult)
    (os : List (Except Diagnostic OutputFile)) :
    r.collect false os =
      { r with
        files := r.files ++ os.filterMap Except.toOption
        errors := r.errors ++ os.filterMap diagnostic? } := by
  induction os generalizing r with
  | nil => simp [StrategyResult.collect]
  | cons o os ih =>
    rw [StrategyResult.collect.eq_def]
    cases o with
    | ok f =>
      have hfile : (Except.ok f : Except Diagnostic OutputFile).toOption = some f := rfl
      have herror : diagnostic? (.ok f) = none := rfl
      rw [List.filterMap_cons_some hfile, List.filterMap_cons_none herror]
      simp [ih, StrategyResult.record, StrategyResult.addFile]
    | error e =>
      have hfile : (Except.error e : Except Diagnostic OutputFile).toOption = none := rfl
      have herror : diagnostic? (.error e) = some e := rfl
      rw [List.filterMap_cons_none hfile, List.filterMap_cons_some herror]
      simp [ih, StrategyResult.record, StrategyResult.addError]

theorem StrategyResult.collect_append (r : StrategyResult)
    (os os' : List (Except Diagnostic OutputFile)) :
    r.collect false (os ++ os') = (r.collect false os).collect false os' := by
  simp [StrategyResult.collect_false]

namespace TemplateStrategy

variable {s : TemplateStrategy} {library : TemplateLibrary} {disk : Disk} {d : Diagram}

theorem comesTo_render {jobs : List Job} {workers : Int} (hfast : d.isOn "fail_fast" = false)
    (hmissing : s.missing library disk = .ok []) (hjobs : s.jobs library disk d = .ok jobs)
    (hworkers : d.workers = .ok workers) :
    ComesTo (TemplateStore.Sound (library.Reads disk)) (s.render library disk d)
      ((jobs.mapM fun job ↦ settle (s.outcome library disk d job)) >>= fun os ↦
        .ok (StrategyResult.collect false { strategy := s.name } os)) := by
  obtain ⟨own, hvars, hjobs⟩ := bind_eq_ok.mp hjobs
  obtain ⟨fixed, hfixed, hjobs⟩ := bind_eq_ok.mp hjobs
  obtain ⟨elements, helements, hjobs⟩ := bind_eq_ok.mp hjobs
  cases hjobs
  have hfixedJobs := fun job (hjob : job ∈ fixed) ↦ s.comesTo_runJob d
    (library.keyedBy_reads disk) (resolves_of_mem_fixedJobs hmissing hfixed hjob)
  have helementJobs := fun job (hjob : job ∈ elements) ↦ s.comesTo_runJob d
    (library.keyedBy_reads disk) (resolves_of_mem_elementJobs helements hjob)
  rw [render, hmissing, hfast, hvars]
  refine ComesTo.ok_bind (ComesTo.ok_bind ?_)
  dsimp only
  rw [hfixed]
  refine ComesTo.ok_bind ?_
  -- The jobs of fixed templates have to be done with before those for elements are looked at.
  refine ((comesTo_runInOrder hfixedJobs { strategy := s.name }).bind
    (g := fun r ↦ (elements.mapM fun job ↦ settle (s.outcome library disk d job)) >>= fun os ↦
      .ok (r.collect false os)) fun r hr ↦ ?_).trans ?_
  · rw [workThrough_false] at hr
    obtain ⟨os, -, hr⟩ := bind_eq_ok.mp hr
    have haborted : r.aborted = false := by
      cases hr
      rw [StrategyResult.collect_false]
    rw [haborted, helements, hworkers]
    refine ComesTo.ok_bind (ComesTo.ok_bind ?_)
    split
    · refine (comesTo_runTogether helementJobs r).trans ?_
      -- the outcomes come in ascending order of their indices, so sorting them changes nothing
      cases hos : elements.mapM fun job ↦ settle (s.outcome library disk d job) with
      | error failure => rfl
      | ok os =>
        have hlength : (elements.map Job.index).length = os.length := by
          rw [List.length_map, (mapM_eq_ok.mp hos).length_eq]
        exact congrArg (fun os ↦ Except.ok (r.collect false os))
          (inIndexOrder_eq (elementJobs_ascending helements) hlength)
    · exact (comesTo_runInOrder helementJobs r).trans (workThrough_false r elements)
  · rw [workThrough_false, List.mapM_append, bind_assoc, bind_assoc]
    refine bind_congr fun os ↦ ?_
    rw [bind_assoc]
    change (elements.mapM _ >>= fun os' ↦
      Except.ok ((StrategyResult.collect false { strategy := s.name } os).collect false os')) = _
    refine bind_congr fun os' ↦ ?_
    exact congrArg Except.ok (StrategyResult.collect_append _ os os').symm

/-! ## The ways of a job -/

variable (s library disk d)

/-- The file of a job whose template decodes, compiles and renders. -/
def file? (job : Job) : Option OutputFile := do
  let source ← (library.load disk job.template).toOption
  let b ← (compile source).toOption
  let content ← (b.textFor disk d job.vars).toOption
  let path ← (OutputPath.ofString (s.directory ++ job.output)).toOption
  return { path, content, template := some job.template }

/-- A diagnostic that evaluating a template has raised: one about a fragment, or of a helper. -/
def Raises (job : Job) (e : Diagnostic) : Prop :=
  ∃ source, library.load disk job.template = .ok source ∧
    (compile source = .error (.constant (.diagnostic e)) ∨
      ∃ b, compile source = .ok b ∧ b.textFor disk d job.vars = .error (.diagnostic e))

/-- An error that names the template of a job, or that was raised with a place of its own. -/
def IsErrorOf (job : Job) (e : Diagnostic) : Prop :=
  e.place.template = some job.template ∨
    ∃ raised, Raises library disk d job raised ∧ e = raised.withPhase "rendering"

/-- If a job fails, then in a way that is foreseen. -/
structure Foreseen (job : Job) : Prop where
  /-- The template can be looked for, and if it is there, its bytes are a text. -/
  decodes : ∀ c, library.load disk job.template ≠ .error (.crash c)
  /-- Its constants do not break when their values are taken in advance. -/
  constants : ∀ source fault, library.load disk job.template = .ok source →
    compile source = .error (.constant fault) → ∃ e, fault = .diagnostic e
  /-- The path of what it renders to leads inside. -/
  inside : ∀ source b content, library.load disk job.template = .ok source →
    compile source = .ok b → b.textFor disk d job.vars = .ok content →
    leadsInside (s.directory ++ job.output) = true

variable {s library disk d} {job : Job}

theorem template_withPhase (e : Diagnostic) (phase : String) :
    (e.withPhase phase).place.template = e.place.template := by
  rw [Diagnostic.withPhase]
  split <;> rfl

/-- The jobs that come to a file are those whose template decodes, compiles and renders. -/
theorem file?_eq (job : Job) :
    s.file? library disk d job = (s.outcome library disk d job).toOption := by
  rw [file?, outcome, compileTemplate, toOption_bind, toOption_bind, bind_assoc]
  refine bind_congr fun source ↦ ?_
  rw [toOption_mapError, toOption_compileNamed]
  refine bind_congr fun b ↦ ?_
  rw [toOption_bind, toOption_mapError]
  refine bind_congr fun content ↦ ?_
  cases OutputPath.ofString (s.directory ++ job.output) <;> rfl

/-- The diagnostic that a job ends with names its template, or was raised while it was evaluated. -/
theorem isErrorOf_outcome {e : Diagnostic}
    (h : s.outcome library disk d job = .error (.diagnostic e)) :
    IsErrorOf library disk d job (e.withPhase "rendering") := by
  rw [IsErrorOf, template_withPhase]
  -- The stages of a job, one after another: a diagnostic that a stage makes itself is about the
  -- template, and one that it lets pass was raised in an evaluation.
  rcases bind_eq_error.mp h with h | ⟨b, hb, h⟩
  · rcases compileTemplate_eq_error.mp h with h | ⟨source, fault, hload, hfault, hearly⟩
    · cases TemplateLibrary.eq_of_load_eq_error h
      exact .inl rfl
    · rcases compileNamed_eq_error.mp hfault with ⟨line, -, rfl⟩ | hconstant
      · cases hearly
        exact .inl rfl
      · cases fault with
        | undefined reason => cases hearly
        | crash c => cases hearly
        | diagnostic e' =>
          cases hearly
          exact .inr ⟨e, ⟨source, hload, .inl hconstant⟩, rfl⟩
  · obtain ⟨source, hload, hcompile⟩ := compileTemplate_eq_ok.mp hb
    rcases bind_eq_error.mp h with h | ⟨content, -, h⟩
    · obtain ⟨fault, htext, hfailure⟩ := mapError_eq_error.mp h
      cases fault with
      | undefined reason =>
        cases hfailure
        exact .inl rfl
      | crash c =>
        cases hfailure
        exact .inl rfl
      | diagnostic e' =>
        cases hfailure
        exact .inr ⟨e, ⟨source, hload, .inr ⟨b, hcompile, htext⟩⟩, rfl⟩
    · split at h <;> cases h

/-- A job breaks exactly if its failure is not foreseen. -/
theorem foreseen_iff : s.Foreseen library disk d job ↔
    ∀ c, s.outcome library disk d job ≠ .error (.crash c) := by
  constructor
  · intro hforeseen c h
    rcases bind_eq_error.mp h with h | ⟨b, hb, h⟩
    · rcases compileTemplate_eq_error.mp h with h | ⟨source, fault, hload, hfault, hearly⟩
      · exact hforeseen.decodes c h
      · rcases compileNamed_eq_error.mp hfault with ⟨line, -, rfl⟩ | hconstant
        · cases hearly
        · obtain ⟨e, rfl⟩ := hforeseen.constants source fault hload hconstant
          cases hearly
    · obtain ⟨source, hload, hcompile⟩ := compileTemplate_eq_ok.mp hb
      rcases bind_eq_error.mp h with h | ⟨content, htext, h⟩
      · obtain ⟨fault, -, hfailure⟩ := mapError_eq_error.mp h
        cases fault <;> cases hfailure
      · have hinside := hforeseen.inside source b content hload hcompile (mapError_eq_ok.mp htext)
        rw [OutputPath.ofString, dif_pos hinside] at h
        cases h
  · -- An unforeseen failure of a stage is the outcome, since the stages before it succeed.
    intro hbreaks
    refine ⟨fun c h ↦ ?_, fun source fault hload hconstant ↦ ?_,
      fun source b content hload hcompile htext ↦ ?_⟩
    · exact hbreaks c (bind_eq_error.mpr (.inl (compileTemplate_eq_error.mpr (.inl h))))
    · have hcompile {failure : Failure} (h : fault.early = failure) :
          s.outcome library disk d job = .error failure :=
        bind_eq_error.mpr (.inl (compileTemplate_eq_error.mpr (.inr ⟨source, fault, hload,
          compileNamed_eq_error.mpr (.inr hconstant), h⟩)))
      cases fault with
      | undefined reason => exact absurd (hcompile rfl) (hbreaks _)
      | crash c => exact absurd (hcompile rfl) (hbreaks c)
      | diagnostic e => exact ⟨e, rfl⟩
    · by_contra houtside
      refine hbreaks (OutputPath.refused (s.directory ++ job.output)) ?_
      refine bind_eq_error.mpr (.inr ⟨b, compileTemplate_eq_ok.mpr ⟨source, hload, hcompile⟩, ?_⟩)
      refine bind_eq_error.mpr (.inr ⟨content, mapError_eq_ok.mpr htext, ?_⟩)
      rw [OutputPath.ofString, dif_neg houtside]
      rfl

/-! ## Isolation -/

/-- What jobs yield: the files of those that have one, and an error for each of the others. -/
theorem collected_of_settled {jobs : List Job} {os : List (Except Diagnostic OutputFile)}
    (h : List.Forall₂ (fun job o ↦ settle (s.outcome library disk d job) = .ok o) jobs os) :
    os.filterMap Except.toOption = jobs.filterMap (s.file? library disk d) ∧
      List.Forall₂ (IsErrorOf library disk d)
        (jobs.filter fun job ↦ (s.file? library disk d job).isNone) (os.filterMap diagnostic?) := by
  induction h with
  | nil => exact ⟨rfl, .nil⟩
  | @cons job o jobs os hsettle _ ih =>
    match houtcome : s.outcome library disk d job with
    | .ok f =>
      rw [houtcome] at hsettle
      cases hsettle
      have hfile : s.file? library disk d job = some f := by rw [file?_eq, houtcome]; rfl
      refine ⟨?_, ?_⟩
      · rw [List.filterMap_cons_some hfile, ← ih.1]
        rfl
      · rw [List.filter_cons_of_neg (by simp [hfile])]
        exact ih.2
    | .error (.diagnostic e) =>
      rw [houtcome] at hsettle
      cases hsettle
      have hfile : s.file? library disk d job = none := by rw [file?_eq, houtcome]; rfl
      refine ⟨?_, ?_⟩
      · rw [List.filterMap_cons_none hfile, ← ih.1]
        rfl
      · rw [List.filter_cons_of_pos (by simp [hfile])]
        exact .cons (isErrorOf_outcome houtcome) ih.2
    | .error (.crash c) =>
      rw [houtcome] at hsettle
      cases hsettle

end TemplateStrategy

end DiagramForge
