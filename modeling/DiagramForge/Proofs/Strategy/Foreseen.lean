import DiagramForge.Proofs.Strategy.Dated
import DiagramForge.Proofs.Strategy.Isolation

/-!
# What the built-in strategies come to

With the built-in templates nothing goes wrong that is not foreseen: what the library has can be
loaded, and all of it compiles. So a strategy comes to a result whatever its jobs come to, and the
files of the result are those of the jobs whose templates render:
`TemplateStrategy.comesTo_render_builtin`.

What is left to ask for are the jobs themselves. That no template is missing is known of the
built-in strategies: `TemplateStrategy.missing_builtin`.
-/

namespace DiagramForge

open Template Outcome

namespace Template

/-- What the library of the built-in templates has can be loaded. -/
theorem exists_load_of_has {disk : Disk} {name : String}
    (h : builtinLibrary.has disk name = .ok true) :
    ∃ source, builtinLibrary.load disk name = .ok source := by
  obtain ⟨found, hfound, hsome⟩ := bind_eq_ok.mp h
  cases found with
  | none => cases hsome
  | some file =>
    obtain ⟨e, he, -, hbytes⟩ := exists_lines_of_findTemplate? hfound
    have hloaded := (timeless_of_mem he).loaded
    rw [← hbytes] at hloaded
    exact ⟨_, bind_eq_ok.mpr ⟨_, hfound, hloaded⟩⟩

/-- The library of the built-in templates has each of them. -/
theorem has_of_mem_builtinTemplates (disk : Disk) {name : String}
    (h : name ∈ builtinTemplates.map (·.1)) : builtinLibrary.has disk name = .ok true := by
  obtain ⟨e, he, rfl⟩ := List.mem_map.mp h
  obtain ⟨found, hfound, hkey⟩ := bind_eq_ok.mp (key_of_mem_builtinTemplates disk he)
  cases found with
  | none => cases hkey
  | some file => exact bind_eq_ok.mpr ⟨_, hfound, rfl⟩

end Template

namespace TemplateStrategy

variable {s : TemplateStrategy} {d : Diagram} {disk : Disk} {job : Job}

/-- No built-in strategy misses a template that it cannot do without. -/
theorem missing_builtin (hs : s ∈ builtinStrategies) (disk : Disk) :
    s.missing builtinLibrary disk = .ok [] := by
  have hrequired : ∀ s ∈ builtinStrategies, ∀ t ∈ s.fixed.filter (·.required),
      s.qualified t.template ∈ builtinTemplates.map (·.1) := by
    decide +kernel
  refine filterM_eq_nil fun name hname ↦ ?_
  obtain ⟨t, ht, rfl⟩ := List.mem_map.mp hname
  rw [has_of_mem_builtinTemplates disk (hrequired s hs t ht)]
  rfl

/-- If a job of a built-in template fails, then in a way that is foreseen. -/
theorem foreseen_builtin (hjob : builtinLibrary.has disk job.template = .ok true)
    (hinside : leadsInside (s.directory ++ job.output) = true) :
    s.Foreseen builtinLibrary disk d job where
  decodes c h := by
    obtain ⟨source, hload⟩ := exists_load_of_has hjob
    cases h.symm.trans hload
  constants source fault hload hfault := by
    obtain ⟨b, hb, -⟩ := (timeless_of_load hload).compiled
    cases hb.symm.trans hfault
  inside _ _ _ _ _ _ := hinside

/-- The file of a job whose template is built in. The lines of the template compile to the block,
and the text of that is known. -/
theorem file?_builtin {lines : List String} {css : List (List Char)} {b : Block}
    {content : String} (hinside : leadsInside (s.directory ++ job.output) = true)
    (hlines : Written lines css) (hmem : (job.template, lines) ∈ builtinTemplates)
    (hb : compileChars (['\n'].intercalate css) = .ok b)
    (hcontent : b.textFor disk d job.vars = .ok content) :
    s.file? builtinLibrary disk d job = some
      { path := ⟨s.directory ++ job.output, hinside⟩, content, template := some job.template } := by
  have hload := load_builtin disk hmem
  rw [joinStrings_of_written hlines] at hload
  have hcompile : compile (String.ofList (['\n'].intercalate css)) = .ok b := by
    rw [compile_ofList, hb]
  have hpath : OutputPath.ofString (s.directory ++ job.output) = .ok ⟨_, hinside⟩ :=
    dif_pos hinside
  rw [file?_eq, toOption_eq_some]
  refine bind_eq_ok.mpr ⟨b, compileTemplate_eq_ok.mpr ⟨_, hload, hcompile⟩, ?_⟩
  refine bind_eq_ok.mpr ⟨content, mapError_eq_ok.mpr hcontent, ?_⟩
  rw [hpath]
  rfl

/-- **What a strategy comes to with the built-in templates.** If it misses none of them, and if all
its paths lead into the output directory, then its files are those of the jobs whose templates
render, in the order of the jobs. -/
theorem comesTo_render_builtin {jobs : List Job} {workers : Int}
    (hfast : d.isOn "fail_fast" = false) (hmissing : s.missing builtinLibrary disk = .ok [])
    (hjobs : s.jobs builtinLibrary disk d = .ok jobs) (hworkers : d.workers = .ok workers)
    (hinside : ∀ job ∈ jobs, leadsInside (s.directory ++ job.output) = true) :
    ∃ r, ComesTo (TemplateStore.Sound builtinReads) (s.render builtinLibrary disk d) (.ok r) ∧
      r.files = jobs.filterMap (s.file? builtinLibrary disk d) ∧ r.aborted = false := by
  have hhas : ∀ job ∈ jobs, builtinLibrary.has disk job.template = .ok true := by
    obtain ⟨own, -, hall⟩ := bind_eq_ok.mp hjobs
    obtain ⟨fixed, hfixed, hall⟩ := bind_eq_ok.mp hall
    obtain ⟨elements, helements, hall⟩ := bind_eq_ok.mp hall
    cases hall
    intro job hjob
    rcases List.mem_append.mp hjob with hjob | hjob
    · exact has_of_mem_fixedJobs hmissing hfixed hjob
    · exact has_of_mem_elementJobs helements hjob
  obtain ⟨os, hos⟩ := exists_mapM_eq_ok.mpr fun job hjob ↦ settle_eq_ok.mpr
    (foreseen_iff.mp (s.foreseen_builtin (d := d) (hhas job hjob) (hinside job hjob)))
  have hcollected := comesTo_render hfast hmissing hjobs hworkers
  rw [hos] at hcollected
  -- both ways to say what rendering comes to are about the empty store too
  have hcomes := s.comesTo_render_worked (d := d) (keyedBy_builtinReads disk)
  have hresult := ((hcomes {} TemplateStore.sound_empty).1.symm.trans
    (hcollected {} TemplateStore.sound_empty).1)
  rw [hresult] at hcomes
  refine ⟨_, hcomes, ?_⟩
  rw [StrategyResult.collect_false]
  exact ⟨(collected_of_settled (mapM_eq_ok.mp hos)).1, rfl⟩

end TemplateStrategy

end DiagramForge
