import DiagramForge.Proofs.Strategy.Completion
import DiagramForge.Proofs.Strategy.Isolation
import DiagramForge.Proofs.Template.Passages

/-!
# The files that a strategy emits

Every file of a result is what some job came to: `TemplateStrategy.exists_job_of_mem_files`. If the
result has no errors, then conversely each job has come to a file of it:
`TemplateStrategy.exists_jobs_of_unfailing`. Both hold whether jobs are done side by side or not,
and whether there is a failure to stop at or not: a run that stops has an error to show.

What such a file says is known as far as the passages of its template are known:
`TemplateStrategy.exists_written_of_outcome`.
-/

namespace DiagramForge

open Template Outcome

/-! ## Working through jobs -/

section WorkThrough

variable {outcome : Job → Except Failure OutputFile} {failFast : Bool} {r r' r'' : StrategyResult}
  {job : Job} {jobs jobs' : List Job}

theorem settle_eq_ok_ok {x : Except Failure OutputFile} {f : OutputFile} :
    settle x = .ok (.ok f) ↔ x = .ok f := by
  match x with
  | .ok f' => exact ⟨fun h ↦ by cases h; rfl, fun h ↦ by cases h; rfl⟩
  | .error (.diagnostic e) => exact ⟨fun h ↦ (by cases h), fun h ↦ (by cases h)⟩
  | .error (.crash c) => exact ⟨fun h ↦ (by cases h), fun h ↦ (by cases h)⟩

/-- The second result is the first one with what the jobs have come to. -/
structure Collects (outcome : Job → Except Failure OutputFile) (jobs : List Job)
    (r r' : StrategyResult) : Prop where
  /-- Each further file is that of a job. -/
  origin : ∀ f ∈ r'.files, f ∈ r.files ∨ ∃ job ∈ jobs, outcome job = .ok f
  /-- No file is lost. -/
  kept : r.files ⊆ r'.files
  /-- Where there are no errors, nobody has stopped, and each job has its file. -/
  complete : r'.errors = [] → r.errors = [] ∧ r'.aborted = r.aborted ∧
    ∀ job ∈ jobs, ∃ f ∈ r'.files, outcome job = .ok f

namespace Collects

theorem nil (r : StrategyResult) : Collects outcome [] r r where
  origin _ hf := .inl hf
  kept := List.Subset.refl _
  complete h := ⟨h, rfl, List.forall_mem_nil _⟩

/-- A result with an error to show has nothing to be complete about. -/
theorem of_error {e : Diagnostic} : Collects outcome jobs r (r.record failFast (.error e)) where
  origin _ hf := .inl hf
  kept := List.Subset.refl _
  complete h := absurd h (List.concat_ne_nil _ _)

theorem cons {f : OutputFile} (hjob : outcome job = .ok f)
    (h : Collects outcome jobs (r.record failFast (.ok f)) r') :
    Collects outcome (job :: jobs) r r' where
  origin g hg := by
    rcases h.origin g hg with hg | ⟨job', hjob', hg⟩
    · rcases List.mem_append.mp hg with hg | hg
      · exact .inl hg
      · exact .inr ⟨job, List.mem_cons_self, List.mem_singleton.mp hg ▸ hjob⟩
    · exact .inr ⟨job', List.mem_cons_of_mem _ hjob', hg⟩
  kept := List.Subset.trans (List.subset_append_left _ _) h.kept
  complete herrors := by
    obtain ⟨hno, haborted, hall⟩ := h.complete herrors
    have hf : f ∈ r'.files := h.kept (List.mem_append_right _ List.mem_cons_self)
    exact ⟨hno, haborted, List.forall_mem_cons.mpr ⟨⟨f, hf, hjob⟩, hall⟩⟩

/-- After an error there is no being complete. -/
theorem cons_error {e : Diagnostic} (h : Collects outcome jobs (r.record failFast (.error e)) r') :
    Collects outcome (job :: jobs) r r' where
  origin g hg := by
    rcases h.origin g hg with hg | ⟨job', hjob', hg⟩
    · exact .inl hg
    · exact .inr ⟨job', List.mem_cons_of_mem _ hjob', hg⟩
  kept := h.kept
  complete herrors := absurd (h.complete herrors).1 (List.concat_ne_nil _ _)

theorem append (h : Collects outcome jobs r r') (h' : Collects outcome jobs' r' r'') :
    Collects outcome (jobs ++ jobs') r r'' where
  origin g hg := by
    rcases h'.origin g hg with hg | ⟨job, hjob, hg⟩
    · rcases h.origin g hg with hg | ⟨job, hjob, hg⟩
      · exact .inl hg
      · exact .inr ⟨job, List.mem_append_left _ hjob, hg⟩
    · exact .inr ⟨job, List.mem_append_right _ hjob, hg⟩
  kept := List.Subset.trans h.kept h'.kept
  complete herrors := by
    obtain ⟨hno', haborted', hall'⟩ := h'.complete herrors
    obtain ⟨hno, haborted, hall⟩ := h.complete hno'
    refine ⟨hno, haborted'.trans haborted, List.forall_mem_append.mpr ⟨fun job hjob ↦ ?_, hall'⟩⟩
    obtain ⟨f, hf, hjob⟩ := hall job hjob
    exact ⟨f, h'.kept hf, hjob⟩

end Collects

/-- The induction is on the jobs. -/
theorem collects_of_workThrough (h : workThrough outcome failFast r jobs = .ok r') :
    Collects outcome jobs r r' := by
  induction jobs generalizing r with
  | nil =>
    cases h
    exact .nil _
  | cons job jobs ih =>
    obtain ⟨o, hsettle, h⟩ := bind_eq_ok.mp h
    cases o with
    | ok f => exact .cons (settle_eq_ok_ok.mp hsettle) (ih h)
    | error e =>
      cases failFast with
      | true =>
        cases h
        exact .of_error
      | false => exact .cons_error (ih h)

end WorkThrough

/-! ## Results -/

namespace TemplateStrategy

variable {s : TemplateStrategy} {library : TemplateLibrary} {disk : Disk} {d : Diagram}
  {store : TemplateStore} {r : StrategyResult}

/-- Jobs that are done side by side add to a result what they would add one after another. -/
theorem collects_of_worked {workers : Int} {jobs : List Job} {r' : StrategyResult}
    (hascending : (jobs.map Job.index).Pairwise (· < ·))
    (h : s.worked library disk d workers r jobs = .ok r') :
    Collects (s.outcome library disk d) jobs r r' := by
  rw [worked] at h
  split at h
  · obtain ⟨os, hos, h⟩ := bind_eq_ok.mp h
    have hlength : (jobs.map Job.index).length = os.length := by
      rw [List.length_map, (mapM_eq_ok.mp hos).length_eq]
    rw [inIndexOrder_eq hascending hlength] at h
    exact collects_of_workThrough ((workThrough_eq hos r).trans h)
  · exact collects_of_workThrough h

/-- What a run comes to: without a required template it has an error and no files, and otherwise it
works through the jobs of the templates that are rendered once, and then, unless it has stopped,
through those for the elements. -/
theorem collects_of_render (hstore : store.Sound (library.Reads disk))
    (h : ((s.render library disk d).run store).1 = .ok r) :
    (r.files = [] ∧ r.errors ≠ []) ∨ ∃ own fixed r₁, s.vars d = .ok own ∧
      s.fixedJobs library disk d (own ++ [("strategy", .text s.name)]) = .ok fixed ∧
      Collects (s.outcome library disk d) fixed { strategy := s.name } r₁ ∧
      ((r₁.aborted = true ∧ r = r₁) ∨ ∃ elements,
        s.elementJobs library disk d (own ++ [("strategy", .text s.name)]) = .ok elements ∧
        Collects (s.outcome library disk d) elements r₁ r) := by
  rw [(comesTo_render_worked (library.keyedBy_reads disk) store hstore).1] at h
  obtain ⟨missing, hmissing, h⟩ := bind_eq_ok.mp h
  cases missing with
  | cons name names =>
    cases h
    exact .inl ⟨rfl, List.cons_ne_nil _ _⟩
  | nil =>
    obtain ⟨own, hown, h⟩ := bind_eq_ok.mp h
    obtain ⟨fixed, hfixed, h⟩ := bind_eq_ok.mp h
    obtain ⟨r₁, hr₁, h⟩ := bind_eq_ok.mp h
    refine .inr ⟨own, fixed, r₁, hown, hfixed, collects_of_workThrough hr₁, ?_⟩
    by_cases haborted : r₁.aborted = true
    · rw [if_pos haborted] at h
      cases h
      exact .inl ⟨haborted, rfl⟩
    · rw [if_neg haborted] at h
      obtain ⟨elements, helements, h⟩ := bind_eq_ok.mp h
      obtain ⟨workers, -, h⟩ := bind_eq_ok.mp h
      exact .inr ⟨elements, helements, collects_of_worked (elementJobs_ascending helements) h⟩

/-- **Every file of a run is what a job came to**, one of a template that is rendered once or one
for an element. -/
theorem exists_job_of_mem_files (hstore : store.Sound (library.Reads disk))
    (h : ((s.render library disk d).run store).1 = .ok r) {f : OutputFile} (hf : f ∈ r.files) :
    ∃ own jobs job, s.vars d = .ok own ∧
      (s.fixedJobs library disk d (own ++ [("strategy", .text s.name)]) = .ok jobs ∨
        s.elementJobs library disk d (own ++ [("strategy", .text s.name)]) = .ok jobs) ∧
      job ∈ jobs ∧ s.outcome library disk d job = .ok f := by
  rcases collects_of_render hstore h with ⟨hnone, -⟩ |
    ⟨own, fixed, r₁, hown, hfixed, hcollects, hrest⟩
  · rw [hnone] at hf
    cases hf
  · have hfirst : f ∈ r₁.files → ∃ job ∈ fixed, s.outcome library disk d job = .ok f :=
      fun hf ↦ (hcollects.origin f hf).resolve_left List.not_mem_nil
    rcases hrest with ⟨-, rfl⟩ | ⟨elements, helements, hcollects'⟩
    · obtain ⟨job, hjob, hf⟩ := hfirst hf
      exact ⟨own, fixed, job, hown, .inl hfixed, hjob, hf⟩
    · rcases hcollects'.origin f hf with hf | ⟨job, hjob, hf⟩
      · obtain ⟨job, hjob, hf⟩ := hfirst hf
        exact ⟨own, fixed, job, hown, .inl hfixed, hjob, hf⟩
      · exact ⟨own, elements, job, hown, .inr helements, hjob, hf⟩

/-- **In a run without errors each job has come to a file.** -/
theorem exists_jobs_of_unfailing (hstore : store.Sound (library.Reads disk))
    (h : ((s.render library disk d).run store).1 = .ok r) (herrors : r.errors = []) :
    ∃ own fixed elements, s.vars d = .ok own ∧
      s.fixedJobs library disk d (own ++ [("strategy", .text s.name)]) = .ok fixed ∧
      s.elementJobs library disk d (own ++ [("strategy", .text s.name)]) = .ok elements ∧
      ∀ job ∈ fixed ++ elements, ∃ f ∈ r.files, s.outcome library disk d job = .ok f := by
  rcases collects_of_render hstore h with ⟨-, hsome⟩ |
    ⟨own, fixed, r₁, hown, hfixed, hcollects, hrest⟩
  · exact absurd herrors hsome
  · rcases hrest with ⟨haborted, rfl⟩ | ⟨elements, helements, hcollects'⟩
    · -- whoever has stopped has an error to show
      have hstopped := (hcollects.complete herrors).2.1
      rw [haborted] at hstopped
      cases hstopped
    · exact ⟨own, fixed, elements, hown, hfixed, helements,
        ((hcollects.append hcollects').complete herrors).2.2⟩

/-- Where each job comes to a file, there is a run without errors. -/
theorem exists_render_unfailing {jobs : List Job} {workers : Int}
    (hstore : store.Sound (library.Reads disk)) (hfast : d.isOn "fail_fast" = false)
    (hmissing : s.missing library disk = .ok []) (hjobs : s.jobs library disk d = .ok jobs)
    (hworkers : d.workers = .ok workers)
    (hall : ∀ job ∈ jobs, ∃ f, s.outcome library disk d job = .ok f) :
    ∃ r, ((s.render library disk d).run store).1 = .ok r ∧ r.errors = [] := by
  obtain ⟨files, hfiles⟩ := exists_mapM_eq_ok.mpr hall
  have hsettled : (jobs.mapM fun job ↦ settle (s.outcome library disk d job)) =
      .ok (files.map .ok) := by
    rw [mapM_eq_ok] at hfiles ⊢
    exact List.forall₂_map_right_iff.mpr (hfiles.imp fun _ _ h ↦ settle_eq_ok_ok.mpr h)
  rw [(comesTo_render hfast hmissing hjobs hworkers store hstore).1, hsettled]
  refine ⟨_, rfl, ?_⟩
  rw [StrategyResult.collect_false]
  refine List.filterMap_eq_nil_iff.mpr fun o ho ↦ ?_
  obtain ⟨f, -, rfl⟩ := List.mem_map.mp ho
  rfl

/-! ## The jobs there are -/

/-- A template that is rendered once has its job. -/
theorem exists_mem_fixedJobs {vars : List (String × Value)} {jobs : List Job}
    (h : s.fixedJobs library disk d vars = .ok jobs) {t : FixedTemplate} (ht : t ∈ s.fixed)
    (hactive : s.isActive library disk d t = .ok true) : ∃ job ∈ jobs,
      job.template = s.qualified t.template ∧ job.output = t.output ∧ job.vars = vars := by
  obtain ⟨index, hindex⟩ := List.mem_iff_getElem?.mp ht
  have hmem : (t, index) ∈ s.fixed.zipIdx := List.mem_zipIdx_iff_getElem?.mpr hindex
  exact ⟨_, mem_fixedJobs h hmem hactive, rfl, rfl, rfl⟩

/-- A template that is rendered for elements of a kind has a job for each of them. -/
theorem exists_mem_elementJobs {vars : List (String × Value)} {jobs : List Job}
    (h : s.elementJobs library disk d vars = .ok jobs) {e : Element} (he : e ∈ d.elements)
    {t : ElementTemplate} (ht : t ∈ s.perElement) (hkind : t.kind = e.kind)
    (hhas : library.has disk (s.qualified t.template) = .ok true) : ∃ job ∈ jobs,
      job.template = s.qualified t.template ∧ fillPattern t.output e.name = .ok job.output ∧
      job.vars = (e.kind.label, elementView d e) :: ("element", elementView d e) :: vars := by
  obtain ⟨outputs, houtputs, h⟩ := bind_eq_ok.mp h
  cases h
  have hfile : (e, t) ∈ s.elementFiles d := List.mem_flatMap.mpr ⟨e, he, List.mem_map_of_mem
    (List.mem_filter.mpr ⟨ht, beq_iff_eq.mpr hkind⟩)⟩
  obtain ⟨o, ho, houtput⟩ := exists_mem_of_mapM houtputs hfile
  obtain ⟨present, hpresent, houtput⟩ := bind_eq_ok.mp houtput
  cases hhas.symm.trans hpresent
  obtain ⟨output, hfill, houtput⟩ := bind_eq_ok.mp houtput
  cases houtput
  have hkept : (e, t, output) ∈ outputs.filterMap id := List.mem_filterMap.mpr ⟨_, ho, rfl⟩
  obtain ⟨index, hindex⟩ := List.mem_iff_getElem?.mp hkept
  have hmem : ((e, t, output), index) ∈ (outputs.filterMap id).zipIdx :=
    List.mem_zipIdx_iff_getElem?.mpr hindex
  exact ⟨_, List.mem_map_of_mem hmem, rfl, mapError_eq_ok.mp hfill, rfl⟩

/-- The jobs of the templates for elements are known if all of the templates can be looked for and
all of the patterns filled. -/
theorem exists_elementJobs (vars : List (String × Value))
    (hhas : ∀ t ∈ s.perElement, ∃ b, library.has disk (s.qualified t.template) = .ok b)
    (hfill : ∀ t ∈ s.perElement, ∀ name, ∃ output, fillPattern t.output name = .ok output) :
    ∃ jobs, s.elementJobs library disk d vars = .ok jobs := by
  have houtputs : ∃ outputs, ((s.elementFiles d).mapM fun file ↦
      s.elementOutput library disk file.1 file.2) = .ok outputs := by
    refine exists_mapM_eq_ok.mpr fun file hfile ↦ ?_
    obtain ⟨e, -, hfile⟩ := List.mem_flatMap.mp hfile
    obtain ⟨t, ht, rfl⟩ := List.mem_map.mp hfile
    have ht := List.mem_of_mem_filter ht
    obtain ⟨present, hpresent⟩ := hhas t ht
    obtain ⟨output, houtput⟩ := hfill t ht e.name
    cases present with
    | true => exact ⟨_, bind_eq_ok.mpr ⟨true, hpresent,
        bind_eq_ok.mpr ⟨output, mapError_eq_ok.mpr houtput, rfl⟩⟩⟩
    | false => exact ⟨none, bind_eq_ok.mpr ⟨false, hpresent, rfl⟩⟩
  obtain ⟨outputs, houtputs⟩ := houtputs
  exact ⟨_, bind_eq_ok.mpr ⟨outputs, houtputs, rfl⟩⟩

/-- A job of a template that is rendered once is that of such a template. -/
theorem exists_of_mem_fixedJobs {vars : List (String × Value)} {jobs : List Job}
    (h : s.fixedJobs library disk d vars = .ok jobs) {job : Job} (hjob : job ∈ jobs) :
    ∃ t ∈ s.fixed, s.isActive library disk d t = .ok true ∧
      job.template = s.qualified t.template ∧ job.output = t.output ∧ job.vars = vars := by
  obtain ⟨active, hactive, h⟩ := bind_eq_ok.mp h
  cases h
  obtain ⟨⟨t, index⟩, ht, rfl⟩ := List.mem_map.mp hjob
  obtain ⟨hmem, hyes⟩ := (mem_filterM hactive).mp ht
  exact ⟨t, List.fst_mem_of_mem_zipIdx hmem, hyes, rfl, rfl, rfl⟩

/-- A job of a template that is rendered for elements is that of such a template for an element. -/
theorem exists_of_mem_elementJobs {vars : List (String × Value)} {jobs : List Job}
    (h : s.elementJobs library disk d vars = .ok jobs) {job : Job} (hjob : job ∈ jobs) :
    ∃ e ∈ d.elements, ∃ t ∈ s.perElement, t.kind = e.kind ∧
      job.template = s.qualified t.template ∧ fillPattern t.output e.name = .ok job.output ∧
      job.vars = (e.kind.label, elementView d e) :: ("element", elementView d e) :: vars := by
  obtain ⟨outputs, houtputs, h⟩ := bind_eq_ok.mp h
  cases h
  obtain ⟨⟨⟨e, t, output⟩, index⟩, hmem, rfl⟩ := List.mem_map.mp hjob
  have hsome : some (e, t, output) ∈ outputs := by
    have hfiltered := List.fst_mem_of_mem_zipIdx hmem
    simpa using hfiltered
  obtain ⟨⟨e', t'⟩, hfile, houtput⟩ := exists_of_mem_mapM houtputs hsome
  obtain ⟨present, -, houtput⟩ := bind_eq_ok.mp houtput
  cases present with
  | false => cases houtput
  | true =>
    obtain ⟨path, hfill, houtput⟩ := bind_eq_ok.mp houtput
    cases houtput
    obtain ⟨e', he, hfile⟩ := List.mem_flatMap.mp hfile
    obtain ⟨t', ht, hfile⟩ := List.mem_map.mp hfile
    cases hfile
    obtain ⟨ht, hkind⟩ := List.mem_filter.mp ht
    exact ⟨e, he, t, ht, beq_iff_eq.mp hkind, rfl, mapError_eq_ok.mp hfill, rfl⟩

/-! ## What is in a file -/

/-- A file is rendered for an element: a job of the strategy for the element comes to it. -/
def EmittedFor (s : TemplateStrategy) (library : TemplateLibrary) (disk : Disk) (d : Diagram)
    (e : Element) (f : OutputFile) : Prop :=
  ∃ job, s.IsElementJob library disk d job ∧
    Entries.get? job.vars "element" = some (elementView d e) ∧ s.outcome library disk d job = .ok f

/-- What a job has come to, taken apart. -/
theorem outcome_eq_ok {job : Job} {f : OutputFile} (h : s.outcome library disk d job = .ok f) :
    f.path.text = s.directory ++ job.output ∧ f.template = some job.template ∧
      ∃ b, compileTemplate library disk job.template = .ok b ∧
        b.textFor disk d job.vars = .ok f.content := by
  obtain ⟨b, hb, h⟩ := bind_eq_ok.mp h
  obtain ⟨content, hcontent, h⟩ := bind_eq_ok.mp h
  split at h
  next path hpath =>
    cases h
    refine ⟨?_, rfl, b, hb, mapError_eq_ok.mp hcontent⟩
    rw [OutputPath.ofString] at hpath
    split at hpath
    next hinside =>
      cases hpath
      rfl
    next => cases hpath
  next => cases h

/-- In a run without errors there is a file for each template that is rendered once. -/
theorem exists_fixedFile (hstore : store.Sound (library.Reads disk))
    (h : ((s.render library disk d).run store).1 = .ok r) (herrors : r.errors = [])
    {t : FixedTemplate} (ht : t ∈ s.fixed) (hactive : s.isActive library disk d t = .ok true) :
    ∃ f ∈ r.files, f.path.text = s.directory ++ t.output := by
  obtain ⟨own, fixed, _, -, hfixed, -, hall⟩ := exists_jobs_of_unfailing hstore h herrors
  obtain ⟨job, hjob, -, houtput, -⟩ := exists_mem_fixedJobs hfixed ht hactive
  obtain ⟨f, hf, hcomes⟩ := hall job (List.mem_append_left _ hjob)
  exact ⟨f, hf, by rw [(outcome_eq_ok hcomes).1, houtput]⟩

/-- In a run without errors there is a file for each element with a template for its kind. -/
theorem exists_emittedFor (hstore : store.Sound (library.Reads disk))
    (h : ((s.render library disk d).run store).1 = .ok r) (herrors : r.errors = []) {e : Element}
    (he : e ∈ d.elements) {t : ElementTemplate} (ht : t ∈ s.perElement) (hkind : t.kind = e.kind)
    (hhas : library.has disk (s.qualified t.template) = .ok true) :
    ∃ f ∈ r.files, s.EmittedFor library disk d e f ∧
      ∃ output, fillPattern t.output e.name = .ok output ∧
        f.path.text = s.directory ++ output := by
  obtain ⟨own, _, elements, hown, -, helements, hall⟩ := exists_jobs_of_unfailing hstore h herrors
  obtain ⟨job, hjob, -, hfill, hvars⟩ := exists_mem_elementJobs helements he ht hkind hhas
  obtain ⟨f, hf, hcomes⟩ := hall job (List.mem_append_right _ hjob)
  refine ⟨f, hf, ⟨job, ⟨own, elements, hown, helements, hjob⟩, ?_, hcomes⟩, job.output, hfill,
    (outcome_eq_ok hcomes).1⟩
  rw [hvars, Entries.get?_cons]
  split
  · rfl
  · rfl

/-- What a job of a built-in template has come to has in it what may be written for a passage of the
template. -/
theorem exists_written_of_outcome {job : Job} {f : OutputFile} {passages : List Block}
    (h : s.outcome builtinLibrary disk d job = .ok f) (hhas : BuiltinHas job.template passages)
    {passage : Block} (hpassage : passage ∈ passages) {p : String → Prop}
    (hp : passage.Writes (hostOf disk d (bindings d job.vars) fragmentDepth) {}
      (bindings d job.vars) p) :
    ∃ before t after, p t ∧ f.content = before ++ t ++ after := by
  obtain ⟨-, -, b, hb, hcontent⟩ := outcome_eq_ok h
  exact Block.exists_of_textFor (hhas disk b hb passage hpassage) hcontent hp

/-! ## Files of the built-in templates -/

/-- The lines of a template compile, and the template renders with some variables. -/
def Renders (disk : Disk) (d : Diagram) (vars : List (String × Value)) (lines : List String) :
    Prop :=
  ∃ b content, compile (Text.joinStrings "\n" lines) = .ok b ∧ b.textFor disk d vars = .ok content

/-- Several templates that are known character by character, found out all at once: what they have
in common, such as the fragments they include, is evaluated once. -/
theorem renders_of_written {vars : List (String × Value)} {templates : List (List String)}
    {csss : List (List (List Char))} (hlines : List.Forall₂ Written templates csss)
    (hcss : (csss.all fun css ↦ (compileChars (['\n'].intercalate css)).toOption.any fun b ↦
      (b.textFor disk d vars).toOption.isSome) = true) :
    ∀ lines ∈ templates, Renders disk d vars lines := by
  induction hlines with
  | nil => exact List.forall_mem_nil _
  | cons hwritten _ ih =>
    obtain ⟨hfirst, hrest⟩ := Bool.and_eq_true_iff.mp hcss
    obtain ⟨b, hb, hcontent⟩ := (Option.any_eq_true _ _).mp hfirst
    obtain ⟨content, hcontent⟩ := Option.isSome_iff_exists.mp hcontent
    refine List.forall_mem_cons.mpr ⟨⟨b, content, ?_, toOption_eq_some.mp hcontent⟩, ih hrest⟩
    rw [joinStrings_of_written hwritten, compile_ofList]
    exact toOption_eq_some.mp hb

/-- A job of a built-in template that renders comes to a file. -/
theorem exists_outcome_of_renders {job : Job} {lines : List String}
    (hmem : (job.template, lines) ∈ builtinTemplates) (h : Renders disk d job.vars lines)
    (hinside : leadsInside (s.directory ++ job.output) = true) :
    ∃ f, s.outcome builtinLibrary disk d job = .ok f := by
  obtain ⟨b, content, hb, hcontent⟩ := h
  have hload := load_builtin disk hmem
  have hcompile : compileTemplate builtinLibrary disk job.template = .ok b :=
    compileTemplate_eq_ok.mpr ⟨_, hload, hb⟩
  have hpath : OutputPath.ofString (s.directory ++ job.output) = .ok ⟨_, hinside⟩ :=
    dif_pos hinside
  refine ⟨{ path := ⟨_, hinside⟩, content, template := some job.template }, ?_⟩
  refine bind_eq_ok.mpr ⟨b, hcompile, bind_eq_ok.mpr ⟨content, mapError_eq_ok.mpr hcontent, ?_⟩⟩
  rw [hpath]
  rfl

/-- A built-in template with a name renders with some variables. -/
def RendersBuiltin (disk : Disk) (d : Diagram) (vars : List (String × Value)) (name : String) :
    Prop :=
  ∃ lines, (name, lines) ∈ builtinTemplates ∧ Renders disk d vars lines

/-- **If all templates render, then there is a run without errors.** This takes paths that lead into
the output directory, and settings that say how many workers there are. -/
theorem exists_run_of_renders {own : List (String × Value)} {workers : Int}
    (hstore : store.Sound (builtinLibrary.Reads disk)) (hfast : d.isOn "fail_fast" = false)
    (hmissing : s.missing builtinLibrary disk = .ok []) (hworkers : d.workers = .ok workers)
    (hown : s.vars d = .ok own)
    (hhas : ∀ t ∈ s.fixed, ∃ b, builtinLibrary.has disk (s.qualified t.template) = .ok b)
    (hfixed : ∀ t ∈ s.fixed, s.isActive builtinLibrary disk d t = .ok true →
      leadsInside (s.directory ++ t.output) = true ∧
      RendersBuiltin disk d (own ++ [("strategy", .text s.name)]) (s.qualified t.template))
    (helement : ∀ t ∈ s.perElement,
      (∃ b, builtinLibrary.has disk (s.qualified t.template) = .ok b) ∧
      (∀ name, ∃ output, fillPattern t.output name = .ok output) ∧
      ∀ e ∈ d.elements, t.kind = e.kind → ∀ output, fillPattern t.output e.name = .ok output →
        leadsInside (s.directory ++ output) = true ∧
        RendersBuiltin disk d ((e.kind.label, elementView d e) :: ("element", elementView d e) ::
          (own ++ [("strategy", .text s.name)])) (s.qualified t.template)) :
    ∃ r, ((s.render builtinLibrary disk d).run store).1 = .ok r ∧ r.errors = [] := by
  obtain ⟨fixed, hfixedJobs⟩ := exists_fixedJobs (d := d) (own ++ [("strategy", .text s.name)]) hhas
  obtain ⟨elements, helementJobs⟩ := exists_elementJobs (d := d)
    (own ++ [("strategy", .text s.name)]) (fun t ht ↦ (helement t ht).1)
    fun t ht ↦ (helement t ht).2.1
  have hjobs : s.jobs builtinLibrary disk d = .ok (fixed ++ elements) :=
    bind_eq_ok.mpr ⟨own, hown, bind_eq_ok.mpr ⟨fixed, hfixedJobs,
      bind_eq_ok.mpr ⟨elements, helementJobs, rfl⟩⟩⟩
  refine exists_render_unfailing hstore hfast hmissing hjobs hworkers fun job hjob ↦ ?_
  rcases List.mem_append.mp hjob with hjob | hjob
  · obtain ⟨t, ht, hactive, htemplate, houtput, hvars⟩ := exists_of_mem_fixedJobs hfixedJobs hjob
    obtain ⟨hinside, lines, hmem, hrenders⟩ := hfixed t ht hactive
    rw [← htemplate] at hmem
    rw [← houtput] at hinside
    rw [← hvars] at hrenders
    exact exists_outcome_of_renders hmem hrenders hinside
  · obtain ⟨e, he, t, ht, hkind, htemplate, hfill, hvars⟩ :=
      exists_of_mem_elementJobs helementJobs hjob
    obtain ⟨hinside, lines, hmem, hrenders⟩ := (helement t ht).2.2 e he hkind _ hfill
    rw [← htemplate] at hmem
    rw [← hvars] at hrenders
    exact exists_outcome_of_renders hmem hrenders hinside

end TemplateStrategy

end DiagramForge
