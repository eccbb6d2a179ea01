import DiagramForge.Proofs.Template.Store
import DiagramForge.Strategy.Template

/-!
# Working through jobs

What a job comes to by itself is a value, its `outcome`: by `comesTo_renderTemplate` it does not
depend on the templates that other jobs have left in the store. So working through jobs, which is
done in a store, comes to a function of their outcomes: `workThrough` for jobs that are done one
after another, and the outcomes in the order of the indices for jobs that are done together.

`comesTo_renderTemplate` speaks of templates that exist. All jobs of a strategy have such a
template (`resolves_of_mem_fixedJobs`, `resolves_of_mem_elementJobs`), since a strategy makes no job
of a template that is not there, and does nothing if a required one is missing.
-/

namespace DiagramForge

open Template Outcome

/-! ## Jobs of a strategy -/

namespace TemplateStrategy

/-- All jobs of a strategy for a diagram, those of the templates that are rendered once first. -/
def jobs (s : TemplateStrategy) (library : TemplateLibrary) (disk : Disk) (d : Diagram) :
    Except Failure (List Job) := do
  let own ← s.vars d
  let vars := own ++ [("strategy", .text s.name)]
  let fixed ← s.fixedJobs library disk d vars
  let elements ← s.elementJobs library disk d vars
  return fixed ++ elements

variable (s : TemplateStrategy) (library : TemplateLibrary) (disk : Disk) (d : Diagram)

/-- What a job comes to by itself, from an empty store. -/
def outcome (job : Job) : Except Failure OutputFile := do
  let b ← compileTemplate library disk job.template
  let content ← (b.textFor disk d job.vars).mapError (RenderFault.failure job.template)
  match OutputPath.ofString (s.directory ++ job.output) with
  | .ok path => return { path, content, template := some job.template }
  | .error c => throw (.crash c)

variable {library disk} in
theorem comesTo_runJob {reads : TemplateKey → String → Prop} (hlibrary : library.KeyedBy disk reads)
    {job : Job} (hjob : library.Resolves disk job.template) :
    ComesTo (TemplateStore.Sound reads) (s.runJob library disk d job)
      (s.outcome library disk d job) := by
  rw [outcome, ← bind_assoc]
  refine (comesTo_renderTemplate hlibrary d hjob job.vars).bind fun content _ ↦ ?_
  cases OutputPath.ofString (s.directory ++ job.output) with
  | ok path => exact ComesTo.pure _
  | error c => exact ComesTo.ofExcept _

end TemplateStrategy

/-- What the outcome of a job counts as among others: a failure that is foreseen is kept. -/
def settle : Except Failure OutputFile → Except Failure (Except Diagnostic OutputFile)
  | .ok f => .ok (.ok f)
  | .error (.diagnostic d) => .ok (.error (d.withPhase "rendering"))
  | .error (.crash c) => .error (.crash c)

theorem settle_eq_ok {r : Except Failure OutputFile} :
    (∃ o, settle r = .ok o) ↔ ∀ c, r ≠ .error (.crash c) := by
  match r with
  | .ok f => exact ⟨fun _ ↦ nofun, fun _ ↦ ⟨_, rfl⟩⟩
  | .error (.diagnostic e) => exact ⟨fun _ ↦ nofun, fun _ ↦ ⟨_, rfl⟩⟩
  | .error (.crash c) => exact ⟨fun ⟨_, h⟩ ↦ (nomatch h), fun h ↦ absurd rfl (h c)⟩

/-! ## Outcomes of several jobs -/

/-- What outcomes come to one after another, up to the first failure to stop at. -/
def workThrough (outcome : Job → Except Failure OutputFile) (failFast : Bool)
    (r : StrategyResult) : List Job → Except Failure StrategyResult
  | [] => .ok r
  | job :: jobs => settle (outcome job) >>= fun o ↦
    match o with
    | .ok f => workThrough outcome failFast (r.record failFast (.ok f)) jobs
    | .error e =>
      let r := r.record failFast (.error e)
      if failFast then .ok r else workThrough outcome failFast r jobs

section WorkThrough

variable {outcome : Job → Except Failure OutputFile}

/-- Without a failure to stop at, all outcomes are collected. -/
theorem workThrough_false (r : StrategyResult) (jobs : List Job) :
    workThrough outcome false r jobs =
      (jobs.mapM fun job ↦ settle (outcome job)) >>= fun os ↦ .ok (r.collect false os) := by
  induction jobs generalizing r with
  | nil => rfl
  | cons job jobs ih =>
    rw [workThrough, List.mapM_cons, bind_assoc]
    refine bind_congr fun o ↦ ?_
    rw [bind_assoc]
    cases o with
    | ok f => exact ih (r.record false (.ok f))
    | error e => exact ih (r.record false (.error e))

/-- Where every outcome counts, they are collected. -/
theorem workThrough_eq {failFast : Bool} {jobs : List Job}
    {os : List (Except Diagnostic OutputFile)}
    (h : (jobs.mapM fun job ↦ settle (outcome job)) = .ok os) (r : StrategyResult) :
    workThrough outcome failFast r jobs = .ok (r.collect failFast os) := by
  rw [mapM_eq_ok] at h
  induction h generalizing r with
  | nil => rfl
  | @cons job o jobs os hjob _ ih =>
    rw [workThrough, hjob]
    cases o with
    | ok f => exact ih (r.record failFast (.ok f))
    | error e =>
      rw [StrategyResult.collect]
      cases failFast with
      | true => rfl
      | false => exact ih (r.record false (.error e))

end WorkThrough

section Jobs

variable {σ : Type} {I : σ → Prop} {run : Job → ExceptT Failure (StateM σ) OutputFile}
  {outcome : Job → Except Failure OutputFile} {failFast : Bool}

/-- A job is done, and what it comes to is settled. -/
theorem run_attempt (job : Job) (s : σ) :
    (attempt run job).run s = (settle ((run job).run s).1, ((run job).run s).2) := by
  rw [attempt]
  change StateT.run ((run job).run >>= _) s =
    (settle (StateT.run (run job).run s).1, (StateT.run (run job).run s).2)
  rw [StateT.run_bind]
  rcases StateT.run (run job).run s with ⟨(_ | _) | f, s'⟩ <;> rfl

theorem comesTo_attempt {job : Job} (hrun : ComesTo I (run job) (outcome job)) :
    ComesTo I (attempt run job) (settle (outcome job)) := by
  intro s hs
  obtain ⟨hresult, hI⟩ := hrun s hs
  rw [run_attempt, hresult]
  exact ⟨rfl, hI⟩

theorem comesTo_runInOrder {jobs : List Job}
    (hrun : ∀ job ∈ jobs, ComesTo I (run job) (outcome job)) (r : StrategyResult) :
    ComesTo I (runInOrder run failFast r jobs) (workThrough outcome failFast r jobs) := by
  induction jobs generalizing r with
  | nil => exact ComesTo.pure r
  | cons job jobs ih =>
    have hjobs := ih fun job hjob ↦ hrun job (List.mem_cons_of_mem _ hjob)
    refine (comesTo_attempt (hrun job List.mem_cons_self)).bind fun o _ ↦ ?_
    cases o with
    | ok f => exact hjobs (r.record failFast (.ok f))
    | error e =>
      cases failFast with
      | true => exact ComesTo.pure _
      | false => exact hjobs (r.record false (.error e))

/-- Values with their indices are the values beside the indices. -/
theorem mapM_indexed {ε α β ι : Type} (index : α → ι) (f : α → Except ε β) (as : List α) :
    (as.mapM fun a ↦ f a >>= fun b ↦ .ok (index a, b)) =
      as.mapM f >>= fun bs ↦ .ok ((as.map index).zip bs) := by
  induction as with
  | nil => rfl
  | cons a as ih =>
    rw [List.mapM_cons, List.mapM_cons, ih]
    cases f a with
    | error e => rfl
    | ok b => cases as.mapM f <;> rfl

/-- Values in the order of the indices beside them. -/
def inIndexOrder {α : Type} (indices : List Nat) (as : List α) : List α :=
  ((indices.zip as).mergeSort fun a b ↦ a.1 ≤ b.1).map (·.2)

/-- Jobs that are done together yield their outcomes in the order of their indices, whichever of
them is completed first. -/
theorem comesTo_runTogether {completed : List Job}
    (hrun : ∀ job ∈ completed, ComesTo I (run job) (outcome job)) (r : StrategyResult) :
    ComesTo I (runTogether run failFast r completed)
      ((completed.mapM fun job ↦ settle (outcome job)) >>= fun os ↦
        .ok (r.collect failFast (inIndexOrder (completed.map Job.index) os))) := by
  have hindexed := ComesTo.mapM (fun job hjob ↦ (comesTo_attempt (hrun job hjob)).bind fun o _ ↦
    ComesTo.pure (job.index, o))
  have htogether := hindexed.bind fun outcomes _ ↦ ComesTo.pure
    (r.collect failFast ((outcomes.mergeSort fun a b ↦ a.1 ≤ b.1).map (·.2)))
  refine htogether.trans ?_
  rw [mapM_indexed Job.index fun job ↦ settle (outcome job), bind_assoc]
  rfl

/-- Values beside indices in ascending order are in order already. -/
theorem inIndexOrder_eq {α : Type} {indices : List Nat} {as : List α}
    (hindices : indices.Pairwise (· < ·)) (hlength : indices.length = as.length) :
    inIndexOrder indices as = as := by
  have hsorted : (indices.zip as).Pairwise fun a b ↦ decide (a.1 ≤ b.1) = true := by
    simp only [decide_eq_true_eq]
    rw [← List.pairwise_map (f := Prod.fst), List.map_fst_zip (Nat.le_of_eq hlength)]
    exact hindices.imp Nat.le_of_lt
  rw [inIndexOrder, List.mergeSort_of_pairwise hsorted]
  exact List.map_snd_zip (Nat.le_of_eq hlength.symm)

end Jobs

/-! ## The templates of jobs -/

namespace TemplateStrategy

variable {s : TemplateStrategy} {library : TemplateLibrary} {disk : Disk} {d : Diagram}

/-- A required template that is not missing is there. -/
theorem has_of_required (hmissing : s.missing library disk = .ok []) {t : FixedTemplate}
    (ht : t ∈ s.fixed) (hrequired : t.required = true) :
    library.has disk (s.qualified t.template) = .ok true := by
  have hname : s.qualified t.template ∈
      (s.fixed.filter (·.required)).map fun t ↦ s.qualified t.template :=
    List.mem_map_of_mem (List.mem_filter.mpr ⟨ht, hrequired⟩)
  have hdecided := exists_of_filterM hmissing hname
  obtain ⟨lacking, hlacking⟩ := hdecided
  obtain ⟨present, hpresent, hnot⟩ := bind_eq_ok.mp hlacking
  cases present with
  | true => exact hpresent
  | false =>
    refine absurd ((mem_filterM hmissing).mpr ⟨hname, ?_⟩) List.not_mem_nil
    rw [hpresent]
    rfl

theorem has_of_isActive (hmissing : s.missing library disk = .ok []) {t : FixedTemplate}
    (ht : t ∈ s.fixed) (hactive : s.isActive library disk d t = .ok true) :
    library.has disk (s.qualified t.template) = .ok true := by
  rw [isActive] at hactive
  split at hactive
  · cases hactive
  · split at hactive
    next hrequired => exact has_of_required hmissing ht hrequired
    next => exact hactive

/-- The jobs of the templates that are rendered once are known if all of them can be looked for. -/
theorem exists_fixedJobs (vars : List (String × Value))
    (hhas : ∀ t ∈ s.fixed, ∃ b, library.has disk (s.qualified t.template) = .ok b) :
    ∃ jobs, s.fixedJobs library disk d vars = .ok jobs := by
  have hactive : ∀ e ∈ s.fixed.zipIdx, ∃ b, s.isActive library disk d e.1 = .ok b := by
    intro e he
    rw [isActive]
    split
    · exact ⟨false, rfl⟩
    · split
      · exact ⟨true, rfl⟩
      · exact hhas e.1 (List.fst_mem_of_mem_zipIdx he)
  obtain ⟨active, hactive⟩ := exists_filterM_eq_ok hactive
  exact ⟨_, bind_eq_ok.mpr ⟨active, hactive, rfl⟩⟩

/-- An active template has its job. -/
theorem mem_fixedJobs {vars : List (String × Value)} {jobs : List Job}
    (h : s.fixedJobs library disk d vars = .ok jobs) {t : FixedTemplate} {index : Nat}
    (ht : (t, index) ∈ s.fixed.zipIdx) (hactive : s.isActive library disk d t = .ok true) :
    ⟨index, s.qualified t.template, t.output, vars⟩ ∈ jobs := by
  obtain ⟨active, hfiltered, h⟩ := bind_eq_ok.mp h
  cases h
  exact List.mem_map_of_mem ((mem_filterM hfiltered).mpr ⟨ht, hactive⟩)

theorem has_of_mem_fixedJobs (hmissing : s.missing library disk = .ok [])
    {vars : List (String × Value)} {jobs : List Job}
    (h : s.fixedJobs library disk d vars = .ok jobs) {job : Job} (hjob : job ∈ jobs) :
    library.has disk job.template = .ok true := by
  obtain ⟨active, hactive, h⟩ := bind_eq_ok.mp h
  cases h
  obtain ⟨⟨t, index⟩, ht, rfl⟩ := List.mem_map.mp hjob
  obtain ⟨hmem, hyes⟩ := (mem_filterM hactive).mp ht
  have hfixed : t ∈ s.fixed := (List.mem_zipIdx' hmem).2 ▸ List.getElem_mem _
  exact has_of_isActive hmissing hfixed hyes

theorem resolves_of_mem_fixedJobs (hmissing : s.missing library disk = .ok [])
    {vars : List (String × Value)} {jobs : List Job}
    (h : s.fixedJobs library disk d vars = .ok jobs) {job : Job} (hjob : job ∈ jobs) :
    library.Resolves disk job.template :=
  TemplateLibrary.resolves_of_has (has_of_mem_fixedJobs hmissing h hjob)

theorem has_of_mem_elementJobs {vars : List (String × Value)} {jobs : List Job}
    (h : s.elementJobs library disk d vars = .ok jobs) {job : Job} (hjob : job ∈ jobs) :
    library.has disk job.template = .ok true := by
  obtain ⟨outputs, houtputs, h⟩ := bind_eq_ok.mp h
  cases h
  obtain ⟨⟨⟨e, t, output⟩, index⟩, hmem, rfl⟩ := List.mem_map.mp hjob
  have hsome : some (e, t, output) ∈ outputs := by
    have hfiltered := List.fst_mem_of_mem_zipIdx hmem
    simpa using hfiltered
  obtain ⟨⟨e', t'⟩, -, houtput⟩ := exists_of_mem_mapM houtputs hsome
  obtain ⟨present, hpresent, houtput⟩ := bind_eq_ok.mp houtput
  cases present with
  | false => cases houtput
  | true =>
    obtain ⟨path, -, houtput⟩ := bind_eq_ok.mp houtput
    cases houtput
    exact hpresent

theorem resolves_of_mem_elementJobs {vars : List (String × Value)} {jobs : List Job}
    (h : s.elementJobs library disk d vars = .ok jobs) {job : Job} (hjob : job ∈ jobs) :
    library.Resolves disk job.template :=
  TemplateLibrary.resolves_of_has (has_of_mem_elementJobs h hjob)

/-- The jobs for elements are in the order of their indices, which differ. -/
theorem elementJobs_ascending {vars : List (String × Value)} {jobs : List Job}
    (h : s.elementJobs library disk d vars = .ok jobs) :
    (jobs.map Job.index).Pairwise (· < ·) := by
  obtain ⟨outputs, -, h⟩ := bind_eq_ok.mp h
  cases h
  rw [List.map_map]
  have hindex : ((outputs.filterMap id).zipIdx.map Prod.snd).Pairwise (· < ·) := by
    rw [List.zipIdx_map_snd]
    exact List.pairwise_lt_range' 1
  rw [List.pairwise_map] at hindex ⊢
  exact hindex.imp fun h ↦ Nat.add_lt_add_left h _

end TemplateStrategy

end DiagramForge
