import DiagramForge.Proofs.Strategy.Jobs
import Mathlib.Data.List.Nodup

/-!
# Files that are rendered side by side

The files for elements may be rendered side by side, and then the jobs are completed in some order
that nobody chooses. It does not show: `TemplateStrategy.render_completing` says that rendering
comes to the same as if every job had waited for the one before it, down to the files that are
given up after a failure to stop at.

## The argument

Rendering differs from rendering in order in one step, so `renderBy` leaves that step open.
`comesTo_renderBy` says what it comes to if the step comes to what working through the jobs does.
Jobs that are done together come to their outcomes in the order of their indices
(`comesTo_runTogether`), and sorting the jobs themselves by their indices undoes any order of
completion (`mergeSort_completed`). All of them are done, also those after a failure to stop at;
collecting the outcomes leaves these out, as working through the jobs does (`workThrough_eq`).

Of two crashes, jobs done together come to the one that is completed first. So the jobs for elements
are supposed to yield a file or a diagnostic each. A job is done as a whole: the orders are those of
whole jobs, which share the store of compiled templates one after another.
-/

namespace DiagramForge

open Template Outcome

/-! ## Orders of completion -/

section Completion

variable {completed jobs : List Job}

/-- Sorting by their indices puts jobs that were completed in any order back in place. -/
theorem mergeSort_completed (h : completed.Perm jobs)
    (hjobs : (jobs.map Job.index).Pairwise (· < ·)) :
    (completed.mergeSort fun a b ↦ a.index ≤ b.index) = jobs := by
  have hsorted : (completed.mergeSort fun a b ↦ a.index ≤ b.index).Pairwise
      fun a b ↦ decide (a.index ≤ b.index) = true := by
    refine List.pairwise_mergeSort (fun a b c hab hbc ↦ ?_) (fun a b ↦ ?_) completed
    · rw [decide_eq_true_eq] at hab hbc ⊢
      exact Nat.le_trans hab hbc
    · rw [Bool.or_eq_true, decide_eq_true_eq, decide_eq_true_eq]
      exact Nat.le_total _ _
  simp only [decide_eq_true_eq] at hsorted
  have hascending : jobs.Pairwise fun a b ↦ a.index ≤ b.index :=
    (List.pairwise_map.mp hjobs).imp Nat.le_of_lt
  have hnodup : (jobs.map Job.index).Nodup := hjobs.imp Nat.ne_of_lt
  have hperm := (List.mergeSort_perm completed fun a b ↦ a.index ≤ b.index).trans h
  refine hperm.eq_of_pairwise (fun a b ha hb hab hba ↦ ?_) hsorted hascending
  exact List.inj_on_of_nodup_map hnodup (hperm.mem_iff.mp ha) hb (Nat.le_antisymm hab hba)

/-- What jobs have yielded is in the order of the jobs, whatever order they were completed in. -/
theorem inIndexOrder_completed {α : Type} (yielded : Job → α) (h : completed.Perm jobs)
    (hjobs : (jobs.map Job.index).Pairwise (· < ·)) :
    inIndexOrder (completed.map Job.index) (completed.map yielded) = jobs.map yielded := by
  rw [inIndexOrder, List.zip_map', ← List.map_mergeSort (r := fun a b ↦ decide (a.index ≤ b.index))
    (fun _ _ _ _ ↦ rfl), mergeSort_completed h hjobs, List.map_map]
  rfl

variable {σ : Type} {I : σ → Prop} {run : Job → ExceptT Failure (StateM σ) OutputFile}
  {outcome : Job → Except Failure OutputFile} {failFast : Bool}

/-- Jobs that are done together come to the same as jobs that are done one after another, if each
of them yields a file or a diagnostic. -/
theorem comesTo_runTogether_of_perm (hrun : ∀ job ∈ jobs, ComesTo I (run job) (outcome job))
    (hforeseen : ∀ job ∈ jobs, ∀ c, outcome job ≠ .error (.crash c)) (h : completed.Perm jobs)
    (hjobs : (jobs.map Job.index).Pairwise (· < ·)) (r : StrategyResult) :
    ComesTo I (runTogether run failFast r completed) (workThrough outcome failFast r jobs) := by
  have hsettles : ∀ job ∈ jobs, ∃ o, settle (outcome job) = .ok o :=
    fun job hjob ↦ settle_eq_ok.mpr (hforeseen job hjob)
  choose! yielded hyielded using hsettles
  have hyields {js : List Job} (hjs : js ⊆ jobs) :
      (js.mapM fun job ↦ settle (outcome job)) = .ok (js.map yielded) := by
    rw [mapM_eq_ok, List.forall₂_map_right_iff, List.forall₂_same]
    exact fun job hjob ↦ hyielded job (hjs hjob)
  refine (comesTo_runTogether (fun job hjob ↦ hrun job (h.subset hjob)) r).trans ?_
  rw [hyields h.subset, workThrough_eq (hyields (List.Subset.refl _))]
  exact congrArg (fun os ↦ Except.ok (r.collect failFast os))
    (inIndexOrder_completed yielded h hjobs)

end Completion

/-! ## Rendering -/

namespace TemplateStrategy

variable (s : TemplateStrategy) (library : TemplateLibrary) (disk : Disk) (d : Diagram)

/-- Renders a diagram, the jobs for its elements being done by `work`, which is given the number of
workers and what there is already. -/
def renderBy (work : Int → StrategyResult → List Job → Rendering StrategyResult) :
    Rendering StrategyResult := do
  match ← ExceptT.mk (pure (s.missing library disk)) with
  | [] =>
    let own ← ExceptT.mk (pure (s.vars d))
    let vars := own ++ [("strategy", .text s.name)]
    let fixed ← ExceptT.mk (pure (s.fixedJobs library disk d vars))
    let r ← runInOrder (s.runJob library disk d) (d.isOn "fail_fast") { strategy := s.name } fixed
    if r.aborted then return r
    let jobs ← ExceptT.mk (pure (s.elementJobs library disk d vars))
    let workers ← ExceptT.mk (pure (d.workers.mapError .crash))
    work workers r jobs
  | missing => return {
      strategy := s.name, errors := missing.map s.missingTemplate, aborted := true }

/-- Renders a diagram, the jobs for its elements being done one after another. -/
def renderInOrder : Rendering StrategyResult :=
  s.renderBy library disk d fun _ r jobs ↦
    runInOrder (s.runJob library disk d) (d.isOn "fail_fast") r jobs

/-- Renders a diagram, the jobs for its elements being completed in the given order if there are
several workers for them. -/
def renderCompleting (order : List Job → List Job) : Rendering StrategyResult :=
  s.renderBy library disk d fun workers r jobs ↦
    if 1 < workers && 1 < jobs.length then
      runTogether (s.runJob library disk d) (d.isOn "fail_fast") r (order jobs)
    else runInOrder (s.runJob library disk d) (d.isOn "fail_fast") r jobs

/-- Rendering is the case in which the jobs are completed in their own order. -/
theorem render_eq : s.render library disk d = s.renderCompleting library disk d id :=
  rfl

/-- What rendering a diagram comes to if the jobs for its elements come to what `work` says. -/
def renderedBy (work : Int → StrategyResult → List Job → Except Failure StrategyResult) :
    Except Failure StrategyResult := do
  match ← s.missing library disk with
  | [] =>
    let own ← s.vars d
    let vars := own ++ [("strategy", .text s.name)]
    let fixed ← s.fixedJobs library disk d vars
    let r ← workThrough (s.outcome library disk d) (d.isOn "fail_fast") { strategy := s.name } fixed
    if r.aborted then return r
    let jobs ← s.elementJobs library disk d vars
    let workers ← d.workers.mapError Failure.crash
    work workers r jobs
  | missing => return {
      strategy := s.name, errors := missing.map s.missingTemplate, aborted := true }

/-- What rendering a diagram comes to: the outcomes of the jobs one after another. -/
def rendered : Except Failure StrategyResult :=
  s.renderedBy library disk d fun _ ↦
    workThrough (s.outcome library disk d) (d.isOn "fail_fast")

/-- What the jobs for the elements of a diagram come to, be they done together or not. -/
def worked (workers : Int) (r : StrategyResult) (jobs : List Job) :
    Except Failure StrategyResult :=
  if 1 < workers && 1 < jobs.length then do
    let os ← jobs.mapM fun job ↦ settle (s.outcome library disk d job)
    .ok (r.collect (d.isOn "fail_fast") (inIndexOrder (jobs.map Job.index) os))
  else workThrough (s.outcome library disk d) (d.isOn "fail_fast") r jobs

/-- One of the jobs for the elements of a diagram. -/
def IsElementJob (job : Job) : Prop :=
  ∃ own jobs, s.vars d = .ok own ∧
    s.elementJobs library disk d (own ++ [("strategy", .text s.name)]) = .ok jobs ∧ job ∈ jobs

variable {s library disk d}

theorem comesTo_renderBy {reads : TemplateKey → String → Prop}
    (hlibrary : library.KeyedBy disk reads)
    {work : Int → StrategyResult → List Job → Rendering StrategyResult}
    {result : Int → StrategyResult → List Job → Except Failure StrategyResult}
    (hwork : ∀ own jobs workers r, s.vars d = .ok own →
      s.elementJobs library disk d (own ++ [("strategy", .text s.name)]) = .ok jobs →
      ComesTo (TemplateStore.Sound reads) (work workers r jobs) (result workers r jobs)) :
    ComesTo (TemplateStore.Sound reads) (s.renderBy library disk d work)
      (s.renderedBy library disk d result) := by
  refine (ComesTo.ofExcept _).bind fun missing hmissing ↦ ?_
  cases missing with
  | cons name names => exact ComesTo.pure _
  | nil =>
    refine (ComesTo.ofExcept _).bind fun own hown ↦ ?_
    refine (ComesTo.ofExcept _).bind fun fixed hfixed ↦ ?_
    have hjobs := fun job (hjob : job ∈ fixed) ↦ s.comesTo_runJob d hlibrary
      (resolves_of_mem_fixedJobs hmissing hfixed hjob)
    refine (comesTo_runInOrder hjobs _).bind fun r _ ↦ ?_
    by_cases haborted : r.aborted = true
    · rw [if_pos haborted, if_pos haborted]
      exact ComesTo.pure r
    · rw [if_neg haborted, if_neg haborted]
      refine (ComesTo.ofExcept _).bind fun jobs hjobs ↦ ?_
      exact (ComesTo.ofExcept _).bind fun workers _ ↦ hwork own jobs workers r hown hjobs

/-- What rendering comes to as it is done. -/
theorem comesTo_render_worked {reads : TemplateKey → String → Prop}
    (hlibrary : library.KeyedBy disk reads) :
    ComesTo (TemplateStore.Sound reads) (s.render library disk d)
      (s.renderedBy library disk d (s.worked library disk d)) := by
  rw [render_eq]
  refine comesTo_renderBy hlibrary fun own jobs workers r _ hjobs ↦ ?_
  have hrun := fun job (hjob : job ∈ jobs) ↦ s.comesTo_runJob d hlibrary
    (resolves_of_mem_elementJobs hjobs hjob)
  rw [worked]
  split
  · exact comesTo_runTogether hrun r
  · exact comesTo_runInOrder hrun r

theorem comesTo_renderInOrder :
    ComesTo (TemplateStore.Sound (library.Reads disk)) (s.renderInOrder library disk d)
      (s.rendered library disk d) :=
  comesTo_renderBy (library.keyedBy_reads disk) fun _ _ _ r _ hjobs ↦ comesTo_runInOrder
    (fun _ hjob ↦ s.comesTo_runJob d (library.keyedBy_reads disk)
      (resolves_of_mem_elementJobs hjobs hjob)) r

theorem comesTo_renderCompleting {order : List Job → List Job}
    (horder : ∀ jobs, (order jobs).Perm jobs)
    (hforeseen : ∀ job, s.IsElementJob library disk d job →
      ∀ c, s.outcome library disk d job ≠ .error (.crash c)) :
    ComesTo (TemplateStore.Sound (library.Reads disk)) (s.renderCompleting library disk d order)
      (s.rendered library disk d) := by
  refine comesTo_renderBy (library.keyedBy_reads disk) fun own jobs workers r hown hjobs ↦ ?_
  have hrun := fun job (hjob : job ∈ jobs) ↦ s.comesTo_runJob d (library.keyedBy_reads disk)
    (resolves_of_mem_elementJobs hjobs hjob)
  split
  · have hsettles := fun job hjob ↦ hforeseen job ⟨own, jobs, hown, hjobs, hjob⟩
    exact comesTo_runTogether_of_perm hrun hsettles (horder jobs) (elementJobs_ascending hjobs) r
  · exact comesTo_runInOrder hrun r

/-- Where no job crashes and there is nothing else to fail at, there is a result. -/
theorem exists_rendered {missing : List String} {jobs : List Job} {workers : Int}
    (hmissing : s.missing library disk = .ok missing) (hjobs : s.jobs library disk d = .ok jobs)
    (hworkers : d.workers = .ok workers)
    (hforeseen : ∀ job ∈ jobs, ∀ c, s.outcome library disk d job ≠ .error (.crash c)) :
    ∃ r, s.rendered library disk d = .ok r := by
  have hworks {js : List Job} (hjs : js ⊆ jobs) (r : StrategyResult) :
      ∃ r', workThrough (s.outcome library disk d) (d.isOn "fail_fast") r js = .ok r' := by
    obtain ⟨os, hos⟩ := exists_mapM_eq_ok.mpr fun job hjob ↦
      settle_eq_ok.mpr (hforeseen job (hjs hjob))
    exact ⟨_, workThrough_eq hos r⟩
  cases missing with
  | cons name names => exact ⟨_, bind_eq_ok.mpr ⟨_, hmissing, rfl⟩⟩
  | nil =>
    obtain ⟨own, hown, hjobs⟩ := bind_eq_ok.mp hjobs
    obtain ⟨fixed, hfixed, hjobs⟩ := bind_eq_ok.mp hjobs
    obtain ⟨elements, helements, hjobs⟩ := bind_eq_ok.mp hjobs
    cases hjobs
    obtain ⟨r, hr⟩ := hworks (List.subset_append_left fixed elements) { strategy := s.name }
    obtain ⟨r', hr'⟩ := hworks (List.subset_append_right fixed elements) r
    by_cases haborted : r.aborted = true
    · refine ⟨r, bind_eq_ok.mpr ⟨_, hmissing, bind_eq_ok.mpr ⟨own, hown, ?_⟩⟩⟩
      refine bind_eq_ok.mpr ⟨fixed, hfixed, bind_eq_ok.mpr ⟨r, hr, ?_⟩⟩
      exact if_pos haborted
    · refine ⟨r', bind_eq_ok.mpr ⟨_, hmissing, bind_eq_ok.mpr ⟨own, hown, ?_⟩⟩⟩
      refine bind_eq_ok.mpr ⟨fixed, hfixed, bind_eq_ok.mpr ⟨r, hr, ?_⟩⟩
      rw [if_neg haborted]
      refine bind_eq_ok.mpr ⟨elements, helements, bind_eq_ok.mpr ⟨workers, ?_, hr'⟩⟩
      rw [hworkers]
      rfl

/-- **Rendering side by side does not show.** If each job for an element yields a file or a
diagnostic, then rendering comes to the same in whichever order these jobs are completed, with any
number of workers, as it does if they are done one after another: the same files and errors in the
same order, and the same word on whether the strategy gave up. There is a result if no other job
crashes and the jobs and the number of workers can be told. -/
theorem render_completing {store : TemplateStore} {order : List Job → List Job}
    (hstore : store.Sound (library.Reads disk)) (horder : ∀ jobs, (order jobs).Perm jobs)
    (hforeseen : ∀ job, s.IsElementJob library disk d job →
      ∀ c, s.outcome library disk d job ≠ .error (.crash c)) :
    ((s.renderCompleting library disk d order).run store).1 =
        ((s.renderInOrder library disk d).run store).1 ∧
      ((s.render library disk d).run store).1 =
        ((s.renderInOrder library disk d).run store).1 ∧
      ∀ missing jobs workers, s.missing library disk = .ok missing →
        s.jobs library disk d = .ok jobs → d.workers = .ok workers →
        (∀ job ∈ jobs, ∀ c, s.outcome library disk d job ≠ .error (.crash c)) →
        ∃ r, ((s.renderCompleting library disk d order).run store).1 = .ok r := by
  obtain ⟨hinOrder, -⟩ := comesTo_renderInOrder (s := s) (d := d) store hstore
  obtain ⟨hcompleting, -⟩ := comesTo_renderCompleting horder hforeseen store hstore
  obtain ⟨hrender, -⟩ := comesTo_renderCompleting (fun jobs ↦ List.Perm.refl jobs) hforeseen
    store hstore
  refine ⟨hcompleting.trans hinOrder.symm, ?_, ?_⟩
  · rw [render_eq]
    exact hrender.trans hinOrder.symm
  · intro missing jobs workers hmissing hjobs hworkers hall
    obtain ⟨r, hr⟩ := exists_rendered hmissing hjobs hworkers hall
    exact ⟨r, hcompleting.trans hr⟩

/-! ### Two files for one node -/

/-- A strategy of two templates for each node. -/
def siblings : TemplateStrategy :=
  { name := "s"
    perElement := [{ template := "good", output := "good.txt", kind := .node },
      { template := "bad", output := "bad.txt", kind := .node }] }

/-- Texts for both templates; the second is misspelt. -/
def siblingTexts : TemplateLibrary :=
  .memory (.ofList [("s/good", "ok"), ("s/bad", "\x7b\x7b")])

/-- A diagram of one node, for two workers and with a failure to stop at. -/
def lone : Diagram :=
  { (default : Diagram) with
    elements := [{ (default : Element) with name := "A", kind := .node }]
    config := [("generation", .object [("parallel_workers", .int 2), ("fail_fast", .bool true)])] }

/-- The variables of both jobs. -/
def loneVars : List (String × Value) :=
  [("node", .none), ("element", .none), ("strategy", .text "s")]

/-- The jobs of the strategy for the node. -/
def siblingJobs : List Job :=
  [⟨0, "s/good", "good.txt", loneVars⟩, ⟨1, "s/bad", "bad.txt", loneVars⟩]

/-- The failure of the second template is stopped at, though it is met first. -/
theorem render_completing_reversed :
    ((siblings.renderCompleting siblingTexts (.empty []) lone List.reverse).run {}).1 =
        ((siblings.renderInOrder siblingTexts (.empty []) lone).run {}).1 ∧
      ∃ r, ((siblings.renderCompleting siblingTexts (.empty []) lone List.reverse).run {}).1 =
        .ok r := by
  have helements : siblings.elementJobs siblingTexts (.empty []) lone [("strategy", .text "s")] =
    .ok siblingJobs := rfl
  have hjobs : siblings.jobs siblingTexts (.empty []) lone = .ok siblingJobs := rfl
  have hforeseen : ∀ job ∈ siblingJobs,
      ∀ c, siblings.outcome siblingTexts (.empty []) lone job ≠ .error (.crash c) := by
    intro job hjob
    rcases List.mem_pair.mp hjob with rfl | rfl
    · exact fun _ h ↦ nomatch h
    · exact fun _ h ↦ nomatch h
  have hall : ∀ job, siblings.IsElementJob siblingTexts (.empty []) lone job →
      ∀ c, siblings.outcome siblingTexts (.empty []) lone job ≠ .error (.crash c) := by
    rintro job ⟨own, jobs, hown, hjobs, hjob⟩
    cases hown
    cases helements.symm.trans hjobs
    exact hforeseen job hjob
  obtain ⟨hsame, -, hresult⟩ := @render_completing siblings siblingTexts (.empty []) lone {}
    List.reverse TemplateStore.sound_empty (fun jobs ↦ jobs.reverse_perm) hall
  exact ⟨hsame, hresult [] siblingJobs 2 rfl hjobs rfl hforeseen⟩

end TemplateStrategy

end DiagramForge
