import DiagramForge.Proofs.Outcome
import DiagramForge.Proofs.Run.Conflict
import DiagramForge.Proofs.Run.Warnings

/-!
# Where errors and warnings come from

The errors of a run are those of its strategies and those of the step at which it has stopped.
Nothing is lost and nothing is told twice, whatever strategies and plugins do
(`Generator.run_accounted`).

## Errors

Errors of strategies that go on are put into the state at once. Those of strategies that give up are
held back until all strategies have had their turn, and then end the run. Between two parts of a
run no error is held back (`RunState.Accounting.lost`), so a part has only to tell of its own.

## Warnings

The warnings of a run have arisen along its journal, which the parts of a run extend one after the
other.
-/

namespace DiagramForge

open RunStep

variable {σ α β : Type}

/-! ## Errors of strategies -/

namespace StrategyResult

/-- The errors of the strategies that have gone on. -/
def recovered (rs : List StrategyResult) : List Diagnostic :=
  rs.flatMap fun r ↦ if r.aborted then [] else r.errors

/-- The errors of the strategies that have given up. -/
def lost (rs : List StrategyResult) : List Diagnostic :=
  rs.flatMap fun r ↦ if r.aborted then r.errors else []

/-- Every error of every strategy is one or the other. -/
theorem recovered_append_lost_perm (rs : List StrategyResult) :
    (recovered rs ++ lost rs).Perm (rs.flatMap (·.errors)) := by
  induction rs with
  | nil => exact .nil
  | cons r rs ih =>
    rw [recovered, lost, List.flatMap_cons, List.flatMap_cons, List.flatMap_cons, ← recovered,
      ← lost]
    split
    · rw [List.nil_append]
      refine (List.perm_append_comm_assoc _ _ _).trans (ih.append_left _)
    · rw [List.nil_append, List.append_assoc]
      exact ih.append_left _

end StrategyResult

open StrategyResult

namespace Generator

/-- An error of a step that stops a run all by itself. -/
inductive Stops (gen : Generator σ) (source : GrammarSource) : Diagnostic → Prop where
  /-- A plugin fails to adjust the settings. -/
  | unconfigured {settings : Setting} {memory : σ} {d : Diagnostic}
    (h : ((gen.plugins.configure settings).run memory).1 = .error d) : Stops gen source d
  /-- A handler fails whose failure is not isolated. -/
  | handler {hook : Hook} {plugin : String} {handler : Handler σ} {status : RunStatus}
    {state left : Contributions × σ} {f : Failure}
    (hmem : (plugin, handler) ∈ gen.plugins.handlers hook)
    (h : (handler status).run.run state = (.error f, left)) :
    Stops gen source (PluginRegistry.handlerFailed status hook plugin f)
  /-- The plugins want the run to end. -/
  | aborted {hook : Hook} {phase : Phase} {reason : String} :
    Stops gen source (abortedIn hook phase reason)
  /-- The grammar file has errors. -/
  | misread {path : Path} {disk : Disk} {d : Diagnostic} (hsource : source = .file path)
    (h : Grammar.load disk path = .error (.invalid d)) : Stops gen source d
  /-- The grammar file cannot be read. -/
  | unreadable {path file : Path} {disk : Disk} {fault : DiskFault} (hsource : source = .file path)
    (h : Grammar.load disk path = .error (.unreadable file fault)) :
    Stops gen source (unreadable file fault)
  /-- There is no diagram of the grammar. -/
  | unbuilt {g : Grammar} {settings : Setting} {fault : Grammar.StructuralFault}
    (h : Diagram.build gen.options g settings = .error (.structural fault)) :
    Stops gen source fault.diagnostic
  /-- A file cannot be written. -/
  | unwritten {f : OutputFile} {disk : Disk} {root : Path} {d : Diagnostic}
    (h : (f.write disk root).2 = .error (.diagnostic d)) : Stops gen source d

end Generator

namespace RunState

/-- The errors that a run has stopped with, besides those of its strategies. -/
inductive Closing (gen : Generator σ) (source : GrammarSource) (s : RunState σ) :
    List Diagnostic → Prop where
  /-- The run has not failed. -/
  | unfailed (h : s.phase ≠ .failed) : Closing gen source s []
  /-- The run has failed because of its strategies. -/
  | strategies (h : s.failedPhase = some .rendering)
    (herrors : lost s.results ≠ [] ∨ recovered s.results ≠ []) : Closing gen source s []
  /-- Something is wrong with the plugins. -/
  | problems (h : s.failedPhase = some .notStarted) :
    Closing gen source s (gen.plugins.problems.map (·.withPhase Phase.notStarted.label))
  /-- The grammar is not valid. -/
  | invalid {g : Grammar} (h : s.failedPhase = some .validating)
    (hvalidation : s.status.validation = some g.validate) : Closing gen source s g.validate.errors
  /-- Files of the run conflict. -/
  | clashed (h : s.failedPhase = some .rendering) (hcollected : s.status.filesCollected = true) :
    Closing gen source s (Generator.conflicts s.report.files)
  /-- A step has stopped the run with an error of its own. -/
  | stopped {p : Phase} {d : Diagnostic} (h : s.failedPhase = some p) (hd : gen.Stops source d) :
    Closing gen source s [d.withPhase p.label]

/-- The errors and warnings of a run are accounted for. -/
structure Accounted (gen : Generator σ) (source : GrammarSource) (s : RunState σ) : Prop where
  /-- The errors of the strategies that have gone on come first, then those of the strategies that
  have given up, both in the order of the strategies, and then those the run has stopped with. -/
  errors : ∃ closing, s.Closing gen source closing ∧
    s.report.errors = recovered s.report.results ++
      (lost s.report.results).map (·.withPhase Phase.rendering.label) ++ closing
  /-- Every error of every strategy is among the former or the latter, and only once. -/
  shared : (recovered s.report.results ++ lost s.report.results).Perm
    (s.report.results.flatMap (·.errors))
  /-- If validation has failed, the errors are those of the validation. -/
  invalid : ∀ v, s.status.validation = some v →
    (∃ g, s.status.grammar = some g ∧ v = g.validate) ∧
      (v.ok = false → s.report.results = [] ∧ s.report.errors = v.errors)
  /-- If files of the run conflict, the errors are those of the strategies and the conflicts. -/
  clashed : s.status.filesCollected = true → s.settled = none →
    lost s.report.results = [] ∧
      s.report.errors = recovered s.report.results ++ Generator.conflicts s.report.files
  /-- The warnings have arisen along the journal, and those that are due are among them if no
  handler removes any. -/
  warnings : ∃ due,
    WarningsArise gen s.status.settings s.journal s.status.validation s.report.results due
      s.report.warnings ∧
    (gen.plugins.KeepWarnings → due.Sublist s.report.warnings)

/-- The accounts of a run that goes on in a phase and holds some errors back. -/
structure Accounting (gen : Generator σ) (p : Phase) (held : List Diagnostic) (s : RunState σ) :
    Prop where
  /-- The phase is this one. -/
  phase : s.phase = p
  /-- The run has not failed. -/
  going : p ≠ .failed
  /-- The errors are those of the strategies that have gone on. -/
  errors : s.errors = recovered s.results
  /-- The errors that are held back are those of the strategies that have given up. -/
  held : lost s.results = held
  /-- Before it is validated there is no validation. -/
  unvalidated : p ∈ [Phase.notStarted, .parsing] → s.status.validation = none
  /-- Before it is rendered there are no results. -/
  unrendered : p ∈ [Phase.notStarted, .parsing, .validating] → s.results = []
  /-- The validation is that of the grammar, and has no errors. -/
  valid : ∀ v, s.status.validation = some v →
    (∃ g, s.status.grammar = some g ∧ v = g.validate) ∧ v.ok = true
  /-- Before it writes its files they are neither collected nor settled. -/
  uncollected : p ∉ [Phase.writing, .done] → s.settled = none ∧ s.status.filesCollected = false
  /-- Files that have been collected are settled. -/
  settled : s.status.filesCollected = true → s.settled ≠ none
  /-- The warnings have arisen along the journal. -/
  warnings : ∃ due, WarningsArise gen s.status.settings s.journal s.status.validation s.results due
    s.contributions.warnings

namespace Accounting

variable {gen : Generator σ} {source : GrammarSource} {p : Phase} {held : List Diagnostic}
  {s : RunState σ}

/-- The warnings do not change when something happens that there are none about. -/
theorem noted (h : s.Accounting gen p held) {e : RunEvent} (he : e.IsSilent) : ∃ due,
    WarningsArise gen s.status.settings (s.journal ++ [e]) s.status.validation s.results due
      s.contributions.warnings := by
  obtain ⟨due, hdue⟩ := h.warnings
  exact ⟨due, hdue.silent he⟩

theorem warned (h : s.Accounting gen p held) : ∃ due,
    WarningsArise gen s.status.settings s.journal s.status.validation s.results due
      s.contributions.warnings ∧
    (gen.plugins.KeepWarnings → due.Sublist s.contributions.warnings) := by
  obtain ⟨due, hdue⟩ := h.warnings
  exact ⟨due, hdue, hdue.sublist⟩

theorem warned_failing (h : s.Accounting gen p held) {errors : List Diagnostic} : ∃ due,
    WarningsArise gen (s.failing errors).status.settings (s.failing errors).journal
      (s.failing errors).status.validation (s.failing errors).results due
      (s.failing errors).contributions.warnings ∧
    (gen.plugins.KeepWarnings → due.Sublist (s.failing errors).contributions.warnings) := by
  obtain ⟨due, hdue, hkept⟩ := h.warned
  exact ⟨due, hdue.silent (e := .entered .failed) nofun, hkept⟩

/-- A run that is stopped has the errors that stop it behind those of its strategies. -/
theorem failing_of_closing (h : s.Accounting gen p []) {errors : List Diagnostic}
    (hclosing : (s.failing errors).Closing gen source (errors.map (·.withPhase p.label))) :
    (s.failing errors).Accounted gen source where
  errors := by
    refine ⟨_, hclosing, ?_⟩
    change s.errors ++ errors.map (·.withPhase s.phase.label) =
      recovered s.results ++ (lost s.results).map _ ++ _
    rw [h.errors, h.held, h.phase, List.map_nil, List.append_nil]
  shared := recovered_append_lost_perm _
  invalid v hv := ⟨(h.valid v hv).1, fun hok ↦ absurd ((h.valid v hv).2.symm.trans hok) nofun⟩
  clashed hcollected hsettled := absurd hsettled (h.settled hcollected)
  warnings := h.warned_failing

theorem failing (h : s.Accounting gen p []) {d : Diagnostic} (hd : gen.Stops source d) :
    (s.failing [d]).Accounted gen source :=
  h.failing_of_closing (.stopped (congrArg some h.phase) hd)

/-- A phase is entered that does not begin with warnings. -/
theorem enter (h : s.Accounting gen p held) {q : Phase} (hgoing : q ≠ .failed) (hq : q ≠ .validating)
    (hvalidated : q ∈ [Phase.notStarted, .parsing] → p ∈ [Phase.notStarted, .parsing])
    (hrendered : q ∈ [Phase.notStarted, .parsing, .validating] →
      p ∈ [Phase.notStarted, .parsing, .validating])
    (hcollected : q ∉ [Phase.writing, .done] → p ∉ [Phase.writing, .done]) :
    Accounting gen q held { s with
      phase := q
      status := { s.status with phase := q.label }
      journal := s.journal ++ [.entered q] } :=
  { h with
    phase := rfl
    going := hgoing
    unvalidated := fun hmem ↦ h.unvalidated (hvalidated hmem)
    unrendered := fun hmem ↦ h.unrendered (hrendered hmem)
    uncollected := fun hmem ↦ h.uncollected (hcollected hmem)
    warnings := h.noted (e := .entered q) hq }

end Accounting

end RunState

/-! ## Parts of a run -/

namespace RunStep

variable {gen : Generator σ} {source : GrammarSource} {p : Phase}

/-- A part of a run in a phase keeps accounts, and if it stops the run all is accounted for. -/
def Accounts (gen : Generator σ) (source : GrammarSource) (p : Phase) (m : RunStep σ α) : Prop :=
  ∀ s, s.Accounting gen p [] →
    LeadsTo m s (fun _ t ↦ t.Accounting gen p []) (fun _ t ↦ t.Accounted gen source)

theorem Accounts.bind {m : RunStep σ α} {f : α → RunStep σ β} (hm : Accounts gen source p m)
    (hf : ∀ a, Accounts gen source p (f a)) : Accounts gen source p (m >>= f) := by
  intro s h
  rw [leadsTo_bind]
  exact (hm s h).mono (fun a t ht ↦ hf a t ht) fun _ _ h ↦ h

end RunStep

namespace Generator

variable (gen : Generator σ) {source : GrammarSource} {p : Phase}

theorem leadsTo_runStrategy {strategy : Strategy} {d : Diagram} {s : RunState σ}
    {Q : StrategyResult → RunState σ → Prop} {E : RunStop → RunState σ → Prop} :
    LeadsTo (gen.runStrategy strategy d) s Q E ↔
      Q (gen.resultOf strategy s.world.disk { d with extras := s.contributions.extras }
          s.world.store)
        { s with
          journal := s.journal ++ [.rendered strategy.name]
          world := { s.world with store := ((strategy.render gen.library s.world.disk
            { d with extras := s.contributions.extras }).run s.world.store).2 } } := by
  rw [runStrategy, leadsTo_bind, leadsTo_record, leadsTo_bind, leadsTo_get, resultOf]
  dsimp only
  rcases (strategy.render gen.library s.world.disk { d with extras := s.contributions.extras }).run
    s.world.store with ⟨r | r, store⟩ <;> rfl

end Generator

end DiagramForge
