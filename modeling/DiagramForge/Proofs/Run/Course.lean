import DiagramForge.Proofs.Run.Report

/-!
# The course of a run

`RunState.course` is what the parts of a run rely on: the journal, the phase, the settings, the
grammar with what has come of it, and what decides on the files and on the end of the run. Most
parts only add to the journal. That `m` adds events of a kind is `RunStep.Adds P m`: the course
after `m` is the one before with such events in its journal, however `m` ends, and a failure puts
its mark behind them.

## What a hook does

Calling the plugins is told in full by `Generator.leadsTo_callHook`. `HandlersRan` says which of the
handlers of a hook have run: all of them, or those up to the first that stops the run.
-/

namespace DiagramForge

open RunStep

variable {σ α β : Type}

/-! ## Steps -/

/-- Whether a strategy renders at a step. -/
def RunEvent.IsRendering (e : RunEvent) : Prop :=
  ∃ strategy, e = .rendered strategy

/-- Whether a file is written at a step. -/
def RunEvent.IsWriting (e : RunEvent) : Prop :=
  ∃ path, e = .wrote path

/-! ## Courses -/

/-- What the parts of a run rely on. -/
structure RunCourse where
  /-- The steps so far. -/
  journal : List RunEvent
  /-- The phase. -/
  phase : Phase
  /-- The settings in effect. -/
  settings : Setting
  /-- The grammar, once there is one. -/
  grammar : Option Grammar
  /-- The diagram, once there is one. -/
  diagram : Option Diagram
  /-- Whether the files are settled or conflict. -/
  filesCollected : Bool
  /-- The files of the run, once they are settled. -/
  settled : Option (List OutputFile)
  /-- Why the run is to end, if it is. -/
  abortReason : Option String

namespace RunCourse

/-- The course with some more steps. -/
def note (c : RunCourse) (es : List RunEvent) : RunCourse :=
  { c with journal := c.journal ++ es }

/-- The course after the run has failed. -/
def failed (c : RunCourse) : RunCourse :=
  { c.note [.entered .failed] with phase := .failed }

/-- The course after a part of the run has stopped it. -/
def stopped (c : RunCourse) : RunStop → RunCourse
  | .failed => c.failed
  | .escaped _ => c

theorem note_nil (c : RunCourse) : c.note [] = c := by
  rw [note, List.append_nil]

theorem note_note (c : RunCourse) (es es' : List RunEvent) :
    (c.note es).note es' = c.note (es ++ es') := by
  rw [note, note, note, List.append_assoc]

end RunCourse

/-- The course of a state. -/
def RunState.course (s : RunState σ) : RunCourse where
  journal := s.journal
  phase := s.phase
  settings := s.status.settings
  grammar := s.status.grammar
  diagram := s.status.diagram
  filesCollected := s.status.filesCollected
  settled := s.settled
  abortReason := s.contributions.abortReason

theorem RunState.course_failing (s : RunState σ) (errors : List Diagnostic) :
    (s.failing errors).course = s.course.failed := rfl

/-- The course after the handlers of a hook have come to a result. -/
theorem RunState.course_receive (s : RunState σ) (hook : Hook) (result : HookResult σ) :
    ({ s with journal := s.journal ++ [RunEvent.called hook] }.receive result).course =
      { s.course.note (.called hook :: result.runs.map .handled) with
        abortReason := result.state.1.abortReason } := by
  have hjournal : s.journal ++ [.called hook] ++ result.runs.map .handled =
      s.journal ++ .called hook :: result.runs.map .handled := List.append_assoc _ _ _
  rw [RunCourse.note]
  exact congrArg (fun journal ↦ ({ s.course with
    journal, abortReason := result.state.1.abortReason } : RunCourse)) hjournal

namespace RunStep

/-- A part of a run adds events of a kind to the journal, and leaves the course alone
otherwise. -/
def Adds (P : RunEvent → Prop) (m : RunStep σ α) : Prop :=
  ∀ s, LeadsTo m s (fun _ t ↦ ∃ es, (∀ e ∈ es, P e) ∧ t.course = s.course.note es)
    (fun stop t ↦ ∃ es, (∀ e ∈ es, P e) ∧ t.course = (s.course.note es).stopped stop)

/-- A part of a run that leaves the course alone. -/
abbrev Quiet (m : RunStep σ α) : Prop := Adds (fun _ ↦ False) m

variable {P P' : RunEvent → Prop} {m : RunStep σ α}

theorem Adds.mono (h : Adds P m) (hP : ∀ e, P e → P' e) : Adds P' m := fun s ↦
  (h s).mono (fun _ _ ⟨es, hes, ht⟩ ↦ ⟨es, fun e he ↦ hP e (hes e he), ht⟩)
    fun _ _ ⟨es, hes, ht⟩ ↦ ⟨es, fun e he ↦ hP e (hes e he), ht⟩

theorem Quiet.adds (h : Quiet m) : Adds P m := h.mono fun _ ↦ False.elim

/-- A part that adds nothing keeps the course. -/
theorem Quiet.leadsTo (h : Quiet m) (s : RunState σ) :
    LeadsTo m s (fun _ t ↦ t.course = s.course)
      (fun stop t ↦ t.course = s.course.stopped stop) := by
  have hnil : ∀ {es : List RunEvent}, (∀ e ∈ es, False) → es = [] :=
    List.eq_nil_iff_forall_not_mem.mpr
  refine (h s).mono (fun _ t ⟨es, hes, ht⟩ ↦ ?_) fun stop t ⟨es, hes, ht⟩ ↦ ?_
  · rw [ht, hnil hes, RunCourse.note_nil]
  · rw [ht, hnil hes, RunCourse.note_nil]

theorem Adds.bind {f : α → RunStep σ β} (hm : Adds P m) (hf : ∀ a, Adds P (f a)) :
    Adds P (m >>= f) := by
  intro s
  rw [leadsTo_bind]
  refine (hm s).mono (fun a t ⟨es, hes, ht⟩ ↦ ?_) fun _ _ h ↦ h
  have happend : ∀ es' : List RunEvent, (∀ e ∈ es', P e) → ∀ e ∈ es ++ es', P e :=
    fun es' hes' e he ↦ (List.mem_append.mp he).elim (hes e) (hes' e)
  refine (hf a t).mono (fun _ u ⟨es', hes', hu⟩ ↦ ?_) fun _ u ⟨es', hes', hu⟩ ↦ ?_
  · exact ⟨es ++ es', happend es' hes', by rw [hu, ht, RunCourse.note_note]⟩
  · exact ⟨es ++ es', happend es' hes', by rw [hu, ht, RunCourse.note_note]⟩

/-- Nothing is added by reaching a state with the same course. -/
theorem adds_of_course_eq {s t : RunState σ} (h : t.course = s.course) :
    ∃ es, (∀ e ∈ es, P e) ∧ t.course = s.course.note es :=
  ⟨[], nofun, by rw [h, RunCourse.note_nil]⟩

theorem quiet_pure (a : α) : Quiet (pure a : RunStep σ α) := fun _ ↦ adds_of_course_eq rfl

theorem quiet_get : Quiet (get : RunStep σ (RunState σ)) := fun _ ↦ adds_of_course_eq rfl

/-- Reading the state is no obstacle, and what follows may replace the state by one with the same
course. -/
theorem adds_get_set {t : RunState σ → RunState σ} {f : RunState σ → RunStep σ β}
    (ht : ∀ s, (t s).course = s.course) (hf : ∀ s, Adds P (f s)) :
    Adds P (get >>= fun s ↦ set (t s) >>= fun _ ↦ f s) := by
  intro s
  rw [leadsTo_bind, leadsTo_get, leadsTo_bind, leadsTo_set, ← ht s]
  exact hf s (t s)

theorem quiet_modify {f : RunState σ → RunState σ}
    (h : ∀ s, (f s).course = s.course) :
    Quiet (modify f : RunStep σ PUnit) := fun s ↦ adds_of_course_eq (h s)

theorem quiet_setStatus {f : RunStatus → RunStatus}
    (h : ∀ s : RunState σ, { s with status := f s.status }.course = s.course := by
      exact fun _ ↦ rfl) :
    Quiet (setStatus f : RunStep σ Unit) := quiet_modify h

theorem quiet_warn (warnings : List String) : Quiet (warn warnings : RunStep σ Unit) :=
  fun _ ↦ adds_of_course_eq rfl

theorem adds_record {e : RunEvent} (h : P e) : Adds P (record e : RunStep σ Unit) := fun _ ↦
  (leadsTo_record e).mpr ⟨[e], fun _ he ↦ List.mem_singleton.mp he ▸ h, rfl⟩

theorem quiet_fail (errors : List Diagnostic) : Quiet (fail errors : RunStep σ α) := fun s ↦
  (leadsTo_fail errors).mpr ⟨[], nofun, by rw [RunCourse.note_nil]; rfl⟩

theorem quiet_escape (f : Failure) : Quiet (throw (.escaped f) : RunStep σ α) := fun _ ↦
  (leadsTo_throw _).mpr ⟨[], nofun, by rw [RunCourse.note_nil]; rfl⟩

theorem quiet_orEscape (r : Except Crash α) : Quiet (orEscape r : RunStep σ α) := by
  cases r with
  | error c => exact quiet_escape _
  | ok a => exact quiet_pure a

end RunStep

/-! ## Handlers -/

/-- Whether no handler runs after a handler that has run so. -/
def HandlerRun.stops (isolate : Bool) (r : HandlerRun) : Bool :=
  r.aborted || r.failed && !isolate

/-- Of the handlers of some plugins, these have run: all of them in their order, or those up to the
first that stops. -/
inductive HandlersRan (isolate : Bool) : (plugins : List String) → List HandlerRun → Prop where
  /-- There are no more handlers. -/
  | done : HandlersRan isolate [] []
  /-- A handler does not stop those after it. -/
  | next {r : HandlerRun} {plugins : List String} {runs : List HandlerRun}
    (hr : r.stops isolate = false) (h : HandlersRan isolate plugins runs) :
    HandlersRan isolate (r.plugin :: plugins) (r :: runs)
  /-- A handler stops those after it. -/
  | stop {r : HandlerRun} {plugins : List String} (hr : r.stops isolate = true) :
    HandlersRan isolate (r.plugin :: plugins) [r]

/-- Only what comes after the handlers follows a handler that stops. -/
theorem HandlersRan.eq_of_stops {isolate : Bool} {plugins : List String} {runs : List HandlerRun}
    (h : HandlersRan isolate plugins runs) {before after rest : List RunEvent} {r : HandlerRun}
    (hrest : .handled r ∉ rest) (hr : r.stops isolate = true)
    (hruns : runs.map .handled ++ rest = before ++ .handled r :: after) : after = rest := by
  have hno : ∀ {before : List RunEvent}, rest ≠ before ++ .handled r :: after := fun heq ↦
    hrest (heq ▸ List.mem_append_cons_self)
  induction h generalizing before with
  | done => exact absurd hruns hno
  | next hgoes _ ih =>
    cases before with
    | nil =>
      cases (List.cons.inj hruns).1
      exact absurd (hgoes.symm.trans hr) nofun
    | cons _ before => exact ih (List.cons.inj hruns).2
  | stop _ =>
    cases before with
    | nil => exact (List.cons.inj hruns).2.symm
    | cons _ before => exact absurd (List.cons.inj hruns).2 hno

/-- The names of the plugins that handle a hook, in the order their handlers run. -/
def PluginRegistry.handlerNames (r : PluginRegistry σ) (hook : Hook) : List String :=
  (r.handlers hook).map Prod.fst

/-- What running handlers comes to: which of them have run, and that one of them has stopped exactly
if the run is to fail. -/
structure HookResult.Faithful (isolate : Bool) (plugins : List String) (result : HookResult σ) :
    Prop where
  /-- Handlers have run in their order. -/
  ran : HandlersRan isolate plugins result.runs
  /-- A handler has stopped exactly if there is a failure or the run is to end. -/
  stops_iff : (∃ r ∈ result.runs, r.stops isolate = true) ↔
    result.failure.isSome = true ∨ result.state.1.aborted = true

namespace HookResult

/-- A handler that does not stop those after it leaves the outcome to them. -/
theorem Faithful.after {isolate : Bool} {plugins : List String} {result : HookResult σ}
    {r : HandlerRun} (h : result.Faithful isolate plugins) (hr : r.stops isolate = false) :
    (result.after r).Faithful isolate (r.plugin :: plugins) where
  ran := .next hr h.ran
  stops_iff := by
    refine Iff.trans ?_ h.stops_iff
    change (∃ r' ∈ r :: result.runs, _) ↔ _
    simp only [List.mem_cons, exists_eq_or_imp]
    exact or_iff_right fun hstops ↦ nomatch hr.symm.trans hstops

/-- Nothing runs after a handler that stops those after it. -/
theorem faithful_stop {isolate : Bool} {plugins : List String} {result : HookResult σ}
    (r : HandlerRun) (hruns : result.runs = [r]) (hr : r.stops isolate = true)
    (hfails : result.failure.isSome = true ∨ result.state.1.aborted = true) :
    result.Faithful isolate (r.plugin :: plugins) where
  ran := by
    rw [hruns]
    exact .stop hr
  stops_iff := by
    rw [hruns]
    exact ⟨fun _ ↦ hfails, fun _ ↦ ⟨r, List.mem_singleton_self r, hr⟩⟩

end HookResult

namespace PluginRegistry

/-- A run that is to end runs no handlers. -/
theorem runHandlers_of_aborted (s : RunStatus) (hook : Hook) (isolate : Bool)
    (hs : List (String × Handler σ)) {state : Contributions × σ} (h : state.1.aborted = true) :
    runHandlers s hook isolate hs state = { state } := by
  cases hs with
  | nil => rfl
  | cons e more => rw [runHandlers, if_pos h]

/-- A handler after which the run is to end is the last one. -/
theorem faithful_abort (s : RunStatus) (hook : Hook) (isolate : Bool)
    (hs : List (String × Handler σ)) {state : Contributions × σ} (r : HandlerRun)
    {plugins : List String} (hr : r.aborted = true) (h : state.1.aborted = true) :
    ((runHandlers s hook isolate hs state).after r).Faithful isolate (r.plugin :: plugins) := by
  rw [runHandlers_of_aborted s hook isolate hs h]
  refine HookResult.faithful_stop r rfl ?_ (.inr h)
  rw [HandlerRun.stops, hr, Bool.true_or]

/-- The induction is on the handlers: each of them lets those after it run, or it is the last. -/
theorem runHandlers_faithful (s : RunStatus) (hook : Hook) (isolate : Bool)
    (hs : List (String × Handler σ)) {state : Contributions × σ} (h : state.1.aborted = false) :
    (runHandlers s hook isolate hs state).Faithful isolate (hs.map Prod.fst) := by
  induction hs generalizing state with
  | nil =>
    refine ⟨.done, ⟨nofun, fun hfails ↦ ?_⟩⟩
    rcases hfails with hfails | haborts
    · cases hfails
    · exact absurd (haborts.symm.trans h) nofun
  | cons e more ih =>
    obtain ⟨plugin, handler⟩ := e
    rw [runHandlers, h, if_neg Bool.false_ne_true, List.map_cons]
    split
    -- the handler succeeds: it is the last one only if it wants the run to end
    next after _ =>
      cases haborts : after.1.aborted with
      | true => exact faithful_abort s hook isolate more ⟨plugin, false, true⟩ rfl haborts
      | false => exact (ih haborts).after (r := ⟨plugin, false, false⟩) rfl
    -- the handler fails: the others run only if failures are isolated and nobody wants the end
    next f c memory _ =>
      dsimp only
      cases isolate with
      | false =>
        exact HookResult.faithful_stop ⟨plugin, true, c.aborted⟩ rfl (Bool.or_true _) (.inl rfl)
      | true =>
        rw [if_pos rfl]
        cases haborts : c.aborted with
        | true => exact faithful_abort s hook true more ⟨plugin, true, true⟩ rfl haborts
        | false => exact (ih haborts).after (r := ⟨plugin, true, false⟩) rfl

end PluginRegistry

/-! ## The parts of a run -/

namespace Generator

variable (gen : Generator σ)

/-- What calling the plugins comes to. Handlers are called only if the settings say what their
failures mean, and the run fails exactly if one of them has stopped. -/
theorem leadsTo_callHook (hook : Hook) {s : RunState σ} (hs : s.contributions.abortReason = none) :
    LeadsTo (gen.callHook hook) s
      (fun _ t ↦ ∃ isolate runs, gen.isolates s.status.settings = .ok isolate ∧
        HandlersRan isolate (gen.plugins.handlerNames hook) runs ∧
        (∀ r ∈ runs, r.stops isolate = false) ∧
        t.course = s.course.note (.called hook :: runs.map .handled))
      (fun stop t ↦ match stop with
        | .failed => ∃ isolate runs reason, gen.isolates s.status.settings = .ok isolate ∧
          HandlersRan isolate (gen.plugins.handlerNames hook) runs ∧
          (∃ r ∈ runs, r.stops isolate = true) ∧
          t.course = { s.course.note (.called hook :: runs.map .handled) with
            abortReason := reason }.failed
        | .escaped _ => t = s) := by
  rw [callHook, leadsTo_bind, leadsTo_get, leadsTo_bind, leadsTo_orEscape]
  refine ⟨fun isolate hisolate ↦ ?_, fun _ _ ↦ rfl⟩
  rw [leadsTo_bind, leadsTo_record, leadsTo_bind, leadsTo_get]
  dsimp only
  generalize hresult : gen.plugins.dispatch _ hook isolate _ = result
  have hfaithful : result.Faithful isolate (gen.plugins.handlerNames hook) := by
    rw [← hresult]
    refine PluginRegistry.runHandlers_faithful _ _ _ _ ?_
    rw [Contributions.aborted, hs, Option.isSome_none]
  rw [leadsTo_bind, leadsTo_set]
  -- The run fails with the failure of a handler, or else if it is to end. In both cases a handler
  -- has stopped, and in no other.
  split
  next d _ hfailure =>
    refine (leadsTo_fail _).mpr ⟨isolate, result.runs, result.state.1.abortReason, hisolate,
      hfaithful.ran, hfaithful.stops_iff.mpr (.inl ?_), ?_⟩
    · rw [hfailure, Option.isSome_some]
    · rw [RunState.course_failing, RunState.course_receive]
  next reason _ hreason =>
    refine (leadsTo_fail _).mpr ⟨isolate, result.runs, result.state.1.abortReason, hisolate,
      hfaithful.ran, hfaithful.stops_iff.mpr (.inr ?_), ?_⟩
    · rw [Contributions.aborted, hreason, Option.isSome_some]
    · rw [RunState.course_failing, RunState.course_receive]
  next hfailure hreason =>
    refine (leadsTo_pure _).mpr ⟨isolate, result.runs, hisolate, hfaithful.ran, ?_, ?_⟩
    · refine fun r hr ↦ Bool.eq_false_iff.mpr fun hstops ↦ ?_
      have hfails := hfaithful.stops_iff.mp ⟨r, hr, hstops⟩
      rw [Contributions.aborted, hfailure, hreason] at hfails
      exact hfails.elim nofun nofun
    · rw [RunState.course_receive, hreason, ← hs]
      rfl

/-- Configuring changes the settings, whether it fails or not. -/
theorem leadsTo_configurePlugins (s : RunState σ) :
    LeadsTo gen.configurePlugins s
      (fun _ t ↦ ∃ settings, t.course = { s.course with settings })
      (fun stop t ↦ stop = .failed ∧ ∃ settings,
        t.course = { s.course with settings }.failed) := by
  rw [configurePlugins, leadsTo_bind, leadsTo_get]
  split
  next r memory _ =>
    rw [leadsTo_bind, leadsTo_set]
    cases r with
    | error d => exact (leadsTo_fail _).mpr ⟨rfl, _, rfl⟩
    | ok settings =>
      rw [leadsTo_bind, leadsTo_setStatus]
      split
      · exact ⟨settings, rfl⟩
      · exact (leadsTo_fail _).mpr ⟨rfl, settings, rfl⟩

theorem quiet_noteSource (source : GrammarSource) : Quiet (noteSource source : RunStep σ Unit) := by
  cases source with
  | given g => exact quiet_pure _
  | file path =>
    rw [noteSource]
    exact quiet_setStatus fun _ ↦ rfl

theorem quiet_parse (source : GrammarSource) : Quiet (parse source : RunStep σ Grammar) := by
  cases source with
  | given g => exact quiet_pure g
  | file path =>
    refine quiet_get.bind fun s ↦ ?_
    split
    · exact quiet_pure _
    · exact quiet_fail _
    · exact quiet_escape _
    · exact quiet_fail _

/-- A grammar that validation lets pass has no errors, and a diagram. -/
theorem leadsTo_validate (g : Grammar) (s : RunState σ) :
    LeadsTo (gen.validate g) s
      (fun _ t ↦ g.validate.ok = true ∧ ∃ d, Diagram.build gen.options g s.status.settings = .ok d ∧
        t.course = { s.course with diagram := some d })
      (fun stop t ↦ t.course = s.course.stopped stop) := by
  rw [validate, leadsTo_bind, leadsTo_setStatus, leadsTo_bind, leadsTo_warn]
  split
  · rw [leadsTo_bind, leadsTo_fail]
    rfl
  next hok =>
    rw [leadsTo_bind, leadsTo_get]
    split
    · rw [leadsTo_fail]
      rfl
    · rw [leadsTo_throw]
      rfl
    next d hbuild =>
      rw [leadsTo_setStatus]
      refine ⟨?_, d, hbuild, rfl⟩
      rwa [Bool.not_eq_true', Bool.not_eq_false] at hok

theorem adds_runStrategy (strategy : Strategy) (d : Diagram) :
    Adds RunEvent.IsRendering (gen.runStrategy strategy d) := by
  refine (adds_record ⟨_, rfl⟩).bind fun _ ↦ ?_
  refine adds_get_set (fun _ ↦ rfl) fun s ↦ ?_
  split
  · exact (quiet_pure _).adds
  · exact (quiet_pure _).adds

theorem quiet_addResult (result : StrategyResult) : Quiet (addResult result : RunStep σ Unit) :=
  Adds.bind (quiet_modify fun _ ↦ rfl) fun _ ↦
    Adds.bind (quiet_setStatus fun _ ↦ rfl) fun _ ↦ quiet_warn _

theorem adds_runStrategies (failFast : Bool) (d : Diagram) (strategies : List Strategy) :
    Adds RunEvent.IsRendering (gen.runStrategies failFast d strategies) := by
  induction strategies with
  | nil => exact (quiet_pure _).adds
  | cons strategy more ih =>
    refine (gen.adds_runStrategy strategy d).bind fun result ↦
      (quiet_addResult result).adds.bind fun _ ↦ ?_
    dsimp only
    split
    · exact (quiet_pure _).adds
    · exact ih.bind fun _ ↦ (quiet_pure _).adds

theorem adds_render : Adds RunEvent.IsRendering gen.render := by
  refine quiet_get.adds.bind fun s ↦ ?_
  split
  · exact (quiet_pure _).adds
  next d _ =>
    refine (quiet_orEscape _).adds.bind fun generation ↦ (quiet_orEscape _).adds.bind fun targets ↦
      (quiet_orEscape _).adds.bind fun failFast ↦ (quiet_orEscape _).adds.bind fun wanted ↦
      (gen.adds_runStrategies _ d wanted).bind fun lost ↦ quiet_get.adds.bind fun t ↦ ?_
    split
    · exact (quiet_fail _).adds
    · exact (quiet_pure _).adds

/-- Files are settled if they do not conflict; otherwise their conflicts are the errors of the
run. -/
theorem leadsTo_collect_iff {s : RunState σ} {Q : List OutputFile → RunState σ → Prop}
    {E : RunStop → RunState σ → Prop} :
    LeadsTo collect s Q E ↔
      (conflicts (allFiles s.status s.contributions) = [] →
        Q (allFiles s.status s.contributions) { s with
          status := { s.status with filesCollected := true }
          settled := some (allFiles s.status s.contributions) }) ∧
      (conflicts (allFiles s.status s.contributions) ≠ [] →
        E .failed (RunState.failing { s with status := { s.status with filesCollected := true } }
          (conflicts (allFiles s.status s.contributions)))) := by
  rw [collect, leadsTo_bind, leadsTo_setStatus, leadsTo_bind, leadsTo_get]
  have hfiles : allFiles { s.status with filesCollected := true } s.contributions =
      allFiles s.status s.contributions := rfl
  dsimp only
  rw [hfiles]
  cases conflicts (allFiles s.status s.contributions) with
  | nil => exact ⟨fun h ↦ ⟨fun _ ↦ h, fun hne ↦ absurd rfl hne⟩, fun h ↦ h.1 rfl⟩
  | cons d more =>
    have hne := List.cons_ne_nil d more
    exact ⟨fun h ↦ ⟨fun hnil ↦ absurd hnil hne, fun _ ↦ h⟩, fun h ↦ h.2 hne⟩

theorem adds_write (root : Path) (files : List OutputFile) :
    Adds RunEvent.IsWriting (write root files : RunStep σ Unit) := by
  induction files with
  | nil => exact (quiet_pure _).adds
  | cons f files ih =>
    refine (adds_record ⟨_, rfl⟩).bind fun _ ↦ ?_
    refine adds_get_set (fun _ ↦ rfl) fun s ↦ ?_
    split
    · exact (Quiet.adds (quiet_setStatus fun _ ↦ rfl)).bind fun _ ↦ ih
    · exact (quiet_fail _).adds
    · exact (quiet_escape _).adds

theorem adds_writeAll (output : OutputTarget) (files : List OutputFile) :
    Adds RunEvent.IsWriting (writeAll output files : RunStep σ Unit) := by
  rw [writeAll]
  split
  · exact adds_write _ _
  · exact (quiet_pure _).adds

end Generator

end DiagramForge
