import DiagramForge.Proofs.Run.Course
import Mathlib.Data.List.Forall2
import Mathlib.Data.List.Nodup

/-!
# The journal of a run

A run works off an agenda of stages: it enters a phase, calls the plugins, lets the strategies
render, writes the files. Wherever it ends, its journal is what the stages up to there have left,
and the phase `failed` if it has failed. From this `Generator.run_orderly` reads off that phases and
hooks come in order, that nothing is rendered without a diagram, and that nothing follows a handler
that stops the run.

## The invariant

`RunCourse.Underway gen n c` holds of the course of a run that has been through `n` stages of its
agenda and goes on. Every stage has one lemma that leads from `n` to `n + 1` or to a run that is
`RunState.Over`, and `Generator.leadsTo_agenda` goes through the agenda once.
-/

namespace DiagramForge

open RunStep

variable {σ α β : Type}

/-! ## The agenda -/

/-- The parts of a run that leave something in its journal. -/
inductive Stage where
  /-- A phase is entered. -/
  | phase (p : Phase)
  /-- The plugins are called. -/
  | hook (h : Hook)
  /-- The strategies render. -/
  | strategies
  /-- The files are written. -/
  | files
deriving DecidableEq

namespace Stage

/-- The stages of a run in their order. -/
def agenda : List Stage :=
  [phase .parsing, hook .beforeGenerate, hook .afterParse, phase .validating, hook .afterValidation,
    phase .rendering, hook .beforeTemplateRender, strategies, hook .afterTemplateRender,
    phase .writing, files, hook .afterGenerate, phase .done]

/-- What a stage leaves in the journal, whether the run goes on after it or not. -/
def Noted (gen : Generator σ) (settings : Setting) : Stage → List RunEvent → Prop
  | phase p, es => es = [.entered p]
  | hook h, es => ∃ isolate runs, gen.isolates settings = .ok isolate ∧
    HandlersRan isolate (gen.plugins.handlerNames h) runs ∧ es = .called h :: runs.map .handled
  | strategies, es => ∀ e ∈ es, e.IsRendering
  | files, es => ∀ e ∈ es, e.IsWriting

/-- The event that a stage begins with, if there is one in any case. -/
def event? : Stage → Option RunEvent
  | phase p => some (.entered p)
  | hook h => some (.called h)
  | strategies => none
  | files => none

/-- A stage is at one place of the agenda. -/
theorem eq_takeWhile_agenda {n : Nat} {before after : List Stage} {stage : Stage}
    (h : agenda.take n = before ++ stage :: after) :
    before = agenda.takeWhile (· != stage) := by
  have hagenda : agenda = before ++ stage :: (after ++ agenda.drop n) := by
    rw [← List.cons_append, ← List.append_assoc, ← h, List.take_append_drop]
  have hnodup : agenda.Nodup := by decide
  rw [hagenda, List.nodup_middle, List.nodup_cons, List.mem_append, not_or] at hnodup
  have hbefore : ∀ x ∈ before, (x != stage) = true := fun x hx ↦
    bne_iff_ne.mpr fun heq ↦ hnodup.1.1 (heq ▸ hx)
  rw [hagenda, List.takeWhile_append_of_pos hbefore, List.takeWhile_cons_of_neg (by simp),
    List.append_nil]

/-- What comes before a stage in a journal has its place on the agenda, unless the stage is the
failure. -/
theorem take_agenda_of_append {n : Nat} {verdict before after : List Stage} {stage : Stage}
    (h : agenda.take n ++ verdict = before ++ stage :: after) (hstage : stage ∉ verdict) :
    ∃ after', agenda.take n = before ++ stage :: after' := by
  rw [List.append_eq_append_iff] at h
  obtain ⟨more, -, hverdict⟩ | ⟨more, htake, hmore⟩ := h
  · exact absurd (hverdict ▸ List.mem_append_cons_self) hstage
  · cases more with
    | nil =>
      rw [List.nil_append] at hmore
      exact absurd (hmore ▸ List.mem_cons_self) hstage
    | cons x more =>
      obtain ⟨rfl, -⟩ := List.cons.inj hmore
      exact ⟨more, htake⟩

end Stage

/-! ## Sections of a journal -/

/-- Which stage an event of a journal belongs to, given what the stages have left. -/
theorem exists_section {R : Stage → List RunEvent → Prop} {stages : List Stage}
    {sections : List (List RunEvent)} (h : List.Forall₂ R stages sections)
    {before after : List RunEvent} {e : RunEvent}
    (hsplit : sections.flatten = before ++ e :: after) :
    ∃ stages₁ stage stages₂ sections₁ es₁ es₂ sections₂,
      stages = stages₁ ++ stage :: stages₂ ∧ List.Forall₂ R stages₁ sections₁ ∧
      R stage (es₁ ++ e :: es₂) ∧ List.Forall₂ R stages₂ sections₂ ∧
      before = sections₁.flatten ++ es₁ ∧ after = es₂ ++ sections₂.flatten := by
  induction h generalizing before with
  | nil => exact absurd hsplit.symm (List.append_ne_nil_of_right_ne_nil _ (List.cons_ne_nil _ _))
  | @cons stage es stages sections hes hsections ih =>
    rw [List.flatten_cons, List.append_eq_append_iff] at hsplit
    obtain ⟨more, rfl, hmore⟩ | ⟨more, rfl, hmore⟩ := hsplit
    · -- the event comes after the first section
      obtain ⟨stages₁, stage', stages₂, sections₁, es₁, es₂, sections₂, rfl, h₁, hstage, h₂, rfl,
        rfl⟩ := ih hmore
      refine ⟨stage :: stages₁, stage', stages₂, es :: sections₁, es₁, es₂, sections₂, rfl,
        .cons hes h₁, hstage, h₂, ?_, rfl⟩
      rw [List.flatten_cons, List.append_assoc]
    · cases more with
      | nil =>
        -- The first section ends right before the event: this stage has nothing of it, and an empty
        -- section may follow, so it is the induction that says which stage it belongs to.
        have hlater : sections.flatten = [] ++ e :: after := hmore.symm
        obtain ⟨stages₁, stage', stages₂, sections₁, es₁, es₂, sections₂, rfl, h₁, hstage, h₂, hnil,
          rfl⟩ := ih hlater
        rw [List.append_nil] at hes
        refine ⟨stage :: stages₁, stage', stages₂, before :: sections₁, es₁, es₂, sections₂, rfl,
          .cons hes h₁, hstage, h₂, ?_, rfl⟩
        rw [List.flatten_cons, List.append_assoc, ← hnil, List.append_nil]
      | cons x more =>
        obtain ⟨rfl, rfl⟩ := List.cons.inj hmore
        exact ⟨[], stage, stages, [], before, more, sections, rfl, .nil, hes, hsections, rfl, rfl⟩

namespace RunEvent

/-- The phase that is entered. -/
def phase? : RunEvent → Option Phase
  | entered p => some p
  | _ => none

/-- The hook that is called. -/
def hook? : RunEvent → Option Hook
  | called h => some h
  | _ => none

/-- Whether only the events that stages begin with are picked. -/
def Picks {γ : Type} (f : RunEvent → Option γ) : Prop :=
  (∀ r, f (.handled r) = none) ∧ (∀ strategy, f (.rendered strategy) = none) ∧
    ∀ path, f (.wrote path) = none

theorem picks_phase? : Picks phase? := ⟨fun _ ↦ rfl, fun _ ↦ rfl, fun _ ↦ rfl⟩

theorem picks_hook? : Picks hook? := ⟨fun _ ↦ rfl, fun _ ↦ rfl, fun _ ↦ rfl⟩

end RunEvent

namespace Stage

variable {gen : Generator σ} {settings : Setting} {stage : Stage} {es es₁ es₂ : List RunEvent}

theorem Noted.filterMap {γ : Type} {f : RunEvent → Option γ} (hf : RunEvent.Picks f)
    (h : stage.Noted gen settings es) : es.filterMap f = (stage.event?.bind f).toList := by
  obtain ⟨hhandled, hrendered, hwrote⟩ := hf
  cases stage with
  | phase p =>
    rw [Noted] at h
    rw [h, List.filterMap_cons, List.filterMap_nil]
    change _ = (f (.entered p)).toList
    cases f (.entered p) <;> rfl
  | hook k =>
    obtain ⟨_, runs, -, -, rfl⟩ := h
    have hruns : (runs.map RunEvent.handled).filterMap f = [] := by
      rw [List.filterMap_map, List.filterMap_eq_nil_iff]
      exact fun r _ ↦ hhandled r
    rw [List.filterMap_cons, hruns]
    change _ = (f (.called k)).toList
    cases f (.called k) <;> rfl
  | strategies =>
    refine List.filterMap_eq_nil_iff.mpr fun e he ↦ ?_
    obtain ⟨strategy, rfl⟩ := h e he
    exact hrendered strategy
  | files =>
    refine List.filterMap_eq_nil_iff.mpr fun e he ↦ ?_
    obtain ⟨path, rfl⟩ := h e he
    exact hwrote path

/-- What is picked from a journal is picked from its stages. -/
theorem filterMap_flatten {γ : Type} {f : RunEvent → Option γ} (hf : RunEvent.Picks f)
    {stages : List Stage} {sections : List (List RunEvent)}
    (h : List.Forall₂ (Noted gen settings) stages sections) :
    sections.flatten.filterMap f = stages.filterMap fun stage ↦ stage.event?.bind f := by
  induction h with
  | nil => rfl
  | @cons stage es stages sections hes _ ih =>
    rw [List.flatten_cons, List.filterMap_append, ih, Noted.filterMap hf hes, List.filterMap_cons]
    cases stage.event?.bind f <;> rfl

/-- The plugins are called where a hook begins. -/
theorem Noted.of_called {k : Hook} (h : stage.Noted gen settings (es₁ ++ .called k :: es₂)) :
    stage = .hook k ∧ es₁ = [] ∧ ∃ isolate runs, gen.isolates settings = .ok isolate ∧
      HandlersRan isolate (gen.plugins.handlerNames k) runs ∧ es₂ = runs.map .handled := by
  have hmem : RunEvent.called k ∈ es₁ ++ .called k :: es₂ :=
    List.mem_append_cons_self
  cases stage with
  | phase p =>
    rw [Noted] at h
    rw [h] at hmem
    cases List.mem_singleton.mp hmem
  | hook k' =>
    obtain ⟨isolate, runs, hisolate, hran, heq⟩ := h
    cases es₁ with
    | nil =>
      obtain ⟨hk, rfl⟩ := List.cons.inj heq
      cases hk
      exact ⟨rfl, rfl, isolate, runs, hisolate, hran, rfl⟩
    | cons e es₁ =>
      have hmem : RunEvent.called k ∈ runs.map .handled := by
        rw [← (List.cons.inj heq).2]
        exact List.mem_append_cons_self
      obtain ⟨_, -, hr⟩ := List.mem_map.mp hmem
      cases hr
  | strategies =>
    obtain ⟨_, he⟩ := h _ hmem
    cases he
  | files =>
    obtain ⟨_, he⟩ := h _ hmem
    cases he

/-- A handler runs after the plugins have been called, with nothing but handlers in between. -/
theorem Noted.of_handled {r : HandlerRun}
    (h : stage.Noted gen settings (es₁ ++ .handled r :: es₂)) :
    ∃ (k : Hook) (runs : List HandlerRun), es₁ = .called k :: runs.map .handled := by
  have hmem : RunEvent.handled r ∈ es₁ ++ .handled r :: es₂ :=
    List.mem_append_cons_self
  cases stage with
  | phase p =>
    rw [Noted] at h
    rw [h] at hmem
    cases List.mem_singleton.mp hmem
  | hook k =>
    obtain ⟨isolate, runs, -, -, heq⟩ := h
    cases es₁ with
    | nil => cases heq
    | cons e es₁ =>
      obtain ⟨rfl, hmap⟩ := List.cons.inj heq
      obtain ⟨runs₁, _, rfl, rfl, -⟩ := List.map_eq_append_iff.mp hmap.symm
      exact ⟨k, runs₁, rfl⟩
  | strategies =>
    obtain ⟨_, he⟩ := h _ hmem
    cases he
  | files =>
    obtain ⟨_, he⟩ := h _ hmem
    cases he

/-- Strategies render at their stage only. -/
theorem Noted.of_rendered {strategy : String}
    (h : stage.Noted gen settings (es₁ ++ .rendered strategy :: es₂)) : stage = .strategies := by
  have hmem : RunEvent.rendered strategy ∈ es₁ ++ .rendered strategy :: es₂ :=
    List.mem_append_cons_self
  cases stage with
  | phase p =>
    rw [Noted] at h
    rw [h] at hmem
    cases List.mem_singleton.mp hmem
  | hook k =>
    obtain ⟨isolate, runs, -, -, heq⟩ := h
    rw [heq] at hmem
    obtain ⟨_, -, hr⟩ := List.mem_map.mp ((List.mem_cons.mp hmem).resolve_left nofun)
    cases hr
  | strategies => rfl
  | files =>
    obtain ⟨_, he⟩ := h _ hmem
    cases he

/-- No stage begins with a handler. -/
theorem head?_flatten_ne_handled {stages : List Stage} {sections : List (List RunEvent)}
    (h : List.Forall₂ (Noted gen settings) stages sections) (r : HandlerRun) :
    sections.flatten.head? ≠ some (.handled r) := by
  induction h with
  | nil => exact nofun
  | @cons stage es stages sections hes _ ih =>
    cases es with
    | nil => exact ih
    | cons e es =>
      intro heq
      cases Option.some.inj heq
      have hes : stage.Noted gen settings ([] ++ .handled r :: es) := hes
      obtain ⟨_, _, hnil⟩ := hes.of_handled
      cases hnil

end Stage

/-! ## The invariant -/

/-- The phase of a run after the first `n` stages of its agenda. -/
def Stage.phaseAfter (n : Nat) : Phase :=
  ((agenda.take n).filterMap fun stage ↦ stage.event?.bind RunEvent.phase?).getLast?.getD
    .notStarted

theorem Stage.phaseAfter_succ {n : Nat} {stage : Stage} (hstage : agenda[n]? = some stage) :
    phaseAfter (n + 1) = (stage.event?.bind RunEvent.phase?).getD (phaseAfter n) := by
  rw [phaseAfter, List.take_add_one, hstage, List.filterMap_append, Option.toList_some,
    List.filterMap_cons]
  cases stage.event?.bind RunEvent.phase? with
  | none => rw [List.filterMap_nil, List.append_nil, Option.getD_none, phaseAfter]
  | some p => rw [List.filterMap_nil, List.getLast?_concat, Option.getD_some, Option.getD_some]

/-- The failure is not on the agenda. -/
theorem Stage.phaseAfter_ne_failed (n : Nat) : phaseAfter n ≠ .failed := by
  intro h
  rw [phaseAfter] at h
  cases hlast : ((agenda.take n).filterMap fun stage ↦
      stage.event?.bind RunEvent.phase?).getLast? with
  | none =>
    rw [hlast] at h
    cases h
  | some p =>
    rw [hlast, Option.getD_some] at h
    subst h
    -- it would be among the phases of the whole agenda, which are known
    have hmem := ((List.take_sublist n agenda).filterMap _).subset (List.mem_of_getLast? hlast)
    exact absurd hmem (by decide)

/-- The grammar is valid, and its diagram has been built. -/
def RunCourse.Checked (gen : Generator σ) (c : RunCourse) : Prop :=
  ∃ g d, c.grammar = some g ∧ g.validate.ok = true ∧
    Diagram.build gen.options g c.settings = .ok d ∧ c.diagram = some d

/-- The files are settled, and no two of them have one path. -/
def RunCourse.Settled (c : RunCourse) : Prop :=
  ∃ files, c.settled = some files ∧ Generator.conflicts files = []

/-- A run has been through the first `n` stages of its agenda. -/
structure RunCourse.Reached (gen : Generator σ) (n : Nat) (c : RunCourse) : Prop where
  /-- The journal is what these stages have left. -/
  sections : ∃ sections, List.Forall₂ (Stage.Noted gen c.settings) (Stage.agenda.take n) sections ∧
    c.journal = sections.flatten
  /-- There is a diagram before anything is rendered. -/
  checked : .phase .rendering ∈ Stage.agenda.take n → c.Checked gen
  /-- The files do not conflict when they are written. -/
  settled : .phase .writing ∈ Stage.agenda.take n → c.Settled
  /-- The files are not settled before. -/
  unsettled : .phase .writing ∉ Stage.agenda.take n → c.filesCollected = false

/-- A run has been through the first `n` stages of its agenda and goes on. -/
structure RunCourse.Underway (gen : Generator σ) (n : Nat) (c : RunCourse) : Prop
    extends c.Reached gen n where
  /-- No handler has stopped. -/
  goes_on : ∀ isolate, gen.isolates c.settings = .ok isolate →
    ∀ r, .handled r ∈ c.journal → r.stops isolate = false
  /-- The phase is that of the stage it is at. -/
  phase_eq : c.phase = Stage.phaseAfter n
  /-- Nobody wants the run to end. -/
  unaborted : c.abortReason = none

/-- The failure of a run as a stage of its own. -/
def RunState.verdict (s : RunState σ) : List Stage :=
  if s.phase = .failed then [.phase .failed] else []

/-- The run has just failed because its files conflict. -/
def RunState.Clashed (s : RunState σ) : Prop :=
  ∃ u : RunState σ, u.phase = .rendering ∧
    Generator.conflicts (allFiles u.status u.contributions) ≠ [] ∧
    s = u.failing (Generator.conflicts (allFiles u.status u.contributions))

/-- A run has ended after the first `n` stages of its agenda. -/
structure RunState.Over (gen : Generator σ) (n : Nat) (s : RunState σ) : Prop where
  /-- The journal is what these stages have left, and the failure. -/
  sections : ∃ sections, List.Forall₂ (Stage.Noted gen s.status.settings)
    (Stage.agenda.take n ++ s.verdict) sections ∧ s.journal = sections.flatten
  /-- The run fails as soon as a handler stops. -/
  halts : ∀ isolate, gen.isolates s.status.settings = .ok isolate → ∀ before r after,
    s.journal = before ++ .handled r :: after → r.stops isolate = true → after = [.entered .failed]
  /-- There is a diagram before anything is rendered. -/
  checked : .phase .rendering ∈ Stage.agenda.take n → s.course.Checked gen
  /-- The files do not conflict when they are written. -/
  settled : .phase .writing ∈ Stage.agenda.take n → s.course.Settled

/-- A run has been stopped. If its files have been collected but not been settled, they conflict. -/
def RunState.Halted (gen : Generator σ) (stop : RunStop) (s : RunState σ) : Prop :=
  ∃ n, s.Over gen n ∧ (stop = .failed → s.phase = .failed) ∧
    (.phase .writing ∉ Stage.agenda.take n → s.status.filesCollected = true →
      stop = .failed ∧ s.Clashed)

/-! ### The next stage -/

namespace RunCourse

variable {gen : Generator σ} {n : Nat} {c : RunCourse} {stage : Stage} {es : List RunEvent}

theorem Reached.sections_snoc (h : c.Reached gen n) (hstage : Stage.agenda[n]? = some stage)
    (hes : stage.Noted gen c.settings es) :
    ∃ sections, List.Forall₂ (Stage.Noted gen c.settings) (Stage.agenda.take (n + 1)) sections ∧
      c.journal ++ es = sections.flatten := by
  obtain ⟨sections, hsections, hjournal⟩ := h.sections
  refine ⟨sections ++ [es], ?_, ?_⟩
  · rw [List.take_add_one, hstage]
    exact List.rel_append hsections (.cons hes .nil)
  · rw [hjournal, List.flatten_append, List.flatten_singleton]

/-- A phase is entered at its own stage only. -/
theorem phase_mem_take (hstage : Stage.agenda[n]? = some stage) {p : Phase}
    (hp : stage ≠ .phase p) :
    .phase p ∈ Stage.agenda.take (n + 1) ↔ .phase p ∈ Stage.agenda.take n := by
  rw [List.take_add_one, hstage, List.mem_append]
  exact or_iff_left fun hmem ↦ hp (List.mem_singleton.mp hmem).symm

/-- A stage that only adds to the journal. -/
theorem Reached.note (h : c.Reached gen n) (hstage : Stage.agenda[n]? = some stage)
    (hphase : ∀ p, stage ≠ .phase p) (hes : stage.Noted gen c.settings es)
    (reason : Option String) :
    { c.note es with abortReason := reason }.Reached gen (n + 1) where
  sections := h.sections_snoc hstage hes
  checked hn := h.checked ((phase_mem_take hstage (hphase _)).mp hn)
  settled hn := h.settled ((phase_mem_take hstage (hphase _)).mp hn)
  unsettled hn := h.unsettled (hn ∘ (phase_mem_take hstage (hphase _)).mpr)

/-- A stage that only adds to the journal, and at which no handler stops. -/
theorem Underway.note (h : c.Underway gen n) (hstage : Stage.agenda[n]? = some stage)
    (hphase : ∀ p, stage ≠ .phase p) (hes : stage.Noted gen c.settings es)
    (hgoes : ∀ isolate, gen.isolates c.settings = .ok isolate →
      ∀ r, .handled r ∈ es → r.stops isolate = false) : (c.note es).Underway gen (n + 1) where
  toReached := h.toReached.note hstage hphase hes c.abortReason
  goes_on isolate hisolate r hr :=
    (List.mem_append.mp hr).elim (h.goes_on isolate hisolate r) (hgoes isolate hisolate r)
  phase_eq := by
    rw [Stage.phaseAfter_succ hstage]
    cases stage with
    | phase p => exact absurd rfl (hphase p)
    | hook => exact h.phase_eq
    | strategies => exact h.phase_eq
    | files => exact h.phase_eq
  unaborted := h.unaborted

/-- No handler of a run that goes on has stopped. -/
theorem Underway.stops_ne_true (h : c.Underway gen n) {isolate : Bool}
    (hisolate : gen.isolates c.settings = .ok isolate) {before after : List RunEvent}
    {r : HandlerRun} (hjournal : c.journal = before ++ .handled r :: after) :
    r.stops isolate ≠ true := by
  have hmem : .handled r ∈ c.journal := by
    rw [hjournal]
    exact List.mem_append_cons_self
  rw [h.goes_on isolate hisolate r hmem]
  exact Bool.false_ne_true

/-- No handler runs when a phase is entered. -/
theorem Underway.goes_on_entered (h : c.Underway gen n) (p : Phase) (isolate : Bool)
    (hisolate : gen.isolates c.settings = .ok isolate) (r : HandlerRun)
    (hr : .handled r ∈ c.journal ++ [.entered p]) : r.stops isolate = false := by
  refine h.goes_on isolate hisolate r ((List.mem_append.mp hr).resolve_right fun hr ↦ ?_)
  cases List.mem_singleton.mp hr

/-- A phase is entered. -/
theorem Underway.enter (h : c.Underway gen n) {p : Phase}
    (hstage : Stage.agenda[n]? = some (.phase p)) (hwriting : p ≠ .writing)
    (hchecked : p = .rendering → c.Checked gen) :
    { c.note [.entered p] with phase := p }.Underway gen (n + 1) := by
  have hne : Stage.phase p ≠ .phase .writing := fun heq ↦ hwriting (by cases heq; rfl)
  refine ⟨⟨h.sections_snoc hstage rfl, fun hn ↦ ?_,
    fun hn ↦ h.settled ((phase_mem_take hstage hne).mp hn),
    fun hn ↦ h.unsettled (hn ∘ (phase_mem_take hstage hne).mpr)⟩, h.goes_on_entered p,
    (Stage.phaseAfter_succ hstage).symm, h.unaborted⟩
  rw [List.take_add_one, hstage, List.mem_append] at hn
  refine hn.elim h.checked fun hmem ↦ hchecked ?_
  cases List.mem_singleton.mp hmem
  rfl

/-- The writing phase is entered with files that do not conflict. -/
theorem Underway.enter_writing (h : c.Underway gen n)
    (hstage : Stage.agenda[n]? = some (.phase .writing)) {files : List OutputFile}
    (hfiles : Generator.conflicts files = []) :
    { c.note [.entered .writing] with
      phase := .writing, filesCollected := true, settled := some files }.Underway gen (n + 1) := by
  refine ⟨⟨h.sections_snoc hstage rfl,
    fun hn ↦ h.checked ((phase_mem_take hstage (by decide)).mp hn), fun _ ↦ ⟨files, rfl, hfiles⟩,
    fun hn ↦ absurd ?_ hn⟩, h.goes_on_entered .writing, (Stage.phaseAfter_succ hstage).symm,
    h.unaborted⟩
  rw [List.take_add_one, hstage]
  exact List.mem_append_right _ (List.mem_singleton_self _)

end RunCourse

/-! ### The end -/

namespace RunState

variable {gen : Generator σ} {n : Nat} {t : RunState σ} {c : RunCourse}

theorem verdict_eq_nil (h : t.phase ≠ .failed) : t.verdict = [] := if_neg h

theorem verdict_eq_failed (h : t.phase = .failed) : t.verdict = [.phase .failed] := if_pos h

/-- A run that goes on can end at any time, as far as its journal is concerned. -/
theorem over_of_underway (h : t.course.Underway gen n) : t.Over gen n where
  sections := by
    have hphase : t.phase ≠ .failed := fun heq ↦
      Stage.phaseAfter_ne_failed n (h.phase_eq.symm.trans heq)
    rw [verdict_eq_nil hphase, List.append_nil]
    exact h.sections
  halts _ hisolate _ _ _ hjournal hr := absurd hr (h.stops_ne_true hisolate hjournal)
  checked := h.checked
  settled := h.settled

/-- A run can fail after any stage, but not later if a handler has stopped. -/
theorem over_of_failed (h : c.Reached gen n)
    (hhalts : ∀ isolate, gen.isolates c.settings = .ok isolate → ∀ before r after,
      c.journal ++ [.entered .failed] = before ++ .handled r :: after → r.stops isolate = true →
        after = [.entered .failed])
    (ht : t.course = c.failed) : t.Over gen n := by
  have hjournal : t.journal = c.journal ++ [.entered .failed] := congrArg RunCourse.journal ht
  have hsettings : t.status.settings = c.settings := congrArg RunCourse.settings ht
  have hphase : t.phase = .failed := congrArg RunCourse.phase ht
  refine ⟨?_, ?_, fun hn ↦ ht ▸ h.checked hn, fun hn ↦ ht ▸ h.settled hn⟩
  · obtain ⟨sections, hsections, hc⟩ := h.sections
    refine ⟨sections ++ [[.entered .failed]], ?_, ?_⟩
    · rw [verdict_eq_failed hphase, hsettings]
      exact List.rel_append hsections (.cons rfl .nil)
    · rw [hjournal, hc, List.flatten_append, List.flatten_singleton]
  · rw [hsettings, hjournal]
    exact hhalts

/-- A run that goes on can fail at any time. -/
theorem over_of_failing (h : c.Underway gen n) (ht : t.course = c.failed) : t.Over gen n := by
  refine over_of_failed h.toReached (fun isolate hisolate before r after hsplit hr ↦ ?_) ht
  have hmem : .handled r ∈ c.journal ++ [.entered .failed] := by
    rw [hsplit]
    exact List.mem_append_cons_self
  exact absurd ((h.goes_on_entered _ isolate hisolate r hmem).symm.trans hr) nofun

/-- A run that goes on can be stopped at any time. -/
theorem halted_of_stopped {stop : RunStop} (h : c.Underway gen n) (ht : t.course = c.stopped stop) :
    t.Halted gen stop := by
  have hcollected : t.status.filesCollected = c.filesCollected := by
    cases stop <;> exact congrArg RunCourse.filesCollected ht
  refine ⟨n, ?_, fun hstop ↦ ?_, fun hn htrue ↦ ?_⟩
  · cases stop with
    | failed => exact over_of_failing h ht
    | escaped f => exact over_of_underway ((ht : t.course = c) ▸ h)
  · cases hstop
    exact congrArg RunCourse.phase ht
  · rw [hcollected, h.unsettled hn] at htrue
    cases htrue

/-- A run fails with the handler that stops. -/
theorem halted_of_hook {hook : Hook} (h : c.Underway gen n)
    (hstage : Stage.agenda[n]? = some (.hook hook)) {isolate : Bool} {runs : List HandlerRun}
    {reason : Option String} (hisolate : gen.isolates c.settings = .ok isolate)
    (hran : HandlersRan isolate (gen.plugins.handlerNames hook) runs)
    (ht : t.course =
      { c.note (.called hook :: runs.map .handled) with abortReason := reason }.failed) :
    t.Halted gen .failed := by
  have hreached :=
    h.toReached.note hstage nofun ⟨isolate, runs, hisolate, hran, rfl⟩ reason
  refine ⟨n + 1, over_of_failed hreached (fun isolate' hisolate' before r after hsplit hr ↦ ?_) ht,
    fun _ ↦ congrArg RunCourse.phase ht, fun hn htrue ↦ ?_⟩
  rotate_left
  · rw [show t.status.filesCollected = _ from congrArg RunCourse.filesCollected ht] at htrue
    cases (hreached.unsettled hn).symm.trans htrue
  cases hisolate.symm.trans hisolate'
  change c.journal ++ _ ++ _ = _ at hsplit
  rw [List.append_assoc, List.append_eq_append_iff] at hsplit
  obtain ⟨more, -, hmore⟩ | ⟨more, hjournal, hmore⟩ := hsplit
  · -- the handler that stops is one of this hook
    cases more with
    | nil => cases hmore
    | cons e more =>
      refine hran.eq_of_stops (fun hmem ↦ ?_) hr (List.cons.inj hmore).2
      cases List.mem_singleton.mp hmem
  · -- none has stopped before
    cases more with
    | nil => cases hmore
    | cons e more =>
      cases (List.cons.inj hmore).1
      exact absurd hr (h.stops_ne_true hisolate hjournal)

end RunState

/-! ## Through the agenda -/

namespace RunCourse

variable {gen : Generator σ} {n : Nat} {s : RunState σ} {Q : β → RunState σ → Prop}

/-- A part of a run that leaves its course alone. -/
theorem Underway.quiet {m : RunStep σ α} {f : α → RunStep σ β} (h : s.course.Underway gen n)
    (hm : Quiet m)
    (hf : ∀ a t, t.course = s.course → LeadsTo (f a) t Q fun stop u ↦ u.Halted gen stop) :
    LeadsTo (m >>= f) s Q fun stop u ↦ u.Halted gen stop := by
  rw [leadsTo_bind]
  exact (hm.leadsTo s).mono hf fun _ _ ht ↦ RunState.halted_of_stopped h ht

/-- A stage at which a part of a run adds its own events to the journal. -/
theorem Underway.adds {P : RunEvent → Prop} {m : RunStep σ α} {f : α → RunStep σ β} {stage : Stage}
    (h : s.course.Underway gen n) (hstage : Stage.agenda[n]? = some stage)
    (hphase : ∀ p, stage ≠ .phase p) (hm : Adds P m)
    (hP : ∀ es, (∀ e ∈ es, P e) → stage.Noted gen s.course.settings es)
    (hhandled : ∀ r, ¬ P (.handled r))
    (hf : ∀ a t, t.course.Underway gen (n + 1) →
      LeadsTo (f a) t Q fun stop u ↦ u.Halted gen stop) :
    LeadsTo (m >>= f) s Q fun stop u ↦ u.Halted gen stop := by
  have hnote : ∀ es, (∀ e ∈ es, P e) → (s.course.note es).Underway gen (n + 1) := fun es hes ↦
    h.note hstage hphase (hP es hes) fun _ _ r hr ↦ absurd (hes _ hr) (hhandled r)
  rw [leadsTo_bind]
  refine (hm s).mono (fun a t ⟨es, hes, ht⟩ ↦ hf a t ?_) fun stop t ⟨es, hes, ht⟩ ↦ ?_
  · rw [ht]
    exact hnote es hes
  · exact RunState.halted_of_stopped (hnote es hes) ht

/-- A hook is called. -/
theorem Underway.callHook {hook : Hook} {f : Unit → RunStep σ β} (h : s.course.Underway gen n)
    (hstage : Stage.agenda[n]? = some (.hook hook))
    (hf : ∀ t es, t.course = s.course.note es → t.course.Underway gen (n + 1) →
      LeadsTo (f ()) t Q fun stop u ↦ u.Halted gen stop) :
    LeadsTo (gen.callHook hook >>= f) s Q fun stop u ↦ u.Halted gen stop := by
  rw [leadsTo_bind]
  refine (gen.leadsTo_callHook hook h.unaborted).mono
    (fun _ t ⟨isolate, runs, hisolate, hran, hgoes, ht⟩ ↦ hf t _ ht ?_) fun stop t ht ↦ ?_
  · rw [ht]
    refine h.note hstage nofun ⟨isolate, runs, hisolate, hran, rfl⟩ fun isolate' hisolate' r hr ↦ ?_
    cases hisolate.symm.trans hisolate'
    obtain ⟨_, hmem, hr⟩ := List.mem_map.mp ((List.mem_cons.mp hr).resolve_left nofun)
    cases hr
    exact hgoes r hmem
  · cases stop with
    | failed =>
      obtain ⟨isolate, runs, reason, hisolate, hran, -, ht⟩ := ht
      exact RunState.halted_of_hook h hstage hisolate hran ht
    | escaped f =>
      rw [ht]
      exact RunState.halted_of_stopped h rfl

/-- The course of a run that has not begun. -/
def start (settings : Setting) : RunCourse where
  journal := []
  phase := .notStarted
  settings := settings
  grammar := none
  diagram := none
  filesCollected := false
  settled := none
  abortReason := none

theorem underway_start (gen : Generator σ) (settings : Setting) :
    (start settings).Underway gen 0 where
  sections := ⟨[], .nil, rfl⟩
  checked := nofun
  settled := nofun
  unsettled _ := rfl
  goes_on := nofun
  phase_eq := rfl
  unaborted := rfl

end RunCourse

namespace Generator

variable (gen : Generator σ)

/-- A run goes through its agenda to the end unless it is stopped. -/
theorem leadsTo_agenda (source : GrammarSource) (output : OutputTarget) (settings : Setting)
    {s : RunState σ} (hs : s.course = .start settings) :
    LeadsTo (gen.execute source output) s
      (fun _ t ↦ t.Over gen Stage.agenda.length)
      (fun stop t ↦ t.Halted gen stop) := by
  -- Configuring comes before the agenda: it changes the settings that its stages are read with.
  rw [execute_eq, leadsTo_bind]
  refine (gen.leadsTo_configurePlugins s).mono (fun _ s ⟨settings, hs'⟩ ↦ ?_)
    fun stop t ⟨hstop, settings, ht⟩ ↦ ?_
  rotate_left
  · rw [hs] at ht
    exact RunState.halted_of_stopped (RunCourse.underway_start gen settings) (hstop ▸ ht)
  have h : s.course.Underway gen 0 := by
    rw [hs', hs]
    exact RunCourse.underway_start gen settings
  -- parsing
  rw [leadsTo_bind, leadsTo_enter]
  refine (h.enter rfl nofun nofun).quiet (quiet_noteSource source) fun _ s hs ↦ ?_
  have h : s.course.Underway gen 1 := hs ▸ h.enter rfl nofun nofun
  refine h.callHook rfl fun s _ _ h ↦ h.quiet (quiet_parse source) fun g s hs ↦ ?_
  rw [← hs] at h
  rw [leadsTo_bind, leadsTo_setStatus]
  have h : { s.course with grammar := some g }.Underway gen 2 :=
    { h with checked := fun hn ↦ absurd hn (by decide) }
  refine h.callHook rfl fun s es hs h ↦ ?_
  have hg : s.course.grammar = some g := by
    rw [hs]
    rfl
  -- validating, which is what gives the run a diagram
  rw [leadsTo_bind, leadsTo_enter, leadsTo_bind]
  have h := h.enter (p := .validating) rfl nofun nofun
  refine (gen.leadsTo_validate g _).mono (fun _ s ⟨hok, d, hbuild, hs⟩ ↦ ?_)
    fun _ _ ht ↦ RunState.halted_of_stopped h ht
  have hchecked : s.course.Checked gen := by
    rw [hs]
    exact ⟨g, d, hg, hok, hbuild, rfl⟩
  have h : s.course.Underway gen 4 := by
    rw [hs]
    exact { h with checked := fun hn ↦ absurd hn (by decide) }
  refine h.callHook rfl fun s es hs h ↦ ?_
  -- rendering
  rw [leadsTo_bind, leadsTo_enter]
  have h := h.enter (p := .rendering) rfl nofun fun _ ↦ hs ▸ hchecked
  refine h.callHook rfl fun s _ _ h ↦ ?_
  refine h.adds rfl nofun gen.adds_render (fun _ hes ↦ hes) nofun fun _ s h ↦ ?_
  refine h.callHook rfl fun s _ _ h ↦ ?_
  rw [leadsTo_bind, leadsTo_collect_iff]
  refine ⟨fun hfiles ↦ ?_, fun hclash ↦ ⟨9, ?_, fun _ ↦ rfl, fun _ _ ↦ ⟨rfl, ?_⟩⟩⟩
  · -- writing
    rw [leadsTo_bind, leadsTo_enter]
    have h := h.enter_writing rfl hfiles
    refine h.adds rfl nofun (adds_writeAll output _) (fun _ hes ↦ hes) nofun fun _ s h ↦ ?_
    refine h.callHook rfl fun s _ _ h ↦ ?_
    rw [leadsTo_enter]
    exact RunState.over_of_underway (h.enter rfl nofun nofun)
  · -- the run fails as it would anyway, but after its files have been collected
    have hfails : (s.failing (conflicts (allFiles s.status s.contributions))).Over gen 9 :=
      RunState.over_of_failing h rfl
    exact { hfails with }
  · exact ⟨{ s with status := { s.status with filesCollected := true } }, h.phase_eq, hclash, rfl⟩

/-- However a run ends, it is over. If nothing escapes from it, it has failed or is done. -/
theorem run_over (source : GrammarSource) (config : Config) (output : OutputTarget)
    (world : World σ) :
    ∃ n, (gen.run source config output world).2.Over gen n ∧
      ((gen.run source config output world).1 = none →
        (gen.run source config output world).2.phase ≠ .failed → n = Stage.agenda.length) ∧
      (.phase .writing ∉ Stage.agenda.take n →
        (gen.run source config output world).2.status.filesCollected = true →
          (gen.run source config output world).1 = none ∧
            (gen.run source config output world).2.Clashed) := by
  have hagenda := gen.leadsTo_agenda source output config.settings
    (s := { status := { settings := config.settings }, world }) rfl
  rw [LeadsTo] at hagenda
  rw [Generator.run]
  generalize (gen.execute source output).run _ = outcome at hagenda ⊢
  obtain ⟨r, s⟩ := outcome
  cases r with
  | ok _ => exact ⟨_, hagenda, fun _ _ ↦ rfl, fun hn ↦ absurd (by decide) hn⟩
  | error stop =>
    obtain ⟨n, hover, hfailed, hclashed⟩ := hagenda
    cases stop with
    | failed =>
      exact ⟨n, hover, fun _ hne ↦ absurd (hfailed rfl) hne,
        fun hn hcollected ↦ ⟨rfl, (hclashed hn hcollected).2⟩⟩
    | escaped f =>
      refine ⟨n, hover, fun h ↦ ?_, fun hn hcollected ↦ ?_⟩
      · cases h
      · cases (hclashed hn hcollected).1

end Generator

/-! ## Order -/

/-- The phases of a run that reaches its end. -/
def Phase.course : List Phase :=
  [.notStarted, .parsing, .validating, .rendering, .writing, .done]

/-- The phase in which a hook is called. -/
def Hook.phase : Hook → Phase
  | beforeGenerate => .parsing
  | afterParse => .parsing
  | afterValidation => .validating
  | beforeTemplateRender => .rendering
  | afterTemplateRender => .rendering
  | afterGenerate => .writing

/-- A run has gone through its phases and hooks in order, and has stopped when it had to.
`escaped` is what has escaped from it. -/
structure RunState.Orderly (gen : Generator σ) (escaped : Option Failure) (s : RunState σ) :
    Prop where
  /-- The phases come in order, and the failure after them if the run has failed. -/
  phases : ∃ ps, ps <+: Phase.course ∧
    .notStarted :: s.journal.filterMap RunEvent.phase? =
      ps ++ if s.phase = .failed then [.failed] else []
  /-- A run that does not fail goes through all phases. -/
  phases_eq : escaped = none → s.phase ≠ .failed →
    .notStarted :: s.journal.filterMap RunEvent.phase? = Phase.course
  /-- The hooks come in order, each of them at most once. -/
  hooks : s.journal.filterMap RunEvent.hook? <+: Hook.all
  /-- Each hook is called in its phase. -/
  hook_phase : ∀ before hook after, s.journal = before ++ .called hook :: after →
    (before.filterMap RunEvent.phase?).getLast? = some hook.phase
  /-- Strategies render only a diagram that has been built from a valid grammar. -/
  checked : ∀ strategy, .rendered strategy ∈ s.journal → s.course.Checked gen
  /-- Handlers run when their hook is called: all of them in their order, or those up to the first
  that stops. -/
  handlers : ∀ before hook after, s.journal = before ++ .called hook :: after →
    ∃ isolate runs rest, gen.isolates s.status.settings = .ok isolate ∧
      HandlersRan isolate (gen.plugins.handlerNames hook) runs ∧
      after = runs.map .handled ++ rest ∧ ∀ r, rest.head? ≠ some (.handled r)
  /-- Handlers run only when their hook is called. -/
  called : ∀ before r after, s.journal = before ++ .handled r :: after →
    ∃ (earlier : List RunEvent) (hook : Hook) (runs : List HandlerRun),
      before = earlier ++ .called hook :: runs.map .handled
  /-- When a handler stops the run fails, and nothing else happens. -/
  halts : ∀ isolate, gen.isolates s.status.settings = .ok isolate → ∀ before r after,
    s.journal = before ++ .handled r :: after → r.stops isolate = true → after = [.entered .failed]

namespace RunState

variable {gen : Generator σ} {n : Nat} {s : RunState σ}

/-- What is picked from the journal of a run that is over. -/
theorem Over.filterMap {γ : Type} {f : RunEvent → Option γ} (h : s.Over gen n)
    (hf : RunEvent.Picks f) :
    s.journal.filterMap f = (Stage.agenda.take n).filterMap (fun stage ↦ stage.event?.bind f) ++
      s.verdict.filterMap fun stage ↦ stage.event?.bind f := by
  obtain ⟨sections, hsections, hjournal⟩ := h.sections
  rw [hjournal, Stage.filterMap_flatten hf hsections, List.filterMap_append]

/-- The stage of an event of a journal, and what the stages around it have left. -/
theorem Over.exists_stage (h : s.Over gen n) {before after : List RunEvent} {e : RunEvent}
    (hsplit : s.journal = before ++ e :: after) (he : e ≠ .entered .failed) :
    ∃ (stages₁ stages₂ : List Stage) (stage : Stage) (sections₁ : List (List RunEvent))
      (es₁ es₂ rest : List RunEvent),
      Stage.agenda.take n = stages₁ ++ stage :: stages₂ ∧
      List.Forall₂ (Stage.Noted gen s.status.settings) stages₁ sections₁ ∧
      stage.Noted gen s.status.settings (es₁ ++ e :: es₂) ∧
      before = sections₁.flatten ++ es₁ ∧ after = es₂ ++ rest ∧
      ∀ r, rest.head? ≠ some (.handled r) := by
  obtain ⟨sections, hsections, hjournal⟩ := h.sections
  obtain ⟨stages₁, stage, stages₂, sections₁, es₁, es₂, sections₂, hstages, h₁, hstage, h₂, rfl,
    rfl⟩ := exists_section hsections (hjournal.symm.trans hsplit)
  -- the failure leaves one event, and this is not it
  have hverdict : stage ∉ s.verdict := by
    intro hmem
    rw [verdict] at hmem
    split at hmem
    · cases List.mem_singleton.mp hmem
      have he' : e ∈ [RunEvent.entered .failed] := by
        rw [← (hstage : es₁ ++ e :: es₂ = [.entered .failed])]
        exact List.mem_append_cons_self
      exact he (List.mem_singleton.mp he')
    · cases hmem
  obtain ⟨stages', htake⟩ := Stage.take_agenda_of_append hstages hverdict
  exact ⟨stages₁, stages', stage, sections₁, es₁, es₂, sections₂.flatten, htake, h₁, hstage, rfl,
    rfl, Stage.head?_flatten_ne_handled h₂⟩

/-- A hook is called in the phase entered last. -/
theorem Over.hook_phase (h : s.Over gen n) {before after : List RunEvent} {hook : Hook}
    (hsplit : s.journal = before ++ .called hook :: after) :
    (before.filterMap RunEvent.phase?).getLast? = some hook.phase := by
  obtain ⟨stages₁, _, stage, sections₁, es₁, _, _, htake, h₁, hstage, rfl, -⟩ :=
    h.exists_stage hsplit nofun
  obtain ⟨rfl, rfl, -⟩ := hstage.of_called
  rw [List.append_nil, Stage.filterMap_flatten RunEvent.picks_phase? h₁,
    Stage.eq_takeWhile_agenda htake]
  cases hook <;> rfl

/-- Rendering takes place after the rendering phase has been entered. -/
theorem Over.checked_of_rendered (h : s.Over gen n) {strategy : String}
    (hmem : .rendered strategy ∈ s.journal) : s.course.Checked gen := by
  obtain ⟨before, after, hsplit⟩ := List.append_of_mem hmem
  obtain ⟨stages₁, _, stage, _, _, _, _, htake, -, hstage, -⟩ := h.exists_stage hsplit nofun
  cases hstage.of_rendered
  have hrendering : .phase .rendering ∈ stages₁ := by
    rw [Stage.eq_takeWhile_agenda htake]
    decide
  refine h.checked ?_
  rw [htake]
  exact List.mem_append_left _ hrendering

theorem Over.filterMap_phase? (h : s.Over gen n) :
    s.journal.filterMap RunEvent.phase? =
      (Stage.agenda.take n).filterMap (fun stage ↦ stage.event?.bind RunEvent.phase?) ++
        if s.phase = .failed then [.failed] else [] := by
  rw [h.filterMap RunEvent.picks_phase?, verdict]
  split <;> rfl

/-- Which phases a run that is over has entered. -/
theorem Over.entered_mem_iff (h : s.Over gen n) {p : Phase} (hp : p ≠ .failed) :
    .entered p ∈ s.journal ↔ .phase p ∈ Stage.agenda.take n := by
  have hjournal : .entered p ∈ s.journal ↔ p ∈ s.journal.filterMap RunEvent.phase? := by
    refine ⟨fun hmem ↦ List.mem_filterMap.mpr ⟨_, hmem, rfl⟩, fun hmem ↦ ?_⟩
    obtain ⟨e, hmem, he⟩ := List.mem_filterMap.mp hmem
    cases e <;> cases he
    exact hmem
  rw [hjournal, h.filterMap_phase?, List.mem_append]
  constructor
  · rintro (hmem | hmem)
    · obtain ⟨stage, hmem, hstage⟩ := List.mem_filterMap.mp hmem
      cases stage <;> cases hstage
      exact hmem
    · split at hmem
      · exact absurd (List.mem_singleton.mp hmem) hp
      · cases hmem
  · exact fun hmem ↦ .inl (List.mem_filterMap.mpr ⟨_, hmem, rfl⟩)

theorem Over.filterMap_hook? (h : s.Over gen n) :
    s.journal.filterMap RunEvent.hook? =
      (Stage.agenda.take n).filterMap fun stage ↦ stage.event?.bind RunEvent.hook? := by
  rw [h.filterMap RunEvent.picks_hook?, verdict]
  split <;> exact List.append_nil _

end RunState

/-- **Runs are orderly.** Whatever strategies and plugins do, and whether or not something escapes
from a run, its phases and hooks come in order, and it stops where it has to. -/
theorem Generator.run_orderly (gen : Generator σ) (source : GrammarSource) (config : Config)
    (output : OutputTarget) (world : World σ) :
    (gen.run source config output world).2.Orderly gen
      (gen.run source config output world).1 := by
  obtain ⟨n, h, hends, -⟩ := gen.run_over source config output world
  generalize (gen.run source config output world).2 = s at h hends ⊢
  generalize (gen.run source config output world).1 = escaped at hends ⊢
  have hinit := List.take_prefix n Stage.agenda
  refine ⟨⟨_, List.prefix_cons_inj _ |>.mpr (hinit.filterMap _),
      congrArg (List.cons _) h.filterMap_phase?⟩, fun hescaped hunfailed ↦ ?_, ?_,
    fun _ _ _ ↦ h.hook_phase, fun _ ↦ h.checked_of_rendered, fun before hook after hsplit ↦ ?_,
    fun before r after hsplit ↦ ?_, h.halts⟩
  · obtain rfl := hends hescaped hunfailed
    rw [h.filterMap_phase?, if_neg hunfailed]
    rfl
  · rw [h.filterMap_hook?]
    exact hinit.filterMap _
  · obtain ⟨_, _, stage, sections₁, es₁, es₂, rest, -, -, hstage, -, rfl, hrest⟩ :=
      h.exists_stage hsplit nofun
    obtain ⟨-, -, isolate, runs, hisolate, hran, rfl⟩ := hstage.of_called
    exact ⟨isolate, runs, rest, hisolate, hran, rfl, hrest⟩
  · obtain ⟨_, _, stage, sections₁, es₁, es₂, rest, -, -, hstage, rfl, -⟩ :=
      h.exists_stage hsplit nofun
    obtain ⟨hook, runs, rfl⟩ := hstage.of_handled
    exact ⟨sections₁.flatten, hook, runs, rfl⟩

end DiagramForge
