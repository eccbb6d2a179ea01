import DiagramForge.Plugin.Builtin
import DiagramForge.Run.Generate

/-!
# How warnings arise

`WarningsArise` reads the warnings of a run off its journal, step by step: those of the validation,
those of the strategies, and one for each failure of a handler that is isolated. These are what the
run owes. Handlers can do to the warnings whatever they like. If they keep those that are there, all
that the run owes is among the warnings in the end, in the order it arose (`WarningsArise.sublist`).
The built-in plugins keep them (`PluginRegistry.keepWarnings_of_builtin`).
-/

namespace DiagramForge

variable {σ α β : Type}

/-! ## Steps with warnings -/

namespace Generator

/-- What a strategy comes to: its result, or the result of a strategy that breaks. -/
def resultOf (gen : Generator σ) (strategy : Strategy) (disk : Disk) (d : Diagram)
    (store : Template.TemplateStore) : StrategyResult :=
  match ((strategy.render gen.library disk d).run store).1 with
  | .ok result => result
  | .error f => brokenResult strategy.name f

theorem resultOf_of_ok {gen : Generator σ} {strategy : Strategy} {disk : Disk} {d : Diagram}
    {store : Template.TemplateStore} {r : StrategyResult}
    (h : ((strategy.render gen.library disk d).run store).1 = .ok r) :
    gen.resultOf strategy disk d store = r := by
  rw [resultOf, h]

/-- Only what rendering comes to counts, and the name of the strategy. -/
theorem resultOf_congr {gen gen' : Generator σ} {strategy : Strategy} {disk disk' : Disk}
    {d d' : Diagram} {store store' : Template.TemplateStore}
    (h : ((strategy.render gen.library disk d).run store).1 =
      ((strategy.render gen'.library disk' d').run store').1) :
    gen.resultOf strategy disk d store = gen'.resultOf strategy disk' d' store' := by
  rw [resultOf, resultOf, h]

end Generator

/-- A step that neither the run nor a plugin has warnings about. -/
def RunEvent.IsSilent : RunEvent → Prop
  | .entered p => p ≠ .validating
  | .called _ => True
  | .handled _ => False
  | .rendered _ => False
  | .wrote _ => True

/-- What the run warns of after a handler: that it has failed, if failures are isolated. -/
def PluginRegistry.isolatedWarnings (status : RunStatus) (hook : Hook) (plugin : String)
    (isolate : Bool) : Except Failure Unit → List String
  | .ok _ => []
  | .error f => if isolate then [(handlerFailed status hook plugin f).text] else []

/-- Handlers keep the warnings that are there, and may add others. -/
def PluginRegistry.KeepWarnings (r : PluginRegistry σ) : Prop :=
  ∀ hook plugin handler, (plugin, handler) ∈ r.handlers hook →
    ∀ (status : RunStatus) (state : Contributions × σ),
      state.1.warnings.Sublist ((handler status).run.run state).2.1.warnings

open PluginRegistry in
/-- How warnings arise along the journal of a run with given settings. `due` are the warnings of the
run itself: those of the validation, those of the strategies, and one for each isolated failure. The
last list are the warnings there are, which the handlers change as they like. -/
inductive WarningsArise (gen : Generator σ) (settings : Setting) : List RunEvent →
    Option Grammar.ValidationReport → List StrategyResult → (due : List String) → List String →
    Prop where
  /-- At first there are none. -/
  | start : WarningsArise gen settings [] none [] [] []
  /-- The grammar is validated. -/
  | validated {es : List RunEvent} {rs : List StrategyResult} {due ws : List String}
    (v : Grammar.ValidationReport) (h : WarningsArise gen settings es none rs due ws) :
    WarningsArise gen settings (es ++ [.entered .validating]) (some v) rs (due ++ v.warnings)
      (ws ++ v.warnings)
  /-- A strategy renders. -/
  | rendered {es : List RunEvent} {v : Option Grammar.ValidationReport} {rs : List StrategyResult}
    {due ws : List String} {strategy : Strategy} (hmem : strategy ∈ gen.strategies)
    (disk : Disk) (d : Diagram) (store : Template.TemplateStore)
    (h : WarningsArise gen settings es v rs due ws) :
    WarningsArise gen settings (es ++ [.rendered strategy.name]) v
      (rs ++ [gen.resultOf strategy disk d store])
      (due ++ (gen.resultOf strategy disk d store).warnings)
      (ws ++ (gen.resultOf strategy disk d store).warnings)
  /-- A handler runs. -/
  | handled {es : List RunEvent} {v : Option Grammar.ValidationReport} {rs : List StrategyResult}
    {due : List String} {hook : Hook} {plugin : String} {handler : Handler σ} {status : RunStatus}
    {isolate : Bool} {state left : Contributions × σ} {r : Except Failure Unit}
    (hmem : (plugin, handler) ∈ gen.plugins.handlers hook)
    (hisolate : gen.isolates settings = .ok isolate)
    (hrun : (handler status).run.run state = (r, left))
    (h : WarningsArise gen settings es v rs due state.1.warnings) :
    WarningsArise gen settings
      (es ++ [.handled ⟨plugin, r.toOption.isNone, left.1.aborted⟩]) v rs
      (due ++ isolatedWarnings status hook plugin isolate r)
      (left.1.warnings ++ isolatedWarnings status hook plugin isolate r)
  /-- Nothing happens that there are warnings about. -/
  | silent {es : List RunEvent} {v : Option Grammar.ValidationReport} {rs : List StrategyResult}
    {due ws : List String} {e : RunEvent} (he : e.IsSilent)
    (h : WarningsArise gen settings es v rs due ws) :
    WarningsArise gen settings (es ++ [e]) v rs due ws

namespace WarningsArise

variable {gen : Generator σ} {settings : Setting} {es : List RunEvent}
  {v : Option Grammar.ValidationReport} {rs : List StrategyResult} {due ws : List String}

/-- If handlers keep the warnings, all that are due are there in the end, in the order they
arose. -/
theorem sublist (h : WarningsArise gen settings es v rs due ws) (hkeep : gen.plugins.KeepWarnings) :
    due.Sublist ws := by
  induction h with
  | start => exact .refl []
  | validated v _ ih => exact ih.append_right _
  | rendered _ _ _ _ _ ih => exact ih.append_right _
  | @handled _ _ _ _ hook plugin handler status _ state _ _ hmem _ hrun _ ih =>
    have hkept := hkeep hook plugin handler hmem status state
    rw [hrun] at hkept
    exact (ih.trans hkept).append_right _
  | silent _ _ ih => exact ih

/-- The handlers of a hook run one after another. -/
theorem runHandlers (status : RunStatus) {hook : Hook} {isolate : Bool}
    (hisolate : gen.isolates settings = .ok isolate) {hs : List (String × Handler σ)}
    (hhs : hs ⊆ gen.plugins.handlers hook) (state : Contributions × σ)
    (h : WarningsArise gen settings es v rs due state.1.warnings) :
    ∃ due', WarningsArise gen settings
      (es ++ (PluginRegistry.runHandlers status hook isolate hs state).runs.map .handled) v rs due'
      (PluginRegistry.runHandlers status hook isolate hs state).state.1.warnings := by
  induction hs generalizing es due state with
  | nil => exact ⟨due, by rwa [PluginRegistry.runHandlers, List.map_nil, List.append_nil]⟩
  | cons e more ih =>
    obtain ⟨plugin, handler⟩ := e
    rw [List.cons_subset] at hhs
    rw [PluginRegistry.runHandlers]
    split
    · exact ⟨due, by rwa [List.map_nil, List.append_nil]⟩
    · split
      next left hrun =>
        obtain ⟨due', hmore⟩ := ih hhs.2 left
          (by simpa only [PluginRegistry.isolatedWarnings, List.append_nil] using
            h.handled hhs.1 hisolate hrun)
        exact ⟨due', by rwa [List.append_assoc] at hmore⟩
      next f c memory hrun =>
        have hafter := h.handled hhs.1 hisolate hrun
        cases isolate with
        | true =>
          obtain ⟨due', hmore⟩ := ih hhs.2 ({ c with warnings := c.warnings ++
            [(PluginRegistry.handlerFailed status hook plugin f).text] }, memory) hafter
          exact ⟨due', by rwa [List.append_assoc] at hmore⟩
        | false =>
          rw [PluginRegistry.isolatedWarnings, if_neg Bool.false_ne_true, List.append_nil,
            List.append_nil] at hafter
          exact ⟨due, hafter⟩

end WarningsArise

/-! ## The built-in plugins -/

namespace HookAction

/-- An action leaves the warnings as they are. -/
def LeavesWarnings (m : HookAction σ α) : Prop :=
  ∀ state, (m.run.run state).2.1.warnings = state.1.warnings

theorem leavesWarnings_pure (a : α) : LeavesWarnings (pure a : HookAction σ α) := fun _ ↦ rfl

theorem leavesWarnings_throw (f : Failure) : LeavesWarnings (throw f : HookAction σ α) :=
  fun _ ↦ rfl

theorem leavesWarnings_onMemory (f : σ → α × σ) : LeavesWarnings (onMemory f) := fun _ ↦ rfl

theorem leavesWarnings_contributions : LeavesWarnings (contributions : HookAction σ _) :=
  fun _ ↦ rfl

theorem leavesWarnings_contribute {f : Contributions → Contributions}
    (hf : ∀ c, (f c).warnings = c.warnings) :
    LeavesWarnings (contribute f : HookAction σ Unit) := fun state ↦ hf state.1

theorem LeavesWarnings.bind {m : HookAction σ α} {f : α → HookAction σ β} (hm : LeavesWarnings m)
    (hf : ∀ a, LeavesWarnings (f a)) : LeavesWarnings (m >>= f) := by
  intro state
  have hrun : (m >>= f).run.run state = match m.run.run state with
      | (.ok a, state) => (f a).run.run state
      | (.error e, state) => (.error e, state) := by
    change (match m.run.run state with | (r, state) => ExceptT.bindCont f r state) = _
    rcases m.run.run state with ⟨r | r, state⟩ <;> rfl
  have hstate := hm state
  rw [hrun]
  generalize m.run.run state = outcome at hstate ⊢
  obtain ⟨e | a, after⟩ := outcome
  · exact hstate
  · exact (hf a after).trans hstate

/-- An action that is preceded by another one only in some cases. -/
theorem LeavesWarnings.guarded {b : Bool} {x : HookAction σ α} {y : HookAction σ β}
    (hx : LeavesWarnings x) (hy : LeavesWarnings y) :
    LeavesWarnings (if b = true then x >>= fun _ ↦ y else y) := by
  split
  · exact hx.bind fun _ ↦ hy
  · exact hy

theorem leavesWarnings_setMetadata (key : String) (d : Data) :
    LeavesWarnings (setMetadata key d : HookAction σ Unit) :=
  leavesWarnings_contribute fun _ ↦ rfl

theorem leavesWarnings_addFile (s : RunStatus) (path content : String) :
    LeavesWarnings (addFile s path content : HookAction σ Unit) := by
  rw [addFile]
  split
  · exact leavesWarnings_throw _
  · split
    · exact leavesWarnings_contribute fun _ ↦ rfl
    · exact leavesWarnings_throw _

end HookAction

namespace Metrics

open HookAction

variable (w : Stopwatch σ)

theorem leavesWarnings_recorded : LeavesWarnings (recorded : HookAction σ _) := by
  refine leavesWarnings_contributions.bind fun c ↦ ?_
  split
  · exact leavesWarnings_pure _
  · exact leavesWarnings_throw _

theorem leavesWarnings_begin (s : RunStatus) : LeavesWarnings (begin w s) :=
  (leavesWarnings_onMemory _).bind fun _ ↦ (leavesWarnings_onMemory _).bind fun _ ↦
    leavesWarnings_setMetadata _ _

theorem leavesWarnings_mark (s : RunStatus) : LeavesWarnings (mark w s) := by
  refine (leavesWarnings_onMemory _).bind fun now ↦ leavesWarnings_contributions.bind fun c ↦ ?_
  refine LeavesWarnings.guarded (leavesWarnings_setMetadata _ _) ?_
  refine leavesWarnings_recorded.bind fun r ↦ (leavesWarnings_onMemory _).bind fun marks ↦ ?_
  dsimp only
  split
  · exact leavesWarnings_throw _
  · exact (leavesWarnings_setMetadata _ _).bind fun _ ↦ leavesWarnings_onMemory _

theorem leavesWarnings_note (name : String) (n : Int) :
    LeavesWarnings (note name n : HookAction σ Unit) :=
  leavesWarnings_recorded.bind fun _ ↦ leavesWarnings_setMetadata _ _

theorem leavesWarnings_finish (s : RunStatus) : LeavesWarnings (finish w s) := by
  refine (leavesWarnings_mark w s).bind fun _ ↦ leavesWarnings_contributions.bind fun c ↦ ?_
  refine (leavesWarnings_note _ _).bind fun _ ↦ ?_
  have htotal : LeavesWarnings (do
      let now ← onMemory w.read
      let marks ← onMemory fun memory ↦ (w.marks memory, memory)
      note "total_duration" (now - marks.start)) :=
    (leavesWarnings_onMemory _).bind fun _ ↦ (leavesWarnings_onMemory _).bind fun _ ↦
      leavesWarnings_note _ _
  split
  · exact (leavesWarnings_throw _).bind fun _ ↦ htotal
  · exact (leavesWarnings_note _ _).bind fun _ ↦ htotal

end Metrics

namespace TypeSafety

open HookAction

theorem leavesWarnings_analyze (s : RunStatus) :
    LeavesWarnings (analyze s : HookAction σ Unit) := by
  rw [analyze]
  split
  · exact leavesWarnings_throw _
  · exact leavesWarnings_setMetadata _ _

theorem leavesWarnings_annotate (o : Options) (s : RunStatus) :
    LeavesWarnings (annotate o s : HookAction σ Unit) := by
  rw [annotate]
  split
  · exact leavesWarnings_pure _
  · exact leavesWarnings_contribute fun _ ↦ rfl

theorem leavesWarnings_addFiles (o : Options) (s : RunStatus) :
    LeavesWarnings (addFiles o s : HookAction σ Unit) := by
  rw [addFiles]
  split
  · exact leavesWarnings_pure _
  · refine LeavesWarnings.guarded (leavesWarnings_addFile _ _ _) ?_
    split
    · exact leavesWarnings_addFile _ _ _
    · exact leavesWarnings_pure _

end TypeSafety

/-- The built-in plugins leave the warnings as they are. -/
theorem PluginRegistry.keepWarnings_of_builtin {r : PluginRegistry σ} {w : Stopwatch σ}
    (h : r.plugins ⊆ builtinPlugins w) : r.KeepWarnings := by
  have hall : ∀ p ∈ builtinPlugins w, ∀ e ∈ p.hooks, ∀ status,
      HookAction.LeavesWarnings (e.2 status) := by
    intro p hp e he status
    rcases List.mem_cons.mp hp with rfl | hp
    · simp only [Metrics.plugin, List.mem_cons, List.not_mem_nil, or_false] at he
      rcases he with rfl | rfl | rfl | rfl | rfl | rfl
      · exact Metrics.leavesWarnings_begin w status
      · exact Metrics.leavesWarnings_mark w status
      · exact Metrics.leavesWarnings_mark w status
      · exact Metrics.leavesWarnings_mark w status
      · exact Metrics.leavesWarnings_mark w status
      · exact Metrics.leavesWarnings_finish w status
    · cases List.mem_singleton.mp hp
      simp only [TypeSafety.plugin, List.mem_cons, List.not_mem_nil, or_false] at he
      rcases he with rfl | rfl | rfl
      · exact TypeSafety.leavesWarnings_analyze status
      · exact TypeSafety.leavesWarnings_annotate {} status
      · exact TypeSafety.leavesWarnings_addFiles {} status
  intro hook plugin handler hmem status state
  rw [handlers_eq_flatMap] at hmem
  obtain ⟨p, hp, hmem⟩ := List.mem_flatMap.mp hmem
  obtain ⟨e, he, heq⟩ := List.mem_map.mp hmem
  cases heq
  have hleaves := hall p (h hp) e (List.mem_filter.mp he).1 status state
  exact hleaves ▸ List.Sublist.refl _

end DiagramForge
