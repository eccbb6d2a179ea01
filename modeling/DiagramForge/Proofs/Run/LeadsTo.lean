import DiagramForge.Run.State

/-!
# What steps of a run lead to

`RunStep.LeadsTo m s Q E` is the weakest precondition of a step: from the state `s`, the step `m`
either yields a value and a state that satisfy `Q`, or stops the run in a state that satisfies `E`.

## Reading a step backwards

Every primitive step has one equivalence here, so a goal about a composed step is rewritten into a
goal about the states it passes through. A function of the library then has one lemma about it,
and its callers use this lemma through `LeadsTo.mono` without looking into the function.
-/

namespace DiagramForge

/-- The state of a run that errors have just ended. -/
def RunState.failing {σ : Type} (s : RunState σ) (errors : List Diagnostic) : RunState σ :=
  { s with
    errors := s.errors ++ errors.map (·.withPhase s.phase.label)
    failedPhase := some s.phase
    phase := .failed
    status := { s.status with phase := Phase.failed.label }
    journal := s.journal ++ [.entered .failed] }

namespace RunStep

variable {σ α β : Type}

/-- From the state `s`, the step `m` ends as `Q` says or stops the run as `E` says. -/
def LeadsTo (m : RunStep σ α) (s : RunState σ) (Q : α → RunState σ → Prop)
    (E : RunStop → RunState σ → Prop) : Prop :=
  match m.run s with
  | (.ok a, t) => Q a t
  | (.error stop, t) => E stop t

variable {m : RunStep σ α} {s : RunState σ} {Q Q' : α → RunState σ → Prop}
  {E E' : RunStop → RunState σ → Prop}

theorem LeadsTo.mono (h : LeadsTo m s Q E) (hQ : ∀ a t, Q a t → Q' a t)
    (hE : ∀ stop t, E stop t → E' stop t) : LeadsTo m s Q' E' := by
  rw [LeadsTo] at h ⊢
  split at h
  · exact hQ _ _ h
  · exact hE _ _ h

theorem LeadsTo.and (h : LeadsTo m s Q E) (h' : LeadsTo m s Q' E') :
    LeadsTo m s (fun a t ↦ Q a t ∧ Q' a t) (fun stop t ↦ E stop t ∧ E' stop t) := by
  rw [LeadsTo] at h h' ⊢
  generalize m.run s = outcome at h h' ⊢
  obtain ⟨r, t⟩ := outcome
  cases r <;> exact ⟨h, h'⟩

/-- A step that does not stop the run, and whose value and state are known. -/
theorem LeadsTo.run_eq {a : α} {t : RunState σ}
    (h : LeadsTo m s (fun b u ↦ b = a ∧ u = t) fun _ _ ↦ False) : m.run s = (.ok a, t) := by
  rw [LeadsTo] at h
  split at h
  next hrun =>
    obtain ⟨rfl, rfl⟩ := h
    exact hrun
  next => exact h.elim

/-! ## Primitive steps -/

theorem leadsTo_pure (a : α) : LeadsTo (pure a) s Q E ↔ Q a s := Iff.rfl

theorem leadsTo_bind {Q : β → RunState σ → Prop} (f : α → RunStep σ β) :
    LeadsTo (m >>= f) s Q E ↔ LeadsTo m s (fun a t ↦ LeadsTo (f a) t Q E) E := by
  rw [LeadsTo, LeadsTo]
  have hrun : (m >>= f).run s = match m.run s with
      | (.ok a, t) => (f a).run t
      | (.error stop, t) => (.error stop, t) := by
    change (match m.run s with | (r, t) => ExceptT.bindCont f r t) = _
    rcases m.run s with ⟨r | r, t⟩ <;> rfl
  rw [hrun]
  rcases m.run s with ⟨r | r, t⟩ <;> rfl

theorem leadsTo_get {Q : RunState σ → RunState σ → Prop} :
    LeadsTo (get : RunStep σ (RunState σ)) s Q E ↔ Q s s := Iff.rfl

theorem leadsTo_set {Q : Unit → RunState σ → Prop} (t : RunState σ) :
    LeadsTo (set t : RunStep σ PUnit) s Q E ↔ Q () t := Iff.rfl

theorem leadsTo_modify {Q : Unit → RunState σ → Prop} (f : RunState σ → RunState σ) :
    LeadsTo (modify f : RunStep σ PUnit) s Q E ↔ Q () (f s) := Iff.rfl

theorem leadsTo_throw (stop : RunStop) :
    LeadsTo (throw stop : RunStep σ α) s Q E ↔ E stop s := Iff.rfl

/-! ## Steps of the library -/

theorem leadsTo_record {Q : Unit → RunState σ → Prop} (e : RunEvent) :
    LeadsTo (record e : RunStep σ Unit) s Q E ↔ Q () { s with journal := s.journal ++ [e] } :=
  Iff.rfl

theorem leadsTo_enter {Q : Unit → RunState σ → Prop} (p : Phase) :
    LeadsTo (enter p : RunStep σ Unit) s Q E ↔
      Q () { s with
        phase := p
        status := { s.status with phase := p.label }
        journal := s.journal ++ [.entered p] } := Iff.rfl

theorem leadsTo_setStatus {Q : Unit → RunState σ → Prop} (f : RunStatus → RunStatus) :
    LeadsTo (setStatus f : RunStep σ Unit) s Q E ↔ Q () { s with status := f s.status } :=
  Iff.rfl

theorem leadsTo_warn {Q : Unit → RunState σ → Prop} (warnings : List String) :
    LeadsTo (warn warnings : RunStep σ Unit) s Q E ↔
      Q () { s with contributions :=
        { s.contributions with warnings := s.contributions.warnings ++ warnings } } := Iff.rfl

theorem leadsTo_fail (errors : List Diagnostic) :
    LeadsTo (fail errors : RunStep σ α) s Q E ↔ E .failed (s.failing errors) := Iff.rfl

/-- A value that is there is passed on; a crash breaks the run off and leaves its state alone. -/
theorem leadsTo_orEscape (r : Except Crash α) :
    LeadsTo (orEscape r : RunStep σ α) s Q E ↔
      (∀ a, r = .ok a → Q a s) ∧ ∀ c, r = .error c → E (.escaped (.crash c)) s := by
  cases r with
  | error c =>
    rw [orEscape, leadsTo_throw]
    exact ⟨fun h ↦ ⟨nofun, fun _ hc ↦ by cases hc; exact h⟩, fun h ↦ h.2 c rfl⟩
  | ok a =>
    rw [orEscape, leadsTo_pure]
    exact ⟨fun h ↦ ⟨fun _ ha ↦ by cases ha; exact h, nofun⟩, fun h ↦ h.1 a rfl⟩

end RunStep

end DiagramForge
