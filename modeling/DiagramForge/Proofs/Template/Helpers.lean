import DiagramForge.Proofs.Template.Writing

/-!
# Helpers in templates

A template that prints what a helper makes of a text writes what the helper `Prints`:
`Node.writes_call`. A helper may be anything that a caller supplies, and it may print one text now
and another one later. It gets a text, so it cannot reach the loops of the template that calls it:
it is supposed to leave them alone (`Helper.LeavesLoops`).

The built-in conversions print one text for each text, whatever streams and loops there are:
`Helper.run_printed_conversion`.
-/

namespace DiagramForge.Template

variable {σ α β : Type}

namespace Helper

/-- What a template shows of what a helper makes of a text. -/
def printed (h : Helper) (s : String) : Evaluation String := do
  (← h [.text s] []).shown takeItem

/-- A helper may print a text for another one. -/
def Prints (h : Helper) (s t : String) : Prop :=
  ∃ m, ((h.printed s).run m).1 = .ok t

/-- A helper takes nothing from a loop. -/
def LeavesLoops (h : Helper) : Prop :=
  ∀ (s : String) (m : Memory), m.Keeps ((h.printed s).run m).2

end Helper

/-! ## Calls -/

/-- Two evaluations one after the other give what the two give as one. -/
theorem Maintains.evaluate_bind {inv : Memory → Prop} {e : Evaluation α} {f : α → Evaluation β}
    {p : β → Prop} (h : ∀ m, inv m → ∀ b, ((e >>= f).run m).1 = .ok b →
      p b ∧ inv ((e >>= f).run m).2) :
    Maintains inv (evaluate e >>= fun a ↦ evaluate (f a) : Render σ β) p := by
  intro m s hm b hb
  have hm := h m hm
  rw [run_bind, run_evaluate] at hb ⊢
  rw [run_bind] at hm
  generalize e.run m = result at hm hb ⊢
  obtain ⟨_ | a, m'⟩ := result
  · cases hb
  · exact hm b hb

section Calls

variable {host : Host σ} {inv : Memory → Prop} {known : Memory} {scope : Scope} {f e : Expr}
  {name s : String}

theorem Args.eval_positional {v : Value} (he : e.Has host inv scope v) :
    Maintains inv ((positional e nil).eval host scope) (· = ([v], [])) := by
  refine Maintains.bind he fun u hu ↦ ?_
  rw [hu]
  exact .pure rfl

/-- Printing what a helper makes of a text writes what the helper prints for it. -/
theorem Node.puts_call (hf : f.Has host inv scope (.helper name))
    (he : e.Has host inv scope (.text s))
    (hleaves : ∀ h, Entries.get? host.helpers name = some h →
      ∀ m, inv m → inv ((h.printed s).run m).2) :
    (print (.call f (.positional e .nil))).Puts host inv scope
      fun t ↦ ∃ h, Entries.get? host.helpers name = some h ∧ h.Prints s t := by
  have hcall : Maintains inv (call host (.helper name) [.text s] [] >>= fun v ↦
        evaluate (v.shown takeItem))
      fun t ↦ ∃ h, Entries.get? host.helpers name = some h ∧ h.Prints s t := by
    simp only [call]
    cases hget : Entries.get? host.helpers name with
    | none =>
      rintro m s' - t ht
      cases ht
    | some h => exact .evaluate_bind fun m hm t ht ↦ ⟨⟨h, rfl, m, ht⟩, hleaves h hget m hm⟩
  change Maintains inv ((f.eval host scope >>= fun u ↦
    (Args.positional e .nil).eval host scope >>= fun r ↦ call host u r.1 r.2) >>= fun v ↦
      evaluate (v.shown takeItem) >>= fun t ↦ pure (t, scope)) _
  rw [bind_assoc]
  refine Maintains.bind hf fun u hu ↦ ?_
  rw [bind_assoc]
  refine Maintains.bind (Args.eval_positional he) fun r hr ↦ ?_
  rw [hu, hr, ← bind_assoc]
  exact Maintains.bind hcall fun t ht ↦ .pure ⟨ht, rfl⟩

/-- A helper that leaves loops alone takes nothing from them when it is called. -/
theorem Node.writes_call (hf : f.Denotes host known scope (.helper name))
    (he : e.Denotes host known scope (.text s))
    (hleaves : ∀ h, Entries.get? host.helpers name = some h → h.LeavesLoops) :
    (print (.call f (.positional e .nil))).Writes host known scope
      fun t ↦ ∃ h, Entries.get? host.helpers name = some h ∧ h.Prints s t :=
  writes_iff.mpr fun m hm ↦ puts_call (Expr.denotes_iff.mp hf m hm) (Expr.denotes_iff.mp he m hm)
    fun h hget m' hm' ↦ hm'.trans (hleaves h hget s m')

end Calls

/-! ## The helpers there are -/

namespace Helper

/-- A helper of one parameter gets the only argument of a call. -/
theorem unaryHelper_one (label parameter : String) (f : Value → Evaluation Value) (v : Value) :
    unaryHelper label parameter f [v] [] = f v :=
  rfl

theorem run_conversion (label parameter : String) (refuse : Value → Except RenderFault Value)
    {f : String → String} (hf : f "" = "") (s : String) (m : Memory) :
    (conversion label parameter refuse f [.text s] []).run m = (.ok (.text (f s)), m) := by
  rw [conversion, unaryHelper_one]
  by_cases hs : s = ""
  · subst hs
    rw [hf]
    rfl
  · have htruth : (Value.text s).truth = .ok true := by simp [Value.truth, hs]
    rw [htruth]
    rfl

/-- A conversion prints the converted text. -/
theorem run_printed_conversion (label parameter : String)
    (refuse : Value → Except RenderFault Value) {f : String → String} (hf : f "" = "") (s : String)
    (m : Memory) :
    ((conversion label parameter refuse f).printed s).run m = (.ok (f s), m) := by
  rw [printed, run_bind, run_conversion label parameter refuse hf]
  rfl

theorem leavesLoops_conversion (label parameter : String)
    (refuse : Value → Except RenderFault Value) {f : String → String} (hf : f "" = "") :
    (conversion label parameter refuse f).LeavesLoops := by
  intro s m
  rw [run_printed_conversion label parameter refuse hf]
  exact .refl m

/-- A helper that puts a text in front prints the two one after the other. -/
theorem prints_before {start s t : String} : (before start).Prints s t ↔ t = start ++ s := by
  constructor
  · rintro ⟨m, ht⟩
    exact (Except.ok.inj ht).symm
  · rintro rfl
    exact ⟨{}, rfl⟩

theorem leavesLoops_before (start : String) : (before start).LeavesLoops :=
  fun _ m ↦ .refl m

end Helper

end DiagramForge.Template
