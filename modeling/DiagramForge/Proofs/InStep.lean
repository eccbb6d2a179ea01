import DiagramForge.Diagnostic

/-!
# Computations in step

Two computations with states of their own run side by side. `InStep R S m m'` says that from any two
states that `R` relates they fail with the same fault, or come to values that `S` relates, and that
they leave states that `R` relates again. So the computations may differ in whatever the relations
leave open, and what follows from the values does not show it.

The relation is closed under `bind`, and holds of everything that does not involve the states.
-/

namespace DiagramForge

variable {σ τ ε ε' α α' β β' : Type}

/-! ## Computations with a state -/

section Run

variable (s : σ)

theorem run_bind (m : ExceptT ε (StateM σ) α) (f : α → ExceptT ε (StateM σ) β) :
    (m >>= f).run s = match m.run s with
      | (.ok a, s) => (f a).run s
      | (.error e, s) => (.error e, s) := by
  change (match m.run s with | (r, s) => ExceptT.bindCont f r s) = _
  rcases m.run s with ⟨r | r, s'⟩ <;> rfl

theorem run_ofExcept (r : Except ε α) :
    (ExceptT.mk (pure r) : ExceptT ε (StateM σ) α).run s = (r, s) := rfl

theorem run_modifyGet (f : σ → α × σ) :
    (modifyGet f : ExceptT ε (StateM σ) α).run s = (.ok (f s).1, (f s).2) := rfl

end Run

/-! ## Two outcomes -/

/-- The same fault, or two values that are related. -/
inductive SameOutcome (S : α → α' → Prop) : Except ε α → Except ε α' → Prop where
  /-- Two related values. -/
  | ok {a : α} {a' : α'} (h : S a a') : SameOutcome S (.ok a) (.ok a')
  /-- The same fault. -/
  | error (e : ε) : SameOutcome S (.error e) (.error e)

theorem sameOutcome_eq_iff {r r' : Except ε α} : SameOutcome Eq r r' ↔ r = r' := by
  constructor
  · rintro (⟨rfl⟩ | e)
    · rfl
    · rfl
  · rintro rfl
    cases r with
    | error e => exact .error e
    | ok a => exact .ok rfl

theorem SameOutcome.mono {S T : α → α' → Prop} {r : Except ε α} {r' : Except ε α'}
    (h : SameOutcome S r r') (hST : ∀ a a', S a a' → T a a') : SameOutcome T r r' := by
  cases h with
  | ok ha => exact .ok (hST _ _ ha)
  | error e => exact .error e

/-! ## Two computations -/

/-- From any two related states, two computations come to related outcomes; they leave related
states. -/
def InStep (R : σ → τ → Prop) (S : α → α' → Prop) (m : ExceptT ε (StateM σ) α)
    (m' : ExceptT ε (StateM τ) α') : Prop :=
  ∀ s t, R s t → SameOutcome S (m.run s).1 (m'.run t).1 ∧ R (m.run s).2 (m'.run t).2

namespace InStep

variable {R : σ → τ → Prop} {S : α → α' → Prop} {T : β → β' → Prop}
  {m n : ExceptT ε (StateM σ) α} {m' n' : ExceptT ε (StateM τ) α'}

protected theorem pure {a : α} {a' : α'} (h : S a a') :
    InStep R S (pure a : ExceptT ε (StateM σ) α) (pure a' : ExceptT ε (StateM τ) α') :=
  fun _ _ hst ↦ ⟨.ok h, hst⟩

theorem ofExcept {r : Except ε α} {r' : Except ε α'} (h : SameOutcome S r r') :
    InStep R S (ExceptT.mk (pure r) : ExceptT ε (StateM σ) α)
      (ExceptT.mk (pure r') : ExceptT ε (StateM τ) α') :=
  fun _ _ hst ↦ ⟨h, hst⟩

protected theorem throw (e : ε) :
    InStep R S (throw e : ExceptT ε (StateM σ) α) (throw e : ExceptT ε (StateM τ) α') :=
  fun _ _ hst ↦ ⟨.error e, hst⟩

protected theorem bind {f : α → ExceptT ε (StateM σ) β} {f' : α' → ExceptT ε (StateM τ) β'}
    (hm : InStep R S m m') (hf : ∀ a a', S a a' → InStep R T (f a) (f' a')) :
    InStep R T (m >>= f) (m' >>= f') := by
  intro s t hst
  obtain ⟨hresult, hstate⟩ := hm s t hst
  rw [run_bind, run_bind]
  generalize m.run s = p at hresult hstate ⊢
  generalize m'.run t = q at hresult hstate ⊢
  obtain ⟨r, s'⟩ := p
  obtain ⟨r', t'⟩ := q
  -- both fail, or both go on with related values
  cases hresult with
  | error e => exact ⟨.error e, hstate⟩
  | ok ha => exact hf _ _ ha s' t' hstate

/-- From equal states, a computation is in step with itself. -/
protected theorem refl (m : ExceptT ε (StateM σ) α) : InStep Eq Eq m m := by
  rintro s _ rfl
  exact ⟨sameOutcome_eq_iff.mpr rfl, rfl⟩

/-- Both go on with the same value. -/
theorem bind_eq {f : α → ExceptT ε (StateM σ) β} {f' : α → ExceptT ε (StateM τ) β'}
    {m' : ExceptT ε (StateM τ) α} (hm : InStep R Eq m m') (hf : ∀ a, InStep R T (f a) (f' a)) :
    InStep R T (m >>= f) (m' >>= f') := by
  apply hm.bind
  rintro a _ rfl
  exact hf a

/-- Both read their states. -/
protected theorem get : InStep R R (get : ExceptT ε (StateM σ) σ) (get : ExceptT ε (StateM τ) τ) :=
  fun _ _ hst ↦ ⟨.ok hst, hst⟩

/-- Both replace their states by related ones. -/
protected theorem set {s : σ} {t : τ} (h : R s t) :
    InStep R Eq (set s : ExceptT ε (StateM σ) PUnit) (set t : ExceptT ε (StateM τ) PUnit) :=
  fun _ _ _ ↦ ⟨.ok rfl, h⟩

/-- A choice that both make in the same way. -/
protected theorem ite {c : Bool} (hm : InStep R S m m') (hn : InStep R S n n') :
    InStep R S (if c = true then m else n) (if c = true then m' else n') := by
  split
  · exact hm
  · exact hn

/-- Both take a step more or neither does. -/
theorem guarded {c : Bool} {x : ExceptT ε (StateM σ) β} {x' : ExceptT ε (StateM τ) β'}
    (hx : InStep R T x x') (hm : InStep R S m m') :
    InStep R S (if c = true then x >>= fun _ ↦ m else m)
      (if c = true then x' >>= fun _ ↦ m' else m') :=
  (hx.bind fun _ _ _ ↦ hm).ite hm

theorem mono {S' : α → α' → Prop} (h : InStep R S m m') (hS : ∀ a a', S a a' → S' a a') :
    InStep R S' m m' := by
  intro s t hst
  obtain ⟨hresult, hstate⟩ := h s t hst
  exact ⟨hresult.mono hS, hstate⟩

end InStep

end DiagramForge
