import DiagramForge.Proofs.Template.Reach

/-!
# Rendering does not look at the keeper

Rendering passes the state of the keeper along and leaves it to the fragments. So if fragments come
to the same from any two related states of the keeper, then so does everything that is rendered:
this is `Block.text_oblivious`.

## The relation

`Oblivious R m` says of a computation with a state that from any two states related by `R` it comes
to the same, and that it leaves related states behind. It is closed under `bind`, and holds of
everything that does not involve the state. It is the case of two computations in step where both are
the same one, and of a template that it renders is an instance of `Block.text_inStep`.

Where streams and loops are out of sight, what a computation comes to can be named: `ComesTo I m r`
says that it is `r` from every state with the property `I`. Such equations are put together along
`bind`.
-/

namespace DiagramForge

variable {σ ε ε' α β : Type}

/-- From any two related states, a computation comes to the same; it leaves related states. -/
def Oblivious (R : σ → σ → Prop) (m : ExceptT ε (StateM σ) α) : Prop :=
  ∀ s t, R s t → (m.run s).1 = (m.run t).1 ∧ R (m.run s).2 (m.run t).2

/-- A computation is oblivious if it is in step with itself. -/
theorem oblivious_iff {R : σ → σ → Prop} {m : ExceptT ε (StateM σ) α} :
    Oblivious R m ↔ InStep R Eq m m := by
  simp only [Oblivious, InStep, sameOutcome_eq_iff]

namespace Oblivious

variable {R : σ → σ → Prop} {m : ExceptT ε (StateM σ) α}

protected theorem pure (a : α) : Oblivious R (pure a : ExceptT ε (StateM σ) α) :=
  fun _ _ h ↦ ⟨rfl, h⟩

theorem ofExcept (r : Except ε α) :
    Oblivious R (ExceptT.mk (pure r) : ExceptT ε (StateM σ) α) :=
  fun _ _ h ↦ ⟨rfl, h⟩

protected theorem bind {f : α → ExceptT ε (StateM σ) β} (hm : Oblivious R m)
    (hf : ∀ a, Oblivious R (f a)) : Oblivious R (m >>= f) :=
  oblivious_iff.mpr ((oblivious_iff.mp hm).bind_eq fun a ↦ oblivious_iff.mp (hf a))

end Oblivious

/-- From any state with the property `I`, a computation comes to `r`; it keeps the property. -/
def ComesTo (I : σ → Prop) (m : ExceptT ε (StateM σ) α) (r : Except ε α) : Prop :=
  ∀ s, I s → (m.run s).1 = r ∧ I (m.run s).2

/-- Both of two states have a property. -/
def Both (I : σ → Prop) (s t : σ) : Prop :=
  I s ∧ I t

namespace ComesTo

variable {I : σ → Prop} {m : ExceptT ε (StateM σ) α} {r : Except ε α}

protected theorem pure (a : α) : ComesTo I (pure a : ExceptT ε (StateM σ) α) (.ok a) :=
  fun _ h ↦ ⟨rfl, h⟩

theorem ofExcept (r : Except ε α) :
    ComesTo I (ExceptT.mk (pure r) : ExceptT ε (StateM σ) α) r :=
  fun _ h ↦ ⟨rfl, h⟩

protected theorem bind {f : α → ExceptT ε (StateM σ) β} {g : α → Except ε β}
    (hm : ComesTo I m r) (hf : ∀ a, r = .ok a → ComesTo I (f a) (g a)) :
    ComesTo I (m >>= f) (r >>= g) := by
  intro s hs
  obtain ⟨hresult, hI⟩ := hm s hs
  rw [run_bind]
  generalize m.run s = p at hresult hI ⊢
  obtain ⟨r', s'⟩ := p
  cases hresult
  cases r' with
  | error e => exact ⟨rfl, hI⟩
  | ok a => exact hf a rfl s' hI

/-- What follows a value that is there. -/
theorem ok_bind {a : α} {f : α → ExceptT ε (StateM σ) β} {r : Except ε β}
    (h : ComesTo I (f a) r) : ComesTo I (ExceptT.mk (pure (.ok a)) >>= f) r :=
  h

protected theorem trans {r' : Except ε α} (h : ComesTo I m r) (hr : r = r') : ComesTo I m r' :=
  hr ▸ h

theorem mapM {f : α → ExceptT ε (StateM σ) β} {g : α → Except ε β} {as : List α}
    (h : ∀ a ∈ as, ComesTo I (f a) (g a)) : ComesTo I (as.mapM f) (as.mapM g) := by
  induction as with
  | nil => exact ComesTo.pure []
  | cons a as ih =>
    rw [List.mapM_cons, List.mapM_cons]
    have has := ih fun a ha ↦ h a (List.mem_cons_of_mem _ ha)
    exact (h a List.mem_cons_self).bind fun b _ ↦ has.bind fun bs _ ↦ ComesTo.pure (b :: bs)

theorem adapt (h : ComesTo I m r) (f : ε → ε') : ComesTo I (m.adapt f) (r.mapError f) :=
  fun s hs ↦ ⟨congrArg (Except.mapError f) (h s hs).1, (h s hs).2⟩

/-- A computation that comes to the same from all states with a property is oblivious of which of
them it is. -/
theorem oblivious (h : ComesTo I m r) : Oblivious (Both I) m :=
  fun s t hst ↦ ⟨(h s hst.1).1.trans (h t hst.2).1.symm, (h s hst.1).2, (h t hst.2).2⟩

end ComesTo

/-- What comes to the same from the states of either of two runs is done in step. -/
theorem ComesTo.inStep {τ : Type} {I : σ → Prop} {J : τ → Prop} {m : ExceptT ε (StateM σ) α}
    {m' : ExceptT ε (StateM τ) α} {r : Except ε α}
    (h : ComesTo I m r) (h' : ComesTo J m' r) :
    InStep (fun s t ↦ I s ∧ J t) (fun a a' ↦ a = a' ∧ r = .ok a) m m' := by
  rintro s t ⟨hs, ht⟩
  obtain ⟨hresult, hI⟩ := h s hs
  obtain ⟨hresult', hJ⟩ := h' t ht
  refine ⟨?_, hI, hJ⟩
  rw [hresult, hresult']
  cases r with
  | error e => exact .error e
  | ok a => exact .ok ⟨rfl, rfl⟩

/-- What an oblivious computation comes to is seen from any single state. -/
theorem Oblivious.comesTo {I : σ → Prop} {m : ExceptT ε (StateM σ) α} (h : Oblivious (Both I) m)
    {t : σ} (ht : I t) : ComesTo I m (m.run t).1 :=
  fun s hs ↦ ⟨(h s t ⟨hs, ht⟩).1, (h s t ⟨hs, ht⟩).2.1⟩

namespace Template

/-! ## Rendering with a keeper -/

variable {R : σ → σ → Prop}

theorem oblivious_lift (r : Except RenderFault α) :
    Oblivious (SameMemory R) (lift r : Render σ α) :=
  Oblivious.ofExcept r

theorem oblivious_evaluate (e : Evaluation α) :
    Oblivious (SameMemory R) (evaluate e : Render σ α) :=
  oblivious_iff.mpr (inStep_evaluate_same e)

theorem oblivious_keep {e : ExceptT RenderFault (StateM σ) α} (he : Oblivious R e) :
    Oblivious (SameMemory R) (keep e) :=
  oblivious_iff.mpr (inStep_keep (oblivious_iff.mp he))

theorem oblivious_alone {m : Render σ α} (hm : Oblivious (SameMemory R) m) :
    Oblivious R m.alone :=
  oblivious_iff.mpr (inStep_alone (oblivious_iff.mp hm))

/-- The fragments of a host are oblivious. -/
def Host.Oblivious (R : σ → σ → Prop) (host : Host σ) : Prop :=
  ∀ args named, DiagramForge.Oblivious (SameMemory R) (host.fragment args named)

variable {host : Host σ}

theorem Host.Oblivious.inStep (h : host.Oblivious R) : host.InStep R host where
  helpers := rfl
  fragment args named := oblivious_iff.mp (h args named)

/-- If fragments do not look at the keeper, then no block does. -/
theorem Block.text_oblivious (h : host.Oblivious R) (scope : Scope) (b : Block) :
    Oblivious (SameMemory R) (b.text host scope) :=
  oblivious_iff.mpr (Block.text_inStep h.inStep (.refl .all scope) b.within_all)

end Template

end DiagramForge
