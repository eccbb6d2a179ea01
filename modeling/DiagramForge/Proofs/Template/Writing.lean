import DiagramForge.Proofs.InStep
import DiagramForge.Proofs.Template.Reach

/-!
# What a template writes

If rendering a part of a template succeeds, what does it write? `Maintains inv r p` says that
rendering gives something with the property `p` from any state in which `inv` holds of the memory,
and that `inv` then holds again. `Expr.Has` and `Node.Puts` are the cases of expressions and of
parts, with a rule for each constructor that occurs where something is proved about a template.

Mostly little has to be known of the memory. `Gives known r p` says that rendering gives something
with the property `p`, from any state in which the loops of the memory `known` have their items
still to come. A loop may be looked at, which takes an item out of its source and puts it aside, but
nobody besides the loop itself goes on to the next item; so what a loop has still to come is all
that has to be known of it. `Expr.Denotes` and `Node.Writes` are the cases of expressions and parts.
The rule of loops, `Node.writes_loop`, is an induction on the items: it leaves open what the body
writes for an item, and the body may ask whether further items are to come.

All this is about rendering that succeeds. That it does is never claimed.
-/

namespace DiagramForge.Template

variable {σ α β : Type}

/-! ## What loops have still to come -/

/-- The items that a loop has still to come. -/
inductive Loop.Ahead : Loop → List Value → Prop where
  /-- The next item has not been looked at. -/
  | unseen {l : Loop} {vs : List Value} (hsource : l.source = .items vs) (hnext : l.next = none) :
    Ahead l vs
  /-- The next item has been looked at. -/
  | seen {l : Loop} {v : Value} {vs : List Value} (hsource : l.source = .items vs)
    (hnext : l.next = some (some v)) : Ahead l (v :: vs)
  /-- It has been seen that there is none. -/
  | done {l : Loop} (hnext : l.next = some none) : Ahead l []

namespace Memory

variable {m m' m'' known : Memory} {id id' : Nat} {vs : List Value}

/-- The items that the loop at a place has still to come. -/
def Ahead (m : Memory) (id : Nat) (vs : List Value) : Prop :=
  ∃ l, m.loops[id]? = some l ∧ l.Ahead vs

/-- The loop at a place has taken so many items, and has the given ones still to come. -/
def Stands (id taken : Nat) (vs : List Value) (m : Memory) : Prop :=
  ∃ l, m.loops[id]? = some l ∧ l.Ahead vs ∧ l.taken = taken

theorem Stands.ahead {taken : Nat} (h : m.Stands id taken vs) : m.Ahead id vs := by
  obtain ⟨l, hl, hvs, -⟩ := h
  exact ⟨l, hl, hvs⟩

theorem Ahead.exists_stands (h : m.Ahead id vs) : ∃ taken, m.Stands id taken vs := by
  obtain ⟨l, hl, hvs⟩ := h
  exact ⟨l.taken, l, hl, hvs, rfl⟩

/-- What loops have still to come stays, that of one loop possibly excepted. -/
def KeepsBut (id : Nat) (m m' : Memory) : Prop :=
  ∀ id' ≠ id, ∀ vs, m.Ahead id' vs → m'.Ahead id' vs

/-- What loops have still to come stays. -/
def Keeps (m m' : Memory) : Prop :=
  ∀ id vs, m.Ahead id vs → m'.Ahead id vs

theorem Keeps.refl (m : Memory) : m.Keeps m :=
  fun _ _ h ↦ h

/-- Where there are no loops, there is nothing to keep. -/
theorem keeps_empty (m : Memory) : Keeps {} m := by
  rintro id vs ⟨l, hl, -⟩
  cases hl

theorem Keeps.trans (h : m.Keeps m') (h' : m'.Keeps m'') : m.Keeps m'' :=
  fun id vs hvs ↦ h' id vs (h id vs hvs)

theorem Keeps.but (h : m.Keeps m') (id : Nat) : KeepsBut id m m' :=
  fun id' _ ↦ h id'

theorem KeepsBut.trans (h : KeepsBut id m m') (h' : KeepsBut id m' m'') : KeepsBut id m m'' :=
  fun id' hne vs hvs ↦ h' id' hne vs (h id' hne vs hvs)

/-- Where nothing is known of the loop that is excepted, everything that is known stays. -/
theorem Keeps.trans_but (h : known.Keeps m) (h' : KeepsBut id m m')
    (hid : ∀ vs, ¬ known.Ahead id vs) : known.Keeps m' := by
  intro id' vs hvs
  refine h' id' ?_ vs (h id' vs hvs)
  rintro rfl
  exact hid vs hvs

theorem Ahead.lt_size (h : m.Ahead id vs) : id < m.loops.size := by
  obtain ⟨l, hl, -⟩ := h
  exact (Array.getElem?_eq_some_iff.mp hl).1

theorem not_ahead_size (m : Memory) (vs : List Value) : ¬ m.Ahead m.loops.size vs :=
  fun h ↦ Nat.lt_irrefl _ h.lt_size

/-- The memory with a loop replaced. -/
def withLoop (m : Memory) (id : Nat) (l : Loop) : Memory :=
  { m with loops := m.loops.modify id fun _ ↦ l }

theorem stands_withLoop {l : Loop} (h : id < m.loops.size) (hl : l.Ahead vs) :
    (m.withLoop id l).Stands id l.taken vs := by
  refine ⟨l, ?_, hl, rfl⟩
  rw [withLoop, Array.getElem?_modify, if_pos rfl, Array.getElem?_eq_getElem h]
  rfl

theorem keepsBut_withLoop (m : Memory) (id : Nat) (l : Loop) : KeepsBut id m (m.withLoop id l) := by
  rintro id' hne vs ⟨l', hl', hvs⟩
  refine ⟨l', ?_, hvs⟩
  rw [withLoop, Array.getElem?_modify, if_neg hne.symm]
  exact hl'

/-- The memory with a further loop. -/
def pushLoop (m : Memory) (l : Loop) : Memory :=
  { m with loops := m.loops.push l }

theorem stands_pushLoop {l : Loop} (m : Memory) (hl : l.Ahead vs) :
    (m.pushLoop l).Stands m.loops.size l.taken vs :=
  ⟨l, Array.getElem?_push_size, hl, rfl⟩

theorem keeps_pushLoop (m : Memory) (l : Loop) : m.Keeps (m.pushLoop l) := by
  rintro id vs ⟨l', hl', hvs⟩
  refine ⟨l', ?_, hvs⟩
  rw [pushLoop, Array.getElem?_push_lt (Array.getElem?_eq_some_iff.mp hl').1,
    Array.getElem?_eq_some_iff.mp hl' |>.2]

end Memory

/-! ## Looking at loops and going on -/

namespace Loop

open Memory

variable {l : Loop} {m : Memory} {id taken : Nat} {v : Value} {vs ws : List Value}

theorem Ahead.unique (h : l.Ahead vs) (h' : l.Ahead ws) : vs = ws := by
  cases h with
  | unseen hsource hnext | seen hsource hnext | done hnext =>
    cases h' <;> simp_all

theorem run_get? (id : Nat) (m : Memory) : (get? id).run m = (.ok m.loops[id]?, m) :=
  rfl

/-- Looking at a loop shows its next item and remembers it. -/
theorem run_look (h : m.Stands id taken vs) : ∃ m', (look takeItem id).run m = (.ok vs.head?, m') ∧
    (∃ l, m'.loops[id]? = some l ∧ l.Ahead vs ∧ l.next = some vs.head? ∧ l.taken = taken) ∧
      KeepsBut id m m' := by
  have hlt := h.ahead.lt_size
  obtain ⟨l, hl, hvs, htaken⟩ := h
  have hput (l' : Loop) : (m.withLoop id l').loops[id]? = some l' := by
    rw [withLoop, Array.getElem?_modify, if_pos rfl, hl]
    rfl
  rw [look, run_bind, run_get?, hl]
  dsimp only
  cases hvs with
  | @seen v vs hsource hnext =>
    rw [hnext]
    exact ⟨m, rfl, ⟨l, hl, .seen hsource hnext, hnext, htaken⟩, (Keeps.refl m).but id⟩
  | done hnext =>
    rw [hnext]
    exact ⟨m, rfl, ⟨l, hl, .done hnext, hnext, htaken⟩, (Keeps.refl m).but id⟩
  | unseen hsource hnext =>
    -- the next item is taken out of the source and put aside
    rw [hnext, hsource]
    dsimp only
    cases vs with
    | nil => exact ⟨_, rfl, ⟨_, hput _, .done rfl, rfl, htaken⟩, keepsBut_withLoop m id _⟩
    | cons v vs =>
      exact ⟨_, rfl, ⟨_, hput _, .seen rfl rfl, rfl, htaken⟩, keepsBut_withLoop m id _⟩

theorem stands_look (h : m.Stands id taken vs) :
    ∃ m', (look takeItem id).run m = (.ok vs.head?, m') ∧ m'.Stands id taken vs := by
  obtain ⟨m', hrun, ⟨l, hl, hvs, -, htaken⟩, -⟩ := run_look h
  exact ⟨m', hrun, l, hl, hvs, htaken⟩

/-- Looking at a loop takes nothing from it. -/
theorem keeps_look (h : m.Ahead id vs) :
    ∃ m', (look takeItem id).run m = (.ok vs.head?, m') ∧ m.Keeps m' := by
  obtain ⟨taken, hstands⟩ := h.exists_stands
  obtain ⟨m', hrun, ⟨l', hl', hvs, -⟩, hkeeps⟩ := run_look hstands
  refine ⟨m', hrun, fun id' ws hws ↦ ?_⟩
  by_cases hid : id' = id
  · subst hid
    obtain ⟨l, hl, hahead⟩ := h
    obtain ⟨l₀, hl₀, hws⟩ := hws
    cases hl.symm.trans hl₀
    exact ⟨l', hl', hahead.unique hws ▸ hvs⟩
  · exact hkeeps id' hid ws hws

/-- The index that a loop tells is the number of items before the present one. -/
theorem run_field?_index0 (h : m.Stands id (taken + 1) vs) :
    (field? takeItem id "index0").run m = (.ok (some (.int taken)), m) := by
  obtain ⟨l, hl, -, htaken⟩ := h
  have hindex : ((l.taken : Int) - 1) = taken := by omega
  rw [field?, run_bind, run_get?, hl, ← hindex]
  rfl

/-- A loop is at its last item if no items are to come, which is looked at. -/
theorem run_field?_last (h : m.Ahead id vs) {m' : Memory}
    (hrun : (look takeItem id).run m = (.ok vs.head?, m')) :
    (field? takeItem id "last").run m = (.ok (some (.bool vs.isEmpty)), m') := by
  obtain ⟨l, hl, -⟩ := h
  rw [field?, run_bind, run_get?, hl]
  simp only [run_bind, hrun]
  cases vs <;> rfl

/-- Going on from an item of a loop leaves the items after it. -/
theorem run_advance_cons (h : m.Stands id taken (v :: vs)) : ∃ m',
    (advance takeItem id).run m = (.ok (some v), m') ∧ m'.Stands id (taken + 1) vs ∧
      KeepsBut id m m' := by
  obtain ⟨m', hrun, ⟨l, hl, hahead, hnext, htaken⟩, hkeeps⟩ := run_look h
  have hlt := (Array.getElem?_eq_some_iff.mp hl).1
  have hsource : l.source = .items vs := by
    cases hahead with
    | unseen _ hnext' => cases hnext'.symm.trans hnext
    | seen hsource _ => exact hsource
  rw [advance, run_bind, hrun, ← htaken]
  dsimp only
  rw [run_bind, run_get?, hl]
  exact ⟨_, rfl, stands_withLoop hlt (.unseen hsource rfl),
    hkeeps.trans (keepsBut_withLoop m' id _)⟩

/-- A loop at its end does not go on. -/
theorem run_advance_nil (h : m.Stands id taken []) : ∃ m',
    (advance takeItem id).run m = (.ok none, m') ∧ m'.Stands id taken [] ∧ KeepsBut id m m' := by
  obtain ⟨m', hrun, ⟨l, hl, hahead, -, htaken⟩, hkeeps⟩ := run_look h
  rw [advance, run_bind, hrun]
  dsimp only
  rw [run_bind, run_get?, hl]
  exact ⟨m', rfl, ⟨l, hl, hahead, htaken⟩, hkeeps⟩

end Loop

/-! ## What rendering gives -/

theorem run_evaluate (e : Evaluation α) (m : Memory) (s : σ) :
    (evaluate e : Render σ α).run (m, s) = ((e.run m).1, (e.run m).2, s) :=
  rfl

/-- From any state in which something holds of the memory, if rendering succeeds, then with a value
that has the property; and it holds of the memory again. -/
def Maintains (inv : Memory → Prop) (r : Render σ α) (p : α → Prop) : Prop :=
  ∀ m s, inv m → ∀ a, (r.run (m, s)).1 = .ok a → p a ∧ inv (r.run (m, s)).2.1

namespace Maintains

variable {inv : Memory → Prop} {r : Render σ α} {p p' : α → Prop} {q : β → Prop}

protected theorem pure {a : α} (h : p a) : Maintains inv (pure a : Render σ α) p := by
  rintro m s hm _ ⟨⟩
  exact ⟨h, hm⟩

protected theorem bind {f : α → Render σ β} (hr : Maintains inv r p)
    (hf : ∀ a, p a → Maintains inv (f a) q) : Maintains inv (r >>= f) q := by
  intro m s hm b hb
  have hgives := hr m s hm
  rw [run_bind] at hb ⊢
  generalize r.run (m, s) = result at hgives hb ⊢
  obtain ⟨_ | a, m', s'⟩ := result
  · cases hb
  · obtain ⟨ha, hm'⟩ := hgives a rfl
    exact hf a ha m' s' hm' b hb

theorem imp (h : Maintains inv r p) (hp : ∀ a, p a → p' a) : Maintains inv r p' :=
  fun m s hm a ha ↦ (h m s hm a ha).imp_left (hp a)

protected theorem lift {x : Except RenderFault α} (h : ∀ a, x = .ok a → p a) :
    Maintains inv (lift x : Render σ α) p := by
  intro m s hm a ha
  exact ⟨h a ha, hm⟩

protected theorem evaluate {e : Evaluation α} (h : ∀ m, inv m → ∀ a, (e.run m).1 = .ok a →
    p a ∧ inv (e.run m).2) : Maintains inv (evaluate e : Render σ α) p :=
  fun m _ hm a ha ↦ h m hm a ha

end Maintains

/-- From any state in which the known loops have their items still to come, if rendering succeeds,
then with a value that has the property; and it takes nothing from any loop there is. -/
def Gives (known : Memory) (r : Render σ α) (p : α → Prop) : Prop :=
  ∀ m s, known.Keeps m → ∀ a, (r.run (m, s)).1 = .ok a →
    p a ∧ m.Keeps (r.run (m, s)).2.1

/-- Taking nothing from any loop is maintaining what any of them has still to come. -/
theorem gives_iff {known : Memory} {r : Render σ α} {p : α → Prop} :
    Gives known r p ↔ ∀ m, known.Keeps m → Maintains m.Keeps r p := by
  constructor
  · intro h m hm m' s hm' a ha
    exact (h m' s (hm.trans hm') a ha).imp_right hm'.trans
  · exact fun h m s hm ↦ h m hm m s (.refl m)

namespace Gives

variable {known known' : Memory} {r : Render σ α} {p p' : α → Prop} {q : β → Prop}

protected theorem pure {a : α} (h : p a) : Gives known (pure a : Render σ α) p :=
  gives_iff.mpr fun _ _ ↦ .pure h

protected theorem bind {f : α → Render σ β} (hr : Gives known r p)
    (hf : ∀ a, p a → Gives known (f a) q) : Gives known (r >>= f) q :=
  gives_iff.mpr fun m hm ↦ (gives_iff.mp hr m hm).bind fun a ha ↦ gives_iff.mp (hf a ha) m hm

theorem imp (h : Gives known r p) (hp : ∀ a, p a → p' a) : Gives known r p' :=
  gives_iff.mpr fun m hm ↦ (gives_iff.mp h m hm).imp hp

/-- More may be known of the loops. -/
theorem mono (h : Gives known r p) (hknown : known.Keeps known') : Gives known' r p :=
  fun m s hm ↦ h m s (hknown.trans hm)

protected theorem lift {x : Except RenderFault α} {a : α} (h : x = .ok a) :
    Gives known (lift x : Render σ α) (· = a) :=
  gives_iff.mpr fun _ _ ↦ .lift fun _ ha ↦ Except.ok.inj (ha.symm.trans h)

protected theorem evaluate {e : Evaluation α} (h : ∀ m, known.Keeps m → ∀ a, (e.run m).1 = .ok a →
    p a ∧ m.Keeps (e.run m).2) : Gives known (evaluate e : Render σ α) p :=
  fun m _ hm a ha ↦ h m hm a ha

end Gives

/-! ## Expressions -/

/-- An expression has a value wherever something holds of the memory. -/
def Expr.Has (host : Host σ) (inv : Memory → Prop) (scope : Scope) (e : Expr) (v : Value) : Prop :=
  Maintains inv (e.eval host scope) (· = v)

/-- An expression denotes a value. -/
def Expr.Denotes (host : Host σ) (known : Memory) (scope : Scope) (e : Expr) (v : Value) : Prop :=
  Gives known (e.eval host scope) (· = v)

section Expressions

variable {host : Host σ} {inv : Memory → Prop} {known : Memory} {scope : Scope} {e c a b : Expr}
  {v w : Value} {line id : Nat} {n : String}

theorem Expr.denotes_iff :
    e.Denotes host known scope v ↔ ∀ m, known.Keeps m → e.Has host m.Keeps scope v :=
  gives_iff

theorem Expr.has_literal (v : Value) : (literal v).Has host inv scope v :=
  .pure rfl

theorem Expr.has_name (h : scope.value n = v) : (name n line).Has host inv scope v :=
  .pure h

theorem Expr.has_field (he : e.Has host inv scope v) (h : v.field takeItem n = pure w) :
    (field e n).Has host inv scope w := by
  refine Maintains.bind he fun u hu ↦ ?_
  rw [hu, h]
  exact .pure rfl

theorem Expr.has_unary {op : UnaryOp} (he : e.Has host inv scope v) (h : op.apply v = .ok w) :
    (unary op e).Has host inv scope w := by
  refine Maintains.bind he fun u hu ↦ ?_
  rw [hu]
  exact .lift fun _ hx ↦ Except.ok.inj (hx.symm.trans h)

theorem Expr.has_binary {op : BinaryOp} {u : Value} (ha : a.Has host inv scope v)
    (hb : b.Has host inv scope w) (h : op.apply v w = .ok u) :
    (binary op a b).Has host inv scope u := by
  refine Maintains.bind ha fun v' hv ↦ Maintains.bind hb fun w' hw ↦ ?_
  rw [hv, hw]
  exact .lift fun _ hx ↦ Except.ok.inj (hx.symm.trans h)

theorem Expr.has_cond {holds : Bool} (hc : c.Has host inv scope v) (hholds : v.truth = .ok holds)
    (h : (bif holds then a else b).Has host inv scope w) : (cond c a b).Has host inv scope w := by
  refine Maintains.bind hc fun u hu ↦ ?_
  rw [hu]
  refine Maintains.bind (.lift fun _ ht ↦ Except.ok.inj (ht.symm.trans hholds)) fun t ht ↦ ?_
  rw [ht]
  cases holds with
  | true => exact h
  | false => exact h

theorem Expr.denotes_literal (v : Value) : (literal v).Denotes host known scope v :=
  denotes_iff.mpr fun _ _ ↦ has_literal v

theorem Expr.denotes_name (h : scope.value n = v) : (name n line).Denotes host known scope v :=
  denotes_iff.mpr fun _ _ ↦ has_name h

theorem Expr.denotes_field (he : e.Denotes host known scope v)
    (h : v.field takeItem n = pure w) : (field e n).Denotes host known scope w :=
  denotes_iff.mpr fun m hm ↦ has_field (denotes_iff.mp he m hm) h

theorem Expr.denotes_item {key : Expr} {u : Value} (he : e.Denotes host known scope v)
    (hkey : key.Denotes host known scope w) (h : v.item takeItem w = pure u) :
    (item e key).Denotes host known scope u := by
  refine Gives.bind he fun v' hv ↦ Gives.bind hkey fun w' hw ↦ ?_
  rw [hv, hw, h]
  exact .pure rfl

theorem Expr.denotes_unary {op : UnaryOp} (he : e.Denotes host known scope v)
    (h : op.apply v = .ok w) : (unary op e).Denotes host known scope w :=
  denotes_iff.mpr fun m hm ↦ has_unary (denotes_iff.mp he m hm) h

theorem Expr.denotes_cond {holds : Bool} (hc : c.Denotes host known scope v)
    (hholds : v.truth = .ok holds) (h : (bif holds then a else b).Denotes host known scope w) :
    (cond c a b).Denotes host known scope w :=
  denotes_iff.mpr fun m hm ↦ has_cond (denotes_iff.mp hc m hm) hholds (denotes_iff.mp h m hm)

theorem run_field_loop {m m' : Memory} {w : Value}
    (h : (Loop.field? takeItem id n).run m = (.ok (some w), m')) :
    ((Value.loop id).field takeItem n).run m = (.ok w, m') := by
  change (Loop.field? takeItem id n >>= _).run m = _
  rw [run_bind, h]
  rfl

/-- Whether the present item of a loop is the last one. -/
theorem Expr.denotes_last {vs : List Value} (he : e.Denotes host known scope (.loop id))
    (h : known.Ahead id vs) : (field e "last").Denotes host known scope (.bool vs.isEmpty) := by
  refine Gives.bind he fun u hu ↦ .evaluate fun m hm a ha ↦ ?_
  obtain ⟨m', hlook, hkeeps⟩ := Loop.keeps_look (hm id vs h)
  rw [hu, run_field_loop (Loop.run_field?_last (hm id vs h) hlook)] at ha ⊢
  exact ⟨(Except.ok.inj ha).symm, hkeeps⟩

section Stands

variable {taken : Nat} {vs : List Value}

theorem Expr.has_last (he : e.Has host (Memory.Stands id taken vs) scope (.loop id)) :
    (field e "last").Has host (Memory.Stands id taken vs) scope (.bool vs.isEmpty) := by
  refine Maintains.bind he fun u hu ↦ .evaluate fun m hm a ha ↦ ?_
  obtain ⟨m', hlook, hm'⟩ := Loop.stands_look hm
  rw [hu, run_field_loop (Loop.run_field?_last hm.ahead hlook)] at ha ⊢
  exact ⟨(Except.ok.inj ha).symm, hm'⟩

theorem Expr.has_index0 (he : e.Has host (Memory.Stands id (taken + 1) vs) scope (.loop id)) :
    (field e "index0").Has host (Memory.Stands id (taken + 1) vs) scope (.int taken) := by
  refine Maintains.bind he fun u hu ↦ .evaluate fun m hm a ha ↦ ?_
  rw [hu, run_field_loop (Loop.run_field?_index0 hm)] at ha ⊢
  exact ⟨(Except.ok.inj ha).symm, hm⟩

end Stands

end Expressions

/-! ## Parts -/

/-- What is written for the items of a list one after another; `p` says what may be written for an
item that the given items follow. -/
inductive Each (p : α → List α → String → Prop) : List α → String → Prop where
  /-- Nothing is written for no items. -/
  | nil : Each p [] ""
  /-- First something is written for the first item. -/
  | cons {a : α} {as : List α} {s t : String} (hs : p a as s) (ht : Each p as t) :
    Each p (a :: as) (s ++ t)

/-- Where what is written for an item depends on a choice, a choice has been made for each item. -/
theorem Each.exists_join {γ : Type} {q : α → γ → Prop} {f : α → γ → String} {as : List α}
    {t : String} (h : Each (fun a _ t ↦ ∃ c, q a c ∧ t = f a c) as t) :
    ∃ cs : List (α × γ), cs.map Prod.fst = as ∧ (∀ x ∈ cs, q x.1 x.2) ∧
      t = String.join (cs.map fun x ↦ f x.1 x.2) := by
  induction h with
  | nil => exact ⟨[], rfl, List.forall_mem_nil _, rfl⟩
  | @cons a as _ _ hs _ ih =>
    obtain ⟨c, hc, rfl⟩ := hs
    obtain ⟨cs, rfl, hcs, rfl⟩ := ih
    exact ⟨(a, c) :: cs, rfl, List.forall_mem_cons.mpr ⟨hc, hcs⟩, String.join_cons.symm⟩

/-- Wherever something holds of the memory, a part writes only texts with a property, and binds no
names. -/
def Node.Puts (host : Host σ) (inv : Memory → Prop) (scope : Scope) (n : Node)
    (p : String → Prop) : Prop :=
  Maintains inv (n.render host scope) fun r ↦ p r.1 ∧ r.2 = scope

/-- Wherever something holds of the memory, a block writes only texts with a property, and binds no
names. -/
def Block.Puts (host : Host σ) (inv : Memory → Prop) (scope : Scope) (b : Block)
    (p : String → Prop) : Prop :=
  Maintains inv (b.render host scope) fun r ↦ p r.1 ∧ r.2 = scope

/-- A part writes only texts with a property, and binds no names. -/
def Node.Writes (host : Host σ) (known : Memory) (scope : Scope) (n : Node) (p : String → Prop) :
    Prop :=
  Gives known (n.render host scope) fun r ↦ p r.1 ∧ r.2 = scope

/-- A block writes only texts with a property, and binds no names. -/
def Block.Writes (host : Host σ) (known : Memory) (scope : Scope) (b : Block) (p : String → Prop) :
    Prop :=
  Gives known (b.render host scope) fun r ↦ p r.1 ∧ r.2 = scope

section Parts

variable {host : Host σ} {inv : Memory → Prop} {known : Memory} {scope : Scope} {e : Expr}
  {v : Value} {s : String} {p q : String → Prop}

theorem Node.writes_iff {n : Node} :
    n.Writes host known scope p ↔ ∀ m, known.Keeps m → n.Puts host m.Keeps scope p :=
  gives_iff

theorem Block.writes_iff {b : Block} :
    b.Writes host known scope p ↔ ∀ m, known.Keeps m → b.Puts host m.Keeps scope p :=
  gives_iff

theorem Node.puts_text (s : String) : (text s).Puts host inv scope (· = s) :=
  .pure ⟨rfl, rfl⟩

/-- A value is printed as it is shown, if it can be shown. -/
theorem Node.puts_print (he : e.Has host inv scope v)
    (hv : v.shown takeItem = (v.display : Evaluation String)) :
    (print e).Puts host inv scope fun s ↦ v.display = .ok s := by
  refine Maintains.bind he fun u hu ↦ ?_
  rw [hu, hv]
  refine Maintains.bind (.evaluate fun m hm s hs ↦ ⟨hs, hm⟩) fun s hs ↦ .pure ⟨hs, rfl⟩

theorem Node.puts_print_text (he : e.Has host inv scope (.text s)) :
    (print e).Puts host inv scope (· = s) :=
  Maintains.imp (puts_print he rfl) fun _ ↦ And.imp_left fun hs ↦ (Except.ok.inj hs).symm

theorem Block.puts_nil : nil.Puts host inv scope (· = "") :=
  .pure ⟨rfl, rfl⟩

theorem Block.puts_cons {n : Node} {rest : Block} (hn : n.Puts host inv scope p)
    (hrest : rest.Puts host inv scope q) :
    (cons n rest).Puts host inv scope fun u ↦ ∃ s, p s ∧ ∃ t, q t ∧ u = s ++ t := by
  refine Maintains.bind hn fun r hr ↦ ?_
  obtain ⟨s, bound⟩ := r
  obtain ⟨hs, rfl⟩ := hr
  refine Maintains.bind hrest fun r hr ↦ ?_
  exact .pure ⟨⟨s, hs, r.1, hr.1, rfl⟩, hr.2⟩

theorem Block.Puts.imp {b : Block} (h : b.Puts host inv scope p) (hpq : ∀ s, p s → q s) :
    b.Puts host inv scope q :=
  Maintains.imp h fun r ↦ And.imp_left (hpq r.1)

theorem Node.writes_text (s : String) : (text s).Writes host known scope (· = s) :=
  writes_iff.mpr fun _ _ ↦ puts_text s

theorem Node.writes_print (he : e.Denotes host known scope (.text s)) :
    (print e).Writes host known scope (· = s) :=
  writes_iff.mpr fun m hm ↦ puts_print_text (Expr.denotes_iff.mp he m hm)

theorem Node.writes_cond {c : Expr} {yes no : Block} {holds : Bool}
    (hc : c.Denotes host known scope v) (hholds : v.truth = .ok holds)
    (h : (bif holds then yes else no).Writes host known scope p) :
    (cond c yes no).Writes host known scope p := by
  refine Gives.bind hc fun u hu ↦ ?_
  rw [hu]
  refine Gives.bind (.lift hholds) fun t ht ↦ ?_
  rw [ht]
  cases holds with
  | true => exact h
  | false => exact h

theorem Block.writes_nil : nil.Writes host known scope (· = "") :=
  writes_iff.mpr fun _ _ ↦ puts_nil

theorem Block.writes_cons {n : Node} {rest : Block} (hn : n.Writes host known scope p)
    (hrest : rest.Writes host known scope q) :
    (cons n rest).Writes host known scope fun u ↦ ∃ s, p s ∧ ∃ t, q t ∧ u = s ++ t :=
  writes_iff.mpr fun m hm ↦ puts_cons (Node.writes_iff.mp hn m hm) (writes_iff.mp hrest m hm)

theorem Block.Writes.imp {b : Block} (h : b.Writes host known scope p)
    (hpq : ∀ s, p s → q s) : b.Writes host known scope q :=
  Gives.imp h fun r ↦ And.imp_left (hpq r.1)

/-! ### Loops -/

/-- What is known while a loop is gone through: `At id taken vs` holds of the memory where the loop
at the place `id` has taken so many items and has `vs` still to come, and `inv` does outside of the
loop. -/
structure Tracks (inv : Memory → Prop) (At : Nat → Nat → List Value → Memory → Prop) : Prop where
  /-- A new loop has all its items still to come. -/
  start {m : Memory} (vs : List Value) (hm : inv m) :
    At m.loops.size 0 vs (m.pushLoop { source := .items vs, size := some vs.length })
  /-- Looking at the next item changes nothing of that. -/
  look {m : Memory} {id taken : Nat} {vs : List Value} (hm : At id taken vs m) :
    ∃ m', (Loop.look takeItem id).run m = (.ok vs.head?, m') ∧ At id taken vs m'
  /-- Going on takes the next item. -/
  next {m : Memory} {id taken : Nat} {v : Value} {vs : List Value} (hm : At id taken (v :: vs) m) :
    ∃ m', (Loop.advance takeItem id).run m = (.ok (some v), m') ∧ At id (taken + 1) vs m'
  /-- At the end there is no going on. -/
  last {m : Memory} {id taken : Nat} (hm : At id taken [] m) :
    ∃ m', (Loop.advance takeItem id).run m = (.ok none, m') ∧ At id taken [] m'
  /-- What is known outside of the loop is known inside, too. -/
  outside {m : Memory} {id taken : Nat} {vs : List Value} (hm : At id taken vs m) : inv m

variable {ι : Type} {view : ι → Value} {write : ι → List ι → String → Prop} {id : Nat}
  {At : Nat → Nat → List Value → Memory → Prop}

/-- Going through the items of a loop that are to come. The induction is on them; that what the body
does leaves the loop where it is carries it. -/
theorem Tracks.each_forEach (htracks : Tracks inv At) {body : Value → Render σ String} {xs : List ι}
    (hbody : ∀ before x after, xs = before ++ x :: after →
      Maintains (At id (before.length + 1) (after.map view)) (body (view x)) (write x after))
    {before ys : List ι} (hys : xs = before ++ ys) {limit : Nat} (hlimit : ys.length ≤ limit)
    {m : Memory} (s : σ) (hm : At id before.length (ys.map view) m) :
    ∀ t, ((forEach id body limit).run (m, s)).1 = .ok t →
      Each write ys t ∧ inv ((forEach id body limit).run (m, s)).2.1 := by
  induction ys generalizing before limit m s with
  | nil =>
    intro t ht
    cases limit with
    | zero =>
      cases ht
      exact ⟨.nil, htracks.outside hm⟩
    | succ limit =>
      obtain ⟨m', hrun, hm'⟩ := htracks.last hm
      rw [forEach, run_bind, run_evaluate, hrun] at ht ⊢
      cases ht
      exact ⟨.nil, htracks.outside hm'⟩
  | cons y ys ih =>
    intro t ht
    obtain ⟨m₁, hrun, hm₁⟩ := htracks.next hm
    obtain ⟨limit, rfl⟩ := Nat.exists_eq_add_one_of_ne_zero (Nat.ne_zero_of_lt hlimit)
    rw [forEach, run_bind, run_evaluate, hrun] at ht ⊢
    dsimp only at ht ⊢
    have hmaintains := hbody before y ys hys m₁ s hm₁
    rw [run_bind] at ht ⊢
    generalize (body (view y)).run (m₁, s) = written at hmaintains ht ⊢
    obtain ⟨_ | u, m₂, s₂⟩ := written
    · cases ht
    · obtain ⟨hu, hm₂⟩ := hmaintains u rfl
      have hon : At id (before ++ [y]).length (ys.map view) m₂ := by
        rw [List.length_append]
        exact hm₂
      have hrest := ih (hys.trans (List.append_cons before y ys)) (Nat.le_of_succ_le_succ hlimit) s₂
        hon
      dsimp only at ht ⊢
      rw [run_bind] at ht ⊢
      generalize (forEach id body limit).run (m₂, s₂) = rest at hrest ht ⊢
      obtain ⟨_ | w, m₃, s₃⟩ := rest
      · cases ht
      · obtain ⟨hw, hm₃⟩ := hrest w rfl
        cases ht
        exact ⟨.cons hu hw, hm₃⟩

/-- **The rule of loops.** If the items are those of a list, and the body writes for each of them
what may be written for it, then that is what the loop writes for the items one after another. The
body may rely on what is known of the loop at the item. -/
theorem Tracks.puts_loop (htracks : Tracks inv At) {n : String} {line : Nat} {items : Expr}
    {shape : SequenceShape} {xs : List ι} {body : Block}
    (hitems : items.Has host inv scope (.sequence shape (xs.map view)))
    (hbody : ∀ id before x after, xs = before ++ x :: after →
      body.Puts host (At id (before.length + 1) (after.map view))
        (("loop", .loop id) :: (n, view x) :: scope) (write x after)) :
    (Node.loop (.name n line) items none body .nil).Puts host inv scope (Each write xs) := by
  refine Maintains.bind hitems fun v hv ↦ ?_
  subst hv
  dsimp only
  rw [pure_bind]
  have hstart {l : Loop} (hl : Loop.start (.sequence shape (xs.map view)) = .ok l) :
      l = { source := .items (xs.map view), size := some (xs.map view).length } :=
    (Except.ok.inj hl).symm
  refine Maintains.bind (.lift fun _ hl ↦ hstart hl) fun loop hloop ↦ ?_
  have hlimit : Maintains inv
      (evaluate (loopLimit (.sequence shape (xs.map view))) : Render σ Nat) (· = xs.length) := by
    refine .evaluate fun m hm n hn ↦ ?_
    cases hn
    exact ⟨List.length_map _, hm⟩
  refine Maintains.bind hlimit fun limit hlimit ↦ ?_
  intro m s hm r hr
  have hadd : (Memory.addLoop loop).run m = (.ok m.loops.size, m.pushLoop loop) := rfl
  have hpush : At m.loops.size 0 (xs.map view) (m.pushLoop loop) := hloop ▸ htracks.start _ hm
  rw [run_bind, run_evaluate, hadd] at hr ⊢
  dsimp only at hr ⊢
  obtain ⟨m₁, hrun, hm₁⟩ := htracks.look hpush
  rw [run_bind, run_evaluate, hrun] at hr ⊢
  dsimp only at hr ⊢
  cases xs with
  | nil =>
    cases hr
    exact ⟨⟨.nil, rfl⟩, htracks.outside hm₁⟩
  | cons x xs =>
    have hsome : ((x :: xs).map view).head?.isNone = false := rfl
    rw [hsome, if_neg Bool.false_ne_true, run_bind] at hr ⊢
    generalize hrounds : (forEach m.loops.size _ limit).run (m₁, s) = rounds at hr ⊢
    have hfirst : At m.loops.size ([] : List ι).length ((x :: xs).map view) m₁ := hm₁
    have hgives : ∀ t, rounds.1 = .ok t → Each write (x :: xs) t ∧ inv rounds.2.1 := by
      rw [← hrounds]
      refine htracks.each_forEach (fun before y after hsplit ↦ ?_) rfl (Nat.le_of_eq hlimit.symm)
        s hfirst
      change Maintains _ (pure ((n, view y) :: scope) >>= _) _
      rw [pure_bind]
      exact Maintains.bind (hbody _ before y after hsplit) fun r hr ↦ .pure hr.1
    obtain ⟨_ | t, m₂, s₂⟩ := rounds
    · cases hr
    · obtain ⟨ht, hm₂⟩ := hgives t rfl
      cases hr
      exact ⟨⟨ht, rfl⟩, hm₂⟩

/-- What loops of before have still to come is known outside of a loop, and what it has still to
come itself is known inside. -/
theorem tracks_ahead (known : Memory) : Tracks known.Keeps fun id _ vs m ↦
    (∀ ws, ¬ known.Ahead id ws) ∧ known.Keeps m ∧ m.Ahead id vs where
  start {m} vs hm := by
    -- the new loop is at a place where there was none, so nothing is known of it before
    refine ⟨fun ws hws ↦ m.not_ahead_size ws (hm _ ws hws), hm.trans (m.keeps_pushLoop _), ?_⟩
    exact (m.stands_pushLoop (.unseen rfl rfl)).ahead
  look {m id taken vs} hm := by
    obtain ⟨hid, hkept, hahead⟩ := hm
    obtain ⟨m', hrun, hkeeps⟩ := Loop.keeps_look hahead
    exact ⟨m', hrun, hid, hkept.trans hkeeps, hkeeps id vs hahead⟩
  next {m id taken v vs} hm := by
    obtain ⟨hid, hkept, hahead⟩ := hm
    obtain ⟨count, hstands⟩ := hahead.exists_stands
    obtain ⟨m', hrun, hstands', hkeeps⟩ := Loop.run_advance_cons hstands
    exact ⟨m', hrun, hid, hkept.trans_but hkeeps hid, hstands'.ahead⟩
  last {m id taken} hm := by
    obtain ⟨hid, hkept, hahead⟩ := hm
    obtain ⟨count, hstands⟩ := hahead.exists_stands
    obtain ⟨m', hrun, hstands', hkeeps⟩ := Loop.run_advance_nil hstands
    exact ⟨m', hrun, hid, hkept.trans_but hkeeps hid, hstands'.ahead⟩
  outside hm := hm.2.1

/-- How far a loop has come is known inside of it, if nothing has to be known outside. -/
theorem tracks_stands : Tracks (fun _ ↦ True) Memory.Stands where
  start {m} vs _ := m.stands_pushLoop (.unseen rfl rfl)
  look hm := Loop.stands_look hm
  next hm := by
    obtain ⟨m', hrun, hm', -⟩ := Loop.run_advance_cons hm
    exact ⟨m', hrun, hm'⟩
  last hm := by
    obtain ⟨m', hrun, hm', -⟩ := Loop.run_advance_nil hm
    exact ⟨m', hrun, hm'⟩
  outside _ := trivial

/-- The body of a loop may rely on the loop having the items after the present one still to come. -/
theorem Node.writes_loop {n : String} {line : Nat} {items : Expr} {shape : SequenceShape}
    {xs : List ι} {body : Block}
    (hitems : items.Denotes host known scope (.sequence shape (xs.map view)))
    (hbody : ∀ x ∈ xs, ∀ after id known', known.Keeps known' → known'.Ahead id (after.map view) →
      body.Writes host known' (("loop", .loop id) :: (n, view x) :: scope) (write x after)) :
    (loop (.name n line) items none body .nil).Writes host known scope (Each write xs) := by
  refine writes_iff.mpr fun known' hknown ↦
    (tracks_ahead known').puts_loop (Expr.denotes_iff.mp hitems known' hknown) ?_
  rintro id before x after rfl m s ⟨hid, hkept, hahead⟩ r hr
  have hwrites := hbody x (List.mem_append_right _ List.mem_cons_self) after id m
    (hknown.trans hkept) hahead
  obtain ⟨hwritten, hkeeps⟩ := hwrites m s (.refl m) r hr
  exact ⟨hwritten, hid, hkept.trans hkeeps, hkeeps id _ hahead⟩

end Parts

end DiagramForge.Template
