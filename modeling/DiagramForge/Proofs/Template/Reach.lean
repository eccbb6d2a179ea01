import DiagramForge.Proofs.InStep
import DiagramForge.Template.Render

/-!
# What a template reads

A template can read every name that is bound where it is rendered. A `Reach` allows less: some names,
and of the other names some attributes. Whether a compiled template keeps within a reach can be
computed from it, since every name that it reads is written in it.

So much can then be changed without a trace: a template that keeps within a reach renders to the same
text wherever the reach finds the same. This is `Block.text_inStep`. It compares two renderings that
may have hosts and scopes of their own, and keepers with states of their own. That the state of the
keeper is passed along and never looked at is the case of one scope: `Block.text_oblivious`.

## The argument

Along a template the two scopes stay alike: what one rendering binds, the other one binds to the same
value. The rest is one induction over templates, with one case per constructor.
-/

namespace DiagramForge.Template

variable {σ τ α β : Type}

/-! ## Reaches -/

/-- What may be read in a scope. -/
structure Reach where
  /-- The names that may be read. -/
  names : String → Bool
  /-- The attributes that may be read of a name, if the name may not be read as such. -/
  attributes : String → String → Bool

/-- The reach of everything. -/
def Reach.all : Reach :=
  ⟨fun _ ↦ true, fun _ _ ↦ false⟩

/-- The name that an expression is. -/
def Expr.name? : Expr → Option String
  | .name n _ => some n
  | _ => none

mutual

/-- Whether an expression keeps within a reach. -/
def Expr.within (r : Reach) : Expr → Bool
  | .literal _ => true
  | .name n _ => r.names n
  | .list items | .tuple items _ | .dict items | .concat items => items.within r
  | .field e a => e.name?.any (r.attributes · a) || e.within r
  | .unary _ e => e.within r
  | .item a b | .binary _ a b | .and a b | .or a b | .when a b _ => a.within r && b.within r
  | .call f args => f.within r && args.within r
  | .filter e _ args _ | .unknown e _ args _ => e.within r && args.within r
  | .compare e _ operands => e.within r && operands.within r
  | .cond c a b => c.within r && a.within r && b.within r

/-- Whether arguments keep within a reach. -/
def Args.within (r : Reach) : Args → Bool
  | .nil => true
  | .positional e rest | .named _ e rest => e.within r && rest.within r

end

mutual

/-- Whether a part keeps within a reach. -/
def Node.within (r : Reach) : Node → Bool
  | .text _ => true
  | .print e => e.within r
  | .cond c yes no => c.within r && yes.within r && no.within r
  | .loop _ items test body empty =>
    items.within r && test.all (Expr.within r) && body.within r && empty.within r
  | .assign _ e => e.within r
  | .capture _ body => body.within r

/-- Whether a block keeps within a reach. -/
def Block.within (r : Reach) : Block → Bool
  | .nil => true
  | .cons n rest => n.within r && rest.within r

end

/-! ## Everything is within reach -/

mutual

theorem Expr.within_all : ∀ e : Expr, e.within .all = true
  | .literal _ | .name .. => rfl
  | .list items | .tuple items _ | .dict items | .concat items => items.within_all
  | .field e _ => by rw [Expr.within, e.within_all, Bool.or_true]
  | .unary _ e => e.within_all
  | .item a b | .binary _ a b | .and a b | .or a b | .when a b _ => by
    rw [Expr.within, a.within_all, b.within_all, Bool.and_self]
  | .call f args => by rw [Expr.within, f.within_all, args.within_all, Bool.and_self]
  | .filter e _ args _ | .unknown e _ args _ => by
    rw [Expr.within, e.within_all, args.within_all, Bool.and_self]
  | .compare e _ operands => by
    rw [Expr.within, e.within_all, operands.within_all, Bool.and_self]
  | .cond c a b => by
    rw [Expr.within, c.within_all, a.within_all, b.within_all, Bool.and_self, Bool.and_self]

theorem Args.within_all : ∀ args : Args, args.within .all = true
  | .nil => rfl
  | .positional e rest | .named _ e rest => by
    rw [Args.within, e.within_all, rest.within_all, Bool.and_self]

end

mutual

theorem Node.within_all : ∀ n : Node, n.within .all = true
  | .text _ => rfl
  | .print e | .assign _ e => e.within_all
  | .cond c yes no => by
    rw [Node.within, c.within_all, yes.within_all, no.within_all, Bool.and_self, Bool.and_self]
  | .loop _ items test body empty => by
    have htest : test.all (Expr.within .all) = true := by
      cases test with
      | none => rfl
      | some e => exact e.within_all
    rw [Node.within, items.within_all, htest, body.within_all, empty.within_all]
    rfl
  | .capture _ body => body.within_all

theorem Block.within_all : ∀ b : Block, b.within .all = true
  | .nil => rfl
  | .cons n rest => by rw [Block.within, n.within_all, rest.within_all, Bool.and_self]

end

/-! ## Scopes that are alike -/

/-- A reach finds the same in two scopes. -/
structure Reach.Agree (r : Reach) (scope scope' : Scope) : Prop where
  /-- The names have the same values. -/
  value : ∀ n, r.names n = true → scope.value n = scope'.value n
  /-- The attributes have the same values. -/
  field : ∀ n a, r.attributes n a = true →
    (scope.value n).field takeItem a = (scope'.value n).field takeItem a

variable {r : Reach} {scope scope' : Scope}

theorem Reach.Agree.refl (r : Reach) (scope : Scope) : r.Agree scope scope :=
  ⟨fun _ _ ↦ rfl, fun _ _ _ ↦ rfl⟩

theorem Scope.value_cons (name : String) (v : Value) (scope : Scope) (n : String) :
    Scope.value ((name, v) :: scope) n = if name = n then v else scope.value n := by
  rw [Scope.value, Scope.value, Entries.get?, Entries.get?]
  by_cases h : name = n
  · rw [List.find?_cons_of_pos (by simpa using h), if_pos h]
    rfl
  · rw [List.find?_cons_of_neg (by simpa using h), if_neg h]

/-- What is bound to the same value hides the same. -/
theorem Reach.Agree.cons (h : r.Agree scope scope') (name : String) (v : Value) :
    r.Agree ((name, v) :: scope) ((name, v) :: scope') := by
  constructor
  · intro n hn
    rw [Scope.value_cons, Scope.value_cons, h.value n hn]
  · intro n a ha
    rw [Scope.value_cons, Scope.value_cons]
    split
    · rfl
    · exact h.field n a ha

theorem Reach.Agree.append (h : r.Agree scope scope') (bound : Scope) :
    r.Agree (bound ++ scope) (bound ++ scope') := by
  induction bound with
  | nil => exact h
  | cons e bound ih => exact ih.cons e.1 e.2

mutual

theorem Target.bind_inStep (v : Value) {scope scope' : Scope} (h : r.Agree scope scope') :
    ∀ t : Target, InStep Eq r.Agree (t.bind v scope) (t.bind v scope')
  | .name n _ => .pure (h.cons n v)
  | .parts ts => (InStep.refl (v.parts ts.length)).bind_eq fun vs ↦ Target.bindEach_inStep vs h ts

theorem Target.bindEach_inStep (vs : List Value) {scope scope' : Scope} (h : r.Agree scope scope') :
    ∀ ts : List Target, InStep Eq r.Agree (Target.bindEach vs scope ts)
      (Target.bindEach vs scope' ts)
  | [] => .pure h
  | t :: ts => by
    rw [Target.bindEach, Target.bindEach]
    apply (t.bind_inStep (vs.headD .none) h).bind
    intro bound bound' hbound
    exact Target.bindEach_inStep vs.tail hbound ts

end

/-! ## Rendering in step -/

/-- The same streams and loops, and related states of the keepers. -/
def SameMemory (R : σ → τ → Prop) (p : Memory × σ) (q : Memory × τ) : Prop :=
  p.1 = q.1 ∧ R p.2 q.2

variable {R : σ → τ → Prop} {S : α → β → Prop}

theorem inStep_lift (x : Except RenderFault α) :
    InStep (SameMemory R) Eq (lift x : Render σ α) (lift x : Render τ α) :=
  .ofExcept (sameOutcome_eq_iff.mpr rfl)

theorem inStep_evaluate {e : Evaluation α} {e' : Evaluation β} (h : InStep Eq S e e') :
    InStep (SameMemory R) S (evaluate e : Render σ α) (evaluate e' : Render τ β) := by
  rintro ⟨memory, s⟩ ⟨_, t⟩ ⟨rfl, hst⟩
  obtain ⟨hresult, hmemory⟩ := h memory memory rfl
  exact ⟨hresult, hmemory, hst⟩

theorem inStep_evaluate_same (e : Evaluation α) :
    InStep (SameMemory R) Eq (evaluate e : Render σ α) (evaluate e : Render τ α) :=
  inStep_evaluate (.refl e)

theorem inStep_keep {e : ExceptT RenderFault (StateM σ) α} {e' : ExceptT RenderFault (StateM τ) β}
    (h : InStep R S e e') : InStep (SameMemory R) S (keep e) (keep e') := by
  rintro ⟨memory, s⟩ ⟨_, t⟩ ⟨rfl, hst⟩
  obtain ⟨hresult, hstate⟩ := h s t hst
  exact ⟨hresult, rfl, hstate⟩

theorem inStep_alone {m : Render σ α} {m' : Render τ β} (h : InStep (SameMemory R) S m m') :
    InStep R S m.alone m'.alone := by
  intro s t hst
  obtain ⟨hresult, -, hstate⟩ := h ({}, s) ({}, t) ⟨rfl, hst⟩
  exact ⟨hresult, hstate⟩

/-- Two hosts have the same helpers, and their fragments run in step. -/
structure Host.InStep (R : σ → τ → Prop) (host : Host σ) (host' : Host τ) : Prop where
  /-- The helpers are the same. -/
  helpers : host.helpers = host'.helpers
  /-- The fragments run in step. -/
  fragment : ∀ args named, DiagramForge.InStep (SameMemory R) Eq (host.fragment args named)
    (host'.fragment args named)

variable {host : Host σ} {host' : Host τ}

theorem call_inStep (h : host.InStep R host') (f : Value) (args : List Value)
    (named : NamedValues) :
    InStep (SameMemory R) Eq (call host f args named) (call host' f args named) := by
  rw [call.eq_def, call.eq_def, h.helpers]
  split
  · split
    · exact inStep_evaluate_same _
    · exact inStep_lift _
  · exact h.fragment args named
  · exact inStep_evaluate_same _
  all_goals exact inStep_lift _

/-! ## Expressions -/

/-- The names of the operands of a chain are not looked at. -/
theorem Args.chain_named (host : Host σ) (scope : Scope) (v : Value) (ops : List Comparison)
    (name : String) (e : Expr) (rest : Args) : (Args.named name e rest).chain host scope v ops =
      (Args.positional e rest).chain host scope v ops := by
  rw [Args.chain, Args.chain]

/-- An operand of a chain of comparisons, and the chain after it. -/
theorem inStep_operand {e : Expr} {rest : Args} (v : Value) (ops : List Comparison)
    (he : InStep (SameMemory R) Eq (e.eval host scope) (e.eval host' scope'))
    (hrest : ∀ w ops, InStep (SameMemory R) Eq (rest.chain host scope w ops)
      (rest.chain host' scope' w ops)) :
    InStep (SameMemory R) Eq ((Args.positional e rest).chain host scope v ops)
      ((Args.positional e rest).chain host' scope' v ops) := by
  rw [Args.chain, Args.chain]
  refine he.bind_eq fun w ↦ ?_
  cases ops with
  | nil => exact .pure rfl
  | cons op ops =>
    refine (inStep_evaluate_same _).bind_eq fun r ↦ ?_
    cases rest with
    | nil => exact .pure rfl
    | positional e rest =>
      exact (inStep_lift _).bind_eq fun _ ↦ (hrest w ops).ite (.pure rfl)
    | named name e rest =>
      exact (inStep_lift _).bind_eq fun _ ↦ (hrest w ops).ite (.pure rfl)

/-- An attribute of a name, or of a value that is the same. -/
theorem inStep_field {e : Expr} {a : String} (hscope : r.Agree scope scope')
    (hw : (e.name?.any (r.attributes · a) || e.within r) = true)
    (he : e.within r = true →
      InStep (SameMemory R) Eq (e.eval host scope) (e.eval host' scope')) :
    InStep (SameMemory R) Eq ((Expr.field e a).eval host scope)
      ((Expr.field e a).eval host' scope') := by
  rw [Bool.or_eq_true] at hw
  rcases hw with hname | hw
  · cases e with
    | name n line =>
      change InStep _ _ (evaluate ((scope.value n).field takeItem a))
        (evaluate ((scope'.value n).field takeItem a))
      rw [hscope.field n a hname]
      exact inStep_evaluate_same _
    | _ => cases hname
  · exact (he hw).bind_eq fun v ↦ inStep_evaluate_same _

mutual

theorem Expr.eval_inStep (hhost : host.InStep R host') (hscope : r.Agree scope scope') :
    ∀ e : Expr, e.within r = true →
      InStep (SameMemory R) Eq (e.eval host scope) (e.eval host' scope')
  | .literal v, _ => .pure rfl
  | .name n _, hw => .pure (hscope.value n hw)
  | .list items, hw => (items.eval_inStep hhost hscope hw).bind_eq fun _ ↦ .pure rfl
  | .tuple items _, hw => (items.eval_inStep hhost hscope hw).bind_eq fun _ ↦ .pure rfl
  | .dict entries, hw => (entries.eval_inStep hhost hscope hw).bind_eq fun _ ↦ inStep_lift _
  | .field e a, hw => inStep_field hscope hw (e.eval_inStep hhost hscope)
  | .item e key, hw => by
    obtain ⟨he, hkey⟩ := Bool.and_eq_true_iff.mp hw
    exact (e.eval_inStep hhost hscope he).bind_eq fun v ↦
      (key.eval_inStep hhost hscope hkey).bind_eq fun key ↦ inStep_evaluate_same _
  | .call f args, hw => by
    obtain ⟨hf, hargs⟩ := Bool.and_eq_true_iff.mp hw
    exact (f.eval_inStep hhost hscope hf).bind_eq fun f ↦
      (args.eval_inStep hhost hscope hargs).bind_eq fun r ↦ call_inStep hhost f r.1 r.2
  | .filter e name args _, hw => by
    obtain ⟨he, hargs⟩ := Bool.and_eq_true_iff.mp hw
    exact (e.eval_inStep hhost hscope he).bind_eq fun v ↦
      (args.eval_inStep hhost hscope hargs).bind_eq fun r ↦ inStep_evaluate_same _
  | .unknown e name args place, hw => by
    obtain ⟨he, hargs⟩ := Bool.and_eq_true_iff.mp hw
    refine (e.eval_inStep hhost hscope he).bind_eq fun _ ↦
      (args.eval_inStep hhost hscope hargs).bind_eq fun r ↦ ?_
    obtain ⟨vs, named⟩ := r
    cases named with
    | nil => exact inStep_lift _
    | cons e _ => exact inStep_lift _
  | .unary op e, hw => (e.eval_inStep hhost hscope hw).bind_eq fun v ↦ inStep_lift _
  | .binary op a b, hw => by
    obtain ⟨ha, hb⟩ := Bool.and_eq_true_iff.mp hw
    exact (a.eval_inStep hhost hscope ha).bind_eq fun v ↦
      (b.eval_inStep hhost hscope hb).bind_eq fun w ↦ inStep_lift _
  | .and a b, hw => by
    obtain ⟨ha, hb⟩ := Bool.and_eq_true_iff.mp hw
    exact (a.eval_inStep hhost hscope ha).bind_eq fun v ↦ (inStep_lift _).bind_eq fun _ ↦
      (b.eval_inStep hhost hscope hb).ite (.pure rfl)
  | .or a b, hw => by
    obtain ⟨ha, hb⟩ := Bool.and_eq_true_iff.mp hw
    exact (a.eval_inStep hhost hscope ha).bind_eq fun v ↦ (inStep_lift _).bind_eq fun _ ↦
      InStep.ite (.pure rfl) (b.eval_inStep hhost hscope hb)
  | .compare e ops operands, hw => by
    obtain ⟨he, hoperands⟩ := Bool.and_eq_true_iff.mp hw
    exact (e.eval_inStep hhost hscope he).bind_eq fun v ↦
      operands.chain_inStep hhost hscope v ops hoperands
  | .concat items, hw => (items.eval_inStep hhost hscope hw).bind_eq fun r ↦
    (inStep_evaluate_same _).bind_eq fun ss ↦ .pure rfl
  | .cond c a b, hw => by
    obtain ⟨hca, hb⟩ := Bool.and_eq_true_iff.mp hw
    obtain ⟨hc, ha⟩ := Bool.and_eq_true_iff.mp hca
    exact (c.eval_inStep hhost hscope hc).bind_eq fun v ↦ (inStep_lift _).bind_eq fun _ ↦
      (a.eval_inStep hhost hscope ha).ite (b.eval_inStep hhost hscope hb)
  | .when c a line, hw => by
    obtain ⟨hc, ha⟩ := Bool.and_eq_true_iff.mp hw
    exact (c.eval_inStep hhost hscope hc).bind_eq fun v ↦ (inStep_lift _).bind_eq fun _ ↦
      (a.eval_inStep hhost hscope ha).ite (.pure rfl)

theorem Args.eval_inStep (hhost : host.InStep R host') (hscope : r.Agree scope scope') :
    ∀ args : Args, args.within r = true →
      InStep (SameMemory R) Eq (args.eval host scope) (args.eval host' scope')
  | .nil, _ => .pure rfl
  | .positional e rest, hw | .named _ e rest, hw => by
    obtain ⟨he, hrest⟩ := Bool.and_eq_true_iff.mp hw
    exact (e.eval_inStep hhost hscope he).bind_eq fun _ ↦
      (rest.eval_inStep hhost hscope hrest).bind_eq fun _ ↦ .pure rfl

theorem Args.chain_inStep (hhost : host.InStep R host') (hscope : r.Agree scope scope') (v : Value)
    (ops : List Comparison) : ∀ args : Args, args.within r = true →
      InStep (SameMemory R) Eq (args.chain host scope v ops) (args.chain host' scope' v ops)
  | .nil, _ => .pure rfl
  | .positional e rest, hw => by
    obtain ⟨he, hrest⟩ := Bool.and_eq_true_iff.mp hw
    exact inStep_operand v ops (e.eval_inStep hhost hscope he) fun w ops ↦
      rest.chain_inStep hhost hscope w ops hrest
  | .named name e rest, hw => by
    obtain ⟨he, hrest⟩ := Bool.and_eq_true_iff.mp hw
    rw [Args.chain_named, Args.chain_named]
    exact inStep_operand v ops (e.eval_inStep hhost hscope he) fun w ops ↦
      rest.chain_inStep hhost hscope w ops hrest

end

/-! ## Blocks -/

theorem forEach_inStep (id : Nat) {body : Value → Render σ String} {body' : Value → Render τ String}
    (h : ∀ v, InStep (SameMemory R) Eq (body v) (body' v)) (limit : Nat) :
    InStep (SameMemory R) Eq (forEach id body limit) (forEach id body' limit) := by
  induction limit with
  | zero => exact .pure rfl
  | succ limit ih =>
    rw [forEach, forEach]
    refine (inStep_evaluate_same _).bind_eq fun item ↦ ?_
    cases item with
    | none => exact .pure rfl
    | some v => exact (h v).bind_eq fun s ↦ ih.bind_eq fun t ↦ .pure rfl

theorem selectItems_inStep {test : Value → Render σ Bool} {test' : Value → Render τ Bool}
    (h : ∀ v, InStep (SameMemory R) Eq (test v) (test' v)) (vs : List Value) :
    InStep (SameMemory R) Eq (selectItems test vs) (selectItems test' vs) := by
  induction vs with
  | nil => exact .pure rfl
  | cons v vs ih =>
    rw [selectItems, selectItems]
    exact (h v).bind_eq fun _ ↦ (ih.bind_eq fun vs ↦ .pure rfl).ite ih

/-- The items of a loop with a condition, or without one, and what is done with them. -/
theorem inStep_items (hhost : host.InStep R host') (hscope : r.Agree scope scope') (target : Target)
    (v : Value) {f : Value → Render σ α} {f' : Value → Render τ β}
    (hf : ∀ v, InStep (SameMemory R) S (f v) (f' v)) :
    ∀ test : Option Expr, test.all (Expr.within r) = true → InStep (SameMemory R) S (match test with
      | none => do
        let v ← pure v
        f v
      | some e => do
        let vs ← evaluate (v.allItems takeItem)
        let vs ← selectItems (fun item ↦ do
          let bound ← evaluate (target.bind item scope)
          lift (← e.eval host bound).truth) vs
        let v ← pure (.list vs)
        f v) (match test with
      | none => do
        let v ← pure v
        f' v
      | some e => do
        let vs ← evaluate (v.allItems takeItem)
        let vs ← selectItems (fun item ↦ do
          let bound ← evaluate (target.bind item scope')
          lift (← e.eval host' bound).truth) vs
        let v ← pure (.list vs)
        f' v)
  | none, _ => InStep.bind_eq (.pure rfl) hf
  | some e, hw => by
    have htest (item : Value) : InStep (SameMemory R) Eq (do
        let bound ← evaluate (target.bind item scope)
        lift (← e.eval host bound).truth) (do
        let bound ← evaluate (target.bind item scope')
        lift (← e.eval host' bound).truth) := by
      apply (inStep_evaluate (target.bind_inStep item hscope)).bind
      intro bound bound' hbound
      exact (e.eval_inStep hhost hbound hw).bind_eq fun _ ↦ inStep_lift _
    exact (inStep_evaluate_same _).bind_eq fun vs ↦ (selectItems_inStep htest vs).bind_eq fun vs ↦
      InStep.bind_eq (.pure rfl) hf

/-- The same text, and scopes in which a reach finds the same. -/
def Reach.SameText (r : Reach) (p p' : String × Scope) : Prop :=
  p.1 = p'.1 ∧ r.Agree p.2 p'.2

mutual

theorem Node.render_inStep (hhost : host.InStep R host') {scope scope' : Scope}
    (hscope : r.Agree scope scope') : ∀ n : Node, n.within r = true →
      InStep (SameMemory R) r.SameText (n.render host scope) (n.render host' scope')
  | .text s, _ => .pure ⟨rfl, hscope⟩
  | .print e, hw => (e.eval_inStep hhost hscope hw).bind_eq fun v ↦
    (inStep_evaluate_same _).bind_eq fun s ↦ .pure ⟨rfl, hscope⟩
  | .cond c yes no, hw => by
    obtain ⟨hcy, hno⟩ := Bool.and_eq_true_iff.mp hw
    obtain ⟨hc, hyes⟩ := Bool.and_eq_true_iff.mp hcy
    exact (c.eval_inStep hhost hscope hc).bind_eq fun v ↦ (inStep_lift _).bind_eq fun _ ↦
      (yes.render_inStep hhost hscope hyes).ite (no.render_inStep hhost hscope hno)
  | .loop target items test body empty, hw => by
    -- The number of rounds is known before the first one: `forEach` is an induction on it, and the
    -- loop is not one over the template.
    obtain ⟨hitb, hempty⟩ := Bool.and_eq_true_iff.mp hw
    obtain ⟨hit, hbody⟩ := Bool.and_eq_true_iff.mp hitb
    obtain ⟨hitems, htest⟩ := Bool.and_eq_true_iff.mp hit
    rw [Node.render, Node.render]
    refine (items.eval_inStep hhost hscope hitems).bind_eq fun v ↦
      inStep_items hhost hscope target v (fun v ↦ ?_) test htest
    refine (inStep_lift _).bind_eq fun loop ↦ (inStep_evaluate_same _).bind_eq fun limit ↦
      (inStep_evaluate_same _).bind_eq fun id ↦ (inStep_evaluate_same _).bind_eq fun next ↦
      InStep.ite ?_ ?_
    · apply (empty.render_inStep hhost hscope hempty).bind
      intro p p' hp
      exact .pure ⟨hp.1, hscope⟩
    · refine (forEach_inStep id (fun item ↦ ?_) limit).bind_eq fun s ↦ .pure ⟨rfl, hscope⟩
      apply (inStep_evaluate (target.bind_inStep item hscope)).bind
      intro bound bound' hbound
      apply (body.render_inStep hhost (hbound.cons "loop" (.loop id)) hbody).bind
      intro p p' hp
      exact .pure hp.1
  | .assign target e, hw => by
    refine (e.eval_inStep hhost hscope hw).bind_eq fun v ↦ ?_
    apply (inStep_evaluate (target.bind_inStep v hscope)).bind
    intro bound bound' hbound
    exact .pure ⟨rfl, hbound⟩
  | .capture target body, hw => by
    apply (body.render_inStep hhost hscope hw).bind
    rintro ⟨s, _⟩ ⟨_, _⟩ ⟨rfl, -⟩
    apply (inStep_evaluate (target.bind_inStep (.text s) hscope)).bind
    intro bound bound' hbound
    exact .pure ⟨rfl, hbound⟩

theorem Block.render_inStep (hhost : host.InStep R host') {scope scope' : Scope}
    (hscope : r.Agree scope scope') : ∀ b : Block, b.within r = true →
      InStep (SameMemory R) r.SameText (b.render host scope) (b.render host' scope')
  | .nil, _ => .pure ⟨rfl, hscope⟩
  | .cons n rest, hw => by
    obtain ⟨hn, hrest⟩ := Bool.and_eq_true_iff.mp hw
    apply (n.render_inStep hhost hscope hn).bind
    rintro ⟨s, bound⟩ ⟨_, bound'⟩ ⟨rfl, hbound⟩
    apply (rest.render_inStep hhost hbound hrest).bind
    rintro ⟨t, after⟩ ⟨_, after'⟩ ⟨rfl, hafter⟩
    exact .pure ⟨rfl, hafter⟩

end

/-- **A template shows nothing but what is within its reach.** Two renderings of a block run in step
if their hosts do and the block keeps within a reach that finds the same in both scopes. -/
theorem Block.text_inStep (hhost : host.InStep R host') (hscope : r.Agree scope scope') {b : Block}
    (hb : b.within r = true) :
    InStep (SameMemory R) Eq (b.text host scope) (b.text host' scope') := by
  apply (b.render_inStep hhost hscope hb).bind
  intro p p' hp
  exact .pure hp.1

end DiagramForge.Template
