import DiagramForge.Proofs.Entries
import DiagramForge.Proofs.Template.Timeless
import DiagramForge.Proofs.Template.Writing

/-!
# Passages of templates

A passage is a sequence of parts that stand in a template one after another. What a template writes
has in it what its passages write: `Block.exists_between`. This takes a template in which no part
before the passage binds a name, so that the passage is rendered in the scope of the template.

Whether a built-in template has a passage can be found out by compiling it, so parts have to be
compared. `Expr.is` and the like do so for the few constructors that occur in passages.
-/

namespace DiagramForge.Template

open Text Outcome

/-! ## Comparing parts -/

/-- Whether the second value is known to be the first one, which is a text or an integer. -/
def Value.is : Value → Value → Bool
  | .text s, v => match v with
    | .text t => s == t
    | _ => false
  | .int m, v => match v with
    | .int n => m == n
    | _ => false
  | _, _ => false

mutual

/-- Whether the second expression is known to be the first one. -/
def Expr.is : Expr → Expr → Bool
  | .literal v, e => match e with
    | .literal w => v.is w
    | _ => false
  | .name n line, e => match e with
    | .name n' line' => n == n' && line == line'
    | _ => false
  | .field e a, e' => match e' with
    | .field e' a' => e.is e' && a == a'
    | _ => false
  | .item e key, e' => match e' with
    | .item e' key' => e.is e' && key.is key'
    | _ => false
  | .call f args, e => match e with
    | .call f' args' => f.is f' && args.is args'
    | _ => false
  | .unary op e, e' => match e' with
    | .unary op' e' => op == op' && e.is e'
    | _ => false
  | .binary op a b, e => match e with
    | .binary op' a' b' => op == op' && a.is a' && b.is b'
    | _ => false
  | .cond c a b, e => match e with
    | .cond c' a' b' => c.is c' && a.is a' && b.is b'
    | _ => false
  | _, _ => false

/-- Whether the second arguments are known to be the first ones. -/
def Args.is : Args → Args → Bool
  | .nil, args => match args with
    | .nil => true
    | _ => false
  | .positional e rest, args => match args with
    | .positional e' rest' => e.is e' && rest.is rest'
    | _ => false
  | .named .., _ => false

end

mutual

/-- Whether the second part is known to be the first one. -/
def Node.is : Node → Node → Bool
  | .text s, n => match n with
    | .text t => s == t
    | _ => false
  | .print e, n => match n with
    | .print e' => e.is e'
    | _ => false
  | .cond c yes no, n => match n with
    | .cond c' yes' no' => c.is c' && yes.is yes' && no.is no'
    | _ => false
  | .loop (.name x line) items none body empty, n => match n with
    | .loop (.name x' line') items' none body' empty' =>
      x == x' && line == line' && items.is items' && body.is body' && empty.is empty'
    | _ => false
  | _, _ => false

/-- Whether the second block is known to be the first one. -/
def Block.is : Block → Block → Bool
  | .nil, b => match b with
    | .nil => true
    | _ => false
  | .cons n rest, b => match b with
    | .cons n' rest' => n.is n' && rest.is rest'
    | _ => false

end

theorem Value.eq_of_is {v w : Value} (h : v.is w = true) : v = w := by
  cases v with
  | text s =>
    cases w with
    | text t => exact congrArg text (eq_of_beq h)
    | _ => cases h
  | int m =>
    cases w with
    | int n => exact congrArg int (eq_of_beq h)
    | _ => cases h
  | _ => cases h

mutual

theorem Expr.eq_of_is : ∀ {e e' : Expr}, e.is e' = true → e = e'
  | .literal v, e', h => by
    unfold Expr.is at h
    split at h
    · rw [Value.eq_of_is h]
    · cases h
  | .name n line, e', h => by
    unfold Expr.is at h
    split at h
    · obtain ⟨hn, hline⟩ := Bool.and_eq_true_iff.mp h
      rw [eq_of_beq hn, eq_of_beq hline]
    · cases h
  | .field e a, e', h => by
    unfold Expr.is at h
    split at h
    · obtain ⟨he, ha⟩ := Bool.and_eq_true_iff.mp h
      rw [e.eq_of_is he, eq_of_beq ha]
    · cases h
  | .item e key, e', h => by
    unfold Expr.is at h
    split at h
    · obtain ⟨he, hkey⟩ := Bool.and_eq_true_iff.mp h
      rw [e.eq_of_is he, key.eq_of_is hkey]
    · cases h
  | .call f args, e', h => by
    unfold Expr.is at h
    split at h
    · obtain ⟨hf, hargs⟩ := Bool.and_eq_true_iff.mp h
      rw [f.eq_of_is hf, args.eq_of_is hargs]
    · cases h
  | .unary op e, e', h => by
    unfold Expr.is at h
    split at h
    · obtain ⟨hop, he⟩ := Bool.and_eq_true_iff.mp h
      rw [eq_of_beq hop, e.eq_of_is he]
    · cases h
  | .binary op a b, e', h => by
    unfold Expr.is at h
    split at h
    · obtain ⟨hoa, hb⟩ := Bool.and_eq_true_iff.mp h
      obtain ⟨hop, ha⟩ := Bool.and_eq_true_iff.mp hoa
      rw [eq_of_beq hop, a.eq_of_is ha, b.eq_of_is hb]
    · cases h
  | .cond c a b, e', h => by
    unfold Expr.is at h
    split at h
    · obtain ⟨hca, hb⟩ := Bool.and_eq_true_iff.mp h
      obtain ⟨hc, ha⟩ := Bool.and_eq_true_iff.mp hca
      rw [c.eq_of_is hc, a.eq_of_is ha, b.eq_of_is hb]
    · cases h
  | .list _, _, h | .tuple .., _, h | .dict _, _, h | .filter .., _, h | .unknown .., _, h
  | .and .., _, h | .or .., _, h | .compare .., _, h | .concat _, _, h | .when .., _, h => by
    cases h

theorem Args.eq_of_is : ∀ {args args' : Args}, args.is args' = true → args = args'
  | .nil, args', h => by
    unfold Args.is at h
    split at h
    · rfl
    · cases h
  | .positional e rest, args', h => by
    unfold Args.is at h
    split at h
    · obtain ⟨he, hrest⟩ := Bool.and_eq_true_iff.mp h
      rw [e.eq_of_is he, rest.eq_of_is hrest]
    · cases h
  | .named .., _, h => by cases h

end

mutual

theorem Node.eq_of_is : ∀ {n n' : Node}, n.is n' = true → n = n'
  | .text s, n', h => by
    unfold Node.is at h
    split at h
    · rw [eq_of_beq h]
    · cases h
  | .print e, n', h => by
    unfold Node.is at h
    split at h
    · rw [Expr.eq_of_is h]
    · cases h
  | .cond c yes no, n', h => by
    unfold Node.is at h
    split at h
    · obtain ⟨hcy, hno⟩ := Bool.and_eq_true_iff.mp h
      obtain ⟨hc, hyes⟩ := Bool.and_eq_true_iff.mp hcy
      rw [Expr.eq_of_is hc, yes.eq_of_is hyes, no.eq_of_is hno]
    · cases h
  | .loop (.name x line) items none body empty, n', h => by
    unfold Node.is at h
    split at h
    · obtain ⟨h, hempty⟩ := Bool.and_eq_true_iff.mp h
      obtain ⟨h, hbody⟩ := Bool.and_eq_true_iff.mp h
      obtain ⟨h, hitems⟩ := Bool.and_eq_true_iff.mp h
      obtain ⟨hx, hline⟩ := Bool.and_eq_true_iff.mp h
      rw [eq_of_beq hx, eq_of_beq hline, Expr.eq_of_is hitems, body.eq_of_is hbody,
        empty.eq_of_is hempty]
    · cases h
  | .loop (.name ..) _ (some _) .., _, h | .loop (.parts _) .., _, h | .assign .., _, h
  | .capture .., _, h => by cases h

theorem Block.eq_of_is : ∀ {b b' : Block}, b.is b' = true → b = b'
  | .nil, b', h => by
    unfold Block.is at h
    split at h
    · rfl
    · cases h
  | .cons n rest, b', h => by
    unfold Block.is at h
    split at h
    · obtain ⟨hn, hrest⟩ := Bool.and_eq_true_iff.mp h
      rw [n.eq_of_is hn, rest.eq_of_is hrest]
    · cases h

end

/-! ## Passages -/

mutual

/-- Whether a part binds no name for the parts after it. -/
def Node.bindsNothing : Node → Bool
  | .text _ | .print _ | .loop _ _ none _ _ => true
  | .cond _ yes no => yes.bindsNothing && no.bindsNothing
  | .loop _ _ (some _) _ _ | .assign .. | .capture .. => false

/-- Whether a block binds no name for the parts after it. -/
def Block.bindsNothing : Block → Bool
  | .nil => true
  | .cons n rest => n.bindsNothing && rest.bindsNothing

end

/-- Whether a block is known to begin with another one. -/
def Block.startsWith : Block → Block → Bool
  | .nil, _ => true
  | .cons n passage, b => match b with
    | .cons n' rest => n.is n' && passage.startsWith rest
    | .nil => false

/-- Whether a block is known to have a passage before which no part binds a name. -/
def Block.has : Block → Block → Bool
  | .nil, passage => passage.startsWith .nil
  | .cons n rest, passage =>
    passage.startsWith (.cons n rest) || (n.bindsNothing && rest.has passage)

variable {σ α β : Type} {host : Host σ}

/-! ### Rendering before a passage -/

/-- Whatever rendering returns has a property. -/
def Returns (r : Render σ α) (p : α → Prop) : Prop :=
  ∀ state a, (r.run state).1 = .ok a → p a

theorem run_bind_eq_ok {r : Render σ α} {f : α → Render σ β} {state : Memory × σ} {b : β} :
    ((r >>= f).run state).1 = .ok b ↔
      ∃ a, (r.run state).1 = .ok a ∧ ((f a).run (r.run state).2).1 = .ok b := by
  rw [run_bind]
  generalize r.run state = result
  obtain ⟨_ | a, state'⟩ := result
  · constructor
    · rintro ⟨⟩
    · rintro ⟨a, ⟨⟩, -⟩
  · constructor
    · exact fun h ↦ ⟨a, rfl, h⟩
    · rintro ⟨_, ⟨⟩, h⟩
      exact h

theorem Returns.of_pure {a : α} {p : α → Prop} (h : p a) : Returns (pure a : Render σ α) p := by
  rintro state _ ⟨⟩
  exact h

/-- What comes last decides. -/
theorem Returns.andThen {r : Render σ α} {f : α → Render σ β} {p : β → Prop}
    (h : ∀ a, Returns (f a) p) : Returns (r >>= f) p := by
  intro state b hb
  obtain ⟨a, -, hb⟩ := run_bind_eq_ok.mp hb
  exact h a _ b hb

mutual

theorem Node.returns_scope {scope : Scope} : ∀ n : Node, n.bindsNothing = true →
    Returns (n.render host scope) (·.2 = scope)
  | .text _, _ => .of_pure rfl
  | .print _, _ => .andThen fun _ ↦ .andThen fun _ ↦ .of_pure rfl
  | .cond c yes no, h => by
    obtain ⟨hyes, hno⟩ := Bool.and_eq_true_iff.mp h
    refine Returns.andThen fun v ↦ Returns.andThen fun holds ↦ ?_
    cases holds with
    | true => exact yes.returns_scope hyes
    | false => exact no.returns_scope hno
  | .loop target items none body empty, _ => by
    rw [Node.render]
    refine Returns.andThen fun v ↦ ?_
    dsimp only
    rw [pure_bind]
    refine Returns.andThen fun loop ↦ Returns.andThen fun limit ↦ Returns.andThen fun id ↦
      Returns.andThen fun next ↦ ?_
    by_cases hnext : next.isNone = true
    · rw [if_pos hnext]
      exact .andThen fun _ ↦ .of_pure rfl
    · rw [if_neg hnext]
      exact .andThen fun _ ↦ .of_pure rfl
  | .loop _ _ (some _) _ _, h | .assign .., h | .capture .., h => by cases h

theorem Block.returns_scope {scope : Scope} : ∀ b : Block, b.bindsNothing = true →
    Returns (b.render host scope) (·.2 = scope)
  | .nil, _ => .of_pure rfl
  | .cons n rest, h => by
    obtain ⟨hn, hrest⟩ := Bool.and_eq_true_iff.mp h
    rintro state ⟨u, final⟩ hr
    obtain ⟨⟨s, bound⟩, hs, hr⟩ := run_bind_eq_ok.mp hr
    obtain ⟨⟨t, after⟩, ht, hr⟩ := run_bind_eq_ok.mp hr
    have hbound := n.returns_scope hn _ _ hs
    have hafter := rest.returns_scope hrest _ _ ht
    cases hr
    exact hafter.trans hbound

end

/-! ### What a passage writes -/

/-- Rendering a block that begins with a passage begins with rendering the passage. -/
theorem Block.exists_after {scope : Scope} {state : Memory × σ} {r : String × Scope} :
    ∀ {passage b : Block}, passage.startsWith b = true →
      ((b.render host scope).run state).1 = .ok r →
      ∃ p, ((passage.render host scope).run state).1 = .ok p ∧ ∃ after, r.1 = p.1 ++ after
  | .nil, _, _, _ => ⟨("", scope), rfl, r.1, String.empty_append.symm⟩
  | .cons n passage, .cons n' rest, h, hr => by
    obtain ⟨hn, hrest⟩ := Bool.and_eq_true_iff.mp h
    obtain rfl := Node.eq_of_is hn
    obtain ⟨⟨s, bound⟩, hs, hr⟩ := run_bind_eq_ok.mp hr
    obtain ⟨⟨t, final⟩, ht, hr⟩ := run_bind_eq_ok.mp hr
    cases hr
    obtain ⟨⟨u, bound'⟩, hu, after, hafter⟩ := exists_after hrest ht
    refine ⟨(s ++ u, bound'), ?_, after, ?_⟩
    · exact run_bind_eq_ok.mpr ⟨(s, bound), hs, run_bind_eq_ok.mpr ⟨(u, bound'), hu, rfl⟩⟩
    · dsimp only at hafter ⊢
      rw [hafter, String.append_assoc]
  | .cons _ _, .nil, h, _ => by cases h

/-- **What a template writes has in it what its passages write.** The scope of the passage is that
of the template. -/
theorem Block.exists_between {passage : Block} {scope : Scope} {state : Memory × σ}
    {r : String × Scope} : ∀ {b : Block}, b.has passage = true →
      ((b.render host scope).run state).1 = .ok r →
      ∃ state' p, ((passage.render host scope).run state').1 = .ok p ∧
        ∃ before after, r.1 = before ++ p.1 ++ after
  | .nil, h, hr => by
    obtain ⟨p, hp, after, hafter⟩ := exists_after h hr
    exact ⟨state, p, hp, "", after, hafter.trans (by rw [String.empty_append])⟩
  | .cons n rest, h, hr => by
    rcases Bool.or_eq_true_iff.mp h with h | h
    · obtain ⟨p, hp, after, hafter⟩ := exists_after h hr
      exact ⟨state, p, hp, "", after, hafter.trans (by rw [String.empty_append])⟩
    · obtain ⟨hn, hrest⟩ := Bool.and_eq_true_iff.mp h
      obtain ⟨⟨s, bound⟩, hs, hr⟩ := run_bind_eq_ok.mp hr
      obtain ⟨⟨t, final⟩, ht, hr⟩ := run_bind_eq_ok.mp hr
      obtain rfl : bound = scope := n.returns_scope hn _ _ hs
      cases hr
      obtain ⟨state', p, hp, before, after, hafter⟩ := exists_between hrest ht
      refine ⟨state', p, hp, s ++ before, after, ?_⟩
      dsimp only at hafter ⊢
      rw [hafter, ← String.append_assoc, ← String.append_assoc]

section TextFor

variable {b : Block} {disk : Disk} {d : Diagram} {vars : List (String × Value)} {content : String}

/-- What is written for a diagram is written from the state in which nothing has happened yet. -/
theorem Block.exists_render_of_textFor (hcontent : b.textFor disk d vars = .ok content) :
    ∃ r, ((b.render (hostOf disk d (bindings d vars) fragmentDepth) (bindings d vars)).run
      ({}, {})).1 = .ok r ∧ content = r.1 := by
  have hrun : ((b.text (hostOf disk d (bindings d vars) fragmentDepth) (bindings d vars)).run
      ({}, {})).1 = .ok content := hcontent
  obtain ⟨r, hr, hcontent⟩ := run_bind_eq_ok.mp hrun
  cases hcontent
  exact ⟨r, hr, rfl⟩

/-- What is written for a diagram is what may be written where nothing is known of the memory. -/
theorem Block.Puts.textFor {p : String → Prop} (hp : b.Puts (hostOf disk d (bindings d vars)
      fragmentDepth) (fun _ ↦ True) (bindings d vars) p)
    (hcontent : b.textFor disk d vars = .ok content) : p content := by
  obtain ⟨r, hr, rfl⟩ := exists_render_of_textFor hcontent
  exact (hp {} {} trivial r hr).1.1

/-- What is written for a diagram has in it what may be written for a passage. -/
theorem Block.exists_of_textFor {passage : Block} (h : b.has passage = true)
    (hcontent : b.textFor disk d vars = .ok content) {p : String → Prop}
    (hp : passage.Writes (hostOf disk d (bindings d vars) fragmentDepth) {} (bindings d vars) p) :
    ∃ before s after, p s ∧ content = before ++ s ++ after := by
  obtain ⟨r, hr, rfl⟩ := exists_render_of_textFor hcontent
  obtain ⟨⟨m, store⟩, written, hwritten, before, after, hbetween⟩ := Block.exists_between h hr
  have hgives := hp m store (Memory.keeps_empty m) written hwritten
  exact ⟨before, written.1, after, hgives.1.1, hbetween⟩

end TextFor

/-! ### The names of a template -/

theorem Scope.value_of_get? {scope : Scope} {n : String} {v : Value}
    (h : Entries.get? scope n = some v) : scope.value n = v := by
  rw [Scope.value, h]

/-- A name in a template is that of a further variable, or else of a variable of the diagram, or
else of a helper. -/
theorem get?_bindings {d : Diagram} {vars : List (String × Value)} {n : String}
    (hn : "partial" ≠ n) : Entries.get? (bindings d vars) n =
    ((Entries.get? vars n).or (Entries.get? d.vars n)).or
      ((Entries.get? d.helpers n).map fun _ ↦ .helper n) := by
  have hhelpers (es : List (String × Helper)) :
      Entries.get? (es.map fun e ↦ (e.1, Value.helper e.1)) n =
        (Entries.get? es n).map fun _ ↦ .helper n := by
    induction es with
    | nil => rfl
    | cons e es ih =>
      rw [List.map_cons, Entries.get?_cons, Entries.get?_cons, ih]
      by_cases he : (e.1 == n) = true
      · rw [if_pos he, if_pos he, eq_of_beq he]
        rfl
      · rw [if_neg he, if_neg he]
  rw [bindings, Entries.get?_append, List.cons_append, Entries.get?_cons,
    if_neg (by rwa [beq_iff_eq]), Entries.get?_append, hhelpers]

/-! ## Passages of the built-in templates -/

theorem mem_builtinTemplates_browser {e : String × List String}
    (he : e ∈ Builtin.Browser.templates) : ("browser/" ++ e.1, e.2) ∈ builtinTemplates :=
  List.mem_append_left _ (List.mem_append_left _ (List.mem_map_of_mem he))

theorem mem_builtinTemplates_common {e : String × List String}
    (he : e ∈ Builtin.Common.templates) : ("common/" ++ e.1, e.2) ∈ builtinTemplates :=
  List.mem_append_left _ (List.mem_append_right _ (List.mem_map_of_mem he))

theorem mem_builtinTemplates_server {e : String × List String}
    (he : e ∈ Builtin.Server.templates) : ("server/" ++ e.1, e.2) ∈ builtinTemplates :=
  List.mem_append_right _ (List.mem_map_of_mem he)

/-- The built-in template with a name has passages before which it binds no names. -/
def BuiltinHas (name : String) (passages : List Block) : Prop :=
  ∀ disk b, compileTemplate builtinLibrary disk name = .ok b → ∀ p ∈ passages, b.has p = true

theorem builtinHas_of_written {name : String} {lines : List String} {css : List (List Char)}
    {passages : List Block} (hmem : (name, lines) ∈ builtinTemplates) (hlines : Written lines css)
    (hcss : ((compileChars (['\n'].intercalate css)).toOption.all
      fun b ↦ passages.all b.has) = true) : BuiltinHas name passages := by
  intro disk b hb
  obtain ⟨source, hload, hcompile⟩ := compileTemplate_eq_ok.mp hb
  cases (load_builtin disk hmem).symm.trans hload
  rw [joinStrings_of_written hlines, compile_ofList] at hcompile
  rw [hcompile] at hcss
  exact List.all_eq_true.mp hcss

end DiagramForge.Template
