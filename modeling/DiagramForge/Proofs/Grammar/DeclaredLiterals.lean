import DiagramForge.Proofs.Grammar.Enclosed

/-!
# Literals in declarations

What a declaration is read as when the contents of a literal in it change: references, terminals and
interfaces stay as they are, `referenceAt?_enclosed`, `terminalAt?_enclosed` and
`interfaceAt?_enclosed`; in an alias and in a rule the contents are replaced where the literal stands,
`aliasAt?_enclosed` and `ruleAt?_enclosed`.

A literal can stand in an interface only as a member of an inline union, and of such a union only
that there is one is kept. Contents without bars, braces and ends of properties leave the cuts of the
body where they are, so the line with the literal is still one line and the literal still a member.
-/

namespace DiagramForge.Grammar

open Text

variable {q : Char} {c c' : List Char}

/-- What a reading yields comes from what it yields before it is completed. -/
theorem exists_of_map_eq_ok {ε α β : Type} {f : α → β} {e : Except ε α} {b : β}
    (h : e.map f = .ok b) : ∃ a, e = .ok a ∧ f a = b := by
  cases e with
  | error fault => cases h
  | ok a => exact ⟨a, rfl, Except.ok.inj h⟩

/-! ## Types of properties -/

/-- Whether a text with a literal in it ends in the brackets of a sequence depends on what follows
the literal. -/
theorem isSuffixOf_enclosed (hq : isQuote q = true) (x y : List Char) :
    ['[', ']'].isSuffixOf (x ++ enclosed q c y) = ['[', ']'].isSuffixOf y := by
  have hbrackets : QuoteFree ['[', ']'] := by decide
  have hnot : q ∉ ['[', ']'] := hbrackets.not_mem hq
  rw [Bool.eq_iff_iff, List.isSuffixOf_iff_suffix, List.isSuffixOf_iff_suffix]
  constructor
  · intro h
    have hy : q :: y <:+ x ++ enclosed q c y :=
      (List.suffix_append _ _).trans ((List.suffix_cons _ _).trans (List.suffix_append _ _))
    rcases List.suffix_or_suffix_of_suffix h hy with hsuffix | hsuffix
    · rcases List.suffix_cons_iff.mp hsuffix with heq | hsuffix
      · exact absurd (heq ▸ List.mem_cons_self) hnot
      · exact hsuffix
    · exact absurd (hsuffix.subset List.mem_cons_self) hnot
  · intro h
    exact h.trans ((List.suffix_cons _ _).trans ((List.suffix_append _ _).trans
      ((List.suffix_cons _ _).trans (List.suffix_append _ _))))

/-- The brackets of a sequence are taken from a type. -/
theorem exists_withoutBrackets_enclosed (hq : isQuote q = true) (x y : List Char) :
    ∃ array x' y', ∀ c, ['[', ']'].isSuffixOf (x ++ enclosed q c y) = array ∧
      (if array then trim ((x ++ enclosed q c y).take ((x ++ enclosed q c y).length - 2))
        else x ++ enclosed q c y) = x' ++ enclosed q c y' := by
  cases harray : ['[', ']'].isSuffixOf y with
  | false => exact ⟨false, x, y, fun c ↦ ⟨(isSuffixOf_enclosed hq x y).trans harray, rfl⟩⟩
  | true =>
    obtain ⟨z, rfl⟩ := List.isSuffixOf_iff_suffix.mp harray
    refine ⟨true, trimLeft x, trimRight z, fun c ↦ ⟨(isSuffixOf_enclosed hq x _).trans harray, ?_⟩⟩
    rw [if_pos rfl, enclosed_append, ← List.append_assoc, List.length_append, List.length_cons,
      List.length_singleton, Nat.add_sub_cancel, List.take_left, trim_enclosed hq]

/-- The parentheses around a type are taken from it. -/
theorem exists_withoutParentheses_enclosed (hq : isQuote q = true) (x y : List Char) :
    ∃ x' y', ∀ c,
      (if (x ++ enclosed q c y).head? == some '(' && (x ++ enclosed q c y).getLast? == some ')' then
        trim (x ++ enclosed q c y).tail.dropLast else x ++ enclosed q c y) =
      x' ++ enclosed q c y' := by
  have hleft : q ≠ '(' := ne_of_class hq rfl
  have hright : q ≠ ')' := ne_of_class hq rfl
  have hhead : ∀ c, (x ++ enclosed q c y).head? = some (x.head?.getD q) := by
    intro c
    cases x <;> rfl
  have hlast : ∀ c, (x ++ enclosed q c y).getLast? = some (y.getLast?.getD q) := by
    intro c
    rw [List.getLast?_append, enclosed, List.getLast?_cons, List.getLast?_append, List.getLast?_cons]
    rfl
  by_cases hparens : (x.head?.getD q == '(' && y.getLast?.getD q == ')') = true
  · rw [Bool.and_eq_true, beq_iff_eq, beq_iff_eq] at hparens
    obtain ⟨hx, hy⟩ := hparens
    cases x with
    | nil => exact absurd hx hleft
    | cons d x =>
      rcases List.eq_nil_or_concat y with rfl | ⟨z, e, rfl⟩
      · exact absurd hy hright
      · rw [List.concat_eq_append] at hy hhead hlast ⊢
        refine ⟨trimLeft x, trimRight z, fun c ↦ ?_⟩
        rw [hhead, hlast, hx, hy, if_pos (by decide), List.cons_append, List.tail_cons,
          enclosed_append, ← List.append_assoc, List.dropLast_concat, trim_enclosed hq]
  · refine ⟨x, y, fun c ↦ if_neg ?_⟩
    rw [hhead, hlast]
    exact hparens

/-- The type of a property that is read with one literal in it is read with another. -/
theorem propertyOfType_enclosed (hq : isQuote q = true) (hc : Contents q c)
    (hc' : PlainContents c') (hbar : '|' ∉ c) (hbar' : '|' ∉ c') {interface name : String}
    {optional : Bool} {x y : List Char} {p : Property}
    (h : propertyOfType interface name optional (x ++ enclosed q c y) = .ok p) :
    propertyOfType interface name optional (x ++ enclosed q c' y) = .ok p := by
  obtain ⟨array, x₁, y₁, harray⟩ := exists_withoutBrackets_enclosed hq x y
  obtain ⟨x₂, y₂, hparens⟩ := exists_withoutParentheses_enclosed hq x₁ y₁
  have hread : ∀ c, propertyOfType interface name optional (x ++ enclosed q c y) =
      if (x₂ ++ enclosed q c y₂).contains '|' then
        if (fields (· == '|') (x₂ ++ enclosed q c y₂)).all
            fun member ↦ (literalContents? (trim member)).isSome then
          .ok ⟨name, "string", optional, array, false⟩
        else .error (.inlineUnion interface name (x₂ ++ enclosed q c y₂))
      else
        let crossReference := (x₂ ++ enclosed q c y₂).head? == some '@'
        let type := if crossReference then trim (x₂ ++ enclosed q c y₂).tail
          else x₂ ++ enclosed q c y₂
        if isIdent type then .ok ⟨name, String.ofList type, optional, array, crossReference⟩
        else .error (.invalidType interface name type) := by
    intro c
    rw [propertyOfType]
    simp only [(harray c).1, (harray c).2, hparens c]
  -- a type that is no union is a name, and there is no literal in a name
  have hident : isIdent (if (x₂ ++ enclosed q c y₂).head? == some '@'
      then trim (x₂ ++ enclosed q c y₂).tail else x₂ ++ enclosed q c y₂) = false := by
    have hplain := isIdent_enclosed (c := c) hq x₂ y₂
    split
    · next hat =>
      cases x₂ with
      | nil =>
        have hne : q ≠ '@' := ne_of_class hq rfl
        rw [beq_iff_eq] at hat
        exact absurd (Option.some.inj hat) hne
      | cons d x₂ =>
        rw [List.cons_append, List.tail_cons, trim_enclosed hq]
        exact isIdent_enclosed hq _ _
    · exact hplain
  rw [hread, contains_enclosed hq rfl hbar] at h
  rw [hread, contains_enclosed hq rfl hbar']
  by_cases hunion : (x₂.contains '|' || y₂.contains '|') = true
  · rw [if_pos hunion] at h ⊢
    obtain ⟨fs, x₃, y₃, gs, -, hfields⟩ := exists_members_enclosed hq x₂ y₂
    rw [hfields hbar, List.all_append, List.all_cons, trim_enclosed hq] at h
    rw [hfields hbar', List.all_append, List.all_cons, trim_enclosed hq]
    split at h
    · next hall =>
      rw [Bool.and_eq_true, Bool.and_eq_true] at hall
      rw [hall.1, hall.2.2, isSome_literalContents?_of_isSome hq hc hc' hall.2.1]
      exact h
    · cases h
  · rw [if_neg hunion] at h
    dsimp only at h
    rw [hident] at h
    cases h

/-! ## Properties -/

/-- Reads the declaration of a property up to its type: its name and whether it may be absent. -/
def propertyHead? (cs : List Char) : Option ((String × Bool) × List Char) :=
  (ident? cs).bind fun (name, cs) ↦
    (mark? ':' ((mark? '?' cs).getD cs)).map fun rest ↦
      ((String.ofList name, (mark? '?' cs).isSome), rest)

theorem property_eq (interface : String) (line : List Char) : property interface line =
    match propertyHead? line with
    | none => .error (.invalidProperty interface line)
    | some ((name, optional), type) =>
      if type.isEmpty then .error (.invalidProperty interface line)
      else propertyOfType interface name optional (trim type) := by
  rw [property, propertyHead?]
  cases ident? line with
  | none => rfl
  | some r =>
    dsimp only [Option.bind_eq_bind, Option.bind_some]
    cases mark? ':' ((mark? '?' r.2).getD r.2) with
    | none => rfl
    | some rest => cases rest <;> rfl

theorem alike_propertyHead? {e e' : List Char} {R : List Char → List Char → Prop}
    (he : StartsMark e) (he' : StartsMark e') (hquestion : e.head? ≠ some '?')
    (hquestion' : e'.head? ≠ some '?') (hmark : Alike (Agree e e') R (mark? ':')) :
    Alike (Agree e e') (SameRead R) propertyHead? := by
  refine Alike.bind (alike_ident? he he') fun name cs cs' hcs ↦ ?_
  have hoptional : Alike (Agree e e') (Agree e e') (mark? '?') :=
    alike_mark? he he' hquestion hquestion'
  have hsome : (mark? '?' cs).isSome = (mark? '?' cs').isSome := by
    rw [Bool.eq_iff_iff, ← not_iff_not, Option.not_isSome_iff_eq_none, Option.not_isSome_iff_eq_none]
    exact hoptional.eq_none_iff hcs
  dsimp only
  rw [hsome]
  exact (hmark.getD hoptional).map (fun r r' h ↦ ⟨rfl, h⟩) cs cs' hcs

theorem local_propertyHead? : Local propertyHead? :=
  Local.of_alike fun _ he hhead ↦ alike_propertyHead? startsMark_nil he nofun (hhead '?' rfl)
    (alike_mark? startsMark_nil he nofun (hhead ':' rfl))

/-- The line of a property that is read with one literal in it is read with another. -/
theorem property_enclosed (hq : isQuote q = true) (hc : Contents q c) (hc' : PlainContents c')
    (hbar : '|' ∉ c) (hbar' : '|' ∉ c') {interface : String} {x y : List Char} {p : Property}
    (h : property interface (x ++ enclosed q c y) = .ok p) :
    property interface (x ++ enclosed q c' y) = .ok p := by
  have hhead : ∀ c, propertyHead? (x ++ enclosed q c y) = _ := fun c ↦
    local_propertyHead? x q (c ++ q :: y) hq
  rw [property_eq, hhead] at h
  rw [property_eq, hhead]
  cases hx : propertyHead? x with
  | none =>
    rw [hx] at h
    cases h
  | some r =>
    have htype : ∀ c, (r.2 ++ enclosed q c y).isEmpty = false := fun c ↦
      List.isEmpty_eq_false_iff.mpr (append_enclosed_ne_nil r.2 y)
    have hrest : ∀ c, r.2 ++ q :: (c ++ q :: y) = r.2 ++ enclosed q c y := fun _ ↦ rfl
    simp only [hx, Option.map_some, hrest, htype, trim_enclosed hq, Bool.false_eq_true,
      if_false] at h ⊢
    exact propertyOfType_enclosed hq hc hc' hbar hbar' h

/-- The properties of a body are read whatever follows the body. -/
theorem properties_of_ok {interface : String} {lines : List (List Char)} {ps : List Property}
    {remaining : Nat} (h : properties interface remaining lines = .ok ps) (remaining' : Nat) :
    properties interface remaining' lines = .ok ps := by
  induction lines generalizing ps remaining remaining' with
  | nil => exact h
  | cons line lines ih =>
    rw [properties] at h ⊢
    split at h
    · next hblank =>
      rw [if_pos hblank]
      exact ih h _
    · next hblank =>
      rw [if_neg hblank]
      cases hline : property interface (trim line) with
      | error fault =>
        rw [hline] at h
        cases h
      | ok p =>
        rw [hline] at h
        obtain ⟨ps', hps, rfl⟩ := exists_of_map_eq_ok h
        rw [ih hps]
        rfl

/-- The properties of a body are read if one of its lines is replaced by a line that is read as the
same property. -/
theorem properties_replaced {interface : String} {fs gs : List (List Char)}
    {line line' : List Char} (hline : allBlank line = false) (hline' : allBlank line' = false)
    (hread : ∀ p, property interface (trim line) = .ok p → property interface (trim line') = .ok p)
    {ps : List Property} {remaining : Nat}
    (h : properties interface remaining (fs ++ line :: gs) = .ok ps) (remaining' : Nat) :
    properties interface remaining' (fs ++ line' :: gs) = .ok ps := by
  induction fs generalizing ps remaining remaining' with
  | nil =>
    rw [List.nil_append, properties, if_neg (by rw [hline]; decide)] at h
    rw [List.nil_append, properties, if_neg (by rw [hline']; decide)]
    cases hp : property interface (trim line) with
    | error fault =>
      rw [hp] at h
      cases h
    | ok p =>
      rw [hp] at h
      obtain ⟨ps', hps, rfl⟩ := exists_of_map_eq_ok h
      rw [hread p hp]
      dsimp only
      rw [properties_of_ok hps]
      rfl
  | cons f fs ih =>
    rw [List.cons_append, properties] at h ⊢
    split at h
    · next hblank =>
      rw [if_pos hblank]
      exact ih h _
    · next hblank =>
      rw [if_neg hblank]
      cases hp : property interface (trim f) with
      | error fault =>
        rw [hp] at h
        cases h
      | ok p =>
        rw [hp] at h
        obtain ⟨ps', hps, rfl⟩ := exists_of_map_eq_ok h
        dsimp only
        rw [ih hps]
        rfl

/-! ## Interfaces -/

/-- What the body of an interface is cut at: bars, braces and what ends a property. -/
def cutsInterface (d : Char) : Bool :=
  d == '|' || d == '{' || d == '}' || endsProperty d

theorem not_mem_of_cutsInterface {d : Char} (hd : cutsInterface d = true)
    (hcuts : ∀ d ∈ c, cutsInterface d = false) : d ∉ c :=
  fun hmem ↦ ne_of_class hd (hcuts d hmem) rfl

theorem not_endsProperty_of_cutsInterface (hcuts : ∀ d ∈ c, cutsInterface d = false) :
    ∀ d ∈ c, endsProperty d = false :=
  fun d hd ↦ (Bool.or_eq_false_iff.mp (hcuts d hd)).2

/-- An interface that is read with one literal in it is read with another. -/
theorem interfaceAt?_enclosed (hq : isQuote q = true) (hc : Contents q c) (hc' : PlainContents c')
    (hcuts : ∀ d ∈ c, cutsInterface d = false) (hcuts' : ∀ d ∈ c', cutsInterface d = false)
    {notes : Annotations} {start b post : List Char} {name : String} {superTypes : List String}
    (hhead : interfaceHead? start = some (name, superTypes, b)) (hopen : '}' ∉ b)
    {r : Declaration × List Char}
    (h : interfaceAt? notes (start ++ enclosed q c post) = some (.ok r)) :
    interfaceAt? notes (start ++ enclosed q c' post) = some (.ok r) := by
  have hread : ∀ c, interfaceHead? (start ++ enclosed q c post) =
      some (name, superTypes, b ++ enclosed q c post) := by
    intro c
    have hlocal := local_interfaceHead? start q (c ++ q :: post) hq
    rwa [hhead] at hlocal
  have hsplit : ∀ {c}, (∀ d ∈ c, cutsInterface d = false) →
      splitFirst? ['}'] (b ++ enclosed q c post) =
        (splitFirst? ['}'] post).map fun r ↦ (b ++ enclosed q c r.1, r.2) := by
    intro c hcuts
    exact splitFirst?_enclosed hopen (ne_of_class hq rfl).symm (not_mem_of_cutsInterface rfl hcuts)
      post
  have hbrace : ∀ {c y}, (∀ d ∈ c, cutsInterface d = false) →
      (b ++ enclosed q c y).contains '{' = (b.contains '{' || y.contains '{') := by
    intro c y hcuts
    exact contains_enclosed hq rfl (not_mem_of_cutsInterface rfl hcuts) b y
  have hsep : endsProperty q = false := by rcases eq_of_isQuote hq with rfl | rfl <;> rfl
  rw [interfaceAt?, hread, Option.map_some, Option.some.injEq] at h ⊢
  dsimp only at h ⊢
  rw [hsplit hcuts] at h
  rw [hsplit hcuts']
  cases hpost : splitFirst? ['}'] post with
  | none =>
    rw [hpost] at h
    cases h
  | some s =>
    obtain ⟨y, after⟩ := s
    rw [hpost] at h
    simp only [Option.map_some, hbrace hcuts] at h
    simp only [Option.map_some, hbrace hcuts']
    split at h
    · cases h
    · next hnested =>
      rw [if_neg hnested]
      obtain ⟨ps, hps, rfl⟩ := exists_of_map_eq_ok h
      obtain ⟨fs, x, z, gs, -, hfields⟩ := exists_fields_enclosed hsep b y
      rw [hfields (not_endsProperty_of_cutsInterface hcuts)] at hps
      rw [hfields (not_endsProperty_of_cutsInterface hcuts')]
      refine congrArg (Except.map _) (properties_replaced (not_allBlank_enclosed hq x z)
        (not_allBlank_enclosed hq x z) (fun p hp ↦ ?_) hps _)
      rw [trim_enclosed hq] at hp ⊢
      exact property_enclosed hq hc hc' (not_mem_of_cutsInterface rfl hcuts)
        (not_mem_of_cutsInterface rfl hcuts') hp

/-! ## Statements -/

/-- A text ends outside literals and line comments: a semicolon behind it ends the statement. -/
def EndsOutside (cs : List Char) : Prop :=
  statement? .plain (cs ++ [';']) = some (cs, [])

instance (cs : List Char) : Decidable (EndsOutside cs) :=
  inferInstanceAs (Decidable (statement? .plain (cs ++ [';']) = some (cs, [])))

/-- Where a character stands does not depend on what follows the text behind it, unless it is a slash
that a slash follows there. -/
theorem modeAfter_append {e : Char} {cs rest : List Char}
    (h : cs = [] → e ≠ '/' ∨ rest.head? ≠ some '/') :
    modeAfter e (cs ++ rest) = modeAfter e cs := by
  cases cs with
  | nil =>
    have hcomment : ∀ rest : List Char, e ≠ '/' ∨ rest.head? ≠ some '/' →
        (e == '/' && rest.head? == some '/') = false := by
      intro rest h
      rw [Bool.and_eq_false_iff, beq_eq_false_iff_ne, beq_eq_false_iff_ne]
      exact h
    rw [List.nil_append, modeAfter, modeAfter, hcomment rest (h rfl), hcomment [] (.inr (by decide))]
  | cons f cs => rfl

/-- A step of the reading of a statement that takes one character can be taken back. -/
theorem statement_of_step {o : Option (List Char × List Char)} (taken : List Char)
    {cs rest : List Char}
    (h : o.map (fun r ↦ (taken ++ r.1, r.2)) = some (taken ++ cs, rest)) : o = some (cs, rest) := by
  obtain ⟨r, rfl, heq⟩ := Option.map_eq_some_iff.mp h
  rw [Prod.mk.injEq] at heq
  rw [Option.some.injEq]
  exact Prod.ext (List.append_cancel_left heq.1) heq.2

/-- If a semicolon behind a text ends the statement, the reading of a statement passes over the text,
unless a slash at the end of the text begins a comment with what follows. -/
theorem statement?_append {mode : StatementMode} {cs : List Char}
    (h : statement? mode (cs ++ [';']) = some (cs, [])) {rest : List Char}
    (hslash : cs.getLast? ≠ some '/' ∨ rest.head? ≠ some '/') : statement? mode (cs ++ rest) =
      (statement? .plain rest).map fun r ↦ (cs ++ r.1, r.2) := by
  have htail : ∀ {d : Char} {cs : List Char},
      (d :: cs).getLast? ≠ some '/' ∨ rest.head? ≠ some '/' →
        cs.getLast? ≠ some '/' ∨ rest.head? ≠ some '/' := by
    intro d cs h
    refine h.imp_left fun hlast heq ↦ hlast ?_
    rw [List.getLast?_cons, heq]
    rfl
  induction mode, cs using statement?.induct with
  | case1 mode =>
    cases mode with
    | plain => exact Option.map_id'.symm
    | quoted e => cases h
    | comment => cases h
  | case2 d cs ih =>
    rw [List.cons_append, statement?] at h ⊢
    rw [ih (statement_of_step [d] h) (htail hslash), Option.map_map]
    rfl
  | case3 e d cs ih =>
    rw [List.cons_append, List.cons_append, statement?] at h ⊢
    rw [ih (statement_of_step ['\\', d] h) (htail (htail hslash)), Option.map_map]
    rfl
  | case4 e d cs hstep ih =>
    by_cases hd : d = '\\'
    · -- an escape at the end takes the meaning of the semicolon away
      cases cs with
      | nil =>
        subst hd
        cases h
      | cons f cs => exact (hstep f cs hd rfl).elim
    · rw [List.cons_append, statement?.eq_4 _ _ _ fun _ _ heq _ ↦ hd heq] at h ⊢
      rw [ih (statement_of_step [d] h) (htail hslash), Option.map_map]
      rfl
  | case5 d cs hend =>
    rw [List.cons_append, statement?, if_pos hend] at h
    cases h
  | case6 d cs hend ih =>
    have hnext : cs = [] → d ≠ '/' ∨ rest.head? ≠ some '/' := by
      rintro rfl
      exact hslash.imp_left fun hlast heq ↦ hlast (congrArg some heq)
    have hsemicolon : cs = [] → d ≠ '/' ∨ [';'].head? ≠ some '/' := fun _ ↦ .inr (by decide)
    rw [List.cons_append, statement?, if_neg hend, modeAfter_append hsemicolon] at h
    rw [List.cons_append, statement?, if_neg hend, modeAfter_append hnext,
      ih (statement_of_step [d] h) (htail hslash), Option.map_map]
    rfl

/-- A statement with a literal outside other literals and comments goes on behind the literal. -/
theorem statement?_enclosed (hq : isQuote q = true) (hc : Contents q c) {b : List Char}
    (hb : EndsOutside b) (post : List Char) : statement? .plain (b ++ enclosed q c post) =
      (statement? .plain post).map fun r ↦ (b ++ enclosed q c r.1, r.2) := by
  have hslash : q ≠ '/' := ne_of_class hq rfl
  have hend : ¬ (q == ';') = true := mt eq_of_beq (ne_of_class hq rfl)
  have hmode : modeAfter q (c ++ q :: post) = .quoted q := if_pos hq
  have hbegins : (enclosed q c post).head? ≠ some '/' := fun h ↦ hslash (Option.some.inj h)
  have hends : (c ++ [q]).getLast? ≠ some '/' := by
    rw [List.getLast?_concat]
    exact fun h ↦ hslash (Option.some.inj h)
  have hcloses : statement? (.quoted q) (c ++ [q] ++ [';']) = some (c ++ [q], []) := by
    rw [List.append_assoc]
    exact hc.closes
  have hliteral : statement? (.quoted q) (c ++ q :: post) =
      (statement? .plain post).map fun r ↦ (c ++ q :: r.1, r.2) := by
    rw [List.append_cons, statement?_append hcloses (.inl hends)]
    refine Option.map_congr fun r _ ↦ ?_
    rw [List.append_assoc, List.singleton_append]
  rw [statement?_append hb (.inr hbegins), enclosed, statement?, if_neg hend, hmode, hliteral,
    Option.map_map, Option.map_map]
  rfl

theorem body_enclosed (hq : isQuote q = true) (hc : Contents q c) {b post y after : List Char}
    (hb : EndsOutside b) (hpost : statement? .plain post = some (y, after)) :
    body (b ++ enclosed q c post) = .ok (b ++ enclosed q c y, after) := by
  rw [body, statement?_enclosed hq hc hb, hpost]
  rfl

/-! ## Aliases -/

/-- A list is another one but for one element, if at all. -/
inductive OneReplaced {α : Type} (R : α → α → Prop) : List α → List α → Prop where
  /-- The lists are equal. -/
  | same (as : List α) : OneReplaced R as as
  /-- One element is replaced. -/
  | replaced (before after : List α) {a a' : α} (h : R a a') :
    OneReplaced R (before ++ a :: after) (before ++ a' :: after)

/-- A text is another one but for the contents of a literal in it. -/
def Refilled (q : Char) (c c' : List Char) (s s' : String) : Prop :=
  ∃ a b, s = String.ofList (a ++ enclosed q c b) ∧ s' = String.ofList (a ++ enclosed q c' b)

/-- A member of a union is another one but for a literal: the literal is the member, or it stands
between other quotes that the member is told by. -/
def MemberRefilled (q : Char) (c c' : List Char) (s s' : String) : Prop :=
  (s = String.ofList c ∧ s' = String.ofList c') ∨ Refilled q c c' s s'

/-- An alias is another one but for a literal in its definition, and for the member that the literal
is. -/
structure AliasRefilled (q : Char) (c c' : List Char) (t t' : TypeAlias) : Prop where
  /-- The names agree. -/
  name : t'.name = t.name
  /-- The definitions agree but for the literal. -/
  definition : Refilled q c c' t.definition t'.definition
  /-- The members agree but for the literal. -/
  unionTypes : OneReplaced (MemberRefilled q c c') t.unionTypes t'.unionTypes
  /-- The notes agree. -/
  annotations : t'.annotations = t.annotations

/-- The alias of a definition keeps all but the literal. -/
theorem aliasOf_enclosed (hq : isQuote q = true) (hc : Contents q c) (hc' : PlainContents c')
    (hbar : '|' ∉ c) (hbar' : '|' ∉ c') {a : List Char}
    (hmember : BeginsMember a ∨ QuoteFree c) (name : String) (b : List Char)
    (notes : Annotations) :
    AliasRefilled q c c' (aliasOf name (a ++ enclosed q c b) notes)
      (aliasOf name (a ++ enclosed q c' b) notes) := by
  obtain ⟨fs, x, y, gs, hbegins, hfields⟩ := exists_members_enclosed hq a b
  refine ⟨rfl, ⟨a, b, rfl, rfl⟩, ?_, rfl⟩
  have hx := hmember.imp_left hbegins
  have hsome := isSome_literalContents?_enclosed hq hc hc' hx (trimRight y)
  simp only [aliasOf, hfields hbar, hfields hbar', List.map_append, List.map_cons, trim_enclosed hq,
    List.all_append, List.all_cons, List.filterMap_append, List.filterMap_cons, hsome]
  split
  · next hall =>
    rw [Bool.and_eq_true, Bool.and_eq_true, ← hsome] at hall
    rcases literalContents?_enclosed hq hc hc' hx (trimRight y) with
      ⟨h, -⟩ | ⟨h, h'⟩ | ⟨a', b', h, h'⟩
    · rw [h] at hall
      cases hall.2.1
    · rw [h, h']
      exact .replaced _ _ (.inl ⟨rfl, rfl⟩)
    · rw [h, h']
      exact .replaced _ _ (.inr ⟨a', b', rfl, rfl⟩)
  · exact .same _

theorem aliasAt?_eq (notes : Annotations) (cs : List Char) : aliasAt? notes cs =
    (aliasHead? cs).map fun (name, rest) ↦
      (body rest).bind fun (definition, after) ↦
        if allBlank definition then .error ⟨.emptyAlias name, cs.length⟩
        else .ok (.alias (aliasOf name (trim definition) notes), after) :=
  rfl

/-- An alias is read with a literal in its definition. -/
theorem aliasAt?_enclosed (hq : isQuote q = true) (hc : Contents q c) {notes : Annotations}
    {start b post y after : List Char} {name : String} (hhead : aliasHead? start = some (name, b))
    (hb : EndsOutside b) (hpost : statement? .plain post = some (y, after)) :
    aliasAt? notes (start ++ enclosed q c post) =
      some (.ok (.alias (aliasOf name (trimLeft b ++ enclosed q c (trimRight y)) notes), after)) := by
  have hread : aliasHead? (start ++ enclosed q c post) = some (name, b ++ enclosed q c post) := by
    have hlocal := local_aliasHead? start q (c ++ q :: post) hq
    rwa [hhead] at hlocal
  rw [aliasAt?_eq, hread, Option.map_some]
  dsimp only
  rw [body_enclosed hq hc hb hpost]
  simp only [Except.bind, not_allBlank_enclosed hq, trim_enclosed hq, Bool.false_eq_true, if_false]

/-! ## Rules -/

/-- A rule is read with a literal in its definition. -/
theorem ruleAt?_enclosed (hq : isQuote q = true) (hc : Contents q c) {notes : Annotations}
    {start b post y after : List Char} {head : RuleHead} (hhead : ruleHead? start = some (head, b))
    (hb : EndsOutside b) (hpost : statement? .plain post = some (y, after)) :
    ruleAt? notes (start ++ enclosed q c post) = some (.ok
      (if head.fragment then (.fragment, after)
      else (.rule ⟨head.name, head.returns, trimLeft b ++ enclosed q c (trimRight y), notes⟩,
        after))) := by
  have hread : ruleHead? (start ++ enclosed q c post) = some (head, b ++ enclosed q c post) := by
    have hlocal := local_ruleHead? start q (c ++ q :: post) hq
    rwa [hhead] at hlocal
  rw [ruleAt?, hread, Option.map_some]
  dsimp only
  rw [body_enclosed hq hc hb hpost]
  simp only [Except.map, trim_enclosed hq]

/-! ## References and terminals -/

/-- A reference to a grammar is read whatever its literal is. -/
theorem referenceAt?_enclosed (hq : isQuote q = true) (hc : Contents q c) {start : List Char}
    (hhead : keyword? "import" start = some []) (post : List Char) :
    referenceAt? (start ++ enclosed q c post) =
      some (.ok (.reference, (mark? ';' post).getD post)) := by
  have hread : keyword? "import" (start ++ enclosed q c post) = some (enclosed q c post) := by
    have hlocal := localSkip_keyword? "import" (by decide) start q (c ++ q :: post) hq
    rwa [hhead] at hlocal
  rw [referenceAt?, hread, Option.bind_some, literal?_enclosed hq hc]
  rfl

/-- A terminal is read with a literal in its definition. -/
theorem terminalAt?_enclosed (hq : isQuote q = true) (hc : Contents q c)
    {start b post y after : List Char} {name : String} {returns : Option String}
    (hhead : terminalHead? start = some (name, returns, b)) (hb : EndsOutside b)
    (hpost : statement? .plain post = some (y, after)) :
    terminalAt? (start ++ enclosed q c post) = some (.ok (.terminal name returns, after)) := by
  have hread : terminalHead? (start ++ enclosed q c post) =
      some (name, returns, b ++ enclosed q c post) := by
    have hlocal := local_terminalHead? start q (c ++ q :: post) hq
    rwa [hhead] at hlocal
  rw [terminalAt?, hread, Option.map_some]
  dsimp only
  rw [body_enclosed hq hc hb hpost]
  rfl

end DiagramForge.Grammar
