import DiagramForge.Proofs.Grammar.Enclosed
import Mathlib.Data.List.Forall2

/-!
# Assignments around a literal

The search for assignments does not know of literals: it takes whatever looks like an assignment. In
a text with a literal in it, it finds the same assignments whatever the contents of the literal are,
as long as the contents are `Inert`: `occurrences_enclosed`.

Before the literal an assignment is read alike, `assignment?_enclosed`, and no assignment begins in
the literal. Behind it everything is found where it was, but `c'.length - c.length` characters further
on; `Moved` relates the two places of a character.
-/

namespace DiagramForge.Grammar

open Text

variable {q : Char} {c c' : List Char}

/-! ## Suffixes -/

theorem suffix_of_after? {start cs rest : List Char} (h : after? start cs = some rest) :
    rest <:+ cs :=
  ⟨start, (eq_append_of_after? h).symm⟩

theorem suffix_of_ident? {cs name rest : List Char} (h : ident? cs = some (name, rest)) :
    rest <:+ cs := by
  cases cs with
  | nil => cases h
  | cons d cs =>
    rw [ident?] at h
    split at h
    · cases h
      exact (List.dropWhile_suffix _).trans (List.suffix_cons _ _)
    · cases h

/-- A mark is taken with the blanks before it. -/
theorem suffix_of_mark? {mark : Char} {cs rest : List Char} (h : mark? mark cs = some rest) :
    mark :: rest <:+ cs := by
  have hmark : trimLeft cs = mark :: rest := eq_append_of_after? h
  rw [← hmark]
  exact List.dropWhile_suffix isBlank

theorem suffix_of_splitFirst? {mark : Char} {cs before rest : List Char}
    (h : splitFirst? [mark] cs = some (before, rest)) : rest <:+ cs := by
  rw [eq_append_of_splitFirst? h]
  exact (List.suffix_cons _ _).trans (List.suffix_append _ _)

theorem suffix_of_operator? {cs rest : List Char} {o : Operator}
    (h : operator? cs = some (o, rest)) : rest <:+ cs := by
  rw [operator?] at h
  split at h
  · next hafter =>
    cases h
    exact suffix_of_after? hafter
  · split at h
    · next hafter =>
      cases h
      exact suffix_of_after? hafter
    · obtain ⟨rest', hafter, heq⟩ := Option.map_eq_some_iff.mp h
      cases heq
      exact suffix_of_after? hafter

/-- A reference ends with its bracket. -/
theorem suffix_of_reference? {cs rest : List Char} {v : AssignedValue}
    (h : reference? cs = some (v, rest)) : ']' :: rest <:+ cs := by
  obtain ⟨⟨type, mid⟩, hident, h⟩ := Option.bind_eq_some_iff.mp h
  have hmid : mid <:+ cs := by
    refine (suffix_of_ident? hident).trans (List.IsSuffix.trans ?_ (List.dropWhile_suffix isBlank))
    cases hat : after? ['@'] (trimLeft cs) with
    | none => exact List.suffix_rfl
    | some rest => exact suffix_of_after? hat
  dsimp only at h
  split at h
  · next hterminal =>
    obtain ⟨⟨name, mid'⟩, hname, hclose⟩ := Option.bind_eq_some_iff.mp hterminal
    obtain ⟨mid'', hcolon, hname⟩ := Option.bind_eq_some_iff.mp hname
    cases h
    exact (suffix_of_mark? hclose).trans <| (suffix_of_ident? hname).trans <|
      (List.dropWhile_suffix _).trans <| (List.suffix_cons _ _).trans <|
        (suffix_of_mark? hcolon).trans hmid
  · obtain ⟨rest', hclose, heq⟩ := Option.map_eq_some_iff.mp h
    cases heq
    exact (suffix_of_mark? hclose).trans hmid

/-! ## Assignments -/

/-- Reads an assignment up to its value: the feature and the operator. -/
def assignmentHead? (cs : List Char) : Option ((List Char × Operator) × List Char) :=
  (ident? cs).bind fun (feature, cs) ↦
    (operator? (trimLeft cs)).map fun (operator, cs) ↦ ((feature, operator), trimLeft cs)

theorem assignment?_eq (cs : List Char) : assignment? cs =
    (assignmentHead? cs).bind fun (head, cs) ↦
      (value? cs).map fun (value, rest) ↦ (⟨String.ofList head.1, head.2, value⟩, rest) := by
  rw [assignment?, assignmentHead?]
  cases ident? cs with
  | none => rfl
  | some r =>
    dsimp only [Option.bind_some]
    cases operator? (trimLeft r.2) <;> rfl

theorem suffix_of_assignmentHead? {cs rest : List Char} {head : List Char × Operator}
    (h : assignmentHead? cs = some (head, rest)) : rest <:+ cs ∧ rest.length < cs.length := by
  obtain ⟨⟨feature, mid⟩, hident, h⟩ := Option.bind_eq_some_iff.mp h
  obtain ⟨⟨operator, mid'⟩, hoperator, heq⟩ := Option.map_eq_some_iff.mp h
  cases heq
  have hmid : trimLeft mid' <:+ mid :=
    (List.dropWhile_suffix _).trans <| (suffix_of_operator? hoperator).trans
      (List.dropWhile_suffix _)
  exact ⟨hmid.trans (suffix_of_ident? hident),
    Nat.lt_of_le_of_lt hmid.length_le (length_lt_of_ident? hident)⟩

section

variable {e e' : List Char} {R : List Char → List Char → Prop} (he : StartsMark e)
  (he' : StartsMark e')

theorem alike_operator? (hmarks : ∀ c ∈ ['+', '?', '='], e.head? ≠ some c)
    (hmarks' : ∀ c ∈ ['+', '?', '='], e'.head? ≠ some c) :
    Alike (Agree e e') (SameRead (Agree e e')) operator? := by
  intro cs cs' hcs
  have hafter : ∀ start : List Char, start ⊆ ['+', '?', '='] →
      Option.Rel (Agree e e') (after? start cs) (after? start cs') := fun start h ↦
    alike_after? (fun c hc ↦ hmarks c (h hc)) (fun c hc ↦ hmarks' c (h hc)) cs cs' hcs
  rw [operator?, operator?]
  have happend := hafter ['+', '='] (by simp)
  generalize after? ['+', '='] cs = o, after? ['+', '='] cs' = o' at happend ⊢
  cases happend with
  | some h => exact .some ⟨rfl, h⟩
  | none =>
    have hpresent := hafter ['?', '='] (by simp)
    generalize after? ['?', '='] cs = o, after? ['?', '='] cs' = o' at hpresent ⊢
    cases hpresent with
    | some h => exact .some ⟨rfl, h⟩
    | none =>
      have hset := hafter ['='] (by simp)
      generalize after? ['='] cs = o, after? ['='] cs' = o' at hset ⊢
      cases hset with
      | some h => exact .some ⟨rfl, h⟩
      | none => exact .none

include he he'

theorem alike_assignmentHead? (hmarks : ∀ c ∈ ['+', '?', '='], e.head? ≠ some c)
    (hmarks' : ∀ c ∈ ['+', '?', '='], e'.head? ≠ some c) :
    Alike (Agree e e') (SameRead (Agree e e')) assignmentHead? := by
  refine Alike.bind (alike_ident? he he') fun feature ↦ ?_
  refine ((alike_operator? hmarks hmarks').afterBlanks he he').map fun r r' h ↦ ?_
  obtain ⟨hoperator, u, hu, hu'⟩ := h
  dsimp only
  rw [hoperator, hu, hu', trimLeft_append_mark he, trimLeft_append_mark he']
  exact ⟨rfl, agree_append e e' _⟩

theorem alike_reference? (hmarks : ∀ c ∈ ['@', ':'], e.head? ≠ some c)
    (hmarks' : ∀ c ∈ ['@', ':'], e'.head? ≠ some c)
    (hmark : Alike (Agree e e') R (mark? ']')) :
    Alike (Agree e e') (SameRead R) reference? := by
  have hat : Alike (Agree e e') (Agree e e') (after? ['@']) :=
    alike_after? (fun c hc ↦ hmarks c (by simp_all)) fun c hc ↦ hmarks' c (by simp_all)
  have hcolon : Alike (Agree e e') (Agree e e') (mark? ':') :=
    alike_mark? he he' (hmarks _ (by simp)) (hmarks' _ (by simp))
  have hterminal : Alike (Agree e e') R fun cs ↦
      ((mark? ':' cs).bind fun cs ↦ ident? (trimLeft cs)).bind fun (_, cs) ↦ mark? ']' cs :=
    Alike.bind (((alike_ident? he he').afterBlanks he he').afterSkip hcolon) fun _ ↦ hmark
  have htype : Alike (Agree e e') (SameRead (Agree e e')) fun cs ↦
      ident? ((after? ['@'] cs).getD cs) := (alike_ident? he he').getD hat
  refine Alike.bind (htype.afterBlanks he he') fun type cs cs' hcs ↦ ?_
  have hlong := hterminal cs cs' hcs
  dsimp only at hlong ⊢
  generalize ((mark? ':' cs).bind _).bind _ = o, ((mark? ':' cs').bind _).bind _ = o' at hlong ⊢
  cases hlong with
  | some h => exact .some ⟨rfl, h⟩
  | none => exact hmark.map (fun r r' h ↦ ⟨rfl, h⟩) cs cs' hcs

end

theorem local_assignmentHead? : Local assignmentHead? := by
  have hmarks : QuoteFree ['+', '?', '='] := by decide
  exact Local.of_alike fun _ he hhead ↦ alike_assignmentHead? startsMark_nil he (fun _ _ ↦ nofun)
    fun c hc ↦ hhead c (hmarks c hc)

theorem local_reference? : Local reference? := by
  have hmarks : QuoteFree ['@', ':'] := by decide
  exact Local.of_alike fun _ he hhead ↦ alike_reference? startsMark_nil he (fun _ _ ↦ nofun)
    (fun c hc ↦ hhead c (hmarks c hc)) (alike_mark? startsMark_nil he nofun (hhead ']' rfl))

/-- A value that begins with neither bracket is a literal or a name. -/
theorem value?_cons {d : Char} (hbracket : d ≠ '[') (hparen : d ≠ '(') (cs : List Char) :
    value? (d :: cs) = if isQuote d then (splitFirst? [d] cs).map fun r ↦ (.keyword, r.2)
      else (ident? (d :: cs)).map fun r ↦ (.call (String.ofList r.1), r.2) := by
  rw [value?, literal?]
  · by_cases hquote : isQuote d = true
    · have hident : ident? (d :: cs) = none :=
        if_neg (Bool.eq_false_iff.mp (isIdentStart_of_isQuote hquote))
      rw [if_pos hquote, if_pos hquote, hident]
      cases splitFirst? [d] cs <;> rfl
    · rw [if_neg hquote, if_neg hquote]
  · exact fun _ heq ↦ hbracket (List.cons.inj heq).1
  · exact fun _ heq ↦ hparen (List.cons.inj heq).1

/-- A text begins with a quote, and this is not closed in it. -/
def OpenValue (cs : List Char) : Prop :=
  ∃ e rest, cs = e :: rest ∧ isQuote e = true ∧ e ∉ rest

/-- A text begins with an assignment whose value is a literal that is not closed in it. -/
def OpenAssignment (cs : List Char) : Prop :=
  ∃ head rest, assignmentHead? cs = some (head, rest) ∧ OpenValue rest

/-- What is read with one literal and with another: the same, with the rest of the text before the
literal, right behind its first quote if a literal is `opened` before it, or behind it. -/
inductive ReadAlike (q : Char) (c c' : List Char) {α : Type} (opened : Prop) (u v : List Char) :
    Option (α × List Char) → Option (α × List Char) → Prop where
  /-- Nothing is read. -/
  | none : ReadAlike q c c' opened u v none none
  /-- The reading ends before the literal. -/
  | before (a : α) (w : List Char) (h : w <:+ u) (hlt : w.length < u.length) :
    ReadAlike q c c' opened u v (some (a, w ++ enclosed q c v)) (some (a, w ++ enclosed q c' v))
  /-- The reading takes the first quote for the end of a literal. -/
  | inside (a : α) (h : opened) :
    ReadAlike q c c' opened u v (some (a, c ++ q :: v)) (some (a, c' ++ q :: v))
  /-- The reading ends behind the literal. -/
  | behind (a : α) (y : List Char) (h : y <:+ v) :
    ReadAlike q c c' opened u v (some (a, y)) (some (a, y))

/-- A literal that begins before another one is closed before that one, at its first quote, or behind
it. -/
theorem literalValue_enclosed (hc' : PlainContents c') {d : Char} (hd : isQuote d = true)
    {u : List Char} (hfree : OpenValue (d :: u) → QuoteFree c) (v : List Char)
    (value : AssignedValue) : ReadAlike q c c' (OpenValue (d :: u)) (d :: u) v
      ((splitFirst? [d] (u ++ enclosed q c v)).map fun r ↦ (value, r.2))
      ((splitFirst? [d] (u ++ enclosed q c' v)).map fun r ↦ (value, r.2)) := by
  by_cases hmem : d ∈ u
  · obtain ⟨before, after, hsplit⟩ := splitFirst?_append_of_mem hmem
    have hafter := hsplit []
    rw [List.append_nil, List.append_nil] at hafter
    have hrest := suffix_of_splitFirst? hafter
    rw [hsplit, hsplit]
    exact .before value after (hrest.trans (List.suffix_cons _ _))
      (Nat.lt_succ_of_le hrest.length_le)
  have hopen : OpenValue (d :: u) := ⟨d, u, rfl, hd, hmem⟩
  by_cases heq : d = q
  · subst heq
    rw [enclosed, enclosed, splitFirst?_append hmem, splitFirst?_append hmem]
    exact .inside value hopen
  · rw [splitFirst?_enclosed hmem heq ((hfree hopen).not_mem hd),
      splitFirst?_enclosed hmem heq (hc'.quote.not_mem hd)]
    cases hsplit : splitFirst? [d] v with
    | none => exact .none
    | some r => exact .behind value r.2 (suffix_of_splitFirst? hsplit)

/-- A value is read alike with two literals. -/
theorem value?_enclosed (hq : isQuote q = true) (hc : Contents q c) (hc' : PlainContents c')
    {u : List Char} (hfree : OpenValue u → QuoteFree c) (v : List Char) :
    ReadAlike q c c' (OpenValue u) u v (value? (u ++ enclosed q c v))
      (value? (u ++ enclosed q c' v)) := by
  have hbracket : q ≠ '[' := ne_of_class hq rfl
  have hparen : q ≠ '(' := ne_of_class hq rfl
  cases u with
  | nil =>
    have hread : ∀ {c}, Contents q c → value? ([] ++ enclosed q c v) = some (.keyword, v) := by
      intro c hc
      rw [List.nil_append, enclosed, value?_cons hbracket hparen, if_pos hq,
        splitFirst?_append hc.quote]
      rfl
    rw [hread hc, hread (hc'.contents hq)]
    exact .behind _ v List.suffix_rfl
  | cons d u =>
    by_cases hd : d = '['
    · subst hd
      have hread : ∀ c, value? ('[' :: u ++ enclosed q c v) = _ := fun c ↦
        local_reference? u q (c ++ q :: v) hq
      rw [hread, hread]
      cases hreference : reference? u with
      | none => exact .none
      | some r =>
        have hrest := (List.suffix_cons _ _).trans (suffix_of_reference? hreference)
        exact .before r.1 r.2 (hrest.trans (List.suffix_cons _ _)) (Nat.lt_succ_of_le hrest.length_le)
    by_cases hd' : d = '('
    · subst hd'
      exact .before AssignedValue.keyword u (List.suffix_cons _ _) (Nat.lt_succ_self _)
    have hread := fun c ↦ value?_cons hd hd' (u ++ enclosed q c v)
    simp only [List.cons_append, hread]
    by_cases hquote : isQuote d = true
    · rw [if_pos hquote, if_pos hquote]
      exact literalValue_enclosed hc' hquote hfree v .keyword
    · have hident : ∀ c, ident? (d :: (u ++ enclosed q c v)) = _ := fun c ↦
        local_ident? (d :: u) q (c ++ q :: v) hq
      rw [if_neg hquote, if_neg hquote, hident, hident]
      cases hname : ident? (d :: u) with
      | none => exact .none
      | some r =>
        exact .before (AssignedValue.call (String.ofList r.1)) r.2 (suffix_of_ident? hname)
          (length_lt_of_ident? hname)

/-- An assignment is read alike with two literals. -/
theorem assignment?_enclosed (hq : isQuote q = true) (hc : Contents q c) (hc' : PlainContents c')
    {u : List Char} (hfree : OpenAssignment u → QuoteFree c) (v : List Char) :
    ReadAlike q c c' (OpenAssignment u) u v (assignment? (u ++ enclosed q c v))
      (assignment? (u ++ enclosed q c' v)) := by
  have hread : ∀ cs, assignment? (u ++ q :: cs) =
      ((assignmentHead? u).map fun r ↦ (r.1, r.2 ++ q :: cs)).bind fun (head, cs) ↦
        (value? cs).map fun (value, rest) ↦ (⟨String.ofList head.1, head.2, value⟩, rest) := by
    intro cs
    rw [assignment?_eq, local_assignmentHead? u q cs hq]
  rw [enclosed, enclosed, hread, hread]
  cases hhead : assignmentHead? u with
  | none => exact .none
  | some r =>
    obtain ⟨hsuffix, hlt⟩ := suffix_of_assignmentHead? hhead
    have hvalue := value?_enclosed hq hc hc' (fun h ↦ hfree ⟨r.1, r.2, hhead, h⟩) v
    rw [enclosed, enclosed] at hvalue
    dsimp only [Option.map_some, Option.bind_some]
    generalize value? (r.2 ++ q :: (c ++ q :: v)) = o,
      value? (r.2 ++ q :: (c' ++ q :: v)) = o' at hvalue ⊢
    cases hvalue with
    | none => exact .none
    | before a w h hw => exact .before _ w (h.trans hsuffix) (Nat.lt_trans hw hlt)
    | inside a h => exact .inside _ ⟨r.1, r.2, hhead, h⟩
    | behind a y h => exact .behind _ y h

/-! ## Inert contents -/

/-- Nothing in a text is taken for a part of a rule body. -/
structure Inert (cs : List Char) : Prop where
  /-- There is no action in it. -/
  action : ∀ t, t <:+ cs → action? t = none
  /-- There is no assignment in it. -/
  assignment : ∀ t, t <:+ cs → assignment? t = none
  /-- There is no assignment at the end of it whose value is missing. -/
  cut : ∀ t head, t <:+ cs → assignmentHead? t ≠ some (head, [])
  /-- There is no assignment in it whose value is not closed. -/
  closed : ∀ t, t <:+ cs → ¬ OpenAssignment t

theorem Inert.of_suffix {cs ds : List Char} (h : Inert ds) (hcs : cs <:+ ds) : Inert cs :=
  ⟨fun t ht ↦ h.action t (ht.trans hcs), fun t ht ↦ h.assignment t (ht.trans hcs),
    fun t head ht ↦ h.cut t head (ht.trans hcs), fun t ht ↦ h.closed t (ht.trans hcs)⟩

theorem mem_of_assignmentHead? {cs rest : List Char} {head : List Char × Operator}
    (h : assignmentHead? cs = some (head, rest)) : '=' ∈ cs := by
  obtain ⟨⟨feature, mid⟩, hident, h⟩ := Option.bind_eq_some_iff.mp h
  obtain ⟨⟨operator, mid'⟩, hoperator, -⟩ := Option.map_eq_some_iff.mp h
  have hmid : trimLeft mid <:+ cs :=
    (List.dropWhile_suffix _).trans (suffix_of_ident? hident)
  have hmark : ∀ {start rest : List Char}, '=' ∈ start →
      after? start (trimLeft mid) = some rest → '=' ∈ trimLeft mid := by
    intro start rest hstart hafter
    rw [eq_append_of_after? hafter]
    exact List.mem_append_left rest hstart
  refine hmid.subset ?_
  rw [operator?] at hoperator
  split at hoperator
  · next hafter => exact hmark (by decide) hafter
  · split at hoperator
    · next hafter => exact hmark (by decide) hafter
    · obtain ⟨rest', hafter, -⟩ := Option.map_eq_some_iff.mp hoperator
      exact hmark (by decide) hafter

/-- A text without braces and equals signs is inert. -/
theorem inert_of_not_mem {cs : List Char} (hbrace : '{' ∉ cs) (heq : '=' ∉ cs) : Inert cs := by
  have hhead : ∀ t, t <:+ cs → assignmentHead? t = none := by
    intro t ht
    refine Option.eq_none_iff_forall_not_mem.mpr fun r hr ↦ heq (ht.subset ?_)
    exact mem_of_assignmentHead? hr
  refine ⟨fun t ht ↦ ?_, fun t ht ↦ ?_, fun t head ht h ↦ ?_, fun t ht h ↦ ?_⟩
  · have hafter : after? ['{'] t = none := by
      refine Option.eq_none_iff_forall_not_mem.mpr fun rest hrest ↦ hbrace (ht.subset ?_)
      rw [eq_append_of_after? hrest]
      exact List.mem_cons_self
    rw [action?, hafter]
    rfl
  · rw [assignment?_eq, hhead t ht]
    rfl
  · rw [hhead t ht] at h
    cases h
  · obtain ⟨head, rest, hread, -⟩ := h
    rw [hhead t ht] at hread
    cases hread

/-- No assignment is read from the end of inert contents, whatever follows the quote. -/
theorem Inert.assignment?_append_quote (h : Inert c) (hq : isQuote q = true) (z : List Char) :
    assignment? (c ++ q :: z) = none := by
  have hnone := h.assignment c List.suffix_rfl
  rw [assignment?_eq] at hnone
  rw [assignment?_eq, local_assignmentHead? c q z hq]
  cases hhead : assignmentHead? c with
  | none => rfl
  | some r =>
    obtain ⟨head, w⟩ := r
    rw [hhead, Option.bind_some] at hnone
    dsimp only [Option.map_some, Option.bind_some]
    refine Option.map_eq_none_iff.mpr ?_
    replace hnone := Option.map_eq_none_iff.mp hnone
    cases w with
    | nil => exact absurd hhead (h.cut c head List.suffix_rfl)
    | cons d w =>
      by_cases hbracket : d = '['
      · subst hbracket
        have hreference := local_reference? w q z hq
        exact hreference.trans (Option.map_eq_none_iff.mpr hnone)
      by_cases hparen : d = '('
      · subst hparen
        cases hnone
      have hquote : ¬ isQuote d = true := by
        intro hquote
        by_cases hmem : d ∈ w
        · obtain ⟨before, after, hsplit⟩ := splitFirst?_append_of_mem hmem
          have hread := hsplit []
          rw [List.append_nil] at hread
          rw [value?_cons hbracket hparen, if_pos hquote, hread] at hnone
          cases hnone
        · exact h.closed c List.suffix_rfl ⟨head, d :: w, hhead, d, w, rfl, hquote, hmem⟩
      rw [value?_cons hbracket hparen, if_neg hquote, Option.map_eq_none_iff] at hnone
      have hident := local_ident? (d :: w) q z hq
      rw [hnone] at hident
      rw [List.cons_append, value?_cons hbracket hparen, if_neg hquote, Option.map_eq_none_iff]
      exact hident

/-! ## Places of characters -/

/-- The places of a character before and after the contents of the literal at `p` are replaced. -/
def Moved (p : Nat) (c c' : List Char) (k k' : Nat) : Prop :=
  (k ≤ p + 1 ∧ k' = k) ∨ (p + 2 + c.length ≤ k ∧ k' + c.length = k + c'.length)

theorem Moved.lt_iff {p k k' l l' : Nat} (hk : Moved p c c' k k') (hl : Moved p c c' l l') :
    k < l ↔ k' < l' := by
  rcases hk with ⟨_, rfl⟩ | ⟨_, _⟩ <;> rcases hl with ⟨_, rfl⟩ | ⟨_, _⟩ <;> omega

theorem Moved.le_iff {p k k' l l' : Nat} (hk : Moved p c c' k k') (hl : Moved p c c' l l') :
    k ≤ l ↔ k' ≤ l' := by
  rw [← Nat.not_lt, ← Nat.not_lt, hl.lt_iff hk]

/-- Behind the literal all places are moved as far. -/
theorem Moved.add {p k k' : Nat} (hk : Moved p c c' k k') (hbehind : p + 2 + c.length ≤ k)
    (i : Nat) : Moved p c c' (k + i) (k' + i) := by
  rcases hk with ⟨_, _⟩ | ⟨_, _⟩
  · omega
  · exact .inr (by omega)

/-! ## Occurrences of assignments -/

theorem occurrences_of_none {offset : Nat} {d : Char} {cs : List Char}
    (h : assignment? (d :: cs) = none) :
    occurrences offset (d :: cs) = occurrences (offset + 1) cs := by
  rw [occurrences, h]

theorem occurrences_of_some {offset : Nat} {cs after : List Char} {a : Assignment}
    (h : assignment? cs = some (a, after)) (hlt : after.length < cs.length) :
    occurrences offset cs = ⟨a, offset, offset + (cs.length - after.length)⟩ ::
      occurrences (offset + (cs.length - after.length)) after := by
  cases cs with
  | nil => cases hlt
  | cons d cs =>
    rw [occurrences, h]
    exact dif_pos hlt

/-- An assignment is found where it was, moved with the text. -/
structure OccursAlike (p : Nat) (c c' : List Char) (o o' : Occurrence) : Prop where
  /-- The assignments agree. -/
  assignment : o'.assignment = o.assignment
  /-- The places where they begin agree. -/
  start : Moved p c c' o.start o'.start
  /-- The places where they end agree. -/
  stop : Moved p c c' o.stop o'.stop
  /-- If they end right behind the first quote of the literal, both contents begin alike. -/
  inside : o.stop = p + 1 → allowsNone c = allowsNone c'

/-- Behind the literal everything is found where it was. -/
theorem occurrences_moved {p offset offset' : Nat} (hmoved : Moved p c c' offset offset')
    (hbehind : p + 2 + c.length ≤ offset) (cs : List Char) :
    List.Forall₂ (OccursAlike p c c') (occurrences offset cs) (occurrences offset' cs) := by
  induction offset, cs using occurrences.induct generalizing offset' with
  | case1 =>
    rw [occurrences, occurrences]
    exact .nil
  | case2 offset d cs a after hread hlt stop =>
    rename_i ih
    rw [occurrences_of_some hread hlt, occurrences_of_some hread hlt]
    have hstop := hmoved.add hbehind ((d :: cs).length - after.length)
    refine .cons ⟨rfl, hmoved, hstop, fun heq ↦ ?_⟩ (ih hstop (by omega))
    dsimp only at heq
    omega
  | case3 offset d cs a after hread hlt ih =>
    rw [occurrences, occurrences, hread]
    dsimp only
    rw [dif_neg hlt, dif_neg hlt]
    exact ih (hmoved.add hbehind 1) (by omega)
  | case4 offset d cs hread ih =>
    rw [occurrences_of_none hread, occurrences_of_none hread]
    exact ih (hmoved.add hbehind 1) (by omega)

/-- Nothing is found in inert contents. -/
theorem Inert.occurrences_append (h : Inert c) (hq : isQuote q = true) (offset : Nat)
    (v : List Char) :
    occurrences offset (c ++ q :: v) = occurrences (offset + c.length + 1) v := by
  induction c generalizing offset with
  | nil =>
    have hident : ident? (q :: v) = none :=
      if_neg (Bool.eq_false_iff.mp (isIdentStart_of_isQuote hq))
    refine occurrences_of_none ?_
    rw [assignment?, hident]
    rfl
  | cons d c ih =>
    have hnone : assignment? (d :: (c ++ q :: v)) = none := h.assignment?_append_quote hq v
    rw [List.cons_append, occurrences_of_none hnone, ih (h.of_suffix (List.suffix_cons d c)),
      List.length_cons]
    congr 1
    omega

/-- Nothing is found in a literal with inert contents. -/
theorem Inert.occurrences_enclosed (h : Inert c) (hq : isQuote q = true) (offset : Nat)
    (v : List Char) :
    occurrences offset (enclosed q c v) = occurrences (offset + 2 + c.length) v := by
  have hident : ident? (enclosed q c v) = none :=
    if_neg (Bool.eq_false_iff.mp (isIdentStart_of_isQuote hq))
  have hnone : assignment? (enclosed q c v) = none := by
    rw [assignment?, hident]
    rfl
  rw [enclosed] at hnone ⊢
  rw [occurrences_of_none hnone, h.occurrences_append hq]
  congr 1
  omega

/-- If an assignment is read first, at the same place before the literal and up to places that are
moved with the text, what is found is alike if what is found behind it is. -/
theorem occurrences_alike {p offset stop stop' : Nat} {text text' rest rest' : List Char}
    {a : Assignment} (hread : assignment? text = some (a, rest))
    (hread' : assignment? text' = some (a, rest'))
    (hlength : text.length = stop - offset + rest.length)
    (hlength' : text'.length = stop' - offset + rest'.length) (hlt : offset < stop)
    (hlt' : offset < stop') (hstart : offset ≤ p + 1) (hstop : Moved p c c' stop stop')
    (hinside : stop = p + 1 → allowsNone c = allowsNone c')
    (hrest : List.Forall₂ (OccursAlike p c c') (occurrences stop rest) (occurrences stop' rest')) :
    List.Forall₂ (OccursAlike p c c') (occurrences offset text) (occurrences offset text') := by
  have hwidth : offset + (text.length - rest.length) = stop := by omega
  have hwidth' : offset + (text'.length - rest'.length) = stop' := by omega
  rw [occurrences_of_some hread (by omega), occurrences_of_some hread' (by omega), hwidth, hwidth']
  exact .cons ⟨rfl, .inl ⟨hstart, rfl⟩, hstop, hinside⟩ hrest

/-- Nothing that is found depends on the contents of a literal: what stands before the literal is
found where it was, and so is, moved with the text, what stands behind it. -/
theorem occurrences_enclosed (hq : isQuote q = true) (hc : Contents q c) (hc' : PlainContents c')
    (hinert : Inert c) (hinert' : Inert c') {p offset : Nat} {u : List Char}
    (hpos : offset + u.length = p)
    (hopen : ∀ t, t <:+ u → OpenAssignment t → QuoteFree c ∧ allowsNone c = allowsNone c')
    (v : List Char) :
    List.Forall₂ (OccursAlike p c c') (occurrences offset (u ++ enclosed q c v))
      (occurrences offset (u ++ enclosed q c' v)) := by
  induction hlen : u.length using Nat.strongRecOn generalizing u offset with
  | ind len ih =>
    cases u with
    | nil =>
      rw [List.nil_append, List.nil_append, hinert.occurrences_enclosed hq,
        hinert'.occurrences_enclosed hq]
      rw [List.length_nil] at hpos
      exact occurrences_moved (.inr (by omega)) (by omega) v
    | cons d u =>
      rw [List.length_cons] at hpos hlen
      have hlength := fun c ↦ length_append_enclosed q (d :: u) c v
      simp only [List.length_cons] at hlength
      have halike := assignment?_enclosed hq hc hc'
        (fun h ↦ (hopen (d :: u) List.suffix_rfl h).1) v
      generalize hread : assignment? (d :: u ++ enclosed q c v) = o,
        hread' : assignment? (d :: u ++ enclosed q c' v) = o' at halike
      cases halike with
      | none =>
        rw [List.cons_append] at hread hread' ⊢
        rw [List.cons_append, occurrences_of_none hread, occurrences_of_none hread']
        exact ih u.length (by omega) (by omega)
          (fun t ht ↦ hopen t (ht.trans (List.suffix_cons _ _))) rfl
      | before a w hw hlt =>
        -- the search goes on before the literal
        rw [List.length_cons] at hlt
        have hrest := ih w.length (by omega) (show p - w.length + w.length = p by omega)
          (fun t ht ↦ hopen t (ht.trans hw)) rfl
        refine occurrences_alike hread hread' ?_ ?_ ?_ ?_ ?_ (.inl ⟨?_, rfl⟩) ?_ hrest
        · rw [hlength, length_append_enclosed]
          omega
        · rw [hlength, length_append_enclosed]
          omega
        all_goals omega
      | inside a h =>
        -- it goes on in the contents, where nothing is found
        obtain ⟨-, hbegin⟩ := hopen (d :: u) List.suffix_rfl h
        have hrest : List.Forall₂ (OccursAlike p c c') (occurrences (p + 1) (c ++ q :: v))
            (occurrences (p + 1) (c' ++ q :: v)) := by
          rw [hinert.occurrences_append hq, hinert'.occurrences_append hq]
          exact occurrences_moved (.inr (by omega)) (by omega) v
        refine occurrences_alike hread hread' ?_ ?_ ?_ ?_ ?_ (.inl ⟨Nat.le_refl _, rfl⟩)
          (fun _ ↦ hbegin) hrest
        · rw [hlength, List.length_append, List.length_cons]
          omega
        · rw [hlength, List.length_append, List.length_cons]
          omega
        all_goals omega
      | behind a y hy =>
        have hle := hy.length_le
        have hmoved : Moved p c c' (p + 2 + c.length + (v.length - y.length))
            (p + 2 + c'.length + (v.length - y.length)) := .inr (by omega)
        refine occurrences_alike hread hread' ?_ ?_ ?_ ?_ ?_ hmoved ?_
          (occurrences_moved hmoved (by omega) y)
        · rw [hlength]
          omega
        · rw [hlength]
          omega
        all_goals omega

end DiagramForge.Grammar
