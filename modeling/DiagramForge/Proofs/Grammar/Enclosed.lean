import DiagramForge.Proofs.Grammar.Aliases
import DiagramForge.Proofs.Grammar.Locality
import Mathlib.Data.List.TakeWhile

/-!
# Texts around a literal

A text with a literal in it is a text `a`, the literal, and a text `b`. The operations that a text
is read with keep this form: they change what stands around the literal and leave the literal where it
is. What they make of the text around it does not depend on the contents, as long as the contents hold
none of the characters that the operation looks for.

So each lemma here says what an operation does to `a ++ enclosed q contents b` for all contents at
once.
-/

namespace DiagramForge.Grammar

open Text

/-- A literal with what follows it. -/
def enclosed (q : Char) (contents rest : List Char) : List Char :=
  q :: (contents ++ q :: rest)

/-- What can stand in a literal. -/
structure Contents (q : Char) (cs : List Char) : Prop where
  /-- The quote of the literal is not in it. -/
  quote : q ∉ cs
  /-- The reading of a statement finds the end of the literal at its quote: no escape takes it. -/
  closes : statement? (.quoted q) (cs ++ [q, ';']) = some (cs ++ [q], [])
  /-- No block comment begins in it. -/
  comment : ¬ ['/', '*'] <:+: cs

/-- What can stand in any literal on one line: a text without quotes, escapes and comments. -/
structure PlainContents (cs : List Char) : Prop where
  /-- There is no quote in it. -/
  quote : QuoteFree cs
  /-- There is no backslash in it. -/
  escape : '\\' ∉ cs
  /-- It is on one line. -/
  line : '\n' ∉ cs
  /-- No block comment begins in it. -/
  comment : ¬ ['/', '*'] <:+: cs

variable {q : Char} {c c' : List Char}

theorem enclosed_append (q : Char) (c y z : List Char) :
    enclosed q c (y ++ z) = enclosed q c y ++ z := by
  rw [enclosed, enclosed, List.cons_append, List.append_assoc, List.cons_append]

theorem enclosed_nil (q : Char) (c : List Char) : enclosed q c [] = q :: (c ++ [q]) := rfl

theorem append_enclosed_ne_nil (x y : List Char) : x ++ enclosed q c y ≠ [] :=
  List.append_ne_nil_of_right_ne_nil _ (List.cons_ne_nil _ _)

theorem PlainContents.contents (h : PlainContents c) (hq : isQuote q = true) : Contents q c where
  quote := h.quote.not_mem hq
  closes := by
    have hescape : q ≠ '\\' := ne_of_class hq rfl
    have hend : statement? .plain [';'] = some ([], []) := rfl
    rw [statement?_quoted hescape (h.quote.not_mem hq) h.escape, hend]
    rfl
  comment := h.comment

theorem length_append_enclosed (q : Char) (u c v : List Char) :
    (u ++ enclosed q c v).length = u.length + 2 + c.length + v.length := by
  simp only [enclosed, List.length_append, List.length_cons]
  omega

/-- A mark that is not in the contents is in the text around the literal. -/
theorem contains_enclosed (hq : isQuote q = true) {mark : Char} (hmark : isQuote mark = false)
    (hc : mark ∉ c) (x y : List Char) :
    (x ++ enclosed q c y).contains mark = (x.contains mark || y.contains mark) := by
  have hquote : (mark == q) = false := beq_false_of_ne (ne_of_class hq hmark).symm
  rw [← List.contains_iff_mem, Bool.not_eq_true] at hc
  simp only [enclosed, List.contains_append, List.contains_cons, hquote, hc, Bool.false_or]

/-! ## Trimming -/

theorem not_allBlank_enclosed (hq : isQuote q = true) (x y : List Char) :
    allBlank (x ++ enclosed q c y) = false := by
  rw [allBlank, List.all_append, enclosed, List.all_cons, isBlank_of_isQuote hq, Bool.false_and,
    Bool.and_false]

theorem trimLeft_enclosed (hq : isQuote q = true) (x y : List Char) :
    trimLeft (x ++ enclosed q c y) = trimLeft x ++ enclosed q c y :=
  trimLeft_append_quote hq x _

/-- What a text ends with is trimmed behind a character that is not blank. -/
theorem trimRight_append_cons {d : Char} (hd : isBlank d = false) (x y : List Char) :
    trimRight (x ++ d :: y) = x ++ d :: trimRight y := by
  have hdrop : ∀ cs : List Char, (cs ++ d :: x.reverse).dropWhile isBlank =
      cs.dropWhile isBlank ++ d :: x.reverse := by
    intro cs
    induction cs with
    | nil => rw [List.nil_append, List.dropWhile_cons_of_neg (by simp [hd])]; rfl
    | cons c cs ih =>
      rw [List.cons_append, List.dropWhile_cons, List.dropWhile_cons]
      split
      · exact ih
      · rfl
  rw [trimRight, List.reverse_append, List.reverse_cons, List.append_assoc, List.singleton_append,
    hdrop, List.reverse_append, List.reverse_cons, List.reverse_reverse, List.append_assoc,
    List.singleton_append, trimRight]

theorem trimRight_enclosed (hq : isQuote q = true) (x y : List Char) :
    trimRight (x ++ enclosed q c y) = x ++ enclosed q c (trimRight y) := by
  have hblank := isBlank_of_isQuote hq
  rw [enclosed, trimRight_append_cons hblank, trimRight_append_cons hblank, enclosed]

theorem trim_enclosed (hq : isQuote q = true) (x y : List Char) :
    trim (x ++ enclosed q c y) = trimLeft x ++ enclosed q c (trimRight y) := by
  rw [trim, trimLeft_enclosed hq, trimRight_enclosed hq]

/-! ## Cutting -/

theorem splitFirst?_append_of_not_mem {mark : Char} {cs : List Char} (h : mark ∉ cs)
    (rest : List Char) : splitFirst? [mark] (cs ++ rest) =
      (splitFirst? [mark] rest).map fun r ↦ (cs ++ r.1, r.2) := by
  induction cs with
  | nil => exact Option.map_id'.symm
  | cons c cs ih =>
    rw [List.mem_cons, not_or] at h
    rw [List.cons_append, splitFirst?, after?, if_neg (by rw [beq_iff_eq]; exact h.1), ih h.2]
    dsimp only
    rw [Option.map_map]
    rfl

/-- The first mark of a text stays the first one whatever follows the text. -/
theorem splitFirst?_append_of_mem {mark : Char} {cs : List Char} (h : mark ∈ cs) :
    ∃ before after, ∀ rest, splitFirst? [mark] (cs ++ rest) = some (before, after ++ rest) := by
  obtain ⟨before, after, rfl, hbefore⟩ := List.eq_append_cons_of_mem h
  refine ⟨before, after, fun rest ↦ ?_⟩
  rw [List.append_assoc, List.cons_append]
  exact splitFirst?_append hbefore _

/-- A text is cut at the first mark. -/
theorem splitFirst?_eq_some {mark : Char} {cs before rest : List Char}
    (h : splitFirst? [mark] cs = some (before, rest)) :
    cs = before ++ mark :: rest ∧ mark ∉ before := by
  by_cases hmem : mark ∈ cs
  · obtain ⟨before', after, rfl, hbefore⟩ := List.eq_append_cons_of_mem hmem
    rw [splitFirst?_append hbefore] at h
    cases h
    exact ⟨rfl, hbefore⟩
  · have hnone := splitFirst?_append_of_not_mem hmem []
    rw [List.append_nil, h] at hnone
    cases hnone

theorem eq_append_of_splitFirst? {mark : Char} {cs before rest : List Char}
    (h : splitFirst? [mark] cs = some (before, rest)) : cs = before ++ mark :: rest :=
  (splitFirst?_eq_some h).1

/-- A mark that neither stands before a literal nor in it is looked for behind the literal. -/
theorem splitFirst?_enclosed {mark : Char} {x : List Char} (hx : mark ∉ x) (hmark : mark ≠ q)
    (hc : mark ∉ c) (y : List Char) : splitFirst? [mark] (x ++ enclosed q c y) =
      (splitFirst? [mark] y).map fun r ↦ (x ++ enclosed q c r.1, r.2) := by
  have hnot : mark ∉ x ++ q :: (c ++ [q]) := by
    simp only [List.mem_append, List.mem_cons, List.not_mem_nil, or_false, not_or]
    exact ⟨hx, hmark, hc, hmark⟩
  have htext : ∀ ys, x ++ enclosed q c ys = x ++ q :: (c ++ [q]) ++ ys := by
    intro ys
    rw [List.append_assoc, ← enclosed_nil, ← enclosed_append, List.nil_append]
  rw [htext, splitFirst?_append_of_not_mem hnot]
  refine Option.map_congr fun r _ ↦ ?_
  rw [← htext]

/-- The last field of a text goes on in what follows the text. -/
theorem exists_fields_append (sep : Char → Bool) (cs : List Char) :
    ∃ fs x, ∀ {rest w ws}, fields sep rest = w :: ws →
      fields sep (cs ++ rest) = fs ++ (x ++ w) :: ws := by
  induction cs with
  | nil => exact ⟨[], [], fun h ↦ h⟩
  | cons c cs ih =>
    obtain ⟨fs, x, ih⟩ := ih
    by_cases hc : sep c = true
    · refine ⟨[] :: fs, x, fun h ↦ ?_⟩
      rw [List.cons_append, fields_cons_of_sep hc, ih h, List.cons_append]
    · have hcs : ∀ d ∈ [c], sep d = false :=
        List.forall_mem_singleton.mpr (Bool.eq_false_iff.mpr hc)
      cases fs with
      | nil =>
        refine ⟨[], c :: x, fun h ↦ ?_⟩
        exact fields_append hcs (ih h)
      | cons f fs =>
        refine ⟨(c :: f) :: fs, x, fun h ↦ ?_⟩
        exact fields_append hcs (ih h)

/-- A literal without separators stands in one field, the last one of the text before it. -/
theorem exists_fields_enclosed {sep : Char → Bool} (hq : sep q = false) (a b : List Char) :
    ∃ fs x y gs, fields sep a = fs ++ [x] ∧ ∀ {c}, (∀ d ∈ c, sep d = false) →
      fields sep (a ++ enclosed q c b) = fs ++ (x ++ enclosed q c y) :: gs := by
  obtain ⟨fs, x, hfields⟩ := exists_fields_append sep a
  have hlast : fields sep (a ++ []) = fs ++ [x ++ []] := hfields rfl
  rw [List.append_nil, List.append_nil] at hlast
  cases hb : fields sep b with
  | nil => exact absurd hb (fields_ne_nil sep b)
  | cons y gs =>
    refine ⟨fs, x, y, gs, hlast, fun {c} hc ↦ hfields ?_⟩
    have hliteral : ∀ d ∈ enclosed q c [], sep d = false := by
      intro d hd
      rw [enclosed_nil, List.mem_cons, List.mem_append, List.mem_singleton] at hd
      rcases hd with rfl | hd | rfl
      · exact hq
      · exact hc d hd
      · exact hq
    have h := fields_append hliteral hb
    rwa [← enclosed_append, ← enclosed_append, List.nil_append, List.nil_append] at h

/-! ## Members -/

/-- What follows a text begins a member. -/
def BeginsMember (cs : List Char) : Prop :=
  (fields (· == '|') cs).getLast?.all allBlank = true

instance (cs : List Char) : Decidable (BeginsMember cs) :=
  inferInstanceAs (Decidable (_ = true))

/-- A literal without bars stands in one member, and if it begins the member, there are only blanks
before it. -/
theorem exists_members_enclosed (hq : isQuote q = true) (a b : List Char) :
    ∃ fs x y gs, (BeginsMember a → trimLeft x = []) ∧ ∀ {c}, '|' ∉ c →
      fields (· == '|') (a ++ enclosed q c b) = fs ++ (x ++ enclosed q c y) :: gs := by
  have hbar : (q == '|') = false := beq_false_of_ne (ne_of_class hq rfl)
  obtain ⟨fs, x, y, gs, hlast, hfields⟩ := @exists_fields_enclosed q (· == '|') hbar a b
  refine ⟨fs, x, y, gs, fun hbegins ↦ ?_, fun hc ↦ hfields fun d hd ↦ ?_⟩
  · rw [BeginsMember, hlast, List.getLast?_concat, Option.all_some] at hbegins
    exact List.dropWhile_eq_nil_iff.mpr (List.all_eq_true.mp hbegins)
  · rw [beq_eq_false_iff_ne]
    rintro rfl
    exact hc hd

theorem literal?_enclosed (hq : isQuote q = true) (hc : Contents q c) (y : List Char) :
    literal? (enclosed q c y) = some (c, y) := by
  rw [enclosed, literal?, if_pos hq]
  exact splitFirst?_append hc.quote y

/-- A member that begins with a literal is the literal, or it is none. -/
theorem literalContents?_enclosed_nil (hq : isQuote q = true) (hc : Contents q c) (y : List Char) :
    literalContents? (enclosed q c y) = if y.isEmpty then some c else none := by
  rw [literalContents?, literal?_enclosed hq hc]
  cases y <;> rfl

/-- What a member with a literal behind other characters stands for: nothing, or contents that the
literal is a part of, if it does not hold the quotes of the member. -/
theorem literalContents?_enclosed_cons (hq : isQuote q = true) (d : Char) (x y : List Char) :
    (∀ {c}, literalContents? (d :: x ++ enclosed q c y) = none) ∨
    (isQuote d = true ∧ (∀ {c}, d ∈ c → literalContents? (d :: x ++ enclosed q c y) = none) ∧
      ((∀ {c}, d ∉ c → literalContents? (d :: x ++ enclosed q c y) = none) ∨
        ∃ b, ∀ {c}, d ∉ c →
          literalContents? (d :: x ++ enclosed q c y) = some (x ++ enclosed q c b))) := by
  by_cases hd : isQuote d = true
  · have hliteral : ∀ c, literal? (d :: x ++ enclosed q c y) =
        splitFirst? [d] (x ++ enclosed q c y) := fun c ↦ by rw [List.cons_append, literal?, if_pos hd]
    by_cases hx : d ∈ x
    · -- the literal that is read ends before this one
      obtain ⟨before, after, hsplit⟩ := splitFirst?_append_of_mem hx
      left
      intro c
      rw [literalContents?, hliteral, hsplit]
      cases hrest : after ++ enclosed q c y with
      | nil => exact absurd hrest (append_enclosed_ne_nil after y)
      | cons e rest => rfl
    by_cases heq : d = q
    · subst heq
      left
      intro c
      rw [literalContents?, hliteral, enclosed, splitFirst?_append hx]
      cases hrest : c ++ d :: y with
      | nil => exact absurd hrest (List.append_ne_nil_of_right_ne_nil _ (List.cons_ne_nil _ _))
      | cons e rest => rfl
    · refine .inr ⟨hd, fun {c} hmem ↦ ?_, ?_⟩
      · -- the literal that is read ends in this one
        obtain ⟨before, after, hsplit⟩ :=
          splitFirst?_append_of_mem (List.mem_append_right x (List.mem_cons_of_mem q hmem))
        have htext : x ++ enclosed q c y = x ++ q :: c ++ q :: y := by
          rw [enclosed, List.append_assoc, List.cons_append]
        rw [literalContents?, hliteral, htext, hsplit]
        cases hrest : after ++ q :: y with
        | nil => exact absurd hrest (List.append_ne_nil_of_right_ne_nil _ (List.cons_ne_nil _ _))
        | cons e rest => rfl
      · have hsplit : ∀ {c}, d ∉ c → literal? (d :: x ++ enclosed q c y) =
            (splitFirst? [d] y).map fun r ↦ (x ++ enclosed q c r.1, r.2) := fun hmem ↦ by
          rw [hliteral, splitFirst?_enclosed hx heq hmem]
        rcases hy : splitFirst? [d] y with _ | ⟨b, _ | ⟨e, rest⟩⟩
        · exact .inl fun hmem ↦ by rw [literalContents?, hsplit hmem, hy]; rfl
        · exact .inr ⟨b, fun hmem ↦ by rw [literalContents?, hsplit hmem, hy]; rfl⟩
        · exact .inl fun hmem ↦ by rw [literalContents?, hsplit hmem, hy]; rfl
  · have hliteral : ∀ c, literal? (d :: x ++ enclosed q c y) = none := fun c ↦ by
      rw [List.cons_append, literal?, if_neg hd]
    exact .inl fun {c} ↦ by rw [literalContents?, hliteral]

/-- A member with a literal in it that is a literal is one with other contents, if these are plain. -/
theorem isSome_literalContents?_of_isSome (hq : isQuote q = true) (hc : Contents q c)
    (hc' : PlainContents c') {x y : List Char}
    (h : (literalContents? (x ++ enclosed q c y)).isSome = true) :
    (literalContents? (x ++ enclosed q c' y)).isSome = true := by
  cases x with
  | nil =>
    rw [List.nil_append, literalContents?_enclosed_nil hq hc] at h
    rw [List.nil_append, literalContents?_enclosed_nil hq (hc'.contents hq)]
    split at h
    · next hy =>
      rw [if_pos hy]
      rfl
    · cases h
  | cons d x =>
    rcases literalContents?_enclosed_cons hq d x y with hnone | ⟨hd, hin, hnone | ⟨b, hout⟩⟩
    · rw [hnone] at h
      cases h
    · by_cases hmem : d ∈ c
      · rw [hin hmem] at h
        cases h
      · rw [hnone hmem] at h
        cases h
    · rw [hout (hc'.quote.not_mem hd)]
      rfl

/-- What a member that begins with a literal stands for, and any member with a literal in it if the
contents hold no quotes, with other contents that are plain: nothing, or the contents of the literal,
or contents that it is a part of. -/
theorem literalContents?_enclosed (hq : isQuote q = true) (hc : Contents q c)
    (hc' : PlainContents c') {x : List Char} (hx : x = [] ∨ QuoteFree c)
    (y : List Char) :
    (literalContents? (x ++ enclosed q c y) = none ∧
      literalContents? (x ++ enclosed q c' y) = none) ∨
    (literalContents? (x ++ enclosed q c y) = some c ∧
      literalContents? (x ++ enclosed q c' y) = some c') ∨
    ∃ a b, literalContents? (x ++ enclosed q c y) = some (a ++ enclosed q c b) ∧
      literalContents? (x ++ enclosed q c' y) = some (a ++ enclosed q c' b) := by
  cases x with
  | nil =>
    rw [List.nil_append, List.nil_append, literalContents?_enclosed_nil hq hc,
      literalContents?_enclosed_nil hq (hc'.contents hq)]
    split
    · exact .inr (.inl ⟨rfl, rfl⟩)
    · exact .inl ⟨rfl, rfl⟩
  | cons d x =>
    have hfree := hx.resolve_left (List.cons_ne_nil d x)
    rcases literalContents?_enclosed_cons hq d x y with hnone | ⟨hd, -, hnone | ⟨b, hout⟩⟩
    · exact .inl ⟨hnone, hnone⟩
    · exact .inl ⟨hnone (hfree.not_mem hd), hnone (hc'.quote.not_mem hd)⟩
    · exact .inr (.inr ⟨x, b, hout (hfree.not_mem hd), hout (hc'.quote.not_mem hd)⟩)

theorem isSome_literalContents?_enclosed (hq : isQuote q = true) (hc : Contents q c)
    (hc' : PlainContents c') {x : List Char} (hx : x = [] ∨ QuoteFree c)
    (y : List Char) : (literalContents? (x ++ enclosed q c y)).isSome =
      (literalContents? (x ++ enclosed q c' y)).isSome := by
  rcases literalContents?_enclosed hq hc hc' hx y with ⟨h, h'⟩ | ⟨h, h'⟩ | ⟨a, b, h, h'⟩
  · rw [h, h']
  · rw [h, h']
    rfl
  · rw [h, h']
    rfl

/-- No text with a literal in it is a name. -/
theorem isIdent_enclosed (hq : isQuote q = true) (x y : List Char) :
    isIdent (x ++ enclosed q c y) = false := by
  rw [Bool.eq_false_iff]
  intro h
  have hmem : q ∈ x ++ enclosed q c y := List.mem_append_right x List.mem_cons_self
  exact ne_of_class (isIdentRest_of_isIdent h q hmem) (isIdentRest_of_isQuote hq) rfl

end DiagramForge.Grammar
