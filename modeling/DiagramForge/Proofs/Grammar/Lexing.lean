import DiagramForge.Grammar.Parse

/-!
# Reading what has been written

What the recognisers of lexemes, the trimming of blanks and the cutting into fields do on a text
that begins as they expect, whatever follows. A text is put together from pieces with `++`, and
each lemma here takes one piece off its front.

## Where a piece ends

A recogniser takes as much as it can, so a piece is read back only if what follows does not
continue it. `Breaks` says this of identifiers. Blanks around a piece are dropped if the piece is
`Firm`: it neither begins nor ends with a blank.
-/

namespace DiagramForge.Grammar

open Text

/-! ## Characters -/

theorem isBlank_eq_false_of_visible {c : Char} (hlow : 33 ≤ c.toNat) (hhigh : c.toNat < 128) :
    isBlank c = false := by
  rw [Bool.eq_false_iff]
  intro h
  simp only [isBlank, Bool.or_eq_true, Bool.and_eq_true, decide_eq_true_eq, beq_iff_eq] at h
  omega

theorem isIdentRest_of_isIdentStart {c : Char} (h : isIdentStart c = true) :
    isIdentRest c = true := by
  rw [isIdentStart, Bool.or_eq_true] at h
  rw [isIdentRest, Char.isAlphanum, Bool.or_eq_true, Bool.or_eq_true]
  exact h.imp_left .inl

theorem isBlank_of_isIdentRest {c : Char} (h : isIdentRest c = true) : isBlank c = false := by
  have hbounds : 48 ≤ c.toNat ∧ c.toNat ≤ 122 := by
    change (((decide (c.val ≥ 'A'.val ∧ c.val ≤ 'Z'.val) || (c.val ≥ 'a'.val && c.val ≤ 'z'.val))
      || (c.val ≥ '0'.val && c.val ≤ '9'.val)) || c == '_') = true at h
    simp only [Bool.or_eq_true, Bool.and_eq_true, decide_eq_true_eq, beq_iff_eq, ge_iff_le,
      UInt32.le_iff_toNat_le] at h
    rw [Char.toNat]
    rcases h with ((h | h) | h) | rfl
    · exact ⟨Nat.le_trans (by decide) h.1, Nat.le_trans h.2 (by decide)⟩
    · exact ⟨Nat.le_trans (by decide) h.1, h.2⟩
    · exact ⟨h.1, Nat.le_trans h.2 (by decide)⟩
    · decide
  exact isBlank_eq_false_of_visible (by omega) (by omega)

/-- A character of which something is known is not one of which it is false. -/
theorem ne_of_class {p : Char → Bool} {c d : Char} (hc : p c = true) (hd : p d = false) :
    c ≠ d := by
  rintro rfl
  rw [hc] at hd
  cases hd

/-! ## Trimming -/

/-- A text begins with a character that is not blank. -/
def StartsFirm (cs : List Char) : Prop :=
  ∃ c rest, cs = c :: rest ∧ isBlank c = false

/-- A text neither begins nor ends with a blank, and it is not empty. -/
structure Firm (cs : List Char) : Prop where
  /-- It does not begin with a blank. -/
  start : StartsFirm cs
  /-- It does not end with a blank. -/
  stop : StartsFirm cs.reverse

theorem StartsFirm.append {cs : List Char} (h : StartsFirm cs) (ds : List Char) :
    StartsFirm (cs ++ ds) := by
  obtain ⟨c, rest, rfl, hc⟩ := h
  exact ⟨c, rest ++ ds, rfl, hc⟩

/-- A text is firm if its first and its last piece are. -/
theorem Firm.append {cs ds : List Char} (hcs : StartsFirm cs) (hds : StartsFirm ds.reverse) :
    Firm (cs ++ ds) := by
  refine ⟨hcs.append ds, ?_⟩
  rw [List.reverse_append]
  exact hds.append _

theorem StartsFirm.not_allBlank {cs : List Char} (h : StartsFirm cs) : allBlank cs = false := by
  obtain ⟨c, rest, rfl, hc⟩ := h
  rw [allBlank, List.all_cons, hc, Bool.false_and]

theorem trimLeft_append (blanks : List Char) {cs : List Char} (hblanks : allBlank blanks = true)
    (hcs : StartsFirm cs) : trimLeft (blanks ++ cs) = cs := by
  obtain ⟨c, rest, rfl, hc⟩ := hcs
  induction blanks with
  | nil => rw [List.nil_append, trimLeft, List.dropWhile_cons_of_neg (by rw [hc]; decide)]
  | cons b blanks ih =>
    rw [allBlank, List.all_cons, Bool.and_eq_true] at hblanks
    rw [List.cons_append, trimLeft, List.dropWhile_cons_of_pos hblanks.1]
    exact ih hblanks.2

theorem trimLeft_of_startsFirm {cs : List Char} (h : StartsFirm cs) : trimLeft cs = cs :=
  trimLeft_append [] rfl h

theorem allBlank_reverse (cs : List Char) : allBlank cs.reverse = allBlank cs := List.all_reverse

/-- Trimming drops the blanks around a firm text. -/
theorem trim_append (before after : List Char) {cs : List Char} (hbefore : allBlank before = true)
    (hcs : Firm cs) (hafter : allBlank after = true) : trim (before ++ (cs ++ after)) = cs := by
  rw [trim, trimLeft_append before hbefore (hcs.start.append _)]
  change (trimLeft (cs ++ after).reverse).reverse = cs
  rw [List.reverse_append, trimLeft_append _ (by rw [allBlank_reverse, hafter]) hcs.stop,
    List.reverse_reverse]

theorem startsFirm_of_trimLeft {cs : List Char} (h : trimLeft cs = cs) (hne : cs ≠ []) :
    StartsFirm cs := by
  cases cs with
  | nil => exact absurd rfl hne
  | cons c cs =>
    refine ⟨c, cs, rfl, ?_⟩
    rw [Bool.eq_false_iff]
    intro hc
    rw [trimLeft, List.dropWhile_cons_of_pos hc] at h
    have hle := length_trimLeft_le cs
    rw [trimLeft, h, List.length_cons] at hle
    omega

/-- A text that trimming leaves alone is firm. -/
theorem firm_of_trim {cs : List Char} (h : trim cs = cs) (hne : cs ≠ []) : Firm cs := by
  have hright : (trim cs).length ≤ (trimLeft cs).length := by
    have hle := length_trimLeft_le (trimLeft cs).reverse
    rw [List.length_reverse] at hle
    rw [trim, trimRight, List.length_reverse]
    exact hle
  have hleft : trimLeft cs = cs := by
    refine (List.dropWhile_suffix isBlank).eq_of_length (Nat.le_antisymm (length_trimLeft_le cs) ?_)
    rw [h] at hright
    exact hright
  refine ⟨startsFirm_of_trimLeft hleft hne, ?_⟩
  rw [trim, hleft, trimRight] at h
  refine startsFirm_of_trimLeft ?_ (fun hnil ↦ hne (List.reverse_eq_nil_iff.mp hnil))
  rw [← List.reverse_inj, trimLeft, h, List.reverse_reverse]

theorem trim_of_firm {cs : List Char} (h : Firm cs) : trim cs = cs := by
  have htrim := trim_append [] [] rfl h rfl
  rwa [List.nil_append, List.append_nil] at htrim

/-! ## Lexemes -/

theorem after?_append (start rest : List Char) : after? start (start ++ rest) = some rest := by
  induction start with
  | nil => rw [List.nil_append, after?]
  | cons c start ih =>
    rw [List.cons_append, after?, if_pos (beq_self_eq_true c)]
    exact ih

/-- An identifier ends where the text begins. -/
def Breaks (cs : List Char) : Prop :=
  ∀ c rest, cs = c :: rest → isIdentRest c = false

theorem breaks_cons {c : Char} {cs : List Char} (h : isIdentRest c = false) : Breaks (c :: cs) := by
  rintro _ _ heq
  cases heq
  exact h

theorem takeWhile_append_of_all {p : Char → Bool} {cs rest : List Char}
    (hcs : ∀ c ∈ cs, p c = true) (hrest : ∀ c more, rest = c :: more → p c = false) :
    (cs ++ rest).takeWhile p = cs ∧ (cs ++ rest).dropWhile p = rest := by
  rw [List.takeWhile_append_of_pos hcs, List.dropWhile_append_of_pos hcs]
  cases rest with
  | nil => exact ⟨List.append_nil _, rfl⟩
  | cons c more =>
    have hc : ¬ p c = true := Bool.eq_false_iff.mp (hrest c more rfl)
    rw [List.takeWhile_cons_of_neg hc, List.dropWhile_cons_of_neg hc, List.append_nil]
    exact ⟨rfl, rfl⟩

/-- An identifier is read back if what follows breaks it off. -/
theorem ident?_append {name rest : List Char} (hname : isIdent name = true)
    (hrest : Breaks rest) : ident? (name ++ rest) = some (name, rest) := by
  cases name with
  | nil => cases hname
  | cons c cs =>
    rw [isIdent, Bool.and_eq_true, List.all_eq_true] at hname
    obtain ⟨htake, hdrop⟩ := takeWhile_append_of_all hname.2 hrest
    rw [List.cons_append, ident?, if_pos hname.1, htake, hdrop]

theorem isIdentRest_of_isIdent {name : List Char} (h : isIdent name = true) :
    ∀ c ∈ name, isIdentRest c = true := by
  cases name with
  | nil => exact nofun
  | cons d cs =>
    rw [isIdent, Bool.and_eq_true, List.all_eq_true] at h
    exact List.forall_mem_cons.mpr ⟨isIdentRest_of_isIdentStart h.1, h.2⟩

theorem firm_of_isIdentRest {c : Char} {cs : List Char}
    (h : ∀ d ∈ c :: cs, isIdentRest d = true) : Firm (c :: cs) := by
  refine ⟨⟨c, cs, rfl, isBlank_of_isIdentRest (h c List.mem_cons_self)⟩, ?_⟩
  cases hreverse : (c :: cs).reverse with
  | nil => cases List.reverse_eq_nil_iff.mp hreverse
  | cons d ds =>
    have hd : d ∈ c :: cs := by
      rw [← List.mem_reverse, hreverse]
      exact List.mem_cons_self
    exact ⟨d, ds, rfl, isBlank_of_isIdentRest (h d hd)⟩

theorem firm_of_isIdent {name : List Char} (h : isIdent name = true) : Firm name := by
  cases name with
  | nil => cases h
  | cons c cs => exact firm_of_isIdentRest (isIdentRest_of_isIdent h)

/-- A keyword is read back with the blank after it. -/
theorem keyword?_append {word : String} {rest : List Char} (hrest : StartsFirm rest) :
    keyword? word (word.toList ++ ' ' :: rest) = some rest := by
  rw [keyword?, after?_append]
  exact congrArg some (trimLeft_of_startsFirm hrest)

theorem mark?_cons {mark : Char} (blanks : List Char) {rest : List Char}
    (hblanks : allBlank blanks = true) (hmark : isBlank mark = false) :
    mark? mark (blanks ++ mark :: rest) = some rest := by
  rw [mark?, trimLeft_append blanks hblanks ⟨mark, rest, rfl, hmark⟩]
  exact after?_append [mark] rest

/-- A mark is not read where another character stands. -/
theorem mark?_eq_none {mark c : Char} (blanks : List Char) {rest : List Char}
    (hblanks : allBlank blanks = true) (hc : isBlank c = false) (hne : mark ≠ c) :
    mark? mark (blanks ++ c :: rest) = none := by
  rw [mark?, trimLeft_append blanks hblanks ⟨c, rest, rfl, hc⟩, after?,
    if_neg (by rwa [beq_iff_eq])]

/-- The first mark is the one behind a text without marks. -/
theorem splitFirst?_append {mark : Char} {cs : List Char} (hcs : mark ∉ cs) (rest : List Char) :
    splitFirst? [mark] (cs ++ mark :: rest) = some (cs, rest) := by
  induction cs with
  | nil => rw [List.nil_append, splitFirst?, after?, if_pos (beq_self_eq_true mark), after?]
  | cons c cs ih =>
    rw [List.mem_cons, not_or] at hcs
    obtain ⟨hne, hcs⟩ := hcs
    rw [List.cons_append, splitFirst?, after?, if_neg (by rwa [beq_iff_eq]), ih hcs]
    rfl

/-- Reads the operator of the assignment in an action. -/
def actionOperator? (cs : List Char) : Option (Bool × List Char) :=
  match after? ['+', '='] cs with
  | some rest => some (true, rest)
  | none => (after? ['='] cs).map (false, ·)

/-! ## Fields -/

theorem fields_cons_of_sep {sep : Char → Bool} {c : Char} (hc : sep c = true) (cs : List Char) :
    fields sep (c :: cs) = [] :: fields sep cs := by
  rw [fields]
  cases hcs : fields sep cs with
  | nil => exact absurd hcs (fields_ne_nil sep cs)
  | cons w ws => exact if_pos hc

theorem fields_cons_of_not_sep {sep : Char → Bool} {c : Char} {cs w : List Char}
    {ws : List (List Char)} (hc : sep c = false) (hcs : fields sep cs = w :: ws) :
    fields sep (c :: cs) = (c :: w) :: ws := by
  rw [fields, hcs]
  exact if_neg (Bool.eq_false_iff.mp hc)

/-- A text without separators lengthens the first field of what follows it. -/
theorem fields_append {sep : Char → Bool} {cs rest : List Char} {w : List Char}
    {ws : List (List Char)} (hcs : ∀ c ∈ cs, sep c = false) (hrest : fields sep rest = w :: ws) :
    fields sep (cs ++ rest) = (cs ++ w) :: ws := by
  induction cs with
  | nil => exact hrest
  | cons c cs ih =>
    obtain ⟨hc, hcs⟩ := List.forall_mem_cons.mp hcs
    exact fields_cons_of_not_sep hc (ih hcs)

theorem fields_append_of_sep {sep : Char → Bool} {cs rest : List Char} {c : Char}
    (hcs : ∀ d ∈ cs, sep d = false) (hc : sep c = true) :
    fields sep (cs ++ c :: rest) = cs :: fields sep rest := by
  rw [fields_append hcs (fields_cons_of_sep hc rest), List.append_nil]

theorem fields_of_not_sep {sep : Char → Bool} {cs : List Char} (hcs : ∀ c ∈ cs, sep c = false) :
    fields sep cs = [cs] := by
  have hfields : fields sep (cs ++ []) = (cs ++ []) :: [] := fields_append hcs rfl
  rwa [List.append_nil] at hfields

/-- A text is its first field, or it goes on behind a separator. -/
theorem exists_of_fields {sep : Char → Bool} {cs w : List Char} {ws : List (List Char)}
    (h : fields sep cs = w :: ws) :
    (cs = w ∧ ws = []) ∨ ∃ c rest, sep c = true ∧ cs = w ++ c :: rest ∧ fields sep rest = ws := by
  induction cs generalizing w ws with
  | nil =>
    obtain ⟨rfl, rfl⟩ := List.cons.inj h
    exact .inl ⟨rfl, rfl⟩
  | cons c cs ih =>
    by_cases hc : sep c = true
    · rw [fields_cons_of_sep hc] at h
      obtain ⟨rfl, hws⟩ := List.cons.inj h
      exact .inr ⟨c, cs, hc, rfl, hws⟩
    · obtain ⟨v, vs, hcs⟩ := List.exists_cons_of_ne_nil (fields_ne_nil sep cs)
      rw [fields_cons_of_not_sep (Bool.eq_false_iff.mpr hc) hcs] at h
      obtain ⟨rfl, rfl⟩ := List.cons.inj h
      rcases ih hcs with ⟨rfl, rfl⟩ | ⟨d, rest, hd, rfl, hrest⟩
      · exact .inl ⟨rfl, rfl⟩
      · exact .inr ⟨d, rest, hd, rfl, hrest⟩

/-- There is no separator in a field. -/
theorem not_sep_of_mem_fields {sep : Char → Bool} {cs f : List Char} (hf : f ∈ fields sep cs) :
    ∀ c ∈ f, sep c = false := by
  induction cs generalizing f with
  | nil =>
    obtain rfl := List.mem_singleton.mp hf
    exact List.forall_mem_nil _
  | cons c cs ih =>
    by_cases hc : sep c = true
    · rw [fields_cons_of_sep hc] at hf
      rcases List.mem_cons.mp hf with rfl | hf
      · exact List.forall_mem_nil _
      · exact ih hf
    · obtain ⟨w, ws, hcs⟩ := List.exists_cons_of_ne_nil (fields_ne_nil sep cs)
      have hc := Bool.eq_false_iff.mpr hc
      rw [hcs] at ih
      rw [fields_cons_of_not_sep hc hcs, List.mem_cons] at hf
      rcases hf with rfl | hf
      · exact List.forall_mem_cons.mpr ⟨hc, ih List.mem_cons_self⟩
      · exact ih (List.mem_cons_of_mem _ hf)

/-- A text is its fields with the marks between them. -/
theorem eq_append_of_fields {mark : Char} {cs w : List Char} {ws : List (List Char)}
    (h : fields (· == mark) cs = w :: ws) : cs = w ++ ws.flatMap (mark :: ·) := by
  induction cs generalizing w ws with
  | nil =>
    obtain ⟨rfl, rfl⟩ := List.cons.inj h
    rfl
  | cons c cs ih =>
    cases hcs : fields (· == mark) cs with
    | nil => exact absurd hcs (fields_ne_nil _ cs)
    | cons v vs =>
      have htail := ih hcs
      rw [fields, hcs] at h
      dsimp only at h
      split at h
      next hc =>
        obtain ⟨rfl, rfl⟩ := List.cons.inj h
        rw [eq_of_beq hc, htail]
        rfl
      next =>
        obtain ⟨rfl, rfl⟩ := List.cons.inj h
        rw [htail]
        rfl

/-! ## Texts put together -/

/-- What holds of texts put together from texts it holds of holds of all texts in a row. -/
theorem flatMap_closed {P : List Char → Prop} (hnil : P [])
    (happend : ∀ {cs ds}, P cs → P ds → P (cs ++ ds)) {α : Type} {f : α → List Char} {as : List α}
    (h : ∀ a ∈ as, P (f a)) : P (as.flatMap f) := by
  induction as with
  | nil => exact hnil
  | cons a as ih =>
    obtain ⟨ha, has⟩ := List.forall_mem_cons.mp h
    rw [List.flatMap_cons]
    exact happend ha (ih has)

/-! ## Texts without block comments -/

/-- No block comment begins in a text, and none can begin with its first character. -/
structure Plain (cs : List Char) : Prop where
  /-- No block comment begins in it. -/
  inside : ¬ ['/', '*'] <:+: cs
  /-- A slash before it begins no block comment. -/
  start : cs.head? ≠ some '*'

theorem plain_nil : Plain [] :=
  ⟨fun h ↦ absurd h.length_le (by decide), nofun⟩

theorem plain_of_not_mem {cs : List Char} (h : '*' ∉ cs) : Plain cs := by
  refine ⟨fun hopens ↦ h (hopens.subset (by decide)), fun hhead ↦ h ?_⟩
  exact List.mem_of_head? hhead

theorem plain_of_class {p : Char → Bool} (hp : p '*' = false) {cs : List Char}
    (h : ∀ c ∈ cs, p c = true) : Plain cs :=
  plain_of_not_mem fun hmem ↦ ne_of_class (h '*' hmem) hp rfl

/-- A character other than the star and the slash may stand before any text without comments. -/
theorem plain_cons {c : Char} {cs : List Char} (hstar : c ≠ '*') (hslash : c ≠ '/')
    (h : ¬ ['/', '*'] <:+: cs) : Plain (c :: cs) := by
  refine ⟨fun hopens ↦ ?_, fun hhead ↦ hstar (Option.some.inj hhead)⟩
  rcases List.infix_cons_iff.mp hopens with hstart | hinside
  · exact hslash (List.cons_prefix_cons.mp hstart).1.symm
  · exact h hinside

/-- No block comment begins where two texts meet. -/
theorem not_infix_append {cs ds : List Char} (hcs : ¬ ['/', '*'] <:+: cs) (hds : Plain ds) :
    ¬ ['/', '*'] <:+: cs ++ ds := by
  induction cs with
  | nil => exact hds.inside
  | cons c cs ih =>
    have htail : ¬ ['/', '*'] <:+: cs := fun hopens ↦ hcs (List.infix_cons hopens)
    intro hopens
    rcases List.infix_cons_iff.mp hopens with hstart | hinside
    · -- the slash is in front, so the star is next to it or where the texts meet
      obtain ⟨rfl, hstar⟩ := List.cons_prefix_cons.mp hstart
      cases cs with
      | nil =>
        have hhead := (List.prefix_iff_eq_append.mp hstar).symm
        exact hds.start (List.head?_eq_some_iff.mpr ⟨_, hhead⟩)
      | cons d cs =>
        obtain ⟨rfl, -⟩ := List.cons_prefix_cons.mp hstar
        exact hcs (List.prefix_append ['/', '*'] cs).isInfix
    · exact ih htail hinside

theorem Plain.append {cs ds : List Char} (hcs : Plain cs) (hds : Plain ds) : Plain (cs ++ ds) := by
  refine ⟨not_infix_append hcs.inside hds, ?_⟩
  cases cs with
  | nil => exact hds.start
  | cons c cs => exact hcs.start

/-- A text without block comments is left as it is. -/
theorem blankCommentsFrom_of_plain {cs : List Char} (h : ¬ ['/', '*'] <:+: cs) (offset : Nat) :
    blankCommentsFrom none offset cs = .ok cs := by
  induction cs generalizing offset with
  | nil => rfl
  | cons c cs ih =>
    cases cs with
    | nil => rfl
    | cons d cs =>
      have htail : ¬ ['/', '*'] <:+: d :: cs := fun hopens ↦ h (List.infix_cons hopens)
      have hopen : ¬ (c == '/' && d == '*') = true := by
        rw [Bool.and_eq_true, beq_iff_eq, beq_iff_eq]
        rintro ⟨rfl, rfl⟩
        exact h (List.prefix_append ['/', '*'] cs).isInfix
      rw [blankCommentsFrom, if_neg hopen, ih htail]
      rfl

end DiagramForge.Grammar
