import DiagramForge.Proofs.Grammar.Lexing
import DiagramForge.Proofs.Grammar.Written

/-!
# Reading an alias

An alias in the customary layout is read from its text, whatever follows it:
`Written.Alias.aliasAt?_text`.

The statement of an alias ends at its first semicolon outside literals, so each piece of it must
bring the reader back to where it was: outside literals and comments. `Passes` says that a piece
does, and it is closed under putting pieces together.
-/

namespace DiagramForge.Grammar

open Text

/-! ## Statements -/

/-- The reading of a statement passes over a text and is outside literals and comments behind
it. -/
def Passes (cs : List Char) : Prop :=
  ∀ rest, statement? .plain (cs ++ rest) =
    (statement? .plain rest).map fun r ↦ (cs ++ r.1, r.2)

theorem passes_nil : Passes [] := by
  intro rest
  rw [List.nil_append]
  exact Option.map_id'.symm

theorem Passes.append {cs ds : List Char} (hcs : Passes cs) (hds : Passes ds) :
    Passes (cs ++ ds) := by
  intro rest
  rw [List.append_assoc, hcs, hds, Option.map_map]
  refine Option.map_congr fun r _ ↦ ?_
  rw [Function.comp_apply, List.append_assoc]

/-- A character that begins no literal and no comment and ends no statement is passed over. -/
theorem passes_singleton {c : Char} (hquote : isQuote c = false) (hend : c ≠ ';')
    (hslash : c ≠ '/') : Passes [c] := by
  intro rest
  have hmode : modeAfter c rest = .plain := by
    have hcomment : ¬ (c == '/' && rest.head? == some '/') = true := by
      rw [Bool.and_eq_true, beq_iff_eq]
      exact fun h ↦ hslash h.1
    rw [modeAfter, if_neg (Bool.eq_false_iff.mp hquote), if_neg hcomment]
  rw [List.singleton_append, statement?, if_neg (by rwa [beq_iff_eq]), hmode]
  rfl

theorem passes_of_forall {cs : List Char}
    (h : ∀ c ∈ cs, isQuote c = false ∧ c ≠ ';' ∧ c ≠ '/') : Passes cs := by
  induction cs with
  | nil => exact passes_nil
  | cons c cs ih =>
    obtain ⟨⟨hquote, hend, hslash⟩, hcs⟩ := List.forall_mem_cons.mp h
    exact (passes_singleton hquote hend hslash).append (ih hcs)

/-- Inside a literal everything is passed over but its quote and an escape. -/
theorem statement?_quoted {q : Char} {cs : List Char} (hq : q ≠ '\\') (hquote : q ∉ cs)
    (hescape : '\\' ∉ cs) (rest : List Char) :
    statement? (.quoted q) (cs ++ q :: rest) =
      (statement? .plain rest).map fun r ↦ (cs ++ q :: r.1, r.2) := by
  induction cs with
  | nil =>
    rw [List.nil_append, statement?, if_pos (beq_self_eq_true q)]
    · rfl
    · exact fun _ _ heq _ ↦ hq heq
  | cons c cs ih =>
    rw [List.mem_cons, not_or] at hquote hescape
    rw [List.cons_append, statement?, if_neg (by rw [beq_iff_eq]; exact Ne.symm hquote.1),
      ih hquote.2 hescape.2, Option.map_map]
    · rfl
    · exact fun _ _ heq _ ↦ hescape.1 heq.symm

namespace Written

theorem Name.passes (n : Name) : Passes n.chars := by
  refine passes_of_forall fun c hc ↦ ?_
  have hrest := isIdentRest_of_isIdent n.ident c hc
  refine ⟨?_, ne_of_class hrest (by decide), ne_of_class hrest (by decide)⟩
  rw [isQuote, Bool.or_eq_false_iff, beq_eq_false_iff_ne, beq_eq_false_iff_ne]
  exact ⟨ne_of_class hrest (by decide), ne_of_class hrest (by decide)⟩

theorem Literal.passes (l : Literal) : Passes l.text := by
  intro rest
  have hmode : modeAfter '\'' (l.contents ++ '\'' :: rest) = .quoted '\'' := rfl
  rw [text, List.cons_append, List.append_assoc, List.singleton_append, statement?,
    if_neg (by decide), hmode, statement?_quoted (by decide) l.quote l.escape, Option.map_map]
  refine Option.map_congr fun r _ ↦ ?_
  rw [Function.comp_apply, List.cons_append, List.append_assoc, List.singleton_append]

/-! ## Joined texts -/

/-- What holds of texts put together from texts it holds of holds of joined texts. -/
theorem joined_closed {P : List Char → Prop} (hnil : P [])
    (happend : ∀ {cs ds}, P cs → P ds → P (cs ++ ds)) {sep : List Char} (hsep : P sep)
    {texts : List (List Char)} (h : ∀ t ∈ texts, P t) : P (joined sep texts) := by
  cases texts with
  | nil => exact hnil
  | cons t more =>
    obtain ⟨ht, hmore⟩ := List.forall_mem_cons.mp h
    exact happend ht (flatMap_closed hnil happend fun u hu ↦ happend hsep (hmore u hu))

theorem joined_cons_cons (sep t u : List Char) (more : List (List Char)) :
    joined sep (t :: u :: more) = t ++ (sep ++ joined sep (u :: more)) := by
  rw [joined, joined, List.flatMap_cons, List.append_assoc]

/-- Joined texts are firm if the texts are. -/
theorem firm_joined {sep t : List Char} {more : List (List Char)}
    (h : ∀ u ∈ t :: more, Firm u) : Firm (joined sep (t :: more)) := by
  induction more generalizing t with
  | nil =>
    rw [joined, List.flatMap_nil, List.append_nil]
    exact h t List.mem_cons_self
  | cons u more ih =>
    obtain ⟨ht, hmore⟩ := List.forall_mem_cons.mp h
    rw [joined_cons_cons]
    refine Firm.append ht.start ?_
    rw [List.reverse_append]
    exact (ih hmore).stop.append _

/-- The fields between bars are the joined texts again. -/
theorem fields_joined (blanks : List Char) (hblanks : allBlank blanks = true) {t : List Char}
    {more : List (List Char)} (hfirm : ∀ u ∈ t :: more, Firm u)
    (hbar : ∀ u ∈ t :: more, '|' ∉ u) :
    (fields (· == '|') (blanks ++ joined [' ', '|', ' '] (t :: more))).map trim = t :: more := by
  have hsep : ∀ cs : List Char, '|' ∉ cs → ∀ c ∈ cs, (c == '|') = false := by
    intro cs hcs c hc
    rw [beq_eq_false_iff_ne]
    rintro rfl
    exact hcs hc
  have hblank : ∀ bs, allBlank bs = true → '|' ∉ bs := fun bs hbs hmem ↦
    ne_of_class (List.all_eq_true.mp hbs '|' hmem) (by decide) rfl
  induction more generalizing blanks t with
  | nil =>
    have ht := hfirm t List.mem_cons_self
    have hnot : '|' ∉ blanks ++ t := by
      rw [List.mem_append, not_or]
      exact ⟨hblank blanks hblanks, hbar t List.mem_cons_self⟩
    have htrim := trim_append blanks [] hblanks ht rfl
    rw [List.append_nil] at htrim
    rw [joined, List.flatMap_nil, List.append_nil, fields_of_not_sep (hsep _ hnot),
      List.map_singleton, htrim]
  | cons u more ih =>
    obtain ⟨ht, hmore⟩ := List.forall_mem_cons.mp hfirm
    obtain ⟨hnot, hnots⟩ := List.forall_mem_cons.mp hbar
    -- of the blanks around a bar the first ends this field and the second begins the next one
    have hfield : '|' ∉ blanks ++ (t ++ [' ']) := by
      rw [List.mem_append, List.mem_append, not_or, not_or]
      exact ⟨hblank blanks hblanks, hnot, by decide⟩
    have htext : blanks ++ joined [' ', '|', ' '] (t :: u :: more) =
        blanks ++ (t ++ [' ']) ++ '|' :: ([' '] ++ joined [' ', '|', ' '] (u :: more)) := by
      rw [joined_cons_cons]
      simp only [List.append_assoc, List.cons_append, List.nil_append]
    rw [htext, fields_append_of_sep (hsep _ hfield) (beq_self_eq_true _), List.map_cons,
      trim_append blanks [' '] hblanks ht (by decide), ih [' '] (by decide) hmore hnots]

/-! ## Members -/

theorem Literal.firm (l : Literal) : Firm l.text := by
  refine ⟨⟨'\'', _, rfl, by decide⟩, ?_⟩
  rw [text, List.reverse_cons, List.reverse_append]
  exact ⟨'\'', _, rfl, by decide⟩

theorem Literal.bar_not_mem (l : Literal) : '|' ∉ l.text := by
  rw [text, List.mem_cons, List.mem_append, List.mem_singleton]
  rintro (h | h | h)
  · cases h
  · exact l.bar h
  · cases h

/-- A literal is told by its quotes. -/
theorem Literal.literalContents?_text (l : Literal) :
    literalContents? l.text = some l.contents := by
  rw [literalContents?, text, literal?, if_pos (by decide), splitFirst?_append l.quote]

/-- A name is no literal. -/
theorem Name.literalContents?_chars (n : Name) : literalContents? n.chars = none := by
  have hliteral : literal? n.chars = none := by
    cases hchars : n.chars with
    | nil => rfl
    | cons c cs =>
      have hc := isIdentRest_of_isIdent n.ident c (by rw [hchars]; exact List.mem_cons_self)
      have hquote : ¬ isQuote c = true := by
        rw [isQuote, Bool.or_eq_true, beq_iff_eq, beq_iff_eq, not_or]
        exact ⟨ne_of_class hc (by decide), ne_of_class hc (by decide)⟩
      rw [literal?, if_neg hquote]
  rw [literalContents?, hliteral]

namespace Members

/-- What the members are, one by one. -/
theorem forall_mem_texts (ms : Members) {p : List Char → Prop} (hname : ∀ n : Name, p n.chars)
    (hliteral : ∀ l : Literal, p l.text) : ∀ t ∈ ms.texts, p t := by
  cases ms with
  | names first more => exact List.forall_mem_map.mpr fun n _ ↦ hname n
  | literals first more => exact List.forall_mem_map.mpr fun l _ ↦ hliteral l

theorem exists_texts (ms : Members) : ∃ t more, ms.texts = t :: more := by
  cases ms with
  | names first more => exact ⟨_, _, rfl⟩
  | literals first more => exact ⟨_, _, rfl⟩

theorem passes_text (ms : Members) : Passes ms.text := by
  have hspace : Passes [' '] := passes_singleton (by decide) (by decide) (by decide)
  have hbar : Passes ['|'] := passes_singleton (by decide) (by decide) (by decide)
  exact joined_closed passes_nil Passes.append (hspace.append (hbar.append hspace))
    (ms.forall_mem_texts Name.passes Literal.passes)

theorem firm_text (ms : Members) : Firm ms.text := by
  have hfirm := ms.forall_mem_texts (fun n ↦ firm_of_isIdent n.ident) Literal.firm
  obtain ⟨t, more, htexts⟩ := ms.exists_texts
  rw [text, htexts]
  rw [htexts] at hfirm
  exact firm_joined hfirm

/-- The members of an alias are read from its definition. -/
theorem fields_text (ms : Members) : (fields (· == '|') ms.text).map trim = ms.texts := by
  have hfirm := ms.forall_mem_texts (fun n ↦ firm_of_isIdent n.ident) Literal.firm
  have hbar : ∀ t ∈ ms.texts, '|' ∉ t := by
    refine ms.forall_mem_texts (fun n hmem ↦ ?_) Literal.bar_not_mem
    exact ne_of_class (isIdentRest_of_isIdent n.ident '|' hmem) (by decide) rfl
  obtain ⟨t, more, htexts⟩ := ms.exists_texts
  rw [text, htexts]
  rw [htexts] at hfirm hbar
  exact fields_joined [] rfl hfirm hbar

/-- Literals are kept, names are not. -/
theorem literals_texts (ms : Members) :
    (if (ms.texts.map literalContents?).all Option.isSome then
      (ms.texts.map literalContents?).filterMap fun m ↦ m.map String.ofList else []) =
      ms.unionTypes := by
  cases ms with
  | names first more =>
    rw [texts, List.map_cons, List.map_cons, first.literalContents?_chars, List.all_cons]
    rfl
  | literals first more =>
    have hcontents : ∀ ls : List Literal, (ls.map Literal.text).map literalContents? =
        ls.map fun l ↦ some l.contents := by
      intro ls
      rw [List.map_map]
      exact List.map_congr_left fun l _ ↦ l.literalContents?_text
    rw [texts, hcontents, if_pos (by rw [List.all_map]; exact List.all_eq_true.mpr fun _ _ ↦ rfl),
      List.filterMap_map, unionTypes, ← List.filterMap_eq_map]
    rfl

end Members

/-! ## Aliases -/

theorem Alias.aliasOf_text (t : Alias) :
    aliasOf t.name.string t.members.text t.notes.annotations = t.declared := by
  have hmembers : (fields (· == '|') t.members.text).map (fun m ↦ literalContents? (trim m)) =
      t.members.texts.map literalContents? := by
    rw [← t.members.fields_text, List.map_map]
    rfl
  rw [aliasOf, hmembers, t.members.literals_texts]
  rfl

/-- An alias is read from its text. -/
theorem Alias.aliasAt?_text (t : Alias) (rest : List Char) :
    aliasAt? t.notes.annotations (t.text ++ rest) = some (.ok (.alias t.declared, rest)) := by
  have htext : t.text ++ rest = "type".toList ++ ' ' :: (t.name.chars ++ ' ' :: '=' :: ' ' ::
      (t.members.text ++ ';' :: rest)) := by
    unfold text
    generalize "type".toList = word
    simp only [List.append_assoc, List.cons_append, List.nil_append]
  have hbody : body (' ' :: (t.members.text ++ ';' :: rest)) =
      .ok (' ' :: t.members.text, rest) := by
    have hspace : Passes [' '] := passes_singleton (by decide) (by decide) (by decide)
    have hend : statement? .plain (';' :: rest) = some ([], rest) := by
      rw [statement?, if_pos (beq_self_eq_true _)]
    have hstatement := hspace.append t.members.passes_text (';' :: rest)
    rw [hend, List.append_assoc, List.singleton_append, Option.map_some, List.append_nil,
      List.singleton_append] at hstatement
    rw [body, hstatement]
  have hname : StartsFirm (t.name.chars ++ ' ' :: '=' :: ' ' :: (t.members.text ++ ';' :: rest)) :=
    (firm_of_isIdent t.name.ident).start.append _
  have hmark : mark? '=' (' ' :: '=' :: ' ' :: (t.members.text ++ ';' :: rest)) =
      some (' ' :: (t.members.text ++ ';' :: rest)) := mark?_cons [' '] (by decide) (by decide)
  have hfirm := t.members.firm_text
  have hblank : allBlank (' ' :: t.members.text) = false := by
    rw [allBlank, List.all_cons, ← allBlank, hfirm.start.not_allBlank, Bool.and_false]
  have htrim : trim (' ' :: t.members.text) = t.members.text := by
    have h := trim_append [' '] [] (by decide) hfirm rfl
    rwa [List.append_nil] at h
  rw [aliasAt?, htext, keyword?_append hname, Option.bind_some,
    ident?_append t.name.ident (breaks_cons (by decide)), Option.bind_some]
  simp only [hmark, Option.map_some, hbody, Except.bind, hblank, htrim, Bool.false_eq_true,
    if_false]
  rw [← t.aliasOf_text]
  rfl

end Written

end DiagramForge.Grammar
