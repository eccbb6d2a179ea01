import DiagramForge.Proofs.Grammar.Leftovers
import DiagramForge.Proofs.Grammar.Opacity

/-!
# Where declarations stand

Every declaration is read somewhere in the text: `exists_declaration_of_mem_scan`. For this it is
enough that what is left behind a declaration is an end of the text, as it is for the recognisers
that a declaration is read with.
-/

namespace DiagramForge.Grammar

open Text

/-! ## Declarations -/

/-- A statement is followed by its semicolon. -/
theorem eq_append_of_statement? {mode : StatementMode} {cs s rest : List Char}
    (h : statement? mode cs = some (s, rest)) : cs = s ++ ';' :: rest := by
  fun_induction statement? mode cs generalizing s with
  | case1 => cases h
  | case5 c cs hend =>
    obtain ⟨rfl, rfl⟩ := Prod.mk.inj (Option.some.inj h)
    rw [eq_of_beq hend]
    rfl
  | case2 _ _ ih | case3 _ _ _ ih | case4 _ _ _ _ ih | case6 _ _ _ ih =>
    obtain ⟨r, hr, heq⟩ := Option.map_eq_some_iff.mp h
    obtain ⟨rfl, rfl⟩ := Prod.mk.inj heq
    rw [ih hr]
    rfl

theorem eq_append_of_body {cs s rest : List Char} (h : body cs = .ok (s, rest)) :
    cs = s ++ ';' :: rest := by
  rw [body] at h
  split at h
  · next hs =>
    obtain rfl := Except.ok.inj h
    exact eq_append_of_statement? hs
  · cases h

theorem suffix_of_body {cs s rest : List Char} (h : body cs = .ok (s, rest)) : rest <:+ cs := by
  rw [eq_append_of_body h]
  exact (List.suffix_cons _ _).trans (List.suffix_append _ _)

/-- What a kind of declaration leaves is an end of the text. -/
def LeavesRest (kind : List Char → Reading Declaration) : Prop :=
  ∀ cs d rest, kind cs = some (.ok (d, rest)) → rest <:+ cs

theorem leavesRest_headerAt? : LeavesRest headerAt? := by
  intro cs d rest h
  have hhead : Leaves Prod.snd fun cs ↦ (keyword? "grammar" cs).bind ident? :=
    leaves_ident?.afterSkip (leaves_keyword? "grammar")
  obtain ⟨⟨name, rest'⟩, hname, heq⟩ := Option.map_eq_some_iff.mp h
  cases heq
  exact (List.dropWhile_suffix _).trans (hhead cs _ hname)

theorem leavesRest_referenceAt? : LeavesRest referenceAt? := by
  intro cs d rest h
  have hhead : Leaves Prod.snd fun cs ↦ (keyword? "import" cs).bind literal? :=
    leaves_literal?.afterSkip (leaves_keyword? "import")
  obtain ⟨⟨name, rest'⟩, hname, heq⟩ := Option.map_eq_some_iff.mp h
  cases heq
  have hmark : (mark? ';' rest').getD rest' <:+ rest' := by
    rcases hmark : mark? ';' rest' with _ | rest''
    · exact List.suffix_rfl
    · exact (leaves_mark? ';').of_cons _ _ hmark
  exact hmark.trans (hhead cs _ hname)

theorem leavesRest_terminalAt? : LeavesRest terminalAt? := by
  intro cs d rest h
  obtain ⟨r, hhead, heq⟩ := Option.map_eq_some_iff.mp h
  obtain ⟨⟨s, rest'⟩, hbody, heq⟩ := exists_of_map_eq_ok heq
  cases heq
  exact (suffix_of_body hbody).trans (leaves_terminalHead?.of_cons cs r hhead)

theorem leavesRest_interfaceAt? (notes : Annotations) : LeavesRest (interfaceAt? notes) := by
  intro cs d rest h
  obtain ⟨r, hhead, heq⟩ := Option.map_eq_some_iff.mp h
  dsimp only at heq
  split at heq
  · cases heq
  next inside after hsplit =>
    split at heq
    · cases heq
    · obtain ⟨ps, -, heq⟩ := exists_of_map_eq_ok heq
      cases heq
      exact (suffix_of_splitFirst? hsplit).trans (leaves_interfaceHead?.of_cons cs r hhead)

theorem leavesRest_aliasAt? (notes : Annotations) : LeavesRest (aliasAt? notes) := by
  intro cs d rest h
  rw [aliasAt?_eq] at h
  obtain ⟨r, hhead, heq⟩ := Option.map_eq_some_iff.mp h
  dsimp only at heq
  rcases hbody : body r.2 with fault | s
  · simp [hbody, Except.bind] at heq
  · simp only [hbody, Except.bind] at heq
    split at heq
    · cases heq
    · cases heq
      exact (suffix_of_body hbody).trans (leaves_aliasHead?.of_cons cs r hhead)

theorem leavesRest_ruleAt? (notes : Annotations) : LeavesRest (ruleAt? notes) := by
  intro cs d rest h
  obtain ⟨r, hhead, heq⟩ := Option.map_eq_some_iff.mp h
  obtain ⟨s, hbody, heq⟩ := exists_of_map_eq_ok heq
  have hrest : s.2 = rest := by
    dsimp only at heq
    split at heq <;> exact (Prod.mk.inj heq).2
  rw [← hrest]
  exact (suffix_of_body hbody).trans (leaves_ruleHead?.of_cons cs r hhead)

theorem suffix_of_declaration {notes : Annotations} {cs rest : List Char} {d : Declaration}
    (h : declaration notes cs = .ok (d, rest)) : rest <:+ cs := by
  have hleaves : ∀ kind ∈ kinds notes, LeavesRest kind :=
    forall_kinds.mpr ⟨leavesRest_headerAt?, leavesRest_referenceAt?, leavesRest_terminalAt?,
      leavesRest_interfaceAt? notes, leavesRest_aliasAt? notes, leavesRest_ruleAt? notes⟩
  obtain ⟨kind, hkind, hread⟩ := List.exists_of_findSome?_eq_some (declaration_eq_ok_iff.mp h)
  exact hleaves kind hkind cs d rest hread

/-- The scanner comes to an end of the text. -/
theorem ScansTo.suffix {notes notes' : Annotations} {cs cs' : List Char} {ds : List Declaration}
    (h : ScansTo notes cs ds notes' cs') : cs' <:+ cs := by
  induction h with
  | refl => exact List.suffix_rfl
  | blank _ _ ih => exact ih.trans (List.suffix_cons _ _)
  | comment _ ih =>
    exact ih.trans ((List.dropWhile_suffix _).trans ((List.suffix_cons _ _).trans
      (List.suffix_cons _ _)))
  | declaration _ _ hread _ ih => exact ih.trans (suffix_of_declaration hread)

/-- Each declaration that is scanned is read somewhere in the text. -/
theorem exists_declaration_of_mem_scan {notes : Annotations} {cs : List Char}
    {ds : List Declaration} (h : scan notes cs = .ok ds) {d : Declaration} (hd : d ∈ ds) :
    ∃ notes' cs' rest, cs' <:+ cs ∧ declaration notes' cs' = .ok (d, rest) := by
  fun_induction scan notes cs generalizing ds with
  | case1 =>
    cases h
    cases hd
  | case2 notes c rest hblank ih =>
    obtain ⟨notes', cs', rest', hsuffix, hread⟩ := ih h hd
    exact ⟨notes', cs', rest', hsuffix.trans (List.suffix_cons _ _), hread⟩
  | case3 notes c rest hblank hslash ih =>
    obtain ⟨notes', cs', rest', hsuffix, hread⟩ := ih h hd
    refine ⟨notes', cs', rest', hsuffix.trans ?_, hread⟩
    exact (List.dropWhile_suffix _).trans ((List.tail_suffix rest).trans (List.suffix_cons _ _))
  | case4 => cases h
  | case5 notes c rest hblank hslash d' after hread ih =>
    obtain ⟨more, hmore, rfl⟩ := exists_of_map_eq_ok h
    rcases List.mem_cons.mp hd with rfl | hd
    · exact ⟨notes, c :: rest, after, List.suffix_rfl, hread⟩
    · obtain ⟨notes', cs', rest', hsuffix, hread'⟩ := ih hmore hd
      exact ⟨notes', cs', rest', hsuffix.trans (suffix_of_declaration hread), hread'⟩

/-- The body of a rule stands in the text between blanks, a colon and a semicolon. -/
theorem exists_of_declaration_rule {notes : Annotations} {cs rest : List Char} {r : Rule}
    (h : declaration notes cs = .ok (.rule r, rest)) : ∃ start s,
      cs = start ++ s ++ ';' :: rest ∧ trim s = r.body := by
  obtain ⟨kind, hkind, hread⟩ := List.exists_of_findSome?_eq_some (declaration_eq_ok_iff.mp h)
  obtain rfl := kind_of_rule (.inr ⟨r, rfl⟩) kind hkind hread
  obtain ⟨⟨head, cs'⟩, hhead, heq⟩ := Option.map_eq_some_iff.mp hread
  obtain ⟨⟨s, rest'⟩, hbody, heq⟩ := exists_of_map_eq_ok heq
  obtain ⟨start, hstart⟩ := leaves_ruleHead?.of_cons cs _ hhead
  dsimp only at heq hstart
  split at heq
  · cases heq
  · cases heq
    refine ⟨start, s, ?_, rfl⟩
    rw [List.append_assoc, ← eq_append_of_body hbody]
    exact hstart.symm

end DiagramForge.Grammar
