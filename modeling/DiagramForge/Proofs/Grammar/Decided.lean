import DiagramForge.Proofs.Grammar.Mentions

/-!
# What decides a reading

A head ends with its mark and an action with its brace, and up to there the reading is decided:
whatever follows, the same is read, `EndsWith`. An assignment may end with a name, so what follows it
matters in one way, that it may continue the name: `Decided`.

Because of this the scanner comes to the body of a declaration whatever the rest of the text is, and
what a text ends with can be cut off behind a reading, or added to it.
-/

namespace DiagramForge.Grammar

open Text

/-! ## Readings that end with a mark -/

/-- A reading ends with a mark, and the same is read whatever follows the mark. -/
def EndsWith {α : Type} (mark : Char) (read : List Char → Option (α × List Char)) : Prop :=
  ∀ cs a rest, read cs = some (a, rest) →
    ∃ s, cs = s ++ mark :: rest ∧ ∀ z, read (s ++ mark :: z) = some (a, z)

section EndsWith

variable {α : Type} {mark : Char} {read : List Char → Option (α × List Char)}

theorem EndsWith.of_alike (hleaves : Leaves (fun r ↦ mark :: r.2) read)
    (halike : ∀ z z', Alike (Agree (mark :: z) (mark :: z')) (SameRead (AgreeAround mark z z')) read) :
    EndsWith mark read := by
  intro cs a rest h
  obtain ⟨s, hs⟩ := hleaves cs (a, rest) h
  refine ⟨s, hs.symm, fun z ↦ ?_⟩
  rw [← hs] at h
  obtain ⟨⟨a', rest'⟩, hread, rfl, hrest⟩ :=
    (halike rest z).exists_of_eq_some (agree_append _ _ s) h
  rcases hrest with ⟨u, hu, -⟩ | ⟨-, rfl⟩
  · -- the rest does not hold the mark that it follows
    have hlength := congrArg List.length hu
    simp at hlength
    omega
  · exact hread

/-- What follows a reading can be continued. -/
theorem EndsWith.append (h : EndsWith mark read) {cs rest : List Char} {a : α}
    (hread : read cs = some (a, rest)) (z : List Char) : read (cs ++ z) = some (a, rest ++ z) := by
  obtain ⟨s, rfl, hany⟩ := h cs a rest hread
  rw [List.append_assoc, List.cons_append]
  exact hany (rest ++ z)

end EndsWith

theorem bar_colon : Bar ':' := ⟨rfl, rfl, by decide, by decide, by decide⟩

theorem bar_brace : Bar '{' := ⟨rfl, rfl, by decide, by decide, by decide⟩

theorem endsWith_ruleHead? : EndsWith ':' ruleHead? :=
  EndsWith.of_alike leaves_ruleHead? fun z z' ↦
    alike_ruleHead? (bar_colon.startsMark z) (bar_colon.startsMark z')
      (alike_mark?_bar bar_colon z z' ':')

/-- The head of an interface ends with its brace. -/
theorem endsWith_interfaceHead? :
    EndsWith '{' fun cs ↦ (interfaceHead? cs).map fun r ↦ ((r.1, r.2.1), r.2.2) := by
  have hcomma : ∀ z, ('{' :: z).head? ≠ some ',' := fun z ↦ by simp
  refine EndsWith.of_alike (fun cs r h ↦ ?_) fun z z' ↦ ?_
  · obtain ⟨r', hr', rfl⟩ := Option.map_eq_some_iff.mp h
    exact leaves_interfaceHead? cs r' hr'
  · refine (alike_interfaceHead? (bar_brace.startsMark z) (bar_brace.startsMark z') (hcomma z)
      (hcomma z') (alike_mark?_bar bar_brace z z' '{')).map fun r r' h ↦ ⟨?_, h.2.2⟩
    exact Prod.ext h.1 h.2.1

/-- What follows the head of an interface can be continued. -/
theorem interfaceHead?_append {cs rest : List Char} {name : String} {supers : List String}
    (h : interfaceHead? cs = some (name, supers, rest)) (z : List Char) :
    interfaceHead? (cs ++ z) = some (name, supers, rest ++ z) := by
  have hlong := endsWith_interfaceHead?.append (congrArg (Option.map _) h) z
  obtain ⟨⟨name', supers', rest'⟩, hread, heq⟩ := Option.map_eq_some_iff.mp hlong
  cases heq
  exact hread

theorem endsWith_propertyHead? : EndsWith ':' propertyHead? := by
  refine EndsWith.of_alike (fun cs r h ↦ ?_) fun z z' ↦ ?_
  · obtain ⟨⟨name, mid⟩, hname, h⟩ := Option.bind_eq_some_iff.mp h
    obtain ⟨rest, hmark, rfl⟩ := Option.map_eq_some_iff.mp h
    have hquestion : Leaves (':' :: ·) fun cs ↦ mark? ':' ((mark? '?' cs).getD cs) :=
      (leaves_mark? ':').getD (leaves_mark? '?').of_cons
    exact (hquestion mid rest hmark).trans (leaves_ident? cs _ hname)
  · exact alike_propertyHead? (bar_colon.startsMark z) (bar_colon.startsMark z') (by simp) (by simp)
      (alike_mark?_bar bar_colon z z' ':')

theorem endsWith_action? : EndsWith '}' action? := by
  have hbar : Bar '}' := ⟨rfl, rfl, by decide, by decide, by decide⟩
  refine EndsWith.of_alike (fun cs r h ↦ ?_) fun z z' ↦ ?_
  · obtain ⟨inside, rfl⟩ := exists_of_action? h
    exact (List.suffix_append _ _).trans (List.suffix_cons _ _)
  · exact alike_action? (hbar.startsMark z) (hbar.startsMark z') (by simp) (by simp)
      (alike_mark?_bar hbar z z' '}')

theorem endsWith_reference? : EndsWith ']' reference? := by
  have hbar : Bar ']' := ⟨rfl, rfl, by decide, by decide, by decide⟩
  refine EndsWith.of_alike (fun cs r h ↦ suffix_of_reference? h) fun z z' ↦ ?_
  exact alike_reference? (hbar.startsMark z) (hbar.startsMark z') (by simp) (by simp)
    (alike_mark?_bar hbar z z' ']')

/-! ## Declarations before a mark -/

/-- If a declaration begins with the word for a reference and a quote, it is a reference. -/
theorem referenceAt?_ne_none_of_declaration {notes : Annotations} {cs y : List Char} {q : Char}
    (hq : isQuote q = true) (hword : keyword? "import" cs = some (q :: y))
    {r : Declaration × List Char} (h : declaration notes cs = .ok r) : referenceAt? cs ≠ none := by
  obtain ⟨kind, hkind, hread⟩ := List.exists_of_findSome?_eq_some (declaration_eq_ok_iff.mp h)
  -- the other kinds begin with another word, or with a name that their mark follows
  obtain ⟨mid, hmid, hblanks⟩ := Option.bind_eq_some_iff.mp hword
  have hrule : ruleHead? cs = none := by
    obtain ⟨blanks, hcs, hblank⟩ : ∃ blanks, cs = "import".toList ++ blanks ++ q :: y ∧
        allBlank blanks = true := by
      rw [eq_append_of_after? hmid]
      rcases mid with _ | ⟨d, mid⟩
      · cases hblanks
      · rw [blanks?] at hblanks
        split at hblanks
        next hd =>
          refine ⟨d :: mid.takeWhile isBlank, ?_, ?_⟩
          · rw [← Option.some.inj hblanks, trimLeft, List.append_assoc, List.cons_append,
              List.takeWhile_append_dropWhile]
          · rw [allBlank, List.all_cons, hd, Bool.true_and]
            exact List.all_takeWhile
        next => cases hblanks
    rw [hcs, local_ruleHead? _ q y hq, Option.map_eq_none_iff]
    refine Option.eq_none_iff_forall_not_mem.mpr fun r hr ↦ ?_
    have hcolon : ':' ∈ "import".toList ++ blanks :=
      (leaves_ruleHead? _ r hr).subset List.mem_cons_self
    rcases List.mem_append.mp hcolon with hcolon | hcolon
    · revert hcolon
      decide
    · exact absurd (List.all_eq_true.mp hblank ':' hcolon) (by decide)
  have hcs := eq_append_of_after? hmid
  revert hread
  refine forall_kinds (p := fun kind ↦ kind cs = some (.ok r) → referenceAt? cs ≠ none).mpr
    ⟨?_, ?_, ?_, ?_, ?_, ?_⟩ kind hkind
  · rw [hcs]
    intro hread
    cases hread
  · intro hread hnone
    rw [hnone] at hread
    cases hread
  · rw [hcs]
    intro hread
    cases hread
  · rw [hcs]
    intro hread
    cases hread
  · rw [hcs]
    intro hread
    cases hread
  · rw [ruleAt?, hrule]
    intro hread
    cases hread

/-- No reference goes over a bar that is no quote if a declaration is read there that is none. -/
theorem referenceAt?_eq_none_of_declaration {k : Char} (hk : Bar k) (hquote : isQuote k = false)
    {notes : Annotations} {u z z' : List Char} {r : Declaration × List Char}
    (hread : declaration notes (u ++ k :: z) = .ok r) (hnone : referenceAt? (u ++ k :: z) = none) :
    referenceAt? (u ++ k :: z') = none := by
  -- a reference that goes over the bar would have been one before
  refine Option.eq_none_iff_forall_not_mem.mpr fun r hr ↦ ?_
  obtain ⟨⟨t, mid⟩, hliteral, -⟩ := Option.map_eq_some_iff.mp hr
  obtain ⟨w', hword', hliteral⟩ := Option.bind_eq_some_iff.mp hliteral
  obtain ⟨w, hword, v, rfl, rfl⟩ := (alike_keyword? (hk.startsMark z') (hk.startsMark z)
    (by decide)).exists_of_eq_some (agree_append _ _ u) hword'
  rcases v with _ | ⟨q, v⟩
  · rw [List.nil_append, literal?, hquote] at hliteral
    cases hliteral
  · rw [List.cons_append, literal?] at hliteral
    split at hliteral
    next hq => exact referenceAt?_ne_none_of_declaration hq hword hread hnone
    next => cases hliteral

/-- What is scanned before a bar that is no quote does not depend on what follows the bar. -/
theorem ScansTo.bar {k : Char} (hk : Bar k) (hquote : isQuote k = false) {z : List Char}
    {notes notes' : Annotations} {u start : List Char} {ds : List Declaration}
    (h : ScansTo notes (u ++ k :: z) ds notes' (start ++ k :: z)) (z' : List Char) :
    ScansTo notes (u ++ k :: z') ds notes' (start ++ k :: z') := by
  exact ScansTo.replaced hk (fun hread ↦ declaration_stops hk
    (referenceAt?_eq_none_of_declaration hk hquote hread) hread) h

/-- What is scanned before a place does not depend on what follows the place, if the scanner has come
to a declaration that has a bar before it. -/
theorem ScansTo.behind_bar {k : Char} (hk : Bar k) (hquote : isQuote k = false)
    {notes notes' : Annotations} {before s b m : List Char} {ds : List Declaration}
    (h : ScansTo notes (before ++ m) ds notes' (s ++ k :: b ++ m)) (m' : List Char) :
    ScansTo notes (before ++ m') ds notes' (s ++ k :: b ++ m') := by
  obtain ⟨u, hu⟩ := h.suffix
  rw [← List.append_assoc] at hu
  obtain rfl := List.append_cancel_right hu
  have htext : ∀ m, u ++ (s ++ k :: b) ++ m = (u ++ s) ++ k :: (b ++ m) := by simp
  have hplace : ∀ m, s ++ k :: b ++ m = s ++ k :: (b ++ m) := by simp
  rw [htext, hplace] at h ⊢
  exact h.bar hk hquote (b ++ m')

/-! ## Decided readings -/

/-- A reading takes something that ends with no blank, and the same is read whatever follows, as long
as it does not continue a name where the rest did not. -/
def Decided {α : Type} (read : List Char → Option (α × List Char)) : Prop :=
  ∀ cs a rest, read cs = some (a, rest) → ∃ s c, cs = s ++ c :: rest ∧ isBlank c = false ∧
    ∀ rest', (Breaks rest → Breaks rest') → read (s ++ c :: rest') = some (a, rest')

section Decided

variable {α β : Type} {mark : Char} {read : List Char → Option (α × List Char)}

theorem EndsWith.decided (h : EndsWith mark read) (hmark : isBlank mark = false) :
    Decided read := by
  intro cs a rest hread
  obtain ⟨s, hs, hany⟩ := h cs a rest hread
  exact ⟨s, mark, hs, hmark, fun rest' _ ↦ hany rest'⟩

theorem Decided.bind {g : α × List Char → Option (β × List Char)} (h : Decided read)
    (hg : ∀ a, Decided fun cs ↦ g (a, cs)) : Decided fun cs ↦ (read cs).bind g := by
  intro cs b rest hread
  obtain ⟨⟨a, mid⟩, hmid, hrest⟩ := Option.bind_eq_some_iff.mp hread
  obtain ⟨s, c, rfl, -, hany⟩ := h cs a mid hmid
  obtain ⟨s', c', rfl, hc', hany'⟩ := hg a mid b rest hrest
  refine ⟨s ++ c :: s', c', by simp, hc', fun rest' hbreaks ↦ ?_⟩
  have hmid' := hany (s' ++ c' :: rest') fun hbreaks' ↦ by
    rcases s' with _ | ⟨d, s'⟩
    · exact breaks_cons (hbreaks' c' rest rfl)
    · exact breaks_cons (hbreaks' d _ rfl)
  rw [List.append_assoc, List.cons_append]
  dsimp only
  rw [hmid', Option.bind_some]
  exact hany' rest' hbreaks

theorem Decided.map {b : α → β} (h : Decided read) :
    Decided fun cs ↦ (read cs).map fun r ↦ (b r.1, r.2) := by
  intro cs b' rest hread
  obtain ⟨⟨a, rest'⟩, hrest, heq⟩ := Option.map_eq_some_iff.mp hread
  obtain ⟨rfl, rfl⟩ := Prod.mk.inj heq
  obtain ⟨s, c, rfl, hc, hany⟩ := h cs a rest' hrest
  refine ⟨s, c, rfl, hc, fun rest hbreaks ↦ ?_⟩
  dsimp only
  rw [hany rest hbreaks, Option.map_some]

theorem Decided.afterBlanks (h : Decided read) : Decided fun cs ↦ read (trimLeft cs) := by
  intro cs a rest hread
  obtain ⟨s, c, hs, hc, hany⟩ := h _ a rest hread
  have hcs : cs.takeWhile isBlank ++ trimLeft cs = cs := List.takeWhile_append_dropWhile
  refine ⟨cs.takeWhile isBlank ++ s, c, by rw [List.append_assoc, ← hs, hcs], hc,
    fun rest' hbreaks ↦ ?_⟩
  have hfirm : StartsFirm (s ++ c :: rest') := by
    have hhead := List.head?_dropWhile_not isBlank cs
    rw [← trimLeft, hs] at hhead
    rcases s with _ | ⟨d, s⟩
    · exact ⟨c, rest', rfl, hc⟩
    · exact ⟨d, s ++ c :: rest', rfl, by simpa using hhead⟩
  dsimp only
  rw [List.append_assoc, trimLeft_append _ List.all_takeWhile hfirm]
  exact hany rest' hbreaks

/-- What follows a reading can be continued, unless it continues a name that the reading ends
with. -/
theorem Decided.append (h : Decided read) {cs rest z : List Char} {a : α}
    (hread : read cs = some (a, rest)) (hz : Breaks z) :
    read (cs ++ z) = some (a, rest ++ z) := by
  obtain ⟨s, c, rfl, -, hany⟩ := h cs a rest hread
  rw [List.append_assoc, List.cons_append]
  refine hany (rest ++ z) fun hbreaks ↦ ?_
  rcases rest with _ | ⟨d, rest⟩
  · exact hz
  · exact breaks_cons (hbreaks d rest rfl)

/-- What follows a reading can be cut off behind the reading. -/
theorem Decided.of_append (h : Decided read) {cs rest z : List Char} {a : α}
    (hread : read (cs ++ z) = some (a, rest ++ z)) : read cs = some (a, rest) := by
  obtain ⟨s, c, hs, -, hany⟩ := h _ a _ hread
  have hcs : cs = s ++ c :: rest := by
    rw [← List.cons_append, ← List.append_assoc] at hs
    exact List.append_cancel_right hs
  rw [hcs]
  refine hany rest fun hbreaks d more heq ↦ ?_
  exact hbreaks d (more ++ z) (by rw [heq, List.cons_append])

/-- Blanks at the end of a text are left. -/
theorem Decided.exists_of_blanks (h : Decided read) {cs blanks rest : List Char} {a : α}
    (hblanks : allBlank blanks = true) (hread : read (cs ++ blanks) = some (a, rest)) :
    ∃ left, rest = left ++ blanks ∧ read cs = some (a, left) := by
  obtain ⟨s, c, hs, hc, -⟩ := h _ a rest hread
  have hend : blanks <:+ cs ++ blanks := List.suffix_append _ _
  have htaken : c :: rest <:+ cs ++ blanks := by
    rw [hs]
    exact List.suffix_append _ _
  have hle : blanks.length ≤ rest.length := by
    by_contra hlt
    -- the last character that is taken would be one of the blanks
    have hsuffix : c :: rest <:+ blanks := by
      refine List.suffix_of_suffix_length_le htaken hend ?_
      rw [List.length_cons]
      omega
    have hblank := List.all_eq_true.mp hblanks c (hsuffix.subset List.mem_cons_self)
    rw [hc] at hblank
    cases hblank
  have hsuffix : blanks <:+ rest :=
    List.suffix_of_suffix_length_le hend ((List.suffix_cons _ _).trans htaken) hle
  obtain ⟨left, rfl⟩ := hsuffix
  exact ⟨left, rfl, h.of_append hread⟩

end Decided

theorem decided_action? : Decided action? :=
  endsWith_action?.decided rfl

theorem decided_ident? : Decided ident? := by
  intro cs name rest h
  obtain ⟨hcs, hbreaks⟩ := eq_append_of_ident? h
  have hname := isIdent_of_ident? h
  rcases name.eq_nil_or_concat with rfl | ⟨s, c, rfl⟩
  · cases hname
  rw [List.concat_eq_append] at hcs hname ⊢
  refine ⟨s, c, by simpa using hcs, ?_, fun rest' hrest ↦ ?_⟩
  · exact isBlank_of_isIdentRest (isIdentRest_of_isIdent hname c (by simp))
  · rw [List.append_cons]
    exact ident?_append hname (hrest hbreaks)

theorem decided_operator? : Decided operator? := by
  intro cs o rest h
  rw [operator?] at h
  split at h
  · next hafter =>
    cases h
    exact ⟨['+'], '=', by rw [eq_append_of_after? hafter]; rfl, rfl, fun _ _ ↦ rfl⟩
  · split at h
    · next hafter =>
      cases h
      exact ⟨['?'], '=', by rw [eq_append_of_after? hafter]; rfl, rfl, fun _ _ ↦ rfl⟩
    · obtain ⟨rest', hafter, heq⟩ := Option.map_eq_some_iff.mp h
      cases heq
      exact ⟨[], '=', by rw [eq_append_of_after? hafter]; rfl, rfl, fun _ _ ↦ rfl⟩

theorem decided_value? : Decided value? := by
  intro cs v rest h
  rcases cs with _ | ⟨d, cs⟩
  · cases h
  by_cases hbracket : d = '['
  · subst hbracket
    obtain ⟨s, rfl, hany⟩ := endsWith_reference? cs v rest h
    exact ⟨'[' :: s, ']', rfl, rfl, fun rest' _ ↦ hany rest'⟩
  by_cases hparen : d = '('
  · subst hparen
    cases h
    exact ⟨[], '(', rfl, rfl, fun _ _ ↦ rfl⟩
  rw [value?_cons hbracket hparen] at h
  by_cases hquote : isQuote d = true
  · rw [if_pos hquote] at h
    obtain ⟨⟨contents, rest'⟩, hsplit, heq⟩ := Option.map_eq_some_iff.mp h
    cases heq
    obtain ⟨rfl, hmem⟩ := splitFirst?_eq_some hsplit
    refine ⟨d :: contents, d, rfl, isBlank_of_isQuote hquote, fun rest' _ ↦ ?_⟩
    rw [List.cons_append, value?_cons hbracket hparen, if_pos hquote, splitFirst?_append hmem]
    rfl
  · rw [if_neg hquote] at h
    obtain ⟨⟨name, rest'⟩, hident, heq⟩ := Option.map_eq_some_iff.mp h
    cases heq
    obtain ⟨s, c, hs, hc, hany⟩ := decided_ident? _ name _ hident
    refine ⟨s, c, hs, hc, fun rest' hbreaks ↦ ?_⟩
    obtain ⟨more, hmore⟩ : ∃ more, s ++ c :: rest' = d :: more := by
      rcases s with _ | ⟨e, s⟩
      · exact ⟨rest', by rw [(List.cons.inj hs).1]; rfl⟩
      · exact ⟨s ++ c :: rest', by rw [(List.cons.inj hs).1]; rfl⟩
    rw [hmore, value?_cons hbracket hparen, if_neg hquote, ← hmore, hany rest' hbreaks]
    rfl

theorem decided_assignment? : Decided assignment? := by
  refine Decided.bind decided_ident? fun feature ↦ ?_
  refine Decided.bind decided_operator?.afterBlanks fun operator ↦ ?_
  exact decided_value?.afterBlanks.map

end DiagramForge.Grammar
