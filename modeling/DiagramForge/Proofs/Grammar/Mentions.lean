import DiagramForge.Proofs.Grammar.DeclaredPlaces

/-!
# Names that a text mentions

A rule calls other rules and terminals by name, and what they return decides which types its
properties have. A name that is called is mentioned in the text: it stands there as a word. So
nothing depends on a name that the text does not mention: `mentions_of_mem_calls`.

From a call up to the text, a name is found in a segment, the segment in a body, the body in the text
without block comments, and that in the text. On the way more characters come to stand around it.
What matters on the left is that some character stands there that belongs to no name: in front of a
called name there is always the operator. On the right the name must not be continued.
-/

namespace DiagramForge.Grammar

open Text

/-! ## Words -/

/-- A text mentions a name: the name stands in it, continued on neither side. -/
def Mentions (text name : List Char) : Prop :=
  ∃ before after, text = before ++ name ++ after ∧ Breaks before.reverse ∧ Breaks after

/-- A text mentions an identifier behind a character that belongs to no name. -/
def MentionsBehind (text name : List Char) : Prop :=
  isIdent name = true ∧
    ∃ before c after, text = before ++ c :: (name ++ after) ∧ isIdentRest c = false ∧ Breaks after

section

variable {text name : List Char}

theorem not_mentions_of_not_infix (h : ¬ name <:+: text) : ¬ Mentions text name := by
  rintro ⟨before, after, rfl, -, -⟩
  exact h ⟨before, after, rfl⟩

theorem MentionsBehind.mentions (h : MentionsBehind text name) : Mentions text name := by
  obtain ⟨-, before, c, after, rfl, hc, hafter⟩ := h
  refine ⟨before ++ [c], after, by simp, ?_, hafter⟩
  rw [List.reverse_append, List.reverse_singleton, List.singleton_append]
  exact breaks_cons hc

theorem MentionsBehind.append_left (h : MentionsBehind text name) (cs : List Char) :
    MentionsBehind (cs ++ text) name := by
  obtain ⟨hname, before, c, after, rfl, hc, hafter⟩ := h
  exact ⟨hname, cs ++ before, c, after, by rw [List.append_assoc], hc, hafter⟩

theorem MentionsBehind.of_suffix {cs : List Char} (h : MentionsBehind text name)
    (hcs : text <:+ cs) : MentionsBehind cs name := by
  obtain ⟨start, rfl⟩ := hcs
  exact h.append_left start

theorem MentionsBehind.append_right (h : MentionsBehind text name) {cs : List Char}
    (hcs : Breaks cs) : MentionsBehind (text ++ cs) name := by
  obtain ⟨hname, before, c, after, rfl, hc, hafter⟩ := h
  refine ⟨hname, before, c, after ++ cs, by simp, hc, ?_⟩
  rcases after with _ | ⟨d, after⟩
  · exact hcs
  · exact breaks_cons (hafter d after rfl)

end

theorem isIdentRest_of_isBlank {c : Char} (h : isBlank c = true) : isIdentRest c = false := by
  rw [← Bool.not_eq_true]
  intro hrest
  rw [isBlank_of_isIdentRest hrest] at h
  cases h

theorem breaks_of_allBlank {cs : List Char} (h : allBlank cs = true) : Breaks cs := by
  rintro c rest rfl
  rw [allBlank, List.all_cons, Bool.and_eq_true] at h
  exact isIdentRest_of_isBlank h.1

/-- An identifier takes all that continues it. -/
theorem eq_append_of_ident? {cs name rest : List Char} (h : ident? cs = some (name, rest)) :
    cs = name ++ rest ∧ Breaks rest := by
  rcases cs with _ | ⟨c, cs⟩
  · cases h
  · rw [ident?] at h
    split at h
    · obtain ⟨rfl, rfl⟩ := Prod.mk.inj (Option.some.inj h)
      refine ⟨by simp, ?_⟩
      intro d more heq
      have hhead := List.head?_dropWhile_not isIdentRest cs
      rw [heq] at hhead
      exact hhead
    · cases h

/-! ## Calls -/

/-- The name that an assignment calls, if it calls one. -/
def Assignment.called? (a : Assignment) : Option String :=
  match a.value with
  | .call name => some name
  | _ => none

/-- The names that the assignments of a rule call. -/
def Rule.calls (r : Rule) : List String :=
  (segments (bodyParts r.body)).flatMap fun s ↦
    (occurrences s.start s.text).filterMap fun o ↦ o.assignment.called?

/-- A value that is called begins the text. -/
theorem ident?_of_value?_call {cs rest : List Char} {name : String}
    (h : value? cs = some (.call name, rest)) : ident? cs = some (name.toList, rest) := by
  unfold value? at h
  split at h
  · next cs' =>
    obtain ⟨⟨type, mid⟩, -, h⟩ := Option.bind_eq_some_iff.mp h
    dsimp only at h
    split at h
    · cases h
    · obtain ⟨rest', -, heq⟩ := Option.map_eq_some_iff.mp h
      cases heq
  · cases h
  · split at h
    · cases h
    · obtain ⟨⟨name', rest'⟩, hident, heq⟩ := Option.map_eq_some_iff.mp h
      cases heq
      rw [hident, String.toList_ofList]

/-- An operator ends with its equals sign. -/
theorem eq_append_of_operator? {cs rest : List Char} {o : Operator}
    (h : operator? cs = some (o, rest)) : ∃ start, cs = start ++ '=' :: rest := by
  rw [operator?] at h
  split at h
  · next hafter =>
    cases h
    exact ⟨['+'], by rw [eq_append_of_after? hafter]; rfl⟩
  · split at h
    · next hafter =>
      cases h
      exact ⟨['?'], by rw [eq_append_of_after? hafter]; rfl⟩
    · obtain ⟨rest', hafter, heq⟩ := Option.map_eq_some_iff.mp h
      cases heq
      exact ⟨[], by rw [eq_append_of_after? hafter]; rfl⟩

/-- In front of a value there is the equals sign, or a blank behind it. -/
theorem exists_before_value {cs rest : List Char} {head : List Char × Operator}
    (h : assignmentHead? cs = some (head, rest)) :
    ∃ before c, cs = before ++ c :: rest ∧ isIdentRest c = false := by
  obtain ⟨⟨feature, mid⟩, hident, h⟩ := Option.bind_eq_some_iff.mp h
  obtain ⟨⟨operator, mid'⟩, hoperator, heq⟩ := Option.map_eq_some_iff.mp h
  cases heq
  obtain ⟨start, hstart⟩ := (suffix_of_ident? hident)
  obtain ⟨start', hstart'⟩ := eq_append_of_operator? hoperator
  obtain ⟨blanks, hblanks⟩ := List.dropWhile_suffix isBlank (l := mid)
  have hcs : cs = start ++ blanks ++ start' ++ '=' :: mid' := by
    rw [← hstart, ← hblanks, ← trimLeft, hstart']
    simp
  have hmid : mid' = mid'.takeWhile isBlank ++ trimLeft mid' :=
    List.takeWhile_append_dropWhile.symm
  rcases (mid'.takeWhile isBlank).eq_nil_or_concat with hnil | ⟨more, c, hlast⟩
  · rw [hnil, List.nil_append] at hmid
    exact ⟨start ++ blanks ++ start', '=', by rw [hcs, ← hmid], by decide⟩
  · rw [List.concat_eq_append] at hlast
    have hc : isBlank c = true := by
      have hall : (mid'.takeWhile isBlank).all isBlank = true := List.all_takeWhile
      rw [hlast, List.all_append, Bool.and_eq_true] at hall
      simpa using hall.2
    rw [hlast, List.append_assoc, List.singleton_append] at hmid
    refine ⟨start ++ blanks ++ start' ++ '=' :: more, c, ?_, isIdentRest_of_isBlank hc⟩
    rw [hcs, List.append_assoc _ ('=' :: more), List.cons_append, ← hmid]

theorem mentionsBehind_of_assignment? {cs rest : List Char} {a : Assignment} {name : String}
    (h : assignment? cs = some (a, rest)) (hcall : a.called? = some name) :
    MentionsBehind cs name.toList := by
  rw [assignment?_eq] at h
  obtain ⟨⟨head, mid⟩, hhead, h⟩ := Option.bind_eq_some_iff.mp h
  obtain ⟨⟨value, rest'⟩, hvalue, heq⟩ := Option.map_eq_some_iff.mp h
  cases heq
  have hvalue' : value = .call name := by
    rw [Assignment.called?] at hcall
    split at hcall
    · next heq =>
      cases hcall
      exact heq
    · cases hcall
  subst hvalue'
  obtain ⟨before, c, rfl, hc⟩ := exists_before_value hhead
  have hident := ident?_of_value?_call hvalue
  obtain ⟨hmid, hbreaks⟩ := eq_append_of_ident? hident
  exact ⟨isIdent_of_ident? hident, before, c, rest, by rw [hmid], hc, hbreaks⟩

theorem mentionsBehind_of_mem_occurrences {offset : Nat} {cs : List Char} {o : Occurrence}
    {name : String} (ho : o ∈ occurrences offset cs) (hcall : o.assignment.called? = some name) :
    MentionsBehind cs name.toList := by
  induction cs using occurrences_cases generalizing offset with
  | nil => simp [occurrences] at ho
  | some cs a after hread ih =>
    rw [occurrences_of_some hread (length_lt_of_assignment? hread)] at ho
    rcases List.mem_cons.mp ho with rfl | ho
    · exact mentionsBehind_of_assignment? hread hcall
    · exact (ih ho).of_suffix (suffix_of_assignment? hread)
  | none c cs hread ih =>
    rw [occurrences_of_none hread] at ho
    exact (ih ho).of_suffix (List.suffix_cons _ _)

/-! ## Segments and bodies -/

/-- The text of a segment stands in the body, and an action or nothing is behind it. -/
theorem exists_of_mem_segmentsFrom (cs : List Char) {current s : Segment} {offset : Nat}
    (hs : s ∈ segmentsFrom current offset (bodyParts cs)) :
    ∃ before after, current.text.reverse ++ cs = before ++ s.text ++ after ∧ Breaks after := by
  induction cs using bodyParts_cases generalizing current offset with
  | nil =>
    rw [bodyParts_nil, segmentsFrom, List.mem_singleton] at hs
    subst hs
    exact ⟨[], [], by simp, fun k z hk ↦ absurd hk (by simp)⟩
  | action cs a rest hread ih =>
    obtain ⟨inside, htaken⟩ := exists_of_action? hread
    rw [bodyParts_of_some hread, segmentsFrom] at hs
    rcases List.mem_cons.mp hs with rfl | hs
    · refine ⟨[], cs, by simp, ?_⟩
      rw [htaken]
      exact breaks_cons (by decide)
    · obtain ⟨before, after, heq, hbreaks⟩ := ih hs
      rw [List.reverse_nil, List.nil_append] at heq
      refine ⟨current.text.reverse ++ '{' :: (inside ++ '}' :: before), after, ?_, hbreaks⟩
      rw [htaken, heq]
      simp
  | char c cs hread ih =>
    rw [bodyParts_of_none hread, segmentsFrom] at hs
    obtain ⟨before, after, heq, hbreaks⟩ := ih hs
    exact ⟨before, after, by simpa using heq, hbreaks⟩

/-- A name that a rule calls is mentioned in its body. -/
theorem Rule.mentionsBehind_of_mem_calls {r : Rule} {name : String} (h : name ∈ r.calls) :
    MentionsBehind r.body name.toList := by
  obtain ⟨s, hs, hname⟩ := List.mem_flatMap.mp h
  obtain ⟨o, ho, hcall⟩ := List.mem_filterMap.mp hname
  obtain ⟨before, after, hbody, hbreaks⟩ := exists_of_mem_segmentsFrom r.body hs
  rw [List.reverse_nil, List.nil_append] at hbody
  rw [hbody, List.append_assoc]
  exact ((mentionsBehind_of_mem_occurrences ho hcall).append_right hbreaks).append_left before

/-! ## Texts -/

theorem exists_blanks_of_trimRight (cs : List Char) :
    ∃ after, cs = trimRight cs ++ after ∧ allBlank after = true := by
  refine ⟨(cs.reverse.takeWhile isBlank).reverse, ?_, ?_⟩
  · rw [trimRight, ← List.reverse_append, List.takeWhile_append_dropWhile, List.reverse_reverse]
  · rw [allBlank_reverse]
    exact List.all_takeWhile

theorem exists_blanks_of_trim (cs : List Char) :
    ∃ before after, cs = before ++ trim cs ++ after ∧ allBlank before = true ∧
      allBlank after = true := by
  have hleft : cs.takeWhile isBlank ++ trimLeft cs = cs := List.takeWhile_append_dropWhile
  obtain ⟨after, hright, hafter⟩ := exists_blanks_of_trimRight (trimLeft cs)
  refine ⟨cs.takeWhile isBlank, after, ?_, List.all_takeWhile, hafter⟩
  rw [List.append_assoc, trim, ← hright, hleft]

/-- A name that a rule of a text calls is mentioned in the text that is scanned. -/
theorem mentionsBehind_of_mem_scan {notes : Annotations} {cs : List Char} {ds : List Declaration}
    (h : scan notes cs = .ok ds) {r : Rule} (hr : .rule r ∈ ds) {name : String}
    (hname : name ∈ r.calls) : MentionsBehind cs name.toList := by
  obtain ⟨notes', cs', rest, hsuffix, hread⟩ := exists_declaration_of_mem_scan h hr
  obtain ⟨start, s, rfl, hbody⟩ := exists_of_declaration_rule hread
  obtain ⟨before, after, hs, -, hblank⟩ := exists_blanks_of_trim s
  have hcall := r.mentionsBehind_of_mem_calls hname
  rw [hbody] at hs
  rw [hs] at hsuffix
  refine MentionsBehind.of_suffix ?_ hsuffix
  have hsemicolon : Breaks (';' :: rest) := breaks_cons (by decide)
  have hstatement := (hcall.append_right (breaks_of_allBlank hblank)).append_left before
  rw [← List.append_assoc] at hstatement
  exact (hstatement.append_left start).append_right hsemicolon

/-- In a comment nothing is read as a name. -/
theorem isIdentRest_of_blankCommentsFrom_some {start offset : Nat} {cs cs' : List Char} {d : Char}
    (h : blankCommentsFrom (some start) offset cs = .ok (d :: cs')) : isIdentRest d = false := by
  rcases cs with _ | ⟨c, _ | ⟨e, cs⟩⟩
  · cases h
  · cases h
  · rw [blankCommentsFrom] at h
    split at h
    · obtain ⟨more, -, heq⟩ := exists_of_map_eq_ok h
      cases heq
      decide
    · obtain ⟨more, -, heq⟩ := exists_of_map_eq_ok h
      cases heq
      rw [blanked]
      split <;> decide

/-- A name that begins a text without block comments begins the text. -/
theorem exists_of_blankCommentsFrom_none {offset : Nat} {cs name after : List Char}
    (hname : ∀ c ∈ name, isIdentRest c = true) (hafter : Breaks after)
    (h : blankCommentsFrom none offset cs = .ok (name ++ after)) :
    ∃ after', cs = name ++ after' ∧ Breaks after' := by
  induction name generalizing cs offset with
  | nil =>
    refine ⟨cs, rfl, ?_⟩
    rintro c rest rfl
    rcases rest with _ | ⟨d, rest⟩
    · rw [blankCommentsFrom, Except.ok.injEq] at h
      exact hafter c [] h.symm
    · rw [blankCommentsFrom] at h
      split at h
      next hopen =>
        simp only [Bool.and_eq_true, beq_iff_eq] at hopen
        rw [hopen.1]
        decide
      next =>
        obtain ⟨more, -, heq⟩ := exists_of_map_eq_ok h
        exact hafter c more heq.symm
  | cons n name ih =>
    obtain ⟨hn, htail⟩ := List.forall_mem_cons.mp hname
    rcases cs with _ | ⟨c, _ | ⟨d, cs⟩⟩
    · cases h
    · rw [blankCommentsFrom, Except.ok.injEq, List.cons_append, List.cons.injEq] at h
      obtain ⟨rfl, hnil⟩ := h
      obtain ⟨rfl, rfl⟩ := List.append_eq_nil_iff.mp hnil.symm
      exact ⟨[], rfl, hafter⟩
    · rw [blankCommentsFrom] at h
      split at h
      next =>
        obtain ⟨more, -, heq⟩ := exists_of_map_eq_ok h
        obtain ⟨rfl, -⟩ := List.cons.inj heq
        exact absurd hn (by decide)
      next =>
        obtain ⟨more, hmore, heq⟩ := exists_of_map_eq_ok h
        obtain ⟨rfl, rfl⟩ := List.cons.inj heq
        obtain ⟨after', hcs, hbreaks⟩ := ih htail hmore
        exact ⟨after', by rw [hcs]; rfl, hbreaks⟩

/-- What is mentioned outside block comments is mentioned. -/
theorem mentionsBehind_of_blankCommentsFrom {opened : Option Nat} {offset : Nat}
    {cs cs' name : List Char} (h : blankCommentsFrom opened offset cs = .ok cs')
    (hmentions : MentionsBehind cs' name) : MentionsBehind cs name := by
  obtain ⟨hname, before, e, after, rfl, he, hafter⟩ := hmentions
  refine ⟨hname, ?_⟩
  have hrest := isIdentRest_of_isIdent hname
  obtain ⟨n, name, rfl⟩ : ∃ n more, name = n :: more := by
    rcases name with _ | ⟨n, more⟩
    · cases hname
    · exact ⟨n, more, rfl⟩
  have hn := hrest n List.mem_cons_self
  have hspace : n ≠ ' ' := ne_of_class hn (by decide)
  fun_induction blankCommentsFrom opened offset cs generalizing before e with
  | case1 => simp at h
  | case2 => cases h
  | case3 => exact ⟨before, e, after, Except.ok.inj h, he, hafter⟩
  | case4 => cases h
  | case5 offset c d cs hopen ih =>
    obtain ⟨more, hmore, heq⟩ := exists_of_map_eq_ok h
    rcases before with _ | ⟨b, _ | ⟨b', before⟩⟩
    · simp [hspace.symm] at heq
    · -- the name would stand in the comment
      obtain ⟨-, -, rfl⟩ : ' ' = b ∧ ' ' = e ∧ more = n :: (name ++ after) := by simpa using heq
      rw [isIdentRest_of_blankCommentsFrom_some hmore] at hn
      cases hn
    · obtain ⟨-, -, rfl⟩ : ' ' = b ∧ ' ' = b' ∧ more = before ++ e :: (n :: name ++ after) := by
        simpa using heq
      obtain ⟨before', e', after', rfl, hstands⟩ := ih before e he hmore
      exact ⟨c :: d :: before', e', after', rfl, hstands⟩
  | case6 offset c d cs hopen ih =>
    obtain ⟨more, hmore, heq⟩ := exists_of_map_eq_ok h
    rcases before with _ | ⟨b, before⟩
    · obtain ⟨rfl, rfl⟩ := List.cons.inj heq
      obtain ⟨after', hcs, hbreaks⟩ := exists_of_blankCommentsFrom_none hrest hafter hmore
      exact ⟨[], c, after', by rw [hcs]; rfl, he, hbreaks⟩
    · obtain ⟨-, rfl⟩ := List.cons.inj heq
      obtain ⟨before', e', after', hcs, hstands⟩ := ih before e he hmore
      exact ⟨c :: before', e', after', by rw [hcs]; rfl, hstands⟩
  | case7 offset c d cs start hclose ih =>
    obtain ⟨more, hmore, heq⟩ := exists_of_map_eq_ok h
    rcases before with _ | ⟨b, _ | ⟨b', before⟩⟩
    · simp [hspace.symm] at heq
    · obtain ⟨-, -, rfl⟩ : ' ' = b ∧ ' ' = e ∧ more = n :: name ++ after := by simpa using heq
      obtain ⟨after', hcs, hbreaks⟩ := exists_of_blankCommentsFrom_none hrest hafter hmore
      simp only [Bool.and_eq_true, beq_iff_eq] at hclose
      exact ⟨[c], d, after', by rw [hcs]; rfl, by rw [hclose.2]; decide, hbreaks⟩
    · obtain ⟨-, -, rfl⟩ : ' ' = b ∧ ' ' = b' ∧ more = before ++ e :: (n :: name ++ after) := by
        simpa using heq
      obtain ⟨before', e', after', rfl, hstands⟩ := ih before e he hmore
      exact ⟨c :: d :: before', e', after', rfl, hstands⟩
  | case8 offset c d cs start hclose ih =>
    obtain ⟨more, hmore, heq⟩ := exists_of_map_eq_ok h
    rcases before with _ | ⟨b, before⟩
    · obtain ⟨-, rfl⟩ := List.cons.inj heq
      rw [List.cons_append] at hmore
      rw [isIdentRest_of_blankCommentsFrom_some hmore] at hn
      cases hn
    · obtain ⟨-, rfl⟩ := List.cons.inj heq
      obtain ⟨before', e', after', hcs, hstands⟩ := ih before e he hmore
      exact ⟨c :: before', e', after', by rw [hcs]; rfl, hstands⟩

/-- **The names that the rules of a text call are mentioned in the text.** -/
theorem mentions_of_mem_calls {text : List Char} {ds : List Declaration}
    (h : declarations text = .ok ds) {r : Rule} (hr : r ∈ ruleDeclarations ds) {name : String}
    (hname : name ∈ r.calls) : Mentions text name.toList := by
  have hmem : .rule r ∈ ds := by
    obtain ⟨d, hd, hrule⟩ := List.mem_filterMap.mp hr
    rcases d with _ | _ | _ | _ | _ | r' | _
    all_goals cases hrule
    exact hd
  rw [declarations] at h
  split at h
  · cases h
  next blanked hblanked =>
    split at h
    · cases h
    next hscan =>
      obtain rfl := Except.ok.inj h
      have hbehind := mentionsBehind_of_mem_scan hscan hmem hname
      exact (mentionsBehind_of_blankCommentsFrom hblanked hbehind).mentions

end DiagramForge.Grammar
