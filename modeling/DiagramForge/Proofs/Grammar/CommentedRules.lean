import DiagramForge.Proofs.Grammar.Insertion

/-!
# Line comments in rules

The reading of a statement passes over line comments: `statement?_commented`. So a rule with a line
comment at the end of a line is read up to the same semicolon, and its body is the one without the
comment but for the comment: `ruleAt?_commented`.

The body is read once more, for actions, assignments and groups, and those searches do not know of
comments. So what the comment holds is read, unless it is `Ignored`. If it is, the rule produces the
same, `LineComment.Ignored.produced`, and lists no alternatives if it listed none before.
-/

namespace DiagramForge.Grammar

open Text

/-! ## Line comments -/

/-- A line comment with the blanks before it. If there are line feeds among the blanks, the comment
stands on a line of its own. -/
structure LineComment where
  /-- The blanks before the comment. -/
  lead : List Char
  /-- What follows the two slashes. -/
  text : List Char
  /-- The blanks are blank. -/
  lead_blank : allBlank lead = true
  /-- The comment is on one line. -/
  text_line : '\n' ∉ text
  /-- No block comment begins in it. -/
  plain : ¬ ['/', '*'] <:+: '/' :: '/' :: text

namespace LineComment

/-- The comment as it is written, without the line feed that ends it. -/
def chars (c : LineComment) : List Char :=
  c.lead ++ '/' :: '/' :: c.text

variable (c : LineComment)

theorem append_chars (x y : List Char) :
    x ++ (c.chars ++ y) = (x ++ c.lead) ++ '/' :: '/' :: (c.text ++ y) := by
  rw [chars, List.append_assoc, List.append_assoc, List.cons_append, List.cons_append]

theorem chars_eq : c.chars = (c.lead ++ ['/', '/']) ++ c.text := by
  rw [chars, List.append_assoc]
  rfl

/-- Before the text of a comment there are blanks and slashes only. -/
theorem forall_lead {p : Char → Prop} (hblank : ∀ d, isBlank d = true → p d) (hslash : p '/') :
    ∀ d ∈ c.lead ++ ['/', '/'], p d := by
  intro d hd
  rcases List.mem_append.mp hd with hd | hd
  · exact hblank d (List.all_eq_true.mp c.lead_blank d hd)
  · obtain rfl : d = '/' := by simpa using hd
    exact hslash

theorem forall_chars {p : Char → Prop} (hblank : ∀ d, isBlank d = true → p d) (hslash : p '/')
    (htext : ∀ d ∈ c.text, p d) : ∀ d ∈ c.chars, p d := by
  rw [c.chars_eq]
  exact List.forall_mem_append.mpr ⟨c.forall_lead hblank hslash, htext⟩

/-- A comment goes on with no name, and with no block comment that a slash before it would open. -/
theorem breaks_chars (y : List Char) : Breaks (c.chars ++ y) ∧ (c.chars ++ y).head? ≠ some '*' := by
  rw [chars]
  rcases hlead : c.lead with _ | ⟨d, lead⟩
  · exact ⟨breaks_cons (by decide), by simp⟩
  · have hd : isBlank d = true := List.all_eq_true.mp c.lead_blank d (by simp [hlead])
    refine ⟨breaks_cons (isIdentRest_of_isBlank hd), ?_⟩
    rintro heq
    obtain rfl : d = '*' := Option.some.inj heq
    cases hd

/-- A text with a line comment at the end of a line has the same block comments. -/
theorem blankComments_commented {pre post before behind : List Char}
    (hpre : blankComments pre = .ok before) (hpost : blankComments post = .ok behind) :
    blankComments (pre ++ (c.chars ++ '\n' :: post)) =
      .ok (before ++ (c.chars ++ '\n' :: behind)) := by
  have hline : blankComments ('\n' :: post) = .ok ('\n' :: behind) :=
    blankCommentsFrom_cons (by decide) hpost 0
  have hstar : '*' ∉ c.lead := fun h ↦ nomatch List.all_eq_true.mp c.lead_blank '*' h
  have hplain : ¬ ['/', '*'] <:+: c.chars :=
    not_infix_append (plain_of_not_mem hstar).inside ⟨c.plain, by simp⟩
  have hcomment : blankComments (c.chars ++ '\n' :: post) = .ok (c.chars ++ '\n' :: behind) :=
    blankCommentsFrom_append (by simp) hline (blankCommentsFrom_of_plain hplain 0)
  exact blankCommentsFrom_append (c.breaks_chars _).2 hcomment hpre

/-! ## Statements -/

/-- A blank outside literals and comments is passed over, and a line feed ends a line comment. -/
theorem statement?_blank {d : Char} (hd : isBlank d = true) (cs : List Char) :
    statement? .plain (d :: cs) = (statement? .plain cs).map fun r ↦ (d :: r.1, r.2) := by
  have hend : ¬ (d == ';') = true := by
    rw [beq_iff_eq]
    rintro rfl
    cases hd
  have hquote : isQuote d = false := isQuote_of_isBlank hd
  have hslash : (d == '/') = false := by
    rw [beq_eq_false_iff_ne]
    rintro rfl
    cases hd
  have hmode : modeAfter d cs = .plain := by
    rw [modeAfter, hquote, hslash]
    rfl
  rw [statement?, if_neg hend, hmode]

/-- A line comment goes on to the end of the line. -/
theorem statement?_comment {text : List Char} (htext : '\n' ∉ text) (rest : List Char) :
    statement? .comment (text ++ '\n' :: rest) =
      (statement? .plain rest).map fun r ↦ (text ++ '\n' :: r.1, r.2) := by
  induction text with
  | nil => rw [List.nil_append, statement?, if_pos (by decide)]; rfl
  | cons d text ih =>
    rw [List.mem_cons, not_or] at htext
    have hline : ¬ (d == '\n') = true := by
      rw [beq_iff_eq]
      exact Ne.symm htext.1
    rw [List.cons_append, statement?, if_neg hline, ih htext.2, Option.map_map]
    rfl

/-- A line comment is passed over outside literals, and in another line comment. -/
theorem statement?_chars (rest : List Char) :
    statement? .plain (c.chars ++ '\n' :: rest) =
        (statement? .plain rest).map (fun r ↦ (c.chars ++ '\n' :: r.1, r.2)) ∧
      statement? .comment (c.chars ++ '\n' :: rest) =
        (statement? .plain rest).map fun r ↦ (c.chars ++ '\n' :: r.1, r.2) := by
  have hlead := c.lead_blank
  rw [chars]
  generalize c.lead = lead at hlead
  induction lead with
  | nil =>
    have hslashes : '\n' ∉ '/' :: '/' :: c.text := by simpa using c.text_line
    refine ⟨?_, statement?_comment hslashes rest⟩
    have hmode : modeAfter '/' ('/' :: (c.text ++ '\n' :: rest)) = .comment := rfl
    have hslash : '\n' ∉ '/' :: c.text := by simpa using c.text_line
    rw [List.nil_append, List.cons_append, List.cons_append, statement?, if_neg (by decide), hmode,
      ← List.cons_append, statement?_comment hslash, Option.map_map]
    rfl
  | cons d lead ih =>
    obtain ⟨hd, hlead⟩ := Bool.and_eq_true_iff.mp hlead
    obtain ⟨hplain, hcomment⟩ := ih hlead
    refine ⟨?_, ?_⟩
    · rw [List.cons_append, List.cons_append, statement?_blank hd, hplain, Option.map_map]
      rfl
    · rw [List.cons_append, List.cons_append, statement?]
      split
      · rw [hplain, Option.map_map]
        rfl
      · rw [hcomment, Option.map_map]
        rfl

/-- A literal goes on behind the end of a line. -/
theorem statement?_quoted_line {e : Char} (he : e ≠ '\n') :
    statement? (.quoted e) ['\n', ';'] = none := by
  have hline : ¬ ('\n' == e) = true := by
    rw [beq_iff_eq]
    exact he.symm
  rw [statement?.eq_4 _ _ _ fun _ _ heq _ ↦ absurd heq (by decide), if_neg hline,
    statement?.eq_4 _ _ _ fun _ _ heq _ ↦ absurd heq (by decide), statement?]
  rfl

theorem modeAfter_ne_quoted {e : Char} (he : isQuote e = false) (d : Char) (cs : List Char) :
    modeAfter d cs ≠ .quoted e := by
  rw [modeAfter]
  split
  next hd =>
    rintro heq
    exact ne_of_class hd he (StatementMode.quoted.inj heq)
  next => split <;> simp

/-- If a text behind which a line ends is not in a literal there, the reading of a statement passes
over a line comment that is put in. -/
theorem statement?_commented {mode : StatementMode} (hmode : mode ≠ .quoted '\n') {b : List Char}
    (h : statement? mode (b ++ ['\n', ';']) = some (b ++ ['\n'], [])) (rest : List Char) :
    statement? mode (b ++ (c.chars ++ '\n' :: rest)) =
      (statement? .plain rest).map fun r ↦ (b ++ (c.chars ++ '\n' :: r.1), r.2) := by
  induction mode, b using statement?.induct with
  | case1 mode =>
    cases mode with
    | plain => exact (c.statement?_chars rest).1
    | quoted e =>
      rw [List.nil_append, List.nil_append, statement?_quoted_line (mt (congrArg _) hmode)] at h
      cases h
    | comment => exact (c.statement?_chars rest).2
  | case2 d b ih =>
    have hnext : (if d == '\n' then .plain else .comment) ≠ StatementMode.quoted '\n' := by
      split <;> simp
    rw [List.cons_append, statement?] at h ⊢
    rw [ih hnext (statement_of_step [d] h), Option.map_map]
    rfl
  | case3 e d b ih =>
    rw [List.cons_append, List.cons_append, statement?] at h ⊢
    rw [ih hmode (statement_of_step ['\\', d] h), Option.map_map]
    rfl
  | case4 e d b hstep ih =>
    by_cases hd : d = '\\'
    · -- an escape at the end takes the line feed, and the literal goes on
      cases b with
      | nil =>
        subst hd
        cases h
      | cons f b => exact (hstep f b hd rfl).elim
    · rw [List.cons_append, statement?.eq_4 _ _ _ fun _ _ heq _ ↦ hd heq] at h ⊢
      rw [ih (by split <;> [simp; exact hmode]) (statement_of_step [d] h), Option.map_map]
      rfl
  | case5 d b hend =>
    rw [List.cons_append, statement?, if_pos hend] at h
    cases h
  | case6 d b hend ih =>
    rw [List.cons_append, statement?, if_neg hend] at h ⊢
    rcases b with _ | ⟨f, b⟩
    · -- a slash at the end begins the comment, which ends where it ended
      by_cases hquote : isQuote d = true
      · rw [modeAfter, if_pos hquote, List.nil_append, statement?_quoted_line] at h
        · cases h
        · rintro rfl
          cases hquote
      · rw [modeAfter, if_neg hquote, List.nil_append]
        split
        · rw [(c.statement?_chars rest).2, Option.map_map]
          rfl
        · rw [(c.statement?_chars rest).1, Option.map_map]
          rfl
    · have hcons : ∀ z, modeAfter d (f :: b ++ z) = modeAfter d (f :: b) := fun z ↦
        modeAfter_append (by simp)
      rw [hcons] at h ⊢
      rw [ih (modeAfter_ne_quoted (by decide) d (f :: b)) (statement_of_step [d] h), Option.map_map]
      rfl

end LineComment

/-! ## What is read before a slash -/

theorem startsMark_slash (z : List Char) : StartsMark ('/' :: z) :=
  startsMark_cons rfl rfl z

/-- An action takes no slash. -/
theorem action?_append_slash (u z : List Char) :
    action? (u ++ '/' :: z) = (action? u).map fun r ↦ (r.1, r.2 ++ '/' :: z) :=
  read_append_of_alike (alike_action? startsMark_nil (startsMark_slash z) (fun _ _ ↦ nofun) (by simp)
    (alike_mark? startsMark_nil (startsMark_slash z) nofun (by simp))) u

/-- A value takes no slash if it is no literal that is open there. -/
theorem value?_append_slash {u : List Char} (hopen : ¬ OpenValue u) (z : List Char) :
    value? (u ++ '/' :: z) = (value? u).map fun r ↦ (r.1, r.2 ++ '/' :: z) := by
  rcases u with _ | ⟨d, u⟩
  · rfl
  by_cases hbracket : d = '['
  · subst hbracket
    exact read_append_of_alike (alike_reference? startsMark_nil (startsMark_slash z)
      (fun _ _ ↦ nofun) (by simp) (alike_mark? startsMark_nil (startsMark_slash z) nofun (by simp))) u
  by_cases hparen : d = '('
  · subst hparen
    rfl
  rw [List.cons_append, value?_cons hbracket hparen, value?_cons hbracket hparen]
  by_cases hquote : isQuote d = true
  · have hmem : d ∈ u := by
      by_contra hmem
      exact hopen ⟨d, u, rfl, hquote, hmem⟩
    obtain ⟨before, after, hsplit⟩ := splitFirst?_append_of_mem hmem
    have halone := hsplit []
    rw [List.append_nil, List.append_nil] at halone
    rw [if_pos hquote, if_pos hquote, hsplit, halone]
    rfl
  · have hident : ident? (d :: (u ++ '/' :: z)) = _ :=
      ident?_append_mark (startsMark_slash z) (d :: u)
    rw [if_neg hquote, if_neg hquote, hident, Option.map_map, Option.map_map]
    rfl

/-- An assignment takes no slash if its value is no literal that is open there. -/
theorem assignment?_append_slash {u : List Char} (hopen : ¬ OpenAssignment u) (z : List Char) :
    assignment? (u ++ '/' :: z) = (assignment? u).map fun r ↦ (r.1, r.2 ++ '/' :: z) := by
  have hhead : assignmentHead? (u ++ '/' :: z) = _ := read_append_of_alike
    (alike_assignmentHead? startsMark_nil (startsMark_slash z) (fun _ _ ↦ nofun) (by simp)) u
  rw [assignment?_eq, assignment?_eq, hhead]
  rcases hu : assignmentHead? u with _ | ⟨head, v⟩
  · rfl
  · have hvalue : ¬ OpenValue v := fun h ↦ hopen ⟨head, v, hu, h⟩
    dsimp only [Option.map_some, Option.bind_some]
    rw [value?_append_slash hvalue, Option.map_map, Option.map_map]
    rfl

/-! ## Literals that are open -/

/-- Reads an assignment up to the quote that its value begins with. -/
def openedLiteral? (cs : List Char) : Option (Char × List Char) :=
  (ident? cs).bind fun (_, cs) ↦ (operator? (trimLeft cs)).bind fun (_, cs) ↦
    match trimLeft cs with
    | q :: rest => if isQuote q then some (q, rest) else none
    | [] => none

theorem decided_openedLiteral? : Decided openedLiteral? := by
  refine Decided.bind decided_ident? fun _ ↦ ?_
  refine Decided.bind decided_operator?.afterBlanks fun _ ↦ ?_
  have hquote : Decided fun cs : List Char ↦ match cs with
      | q :: rest => if isQuote q then some (q, rest) else none
      | [] => none := by
    intro cs q rest h
    rcases cs with _ | ⟨d, cs⟩
    · cases h
    · dsimp only at h
      split at h
      next hd =>
        obtain ⟨rfl, rfl⟩ := Prod.mk.inj (Option.some.inj h)
        refine ⟨[], d, rfl, isBlank_of_isQuote hd, fun rest' _ ↦ if_pos hd⟩
      next => cases h
  exact hquote.afterBlanks

theorem openedLiteral?_eq (cs : List Char) : openedLiteral? cs =
    (assignmentHead? cs).bind fun r ↦ match r.2 with
      | q :: rest => if isQuote q then some (q, rest) else none
      | [] => none := by
  rw [openedLiteral?, assignmentHead?]
  rcases ident? cs with _ | r
  · rfl
  · dsimp only [Option.bind_some]
    rcases operator? (trimLeft r.2) with _ | r'
    · rfl
    · rfl

/-- An assignment of a literal is read if the literal is closed. -/
theorem assignment?_eq_none_iff_of_openedLiteral? {cs rest : List Char} {q : Char}
    (h : openedLiteral? cs = some (q, rest)) : assignment? cs = none ↔ q ∉ rest := by
  rw [openedLiteral?_eq] at h
  obtain ⟨⟨head, v⟩, hhead, h⟩ := Option.bind_eq_some_iff.mp h
  rcases v with _ | ⟨d, v⟩
  · cases h
  dsimp only at h
  split at h
  next hd =>
    obtain ⟨rfl, rfl⟩ := Prod.mk.inj (Option.some.inj h)
    rw [assignment?_eq, hhead, Option.bind_some, Option.map_eq_none_iff,
      value?_cons (ne_of_class hd rfl) (ne_of_class hd rfl), if_pos hd, Option.map_eq_none_iff]
    refine ⟨fun hnone hmem ↦ ?_, fun hmem ↦ ?_⟩
    · obtain ⟨before, after, hsplit⟩ := splitFirst?_append_of_mem hmem
      have halone := hsplit []
      rw [List.append_nil, hnone] at halone
      cases halone
    · have hsplit := splitFirst?_append_of_not_mem hmem []
      rwa [List.append_nil] at hsplit
  next => cases h

theorem exists_of_openAssignment {cs : List Char} (h : OpenAssignment cs) :
    ∃ q rest, openedLiteral? cs = some (q, rest) ∧ isQuote q = true ∧ q ∉ rest := by
  obtain ⟨head, _, hhead, q, rest, rfl, hq, hmem⟩ := h
  refine ⟨q, rest, ?_, hq, hmem⟩
  rw [openedLiteral?_eq, hhead]
  exact if_pos hq

/-! ## Alternatives -/

theorem isSome_literalContents?_iff {cs : List Char} : (literalContents? cs).isSome = true ↔
    ∃ q c, cs = enclosed q c [] ∧ isQuote q = true ∧ q ∉ c := by
  constructor
  · intro h
    rcases cs with _ | ⟨q, cs⟩
    · cases h
    rw [literalContents?, literal?] at h
    split at h
    next c hliteral =>
      split at hliteral
      next hq =>
        obtain ⟨rfl, hmem⟩ := splitFirst?_eq_some hliteral
        exact ⟨q, c, rfl, hq, hmem⟩
      next => cases hliteral
    next => cases h
  · rintro ⟨q, c, rfl, hq, hmem⟩
    rw [enclosed, literalContents?, literal?, if_pos hq, splitFirst?_append hmem]
    rfl

/-- A member is a literal if there are only blanks around the literal. -/
theorem isSome_literalContents?_trim_iff {cs : List Char} :
    (literalContents? (trim cs)).isSome = true ↔ ∃ before q c after,
      cs = before ++ enclosed q c after ∧ allBlank before = true ∧ allBlank after = true ∧
        isQuote q = true ∧ q ∉ c := by
  rw [isSome_literalContents?_iff]
  constructor
  · rintro ⟨q, c, htrim, hq, hmem⟩
    obtain ⟨before, after, hcs, hbefore, hafter⟩ := exists_blanks_of_trim cs
    refine ⟨before, q, c, after, ?_, hbefore, hafter, hq, hmem⟩
    rw [hcs, htrim]
    simp [enclosed]
  · rintro ⟨before, q, c, after, rfl, hbefore, hafter, hq, hmem⟩
    refine ⟨q, c, ?_, hq, hmem⟩
    have hleft : trimLeft before = [] := List.dropWhile_eq_nil_iff.mpr (List.all_eq_true.mp hbefore)
    have hright : trimRight after = [] := by
      rw [← allBlank_reverse] at hafter
      rw [trimRight, List.dropWhile_eq_nil_iff.mpr (List.all_eq_true.mp hafter), List.reverse_nil]
    rw [trim_enclosed hq, hleft, hright, List.nil_append]

/-- A character stands on one side of a text that does not hold it. -/
theorem append_cons_cases {q : Char} {s t u k v : List Char} (hq : q ∉ k)
    (h : u ++ (k ++ v) = s ++ q :: t) :
    (∃ u', u = s ++ q :: u' ∧ t = u' ++ (k ++ v)) ∨
      ∃ v', v = v' ++ q :: t ∧ s = u ++ (k ++ v') := by
  rcases List.append_eq_append_iff.mp h with ⟨w, rfl, hw⟩ | ⟨w, rfl, hw⟩
  · rcases List.append_eq_append_iff.mp hw with ⟨v', rfl, rfl⟩ | ⟨w', rfl, hw'⟩
    · exact .inr ⟨v', rfl, rfl⟩
    · rcases w' with _ | ⟨d, w'⟩
      · exact .inr ⟨[], hw'.symm, by simp⟩
      · obtain ⟨rfl, -⟩ := List.cons.inj hw'
        exact absurd (by simp) hq
  · rcases w with _ | ⟨d, u'⟩
    · rcases k with _ | ⟨d, k⟩
      · exact .inr ⟨[], hw.symm, by simp⟩
      · obtain ⟨rfl, -⟩ := List.cons.inj hw
        exact absurd (by simp) hq
    · obtain ⟨rfl, rfl⟩ := List.cons.inj hw
      exact .inl ⟨u', rfl, rfl⟩

/-- A member that holds a slash outside quotes is a literal that goes around the slash. -/
theorem literal_around {u k v : List Char} (hslash : '/' ∈ k) (hquotes : QuoteFree k)
    (h : (isIdent (trim (u ++ (k ++ v))) || (literalContents? (trim (u ++ (k ++ v)))).isSome) =
      true) : v ≠ [] ∧ (literalContents? (trim (u ++ v))).isSome = true := by
  rcases Bool.or_eq_true_iff.mp h with hident | hliteral
  · obtain ⟨before, after, htext, hbefore, hafter⟩ := exists_blanks_of_trim (u ++ (k ++ v))
    have hmem : '/' ∈ before ++ trim (u ++ (k ++ v)) ++ after := by
      rw [← htext]
      simp [hslash]
    rcases List.mem_append.mp hmem with hmem | hmem
    · rcases List.mem_append.mp hmem with hmem | hmem
      · exact nomatch List.all_eq_true.mp hbefore '/' hmem
      · exact nomatch isIdentRest_of_isIdent hident '/' hmem
    · exact nomatch List.all_eq_true.mp hafter '/' hmem
  · obtain ⟨before, q, c, after, htext, hbefore, hafter, hq, hmem⟩ :=
      isSome_literalContents?_trim_iff.mp hliteral
    have hqk : q ∉ k := hquotes.not_mem hq
    rcases append_cons_cases hqk htext with ⟨u', rfl, hrest⟩ | ⟨v', rfl, rfl⟩
    · rcases append_cons_cases hqk hrest.symm with ⟨u'', rfl, rfl⟩ | ⟨v', rfl, rfl⟩
      · exact nomatch List.all_eq_true.mp hafter '/' (by simp [hslash])
      · refine ⟨by simp, isSome_literalContents?_trim_iff.mpr
          ⟨before, q, u' ++ v', after, ?_, hbefore, hafter, hq, ?_⟩⟩
        · simp [enclosed]
        · simp only [List.mem_append, not_or] at hmem ⊢
          exact ⟨hmem.1, hmem.2.2⟩
    · exact nomatch List.all_eq_true.mp hbefore '/' (by simp [hslash])

/-- If a body lists alternatives with something in it that holds a slash outside quotes and no bar, it
lists alternatives without it. -/
theorem isAlternatives_of_slash {k x z w : List Char} {ws : List (List Char)} (hslash : '/' ∈ k)
    (hquotes : QuoteFree k) (hbar : '|' ∉ k) (hz : fields (· == '|') z = w :: ws)
    (h : isAlternatives (x ++ (k ++ z)) = true) : w ≠ [] ∧ isAlternatives (x ++ z) = true := by
  obtain ⟨fs, f, hfields⟩ := exists_fields_append (· == '|') x
  have hlong := hfields (fields_append (fun d hd ↦ by
    rw [beq_eq_false_iff_ne]
    exact fun heq ↦ hbar (heq ▸ hd)) hz)
  simp only [isAlternatives, hlong, List.map_append, List.map_cons, List.all_append, List.all_cons,
    List.length_append, List.length_cons, Bool.and_eq_true] at h
  obtain ⟨hlength, hbefore, hmember, hbehind⟩ := h
  obtain ⟨hne, hliteral⟩ := literal_around hslash hquotes hmember
  refine ⟨hne, ?_⟩
  simp only [isAlternatives, hfields hz, List.map_append, List.map_cons, List.all_append,
    List.all_cons, List.length_append, List.length_cons, Bool.and_eq_true, hliteral, Bool.or_true]
  exact ⟨hlength, hbefore, trivial, hbehind⟩

/-! ## Comments that nothing is read of -/

/-- Nothing of a comment between `x` and `y` of a rule body is read. -/
structure LineComment.Ignored (c : LineComment) (x y : List Char) : Prop where
  /-- No action goes over the place. -/
  actions : ∀ u, u <:+ x → u ≠ [] → ∀ r, action? (u ++ y) = some r → y <:+ r.2
  /-- No assignment goes over the place. -/
  assignments : ∀ u, u <:+ x → u ≠ [] → ∀ r, assignment? (u ++ y) = some r → y <:+ r.2
  /-- No action begins in the text of the comment. -/
  noAction : Unread action? c.text y
  /-- No assignment begins in it. -/
  noAssignment : Unread assignment? c.text y
  /-- There are no quotes in it. -/
  quotes : QuoteFree c.text
  /-- No group begins in it. -/
  opening : '(' ∉ c.text
  /-- No group ends in it. -/
  closing : ')' ∉ c.text
  /-- No cardinality follows that allows none. -/
  cardinality : allowsNone (blankActions y) = false
  /-- The body lists no alternatives. -/
  alternatives : isAlternatives (x ++ y) = false

namespace LineComment

variable (c : LineComment) {x y : List Char}

/-- What is read before a comment is no action that goes over into the comment. -/
theorem apart_action?_chars (x y : List Char) : Apart action? x (c.chars ++ y) := by
  intro u _ hne
  have hlead := decided_action?.apart_blanks (x := u) c.lead_blank u List.suffix_rfl hne
  rw [c.append_chars, action?_append_slash, hlead, Option.map_map]
  simp [chars, Function.comp_def]

/-- If no assignment goes over the end of the line, none goes over into a comment there. -/
theorem apart_assignment?_chars (hquotes : QuoteFree c.text) (hy : Breaks y)
    (h : Apart assignment? x y) : Apart assignment? x (c.chars ++ y) := by
  intro u hu hne
  by_cases hopen : OpenAssignment (u ++ c.lead)
  · -- the literal is not closed before the comment, nor in it, nor behind it
    obtain ⟨q, rest, hopened, hq, hmem⟩ := exists_of_openAssignment hopen
    obtain ⟨v, rfl, hv⟩ := decided_openedLiteral?.exists_of_blanks c.lead_blank hopened
    rw [List.mem_append, not_or] at hmem
    have hu_none := (assignment?_eq_none_iff_of_openedLiteral? hv).mpr hmem.1
    have hy_none := h u hu hne
    rw [hu_none, Option.map_none, assignment?_eq_none_iff_of_openedLiteral?
      (decided_openedLiteral?.append hv hy), List.mem_append, not_or] at hy_none
    have hchars : q ∉ c.chars := by
      have hslash : q ≠ '/' := ne_of_class hq rfl
      rw [chars, List.mem_append, List.mem_cons, List.mem_cons]
      rintro (hlead | heq | heq | htext)
      · exact hmem.2 hlead
      · exact hslash heq
      · exact hslash heq
      · exact hquotes.not_mem hq htext
    rw [hu_none, Option.map_none, assignment?_eq_none_iff_of_openedLiteral?
      (decided_openedLiteral?.append hv (c.breaks_chars y).1), List.mem_append, List.mem_append]
    rintro (hin | hin | hin)
    · exact hmem.1 hin
    · exact hchars hin
    · exact hy_none.2 hin
  · have hlead := decided_assignment?.apart_blanks (x := u) c.lead_blank u List.suffix_rfl hne
    rw [c.append_chars, assignment?_append_slash hopen, hlead, Option.map_map]
    simp [chars, Function.comp_def]

/-- If a body lists alternatives with a comment in it, the comment stands in a literal, and the body
lists alternatives without it. -/
theorem isAlternatives_of_commented (hquotes : QuoteFree c.text)
    (h : isAlternatives (x ++ (c.chars ++ y)) = true) :
    isAlternatives (x ++ y) = true := by
  have hlead : QuoteFree (c.lead ++ ['/', '/']) :=
    c.forall_lead (fun d ↦ isQuote_of_isBlank) rfl
  have hlead_bar : '|' ∉ c.lead ++ ['/', '/'] := fun hmem ↦
    c.forall_lead (p := (· ≠ '|')) (fun d hd ↦ ne_of_class hd rfl) (by decide) _ hmem rfl
  rw [c.chars_eq] at h
  by_cases hbar : '|' ∈ c.text
  · obtain ⟨before, after, htext, hmem⟩ := List.eq_append_cons_of_mem hbar
    -- the member would end in the comment, with no quote
    have hcut : c.lead ++ ['/', '/'] ++ c.text ++ y =
        (c.lead ++ ['/', '/'] ++ before) ++ '|' :: (after ++ y) := by
      simp [htext]
    rw [hcut] at h
    rw [htext] at hquotes
    have hbefore : QuoteFree (c.lead ++ ['/', '/'] ++ before) :=
      List.forall_mem_append.mpr ⟨hlead, fun d hd ↦ hquotes d (List.mem_append_left _ hd)⟩
    have hmember := isAlternatives_of_slash (by simp) hbefore (by simpa [hmem] using hlead_bar)
      (fields_cons_of_sep (by decide) _) h
    exact absurd rfl hmember.1
  · rcases hy : fields (· == '|') y with _ | ⟨w, ws⟩
    · exact absurd hy (fields_ne_nil _ y)
    · exact (isAlternatives_of_slash (by simp) (List.forall_mem_append.mpr ⟨hlead, hquotes⟩)
        (by simpa [hbar] using hlead_bar) hy h).2

theorem Ignored.unnoticed {c : LineComment} (h : c.Ignored x y) (hy : Breaks y) :
    Unnoticed c.chars x y := by
  have hassignments := decided_assignment?.apart hy h.assignments
  have hbrace : '{' ∉ c.lead ++ ['/', '/'] := fun hmem ↦
    c.forall_lead (p := (· ≠ '{')) (fun d hd ↦ ne_of_class hd rfl) (by decide) _ hmem rfl
  have hparen : ∀ e, isBlank e = false → '/' ≠ e → e ∉ c.text → e ∉ c.chars :=
    fun e he hslash htext hmem ↦ c.forall_chars (p := (· ≠ e)) (fun d hd ↦ ne_of_class hd he) hslash
      (fun d hd heq ↦ htext (heq ▸ hd)) e hmem rfl
  have hblank : allowsNone (c.chars ++ blankActions y) = false := by
    rw [chars, List.append_assoc, List.cons_append, allowsNone_append, if_pos c.lead_blank, allowsNone,
      trimLeft_of_startsFirm ⟨'/', _, rfl, rfl⟩]
    rfl
  exact {
    actions := decided_action?.apart hy h.actions
    actions' := c.apart_action?_chars x y
    assignments := hassignments
    assignments' := c.apart_assignment?_chars h.quotes hy hassignments
    noAction := by
      rw [c.chars_eq]
      exact (unread_action? hbrace _).append h.noAction
    noAssignment := by
      rw [c.chars_eq]
      exact (unread_assignment? (c.forall_lead (fun d ↦ isIdentStart_of_isBlank) (by decide))
        _).append h.noAssignment
    quotes := c.forall_chars (fun d ↦ isQuote_of_isBlank) rfl h.quotes
    opening := hparen '(' rfl (by decide) h.opening
    closing := hparen ')' rfl (by decide) h.closing
    cardinality := by rw [hblank, h.cardinality] }

/-- **A rule produces the same with a comment in its body that is ignored.** -/
theorem Ignored.produced {c : LineComment} (h : c.Ignored x y) (hy : Breaks y) (name : String)
    (returns : Option String) (notes : Annotations) (types : RuleTypes) :
    Rule.produced ⟨name, returns, trim (x ++ (c.chars ++ y)), notes⟩ types =
      Rule.produced ⟨name, returns, trim (x ++ y), notes⟩ types := by
  rw [Rule.produced_trim, Rule.produced_trim, Rule.produced_inserted (h.unnoticed hy)]

/-- A rule lists no alternatives with a comment in its body that is ignored. -/
theorem Ignored.isAlternatives_commented {c : LineComment} (h : c.Ignored x y) :
    isAlternatives (trim (x ++ (c.chars ++ y))) = false ∧ isAlternatives (trim (x ++ y)) = false := by
  rw [isAlternatives_trim, isAlternatives_trim]
  refine ⟨?_, h.alternatives⟩
  rw [Bool.eq_false_iff]
  intro hlists
  exact Bool.eq_false_iff.mp h.alternatives (c.isAlternatives_of_commented h.quotes hlists)

end LineComment

/-! ## Rules -/

/-- A rule is read up to the end of its statement. -/
theorem ruleAt?_of_statement {notes : Annotations} {start b z s after : List Char} {head : RuleHead}
    (hhead : ruleHead? start = some (head, b)) (hs : statement? .plain (b ++ z) = some (s, after)) :
    ruleAt? notes (start ++ z) = some (.ok
      (if head.fragment then (.fragment, after)
      else (.rule ⟨head.name, head.returns, trim s, notes⟩, after))) := by
  rw [ruleAt?, endsWith_ruleHead?.append hhead z, Option.map_some]
  dsimp only
  rw [body, hs]
  rfl

/-- What becomes of a declaration when the body of a rule is put in another way. -/
inductive BodyReplaced (body body' : List Char) : Declaration → Declaration → Prop where
  /-- The declaration is a fragment, whose body is not kept. -/
  | fragment : BodyReplaced body body' .fragment .fragment
  /-- The declaration is a rule. -/
  | rule (r : Rule) (h : r.body = body) :
    BodyReplaced body body' (.rule r) (.rule { r with body := body' })

/-- **A rule with a line comment in its body is read up to where it ended**, and the comment stands in
its body. -/
theorem declaration_commented_rule (c : LineComment) {notes : Annotations}
    {start b y post after after' : List Char} {head : RuleHead} {d : Declaration}
    (hhead : ruleHead? start = some (head, b)) (houtside : EndsOutside (b ++ ['\n']))
    (hpost : statement? .plain post = some (y, after))
    (hd : d = .fragment ∨ ∃ r, d = .rule r)
    (h : declaration notes (start ++ '\n' :: post) = .ok (d, after')) :
    ∃ d', declaration notes (start ++ (c.chars ++ '\n' :: post)) = .ok (d', after') ∧
      BodyReplaced (trim (b ++ '\n' :: y)) (trim (b ++ (c.chars ++ '\n' :: y))) d d' := by
  have hplain : statement? .plain (b ++ '\n' :: post) = some (b ++ '\n' :: y, after) := by
    rw [List.append_cons, statement?_append houtside (.inl (by simp)), hpost]
    simp
  have hcommented : statement? .plain (b ++ (c.chars ++ '\n' :: post)) =
      some (b ++ (c.chars ++ '\n' :: y), after) := by
    have hmode : StatementMode.plain ≠ .quoted '\n' := nofun
    rw [EndsOutside, List.append_assoc] at houtside
    rw [c.statement?_commented hmode houtside, hpost]
    rfl
  have hread : ruleAt? notes (start ++ '\n' :: post) = _ := ruleAt?_of_statement hhead hplain
  have hread' : ruleAt? notes (start ++ (c.chars ++ '\n' :: post)) = _ :=
    ruleAt?_of_statement hhead hcommented
  -- the kinds of declaration that are tried first are told before the colon
  obtain ⟨s, rfl, -⟩ := endsWith_ruleHead? start head b hhead
  simp only [List.append_assoc, List.cons_append] at h hread hread' ⊢
  obtain ⟨kind, hkind, hkinds, hothers⟩ := exists_kind_of_declaration bar_colon
    (referenceAt?_eq_none_of_declaration bar_colon rfl h) h
  obtain rfl := kind_of_rule hd kind hkind hkinds
  have hdeclaration := hothers _ hread'
  rw [hread] at hkinds
  cases hfragment : head.fragment with
  | true =>
    rw [hfragment] at hkinds hdeclaration
    cases hkinds
    exact ⟨.fragment, hdeclaration, .fragment⟩
  | false =>
    rw [hfragment] at hkinds hdeclaration
    cases hkinds
    exact ⟨_, hdeclaration, .rule _ rfl⟩

end DiagramForge.Grammar
