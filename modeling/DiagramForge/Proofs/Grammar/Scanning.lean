import DiagramForge.Proofs.Grammar.DeclaredLiterals
import DiagramForge.Proofs.Grammar.RoundTrip

/-!
# Scanning up to a bar

The scanner goes from declaration to declaration. If it comes to a place before a bar, such as a
quote or the mark at the end of a head, it comes to the same place, and has read the same
declarations, whatever follows the bar: `ScansTo.replaced`. So what is scanned before a literal does
not depend on the contents of the literal: `ScansTo.enclosed`.

A reading can run over the bar only if it takes it. So a reading that leaves at least the bar and what
follows it has stopped before the bar, and stops there whatever follows. This is shown for each loop
that a declaration is read with, and for the heads it is their likeness on texts that agree up to the
bar.
-/

namespace DiagramForge.Grammar

open Text

variable {q : Char} {c c' : List Char}

/-! ## Block comments -/

/-- Where a text begins and where the comment it starts in has begun matters for faults only. -/
theorem blankCommentsFrom_shifted {opened opened' : Option Nat} {offset : Nat}
    {cs text : List Char} (h : blankCommentsFrom opened offset cs = .ok text)
    (hopened : opened'.isSome = opened.isSome) (offset' : Nat) :
    blankCommentsFrom opened' offset' cs = .ok text := by
  induction opened, offset, cs using blankCommentsFrom.induct generalizing opened' offset' text with
  | case1 offset =>
    obtain rfl := Option.not_isSome_iff_eq_none.mp (Bool.eq_false_iff.mp hopened)
    exact h
  | case2 offset start => cases h
  | case3 offset d =>
    obtain rfl := Option.not_isSome_iff_eq_none.mp (Bool.eq_false_iff.mp hopened)
    exact h
  | case4 offset d start => cases h
  | case5 offset d e cs hopen ih =>
    obtain rfl := Option.not_isSome_iff_eq_none.mp (Bool.eq_false_iff.mp hopened)
    rw [blankCommentsFrom, if_pos hopen] at h ⊢
    obtain ⟨text', htext, rfl⟩ := exists_of_map_eq_ok h
    have hsome : (some offset').isSome = (some offset).isSome := rfl
    rw [ih htext hsome]
    rfl
  | case6 offset d e cs hopen ih =>
    obtain rfl := Option.not_isSome_iff_eq_none.mp (Bool.eq_false_iff.mp hopened)
    rw [blankCommentsFrom, if_neg hopen] at h ⊢
    obtain ⟨text', htext, rfl⟩ := exists_of_map_eq_ok h
    rw [ih htext rfl]
    rfl
  | case7 offset d e cs start hclose ih =>
    obtain ⟨start', rfl⟩ := Option.isSome_iff_exists.mp hopened
    rw [blankCommentsFrom, if_pos hclose] at h ⊢
    obtain ⟨text', htext, rfl⟩ := exists_of_map_eq_ok h
    rw [ih htext rfl]
    rfl
  | case8 offset d e cs start hclose ih =>
    obtain ⟨start', rfl⟩ := Option.isSome_iff_exists.mp hopened
    rw [blankCommentsFrom, if_neg hclose] at h ⊢
    obtain ⟨text', htext, rfl⟩ := exists_of_map_eq_ok h
    have hsome : (some start').isSome = (some start).isSome := rfl
    rw [ih htext hsome]
    rfl

/-- A character other than a slash begins no block comment. -/
theorem blankCommentsFrom_cons {e : Char} (he : e ≠ '/') {z text : List Char}
    (h : blankComments z = .ok text) (offset : Nat) :
    blankCommentsFrom none offset (e :: z) = .ok (e :: text) := by
  have hslash : ¬ (e == '/') = true := mt eq_of_beq he
  cases z with
  | nil =>
    cases h
    rfl
  | cons d z =>
    have hopen : ¬ (e == '/' && d == '*') = true := by
      rw [Bool.and_eq_true]
      exact fun h ↦ hslash h.1
    rw [blankCommentsFrom, if_neg hopen, blankCommentsFrom_shifted h rfl]
    rfl

/-- If the comments of a text are closed, they are blanked as without what follows, unless a slash at
the end of the text opens a comment with it. -/
theorem blankCommentsFrom_append {z more : List Char} (hz : z.head? ≠ some '*')
    (hmore : blankComments z = .ok more) {opened : Option Nat} {offset : Nat} {cs text : List Char}
    (h : blankCommentsFrom opened offset cs = .ok text) :
    blankCommentsFrom opened offset (cs ++ z) = .ok (text ++ more) := by
  have hopened : (none : Option Nat).isSome = (none : Option Nat).isSome := rfl
  induction opened, offset, cs using blankCommentsFrom.induct generalizing text with
  | case1 offset =>
    cases h
    exact blankCommentsFrom_shifted hmore hopened offset
  | case2 offset start => cases h
  | case3 offset d =>
    cases h
    rcases z with _ | ⟨e, z⟩
    · cases hmore
      rfl
    · have hopen : ¬ (d == '/' && e == '*') = true := by
        rw [Bool.and_eq_true, beq_iff_eq, beq_iff_eq]
        rintro ⟨-, rfl⟩
        exact hz rfl
      rw [List.singleton_append, blankCommentsFrom, if_neg hopen,
        blankCommentsFrom_shifted hmore hopened]
      rfl
  | case4 offset d start => cases h
  | case5 offset d e cs hopen ih =>
    rw [blankCommentsFrom, if_pos hopen] at h
    obtain ⟨text', htext, rfl⟩ := exists_of_map_eq_ok h
    rw [List.cons_append, List.cons_append, blankCommentsFrom, if_pos hopen, ih htext]
    rfl
  | case6 offset d e cs hopen ih =>
    rw [blankCommentsFrom, if_neg hopen] at h
    obtain ⟨text', htext, rfl⟩ := exists_of_map_eq_ok h
    rw [List.cons_append, List.cons_append, blankCommentsFrom, if_neg hopen]
    rw [← List.cons_append, ih htext]
    rfl
  | case7 offset d e cs start hclose ih =>
    rw [blankCommentsFrom, if_pos hclose] at h
    obtain ⟨text', htext, rfl⟩ := exists_of_map_eq_ok h
    rw [List.cons_append, List.cons_append, blankCommentsFrom, if_pos hclose, ih htext]
    rfl
  | case8 offset d e cs start hclose ih =>
    rw [blankCommentsFrom, if_neg hclose] at h
    obtain ⟨text', htext, rfl⟩ := exists_of_map_eq_ok h
    rw [List.cons_append, List.cons_append, blankCommentsFrom, if_neg hclose]
    rw [← List.cons_append, ih htext]
    rfl

/-- A character that neither opens nor closes comments is left as it is. -/
theorem blankCommentsFrom_append_cons {m : Char} (hm : m ≠ '/' ∧ m ≠ '*') {opened : Option Nat}
    {offset : Nat} {cs text z more : List Char} (h : blankCommentsFrom opened offset cs = .ok text)
    (hmore : blankComments z = .ok more) :
    blankCommentsFrom opened offset (cs ++ m :: z) = .ok (text ++ m :: more) :=
  blankCommentsFrom_append (z := m :: z) (mt Option.some.inj hm.2)
    (blankCommentsFrom_cons hm.1 hmore 0) h

/-- A literal is left as it is. -/
theorem blankComments_enclosed (hq : isQuote q = true) (hc : Contents q c)
    {pre post before behind : List Char} (hpre : blankComments pre = .ok before)
    (hpost : blankComments post = .ok behind) :
    blankComments (pre ++ enclosed q c post) = .ok (before ++ enclosed q c behind) := by
  have hquote : q ≠ '/' ∧ q ≠ '*' := ⟨ne_of_class hq rfl, ne_of_class hq rfl⟩
  exact blankCommentsFrom_append_cons hquote hpre <|
    blankCommentsFrom_append_cons hquote (blankCommentsFrom_of_plain hc.comment 0) hpost

/-! ## Bars -/

/-- A character at which blanks and names end and which is no slash, comma or semicolon: where it
stands, what is read of a declaration either stops or comes to its body. -/
structure Bar (k : Char) : Prop where
  /-- It is no blank. -/
  blank : isBlank k = false
  /-- It is no part of a name. -/
  name : isIdentRest k = false
  /-- It begins no line comment. -/
  slash : k ≠ '/'
  /-- It continues no list of names. -/
  comma : k ≠ ','
  /-- It ends no statement. -/
  semicolon : k ≠ ';'

theorem bar_of_isQuote (hq : isQuote q = true) : Bar q :=
  ⟨isBlank_of_isQuote hq, isIdentRest_of_isQuote hq, ne_of_class hq rfl, ne_of_class hq rfl,
    ne_of_class hq rfl⟩

section Bar

variable {k : Char}

theorem Bar.startsMark (hk : Bar k) (z : List Char) : StartsMark (k :: z) :=
  startsMark_cons hk.blank hk.name z

theorem Bar.ne_newline (hk : Bar k) : k ≠ '\n' := by
  rintro rfl
  exact nomatch hk.blank

/-- Two texts agree up to a bar, or they begin behind it. -/
def AgreeAround (k : Char) (z z' cs cs' : List Char) : Prop :=
  Agree (k :: z) (k :: z') cs cs' ∨ (cs = z ∧ cs' = z')

/-- A mark may be the bar. -/
theorem alike_mark?_bar (hk : Bar k) (z z' : List Char) (mark : Char) :
    Alike (Agree (k :: z) (k :: z')) (AgreeAround k z z') (mark? mark) := by
  rintro _ _ ⟨u, rfl, rfl⟩
  rw [mark?, mark?, trimLeft_append_mark (hk.startsMark z), trimLeft_append_mark (hk.startsMark z')]
  rcases trimLeft u with _ | ⟨d, v⟩
  · by_cases hmark : (mark == k) = true
    · simp only [List.nil_append, after?, if_pos hmark]
      exact .some (.inr ⟨rfl, rfl⟩)
    · simp only [List.nil_append, after?, if_neg hmark]
      exact .none
  · by_cases hmark : (mark == d) = true
    · simp only [List.cons_append, after?, if_pos hmark]
      exact .some (.inl (agree_append _ _ v))
    · simp only [List.cons_append, after?, if_neg hmark]
      exact .none

/-- If what is left of a text holds the bar, it begins before the bar. -/
theorem AgreeAround.agree {z z' cs cs' : List Char} (h : AgreeAround k z z' cs cs')
    (hle : (k :: z).length ≤ cs.length) : Agree (k :: z) (k :: z') cs cs' := by
  rcases h with h | ⟨rfl, rfl⟩
  · exact h
  · rw [List.length_cons] at hle
    omega

end Bar

/-! ## Loops that stop before a bar -/

section Bar

variable {k : Char}

/-- A mark that is found before the end of a text is found whatever follows the text. -/
theorem splitFirst?_stops {mark : Char} {u w before rest : List Char}
    (h : splitFirst? [mark] (u ++ w) = some (before, rest)) (hle : w.length ≤ rest.length) :
    ∃ s, rest = s ++ w ∧ ∀ w', splitFirst? [mark] (u ++ w') = some (before, s ++ w') := by
  by_cases hmem : mark ∈ u
  · obtain ⟨before', s, hsplit⟩ := splitFirst?_append_of_mem hmem
    rw [hsplit] at h
    cases h
    exact ⟨s, rfl, hsplit⟩
  · rw [splitFirst?_append_of_not_mem hmem] at h
    obtain ⟨r, hr, heq⟩ := Option.map_eq_some_iff.mp h
    have hlength := congrArg List.length (eq_append_of_splitFirst? hr)
    cases heq
    rw [List.length_append, List.length_cons] at hlength
    omega

/-- The end of a line that is found before a bar is found whatever follows the bar. -/
theorem dropWhile_stops (hk : Bar k) {u z : List Char}
    (hle : (k :: z).length ≤ ((u ++ k :: z).dropWhile (· != '\n')).length) :
    ∃ s, ∀ z', (u ++ k :: z').dropWhile (· != '\n') = s ++ k :: z' ∧
      (u ++ k :: z').takeWhile (· != '\n') = (u ++ k :: z).takeWhile (· != '\n') := by
  have hline : ∀ d : Char, d ≠ '\n' → (d != '\n') = true := fun d hd ↦ bne_iff_ne.mpr hd
  by_cases hmem : '\n' ∈ u
  · obtain ⟨before, after, rfl, hbefore⟩ := List.eq_append_cons_of_mem hmem
    have hbefore' : ∀ d ∈ before, (d != '\n') = true := fun d hd ↦ hline d fun heq ↦
      hbefore (heq ▸ hd)
    have hread : ∀ z', ((before ++ '\n' :: after) ++ k :: z').dropWhile (· != '\n') =
          ('\n' :: after) ++ k :: z' ∧
        ((before ++ '\n' :: after) ++ k :: z').takeWhile (· != '\n') = before := by
      intro z'
      rw [List.append_assoc]
      have hend : ∀ d more, '\n' :: after ++ k :: z' = d :: more → (d != '\n') = false := by
        rintro _ _ heq
        cases heq
        rfl
      exact (takeWhile_append_of_all hbefore' hend).symm
    exact ⟨'\n' :: after, fun z' ↦ ⟨(hread z').1, (hread z').2.trans (hread z).2.symm⟩⟩
  · have hu : ∀ d ∈ u, (d != '\n') = true := fun d hd ↦ hline d fun heq ↦ hmem (heq ▸ hd)
    have hdrop : (k :: z).dropWhile (· != '\n') = z.dropWhile (· != '\n') :=
      List.dropWhile_cons_of_pos (hline k hk.ne_newline)
    have hshort := length_dropWhile_le (· != '\n') z
    rw [List.dropWhile_append_of_pos hu, hdrop, List.length_cons] at hle
    omega

/-- A statement that ends before a bar ends there whatever follows the bar. -/
theorem statement?_stops (hk : Bar k) {mode : StatementMode} {u z t rest : List Char}
    (h : statement? mode (u ++ k :: z) = some (t, rest)) (hle : (k :: z).length ≤ rest.length) :
    ∃ s, rest = s ++ k :: z ∧ ∀ z', statement? mode (u ++ k :: z') = some (t, s ++ k :: z') := by
  induction mode, u using statement?.induct generalizing t with
  | case1 mode =>
    -- the statement would take the bar, and what remains would be too short
    have hlt := length_lt_of_statement? h
    rw [List.nil_append] at hlt
    omega
  | case2 d u ih =>
    rw [List.cons_append, statement?] at h
    obtain ⟨r, hr, heq⟩ := Option.map_eq_some_iff.mp h
    cases heq
    obtain ⟨s, hs, hread⟩ := ih hr
    refine ⟨s, hs, fun z' ↦ ?_⟩
    rw [List.cons_append, statement?, hread]
    rfl
  | case3 e d u ih =>
    rw [List.cons_append, List.cons_append, statement?] at h
    obtain ⟨r, hr, heq⟩ := Option.map_eq_some_iff.mp h
    cases heq
    obtain ⟨s, hs, hread⟩ := ih hr
    refine ⟨s, hs, fun z' ↦ ?_⟩
    rw [List.cons_append, List.cons_append, statement?, hread]
    rfl
  | case4 e d u hstep ih =>
    by_cases hd : d = '\\'
    · -- the escape takes the bar
      cases u with
      | nil =>
        subst hd
        rw [List.singleton_append, statement?] at h
        obtain ⟨r, hr, heq⟩ := Option.map_eq_some_iff.mp h
        cases heq
        have hlt := length_lt_of_statement? hr
        rw [List.length_cons] at hle
        omega
      | cons f u => exact (hstep f u hd rfl).elim
    · rw [List.cons_append, statement?.eq_4 _ _ _ fun _ _ heq _ ↦ hd heq] at h
      obtain ⟨r, hr, heq⟩ := Option.map_eq_some_iff.mp h
      cases heq
      obtain ⟨s, hs, hread⟩ := ih hr
      refine ⟨s, hs, fun z' ↦ ?_⟩
      rw [List.cons_append, statement?.eq_4 _ _ _ fun _ _ heq _ ↦ hd heq, hread]
      rfl
  | case5 d u hend =>
    rw [List.cons_append, statement?, if_pos hend] at h
    cases h
    refine ⟨u, rfl, fun z' ↦ ?_⟩
    rw [List.cons_append, statement?, if_pos hend]
  | case6 d u hend ih =>
    -- a slash before the bar begins no comment with it
    have hnext : ∀ z', u = [] → d ≠ '/' ∨ (k :: z').head? ≠ some '/' := fun z' _ ↦
      .inr fun heq ↦ hk.slash (Option.some.inj heq)
    rw [List.cons_append, statement?, if_neg hend, modeAfter_append (hnext z)] at h
    obtain ⟨r, hr, heq⟩ := Option.map_eq_some_iff.mp h
    cases heq
    obtain ⟨s, hs, hread⟩ := ih hr
    refine ⟨s, hs, fun z' ↦ ?_⟩
    rw [List.cons_append, statement?, if_neg hend, modeAfter_append (hnext z'), hread]
    rfl

theorem body_stops (hk : Bar k) {u z t rest : List Char}
    (h : body (u ++ k :: z) = .ok (t, rest)) (hle : (k :: z).length ≤ rest.length) :
    ∃ s, rest = s ++ k :: z ∧ ∀ z', body (u ++ k :: z') = .ok (t, s ++ k :: z') := by
  have hstatement : statement? .plain (u ++ k :: z) = some (t, rest) := by
    rw [body] at h
    split at h
    · next r hr => rw [hr, Except.ok.inj h]
    · cases h
  obtain ⟨s, hs, hread⟩ := statement?_stops hk hstatement hle
  exact ⟨s, hs, fun z' ↦ by rw [body, hread]⟩

theorem literal?_stops {u z t rest : List Char}
    (h : literal? (u ++ k :: z) = some (t, rest)) (hle : (k :: z).length ≤ rest.length) :
    ∃ s, rest = s ++ k :: z ∧ ∀ z', literal? (u ++ k :: z') = some (t, s ++ k :: z') := by
  cases u with
  | nil =>
    have hlt := length_lt_of_literal? h
    rw [List.nil_append] at hlt
    omega
  | cons d u =>
    rw [List.cons_append, literal?] at h
    split at h
    · next hd =>
      obtain ⟨s, hs, hread⟩ := splitFirst?_stops h hle
      exact ⟨s, hs, fun z' ↦ by rw [List.cons_append, literal?, if_pos hd, hread]⟩
    · cases h

/-! ## Declarations that stop before a bar -/

/-- A kind of declaration that is read up to a place before `e` is read up to there with `e'` in its
stead. -/
def Stops (e e' : List Char) (kind : List Char → Reading Declaration) : Prop :=
  ∀ {u d rest}, kind (u ++ e) = some (.ok (d, rest)) → e.length ≤ rest.length →
    ∃ rest', Agree e e' rest rest' ∧ kind (u ++ e') = some (.ok (d, rest'))

variable (hk : Bar k) (z z' : List Char)

include hk

theorem stops_headerAt? : Stops (k :: z) (k :: z') headerAt? := by
  intro u d rest h hle
  obtain ⟨r, hhead, heq⟩ := Option.map_eq_some_iff.mp h
  obtain ⟨r', hhead', hname, v, hv, hv'⟩ := (alike_headerHead? (hk.startsMark z)
    (hk.startsMark z')).exists_of_eq_some (agree_append _ _ u) hhead
  rw [Except.ok.injEq, Prod.mk.injEq, hv] at heq
  obtain ⟨hd, hrest⟩ := heq
  rw [← hrest] at hle
  obtain ⟨s, hs⟩ := dropWhile_stops hk hle
  refine ⟨s ++ k :: z', ⟨s, hrest.symm.trans (hs z).1, rfl⟩, ?_⟩
  rw [headerAt?, hhead', Option.map_some]
  dsimp only
  rw [← hname, hd, hv', (hs z').1]

theorem stops_referenceAt? : Stops (k :: z) (k :: z') referenceAt? := by
  intro u d rest h hle
  obtain ⟨⟨t, mid⟩, hread, heq⟩ := Option.map_eq_some_iff.mp h
  obtain ⟨w, hword, hliteral⟩ := Option.bind_eq_some_iff.mp hread
  cases heq
  obtain ⟨w', hword', v, rfl, rfl⟩ := (alike_keyword? (hk.startsMark z) (hk.startsMark z')
    (by decide)).exists_of_eq_some (agree_append _ _ u) hword
  have hshort : ((mark? ';' mid).getD mid).length ≤ mid.length := by
    cases hm : mark? ';' mid with
    | none => exact Nat.le_refl _
    | some r => exact Nat.le_of_lt (length_lt_of_mark? hm)
  obtain ⟨s, rfl, hs⟩ := literal?_stops hliteral (Nat.le_trans hle hshort)
  have hsemicolon : ∀ z, (k :: z).head? ≠ some ';' := fun z ↦ mt Option.some.inj hk.semicolon
  have hrest : Agree (k :: z) (k :: z') ((mark? ';' (s ++ k :: z)).getD (s ++ k :: z))
      ((mark? ';' (s ++ k :: z')).getD (s ++ k :: z')) := by
    have hmark := alike_mark? (hk.startsMark z) (hk.startsMark z') (hsemicolon z) (hsemicolon z')
      _ _ (agree_append (k :: z) (k :: z') s)
    generalize mark? ';' (s ++ k :: z) = o, mark? ';' (s ++ k :: z') = o' at hmark
    cases hmark with
    | none => exact agree_append _ _ s
    | some h => exact h
  refine ⟨_, hrest, ?_⟩
  rw [referenceAt?, hword', Option.bind_some, hs, Option.map_some]

theorem stops_terminalAt? : Stops (k :: z) (k :: z') terminalAt? := by
  intro u d rest h hle
  obtain ⟨⟨name, returns, mid⟩, hhead, heq⟩ := Option.map_eq_some_iff.mp h
  obtain ⟨⟨name', returns', mid'⟩, hhead', rfl, rfl, hmid⟩ := (alike_terminalHead? (hk.startsMark z)
    (hk.startsMark z') (alike_mark?_bar hk z z' ':')).exists_of_eq_some (agree_append _ _ u) hhead
  obtain ⟨⟨t, rest'⟩, hbody, heq⟩ := exists_of_map_eq_ok heq
  cases heq
  have hlonger := length_lt_of_body hbody
  obtain ⟨v, rfl, rfl⟩ := hmid.agree (Nat.le_of_lt (Nat.lt_of_le_of_lt hle hlonger))
  obtain ⟨s, rfl, hs⟩ := body_stops hk hbody hle
  refine ⟨s ++ k :: z', agree_append _ _ s, ?_⟩
  rw [terminalAt?, hhead', Option.map_some]
  dsimp only
  rw [hs]
  rfl

theorem stops_interfaceAt? (notes : Annotations) :
    Stops (k :: z) (k :: z') (interfaceAt? notes) := by
  intro u d rest h hle
  have hcomma : ∀ z, (k :: z).head? ≠ some ',' := fun z ↦ mt Option.some.inj hk.comma
  obtain ⟨⟨name, supers, mid⟩, hhead, heq⟩ := Option.map_eq_some_iff.mp h
  obtain ⟨⟨name', supers', mid'⟩, hhead', rfl, rfl, hmid⟩ := (alike_interfaceHead?
    (hk.startsMark z) (hk.startsMark z') (hcomma z) (hcomma z')
    (alike_mark?_bar hk z z' '{')).exists_of_eq_some (agree_append _ _ u) hhead
  dsimp only at heq hmid
  split at heq
  · cases heq
  next inside after hsplit =>
    split at heq
    · cases heq
    next hnested =>
      obtain ⟨ps, hps, heq⟩ := exists_of_map_eq_ok heq
      cases heq
      have hlonger := length_le_of_splitFirst? hsplit
      obtain ⟨v, rfl, rfl⟩ := hmid.agree (by omega)
      obtain ⟨s, rfl, hs⟩ := splitFirst?_stops hsplit hle
      refine ⟨s ++ k :: z', agree_append _ _ s, ?_⟩
      rw [interfaceAt?, hhead', Option.map_some]
      dsimp only
      rw [hs]
      dsimp only
      rw [if_neg hnested, properties_of_ok hps]
      rfl

theorem stops_aliasAt? (notes : Annotations) : Stops (k :: z) (k :: z') (aliasAt? notes) := by
  intro u d rest h hle
  rw [aliasAt?_eq] at h
  obtain ⟨⟨name, mid⟩, hhead, heq⟩ := Option.map_eq_some_iff.mp h
  obtain ⟨⟨name', mid'⟩, hhead', rfl, hmid⟩ := (alike_aliasHead? (hk.startsMark z)
    (hk.startsMark z') (alike_mark?_bar hk z z' '=')).exists_of_eq_some (agree_append _ _ u) hhead
  dsimp only at heq hmid
  cases hbody : body mid with
  | error fault =>
    rw [hbody] at heq
    cases heq
  | ok r =>
    simp only [hbody, Except.bind] at heq
    split at heq
    · cases heq
    next hblank =>
      cases heq
      have hlonger := length_lt_of_body hbody
      obtain ⟨v, rfl, rfl⟩ := hmid.agree (by omega)
      obtain ⟨s, hrest, hs⟩ := body_stops hk hbody hle
      refine ⟨s ++ k :: z', ⟨s, hrest, rfl⟩, ?_⟩
      rw [aliasAt?_eq, hhead', Option.map_some]
      simp only [hs, Except.bind, if_neg hblank]

theorem stops_ruleAt? (notes : Annotations) : Stops (k :: z) (k :: z') (ruleAt? notes) := by
  intro u d rest h hle
  obtain ⟨⟨head, mid⟩, hhead, heq⟩ := Option.map_eq_some_iff.mp h
  obtain ⟨⟨head', mid'⟩, hhead', rfl, hmid⟩ := (alike_ruleHead? (hk.startsMark z)
    (hk.startsMark z') (alike_mark?_bar hk z z' ':')).exists_of_eq_some (agree_append _ _ u) hhead
  obtain ⟨⟨t, rest'⟩, hbody, hd⟩ := exists_of_map_eq_ok heq
  have hlonger := length_lt_of_body hbody
  dsimp only at hd hmid hbody
  have hrest : rest' = rest := by split at hd <;> exact (Prod.mk.inj hd).2
  subst hrest
  obtain ⟨v, rfl, rfl⟩ := hmid.agree (by omega)
  obtain ⟨s, rfl, hs⟩ := body_stops hk hbody hle
  refine ⟨s ++ k :: z', agree_append _ _ s, ?_⟩
  rw [ruleAt?, hhead', Option.map_some]
  dsimp only
  rw [hs]
  split at hd
  all_goals
    next hfragment =>
      obtain ⟨rfl, -⟩ := Prod.mk.inj hd
      simp only [Except.map, hfragment, if_true, if_false, Bool.false_eq_true]

end Bar

/-! ## The declaration at a place -/

/-- The kinds of declaration in the order in which they are tried. -/
def kinds (notes : Annotations) : List (List Char → Reading Declaration) :=
  [headerAt?, referenceAt?, terminalAt?, interfaceAt? notes, aliasAt? notes, ruleAt? notes]

theorem declaration_eq (notes : Annotations) (cs : List Char) : declaration notes cs =
    ((kinds notes).findSome? fun kind ↦ kind cs).getD
      (.error ⟨.unexpectedInput (cs.take shownInput), cs.length⟩) := by
  rw [declaration, kinds]
  simp only [List.findSome?_cons, List.findSome?_nil]
  cases headerAt? cs with
  | some r => rfl
  | none =>
  cases referenceAt? cs with
  | some r => rfl
  | none =>
  cases terminalAt? cs with
  | some r => rfl
  | none =>
  cases interfaceAt? notes cs with
  | some r => rfl
  | none =>
  cases aliasAt? notes cs with
  | some r => rfl
  | none => cases ruleAt? notes cs <;> rfl

theorem declaration_eq_ok_iff {notes : Annotations} {cs : List Char}
    {r : Declaration × List Char} : declaration notes cs = .ok r ↔
      (kinds notes).findSome? (fun kind ↦ kind cs) = some (.ok r) := by
  rw [declaration_eq]
  cases (kinds notes).findSome? fun kind ↦ kind cs with
  | none => exact ⟨nofun, nofun⟩
  | some x => exact ⟨congrArg some, Option.some.inj⟩

theorem forall_kinds {notes : Annotations} {p : (List Char → Reading Declaration) → Prop} :
    (∀ kind ∈ kinds notes, p kind) ↔ p headerAt? ∧ p referenceAt? ∧ p terminalAt? ∧
      p (interfaceAt? notes) ∧ p (aliasAt? notes) ∧ p (ruleAt? notes) := by
  simp only [kinds, List.forall_mem_cons, List.not_mem_nil, false_imp_iff, implies_true, and_true]

theorem stops_of_mem_kinds {k : Char} (hk : Bar k) (z z' : List Char) {notes : Annotations} :
    ∀ kind ∈ kinds notes, Stops (k :: z) (k :: z') kind :=
  forall_kinds.mpr ⟨stops_headerAt? hk z z', stops_referenceAt? hk z z', stops_terminalAt? hk z z',
    stops_interfaceAt? hk z z' notes, stops_aliasAt? hk z z' notes, stops_ruleAt? hk z z' notes⟩

/-- The kind that a text is read as is the kind that another text is read as, if the kinds before it
are not read from the one text nor from the other. -/
theorem exists_kind {ks : List (List Char → Reading Declaration)} {cs cs' : List Char}
    {r : Except Located (Declaration × List Char)}
    (hnone : ∀ kind ∈ ks, kind cs = none → kind cs' = none)
    (h : ks.findSome? (fun kind ↦ kind cs) = some r) :
    ∃ kind ∈ ks, kind cs = some r ∧
      ∀ r', kind cs' = some r' → ks.findSome? (fun kind ↦ kind cs') = some r' := by
  induction ks with
  | nil => cases h
  | cons kind ks ih =>
    rw [List.forall_mem_cons] at hnone
    rw [List.findSome?_cons] at h
    cases hkind : kind cs with
    | none =>
      rw [hkind] at h
      obtain ⟨kind', hmem, hread, hothers⟩ := ih hnone.2 h
      refine ⟨kind', List.mem_cons_of_mem kind hmem, hread, fun r' hr' ↦ ?_⟩
      rw [List.findSome?_cons, hnone.1 hkind]
      exact hothers r' hr'
    | some x =>
      rw [hkind] at h
      refine ⟨kind, List.mem_cons_self, hkind.trans h, fun r' hr' ↦ ?_⟩
      rw [List.findSome?_cons, hr']

theorem literal?_enclosed_eq_none (hq : isQuote q = true) (hc : Contents q c)
    (hc' : PlainContents c') {u v : List Char} (h : literal? (u ++ enclosed q c v) = none) :
    literal? (u ++ enclosed q c' v) = none := by
  cases u with
  | nil =>
    rw [List.nil_append, literal?_enclosed hq hc] at h
    cases h
  | cons d u =>
    rw [List.cons_append, literal?] at h ⊢
    split at h
    · next hd =>
      rw [if_pos hd]
      by_cases hmem : d ∈ u
      · obtain ⟨before, after, hsplit⟩ := splitFirst?_append_of_mem hmem
        rw [hsplit] at h
        cases h
      by_cases heq : d = q
      · subst heq
        rw [enclosed, splitFirst?_append hmem] at h
        cases h
      · have hfree : d ∉ c := by
          -- the literal that is read would end in this one
          intro hin
          obtain ⟨before, after, hsplit⟩ :=
            splitFirst?_append_of_mem (List.mem_append_right u (List.mem_cons_of_mem q hin))
          have htext : u ++ enclosed q c v = u ++ q :: c ++ q :: v := by
            rw [enclosed, List.append_assoc, List.cons_append]
          rw [htext, hsplit] at h
          cases h
        rw [splitFirst?_enclosed hmem heq hfree, Option.map_eq_none_iff] at h
        rw [splitFirst?_enclosed hmem heq (hc'.quote.not_mem hd), h]
        rfl
    · next hd => rw [if_neg hd]

/-- With another literal a reference to a grammar is read if and only if it is read with the one. -/
theorem referenceAt?_enclosed_eq_none (hq : isQuote q = true) (hc : Contents q c)
    (hc' : PlainContents c') {u v : List Char} (h : referenceAt? (u ++ enclosed q c v) = none) :
    referenceAt? (u ++ enclosed q c' v) = none := by
  have hread : ∀ c, keyword? "import" (u ++ enclosed q c v) = _ := fun c ↦
    localSkip_keyword? "import" (by decide) u q (c ++ q :: v) hq
  rw [referenceAt?, Option.map_eq_none_iff, hread] at h
  rw [referenceAt?, Option.map_eq_none_iff, hread]
  cases hword : keyword? "import" u with
  | none => rfl
  | some u' =>
    rw [hword] at h
    exact literal?_enclosed_eq_none hq hc hc' h

section Bar

variable {k : Char} (hk : Bar k) {z z' u : List Char}
  (hreference : referenceAt? (u ++ k :: z) = none → referenceAt? (u ++ k :: z') = none)
  {notes : Annotations}

include hk hreference

/-- A kind of declaration is read with what follows a bar only if it is read with the other text
there. For references, which may go over the bar, this is an assumption. -/
theorem eq_none_of_mem_kinds :
    ∀ kind ∈ kinds notes, kind (u ++ k :: z) = none → kind (u ++ k :: z') = none := by
  have hagree := agree_append (k :: z) (k :: z') u
  have he := hk.startsMark z
  have he' := hk.startsMark z'
  have hmark := alike_mark?_bar hk z z'
  have hcomma : ∀ z, (k :: z).head? ≠ some ',' := fun z ↦ mt Option.some.inj hk.comma
  exact forall_kinds.mpr ⟨(alike_headerHead? he he').map_eq_none hagree, hreference,
    (alike_terminalHead? he he' (hmark ':')).map_eq_none hagree,
    (alike_interfaceHead? he he' (hcomma z) (hcomma z') (hmark '{')).map_eq_none hagree,
    (alike_aliasHead? he he' (hmark '=')).map_eq_none hagree,
    (alike_ruleHead? he he' (hmark ':')).map_eq_none hagree⟩

/-- A declaration is read as the same kind. -/
theorem exists_kind_of_declaration {r : Declaration × List Char}
    (h : declaration notes (u ++ k :: z) = .ok r) :
    ∃ kind ∈ kinds notes, kind (u ++ k :: z) = some (.ok r) ∧
      ∀ r', kind (u ++ k :: z') = some r' → declaration notes (u ++ k :: z') = r' := by
  obtain ⟨kind, hkind, hread, hothers⟩ :=
    exists_kind (eq_none_of_mem_kinds hk hreference) (declaration_eq_ok_iff.mp h)
  refine ⟨kind, hkind, hread, fun r' hr' ↦ ?_⟩
  rw [declaration_eq, hothers r' hr', Option.getD_some]

/-- A declaration that is read up to a place before a bar is read up to there whatever follows the
bar. -/
theorem declaration_stops {rest : List Char} {d : Declaration}
    (h : declaration notes (u ++ k :: z) = .ok (d, rest)) (hle : (k :: z).length ≤ rest.length) :
    ∃ rest', Agree (k :: z) (k :: z') rest rest' ∧
      declaration notes (u ++ k :: z') = .ok (d, rest') := by
  obtain ⟨kind, hkind, hread, hothers⟩ := exists_kind_of_declaration hk hreference h
  obtain ⟨rest', hrest, hread'⟩ := stops_of_mem_kinds hk z z' kind hkind hread hle
  exact ⟨rest', hrest, hothers _ hread'⟩

end Bar

/-- With another literal a declaration is read as the same kind. -/
theorem exists_kind_of_enclosed (hq : isQuote q = true) (hc : Contents q c)
    (hc' : PlainContents c') {notes : Annotations} {u v : List Char} {r : Declaration × List Char}
    (h : declaration notes (u ++ enclosed q c v) = .ok r) :
    ∃ kind ∈ kinds notes, kind (u ++ enclosed q c v) = some (.ok r) ∧
      ∀ r', kind (u ++ enclosed q c' v) = some r' →
        declaration notes (u ++ enclosed q c' v) = r' :=
  exists_kind_of_declaration (bar_of_isQuote hq) (referenceAt?_enclosed_eq_none hq hc hc') h

/-! ## Scanning -/

/-- The scanner comes from one place to another, the first with the notes collected before it, and
has read declarations in between. -/
inductive ScansTo : Annotations → List Char → List Declaration → Annotations → List Char → Prop where
  /-- It has not moved. -/
  | refl (notes : Annotations) (cs : List Char) : ScansTo notes cs [] notes cs
  /-- It passes over a blank. -/
  | blank {notes notes' : Annotations} {d : Char} {cs cs' : List Char} {ds : List Declaration}
    (hd : isBlank d = true)
    (h : ScansTo (if d == '\n' && startsWithBlankLine cs then [] else notes) cs ds notes' cs') :
    ScansTo notes (d :: cs) ds notes' cs'
  /-- It passes over a line comment, which may be a note. -/
  | comment {notes notes' : Annotations} {cs cs' : List Char} {ds : List Declaration}
    (h : ScansTo (addNote notes (cs.takeWhile (· != '\n'))) (cs.dropWhile (· != '\n')) ds notes'
      cs') :
    ScansTo notes ('/' :: '/' :: cs) ds notes' cs'
  /-- It reads a declaration, which takes the notes. -/
  | declaration {notes notes' : Annotations} {d : Char} {cs cs' after : List Char}
    {r : Declaration} {ds : List Declaration} (hblank : isBlank d = false) (hslash : d ≠ '/')
    (hread : Grammar.declaration notes (d :: cs) = .ok (r, after))
    (h : ScansTo [] after ds notes' cs') :
    ScansTo notes (d :: cs) (r :: ds) notes' cs'

theorem ScansTo.scan_eq {notes notes' : Annotations} {cs cs' : List Char} {ds : List Declaration}
    (h : ScansTo notes cs ds notes' cs') : scan notes cs = (scan notes' cs').map (ds ++ ·) := by
  induction h with
  | refl notes cs =>
    cases scan notes cs <;> rfl
  | blank hd _ ih => rw [scan_blank hd, ih]
  | comment _ ih => rw [scan_comment, ih]
  | @declaration _ notes' _ _ cs' _ _ _ hblank hslash hread _ ih =>
    rw [scan_declaration ⟨_, _, rfl, hblank, hslash⟩ hread, ih]
    cases scan notes' cs' <;> rfl

theorem ScansTo.length_le {notes notes' : Annotations} {cs cs' : List Char} {ds : List Declaration}
    (h : ScansTo notes cs ds notes' cs') : cs'.length ≤ cs.length := by
  induction h with
  | refl => exact Nat.le_refl _
  | blank _ _ ih => exact Nat.le_succ_of_le ih
  | @comment _ _ cs _ _ _ ih =>
    have hle := length_dropWhile_le (· != '\n') cs
    simp only [List.length_cons]
    omega
  | declaration _ _ hread _ ih =>
    exact Nat.le_of_lt (Nat.lt_of_le_of_lt ih (length_lt_of_declaration hread))

/-- Whether a line before a bar is blank does not depend on what follows the bar. -/
theorem startsWithBlankLine_append_bar {k : Char} (hk : Bar k) (u z z' : List Char) :
    startsWithBlankLine (u ++ k :: z) = startsWithBlankLine (u ++ k :: z') := by
  by_cases hmem : '\n' ∈ u
  · obtain ⟨before, after, hsplit⟩ := splitFirst?_append_of_mem hmem
    rw [startsWithBlankLine, startsWithBlankLine, hsplit, hsplit]
  · have hnot : '\n' ∉ u ++ [k] := by
      rw [List.mem_append, List.mem_singleton, not_or]
      exact ⟨hmem, hk.ne_newline.symm⟩
    have hread : ∀ z, startsWithBlankLine (u ++ k :: z) = false := by
      intro z
      rw [startsWithBlankLine, List.append_cons, splitFirst?_append_of_not_mem hnot]
      cases splitFirst? ['\n'] z with
      | none => rfl
      | some r =>
        change allBlank (u ++ [k] ++ r.1) = false
        rw [allBlank, List.all_append, List.all_append, List.all_cons, hk.blank, Bool.false_and,
          Bool.and_false, Bool.false_and]
    rw [hread, hread]

/-- What is scanned before a bar does not depend on what follows the bar, if no declaration does that
is read before it. -/
theorem ScansTo.replaced {k : Char} (hk : Bar k) {z z' : List Char}
    (hstops : ∀ {notes u rest d}, Grammar.declaration notes (u ++ k :: z) = .ok (d, rest) →
      (k :: z).length ≤ rest.length → ∃ rest', Agree (k :: z) (k :: z') rest rest' ∧
        Grammar.declaration notes (u ++ k :: z') = .ok (d, rest'))
    {notes notes' : Annotations} {u start : List Char} {ds : List Declaration}
    (h : ScansTo notes (u ++ k :: z) ds notes' (start ++ k :: z)) :
    ScansTo notes (u ++ k :: z') ds notes' (start ++ k :: z') := by
  generalize htext : u ++ k :: z = text, hplace : start ++ k :: z = place at h
  -- what the scanner comes to holds the bar, so no step goes over it
  have hholds : ∀ {n : Annotations} {cs : List Char} {ds : List Declaration} {n' : Annotations},
      ScansTo n cs ds n' place → (k :: z).length ≤ cs.length := by
    intro n cs ds n' h
    have hle := h.length_le
    rw [← hplace, List.length_append] at hle
    exact Nat.le_of_add_left_le hle
  induction h generalizing u with
  | refl notes cs =>
    obtain rfl := List.append_cancel_right (htext.trans hplace.symm)
    exact .refl notes _
  | blank hd _ ih =>
    cases u with
    | nil =>
      rw [List.nil_append, List.cons.injEq] at htext
      rw [← htext.1, hk.blank] at hd
      cases hd
    | cons d u =>
      rw [List.cons_append, List.cons.injEq] at htext
      obtain ⟨rfl, rfl⟩ := htext
      -- whether the notes are kept is decided before the bar
      rw [startsWithBlankLine_append_bar hk u z z'] at ih
      rw [List.cons_append]
      exact .blank hd (ih rfl hplace hholds)
  | @comment _ _ cs _ _ h ih =>
    rcases u with _ | ⟨d, _ | ⟨e, u⟩⟩
    · rw [List.nil_append, List.cons.injEq] at htext
      exact absurd htext.1 hk.slash
    · rw [List.singleton_append, List.cons.injEq, List.cons.injEq] at htext
      exact absurd htext.2.1 hk.slash
    · rw [List.cons_append, List.cons_append, List.cons.injEq, List.cons.injEq] at htext
      obtain ⟨rfl, rfl, rfl⟩ := htext
      obtain ⟨s, hs⟩ := dropWhile_stops hk (hholds h)
      rw [← (hs z').2] at ih
      rw [List.cons_append, List.cons_append]
      refine .comment ?_
      rw [(hs z').1]
      exact ih (hs z).1.symm hplace hholds
  | declaration hblank hslash hread h ih =>
    have hle := hholds h
    cases u with
    | nil =>
      -- a declaration that begins at the bar goes over it
      have hlt := length_lt_of_declaration hread
      rw [← htext, List.nil_append] at hlt
      omega
    | cons d u =>
      rw [List.cons_append, List.cons.injEq] at htext
      obtain ⟨rfl, rfl⟩ := htext
      rw [← List.cons_append] at hread
      obtain ⟨_, ⟨s, rfl, rfl⟩, hread'⟩ := hstops hread hle
      exact .declaration hblank hslash hread' (ih rfl hplace hholds)

/-- **What is scanned before a literal does not depend on its contents.** -/
theorem ScansTo.enclosed (hq : isQuote q = true) (hc : Contents q c) (hc' : PlainContents c')
    {notes notes' : Annotations} {u v start : List Char} {ds : List Declaration}
    (h : ScansTo notes (u ++ enclosed q c v) ds notes' (start ++ enclosed q c v)) :
    ScansTo notes (u ++ enclosed q c' v) ds notes' (start ++ enclosed q c' v) :=
  ScansTo.replaced (bar_of_isQuote hq)
    (declaration_stops (bar_of_isQuote hq) (referenceAt?_enclosed_eq_none hq hc hc')) h

end DiagramForge.Grammar
