import DiagramForge.Grammar.Parse
import DiagramForge.Proofs.Grammar.Lexing
import DiagramForge.Proofs.Text.Position
import Mathlib.Data.List.Infix
import Mathlib.Data.Nat.Find

/-!
# The spans of block comments

Comments are found one after the other: the next one begins with the first opening delimiter behind
the one before, and ends with the first closing delimiter behind its opening (`Comments`). Blanking
leaves exactly these spans blank, or fails at the beginning of the one that does not end:
`blankComments_spans`.

The blanking itself goes from character to character. The two meet in `blankCommentsFrom_run`: up to
the delimiter that comes first, all characters are treated alike.
-/

namespace DiagramForge.Grammar

open Text

/-! ## First places -/

/-- A word stands at an offset of a text, and not before, looking for it from another offset on. -/
structure First (word source : List Char) (i p : Nat) : Prop where
  /-- It is looked for from the other offset on. -/
  le : i ≤ p
  /-- It stands there. -/
  stands : word <+: source.drop p
  /-- It does not stand before. -/
  least : ∀ j, i ≤ j → j < p → ¬ word <+: source.drop j

/-- A word stands somewhere for the first time, or nowhere. -/
theorem exists_first (word source : List Char) (i : Nat) :
    (∃ p, First word source i p) ∨ ∀ j, i ≤ j → ¬ word <+: source.drop j := by
  classical
  by_cases h : ∃ p, i ≤ p ∧ word <+: source.drop p
  · refine .inl ⟨Nat.find h, (Nat.find_spec h).1, (Nat.find_spec h).2, ?_⟩
    intro j hij hlt hstands
    exact Nat.find_min h hlt ⟨hij, hstands⟩
  · refine .inr ?_
    intro j hij hstands
    exact h ⟨j, hij, hstands⟩

theorem First.add_length_le {word source : List Char} {i p : Nat} (h : First word source i p)
    (hword : word ≠ []) : p + word.length ≤ source.length := by
  have hpos : 0 < word.length := List.length_pos_of_ne_nil hword
  have hlength := h.stands.length_le
  rw [List.length_drop] at hlength
  omega

theorem First.unique {word source : List Char} {i p q : Nat} (hp : First word source i p)
    (hq : First word source i q) : p = q := by
  rcases lt_trichotomy p q with hlt | heq | hlt
  · exact absurd hp.stands (hq.least p hp.le hlt)
  · exact heq
  · exact absurd hq.stands (hp.least q hq.le hlt)

/-- The text up to the first place of a word, the word, and what is behind it. -/
theorem First.exists_split {word source : List Char} {i p : Nat} (h : First word source i p)
    (hword : word ≠ []) :
    ∃ before, source.drop i = before ++ (word ++ source.drop (p + word.length)) ∧
      i + before.length = p ∧ ∀ j < before.length, ¬ word <+: (source.drop i).drop j := by
  obtain ⟨after, hafter⟩ := h.stands
  have hle := h.le
  have hbound := h.add_length_le hword
  have hlength : ((source.drop i).take (p - i)).length = p - i := by
    rw [List.length_take, List.length_drop]
    omega
  refine ⟨(source.drop i).take (p - i), ?_, by omega, ?_⟩
  · rw [← List.drop_drop, ← hafter, List.drop_left, hafter]
    conv_lhs => rw [← List.take_append_drop (p - i) (source.drop i)]
    rw [List.drop_drop, Nat.add_sub_cancel' hle]
  · intro j hj
    rw [List.drop_drop]
    exact h.least _ (Nat.le_add_right _ _) (by omega)

/-! ## Spans -/

/-- The comments of a source from an offset on: the spans of those that end, in order, from the
first character of the opening delimiter to behind the closing one, and where a last one begins that
does not end. -/
inductive Comments (source : List Char) : Nat → List (Nat × Nat) → Option Nat → Prop where
  /-- No comment begins any more. -/
  | done {i : Nat} (plain : ∀ j, i ≤ j → ¬ ['/', '*'] <+: source.drop j) : Comments source i [] none
  /-- The next comment does not end. -/
  | unclosed {i p : Nat} (opening : First ['/', '*'] source i p)
    (endless : ∀ j, p + 2 ≤ j → ¬ ['*', '/'] <+: source.drop j) : Comments source i [] (some p)
  /-- The next comment ends, and the ones behind it follow. -/
  | comment {i start stop : Nat} {spans : List (Nat × Nat)} {unclosed : Option Nat}
    (opening : First ['/', '*'] source i start) (closing : First ['*', '/'] source (start + 2) stop)
    (behind : Comments source (stop + 2) spans unclosed) :
    Comments source i ((start, stop + 2) :: spans) unclosed

/-- Every text has its comments. -/
theorem exists_comments (source : List Char) (i : Nat) :
    ∃ spans unclosed, Comments source i spans unclosed := by
  -- the part of the source that is not searched yet gets shorter
  induction hn : source.length + 1 - i using Nat.strong_induction_on generalizing i with
  | h n ih =>
    rcases exists_first ['/', '*'] source i with ⟨start, hopening⟩ | hnone
    · rcases exists_first ['*', '/'] source (start + 2) with ⟨stop, hclosing⟩ | hnone
      · have hle := hopening.le
        have hle' := hclosing.le
        have hbound := hopening.add_length_le (List.cons_ne_nil _ _)
        have hlt : source.length + 1 - (stop + 2) < n := by omega
        obtain ⟨spans, unclosed, hcomments⟩ := ih _ hlt (stop + 2) rfl
        exact ⟨_, _, .comment hopening hclosing hcomments⟩
      · exact ⟨_, _, .unclosed hopening hnone⟩
    · exact ⟨_, _, .done hnone⟩

/-- A text has no other comments. -/
theorem Comments.unique {source : List Char} {i : Nat} {spans spans' : List (Nat × Nat)}
    {unclosed unclosed' : Option Nat} (h : Comments source i spans unclosed)
    (h' : Comments source i spans' unclosed') : spans' = spans ∧ unclosed' = unclosed := by
  induction h generalizing spans' with
  | done hplain =>
    rcases h' with _ | ⟨hopening, -⟩ | ⟨hopening, -, -⟩
    · exact ⟨rfl, rfl⟩
    · exact absurd hopening.stands (hplain _ hopening.le)
    · exact absurd hopening.stands (hplain _ hopening.le)
  | unclosed hopening hendless =>
    rcases h' with ⟨hplain⟩ | ⟨hopening', -⟩ | ⟨hopening', hclosing, -⟩
    · exact absurd hopening.stands (hplain _ hopening.le)
    · exact ⟨rfl, congrArg some (hopening'.unique hopening)⟩
    · obtain rfl := hopening'.unique hopening
      exact absurd hclosing.stands (hendless _ hclosing.le)
  | comment hopening hclosing _ ih =>
    rcases h' with ⟨hplain⟩ | ⟨hopening', hendless⟩ | ⟨hopening', hclosing', hbehind⟩
    · exact absurd hopening.stands (hplain _ hopening.le)
    · obtain rfl := hopening'.unique hopening
      exact absurd hclosing.stands (hendless _ hclosing.le)
    · obtain rfl := hopening'.unique hopening
      obtain rfl := hclosing'.unique hclosing
      obtain ⟨rfl, rfl⟩ := ih hbehind
      exact ⟨rfl, rfl⟩

/-- A comment that does not end begins in the text. -/
theorem Comments.le_length {source : List Char} {i p : Nat} {spans : List (Nat × Nat)}
    (h : Comments source i spans (some p)) : p ≤ source.length := by
  generalize hunclosed : some p = unclosed at h
  induction h with
  | done => cases hunclosed
  | unclosed hopening =>
    obtain rfl := Option.some.inj hunclosed
    exact (Nat.le_add_right _ _).trans (hopening.add_length_le (List.cons_ne_nil _ _))
  | comment _ _ _ ih => exact ih hunclosed

/-- An offset is in one of some spans. -/
def Within (spans : List (Nat × Nat)) (j : Nat) : Prop :=
  ∃ span ∈ spans, span.1 ≤ j ∧ j < span.2

instance (spans : List (Nat × Nat)) (j : Nat) : Decidable (Within spans j) :=
  inferInstanceAs (Decidable (∃ span ∈ spans, span.1 ≤ j ∧ j < span.2))

theorem not_within_nil (j : Nat) : ¬ Within [] j := by
  rintro ⟨span, hspan, -⟩
  exact absurd hspan List.not_mem_nil

theorem within_cons {span : Nat × Nat} {spans : List (Nat × Nat)} {j : Nat} :
    Within (span :: spans) j ↔ (span.1 ≤ j ∧ j < span.2) ∨ Within spans j := by
  rw [Within, List.exists_mem_cons_iff]
  rfl

/-- The comments that are found from an offset on are behind it. -/
theorem Comments.le_of_within {source : List Char} {i j : Nat} {spans : List (Nat × Nat)}
    {unclosed : Option Nat} (h : Comments source i spans unclosed) (hj : Within spans j) :
    i ≤ j := by
  induction h with
  | done => exact absurd hj (not_within_nil j)
  | unclosed => exact absurd hj (not_within_nil j)
  | comment hopening hclosing _ ih =>
    have hle := hopening.le
    have hle' := hclosing.le
    rcases within_cons.mp hj with ⟨hstart, -⟩ | hmore
    · exact hle.trans hstart
    · have := ih hmore
      omega

/-- If all comments end, then whatever looks like the beginning of one is in one. -/
theorem Comments.within_of_opening {source : List Char} {i j : Nat} {spans : List (Nat × Nat)}
    (h : Comments source i spans none) (hij : i ≤ j) (hopens : ['/', '*'] <+: source.drop j) :
    Within spans j := by
  generalize hunclosed : (none : Option Nat) = unclosed at h
  induction h with
  | done hnone => exact absurd hopens (hnone j hij)
  | unclosed => cases hunclosed
  | @comment i start stop spans unclosed hopening _ _ ih =>
    rw [within_cons]
    by_cases hstart : start ≤ j
    · by_cases hstop : j < stop + 2
      · exact .inl ⟨hstart, hstop⟩
      · exact .inr (ih (Nat.le_of_not_lt hstop) hunclosed)
    · exact absurd hopens (hopening.least j hij (Nat.lt_of_not_le hstart))

/-! ## Overwriting spans -/

/-- A text that begins at an offset, with the characters of some spans blanked. -/
def overwrite (spans : List (Nat × Nat)) (i : Nat) (cs : List Char) : List Char :=
  (cs.zipIdx i).map fun p ↦ if Within spans p.2 then blanked p.1 else p.1

theorem length_overwrite (spans : List (Nat × Nat)) (i : Nat) (cs : List Char) :
    (overwrite spans i cs).length = cs.length := by
  rw [overwrite, List.length_map, List.length_zipIdx]

theorem getElem?_overwrite (spans : List (Nat × Nat)) (cs : List Char) (j : Nat) :
    (overwrite spans 0 cs)[j]? =
      cs[j]?.map fun c ↦ if Within spans j then blanked c else c := by
  rw [overwrite, List.getElem?_map, List.getElem?_zipIdx, Option.map_map, Nat.zero_add]
  rfl

theorem overwrite_append (spans : List (Nat × Nat)) (i : Nat) (cs ds : List Char) :
    overwrite spans i (cs ++ ds) =
      overwrite spans i cs ++ overwrite spans (i + cs.length) ds := by
  rw [overwrite, List.zipIdx_append, List.map_append]
  rfl

theorem overwrite_of_within {spans : List (Nat × Nat)} {i : Nat} {cs : List Char}
    (h : ∀ j, i ≤ j → j < i + cs.length → Within spans j) :
    overwrite spans i cs = cs.map blanked := by
  conv_rhs => rw [← List.zipIdx_map_fst i cs, List.map_map]
  refine List.map_congr_left ?_
  intro p hp
  obtain ⟨hle, hlt, -⟩ := List.mem_zipIdx hp
  exact if_pos (h p.2 hle hlt)

theorem overwrite_of_not_within {spans : List (Nat × Nat)} {i : Nat} {cs : List Char}
    (h : ∀ j, i ≤ j → j < i + cs.length → ¬ Within spans j) : overwrite spans i cs = cs := by
  conv_rhs => rw [← List.zipIdx_map_fst i cs]
  refine List.map_congr_left ?_
  intro p hp
  obtain ⟨hle, hlt, -⟩ := List.mem_zipIdx hp
  exact if_neg (h p.2 hle hlt)

/-- Spans before a text do not count. -/
theorem overwrite_cons_of_le {span : Nat × Nat} {spans : List (Nat × Nat)} {i : Nat}
    {cs : List Char} (h : span.2 ≤ i) : overwrite (span :: spans) i cs = overwrite spans i cs := by
  refine List.map_congr_left ?_
  intro p hp
  have hle := List.le_snd_of_mem_zipIdx hp
  have hiff : Within (span :: spans) p.2 ↔ Within spans p.2 := by
    rw [within_cons, or_iff_right]
    omega
  simp only [hiff]

/-! ## Blanking up to a delimiter -/

/-- What ends a stretch of text: outside a comment its opening, inside of one its closing. -/
def delimiter : Option Nat → List Char
  | none => ['/', '*']
  | some _ => ['*', '/']

/-- A character as it is left outside a comment, and inside of one. -/
def leave (opened : Option Nat) (c : Char) : Char :=
  if opened.isSome then blanked c else c

/-- One step that meets no delimiter. -/
theorem blankCommentsFrom_step {opened : Option Nat} {c : Char} {cs : List Char}
    (h : ¬ delimiter opened <+: c :: cs) (offset : Nat) :
    blankCommentsFrom opened offset (c :: cs) =
      (blankCommentsFrom opened (offset + 1) cs).map (leave opened c :: ·) := by
  rcases opened with _ | start
  · rcases cs with _ | ⟨d, cs⟩
    · rfl
    · have hopen : ¬ (c == '/' && d == '*') = true := by
        rw [Bool.and_eq_true, beq_iff_eq, beq_iff_eq]
        rintro ⟨rfl, rfl⟩
        exact h (List.prefix_append ['/', '*'] cs)
      rw [blankCommentsFrom, if_neg hopen]
      rfl
  · rcases cs with _ | ⟨d, cs⟩
    · rfl
    · have hclose : ¬ (c == '*' && d == '/') = true := by
        rw [Bool.and_eq_true, beq_iff_eq, beq_iff_eq]
        rintro ⟨rfl, rfl⟩
        exact h (List.prefix_append ['*', '/'] cs)
      rw [blankCommentsFrom, if_neg hclose]
      rfl

/-- A stretch that meets no delimiter. -/
theorem blankCommentsFrom_run {opened : Option Nat} {before cs : List Char}
    (h : ∀ j < before.length, ¬ delimiter opened <+: (before ++ cs).drop j) (offset : Nat) :
    blankCommentsFrom opened offset (before ++ cs) =
      (blankCommentsFrom opened (offset + before.length) cs).map
        (before.map (leave opened) ++ ·) := by
  induction before generalizing offset with
  | nil =>
    rw [List.nil_append, List.length_nil, Nat.add_zero]
    cases blankCommentsFrom opened offset cs <;> rfl
  | cons c before ih =>
    have hhead : ¬ delimiter opened <+: c :: (before ++ cs) := h 0 (Nat.succ_pos _)
    have htail : ∀ j < before.length, ¬ delimiter opened <+: (before ++ cs).drop j := by
      intro j hj
      exact h (j + 1) (Nat.succ_lt_succ hj)
    rw [List.cons_append, blankCommentsFrom_step hhead, ih htail, List.length_cons,
      Nat.add_right_comm, Nat.add_assoc]
    cases blankCommentsFrom opened (offset + (before.length + 1)) cs <;> rfl

/-- The delimiter itself is blanked. -/
theorem blankCommentsFrom_opening (offset : Nat) (cs : List Char) :
    blankCommentsFrom none offset (['/', '*'] ++ cs) =
      (blankCommentsFrom (some offset) (offset + 2) cs).map (['/', '*'].map blanked ++ ·) := by
  rw [List.cons_append, List.singleton_append, blankCommentsFrom]
  rfl

theorem blankCommentsFrom_closing (start offset : Nat) (cs : List Char) :
    blankCommentsFrom (some start) offset (['*', '/'] ++ cs) =
      (blankCommentsFrom none (offset + 2) cs).map (['*', '/'].map blanked ++ ·) := by
  rw [List.cons_append, List.singleton_append, blankCommentsFrom]
  rfl

/-! ## The comments of a source are blanked -/

/-- A comment that does not end is the fault. -/
theorem blankCommentsFrom_unclosed {start : Nat} {cs : List Char}
    (h : ∀ j, ¬ ['*', '/'] <+: cs.drop j) (offset : Nat) :
    blankCommentsFrom (some start) offset cs = .error start := by
  have hnone : ∀ j < cs.length, ¬ delimiter (some start) <+: (cs ++ []).drop j := by
    intro j _
    rw [List.append_nil]
    exact h j
  have hrun := blankCommentsFrom_run hnone offset
  rw [List.append_nil] at hrun
  rw [hrun]
  rfl

/-- Up to the end of the next comment, what is before the comment stays and the comment is
blanked. -/
theorem exists_blankCommentsFrom_eq {source : List Char} {i start stop : Nat}
    (hopening : First ['/', '*'] source i start)
    (hclosing : First ['*', '/'] source (start + 2) stop) :
    ∃ before comment, source.drop i = before ++ (comment ++ source.drop (stop + 2)) ∧
      i + before.length = start ∧ start + comment.length = stop + 2 ∧
      blankCommentsFrom none i (source.drop i) =
        (blankCommentsFrom none (stop + 2) (source.drop (stop + 2))).map
          (before ++ comment.map blanked ++ ·) := by
  obtain ⟨before, hsplit, hstart, hbefore⟩ := hopening.exists_split (List.cons_ne_nil _ _)
  obtain ⟨inside, hsplit', hstop, hinside⟩ := hclosing.exists_split (List.cons_ne_nil _ _)
  simp only [List.length_cons, List.length_nil] at hsplit hsplit'
  refine ⟨before, ['/', '*'] ++ inside ++ ['*', '/'], ?_, hstart, ?_, ?_⟩
  · rw [hsplit, hsplit']
    simp only [List.append_assoc]
  · simp only [List.length_append, List.length_cons, List.length_nil]
    omega
  · rw [hsplit] at hbefore ⊢
    rw [hsplit'] at hinside
    have hrun := @blankCommentsFrom_run (some start) _ _ hinside
    rw [blankCommentsFrom_run hbefore, hstart, blankCommentsFrom_opening, hsplit', hrun, hstop,
      blankCommentsFrom_closing]
    cases blankCommentsFrom none (stop + 2) (source.drop (stop + 2)) with
    | error p => rfl
    | ok text =>
      have hleave : before.map (leave none) = before := List.map_id _
      have hleave' : inside.map (leave (some start)) = inside.map blanked := rfl
      simp only [Except.map, hleave, hleave', List.map_append, List.append_assoc]

/-- The blanking in the terms of the comments of a source. -/
theorem blankCommentsFrom_of_comments {source : List Char} {i : Nat} {spans : List (Nat × Nat)}
    {unclosed : Option Nat} (h : Comments source i spans unclosed) :
    blankCommentsFrom none i (source.drop i) =
      match unclosed with
      | some p => .error p
      | none => .ok (overwrite spans i (source.drop i)) := by
  induction h with
  | @done i hplain =>
    have hplain' : ¬ ['/', '*'] <:+: source.drop i := by
      rintro ⟨before, after, hsplit⟩
      refine hplain (i + before.length) (Nat.le_add_right _ _) ⟨after, ?_⟩
      rw [← List.drop_drop, ← hsplit, List.append_assoc, List.drop_left]
    rw [blankCommentsFrom_of_plain hplain',
      overwrite_of_not_within fun j _ _ ↦ not_within_nil j]
  | @unclosed i p hopening hendless =>
    obtain ⟨before, hsplit, hp, hnone⟩ := hopening.exists_split (List.cons_ne_nil _ _)
    have hendless' : ∀ j, ¬ ['*', '/'] <+: (source.drop (p + 2)).drop j := by
      intro j
      rw [List.drop_drop]
      exact hendless _ (Nat.le_add_right _ _)
    rw [hsplit] at hnone ⊢
    rw [blankCommentsFrom_run hnone, hp, blankCommentsFrom_opening]
    simp only [List.length_cons, List.length_nil]
    rw [blankCommentsFrom_unclosed hendless']
    rfl
  | @comment i start stop spans unclosed hopening hclosing hbehind ih =>
    obtain ⟨before, comment, hsplit, hstart, hstop, hblank⟩ :=
      exists_blankCommentsFrom_eq hopening hclosing
    rw [hblank, ih]
    rcases unclosed with _ | p
    · have hbefore : overwrite ((start, stop + 2) :: spans) i before = before := by
        refine overwrite_of_not_within ?_
        intro j _ hlt hwithin
        rcases within_cons.mp hwithin with ⟨hle, -⟩ | hmore
        · omega
        · have := hbehind.le_of_within hmore
          omega
      have hcomment : overwrite ((start, stop + 2) :: spans) start comment =
          comment.map blanked := by
        refine overwrite_of_within ?_
        intro j hle hlt
        exact within_cons.mpr (.inl ⟨hle, by omega⟩)
      rw [hsplit, overwrite_append, overwrite_append, hstart, hstop, hbefore, hcomment,
        overwrite_cons_of_le (Nat.le_refl _), ← List.append_assoc]
      rfl
    · rfl

/-! ## What blanking leaves -/

theorem blanked_eq_lineFeed_iff {c : Char} : blanked c = '\n' ↔ c = '\n' := by
  by_cases hc : c = '\n'
  · rw [hc]
    exact iff_of_true rfl rfl
  · rw [blanked, if_neg (by simpa using hc)]
    exact iff_of_false (by decide) hc

theorem blanked_of_ne_lineFeed {c : Char} (hc : c ≠ '\n') : blanked c = ' ' :=
  if_neg (by simpa using hc)

/-- A character that is not overwritten with a space or a line feed is one of the text. -/
theorem getElem?_eq_of_overwrite {spans : List (Nat × Nat)} {source : List Char} {j : Nat}
    {c : Char} (h : (overwrite spans 0 source)[j]? = some c) (hspace : c ≠ ' ') (hfeed : c ≠ '\n') :
    source[j]? = some c ∧ ¬ Within spans j := by
  rw [getElem?_overwrite, Option.map_eq_some_iff] at h
  obtain ⟨d, hd, hc⟩ := h
  by_cases hwithin : Within spans j
  · rw [if_pos hwithin] at hc
    by_cases hline : d = '\n'
    · rw [hline] at hc
      exact absurd hc.symm hfeed
    · rw [blanked_of_ne_lineFeed hline] at hc
      exact absurd hc.symm hspace
  · rw [if_neg hwithin] at hc
    exact ⟨hc ▸ hd, hwithin⟩

/-- Where comments are overwritten, none begins: not in what is left of the text, and not where it
meets a comment. -/
theorem Comments.not_infix_overwrite {source : List Char} {spans : List (Nat × Nat)}
    (h : Comments source 0 spans none) : ¬ ['/', '*'] <:+: overwrite spans 0 source := by
  rintro ⟨before, after, hsplit⟩
  have hslash : (overwrite spans 0 source)[before.length]? = some '/' := by
    rw [← hsplit, List.append_assoc, List.getElem?_append_right le_rfl, Nat.sub_self]
    rfl
  have hstar : (overwrite spans 0 source)[before.length + 1]? = some '*' := by
    rw [← hsplit, List.append_assoc, List.getElem?_append_right (Nat.le_add_right _ 1),
      Nat.add_sub_cancel_left]
    rfl
  obtain ⟨hslash, hout⟩ := getElem?_eq_of_overwrite hslash (by decide) (by decide)
  obtain ⟨hstar, -⟩ := getElem?_eq_of_overwrite hstar (by decide) (by decide)
  refine hout (h.within_of_opening (Nat.zero_le _) ⟨source.drop (before.length + 2), ?_⟩)
  obtain ⟨hlt, hslash⟩ := List.getElem?_eq_some_iff.mp hslash
  obtain ⟨hlt', hstar⟩ := List.getElem?_eq_some_iff.mp hstar
  rw [List.drop_eq_getElem_cons hlt, hslash, List.drop_eq_getElem_cons hlt', hstar]
  rfl

/-- **Blanking overwrites the comments of a text, or fails at the one that does not end.** The
comments are found one after the other, and there is one way to find them. If one of them does not
end, the text cannot be read, whatever project it is read for, and the fault is reported where that
comment begins. Otherwise the blanked text has the length of the source and line feeds at the same
offsets, it differs from the source only in spaces, which are inside of comments and fill them, no
comment begins in it, and it is what blanking leaves of it. -/
theorem blankComments_spans (source : List Char) :
    ∃ spans unclosed,
      (∀ spans' unclosed', Comments source 0 spans' unclosed' ↔
        spans' = spans ∧ unclosed' = unclosed) ∧
      match unclosed with
      | some p =>
        blankComments source = .error p ∧
        ∀ (projectName : String) (file : Option Path), ∃ d line column,
          parse (String.ofList source) projectName file = .error d ∧
          d.kind = .parse ∧ d.message = "Unterminated block comment" ∧ d.place.file = file ∧
          d.place.line = some line ∧ d.place.column = some column ∧
          Pinpoints source line column p
      | none =>
        ∃ text, blankComments source = .ok text ∧ text.length = source.length ∧
          (∀ j : Nat, text[j]? = some '\n' ↔ source[j]? = some '\n') ∧
          (∀ j : Nat, text[j]? ≠ source[j]? → Within spans j ∧ text[j]? = some ' ') ∧
          (∀ (j : Nat) (c : Char), Within spans j → source[j]? = some c → c ≠ '\n' →
            text[j]? = some ' ') ∧
          ¬ ['/', '*'] <:+: text ∧ blankComments text = .ok text := by
  obtain ⟨spans, unclosed, hcomments⟩ := exists_comments source 0
  have hblank := blankCommentsFrom_of_comments hcomments
  rw [List.drop_zero] at hblank
  refine ⟨spans, unclosed, ?_, ?_⟩
  · intro spans' unclosed'
    constructor
    · intro hcomments'
      exact hcomments.unique hcomments'
    · rintro ⟨rfl, rfl⟩
      exact hcomments
  rcases unclosed with _ | p
  · refine ⟨overwrite spans 0 source, hblank, length_overwrite _ _ _, ?_, ?_, ?_, ?_, ?_⟩
    · intro j
      rw [getElem?_overwrite, Option.map_eq_some_iff]
      constructor
      · rintro ⟨c, hc, hfeed⟩
        split at hfeed
        · rw [hc, blanked_eq_lineFeed_iff.mp hfeed]
        · rw [hc, hfeed]
      · intro hfeed
        exact ⟨'\n', hfeed, ite_self _⟩
    · intro j hne
      rw [getElem?_overwrite] at hne ⊢
      rcases hsource : source[j]? with _ | c
      · exact absurd (by rw [hsource]; rfl) hne
      · rw [hsource, Option.map_some] at hne
        by_cases hwithin : Within spans j
        · rw [if_pos hwithin] at hne
          have hc : c ≠ '\n' := by
            rintro rfl
            exact hne rfl
          rw [Option.map_some, if_pos hwithin, blanked_of_ne_lineFeed hc]
          exact ⟨hwithin, rfl⟩
        · rw [if_neg hwithin] at hne
          exact absurd rfl hne
    · intro j c hwithin hsource hc
      rw [getElem?_overwrite, hsource, Option.map_some, if_pos hwithin, blanked_of_ne_lineFeed hc]
    · exact hcomments.not_infix_overwrite
    · exact blankCommentsFrom_of_plain hcomments.not_infix_overwrite 0
  · refine ⟨hblank, ?_⟩
    intro projectName file
    have hdeclarations : declarations source = .error (.unterminatedComment, p) := by
      rw [declarations, show blankComments source = .error p from hblank]
    refine ⟨faultAt source file .unterminatedComment p, lineAt source p, columnAt source p, ?_, rfl,
      rfl, rfl, rfl, rfl, pinpoints hcomments.le_length⟩
    rw [parse, String.toList_ofList, hdeclarations]

/-- A comment between a slash and an asterisk leaves them apart. -/
example : blankComments "//**/*".toList = .ok "/    *".toList := by decide +kernel

end DiagramForge.Grammar
