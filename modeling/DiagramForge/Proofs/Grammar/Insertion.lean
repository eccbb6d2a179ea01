import DiagramForge.Proofs.Grammar.Decided

/-!
# Text put into a rule body

A rule produces the same if a text is put into its body, between `x` and `y`, of which nothing is
read: `Rule.produced_inserted`. What is read where `x` has begun must be read in `x` alone, with the
text behind `x` and without it: `Apart`. And what the searches find nothing in, `Unnoticed`, they
must pass over.

Blanks at either end of a body are such a text, so a rule produces the same if its body is trimmed:
`Rule.produced_trim`. It lists the same alternatives, too: `isAlternatives_trim`.
-/

namespace DiagramForge.Grammar

open Text

/-! ## Readings that end before a place -/

/-- What is read where `x` has begun is read in `x` alone if `z` follows. -/
def Apart {α : Type} (read : List Char → Option (α × List Char)) (x z : List Char) : Prop :=
  ∀ u, u <:+ x → u ≠ [] → read (u ++ z) = (read u).map fun r ↦ (r.1, r.2 ++ z)

section Apart

variable {α : Type} {read : List Char → Option (α × List Char)} {x y z : List Char}

theorem apart_nil (z : List Char) : Apart read [] z :=
  fun _ hu hne ↦ absurd (List.suffix_nil.mp hu) hne

theorem Apart.of_suffix {u : List Char} (h : Apart read x z) (hu : u <:+ x) : Apart read u z :=
  fun v hv hne ↦ h v (hv.trans hu) hne

/-- If nothing that is read where `x` has begun takes something of `z`, it is read in `x` alone. -/
theorem Decided.apart (h : Decided read) (hz : Breaks z)
    (hleft : ∀ u, u <:+ x → u ≠ [] → ∀ r, read (u ++ z) = some r → z <:+ r.2) :
    Apart read x z := by
  intro u hu hne
  rcases hread : read (u ++ z) with _ | ⟨a, rest⟩
  · rcases hread' : read u with _ | ⟨a, rest⟩
    · rfl
    · rw [h.append hread' hz] at hread
      cases hread
  · obtain ⟨rest, rfl⟩ := hleft u hu hne _ hread
    rw [h.of_append hread]
    rfl

theorem Decided.apart_blanks (h : Decided read) (hz : allBlank z = true) : Apart read x z :=
  h.apart (breaks_of_allBlank hz) fun _ _ _ _ hread ↦
    (h.exists_of_blanks hz hread).elim fun left hleft ↦ ⟨left, hleft.1.symm⟩

/-- What is read in `x` alone with a text behind it is so with the beginning of the text. -/
theorem Decided.apart_of_append (h : Decided read) (hz : Breaks z) (hx : Apart read x (y ++ z)) :
    Apart read x y := by
  intro u hu hne
  have hlong := hx u hu hne
  rw [← List.append_assoc] at hlong
  rcases hread : read (u ++ y) with _ | ⟨a, rest⟩
  · rcases hread' : read u with _ | ⟨a, rest⟩
    · rfl
    · rw [hread', Option.map_some, ← List.append_assoc] at hlong
      rw [h.of_append hlong] at hread
      cases hread
  · rw [h.append hread hz] at hlong
    obtain ⟨⟨a', left⟩, hread', heq⟩ := Option.map_eq_some_iff.mp hlong.symm
    rw [Prod.mk.injEq, ← List.append_assoc] at heq
    obtain ⟨rfl, hrest⟩ := heq
    rw [hread', Option.map_some, List.append_cancel_right hrest]

end Apart

/-! ## Text that nothing is read of -/

/-- Nothing is read where a text has begun that `z` follows. -/
def Unread {α : Type} (read : List Char → Option (α × List Char)) (w z : List Char) : Prop :=
  ∀ u, u <:+ w → u ≠ [] → read (u ++ z) = none

theorem Unread.of_append {α : Type} {read : List Char → Option (α × List Char)}
    (hdecided : Decided read) {w y z : List Char} (hz : Breaks z) (h : Unread read w (y ++ z)) :
    Unread read w y := by
  intro u hu hne
  have hnone := h u hu hne
  rw [← List.append_assoc] at hnone
  refine Option.eq_none_iff_forall_not_mem.mpr fun r hread ↦ ?_
  rw [hdecided.append hread hz] at hnone
  cases hnone

theorem Unread.append {α : Type} {read : List Char → Option (α × List Char)} {w v z : List Char}
    (hw : Unread read w (v ++ z)) (hv : Unread read v z) : Unread read (w ++ v) z := by
  intro u hu hne
  rcases List.suffix_or_suffix_of_suffix hu (List.suffix_append w v) with hsuffix | ⟨u, rfl⟩
  · exact hv u hsuffix hne
  · rcases eq_or_ne u [] with rfl | hne
    · exact hv v List.suffix_rfl hne
    · obtain ⟨before, hbefore⟩ := hu
      rw [← List.append_assoc] at hbefore
      rw [List.append_assoc]
      exact hw u ⟨before, List.append_cancel_right hbefore⟩ hne

theorem action?_eq_none {d : Char} (hd : d ≠ '{') (cs : List Char) : action? (d :: cs) = none := by
  have hbrace : ¬ ('{' == d) = true := by
    rw [beq_iff_eq]
    exact hd.symm
  rw [action?, after?, if_neg hbrace]
  rfl

theorem assignment?_eq_none {d : Char} (hd : isIdentStart d = false) (cs : List Char) :
    assignment? (d :: cs) = none := by
  rw [assignment?, ident?, if_neg (Bool.eq_false_iff.mp hd)]
  rfl

/-- No action begins where there are no braces. -/
theorem unread_action? {w : List Char} (h : '{' ∉ w) (z : List Char) : Unread action? w z := by
  intro u hu hne
  obtain ⟨d, cs, rfl⟩ := List.exists_cons_of_ne_nil hne
  refine action?_eq_none ?_ (cs ++ z)
  rintro rfl
  exact h (hu.subset List.mem_cons_self)

/-- No assignment begins where no name can. -/
theorem unread_assignment? {w : List Char} (h : ∀ d ∈ w, isIdentStart d = false) (z : List Char) :
    Unread assignment? w z := by
  intro u hu hne
  obtain ⟨d, cs, rfl⟩ := List.exists_cons_of_ne_nil hne
  exact assignment?_eq_none (h d (hu.subset List.mem_cons_self)) (cs ++ z)

theorem bodyParts_append_of_unread {w z : List Char} (h : Unread action? w z) :
    bodyParts (w ++ z) = w.map .char ++ bodyParts z := by
  induction w with
  | nil => rfl
  | cons d w ih =>
    have hnone := h (d :: w) List.suffix_rfl nofun
    rw [List.cons_append] at hnone ⊢
    rw [bodyParts_of_none hnone, ih fun u hu ↦ h u (hu.trans (List.suffix_cons d w)), List.map_cons,
      List.cons_append]

theorem occurrences_append_of_unread {w z : List Char} (h : Unread assignment? w z) (offset : Nat) :
    occurrences offset (w ++ z) = occurrences (offset + w.length) z := by
  induction w generalizing offset with
  | nil => rfl
  | cons d w ih =>
    have hnone := h (d :: w) List.suffix_rfl nofun
    rw [List.cons_append] at hnone ⊢
    rw [occurrences_of_none hnone, ih fun u hu ↦ h u (hu.trans (List.suffix_cons d w)),
      List.length_cons, Nat.add_right_comm, Nat.add_assoc]

/-- The assignments of a text and of what follows it. -/
theorem occurrences_append {x z : List Char} (h : Apart assignment? x z) (offset : Nat) :
    occurrences offset (x ++ z) = occurrences offset x ++ occurrences (offset + x.length) z := by
  induction x using occurrences_cases generalizing offset with
  | nil => simp [occurrences]
  | some x a after hread ih =>
    have hlt := length_lt_of_assignment? hread
    have hlocal := h x List.suffix_rfl fun heq ↦ by simp [heq] at hlt
    have hafter := suffix_of_assignment? hread
    have hwidth : (x ++ z).length - (after ++ z).length = x.length - after.length := by
      rw [List.length_append, List.length_append, Nat.add_sub_add_right]
    have hstop : offset + (x.length - after.length) + after.length = offset + x.length := by omega
    rw [hread, Option.map_some] at hlocal
    rw [occurrences_of_some hread hlt, occurrences_of_some hlocal (by simpa using hlt), hwidth,
      ih (h.of_suffix hafter), hstop, List.cons_append]
  | none d x hread ih =>
    have hlocal := h (d :: x) List.suffix_rfl (by simp)
    rw [hread, Option.map_none] at hlocal
    rw [List.cons_append] at hlocal ⊢
    rw [occurrences_of_none hread, occurrences_of_none hlocal,
      ih (h.of_suffix (List.suffix_cons d x)), List.length_cons, Nat.add_right_comm, Nat.add_assoc]

/-- An assignment stands before the place `n`, or behind it, where it is moved by `k` characters. -/
inductive OccursBeside (n k : Nat) : Occurrence → Occurrence → Prop where
  /-- It stands before the place. -/
  | before (o : Occurrence) (hstart : o.start ≤ n) (hstop : o.stop ≤ n) : OccursBeside n k o o
  /-- It stands behind the place. -/
  | behind (a : Assignment) (start stop : Nat) :
    OccursBeside n k ⟨a, n + start, n + stop⟩ ⟨a, n + k + start, n + k + stop⟩

theorem OccursBeside.assignment {n k : Nat} {o o' : Occurrence} (h : OccursBeside n k o o') :
    o'.assignment = o.assignment := by
  cases h <;> rfl

theorem occurrences_before {n k offset : Nat} {x : List Char} (hle : offset + x.length ≤ n) :
    List.Forall₂ (OccursBeside n k) (occurrences offset x) (occurrences offset x) := by
  refine List.forall₂_same.mpr fun o ho ↦ ?_
  obtain ⟨hstart, hstop⟩ := le_of_mem_occurrences ho
  exact .before o (hstart.trans hle) (hstop.trans hle)

theorem occurrences_behind (n k i : Nat) (z : List Char) :
    List.Forall₂ (OccursBeside n k) (occurrences (n + i) z) (occurrences (n + k + i) z) := by
  induction z using occurrences_cases generalizing i with
  | nil => simp [occurrences]
  | some z a after hread ih =>
    have hlt := length_lt_of_assignment? hread
    rw [occurrences_of_some hread hlt, occurrences_of_some hread hlt, Nat.add_assoc n,
      Nat.add_assoc (n + k)]
    exact .cons (.behind a i _) (ih _)
  | none d z hread ih =>
    rw [occurrences_of_none hread, occurrences_of_none hread]
    exact ih (i + 1)

/-! ## Groups -/

/-- Whether a cardinality that allows none comes first depends on what follows blanks only. -/
theorem allowsNone_append (s z : List Char) :
    allowsNone (s ++ z) = if allBlank s then allowsNone z else allowsNone s := by
  induction s with
  | nil => rfl
  | cons d s ih =>
    rw [allBlank, List.all_cons]
    by_cases hd : isBlank d = true
    · have htrim : ∀ cs, allowsNone (d :: cs) = allowsNone cs := fun cs ↦ by
        rw [allowsNone, trimLeft, List.dropWhile_cons_of_pos hd, allowsNone, trimLeft]
      rw [List.cons_append, htrim, htrim, ih, hd, Bool.true_and, allBlank]
    · rw [Bool.not_eq_true] at hd
      have htrim : ∀ cs, allowsNone (d :: cs) = (d == '?' || d == '*') := fun cs ↦ by
        rw [allowsNone, trimLeft_of_startsFirm ⟨d, cs, rfl, hd⟩]
      rw [List.cons_append, htrim, htrim, hd, Bool.false_and, if_neg Bool.false_ne_true]

/-- A text without quotes and parentheses is passed over by the search for groups. -/
theorem behindGroups_unnoticed {start stop offset : Nat} {w : List Char} (hquote : QuoteFree w)
    (hopen : '(' ∉ w) (hclose : ')' ∉ w) {quote : Option Char}
    (hisQuote : ∀ e, quote = some e → isQuote e = true) (opened : List Nat) (z : List Char) :
    behindGroups start stop quote opened offset (w ++ z) =
      behindGroups start stop quote opened (offset + w.length) z := by
  rcases quote with _ | e
  · exact behindGroups_plain hquote hopen hclose opened z
  · exact behindGroups_quoted (hquote.not_mem (hisQuote e rfl)) opened z

/-- Where a character stands after `k` characters are put in at the place `n`. -/
def MovedBehind (n k i i' : Nat) : Prop :=
  (i < n ∧ i' = i) ∨ (n ≤ i ∧ i' = i + k)

theorem OccursBeside.lt_start_iff {n k i i' : Nat} {o o' : Occurrence} (h : OccursBeside n k o o')
    (hi : MovedBehind n k i i') : i < o.start ↔ i' < o'.start := by
  cases h with
  | before o hstart hstop => rcases hi with ⟨hlt, rfl⟩ | ⟨hle, rfl⟩ <;> omega
  | behind a start stop =>
    dsimp only
    rcases hi with ⟨hlt, rfl⟩ | ⟨hle, rfl⟩ <;> omega

theorem OccursBeside.stop_le_iff {n k i i' : Nat} {o o' : Occurrence} (h : OccursBeside n k o o')
    (hi : MovedBehind n k i i') : o.stop ≤ i ↔ o'.stop ≤ i' := by
  cases h with
  | before o hstart hstop => rcases hi with ⟨hlt, rfl⟩ | ⟨hle, rfl⟩ <;> omega
  | behind a start stop =>
    dsimp only
    rcases hi with ⟨hlt, rfl⟩ | ⟨hle, rfl⟩ <;> omega

/-- Whether an assignment may be left out does not depend on a text without quotes and parentheses
that is put in before the assignment or behind it. -/
theorem isOptionalAt_inserted {w x y : List Char} (hquote : QuoteFree w) (hopen : '(' ∉ w)
    (hclose : ')' ∉ w) (hallows : allowsNone (w ++ y) = allowsNone y) {o o' : Occurrence}
    (h : OccursBeside x.length w.length o o') :
    isOptionalAt (x ++ y) o.start o.stop = isOptionalAt (x ++ (w ++ y)) o'.start o'.stop := by
  have hbehind : ∀ s, allowsNone (s ++ y) = allowsNone (s ++ (w ++ y)) := fun s ↦ by
    rw [allowsNone_append, allowsNone_append, hallows]
  have hdrop : allowsNone ((x ++ y).drop o.stop) = allowsNone ((x ++ (w ++ y)).drop o'.stop) := by
    cases h with
    | before o hstart hstop =>
      rw [List.drop_append_of_le_length hstop, List.drop_append_of_le_length hstop, hbehind]
    | behind a start stop =>
      rw [← List.append_assoc, ← List.length_append, List.drop_length_add_append,
        List.drop_length_add_append]
  -- the parentheses are where they were, or moved as an assignment is that stands there
  have hgroups : (behindGroups o.start o.stop none [] 0 (x ++ y)).any allowsNone =
      (behindGroups o'.start o'.stop none [] 0 (x ++ (w ++ y))).any allowsNone := by
    refine any_behindGroups_append (fun _ _ ↦ h.lt_start_iff) (fun _ _ ↦ h.stop_le_iff)
      (fun s _ ↦ hbehind s) .nil (fun i hi ↦ ?_) fun opened opened' hopened ↦ ?_
    · exact .inl (by omega)
    · have hrest : (behindGroups o.start o.stop (quoteAfter none x) opened (0 + x.length)
          (y ++ [])).any allowsNone = (behindGroups o'.start o'.stop (quoteAfter none x) opened'
            (0 + x.length + w.length) (y ++ [])).any allowsNone :=
        any_behindGroups_append (fun _ _ ↦ h.lt_start_iff) (fun _ _ ↦ h.stop_le_iff)
          (fun _ _ ↦ rfl) hopened (fun i _ ↦ .inr (by omega)) fun _ _ _ ↦ by
            rw [behindGroups, behindGroups]
      rw [List.append_nil] at hrest
      rw [behindGroups_unnoticed hquote hopen hclose fun e ↦
        isQuote_of_quoteAfter x fun e he ↦ by cases he]
      exact hrest
  rw [isOptionalAt, isOptionalAt, hdrop, hgroups]

/-! ## What a rule produces -/

/-- Nothing is read of a text that is put in between `x` and `y`, and what is read before it is read
as without it. -/
structure Unnoticed (w x y : List Char) : Prop where
  /-- No action goes over the place. -/
  actions : Apart action? x y
  /-- No action goes over into the text. -/
  actions' : Apart action? x (w ++ y)
  /-- No assignment goes over the place. -/
  assignments : Apart assignment? x y
  /-- No assignment goes over into the text. -/
  assignments' : Apart assignment? x (w ++ y)
  /-- No action begins in the text. -/
  noAction : Unread action? w y
  /-- No assignment begins in the text. -/
  noAssignment : Unread assignment? w y
  /-- There are no quotes in it. -/
  quotes : QuoteFree w
  /-- No group begins in it. -/
  opening : '(' ∉ w
  /-- No group ends in it. -/
  closing : ')' ∉ w
  /-- It comes before no cardinality that allows none, unless it is blank. -/
  cardinality : allowsNone (w ++ blankActions y) = allowsNone (blankActions y)

section

variable {w x y : List Char} (h : Unnoticed w x y)

include h

theorem blankActions_around : blankActions (x ++ y) = blankActions x ++ blankActions y := by
  rw [blankActions, bodyParts_append h.actions, List.flatMap_append]
  rfl

theorem bodyParts_inserted :
    bodyParts (x ++ (w ++ y)) = bodyParts x ++ (w.map .char ++ bodyParts y) := by
  rw [bodyParts_append h.actions', bodyParts_append_of_unread h.noAction]

theorem blankActions_inserted :
    blankActions (x ++ (w ++ y)) = blankActions x ++ (w ++ blankActions y) := by
  rw [blankActions, bodyParts_inserted h, List.flatMap_append, List.flatMap_append, blank_chars]
  rfl

theorem segments_inserted : List.Forall₂ (SegmentReplaced [] w x y)
    (segments (bodyParts (x ++ y))) (segments (bodyParts (x ++ (w ++ y)))) := by
  rw [bodyParts_append h.actions, bodyParts_inserted h]
  exact segments_replaced [] w x y

/-- In each segment the same assignments are found, behind the text as far as it is long. -/
theorem SegmentReplaced.occurrences_inserted {s s' : Segment}
    (hs : SegmentReplaced [] w x y s s') : List.Forall₂ (OccursBeside x.length w.length)
      (occurrences s.start s.text) (occurrences s'.start s'.text) := by
  cases hs with
  | before s hle => exact occurrences_before hle
  | around a start u v z hplace hu _ hy hz =>
    subst hy
    have hdecided := decided_assignment?
    have hv := hdecided.apart_of_append hz (h.assignments.of_suffix hu)
    have hwv : Apart assignment? u (w ++ v) := by
      have hlong := h.assignments'.of_suffix hu
      rw [← List.append_assoc] at hlong
      exact hdecided.apart_of_append hz hlong
    have hw := h.noAssignment.of_append hdecided hz
    dsimp only
    rw [List.nil_append, occurrences_append hv, occurrences_append hwv,
      occurrences_append_of_unread hw, hplace]
    exact List.rel_append (occurrences_before (Nat.le_of_eq hplace)) (occurrences_behind _ _ 0 v)
  | behind a i text => exact occurrences_behind _ _ i text

/-- **A rule produces the same with an unnoticed text in its body.** -/
theorem Rule.produced_inserted (name : String) (returns : Option String) (notes : Annotations)
    (types : RuleTypes) : Rule.produced ⟨name, returns, x ++ y, notes⟩ types =
      Rule.produced ⟨name, returns, x ++ (w ++ y), notes⟩ types := by
  refine Rule.produced_eq_of_forall₂ rfl (segments_inserted h) (fun s s' hs ↦ by cases hs <;> rfl)
    fun s s' hs ↦ ?_
  have hbeside := SegmentReplaced.occurrences_inserted h hs
  rw [← length_blankActions x] at hbeside
  refine hbeside.imp fun o o' ho ↦ Occurrence.property_congr ho.assignment ?_
  dsimp only
  rw [blankActions_around h, blankActions_inserted h]
  exact isOptionalAt_inserted h.quotes h.opening h.closing h.cardinality ho

end

/-! ## Blanks at the ends -/

theorem isIdentStart_of_isBlank {d : Char} (hd : isBlank d = true) : isIdentStart d = false := by
  rw [Bool.eq_false_iff]
  intro hstart
  have hblank := isBlank_of_isIdentRest (isIdentRest_of_isIdentStart hstart)
  rw [hd] at hblank
  cases hblank

theorem isQuote_of_isBlank {d : Char} (hd : isBlank d = true) : isQuote d = false := by
  rw [Bool.eq_false_iff]
  intro hquote
  exact ne_of_class hd (isBlank_of_isQuote hquote) rfl

/-- Blanks at the beginning or at the end of a body are not noticed. -/
theorem unnoticed_blanks {w x y : List Char} (hw : allBlank w = true) (hend : x = [] ∨ y = []) :
    Unnoticed w x y where
  actions := by
    rcases hend with rfl | rfl
    · exact apart_nil y
    · exact decided_action?.apart_blanks rfl
  actions' := by
    rcases hend with rfl | rfl
    · exact apart_nil (w ++ y)
    · rw [List.append_nil]
      exact decided_action?.apart_blanks hw
  assignments := by
    rcases hend with rfl | rfl
    · exact apart_nil y
    · exact decided_assignment?.apart_blanks rfl
  assignments' := by
    rcases hend with rfl | rfl
    · exact apart_nil (w ++ y)
    · rw [List.append_nil]
      exact decided_assignment?.apart_blanks hw
  noAction := unread_action? (fun hmem ↦ nomatch List.all_eq_true.mp hw '{' hmem) y
  noAssignment := unread_assignment?
    (fun d hd ↦ isIdentStart_of_isBlank (List.all_eq_true.mp hw d hd)) y
  quotes d hd := isQuote_of_isBlank (List.all_eq_true.mp hw d hd)
  opening hmem := nomatch List.all_eq_true.mp hw '(' hmem
  closing hmem := nomatch List.all_eq_true.mp hw ')' hmem
  cardinality := by rw [allowsNone_append, if_pos hw]

/-- **What a rule produces does not depend on the blanks at the ends of its body.** -/
theorem Rule.produced_trim (name : String) (returns : Option String) (body : List Char)
    (notes : Annotations) (types : RuleTypes) :
    Rule.produced ⟨name, returns, trim body, notes⟩ types =
      Rule.produced ⟨name, returns, body, notes⟩ types := by
  obtain ⟨before, after, hbody, hbefore, hafter⟩ := exists_blanks_of_trim body
  have hleft := Rule.produced_inserted (unnoticed_blanks (y := trim body ++ after) hbefore (.inl rfl))
    name returns notes types
  have hright := Rule.produced_inserted (unnoticed_blanks (x := trim body) hafter (.inr rfl))
    name returns notes types
  rw [List.append_nil, List.append_nil] at hright
  rw [List.nil_append, List.nil_append, ← hright, ← List.append_assoc, ← hbody] at hleft
  exact hleft

/-! ## Alternatives -/

theorem trim_blanks_append {blanks : List Char} (h : allBlank blanks = true) (cs : List Char) :
    trim (blanks ++ cs) = trim cs := by
  rw [trim, trim, trimLeft, trimLeft, List.dropWhile_append_of_pos (List.all_eq_true.mp h)]

theorem trim_append_blanks {blanks : List Char} (h : allBlank blanks = true) (cs : List Char) :
    trim (cs ++ blanks) = trim cs := by
  have hright : ∀ cs, trimRight (cs ++ blanks) = trimRight cs := by
    intro cs
    rw [← allBlank_reverse] at h
    rw [trimRight, trimRight, List.reverse_append,
      List.dropWhile_append_of_pos (List.all_eq_true.mp h)]
  rw [trim, trim, trimLeft, trimLeft, List.dropWhile_append]
  split
  next hnil =>
    rw [List.isEmpty_iff.mp hnil, List.dropWhile_eq_nil_iff.mpr (List.all_eq_true.mp h)]
  next => exact hright _

/-- Blanks around a body do not matter for the alternatives that it lists. -/
theorem isAlternatives_trim (body : List Char) : isAlternatives (trim body) = isAlternatives body := by
  have hbar : ∀ {blanks : List Char}, allBlank blanks = true → ∀ d ∈ blanks, (d == '|') = false := by
    intro blanks hblanks d hd
    rw [beq_eq_false_iff_ne]
    exact ne_of_class (List.all_eq_true.mp hblanks d hd) rfl
  have hleft : ∀ {blanks : List Char}, allBlank blanks = true → ∀ body,
      isAlternatives (blanks ++ body) = isAlternatives body := by
    intro blanks hblanks body
    rcases hfields : fields (· == '|') body with _ | ⟨w, ws⟩
    · exact absurd hfields (fields_ne_nil _ _)
    · rw [isAlternatives, isAlternatives, fields_append (hbar hblanks) hfields, hfields,
        List.map_cons, List.map_cons, trim_blanks_append hblanks]
  have hright : ∀ {blanks : List Char}, allBlank blanks = true → ∀ body,
      isAlternatives (body ++ blanks) = isAlternatives body := by
    intro blanks hblanks body
    obtain ⟨fs, f, hfields⟩ := exists_fields_append (· == '|') body
    have hlong := hfields (fields_of_not_sep (hbar hblanks))
    have hshort : fields (· == '|') (body ++ []) = fs ++ [f ++ []] := hfields rfl
    rw [List.append_nil, List.append_nil] at hshort
    simp only [isAlternatives, hlong, hshort, List.map_append, List.map_cons,
      trim_append_blanks hblanks]
  obtain ⟨before, after, hbody, hbefore, hafter⟩ := exists_blanks_of_trim body
  have htrimmed : isAlternatives body = isAlternatives (before ++ trim body ++ after) :=
    congrArg _ hbody
  rw [htrimmed, hright hafter, hleft hbefore]

end DiagramForge.Grammar
