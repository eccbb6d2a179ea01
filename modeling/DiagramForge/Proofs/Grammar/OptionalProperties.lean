import DiagramForge.Proofs.Grammar.RuleLiterals
import Mathlib.Data.List.Infix

/-!
# Optional properties

Whether the property of an assignment is optional, for a feature that is assigned once in a rule
without actions: `Rule.optional_iff`. It depends on what stands behind the assignment and behind the
groups around it, and on nothing else.

## Which group is whose

The search for groups keeps the places of the parentheses that are open. What it finds is compared
here with `Encloses`, where a group is a piece of text that is `Balanced` between its parentheses. In
the one direction `Opened` tells what the places stand for, in the other a balanced text leaves them
as they are: `mem_behindGroups_iff`.

A literal ends at the next quote of its kind, also if a backslash stands before it. Statements are
read otherwise, so a quote that is escaped hides the groups that end behind it, or makes groups of what
stands in literals.

## Groups as values

An assignment `x=('a' | 'b')` is read up to the parenthesis. What stands behind the reading is then
the first alternative, and the group is not one around the assignment, as it begins in it. So it does
not matter whether the group is followed by a cardinality: `required_despite_cardinality`.
-/

namespace DiagramForge.Grammar

open Text

/-! ## Cardinalities -/

/-- A text begins, after blanks, with a cardinality that allows none. -/
def Omittable (cs : List Char) : Prop :=
  ∃ blanks mark rest, cs = blanks ++ mark :: rest ∧ allBlank blanks = true ∧
    (mark = '?' ∨ mark = '*')

theorem allowsNone_iff {cs : List Char} : allowsNone cs = true ↔ Omittable cs := by
  constructor
  · intro h
    have hsplit : cs = cs.takeWhile isBlank ++ trimLeft cs := List.takeWhile_append_dropWhile.symm
    have hblanks : allBlank (cs.takeWhile isBlank) = true := List.all_takeWhile
    rw [allowsNone] at h
    split at h
    · next mark rest hrest =>
      rw [Bool.or_eq_true, beq_iff_eq, beq_iff_eq] at h
      exact ⟨_, mark, rest, hrest ▸ hsplit, hblanks, h⟩
    · cases h
  · rintro ⟨blanks, mark, rest, rfl, hblanks, hmark⟩
    have hfirm : StartsFirm (mark :: rest) := ⟨mark, rest, rfl, by rcases hmark with rfl | rfl <;> rfl⟩
    rw [allowsNone, trimLeft_append blanks hblanks hfirm]
    rcases hmark with rfl | rfl <;> rfl

/-! ## Groups -/

/-- Every parenthesis of a text has its partner in the text, those in literals not counting. -/
inductive Balanced : List Char → Prop where
  /-- Nothing is balanced. -/
  | nil : Balanced []
  /-- A character is neither a quote nor a parenthesis. -/
  | plain {d : Char} {cs : List Char} (hquote : isQuote d = false) (hopen : d ≠ '(')
    (hclose : d ≠ ')') (h : Balanced cs) : Balanced (d :: cs)
  /-- A literal ends at the next quote of its kind. -/
  | literal {q : Char} {contents cs : List Char} (hq : isQuote q = true) (hcontents : q ∉ contents)
    (h : Balanced cs) : Balanced (enclosed q contents cs)
  /-- A group is balanced between its parentheses. -/
  | group {inner cs : List Char} (hinner : Balanced inner) (h : Balanced cs) :
    Balanced ('(' :: (inner ++ ')' :: cs))

theorem Balanced.append {cs ds : List Char} (hcs : Balanced cs) (hds : Balanced ds) :
    Balanced (cs ++ ds) := by
  induction hcs with
  | nil => exact hds
  | plain hquote hopen hclose _ ih => exact .plain hquote hopen hclose ih
  | literal hq hcontents _ ih =>
    rw [← enclosed_append]
    exact .literal hq hcontents ih
  | group hinner _ _ ih =>
    rw [List.cons_append, List.append_assoc, List.cons_append]
    exact .group hinner ih

/-- A group of a body that begins before a stretch and ends behind it, with what stands behind the
group. -/
def Around (body : List Char) (start stop : Nat) (behind : List Char) : Prop :=
  ∃ before inner, body = before ++ '(' :: (inner ++ ')' :: behind) ∧
    quoteAfter none before = none ∧ Balanced inner ∧
      before.length < start ∧ stop ≤ before.length + 1 + inner.length

/-! ### What is found -/

section

variable {start stop : Nat}

/-- The parentheses that are open behind a text, by their places. -/
inductive Opened : List Char → List Nat → Prop where
  /-- None of them. -/
  | nil (done : List Char) : Opened done []
  /-- What stands behind the innermost is balanced. -/
  | cons {before inner : List Char} {opened : List Nat} (h : Opened before opened)
    (hbefore : quoteAfter none before = none) (hinner : Balanced inner) :
    Opened (before ++ '(' :: inner) (before.length :: opened)

theorem Opened.append {done cs : List Char} {opened : List Nat} (h : Opened done opened)
    (hcs : Balanced cs) : Opened (done ++ cs) opened := by
  cases h with
  | nil => exact .nil _
  | cons h hbefore hinner =>
    rw [List.append_assoc, List.cons_append]
    exact .cons h hbefore (hinner.append hcs)

/-- Where the search for groups is, with the text that it has read, the quote it stands in and the
places of the parentheses that are open. -/
inductive Scanned : List Char → Option Char → List Nat → Prop where
  /-- It stands in no literal. -/
  | outside {done : List Char} {opened : List Nat} (h : Opened done opened) :
    Scanned done none opened
  /-- It stands in a literal that has begun behind a text. -/
  | inside {before contents : List Char} {q : Char} {opened : List Nat} (h : Opened before opened)
    (hq : isQuote q = true) (hcontents : q ∉ contents) :
    Scanned (before ++ q :: contents) (some q) opened

/-- In a literal one more character is read. -/
theorem Scanned.read {done : List Char} {q : Char} {opened : List Nat}
    (h : Scanned done (some q) opened) (d : Char) :
    Scanned (done ++ [d]) (quoteStep (some q) d) opened := by
  cases h with
  | inside h hq hcontents =>
    rw [quoteStep]
    split
    next heq =>
      rw [eq_of_beq heq, List.append_assoc]
      exact .outside (h.append (.literal hq hcontents .nil))
    next hne =>
      rw [beq_iff_eq] at hne
      rw [List.append_assoc, List.cons_append]
      refine .inside h hq fun hmem ↦ ?_
      rcases List.mem_append.mp hmem with hmem | hmem
      · exact hcontents hmem
      · exact hne (List.mem_singleton.mp hmem).symm

/-- Reading one more character either ends a group around the stretch or leaves to find what is
found. -/
theorem Scanned.step {done : List Char} {quote : Option Char} {opened : List Nat}
    (hscanned : Scanned done quote opened) (hquote : quoteAfter none done = quote) {d : Char}
    {cs behind : List Char}
    (hmem : behind ∈ behindGroups start stop quote opened done.length (d :: cs)) :
    Around (done ++ d :: cs) start stop behind ∨ ∃ opened',
      Scanned (done ++ [d]) (quoteStep quote d) opened' ∧
        behind ∈ behindGroups start stop (quoteStep quote d) opened' (done.length + 1) cs := by
  cases hscanned with
  | inside h hq hcontents =>
    rw [behindGroups] at hmem
    exact .inr ⟨_, read (.inside h hq hcontents) d, hmem⟩
  | outside h =>
    rw [quoteStep]
    split
    next hd =>
      rw [behindGroups_of_isQuote hd] at hmem
      exact .inr ⟨_, .inside h hd List.not_mem_nil, hmem⟩
    next hd =>
      rw [Bool.not_eq_true] at hd
      by_cases hopen : d = '('
      · subst hopen
        rw [behindGroups_of_open] at hmem
        exact .inr ⟨_, .outside (.cons h hquote .nil), hmem⟩
      by_cases hclose : d = ')'
      · subst hclose
        cases h with
        | nil =>
          rw [behindGroups] at hmem
          exact .inr ⟨_, .outside (.nil _), hmem⟩
        | @cons before inner opened h hbefore hinner =>
          have hgroup : Opened (before ++ '(' :: inner ++ [')']) opened := by
            rw [List.append_assoc]
            exact h.append (.group hinner .nil)
          rw [behindGroups_of_close] at hmem
          split at hmem
          next hstretch =>
            rcases List.mem_cons.mp hmem with rfl | hmem
            · rw [Bool.and_eq_true, decide_eq_true_eq, decide_eq_true_eq, List.length_append,
                List.length_cons] at hstretch
              refine .inl ⟨before, inner, by simp, hbefore, hinner, hstretch.1, ?_⟩
              omega
            · exact .inr ⟨_, .outside hgroup, hmem⟩
          next => exact .inr ⟨_, .outside hgroup, hmem⟩
      · rw [behindGroups_of_plain hd hopen hclose] at hmem
        exact .inr ⟨_, .outside (h.append (.plain hd hopen hclose .nil)), hmem⟩

/-- What the search for groups finds stands behind groups. -/
theorem around_of_mem {done : List Char} {quote : Option Char} {opened : List Nat}
    (hscanned : Scanned done quote opened) (hquote : quoteAfter none done = quote)
    {cs behind : List Char}
    (hmem : behind ∈ behindGroups start stop quote opened done.length cs) :
    Around (done ++ cs) start stop behind := by
  induction cs generalizing done quote opened with
  | nil => cases quote <;> cases hmem
  | cons d cs ih =>
    rcases hscanned.step hquote hmem with haround | ⟨opened', hscanned, hmem⟩
    · exact haround
    · have hlength : done.length + 1 = (done ++ [d]).length := by simp
      have hafter : quoteAfter none (done ++ [d]) = quoteStep quote d := by
        rw [quoteAfter_append, hquote]
        rfl
      rw [List.append_cons]
      rw [hlength] at hmem
      exact ih hscanned hafter hmem

/-! ### What there is to find -/

/-- What is found behind one character is found if the character is read before. -/
theorem exists_opened_cons (start stop offset : Nat) (quote : Option Char) (opened : List Nat)
    (d : Char) (cs : List Char) :
    ∃ opened', behindGroups start stop (quoteStep quote d) opened' (offset + 1) cs ⊆
      behindGroups start stop quote opened offset (d :: cs) := by
  cases quote with
  | some q =>
    rw [behindGroups]
    exact ⟨opened, List.Subset.refl _⟩
  | none =>
    rw [quoteStep]
    split
    next hd =>
      rw [behindGroups_of_isQuote hd]
      exact ⟨opened, List.Subset.refl _⟩
    next hd =>
      rw [Bool.not_eq_true] at hd
      by_cases hopen : d = '('
      · subst hopen
        rw [behindGroups_of_open]
        exact ⟨_, List.Subset.refl _⟩
      by_cases hclose : d = ')'
      · subst hclose
        cases opened with
        | nil =>
          rw [behindGroups]
          exact ⟨_, List.Subset.refl _⟩
        | cons place opened =>
          rw [behindGroups_of_close]
          split
          · exact ⟨_, List.subset_cons_self _ _⟩
          · exact ⟨_, List.Subset.refl _⟩
      · rw [behindGroups_of_plain hd hopen hclose]
        exact ⟨_, List.Subset.refl _⟩

/-- What is found behind a text is found if the text is read before. -/
theorem exists_opened_append (start stop offset : Nat) (quote : Option Char) (opened : List Nat)
    (before cs : List Char) :
    ∃ opened', behindGroups start stop (quoteAfter quote before) opened' (offset + before.length)
      cs ⊆ behindGroups start stop quote opened offset (before ++ cs) := by
  induction before generalizing quote opened offset with
  | nil => exact ⟨opened, List.Subset.refl _⟩
  | cons d before ih =>
    obtain ⟨opened', hfirst⟩ := exists_opened_cons start stop offset quote opened d (before ++ cs)
    obtain ⟨opened'', hrest⟩ := ih (offset + 1) (quoteStep quote d) opened'
    refine ⟨opened'', ?_⟩
    rw [List.length_cons, Nat.add_comm before.length, ← Nat.add_assoc, List.cons_append]
    exact List.Subset.trans hrest hfirst

/-- A balanced text leaves the open parentheses as they are. -/
theorem Balanced.subset {inner : List Char} (h : Balanced inner) (offset : Nat) (opened : List Nat)
    (cs : List Char) : behindGroups start stop none opened (offset + inner.length) cs ⊆
      behindGroups start stop none opened offset (inner ++ cs) := by
  induction h generalizing opened offset cs with
  | nil => exact List.Subset.refl _
  | @plain d inner hquote hopen hclose _ ih =>
    rw [List.cons_append, behindGroups_of_plain hquote hopen hclose, List.length_cons,
      Nat.add_comm inner.length, ← Nat.add_assoc]
    exact ih _ opened cs
  | @literal q contents inner hq hcontents _ ih =>
    have hself : (q == q) = true := beq_self_eq_true q
    have hlength : offset + (enclosed q contents inner).length =
        offset + 1 + contents.length + 1 + inner.length := by
      simp only [enclosed, List.length_cons, List.length_append]
      omega
    rw [hlength, ← enclosed_append, enclosed, behindGroups_of_isQuote hq,
      behindGroups_quoted hcontents, behindGroups, if_pos hself]
    exact ih _ opened cs
  | @group inner rest _ _ ihinner ih =>
    have hlength : offset + ('(' :: (inner ++ ')' :: rest)).length =
        offset + 1 + inner.length + 1 + rest.length := by
      simp only [List.length_cons, List.length_append]
      omega
    have hclose : behindGroups start stop none opened (offset + 1 + inner.length + 1) (rest ++ cs) ⊆
        behindGroups start stop none (offset :: opened) (offset + 1 + inner.length)
          (')' :: (rest ++ cs)) := by
      rw [behindGroups_of_close]
      split
      · exact List.subset_cons_self _ _
      · exact List.Subset.refl _
    rw [List.cons_append, List.append_assoc, List.cons_append, behindGroups_of_open, hlength]
    exact List.Subset.trans (ih _ opened cs) (List.Subset.trans hclose (ihinner _ _ _))

/-- **The search for groups is exact.** It finds what stands behind the groups around a stretch. -/
theorem mem_behindGroups_iff {body behind : List Char} :
    behind ∈ behindGroups start stop none [] 0 body ↔ Around body start stop behind := by
  constructor
  · exact fun hmem ↦ around_of_mem (.outside (.nil [])) rfl hmem
  · rintro ⟨before, inner, rfl, hbefore, hinner, hstart, hstop⟩
    obtain ⟨opened, hsubset⟩ := exists_opened_append start stop 0 none [] before
      ('(' :: (inner ++ ')' :: behind))
    refine hsubset ?_
    rw [hbefore, Nat.zero_add, behindGroups_of_open]
    refine hinner.subset _ _ _ ?_
    have hstretch : (decide (before.length < start) &&
        decide (stop ≤ before.length + 1 + inner.length)) = true := by
      rw [Bool.and_eq_true, decide_eq_true_eq, decide_eq_true_eq]
      exact ⟨hstart, hstop⟩
    rw [behindGroups_of_close, if_pos hstretch]
    exact List.mem_cons_self

end

/-! ### Groups around an assignment -/

/-- A group begins in `pre` and ends in `post`, and `text` stands between them in it. What stands
behind the group is `behind`. -/
def Encloses (pre text post behind : List Char) : Prop :=
  ∃ before inner inner', pre = before ++ '(' :: inner ∧ post = inner' ++ ')' :: behind ∧
    quoteAfter none before = none ∧ Balanced (inner ++ (text ++ inner'))

/-- Of two ways to cut a text, the later cut is made in the rest that the earlier one leaves. -/
theorem exists_append_of_length_le {α : Type} {as bs cs ds : List α} (h : as ++ bs = cs ++ ds)
    (hle : as.length ≤ cs.length) : ∃ es, cs = as ++ es ∧ bs = es ++ ds := by
  rcases List.append_eq_append_iff.mp h with ⟨es, hcs, hbs⟩ | ⟨es, rfl, rfl⟩
  · exact ⟨es, hcs, hbs⟩
  · rw [List.length_append] at hle
    obtain rfl : es = [] := List.eq_nil_of_length_eq_zero (by omega)
    exact ⟨[], by simp⟩

theorem around_iff {pre text post behind : List Char} :
    Around (pre ++ (text ++ post)) pre.length (pre.length + text.length) behind ↔
      Encloses pre text post behind := by
  constructor
  · rintro ⟨before, group, hbody, hbefore, hgroup, hstart, hstop⟩
    -- the parenthesis that opens the group stands in `pre`, the one that closes it in `post`
    rw [List.append_cons] at hbody
    have hopen : (before ++ ['(']).length ≤ pre.length := by
      rw [List.length_append]
      exact hstart
    obtain ⟨inner, rfl, hrest⟩ := exists_append_of_length_le hbody.symm hopen
    have hclose : (inner ++ text).length ≤ group.length := by
      simp only [List.length_append, List.length_singleton] at hstop ⊢
      omega
    rw [← List.append_assoc] at hrest
    obtain ⟨inner', rfl, hpost⟩ := exists_append_of_length_le hrest.symm hclose
    refine ⟨before, inner, inner', by simp, hpost, hbefore, ?_⟩
    rwa [← List.append_assoc]
  · rintro ⟨before, inner, inner', rfl, rfl, hbefore, hgroup⟩
    refine ⟨before, inner ++ (text ++ inner'), by simp, hbefore, hgroup, ?_, ?_⟩
    · rw [List.length_append, List.length_cons]
      omega
    · simp only [List.length_append, List.length_cons]
      omega

/-- When the assignment of a stretch may be left out. -/
theorem isOptionalAt_iff {pre text post : List Char} :
    isOptionalAt (pre ++ (text ++ post)) pre.length (pre.length + text.length) = true ↔
      Omittable post ∨ ∃ behind, Encloses pre text post behind ∧ Omittable behind := by
  have hpost : (pre ++ (text ++ post)).drop (pre.length + text.length) = post := by
    rw [← List.append_assoc, ← List.length_append, List.drop_left]
  rw [isOptionalAt, hpost, Bool.or_eq_true, List.any_eq_true]
  simp only [allowsNone_iff, mem_behindGroups_iff, around_iff]

/-! ## Rules without actions -/

/-- A rule without actions produces one type, with the assignments of its whole body. -/
theorem Rule.produced_of_no_action {r : Rule} (types : RuleTypes)
    (hactions : ∀ u, u <:+ r.body → action? u = none) : r.produced types =
      [⟨r.target, segmentProperties types r.body ⟨none, 0, r.body⟩, false⟩] := by
  have hsegments : segments (r.body.map BodyPart.char) = [⟨none, 0, r.body⟩] := by
    have hread := segmentsFrom_chars none 0 [] 0 r.body []
    rw [List.append_nil, List.append_nil] at hread
    rw [segments, hread, segmentsFrom, List.reverse_reverse]
  rw [produced, bodyParts_of_forall_none hactions, blank_chars, hsegments]
  rfl

/-! ## Features that are assigned once -/

/-- Adding a property leaves those of other names as they are. -/
theorem filter_addProperty_of_ne {ps : List Property} {p : Property} {name : String}
    (hne : p.name ≠ name) :
    (addProperty ps p).filter (fun q ↦ q.name == name) = ps.filter fun q ↦ q.name == name := by
  rw [addProperty]
  split
  · have hnames : ((fun q : Property ↦ q.name == name) ∘ fun q ↦
        if q.name == p.name then { q with array := q.array || p.array } else q) =
        fun q ↦ q.name == name := by
      funext q
      rw [Function.comp_apply]
      split <;> rfl
    rw [List.filter_map, hnames]
    refine (List.map_congr_left fun q hq ↦ ?_).trans (List.map_id _)
    have hname : q.name = name := eq_of_beq (List.mem_filter.mp hq).2
    exact if_neg (by rw [hname, beq_iff_eq]; exact Ne.symm hne)
  · have hother : ([p].filter fun q ↦ q.name == name) = [] := by
      rw [List.filter_singleton, beq_eq_false_iff_ne.mpr hne]
      rfl
    rw [List.filter_append, hother, List.append_nil]

/-- A property of a new name is added as it is. -/
theorem filter_addProperty {ps : List Property} {p : Property}
    (hnew : (ps.filter fun q ↦ q.name == p.name) = []) :
    (addProperty ps p).filter (fun q ↦ q.name == p.name) = [p] := by
  have hnone : ¬ (ps.any fun q ↦ q.name == p.name) = true := by
    rw [List.any_eq_true]
    rintro ⟨q, hq, hname⟩
    exact List.filter_eq_nil_iff.mp hnew q hq hname
  rw [addProperty, if_neg hnone, List.filter_append, hnew, List.filter_singleton, beq_self_eq_true]
  rfl

theorem filter_foldl_addProperty {ps qs : List Property} {name : String}
    (h : ∀ q ∈ qs, q.name ≠ name) : (qs.foldl addProperty ps).filter (fun q ↦ q.name == name) =
      ps.filter fun q ↦ q.name == name := by
  induction qs generalizing ps with
  | nil => rfl
  | cons q qs ih =>
    obtain ⟨hq, hqs⟩ := List.forall_mem_cons.mp h
    rw [List.foldl_cons, ih hqs, filter_addProperty_of_ne hq]

/-- A feature that is assigned once has the property that the assignment makes by itself. -/
theorem filter_segmentProperties {types : RuleTypes} {body : List Char} {s : Segment}
    {feature : String} {o : Occurrence}
    (honce : (occurrences s.start s.text).filter (fun o ↦ o.assignment.feature == feature) = [o]) :
    (segmentProperties types body s).filter (fun p ↦ p.name == feature) =
      [o.property types body] := by
  obtain ⟨before, after, hsplit, hbefore, hfeature, hafter⟩ := List.filter_eq_cons_iff.mp honce
  obtain rfl : o.assignment.feature = feature := eq_of_beq hfeature
  have hother : ∀ {os : List Occurrence},
      (∀ o' ∈ os, ¬ (o'.assignment.feature == o.assignment.feature) = true) →
      ∀ q ∈ os.map (fun o' ↦ o'.property types body), q.name ≠ o.assignment.feature := by
    intro os hos q hq
    obtain ⟨o', ho', rfl⟩ := List.mem_map.mp hq
    exact fun heq ↦ hos o' ho' (beq_iff_eq.mpr heq)
  rw [segmentProperties_eq, hsplit, List.map_append, List.map_cons, List.foldl_append,
    List.foldl_cons, filter_foldl_addProperty (hother (List.filter_eq_nil_iff.mp hafter))]
  refine filter_addProperty (p := o.property types body) ?_
  exact filter_foldl_addProperty (hother hbefore)

/-- Where an assignment stands. -/
theorem exists_of_mem_occurrences {offset : Nat} {cs : List Char} {o : Occurrence}
    (ho : o ∈ occurrences offset cs) : ∃ pre text post, cs = pre ++ (text ++ post) ∧
      o.start = offset + pre.length ∧ o.stop = o.start + text.length ∧
        assignment? (text ++ post) = some (o.assignment, post) := by
  induction cs using occurrences_cases generalizing offset with
  | nil => simp [occurrences] at ho
  | some cs a after hread ih =>
    obtain ⟨taken, rfl⟩ := suffix_of_assignment? hread
    have htaken : (taken ++ after).length - after.length = taken.length := by simp
    rw [occurrences_of_some hread (length_lt_of_assignment? hread), htaken] at ho
    rcases List.mem_cons.mp ho with rfl | ho
    · exact ⟨[], taken, after, rfl, rfl, rfl, hread⟩
    · obtain ⟨pre, text, post, rfl, hstart, hstop, hread⟩ := ih ho
      refine ⟨taken ++ pre, text, post, (List.append_assoc _ _ _).symm, ?_, hstop, hread⟩
      rw [hstart, List.length_append, Nat.add_assoc]
  | none d cs hread ih =>
    rw [occurrences_of_none hread] at ho
    obtain ⟨pre, text, post, rfl, hstart, hstop, hread⟩ := ih ho
    refine ⟨d :: pre, text, post, rfl, ?_, hstop, hread⟩
    rw [hstart, List.length_cons]
    omega

/-! ## Optional properties -/

/-- The value of an assignment is a group, of which the text has only the parenthesis. -/
def OpensGroup (text : List Char) : Prop :=
  ∃ head, text = head ++ ['(']

/-- **When a property is optional.** A feature is assigned once in a rule without actions, by the text
between `pre` and `post`. Its property is optional if and only if a cardinality that allows none stands
behind the assignment or behind a group around it. If the value of the assignment is a group, what
stands behind that does not matter. -/
theorem Rule.optional_iff {r : Rule} (types : RuleTypes) {feature : String} {o : Occurrence}
    (hactions : ∀ u, u <:+ r.body → action? u = none)
    (honce : (occurrences 0 r.body).filter (fun o ↦ o.assignment.feature == feature) = [o])
    (hset : o.assignment.operator = .set) :
    ∃ ps p pre text post, r.produced types = [⟨r.target, ps, false⟩] ∧
      ps.filter (fun p ↦ p.name == feature) = [p] ∧ r.body = pre ++ (text ++ post) ∧
      pre.length = o.start ∧ assignment? (text ++ post) = some (o.assignment, post) ∧
      (¬ OpensGroup text → (p.optional = true ↔
        Omittable post ∨ ∃ behind, Encloses pre text post behind ∧ Omittable behind)) ∧
      (OpensGroup text → ¬ Omittable post → (p.optional = true ↔
        ∃ behind, Encloses pre text post behind ∧ Omittable behind)) := by
  have ho : o ∈ occurrences 0 r.body :=
    List.mem_of_mem_filter (honce ▸ List.mem_singleton_self o)
  obtain ⟨pre, text, post, hbody, hstart, hstop, hread⟩ := exists_of_mem_occurrences ho
  rw [Nat.zero_add] at hstart
  have hoptional : (o.property types r.body).optional = true ↔
      Omittable post ∨ ∃ behind, Encloses pre text post behind ∧ Omittable behind := by
    rw [← isOptionalAt_iff, ← hbody, ← hstart, ← hstop, Occurrence.property, hset]
    simp
  refine ⟨_, _, pre, text, post, produced_of_no_action types hactions,
    filter_segmentProperties honce, hbody, hstart.symm, hread, fun _ ↦ hoptional, fun _ hpost ↦ ?_⟩
  rw [hoptional, or_iff_right hpost]

/-- A rule with two assignments, of which a group with a literal encloses the first. -/
def parenthesised : Rule where
  name := "Call"
  returns := none
  annotations := []
  body := "'(' (name=ID ')')? next=Call".toList

/-- The group may be left out, so the name is optional. The parenthesis in the literal does not end the
group. -/
theorem Rule.optional_iff_parenthesised :
    (∀ u, u <:+ parenthesised.body → action? u = none) ∧ ∃ o,
      (occurrences 0 parenthesised.body).filter (fun o ↦ o.assignment.feature == "name") = [o] ∧
      o.assignment.operator = .set ∧ ∃ ps p pre text post,
        parenthesised.produced ⟨[("ID", "string")], []⟩ = [⟨"Call", ps, false⟩] ∧
        ps.filter (fun p ↦ p.name == "name") = [p] ∧ p.optional = true ∧
        parenthesised.body = pre ++ (text ++ post) ∧ pre.length = 5 ∧
        (¬ OpensGroup text → (p.optional = true ↔
          Omittable post ∨ ∃ behind, Encloses pre text post behind ∧ Omittable behind)) := by
  have hactions : ∀ u, u <:+ parenthesised.body → action? u = none := by
    have hnone : ∀ u ∈ parenthesised.body.tails, (action? u).isNone = true := by decide +kernel
    exact fun u hu ↦ Option.isNone_iff_eq_none.mp (hnone u ((List.mem_tails _ _).mpr hu))
  have hread : ((occurrences 0 parenthesised.body).filter
      (fun o ↦ o.assignment.feature == "name")).map (fun o ↦ (o.assignment.operator, o.start)) =
        [(.set, 5)] := by
    decide +kernel
  have hproduced : (parenthesised.produced ⟨[("ID", "string")], []⟩).map (·.properties) =
      [[⟨"name", "string", true, false, false⟩, ⟨"next", "Call", false, false, false⟩]] := by
    decide +kernel
  obtain ⟨o, honce, ho⟩ := List.map_eq_singleton_iff.mp hread
  obtain ⟨hset, hstart⟩ := Prod.mk.inj ho
  obtain ⟨ps, p, pre, text, post, hps, hp, hbody, hpre, -, hoptional, -⟩ :=
    Rule.optional_iff _ hactions honce hset
  have hname : p.optional = true := by
    rw [hps] at hproduced
    obtain rfl := List.singleton_inj.mp hproduced
    obtain rfl := List.singleton_inj.mp hp
    rfl
  exact ⟨hactions, o, honce, hset, ps, p, pre, text, post, hps, hp, hname, hbody,
    hpre.trans hstart, hoptional⟩

/-- Properties are required although the assignment, or a group around it, is followed by a question
mark: where the value is a group, and where an escaped quote stands in the group. -/
theorem required_despite_cardinality :
    Balanced "'a' | 'b'".toList ∧
    (parse "R: x=('a' | 'b')?;").toOption.map (·.interfaces) =
      some [⟨"R", [⟨"x", "string", false, false, false⟩], [], []⟩] ∧
    (parse "R: (x=ID '\\'')?;").toOption.map (·.interfaces) =
      some [⟨"R", [⟨"x", "string", false, false, false⟩], [], []⟩] := by
  refine ⟨?_, by decide +kernel, by decide +kernel⟩
  have hlast : Balanced (enclosed '\'' ['b'] []) := .literal rfl (by decide) .nil
  have hbar : Balanced (' ' :: '|' :: ' ' :: enclosed '\'' ['b'] []) :=
    .plain rfl (by decide) (by decide) <| .plain rfl (by decide) (by decide) <|
      .plain rfl (by decide) (by decide) hlast
  have hfirst : Balanced (enclosed '\'' ['a'] (' ' :: '|' :: ' ' :: enclosed '\'' ['b'] [])) :=
    .literal rfl (by decide) hbar
  exact hfirst

end DiagramForge.Grammar
