import DiagramForge.Proofs.Grammar.Segments

/-!
# Literals in rules

What a rule produces does not depend on the contents of a literal in its body, as long as the literal
is `Shielded`: `Rule.produced_enclosed`.

A body is read by three searches that do not know of literals: for actions, for assignments, and for
the groups around an assignment. What they find in the contents of a literal, or would find if the
contents were others, is what `Shielded` excludes.
-/

namespace DiagramForge.Grammar

open Text

variable {q : Char} {c c' : List Char}

/-! ## Groups -/

theorem allowsNone_append_quote (hq : isQuote q = true) (u z : List Char) :
    allowsNone (u ++ q :: z) = allowsNone u := by
  rw [allowsNone, allowsNone, trimLeft_append_quote hq]
  cases trimLeft u with
  | nil => rcases eq_of_isQuote hq with rfl | rfl <;> rfl
  | cons d u => rfl

/-- The quote that a character behind `d` stands in, if `d` stands in `quote`, as the search for
groups has it. -/
def quoteStep (quote : Option Char) (d : Char) : Option Char :=
  match quote with
  | some q => if d == q then none else some q
  | none => if isQuote d then some d else none

/-- The quote that what follows a text stands in. -/
def quoteAfter (quote : Option Char) (cs : List Char) : Option Char :=
  cs.foldl quoteStep quote

theorem quoteAfter_append (quote : Option Char) (x y : List Char) :
    quoteAfter quote (x ++ y) = quoteAfter (quoteAfter quote x) y :=
  List.foldl_append

theorem quoteAfter_of_not_mem {q : Char} {cs : List Char} (h : q ∉ cs) :
    quoteAfter (some q) cs = some q := by
  induction cs with
  | nil => rfl
  | cons d cs ih =>
    rw [List.mem_cons, not_or] at h
    have hstep : quoteStep (some q) d = some q := by
      rw [quoteStep, if_neg]
      rw [beq_iff_eq]
      exact Ne.symm h.1
    rw [quoteAfter, List.foldl_cons, hstep]
    exact ih h.2

theorem isQuote_of_quoteAfter {e : Char} (cs : List Char) {quote : Option Char}
    (hquote : ∀ e, quote = some e → isQuote e = true) (h : quoteAfter quote cs = some e) :
    isQuote e = true := by
  induction cs generalizing quote with
  | nil => exact hquote e h
  | cons d cs ih =>
    refine ih (fun e he ↦ ?_) h
    cases quote with
    | none =>
      rw [quoteStep] at he
      split at he
      · next hd =>
        cases he
        exact hd
      · cases he
    | some f =>
      rw [quoteStep] at he
      split at he
      · cases he
      · exact hquote e he

variable {start stop start' stop' offset offset' p : Nat}

theorem behindGroups_of_isQuote {d : Char} (hd : isQuote d = true) (opened : List Nat)
    (cs : List Char) : behindGroups start stop none opened offset (d :: cs) =
      behindGroups start stop (some d) opened (offset + 1) cs := by
  cases opened <;> rw [behindGroups, if_pos hd]

theorem behindGroups_of_open (opened : List Nat) (cs : List Char) :
    behindGroups start stop none opened offset ('(' :: cs) =
      behindGroups start stop none (offset :: opened) (offset + 1) cs := by
  cases opened <;> rfl

theorem behindGroups_of_close (open' : Nat) (opened : List Nat) (cs : List Char) :
    behindGroups start stop none (open' :: opened) offset (')' :: cs) =
      if decide (open' < start) && decide (stop ≤ offset) then
        cs :: behindGroups start stop none opened (offset + 1) cs
      else behindGroups start stop none opened (offset + 1) cs := rfl

/-- Where a group ends, what follows counts if the group encloses the stretch. -/
theorem any_behindGroups_of_close (f : List Char → Bool) (open' : Nat) (opened : List Nat)
    (cs : List Char) :
    (behindGroups start stop none (open' :: opened) offset (')' :: cs)).any f =
      (decide (open' < start) && decide (stop ≤ offset) && f cs ||
        (behindGroups start stop none opened (offset + 1) cs).any f) := by
  rw [behindGroups_of_close]
  split
  · next h => rw [h, Bool.true_and, List.any_cons]
  · next h => rw [Bool.eq_false_iff.mpr h, Bool.false_and, Bool.false_or]

theorem behindGroups_of_plain {d : Char} (hd : isQuote d = false) (hopen : d ≠ '(')
    (hclose : d ≠ ')') (opened : List Nat) (cs : List Char) :
    behindGroups start stop none opened offset (d :: cs) =
      behindGroups start stop none opened (offset + 1) cs := by
  rw [← beq_eq_false_iff_ne, Bool.eq_false_iff] at hopen hclose
  rw [Bool.eq_false_iff] at hd
  cases opened <;> rw [behindGroups, if_neg hd, if_neg hopen, if_neg hclose]

/-- Between quotes the search for groups finds nothing. -/
theorem behindGroups_quoted {e : Char} {cs : List Char} (h : e ∉ cs) (opened : List Nat)
    (rest : List Char) : behindGroups start stop (some e) opened offset (cs ++ rest) =
      behindGroups start stop (some e) opened (offset + cs.length) rest := by
  induction cs generalizing offset with
  | nil => rfl
  | cons d cs ih =>
    rw [List.mem_cons, not_or] at h
    have hne : ¬ (d == e) = true := by
      rw [beq_iff_eq]
      exact Ne.symm h.1
    rw [List.cons_append, behindGroups, if_neg hne, ih h.2, List.length_cons, Nat.add_right_comm,
      Nat.add_assoc]

/-- Without parentheses and quotes the search for groups finds nothing. -/
theorem behindGroups_plain {cs : List Char} (hquote : QuoteFree cs)
    (hopen : '(' ∉ cs) (hclose : ')' ∉ cs) (opened : List Nat) (rest : List Char) :
    behindGroups start stop none opened offset (cs ++ rest) =
      behindGroups start stop none opened (offset + cs.length) rest := by
  induction cs generalizing offset with
  | nil => rfl
  | cons d cs ih =>
    rw [List.mem_cons, not_or] at hopen hclose
    rw [QuoteFree, List.forall_mem_cons] at hquote
    rw [List.cons_append, behindGroups_of_plain hquote.1 (Ne.symm hopen.1) (Ne.symm hclose.1),
      ih hquote.2 hopen.2 hclose.2, List.length_cons, Nat.add_right_comm, Nat.add_assoc]

/-- A literal is passed over by the search for groups. If it is in another literal there, there must
not be quotes in the contents, and no parentheses if it takes the first quote for the end of that
literal. -/
theorem behindGroups_enclosed (hq : isQuote q = true) (hc : Contents q c) {quote : Option Char}
    (hquote : ∀ e, quote = some e → isQuote e = true)
    (hopen : ∀ e, quote = some e → QuoteFree c ∧ (e = q → '(' ∉ c ∧ ')' ∉ c))
    (opened : List Nat) (v : List Char) :
    behindGroups start stop quote opened offset (enclosed q c v) =
      behindGroups start stop quote opened (offset + 2 + c.length) v := by
  have hoffset : offset + 1 + c.length + 1 = offset + 2 + c.length := by omega
  have hself : (q == q) = true := beq_self_eq_true q
  rw [enclosed]
  cases quote with
  | none =>
    rw [behindGroups_of_isQuote hq, behindGroups_quoted hc.quote, behindGroups, if_pos hself,
      hoffset]
  | some e =>
    obtain ⟨hfree, hparens⟩ := hopen e rfl
    by_cases heq : q = e
    · subst heq
      obtain ⟨hleft, hright⟩ := hparens rfl
      rw [behindGroups, if_pos hself, behindGroups_plain hfree hleft hright,
        behindGroups_of_isQuote hq, hoffset]
    · have hne : ¬ (q == e) = true := by rwa [beq_iff_eq]
      rw [behindGroups, if_neg hne, behindGroups_quoted (hfree.not_mem (hquote e rfl)),
        behindGroups, if_neg hne, hoffset]

/-- The search for groups finds the same groups around two stretches, if the places of characters in
the two texts lie alike to them. -/
theorem any_behindGroups_append {P : Nat → Nat → Prop}
    (hstart : ∀ k k', P k k' → (k < start ↔ k' < start'))
    (hstop : ∀ k k', P k k' → (stop ≤ k ↔ stop' ≤ k')) {x t t' : List Char}
    (hallows : ∀ s, s <:+ x → allowsNone (s ++ t) = allowsNone (s ++ t')) {quote : Option Char}
    {opened opened' : List Nat} (hopened : List.Forall₂ P opened opened')
    (hplaces : ∀ i < x.length, P (offset + i) (offset' + i))
    (hrest : ∀ opened opened', List.Forall₂ P opened opened' →
      (behindGroups start stop (quoteAfter quote x) opened (offset + x.length) t).any allowsNone =
        (behindGroups start' stop' (quoteAfter quote x) opened' (offset' + x.length) t').any
          allowsNone) :
    (behindGroups start stop quote opened offset (x ++ t)).any allowsNone =
      (behindGroups start' stop' quote opened' offset' (x ++ t')).any allowsNone := by
  induction x generalizing quote opened opened' offset offset' with
  | nil => exact hrest opened opened' hopened
  | cons d x ih =>
    have hhere := hplaces 0 (Nat.zero_lt_succ _)
    -- what follows is searched alike, whatever groups are open
    have hnext : ∀ {opened opened'}, List.Forall₂ P opened opened' →
        (behindGroups start stop (quoteStep quote d) opened (offset + 1) (x ++ t)).any allowsNone =
          (behindGroups start' stop' (quoteStep quote d) opened' (offset' + 1) (x ++ t')).any
            allowsNone := by
      intro opened opened' hopened
      refine ih (fun s hs ↦ hallows s (hs.trans (List.suffix_cons _ _))) hopened (fun i hi ↦ ?_) ?_
      · have hplace := hplaces (i + 1) (Nat.succ_lt_succ hi)
        rwa [Nat.add_comm i, ← Nat.add_assoc, ← Nat.add_assoc] at hplace
      · intro opened opened' hopened
        have hrest := hrest opened opened' hopened
        rwa [List.length_cons, Nat.add_comm x.length, ← Nat.add_assoc, ← Nat.add_assoc] at hrest
    rw [List.cons_append, List.cons_append]
    cases quote with
    | some e =>
      rw [behindGroups, behindGroups]
      exact hnext hopened
    | none =>
      by_cases hquote : isQuote d = true
      · have hstep : quoteStep none d = some d := if_pos hquote
        rw [hstep] at hnext
        rw [behindGroups_of_isQuote hquote, behindGroups_of_isQuote hquote]
        exact hnext hopened
      have hstep : quoteStep none d = none := if_neg hquote
      rw [hstep] at hnext
      rw [Bool.not_eq_true] at hquote
      by_cases hopen : d = '('
      · subst hopen
        rw [behindGroups_of_open, behindGroups_of_open]
        exact hnext (.cons hhere hopened)
      by_cases hclose : d = ')'
      · subst hclose
        cases hopened with
        | nil =>
          rw [behindGroups, behindGroups]
          exact hnext .nil
        | cons hopen hopened =>
          have hbegin := hallows x (List.suffix_cons _ _)
          have hbefore := hstart _ _ hopen
          have hbehind := hstop _ _ hhere
          rw [Nat.add_zero, Nat.add_zero] at hbehind
          rw [any_behindGroups_of_close, any_behindGroups_of_close, hnext hopened, hbegin,
            decide_eq_decide.mpr hbefore, decide_eq_decide.mpr hbehind]
      · rw [behindGroups_of_plain hquote hopen hclose, behindGroups_of_plain hquote hopen hclose]
        exact hnext hopened

theorem drop_enclosed (q : Char) (c x y : List Char) (i : Nat) :
    (x ++ enclosed q c y).drop (x.length + 2 + c.length + i) = y.drop i := by
  have hlength : x.length + 2 + c.length + i = x.length + (c.length + (1 + i) + 1) := by omega
  rw [hlength, List.drop_length_add_append, enclosed, List.drop_succ_cons,
    List.drop_length_add_append, Nat.add_comm 1 i, List.drop_succ_cons]

/-- Whether an assignment may be left out does not depend on the contents of a literal. -/
theorem isOptionalAt_enclosed (hq : isQuote q = true) (hc : Contents q c) (hc' : PlainContents c')
    {x : List Char} (hopen : ∀ e, quoteAfter none x = some e → QuoteFree c ∧
      (e = q → ('(' ∉ c ∧ ')' ∉ c) ∧ '(' ∉ c' ∧ ')' ∉ c'))
    (hstart : Moved x.length c c' start start') (hstop : Moved x.length c c' stop stop')
    (hinside : stop = x.length + 1 → allowsNone c = allowsNone c') (y : List Char) :
    isOptionalAt (x ++ enclosed q c y) start stop =
      isOptionalAt (x ++ enclosed q c' y) start' stop' := by
  have hdrop : allowsNone ((x ++ enclosed q c y).drop stop) =
      allowsNone ((x ++ enclosed q c' y).drop stop') := by
    rcases hstop with ⟨hle, rfl⟩ | ⟨hle, heq⟩
    · rcases Nat.lt_or_eq_of_le hle with hlt | rfl
      · rw [List.drop_append_of_le_length (Nat.le_of_lt_succ hlt),
          List.drop_append_of_le_length (Nat.le_of_lt_succ hlt), enclosed, enclosed,
          allowsNone_append_quote hq, allowsNone_append_quote hq]
      · have hdrop : ∀ c, (x ++ enclosed q c y).drop (x.length + 1) = c ++ q :: y := fun c ↦ by
          rw [List.drop_length_add_append]
          rfl
        rw [hdrop, hdrop, allowsNone_append_quote hq, allowsNone_append_quote hq, hinside rfl]
    · obtain ⟨i, rfl⟩ := Nat.exists_eq_add_of_le hle
      obtain rfl : stop' = x.length + 2 + c'.length + i := by omega
      rw [drop_enclosed, drop_enclosed]
  have hbefore := fun k k' (h : Moved x.length c c' k k') ↦ h.lt_iff hstart
  have hbehind := fun k k' (h : Moved x.length c c' k k') ↦ hstop.le_iff h
  have hgroups : (behindGroups start stop none [] 0 (x ++ enclosed q c y)).any allowsNone =
      (behindGroups start' stop' none [] 0 (x ++ enclosed q c' y)).any allowsNone := by
    refine any_behindGroups_append hbefore hbehind (fun s _ ↦ ?_) .nil (fun i hi ↦ ?_)
      fun opened opened' hopened ↦ ?_
    · rw [enclosed, enclosed, allowsNone_append_quote hq, allowsNone_append_quote hq]
    · exact .inl (by omega)
    -- behind the literal the same text is searched
    · have hquote : ∀ e, quoteAfter none x = some e → isQuote e = true := fun e ↦
        isQuote_of_quoteAfter x fun e he ↦ by cases he
      have hrest : (behindGroups start stop (quoteAfter none x) opened
          (0 + x.length + 2 + c.length) (y ++ [])).any allowsNone =
          (behindGroups start' stop' (quoteAfter none x) opened'
            (0 + x.length + 2 + c'.length) (y ++ [])).any allowsNone :=
        any_behindGroups_append hbefore hbehind (fun _ _ ↦ rfl) hopened (fun i _ ↦ .inr (by omega))
          fun _ _ _ ↦ by rw [behindGroups, behindGroups]
      rw [List.append_nil] at hrest
      have hopen₁ := fun e he ↦ (hopen e he).imp_right fun h heq ↦ (h heq).1
      have hopen₂ := fun e he ↦ And.intro hc'.quote fun heq ↦ ((hopen e he).2 heq).2
      rw [behindGroups_enclosed hq hc hquote hopen₁,
        behindGroups_enclosed hq (hc'.contents hq) hquote hopen₂]
      exact hrest
  rw [isOptionalAt, isOptionalAt, hdrop, hgroups]

/-! ## The body around a literal -/

theorem action?_quote (hq : isQuote q = true) (z : List Char) : action? (q :: z) = none := by
  have h := local_action? [] q z hq
  rwa [List.nil_append] at h

/-- No action goes over a quote. -/
theorem bodyParts_append_quote (hq : isQuote q = true) (x z : List Char) :
    bodyParts (x ++ q :: z) = bodyParts x ++ .char q :: bodyParts z := by
  rw [bodyParts_append fun u _ _ ↦ local_action? u q z hq, bodyParts_of_none (action?_quote hq z)]

/-- The parts of a body with a literal in it. -/
theorem bodyParts_enclosed (hq : isQuote q = true) (hinert : Inert c) (x y : List Char) :
    bodyParts (x ++ enclosed q c y) =
      bodyParts x ++ ((q :: (c ++ [q])).map .char ++ bodyParts y) := by
  rw [enclosed, bodyParts_append_quote hq, bodyParts_append_quote hq,
    bodyParts_of_forall_none hinert.action, List.map_cons, List.map_append, List.map_singleton]
  simp only [List.cons_append, List.append_assoc, List.nil_append]

/-- Blanking actions leaves a literal as it is. -/
theorem blankActions_enclosed (hq : isQuote q = true) (hinert : Inert c) (x y : List Char) :
    blankActions (x ++ enclosed q c y) = blankActions x ++ enclosed q c (blankActions y) := by
  rw [blankActions, bodyParts_enclosed hq hinert, List.flatMap_append, List.flatMap_append,
    blank_chars, enclosed, List.cons_append, List.append_assoc, List.singleton_append]
  rfl

/-- The segments of a body with a literal in it. -/
theorem segments_enclosed (hq : isQuote q = true) (hinert : Inert c) (hinert' : Inert c')
    (x y : List Char) :
    List.Forall₂ (SegmentReplaced (q :: (c ++ [q])) (q :: (c' ++ [q])) x y)
      (segments (bodyParts (x ++ enclosed q c y)))
      (segments (bodyParts (x ++ enclosed q c' y))) := by
  rw [bodyParts_enclosed hq hinert, bodyParts_enclosed hq hinert']
  exact segments_replaced _ _ x y

/-! ## What comes of segments -/

theorem map_eq_of_forall₂ {α β γ : Type} {r : α → β → Prop} {f : α → γ} {g : β → γ} {as : List α}
    {bs : List β} (h : List.Forall₂ r as bs) (hfg : ∀ a b, r a b → f a = g b) :
    as.map f = bs.map g := by
  induction h with
  | nil => rfl
  | cons hab _ ih => rw [List.map_cons, List.map_cons, hfg _ _ hab, ih]

theorem segmentProperties_eq (types : RuleTypes) (body : List Char) (s : Segment) :
    segmentProperties types body s =
      ((occurrences s.start s.text).map fun o ↦ o.property types body).foldl addProperty [] :=
  List.foldl_map.symm

/-- Two rules produce the same if their segments follow the same actions, and the assignments in them
make the same properties. -/
theorem Rule.produced_eq_of_forall₂ {r r' : Rule} {types : RuleTypes} (htarget : r'.target = r.target)
    {R : Segment → Segment → Prop}
    (hsegments : List.Forall₂ R (segments (bodyParts r.body)) (segments (bodyParts r'.body)))
    (hactions : ∀ s s', R s s' → s'.action = s.action)
    (hproperties : ∀ s s', R s s' → List.Forall₂
      (fun o o' ↦ o.property types (blankActions r.body) = o'.property types (blankActions r'.body))
      (occurrences s.start s.text) (occurrences s'.start s'.text)) :
    r.produced types = r'.produced types := by
  refine map_eq_of_forall₂ hsegments fun s s' h ↦ ?_
  have hsegment : segmentProperties types (blankActions r.body) s =
      segmentProperties types (blankActions r'.body) s' := by
    rw [segmentProperties_eq, segmentProperties_eq,
      map_eq_of_forall₂ (hproperties s s' h) fun _ _ ↦ id]
  rw [blankActions, blankActions] at hsegment
  rw [Segment.produced, Segment.produced, hactions s s' h, hsegment, htarget]

theorem Occurrence.property_congr {types : RuleTypes} {body body' : List Char} {o o' : Occurrence}
    (hassignment : o'.assignment = o.assignment)
    (hoptional : isOptionalAt body o.start o.stop = isOptionalAt body' o'.start o'.stop) :
    o.property types body = o'.property types body' := by
  rw [Occurrence.property, Occurrence.property, hassignment, hoptional]

/-! ## What a rule produces -/

/-- What the contents of a literal in a rule body must not be for the literal to be opaque: the
searches that do not know of literals must find nothing in them. The literal stands between `x` and
`y`, and its contents are `c` or `c'`. -/
structure Shielded (q : Char) (c c' x y : List Char) : Prop where
  /-- Nothing in the contents is taken for a part of the body. -/
  inert : Inert c
  /-- Nothing in the other contents is. -/
  inert' : Inert c'
  /-- If the search for groups is in another literal where this one begins, there are no quotes in the
  contents, and no parentheses if it takes the first quote for the end of that literal. -/
  groups : ∀ e, quoteAfter none (blankActions x) = some e → QuoteFree c ∧
    (e = q → ('(' ∉ c ∧ ')' ∉ c) ∧ '(' ∉ c' ∧ ')' ∉ c')
  /-- If the value of an assignment is not closed where the literal begins, there are no quotes in the
  contents, and they begin alike. -/
  values : ∀ t, t <:+ blankActions x → OpenAssignment t →
    QuoteFree c ∧ allowsNone c = allowsNone c'
  /-- There are no bars in the contents, and the literal begins an alternative or has no quotes in it;
  or the rule lists no alternatives. -/
  alternatives : ('|' ∉ c ∧ '|' ∉ c' ∧ (BeginsMember x ∨ QuoteFree c)) ∨
    isAlternatives (x ++ enclosed q c y) = false ∧ isAlternatives (x ++ enclosed q c' y) = false

theorem le_of_mem_occurrences {cs : List Char} {o : Occurrence}
    (h : o ∈ occurrences offset cs) : o.start ≤ offset + cs.length ∧ o.stop ≤ offset + cs.length := by
  induction cs using occurrences_cases generalizing offset with
  | nil => simp [occurrences] at h
  | some cs a after hread ih =>
    have hlt := length_lt_of_assignment? hread
    rw [occurrences_of_some hread hlt] at h
    rcases List.mem_cons.mp h with rfl | h
    · dsimp only
      omega
    · have hle := ih h
      omega
  | none d cs hread ih =>
    rw [occurrences_of_none hread] at h
    have hle := ih h
    rw [List.length_cons]
    omega

/-- In a segment that is the same with another literal, the same assignments are found. -/
theorem SegmentReplaced.occurrences_enclosed (hq : isQuote q = true) (hc : Contents q c)
    (hc' : PlainContents c') {x y : List Char} (hshield : Shielded q c c' x y) {s s' : Segment}
    (h : SegmentReplaced (q :: (c ++ [q])) (q :: (c' ++ [q])) x y s s') :
    List.Forall₂ (OccursAlike x.length c c') (occurrences s.start s.text)
      (occurrences s'.start s'.text) := by
  have hlength : ∀ c : List Char, (q :: (c ++ [q])).length = c.length + 2 := by simp
  have htext : ∀ c v : List Char, q :: (c ++ [q]) ++ v = enclosed q c v := by simp [enclosed]
  cases h with
  | before _ hle =>
    refine List.forall₂_same.mpr fun o ho ↦ ?_
    obtain ⟨hstart, hstop⟩ := le_of_mem_occurrences ho
    refine ⟨rfl, .inl ⟨?_, rfl⟩, .inl ⟨?_, rfl⟩, fun heq ↦ ?_⟩
    · omega
    · omega
    · omega
  | around a start u v z hplace _ hu =>
    dsimp only
    rw [htext, htext]
    exact Grammar.occurrences_enclosed hq hc hc' hshield.inert hshield.inert' hplace
      (fun t ht ↦ hshield.values t (ht.trans hu)) v
  | behind a i text =>
    dsimp only
    rw [hlength, hlength]
    exact occurrences_moved (.inr (by omega)) (by omega) text

/-- What a rule produces does not depend on the contents of a literal that is shielded. -/
theorem Rule.produced_enclosed (hq : isQuote q = true) (hc : Contents q c) (hc' : PlainContents c')
    {x y : List Char} (hshield : Shielded q c c' x y) (name : String) (returns : Option String)
    (notes : Annotations) (types : RuleTypes) :
    Rule.produced ⟨name, returns, x ++ enclosed q c y, notes⟩ types =
      Rule.produced ⟨name, returns, x ++ enclosed q c' y, notes⟩ types := by
  have hbody := fun c (hinert : Inert c) ↦ blankActions_enclosed hq hinert x y
  refine Rule.produced_eq_of_forall₂ rfl (segments_enclosed hq hshield.inert hshield.inert' x y)
    (fun s s' h ↦ by cases h <;> rfl) fun s s' h ↦ ?_
  have halike := h.occurrences_enclosed hq hc hc' hshield
  rw [← length_blankActions x] at halike
  refine halike.imp fun o o' ho ↦ Occurrence.property_congr ho.assignment ?_
  dsimp only
  rw [hbody c hshield.inert, hbody c' hshield.inert']
  exact isOptionalAt_enclosed hq hc hc' hshield.groups ho.start ho.stop ho.inside (blankActions y)

/-- Whether a rule lists alternatives does not depend on the contents of a literal that is
shielded. -/
theorem isAlternatives_enclosed (hq : isQuote q = true) (hc : Contents q c) (hc' : PlainContents c')
    {x y : List Char} (hshield : Shielded q c c' x y) :
    isAlternatives (x ++ enclosed q c y) = isAlternatives (x ++ enclosed q c' y) := by
  rcases hshield.alternatives with ⟨hbar, hbar', hmember⟩ | ⟨hnone, hnone'⟩
  · obtain ⟨fs, u, v, gs, hbegins, hfields⟩ := exists_members_enclosed hq x y
    have hsome := isSome_literalContents?_enclosed hq hc hc' (hmember.imp_left hbegins) (trimRight v)
    simp only [isAlternatives, hfields hbar, hfields hbar', List.map_append,
      List.map_cons, List.length_append, List.length_cons, List.all_append, List.all_cons,
      trim_enclosed hq, isIdent_enclosed hq, hsome]
  · rw [hnone, hnone']

end DiagramForge.Grammar
