import DiagramForge.Proofs.Grammar.CommentedRules

/-!
# Line comments in interfaces

The body of an interface is cut into lines and each of them read as a property, and nowhere are
comments skipped. A line with a comment in it is no property: `property_commented`. So an interface
with a line comment in its body is not read, whatever the comment is: `interfaceAt?_commented`.

The reason is that in the text of a property every slash stands in a literal: `SlashesQuoted`. Before
the comment all literals are closed, so the slashes of the comment are in none.
-/

namespace DiagramForge.Grammar

open Text

/-! ## Slashes in literals -/

/-- The literals of a text are closed, and every slash stands in one. -/
def SlashesQuoted (cs : List Char) : Prop :=
  quoteAfter none cs = none ∧ ∀ u v, cs = u ++ '/' :: v → quoteAfter none u ≠ none

theorem quoteAfter_of_quoteFree {cs : List Char} (h : QuoteFree cs) : quoteAfter none cs = none := by
  induction cs with
  | nil => rfl
  | cons d cs ih =>
    obtain ⟨hd, hcs⟩ := List.forall_mem_cons.mp h
    have hstep : quoteStep none d = none := if_neg (Bool.eq_false_iff.mp hd)
    rw [quoteAfter, List.foldl_cons, hstep]
    exact ih hcs

theorem slashesQuoted_nil : SlashesQuoted [] :=
  ⟨rfl, fun u v h ↦ by simp at h⟩

theorem slashesQuoted_of_quoteFree {cs : List Char} (hquote : QuoteFree cs) (hslash : '/' ∉ cs) :
    SlashesQuoted cs :=
  ⟨quoteAfter_of_quoteFree hquote, fun u v h ↦ absurd (by simp [h]) hslash⟩

theorem SlashesQuoted.append {cs ds : List Char} (hcs : SlashesQuoted cs) (hds : SlashesQuoted ds) :
    SlashesQuoted (cs ++ ds) := by
  refine ⟨by rw [quoteAfter_append, hcs.1, hds.1], fun u v h ↦ ?_⟩
  rcases List.append_eq_append_iff.mp h with ⟨w, rfl, hw⟩ | ⟨w, rfl, hw⟩
  · rw [quoteAfter_append, hcs.1]
    exact hds.2 w v hw
  · rcases w with _ | ⟨d, w⟩
    · exact absurd rfl (hds.2 [] v hw.symm)
    · obtain ⟨rfl, -⟩ := List.cons.inj hw
      exact hcs.2 u w rfl

theorem slashesQuoted_blanks {cs : List Char} (h : allBlank cs = true) : SlashesQuoted cs :=
  slashesQuoted_of_quoteFree (fun d hd ↦ isQuote_of_isBlank (List.all_eq_true.mp h d hd))
    fun hmem ↦ nomatch List.all_eq_true.mp h '/' hmem

theorem SlashesQuoted.of_trim {cs : List Char} (h : SlashesQuoted (trim cs)) : SlashesQuoted cs := by
  obtain ⟨before, after, hcs, hbefore, hafter⟩ := exists_blanks_of_trim cs
  rw [hcs]
  exact ((slashesQuoted_blanks hbefore).append h).append (slashesQuoted_blanks hafter)

/-- A literal holds the slashes in it. -/
theorem slashesQuoted_of_literalContents? {cs : List Char}
    (h : (literalContents? cs).isSome = true) : SlashesQuoted cs := by
  obtain ⟨q, c, rfl, hq, hmem⟩ := isSome_literalContents?_iff.mp h
  rw [enclosed]
  have hopen : ∀ u, q ∉ u → quoteAfter none (q :: u) = some q := by
    intro u hu
    have hstep : quoteStep none q = some q := if_pos hq
    rw [quoteAfter, List.foldl_cons, hstep]
    exact quoteAfter_of_not_mem hu
  have hslash : q ≠ '/' := ne_of_class hq rfl
  refine ⟨?_, fun u v heq ↦ ?_⟩
  · have hclose : quoteStep (some q) q = none := if_pos (beq_self_eq_true q)
    rw [← List.cons_append, quoteAfter_append, hopen c hmem]
    exact hclose
  · rcases u with _ | ⟨d, u⟩
    · exact absurd (List.cons.inj heq).1 hslash
    obtain ⟨rfl, hrest⟩ := List.cons.inj heq
    rcases List.append_eq_append_iff.mp hrest with ⟨w, rfl, hw⟩ | ⟨w, rfl, -⟩
    · -- behind the contents there is only the quote
      rcases w with _ | ⟨d, w⟩
      · exact absurd (List.cons.inj hw).1 hslash
      · simp at hw
    · rw [hopen u fun hu ↦ hmem (List.mem_append_left w hu)]
      simp

theorem slashesQuoted_of_isIdent {cs : List Char} (h : isIdent cs = true) : SlashesQuoted cs := by
  have hrest := isIdentRest_of_isIdent h
  refine slashesQuoted_of_quoteFree (fun d hd ↦ ?_) fun hmem ↦ nomatch hrest '/' hmem
  rw [Bool.eq_false_iff]
  intro hquote
  exact ne_of_class (hrest d hd) (isIdentRest_of_isQuote hquote) rfl

/-- The slashes of a text stand in literals if those of its members do. -/
theorem slashesQuoted_of_fields {cs : List Char}
    (h : ∀ f ∈ fields (· == '|') cs, SlashesQuoted f) : SlashesQuoted cs := by
  cases hfields : fields (· == '|') cs with
  | nil => exact absurd hfields (fields_ne_nil _ cs)
  | cons f fs =>
    rw [hfields, List.forall_mem_cons] at h
    rw [eq_append_of_fields hfields]
    refine h.1.append (flatMap_closed slashesQuoted_nil .append fun g hg ↦ ?_)
    have hbar : SlashesQuoted ['|'] := slashesQuoted_of_quoteFree (by decide) (by decide)
    exact hbar.append (h.2 g hg)

/-! ## Types of properties -/

/-- A type without the brackets of a sequence behind it. -/
def withoutBrackets (type : List Char) : List Char :=
  if ['[', ']'].isSuffixOf type then trim (type.take (type.length - 2)) else type

/-- A type without the parentheses around it. -/
def withoutParentheses (type : List Char) : List Char :=
  if type.head? == some '(' && type.getLast? == some ')' then trim type.tail.dropLast else type

/-- A type without the mark of a reference in front of it. -/
def withoutMark (type : List Char) : List Char :=
  if type.head? == some '@' then trim type.tail else type

theorem propertyOfType_eq (interface name : String) (optional : Bool) (type : List Char) :
    propertyOfType interface name optional type =
      let core := withoutParentheses (withoutBrackets type)
      if core.contains '|' then
        if (fields (· == '|') core).all fun member ↦ (literalContents? (trim member)).isSome then
          .ok ⟨name, "string", optional, ['[', ']'].isSuffixOf type, false⟩
        else .error (.inlineUnion interface name core)
      else if isIdent (withoutMark core) then
        .ok ⟨name, String.ofList (withoutMark core), optional, ['[', ']'].isSuffixOf type,
          core.head? == some '@'⟩
      else .error (.invalidType interface name (withoutMark core)) :=
  rfl

theorem SlashesQuoted.of_withoutBrackets {type : List Char}
    (h : SlashesQuoted (withoutBrackets type)) : SlashesQuoted type := by
  rw [withoutBrackets] at h
  split at h
  next hsuffix =>
    obtain ⟨start, rfl⟩ := List.isSuffixOf_iff_suffix.mp hsuffix
    rw [List.length_append, List.length_cons, List.length_singleton, Nat.add_sub_cancel,
      List.take_left] at h
    exact h.of_trim.append (slashesQuoted_of_quoteFree (by decide) (by decide))
  next => exact h

theorem SlashesQuoted.of_withoutParentheses {type : List Char}
    (h : SlashesQuoted (withoutParentheses type)) : SlashesQuoted type := by
  rw [withoutParentheses] at h
  split at h
  next hparens =>
    rw [Bool.and_eq_true, beq_iff_eq, beq_iff_eq] at hparens
    rcases type with _ | ⟨d, type⟩
    · cases hparens.1
    obtain rfl : d = '(' := Option.some.inj hparens.1
    rcases type.eq_nil_or_concat with rfl | ⟨inside, e, rfl⟩
    · cases hparens.2
    rw [List.concat_eq_append] at h ⊢
    have hlast : e = ')' := by simpa [List.getLast?_cons] using hparens.2
    rw [List.tail_cons, List.dropLast_concat] at h
    have hopen : SlashesQuoted ['('] := slashesQuoted_of_quoteFree (by decide) (by decide)
    have hclose : SlashesQuoted [e] := by
      rw [hlast]
      exact slashesQuoted_of_quoteFree (by decide) (by decide)
    exact hopen.append (h.of_trim.append hclose)
  next => exact h

theorem SlashesQuoted.of_withoutMark {type : List Char}
    (h : SlashesQuoted (withoutMark type)) : SlashesQuoted type := by
  rw [withoutMark] at h
  split at h
  next hmark =>
    rcases type with _ | ⟨d, type⟩
    · cases hmark
    obtain rfl : d = '@' := Option.some.inj (eq_of_beq hmark)
    have hat : SlashesQuoted ['@'] := slashesQuoted_of_quoteFree (by decide) (by decide)
    exact hat.append h.of_trim
  next => exact h

/-- In the type of a property all slashes stand in literals. -/
theorem slashesQuoted_of_propertyOfType {interface name : String} {optional : Bool}
    {type : List Char} {p : Property}
    (h : propertyOfType interface name optional type = .ok p) : SlashesQuoted type := by
  refine SlashesQuoted.of_withoutBrackets (SlashesQuoted.of_withoutParentheses ?_)
  rw [propertyOfType_eq] at h
  dsimp only at h
  split at h
  · split at h
    next hall =>
      refine slashesQuoted_of_fields fun f hf ↦ ?_
      exact (slashesQuoted_of_literalContents? (List.all_eq_true.mp hall f hf)).of_trim
    next => cases h
  · split at h
    next hident => exact (slashesQuoted_of_isIdent hident).of_withoutMark
    next => cases h

/-! ## Lines -/

theorem trim_append_slash (x y : List Char) :
    trim (x ++ '/' :: y) = trimLeft x ++ '/' :: trimRight y := by
  rw [trim, trimLeft_append_mark (startsMark_slash y), trimRight_append_cons rfl]

/-- A line that begins with a slash is no property. -/
theorem property_slash (interface : String) (cs : List Char) (p : Property) :
    property interface ('/' :: cs) ≠ .ok p := by
  have hident : ident? ('/' :: cs) = none := rfl
  rw [property_eq, propertyHead?, hident]
  simp

/-- **A line is no property with a comment behind it.** -/
theorem property_commented {interface : String} {line blanks : List Char}
    (hline : allBlank line = true ∨ ∃ p, property interface (trim line) = .ok p)
    (hblanks : allBlank blanks = true) (rest : List Char) (p : Property) :
    property interface (trim (line ++ (blanks ++ '/' :: rest))) ≠ .ok p := by
  rw [← List.append_assoc, trim_append_slash]
  by_cases hblank : allBlank line = true
  · have hall : allBlank (line ++ blanks) = true := by
      rw [allBlank, List.all_append]
      exact Bool.and_eq_true_iff.mpr ⟨hblank, hblanks⟩
    have hnone : trimLeft (line ++ blanks) = [] :=
      List.dropWhile_eq_nil_iff.mpr (List.all_eq_true.mp hall)
    rw [hnone, List.nil_append]
    exact property_slash interface _ p
  · obtain ⟨p', hread⟩ := hline.resolve_left hblank
    have hleft : trimLeft (line ++ blanks) = trimLeft line ++ blanks := by
      have hne : trimLeft line ≠ [] := fun hnil ↦
        hblank (List.all_eq_true.mpr (List.dropWhile_eq_nil_iff.mp hnil))
      rw [trimLeft, List.dropWhile_append, ← trimLeft, if_neg (by simpa using hne)]
    obtain ⟨after, hright, hafter⟩ := exists_blanks_of_trimRight (trimLeft line)
    rw [hleft, hright, ← trim, List.append_assoc, List.append_assoc]
    rw [property_eq] at hread ⊢
    -- the name is read as without the comment, and the comment is put to the type
    rcases hhead : propertyHead? (trim line) with _ | ⟨⟨name, optional⟩, type⟩
    · rw [hhead] at hread
      cases hread
    rw [hhead] at hread
    rw [endsWith_propertyHead?.append hhead]
    dsimp only at hread ⊢
    split at hread
    · cases hread
    rw [if_neg (by simp)]
    intro hcommented
    have hbefore := (slashesQuoted_of_propertyOfType hread).of_trim.append
      ((slashesQuoted_blanks hafter).append (slashesQuoted_blanks hblanks))
    have hbehind := (slashesQuoted_of_propertyOfType hcommented).of_trim
    refine hbehind.2 (type ++ (after ++ blanks)) (trimRight rest) ?_ hbefore.1
    simp

/-- The lines of a body that is read are blank or properties. -/
theorem exists_property_of_mem {interface : String} {lines : List (List Char)}
    {ps : List Property} {remaining : Nat} (h : properties interface remaining lines = .ok ps)
    {line : List Char} (hline : line ∈ lines) :
    allBlank line = true ∨ ∃ p, property interface (trim line) = .ok p := by
  induction lines generalizing ps remaining with
  | nil => cases hline
  | cons first lines ih =>
    rw [properties] at h
    split at h
    next hblank =>
      rcases List.mem_cons.mp hline with rfl | hline
      · exact .inl hblank
      · exact ih h hline
    next =>
      split at h
      next => cases h
      next p hp =>
        obtain ⟨ps', hps, -⟩ := exists_of_map_eq_ok h
        rcases List.mem_cons.mp hline with rfl | hline
        · exact .inr ⟨p, hp⟩
        · exact ih hps hline

/-! ## Bodies -/

theorem mem_of_mem_fields {sep : Char → Bool} {cs f : List Char} (hf : f ∈ fields sep cs) :
    ∀ d ∈ f, d ∈ cs := by
  induction cs generalizing f with
  | nil =>
    obtain rfl := List.mem_singleton.mp hf
    exact fun _ hd ↦ hd
  | cons c cs ih =>
    cases hcs : fields sep cs with
    | nil => exact absurd hcs (fields_ne_nil sep cs)
    | cons w ws =>
      rw [hcs] at ih
      rw [fields, hcs] at hf
      dsimp only at hf
      split at hf
      all_goals
        rcases List.mem_cons.mp hf with rfl | hf
      · simp
      · exact fun d hd ↦ List.mem_cons_of_mem c (ih hf d hd)
      · intro d hd
        rcases List.mem_cons.mp hd with rfl | hd
        · exact List.mem_cons_self
        · exact List.mem_cons_of_mem c (ih List.mem_cons_self d hd)
      · exact fun d hd ↦ List.mem_cons_of_mem c (ih (List.mem_cons_of_mem w hf) d hd)

/-- The line with a comment behind it is one of the lines that the body is cut into. -/
theorem exists_commented_line (c : LineComment) {interface : String} {b y : List Char}
    {ps : List Property} {remaining : Nat}
    (h : properties interface remaining (fields endsProperty (b ++ '\n' :: y)) = .ok ps)
    (z : List Char) : ∃ line blanks rest,
      line ++ (blanks ++ '/' :: rest) ∈ fields endsProperty (b ++ (c.lead ++ '/' :: z)) ∧
        allBlank blanks = true ∧
        (allBlank line = true ∨ ∃ p, property interface (trim line) = .ok p) := by
  obtain ⟨fs, line, hfields⟩ := exists_fields_append endsProperty b
  obtain ⟨gs, blanks, hlead⟩ := exists_fields_append endsProperty c.lead
  have hblanks : allBlank blanks = true := by
    have hlast : fields endsProperty (c.lead ++ []) = gs ++ [blanks ++ []] := hlead rfl
    rw [List.append_nil, List.append_nil] at hlast
    have hmem : blanks ∈ fields endsProperty c.lead := by simp [hlast]
    exact List.all_eq_true.mpr fun d hd ↦
      List.all_eq_true.mp c.lead_blank d (mem_of_mem_fields hmem d hd)
  have hline : allBlank line = true ∨ ∃ p, property interface (trim line) = .ok p := by
    refine exists_property_of_mem h ?_
    rw [hfields (fields_cons_of_sep (by decide) y)]
    simp
  cases hz : fields endsProperty z with
  | nil => exact absurd hz (fields_ne_nil _ z)
  | cons w ws =>
    have hsep : ∀ d ∈ ['/'], endsProperty d = false := List.forall_mem_singleton.mpr rfl
    have hslash : fields endsProperty ('/' :: z) = ('/' :: w) :: ws := fields_append hsep hz
    have hcomment := hlead hslash
    rcases gs with _ | ⟨g, gs⟩
    · exact ⟨line, blanks, w, by rw [hfields hcomment]; simp, hblanks, hline⟩
    · -- the comment stands on a line of its own
      exact ⟨[], blanks, w, by rw [hfields hcomment]; simp, hblanks, .inl rfl⟩

/-- **An interface is not read with a line comment in its body.** -/
theorem interfaceAt?_commented (c : LineComment) {notes : Annotations} {start b post : List Char}
    {name : String} {supers : List String}
    (hhead : interfaceHead? start = some (name, supers, b)) (hopen : '}' ∉ b)
    {r : Declaration × List Char}
    (h : interfaceAt? notes (start ++ '\n' :: post) = some (.ok r)) :
    ∃ fault, interfaceAt? notes (start ++ (c.chars ++ '\n' :: post)) = some (.error fault) := by
  rw [interfaceAt?, interfaceHead?_append hhead, Option.map_some, Option.some.injEq] at h
  dsimp only at h
  split at h
  · cases h
  next inside after hsplit =>
    split at h
    · cases h
    obtain ⟨ps, hps, -⟩ := exists_of_map_eq_ok h
    have hline : '}' ∉ b ++ ['\n'] := by simpa using hopen
    rw [List.append_cons, splitFirst?_append_of_not_mem hline] at hsplit
    obtain ⟨⟨y, after'⟩, -, heq⟩ := Option.map_eq_some_iff.mp hsplit
    obtain ⟨rfl, -⟩ := Prod.mk.inj heq
    rw [List.append_assoc, List.singleton_append] at hps
    -- with the comment the body is cut at the next brace, which may stand in the comment
    have hlead : '}' ∉ c.lead := fun hmem ↦
      absurd (List.all_eq_true.mp c.lead_blank '}' hmem) (by decide)
    have hbefore : '}' ∉ b ++ (c.lead ++ ['/']) := by simp [hopen, hlead]
    have htext : b ++ (c.chars ++ '\n' :: post) =
        b ++ (c.lead ++ ['/']) ++ '/' :: (c.text ++ '\n' :: post) := by
      simp [LineComment.chars]
    rw [interfaceAt?, interfaceHead?_append hhead, Option.map_some, htext]
    dsimp only
    rw [splitFirst?_append_of_not_mem hbefore]
    rcases splitFirst? ['}'] ('/' :: (c.text ++ '\n' :: post)) with _ | ⟨z, after''⟩
    · exact ⟨_, rfl⟩
    dsimp only [Option.map_some]
    split
    · exact ⟨_, rfl⟩
    · obtain ⟨line, blanks, rest, hmem, hblanks, hline⟩ := exists_commented_line c hps z
      have hcut : b ++ (c.lead ++ ['/']) ++ z = b ++ (c.lead ++ '/' :: z) := by simp
      rw [hcut]
      rcases hread : properties name _ (fields endsProperty (b ++ (c.lead ++ '/' :: z))) with
        fault | ps'
      · exact ⟨fault, rfl⟩
      · rcases exists_property_of_mem hread hmem with hblank | ⟨p, hp⟩
        · have hslash : isBlank '/' = true := List.all_eq_true.mp hblank '/' (by simp)
          cases hslash
        · exact absurd hp (property_commented hline hblanks rest p)

end DiagramForge.Grammar
