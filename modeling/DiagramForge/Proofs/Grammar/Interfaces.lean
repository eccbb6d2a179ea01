import DiagramForge.Proofs.Grammar.Lexing
import DiagramForge.Proofs.Grammar.Written

/-!
# Reading an interface

An interface in the customary layout is read from its text, whatever follows it:
`Written.Interface.interfaceAt?_text`.

The body is cut at every mark, and also at the ends of lines among the blanks. So what is followed
from piece to piece are not the fields but the `entries`: the fields that are not blank, without
the blanks around them. These are exactly the texts of the properties.
-/

namespace DiagramForge.Grammar.Written

open Text

/-! ## Properties -/

namespace Property

variable (p : Property)

theorem startsFirm_base : StartsFirm p.base := by
  rw [base]
  split
  · exact ⟨'@', _, rfl, by decide⟩
  · exact (firm_of_isIdent p.type.ident).start

theorem firm_base : Firm p.base := by
  refine ⟨p.startsFirm_base, ?_⟩
  rw [base, List.reverse_append]
  exact (firm_of_isIdent p.type.ident).stop.append _

theorem firm_typeText : Firm p.typeText := by
  rw [typeText]
  split
  · exact Firm.append p.startsFirm_base ⟨']', _, rfl, by decide⟩
  · rw [List.append_nil]
    exact p.firm_base

/-- The characters of a type with the sign of a reference. -/
theorem mem_base {c : Char} (h : c ∈ p.base) : c = '@' ∨ isIdentRest c = true := by
  rw [base, List.mem_append] at h
  rcases h with h | h
  · split at h
    · exact .inl (List.mem_singleton.mp h)
    · cases h
  · exact .inr (isIdentRest_of_isIdent p.type.ident c h)

theorem not_mem_base {c : Char} (hat : c ≠ '@') (hc : isIdentRest c = false) : c ∉ p.base := by
  intro hmem
  rcases p.mem_base hmem with rfl | hrest
  · exact hat rfl
  · exact ne_of_class hrest hc rfl

/-- The brackets of a sequence are told from the type. -/
theorem isSuffixOf_typeText : ['[', ']'].isSuffixOf p.typeText = p.array := by
  rw [Bool.eq_iff_iff, List.isSuffixOf_iff_suffix, typeText]
  split
  next harray => exact ⟨fun _ ↦ harray, fun _ ↦ List.suffix_append _ _⟩
  next harray =>
    rw [List.append_nil]
    refine ⟨fun h ↦ ?_, fun h ↦ absurd h harray⟩
    have hmem : ']' ∈ p.base := h.subset (by decide)
    exact absurd hmem (p.not_mem_base (by decide) (by decide))

theorem take_typeText : (if p.array then trim (p.typeText.take (p.typeText.length - 2))
    else p.typeText) = p.base := by
  rw [typeText]
  split
  next => rw [List.length_append, List.length_cons, List.length_singleton, Nat.add_sub_cancel,
      List.take_left, trim_of_firm p.firm_base]
  next => rw [List.append_nil]

/-- A type is read from its text. -/
theorem propertyOfType_typeText (interface : String) :
    propertyOfType interface p.name.string p.optional p.typeText = .ok p.declared := by
  have hparen : (p.base.head? == some '(' && p.base.getLast? == some ')') = false := by
    have hnot : '(' ∉ p.base := p.not_mem_base (by decide) (by decide)
    rw [Bool.and_eq_false_iff, beq_eq_false_iff_ne]
    exact .inl fun hhead ↦ hnot (List.mem_of_head? hhead)
  have hbar : p.base.contains '|' = false := by
    rw [Bool.eq_false_iff, ne_eq, List.contains_iff_mem]
    exact p.not_mem_base (by decide) (by decide)
  have hsign : (p.base.head? == some '@') = p.crossReference := by
    rw [base]
    split
    next hcross => rw [hcross]; rfl
    next hcross =>
      rw [Bool.not_eq_true] at hcross
      rw [hcross, List.nil_append, beq_eq_false_iff_ne]
      intro hhead
      have hmem := isIdentRest_of_isIdent p.type.ident '@' (List.mem_of_head? hhead)
      exact absurd hmem (by decide)
  have htype : (if p.crossReference then trim p.base.tail else p.base) = p.type.chars := by
    rw [base]
    split
    · exact trim_of_firm (firm_of_isIdent p.type.ident)
    · exact List.nil_append _
  rw [propertyOfType]
  simp only [p.isSuffixOf_typeText, p.take_typeText, hparen, hbar, hsign, htype, p.type.ident,
    Bool.false_eq_true, if_false, if_true]
  rfl

/-- A property is read from its text. -/
theorem property_text (interface : String) : property interface p.text = .ok p.declared := by
  have hcolon : ∀ cs : List Char, mark? ':' (':' :: cs) = some cs := fun cs ↦
    mark?_cons [] rfl (by decide)
  have hquestion : ∀ cs : List Char, mark? '?' (':' :: cs) = none := fun cs ↦
    mark?_eq_none [] rfl (by decide) (by decide)
  have htrim : trim (' ' :: p.typeText) = p.typeText := by
    have h := trim_append [' '] [] (by decide) p.firm_typeText rfl
    rwa [List.append_nil] at h
  have hbreaks : Breaks ((if p.optional then ['?'] else []) ++ ':' :: ' ' :: p.typeText) := by
    split
    · exact breaks_cons (by decide)
    · exact breaks_cons (by decide)
  have htype := p.propertyOfType_typeText interface
  rw [property, text, ident?_append p.name.ident hbreaks]
  cases hoptional : p.optional with
  | false =>
    rw [if_neg Bool.false_ne_true, List.nil_append]
    simp only [Option.bind_eq_bind, Option.bind_some, hquestion, Option.getD_none, hcolon, htrim,
      List.isEmpty_cons, Bool.false_eq_true, if_false]
    rw [hoptional] at htype
    exact htype
  | true =>
    have hmark : mark? '?' ('?' :: ':' :: ' ' :: p.typeText) = some (':' :: ' ' :: p.typeText) :=
      mark?_cons [] rfl (by decide)
    rw [if_pos rfl, List.singleton_append]
    simp only [Option.bind_eq_bind, Option.bind_some, hmark, Option.getD_some, hcolon, htrim,
      List.isEmpty_cons, Bool.false_eq_true, if_false]
    rw [hoptional] at htype
    exact htype

/-- A property is one firm piece of a body. -/
theorem firm_text : Firm p.text := by
  rw [text]
  refine Firm.append (firm_of_isIdent p.name.ident).start ?_
  rw [List.reverse_append, List.reverse_cons, List.reverse_cons]
  exact ((p.firm_typeText.stop.append _).append _).append _

/-- Whether a character can stand in the text of a property. -/
def isPropertyChar (c : Char) : Bool :=
  isIdentRest c || ['?', ':', ' ', '@', '[', ']'].contains c

theorem isPropertyChar_of_mem_text {c : Char} (h : c ∈ p.text) : isPropertyChar c = true := by
  have hname : ∀ n : Name, c ∈ n.chars → isPropertyChar c = true := fun n hmem ↦ by
    rw [isPropertyChar, isIdentRest_of_isIdent n.ident c hmem, Bool.true_or]
  have hsign : ∀ (b : Bool) (sign : List Char), sign ⊆ ['?', ':', ' ', '@', '[', ']'] →
      c ∈ (if b then sign else []) → isPropertyChar c = true := by
    intro b sign hsign hmem
    split at hmem
    · rw [isPropertyChar, List.contains_iff_mem.mpr (hsign hmem), Bool.or_true]
    · cases hmem
  rw [text, typeText, base] at h
  simp only [List.mem_append, List.mem_cons] at h
  rcases h with h | h | rfl | rfl | (h | h) | h
  · exact hname _ h
  · exact hsign _ _ (by decide) h
  · decide
  · decide
  · exact hsign _ _ (by decide) h
  · exact hname _ h
  · exact hsign _ _ (by decide) h

end Property

/-! ## Bodies -/

/-- The entries of a body: what stands between marks and is not blank, without the blanks around
it. -/
def entries (cs : List Char) : List (List Char) :=
  ((fields endsProperty cs).filter fun line ↦ !allBlank line).map trim

theorem entries_append {blanks : List Char} (h : allBlank blanks = true) (cs : List Char) :
    entries (blanks ++ cs) = entries cs := by
  induction blanks with
  | nil => rfl
  | cons c blanks ih =>
    rw [allBlank, List.all_cons, Bool.and_eq_true] at h
    rw [List.cons_append, ← ih h.2, entries, entries]
    by_cases hc : endsProperty c = true
    · rw [fields_cons_of_sep hc, List.filter_cons_of_neg (by decide)]
    · cases hfields : fields endsProperty (blanks ++ cs) with
      | nil => exact absurd hfields (fields_ne_nil _ _)
      | cons w ws =>
        -- the blank is the first character of a field and changes neither of its two readings
        have hcs : ∀ d ∈ [c], endsProperty d = false := by
          intro d hd
          rw [List.mem_singleton.mp hd]
          exact Bool.eq_false_iff.mpr hc
        have hblank : allBlank (c :: w) = allBlank w := by
          rw [allBlank, List.all_cons, h.1, Bool.true_and, allBlank]
        have htrim : trim (c :: w) = trim w := by
          rw [trim, trim, trimLeft, List.dropWhile_cons_of_pos h.1, trimLeft]
        rw [← List.singleton_append, fields_append hcs hfields, List.singleton_append]
        rw [List.filter_cons, List.filter_cons, hblank]
        split
        · rw [List.map_cons, List.map_cons, htrim]
        · rfl

theorem entries_blank {blanks : List Char} (h : allBlank blanks = true) : entries blanks = [] := by
  have hentries := entries_append h []
  rwa [List.append_nil] at hentries

theorem Mark.endsProperty_char (m : Mark) : endsProperty m.char = true := by
  cases m <;> decide

theorem Property.not_endsProperty (p : Property) : ∀ c ∈ p.text, endsProperty c = false := by
  intro c hc
  have hclass := p.isPropertyChar_of_mem_text hc
  rw [endsProperty, Bool.or_eq_false_iff, Bool.or_eq_false_iff, beq_eq_false_iff_ne,
    beq_eq_false_iff_ne, beq_eq_false_iff_ne]
  exact ⟨⟨ne_of_class hclass (by decide), ne_of_class hclass (by decide)⟩,
    ne_of_class hclass (by decide)⟩

theorem entries_text_mark (p : Property) (m : Mark) (cs : List Char) :
    entries (p.text ++ m.char :: cs) = p.text :: entries cs := by
  rw [entries, fields_append_of_sep p.not_endsProperty m.endsProperty_char,
    List.filter_cons_of_pos (by rw [p.firm_text.start.not_allBlank]; rfl), List.map_cons,
    trim_of_firm p.firm_text, entries]

theorem entries_text_blank (p : Property) {blanks : List Char} (h : allBlank blanks = true) :
    entries (p.text ++ blanks) = [p.text] := by
  have hnone := entries_blank h
  rw [entries, List.map_eq_nil_iff] at hnone
  cases hfields : fields endsProperty blanks with
  | nil => exact absurd hfields (fields_ne_nil _ _)
  | cons w ws =>
    rw [hfields, List.filter_cons] at hnone
    cases hw : allBlank w with
    | false =>
      rw [hw, Bool.not_false, if_pos rfl] at hnone
      cases hnone
    | true =>
      have htrim : trim (p.text ++ w) = p.text := trim_append [] w rfl p.firm_text hw
      rw [hw, Bool.not_true, if_neg Bool.false_ne_true] at hnone
      rw [entries, fields_append p.not_endsProperty hfields,
        List.filter_cons_of_pos (by rw [(p.firm_text.start.append w).not_allBlank]; rfl), hnone,
        List.map_singleton, htrim]

/-- The entries of a body are the texts of its properties. -/
theorem Body.entries_text (b : Body) : entries b.text = b.properties.map Property.text := by
  induction b with
  | close closing => exact entries_blank closing.blank
  | last before p closing =>
    rw [text, entries_append before.blank, entries_text_blank p closing.blank]
    rfl
  | line before p mark more ih =>
    rw [text, entries_append before.blank, entries_text_mark, ih]
    rfl

/-- The properties of a body are read from its entries. -/
theorem properties_of_entries (interface : String) {ps : List Property}
    {lines : List (List Char)}
    (h : (lines.filter fun line ↦ !allBlank line).map trim = ps.map Property.text)
    (remaining : Nat) :
    properties interface remaining lines = .ok (ps.map Property.declared) := by
  induction lines generalizing ps remaining with
  | nil =>
    cases ps with
    | nil => rfl
    | cons p ps => cases h
  | cons line more ih =>
    -- a blank line is skipped on both sides, any other one is the text of the next property
    rw [properties]
    by_cases hblank : allBlank line = true
    · rw [if_pos hblank]
      rw [List.filter_cons_of_neg (by rw [hblank]; decide)] at h
      exact ih h _
    · rw [if_neg hblank]
      rw [Bool.not_eq_true] at hblank
      rw [List.filter_cons_of_pos (by rw [hblank]; rfl), List.map_cons] at h
      cases ps with
      | nil => cases h
      | cons p ps =>
        rw [List.map_cons, List.cons.injEq] at h
        rw [h.1, p.property_text, ih h.2]
        rfl

/-- What can stand in a body: blanks, properties and marks. -/
theorem Body.not_mem_text {c : Char} (hblank : isBlank c = false)
    (hproperty : Property.isPropertyChar c = false) (hmark : endsProperty c = false) (b : Body) :
    c ∉ b.text := by
  have hblanks : ∀ bs : Blanks, c ∉ bs.chars := fun bs hmem ↦
    ne_of_class (List.all_eq_true.mp bs.blank c hmem) hblank rfl
  have htext : ∀ p : Property, c ∉ p.text := fun p hmem ↦
    ne_of_class (p.isPropertyChar_of_mem_text hmem) hproperty rfl
  induction b with
  | close closing => exact hblanks closing
  | last before p closing =>
    rw [text, List.mem_append, List.mem_append, not_or, not_or]
    exact ⟨hblanks before, htext p, hblanks closing⟩
  | line before p mark more ih =>
    rw [text, List.mem_append, List.mem_append, List.mem_cons, not_or, not_or, not_or]
    exact ⟨hblanks before, htext p, (ne_of_class mark.endsProperty_char hmark).symm, ih⟩

/-! ## Interfaces -/

theorem breaks_flatMap {sep : List Char} (hsep : ∃ c more, sep = c :: more ∧ isIdentRest c = false)
    (texts : List (List Char)) {rest : List Char} (hrest : Breaks rest) :
    Breaks ((texts.flatMap fun t ↦ sep ++ t) ++ rest) := by
  obtain ⟨c, more, rfl, hc⟩ := hsep
  cases texts with
  | nil => exact hrest
  | cons t texts => exact breaks_cons hc

theorem moreNames_of_none {cs : List Char}
    (h : (mark? ',' cs).bind (fun rest ↦ ident? (trimLeft rest)) = none) :
    moreNames cs = ([], cs) := by
  rw [moreNames]
  split
  next hsome => rw [h] at hsome; cases hsome
  · rfl

theorem moreNames_of_some {cs name rest : List Char}
    (h : (mark? ',' cs).bind (fun rest ↦ ident? (trimLeft rest)) = some (name, rest)) :
    moreNames cs = (String.ofList name :: (moreNames rest).1, (moreNames rest).2) := by
  rw [moreNames]
  split
  next hsome =>
    rw [h] at hsome
    cases hsome
    rfl
  next hnone => rw [h] at hnone; cases hnone

theorem moreNames_cons (n : Name) {rest : List Char} (hrest : Breaks rest) :
    moreNames ([',', ' '] ++ (n.chars ++ rest)) =
      (n.string :: (moreNames rest).1, (moreNames rest).2) := by
  refine moreNames_of_some ?_
  have hmark : mark? ',' ([',', ' '] ++ (n.chars ++ rest)) = some (' ' :: (n.chars ++ rest)) :=
    mark?_cons [] rfl (by decide)
  have htrim : trimLeft (' ' :: (n.chars ++ rest)) = n.chars ++ rest :=
    trimLeft_append [' '] (by decide) ((firm_of_isIdent n.ident).start.append _)
  rw [hmark, Option.bind_some, htrim, ident?_append n.ident hrest]

/-- Further names are read up to the opening brace. -/
theorem moreNames_append (names : List Name) (rest : List Char) :
    moreNames ((names.map Name.chars).flatMap (fun t ↦ [',', ' '] ++ t) ++ ' ' :: '{' :: rest) =
      (names.map Name.string, ' ' :: '{' :: rest) := by
  induction names with
  | nil =>
    have hmark : mark? ',' (' ' :: '{' :: rest) = none :=
      mark?_eq_none [' '] (by decide) (by decide) (by decide)
    refine moreNames_of_none ?_
    rw [List.map_nil, List.flatMap_nil, List.nil_append, hmark]
    rfl
  | cons n names ih =>
    have hbreaks : Breaks ((names.map Name.chars).flatMap (fun t ↦ [',', ' '] ++ t)
        ++ ' ' :: '{' :: rest) :=
      breaks_flatMap ⟨',', [' '], rfl, by decide⟩ _ (breaks_cons (by decide))
    rw [List.map_cons, List.flatMap_cons, List.append_assoc, List.append_assoc,
      moreNames_cons n hbreaks, ih]
    rfl

theorem extends?_word (cs : List Char) :
    extends? (' ' :: ("extends".toList ++ ' ' :: cs)) = names? (trimLeft cs) := by
  have hword : StartsFirm "extends".toList := ⟨'e', ['x', 't', 'e', 'n', 'd', 's'], rfl, by decide⟩
  have hblank : ∀ ds, blanks? (' ' :: ds) = some (trimLeft ds) := fun _ ↦ rfl
  rw [extends?, hblank, trimLeft_of_startsFirm (hword.append _), Option.bind_some, keyword?,
    after?_append, Option.bind_some, hblank, Option.bind_some]

/-- What an interface extends is read up to the opening brace. -/
theorem extends?_supersText (s : Name) (more : List Name) (rest : List Char) :
    extends? (supersText (s :: more) ++ ' ' :: '{' :: rest) =
      some ((s :: more).map Name.string, ' ' :: '{' :: rest) := by
  have hbreaks : Breaks ((more.map Name.chars).flatMap (fun t ↦ [',', ' '] ++ t)
      ++ ' ' :: '{' :: rest) :=
    breaks_flatMap ⟨',', [' '], rfl, by decide⟩ _ (breaks_cons (by decide))
  rw [supersText, List.cons_append, List.append_assoc, List.cons_append, extends?_word,
    List.map_cons, joined, List.append_assoc,
    trimLeft_of_startsFirm ((firm_of_isIdent s.ident).start.append _), names?,
    ident?_append s.ident hbreaks, Option.map_some]
  dsimp only
  rw [moreNames_append]
  rfl

theorem extends?_brace (rest : List Char) : extends? (' ' :: '{' :: rest) = none := rfl

/-- The head of an interface is read up to the opening brace. -/
theorem interfaceHead?_append (name : Name) (superTypes : List Name) (rest : List Char) :
    interfaceHead? ("interface".toList
        ++ ' ' :: (name.chars ++ (supersText superTypes ++ ' ' :: '{' :: rest))) =
      some (name.string, superTypes.map Name.string, rest) := by
  have hfirm : StartsFirm (name.chars ++ (supersText superTypes ++ ' ' :: '{' :: rest)) :=
    (firm_of_isIdent name.ident).start.append _
  have hbreaks : Breaks (supersText superTypes ++ ' ' :: '{' :: rest) := by
    cases superTypes with
    | nil => exact breaks_cons (by decide)
    | cons s more => exact breaks_cons (by decide)
  have hbrace : mark? '{' (' ' :: '{' :: rest) = some rest :=
    mark?_cons [' '] (by decide) (by decide)
  rw [interfaceHead?, keyword?_append hfirm, Option.bind_some,
    ident?_append name.ident hbreaks, Option.bind_some]
  cases superTypes with
  | nil =>
    rw [supersText, List.nil_append]
    simp only [extends?_brace, Option.bind_none, hbrace, Option.map_some]
    rfl
  | cons s more =>
    simp only [extends?_supersText, Option.bind_some, hbrace, Option.map_some]
    rfl

/-- An interface is read from its text. -/
theorem Interface.interfaceAt?_text (i : Interface) (rest : List Char) :
    interfaceAt? i.notes.annotations (i.text ++ rest) =
      some (.ok (.interface i.declared, rest)) := by
  have hclosing : '}' ∉ i.body.text := i.body.not_mem_text (by decide) (by decide) (by decide)
  have hopening : i.body.text.contains '{' = false := by
    rw [Bool.eq_false_iff, ne_eq, List.contains_iff_mem]
    exact i.body.not_mem_text (by decide) (by decide) (by decide)
  have htext : i.text ++ rest = "interface".toList ++ ' ' :: (i.name.chars
      ++ (supersText i.superTypes ++ ' ' :: '{' :: (i.body.text ++ '}' :: rest))) := by
    unfold text
    generalize "interface".toList = word
    simp only [List.append_assoc, List.cons_append, List.nil_append]
  rw [interfaceAt?, htext, interfaceHead?_append, Option.map_some]
  simp only [splitFirst?_append hclosing, hopening, Bool.false_eq_true, if_false]
  rw [properties_of_entries i.name.string i.body.entries_text]
  rfl

end DiagramForge.Grammar.Written
