import DiagramForge.Proofs.Grammar.DeclaredPlaces
import DiagramForge.Proofs.Grammar.Enclosed
import DiagramForge.Proofs.Snippet

/-!
# Where faults stand

A text that cannot be read is reported with the line and the column of the fault, and with the lines
around it: `parse_fault`. The offset of a fault is counted from the end of the text in which
comments are blanked. This is an offset of the source too, as blanking leaves the lines as they are
(`Overwritten`), and what the fault is about stands there (`Found`).
-/

namespace DiagramForge.Grammar

open Text

/-! ## Blanked comments -/

/-- A text is another one, but some characters other than line feeds are blank. -/
def Overwritten (source text : List Char) : Prop :=
  List.Forall₂ (fun c d ↦ d = c ∨ c ≠ '\n' ∧ d = ' ') source text

theorem overwritten_of_blankCommentsFrom {opened : Option Nat} {offset : Nat} {cs text : List Char}
    (h : blankCommentsFrom opened offset cs = .ok text) : Overwritten cs text := by
  induction opened, offset, cs using blankCommentsFrom.induct generalizing text with
  | case1 =>
    cases h
    exact .nil
  | case2 => cases h
  | case3 =>
    cases h
    exact .cons (.inl rfl) .nil
  | case4 => cases h
  | case5 offset c d cs hopen ih =>
    rw [blankCommentsFrom, if_pos hopen] at h
    obtain ⟨text', htext, rfl⟩ := exists_of_map_eq_ok h
    rw [Bool.and_eq_true, beq_iff_eq, beq_iff_eq] at hopen
    obtain ⟨rfl, rfl⟩ := hopen
    exact .cons (.inr ⟨by decide, rfl⟩) (.cons (.inr ⟨by decide, rfl⟩) (ih htext))
  | case6 offset c d cs hopen ih =>
    rw [blankCommentsFrom, if_neg hopen] at h
    obtain ⟨text', htext, rfl⟩ := exists_of_map_eq_ok h
    exact .cons (.inl rfl) (ih htext)
  | case7 offset c d cs start hclose ih =>
    rw [blankCommentsFrom, if_pos hclose] at h
    obtain ⟨text', htext, rfl⟩ := exists_of_map_eq_ok h
    rw [Bool.and_eq_true, beq_iff_eq, beq_iff_eq] at hclose
    obtain ⟨rfl, rfl⟩ := hclose
    exact .cons (.inr ⟨by decide, rfl⟩) (.cons (.inr ⟨by decide, rfl⟩) (ih htext))
  | case8 offset c d cs start hclose ih =>
    rw [blankCommentsFrom, if_neg hclose] at h
    obtain ⟨text', htext, rfl⟩ := exists_of_map_eq_ok h
    refine .cons ?_ (ih htext)
    by_cases hc : c = '\n'
    · exact .inl (by rw [blanked, hc]; rfl)
    · exact .inr ⟨hc, by rw [blanked, if_neg (by simpa using hc)]⟩

/-- A comment begins at an offset and does not end. -/
def Unclosed (source : List Char) (p : Nat) : Prop :=
  ∃ rest, source.drop p = '/' :: '*' :: rest ∧ ¬ ['*', '/'] <:+: rest

theorem eq_error_of_map {ε α β : Type} {f : α → β} {e : Except ε α} {fault : ε}
    (h : e.map f = .error fault) : e = .error fault := by
  cases e with
  | error fault' => rw [Except.error.inj h]
  | ok a => cases h

/-- A text in which a comment is not closed begins in that comment, or the comment begins in it. -/
theorem unclosed_of_blankCommentsFrom {opened : Option Nat} {offset p : Nat} {cs : List Char}
    (h : blankCommentsFrom opened offset cs = .error p) :
    (opened = some p ∧ ¬ ['*', '/'] <:+: cs) ∨ ∃ n, p = offset + n ∧ Unclosed cs n := by
  induction opened, offset, cs using blankCommentsFrom.induct with
  | case1 => cases h
  | case2 =>
    cases h
    exact .inl ⟨rfl, by decide⟩
  | case3 => cases h
  | case4 =>
    cases h
    exact .inl ⟨rfl, fun hclosed ↦ absurd hclosed.length_le (by simp)⟩
  | case5 offset c d cs hopen ih =>
    rw [blankCommentsFrom, if_pos hopen] at h
    rw [Bool.and_eq_true, beq_iff_eq, beq_iff_eq] at hopen
    obtain ⟨rfl, rfl⟩ := hopen
    rcases ih (eq_error_of_map h) with ⟨hp, hclosed⟩ | ⟨n, hp, hn⟩
    · exact .inr ⟨0, (Option.some.inj hp).symm, cs, rfl, hclosed⟩
    · exact .inr ⟨n + 2, by omega, hn⟩
  | case6 offset c d cs hopen ih =>
    rw [blankCommentsFrom, if_neg hopen] at h
    rcases ih (eq_error_of_map h) with ⟨hp, -⟩ | ⟨n, hp, hn⟩
    · cases hp
    · exact .inr ⟨n + 1, by omega, hn⟩
  | case7 offset c d cs start hclose ih =>
    rw [blankCommentsFrom, if_pos hclose] at h
    rcases ih (eq_error_of_map h) with ⟨hp, -⟩ | ⟨n, hp, hn⟩
    · cases hp
    · exact .inr ⟨n + 2, by omega, hn⟩
  | case8 offset c d cs start hclose ih =>
    rw [blankCommentsFrom, if_neg hclose] at h
    rcases ih (eq_error_of_map h) with ⟨hp, hclosed⟩ | ⟨n, hp, hn⟩
    · refine .inl ⟨hp, fun hclosed' ↦ ?_⟩
      rcases List.infix_cons_iff.mp hclosed' with hprefix | hinfix
      · simp only [List.cons_prefix_cons, List.nil_prefix, and_true] at hprefix
        exact hclose (by simp [← hprefix.1, ← hprefix.2])
      · exact hclosed hinfix
    · exact .inr ⟨n + 1, by omega, hn⟩

/-! ## What faults are about -/

/-- The text of the property that a text begins with, in the body of an interface. -/
def propertyText (cs : List Char) : List Char :=
  cs.takeWhile fun c ↦ !endsProperty c && c != '}'

/-- A fault is about what a text begins with. -/
inductive ScanFault.Stands (cs : List Char) : ScanFault → Prop where
  /-- The text begins no declaration. -/
  | unexpectedInput (notes : Annotations) (h : ∀ kind ∈ kinds notes, kind cs = none) :
    Stands cs (.unexpectedInput (cs.take shownInput))
  /-- It begins with the head of an interface, and the body is not closed or opens another one. -/
  | unbalancedBraces {interface : String} {superTypes : List String} {rest : List Char}
    (head : interfaceHead? cs = some (interface, superTypes, rest))
    (body : ∀ inside after, splitFirst? ['}'] rest = some (inside, after) → '{' ∈ inside) :
    Stands cs (.unbalancedBraces interface)
  /-- It begins with a property that cannot be read. -/
  | property {interface : String} {fault : ScanFault}
    (h : Grammar.property interface (trim (propertyText cs)) = .error fault) : Stands cs fault
  /-- It begins with an alias for a blank definition. -/
  | emptyAlias {name : String} {rest definition after : List Char}
    (head : aliasHead? cs = some (name, rest)) (body : body rest = .ok (definition, after))
    (blank : allBlank definition = true) : Stands cs (.emptyAlias name)
  /-- A statement has begun, and no semicolon ends it. -/
  | missingSemicolon (h : statement? .plain cs = none) : Stands cs .missingSemicolon

/-- A fault is about some end of a text, and counted from there. -/
def Located.StandsIn (l : Located) (cs : List Char) : Prop :=
  ∃ cs', cs' <:+ cs ∧ l.remaining = cs'.length ∧ l.fault.Stands cs'

theorem Located.StandsIn.of_suffix {l : Located} {cs rest : List Char} (h : l.StandsIn rest)
    (hrest : rest <:+ cs) : l.StandsIn cs := by
  obtain ⟨cs', hsuffix, hremaining, hstands⟩ := h
  exact ⟨cs', hsuffix.trans hrest, hremaining, hstands⟩

theorem standsIn_of_body {cs : List Char} {l : Located} (h : body cs = .error l) :
    l.StandsIn cs := by
  rw [body] at h
  split at h
  · cases h
  · next hnone =>
    cases h
    exact ⟨cs, List.suffix_rfl, rfl, .missingSemicolon hnone⟩

/-! ## Properties -/

/-- The text of a property goes on up to what ends it. -/
theorem propertyText_append {line : List Char} {c : Char} (hbrace : '}' ∉ line)
    (hline : ∀ d ∈ line, endsProperty d = false) (hc : endsProperty c = true ∨ c = '}')
    (rest : List Char) : propertyText (line ++ c :: rest) = line := by
  have hall : ∀ d ∈ line, (!endsProperty d && d != '}') = true := by
    intro d hd
    rw [hline d hd, Bool.not_false, Bool.true_and, bne_iff_ne]
    rintro rfl
    exact hbrace hd
  have hstop : (!endsProperty c && c != '}') = false := by
    rcases hc with hc | rfl
    · rw [hc, Bool.not_true, Bool.false_and]
    · decide
  rw [propertyText, List.takeWhile_append_of_pos hall, List.takeWhile_cons, hstop]
  exact List.append_nil line

/-- In the body of an interface, the text of the first property is the first field. -/
theorem propertyText_of_fields {inside line : List Char} {more : List (List Char)}
    (hbrace : '}' ∉ inside) (hlines : fields endsProperty inside = line :: more)
    (after : List Char) : propertyText (inside ++ '}' :: after) = line := by
  have hmem : line ∈ fields endsProperty inside := hlines ▸ List.mem_cons_self
  have hline := not_sep_of_mem_fields hmem
  rcases exists_of_fields hlines with ⟨rfl, -⟩ | ⟨c, rest, hc, rfl, -⟩
  · exact propertyText_append hbrace hline (.inr rfl) after
  · have hbrace' : '}' ∉ line := fun hmem ↦ hbrace (List.mem_append_left _ hmem)
    rw [List.append_assoc, List.cons_append]
    exact propertyText_append hbrace' hline (.inl hc) _

/-- A fault of a property is counted from the text of the property. -/
theorem standsIn_of_properties {interface : String} {inside after : List Char} {l : Located}
    (hbrace : '}' ∉ inside)
    (h : properties interface (inside ++ '}' :: after).length (fields endsProperty inside) =
      .error l) : l.StandsIn (inside ++ '}' :: after) := by
  -- the induction is on the texts of the properties
  generalize hlines : fields endsProperty inside = ls at h
  induction ls generalizing inside with
  | nil => cases h
  | cons line more ih =>
    have htext := propertyText_of_fields hbrace hlines after
    have hnext : properties interface ((inside ++ '}' :: after).length - line.length - 1) more =
        .error l → l.StandsIn (inside ++ '}' :: after) := by
      intro hmore
      rcases exists_of_fields hlines with ⟨-, rfl⟩ | ⟨c, rest, -, rfl, hrest⟩
      · cases hmore
      · have hlength : (line ++ c :: rest ++ '}' :: after).length - line.length - 1 =
            (rest ++ '}' :: after).length := by
          simp only [List.length_append, List.length_cons]
          omega
        rw [hlength] at hmore
        have hbrace' : '}' ∉ rest :=
          fun hmem ↦ hbrace (List.mem_append_right _ (List.mem_cons_of_mem _ hmem))
        refine (ih hbrace' hrest hmore).of_suffix ?_
        rw [List.append_assoc, List.cons_append]
        exact (List.suffix_cons _ _).trans (List.suffix_append _ _)
    rw [properties] at h
    split at h
    · exact hnext h
    · split at h
      · next hproperty =>
        cases h
        exact ⟨_, List.suffix_rfl, rfl, .property (htext.symm ▸ hproperty)⟩
      · exact hnext (eq_error_of_map h)

/-! ## Declarations -/

/-- The faults of a kind of declaration are about some end of the text. -/
def PlacesFaults (kind : List Char → Reading Declaration) : Prop :=
  ∀ cs l, kind cs = some (.error l) → l.StandsIn cs

theorem placesFaults_headerAt? : PlacesFaults headerAt? := by
  intro cs l h
  obtain ⟨r, -, heq⟩ := Option.map_eq_some_iff.mp h
  cases heq

theorem placesFaults_referenceAt? : PlacesFaults referenceAt? := by
  intro cs l h
  obtain ⟨r, -, heq⟩ := Option.map_eq_some_iff.mp h
  cases heq

theorem placesFaults_terminalAt? : PlacesFaults terminalAt? := by
  intro cs l h
  obtain ⟨r, hhead, heq⟩ := Option.map_eq_some_iff.mp h
  exact (standsIn_of_body (eq_error_of_map heq)).of_suffix (leaves_terminalHead?.of_cons cs r hhead)

theorem placesFaults_interfaceAt? (notes : Annotations) : PlacesFaults (interfaceAt? notes) := by
  intro cs l h
  obtain ⟨r, hhead, heq⟩ := Option.map_eq_some_iff.mp h
  dsimp only at heq
  split at heq
  next hnone =>
    cases heq
    exact ⟨cs, List.suffix_rfl, rfl,
      .unbalancedBraces hhead fun _ _ hsome ↦ by rw [hnone] at hsome; cases hsome⟩
  next inside after hsplit =>
    split at heq
    next hopen =>
      cases heq
      refine ⟨cs, List.suffix_rfl, rfl, .unbalancedBraces hhead fun _ _ hsome ↦ ?_⟩
      rw [hsplit] at hsome
      cases hsome
      exact List.contains_iff_mem.mp hopen
    next =>
      obtain ⟨hrest, hbrace⟩ := splitFirst?_eq_some hsplit
      have hproperties := eq_error_of_map heq
      have hsuffix := leaves_interfaceHead?.of_cons cs r hhead
      rw [hrest] at hproperties hsuffix
      exact (standsIn_of_properties hbrace hproperties).of_suffix hsuffix

theorem placesFaults_aliasAt? (notes : Annotations) : PlacesFaults (aliasAt? notes) := by
  intro cs l h
  rw [aliasAt?_eq] at h
  obtain ⟨r, hhead, heq⟩ := Option.map_eq_some_iff.mp h
  dsimp only at heq
  rcases hbody : body r.2 with fault | s
  · rw [hbody] at heq
    cases heq
    exact (standsIn_of_body hbody).of_suffix (leaves_aliasHead?.of_cons cs r hhead)
  · simp only [hbody, Except.bind] at heq
    split at heq
    · next hblank =>
      cases heq
      exact ⟨cs, List.suffix_rfl, rfl, .emptyAlias hhead hbody hblank⟩
    · cases heq

theorem placesFaults_ruleAt? (notes : Annotations) : PlacesFaults (ruleAt? notes) := by
  intro cs l h
  obtain ⟨r, hhead, heq⟩ := Option.map_eq_some_iff.mp h
  exact (standsIn_of_body (eq_error_of_map heq)).of_suffix (leaves_ruleHead?.of_cons cs r hhead)

theorem standsIn_of_declaration {notes : Annotations} {cs : List Char} {l : Located}
    (h : declaration notes cs = .error l) : l.StandsIn cs := by
  have hplaces : ∀ kind ∈ kinds notes, PlacesFaults kind :=
    forall_kinds.mpr ⟨placesFaults_headerAt?, placesFaults_referenceAt?, placesFaults_terminalAt?,
      placesFaults_interfaceAt? notes, placesFaults_aliasAt? notes, placesFaults_ruleAt? notes⟩
  rw [declaration_eq] at h
  rcases hread : (kinds notes).findSome? fun kind ↦ kind cs with _ | r
  · rw [hread] at h
    cases h
    exact ⟨cs, List.suffix_rfl, rfl, .unexpectedInput notes (List.findSome?_eq_none_iff.mp hread)⟩
  · obtain ⟨kind, hkind, hsome⟩ := List.exists_of_findSome?_eq_some hread
    rw [hread] at h
    exact hplaces kind hkind cs l (hsome.trans (congrArg some h))

/-- **A fault that the scanner finds is about the end of the text that it is counted from.** -/
theorem standsIn_of_scan {notes : Annotations} {cs : List Char} {l : Located}
    (h : scan notes cs = .error l) : l.StandsIn cs := by
  fun_induction scan notes cs with
  | case1 => cases h
  | case2 notes c rest hblank ih => exact (ih h).of_suffix (List.suffix_cons _ _)
  | case3 notes c rest hblank hslash ih =>
    refine (ih h).of_suffix ?_
    exact (List.dropWhile_suffix _).trans ((List.tail_suffix rest).trans (List.suffix_cons _ _))
  | case4 notes c rest hblank hslash fault hread =>
    cases h
    exact standsIn_of_declaration hread
  | case5 notes c rest hblank hslash d after hread ih =>
    exact (ih (eq_error_of_map h)).of_suffix (suffix_of_declaration hread)

/-! ## Sources -/

/-- A fault is found at an offset of a source: a comment begins there that does not end, or the
fault is about the text from there on in which comments are blanked. -/
inductive Found (source : List Char) : ScanFault → Nat → Prop where
  /-- A comment does not end. -/
  | unclosed {p : Nat} (h : Unclosed source p) : Found source .unterminatedComment p
  /-- The fault is about the rest of the blanked text. -/
  | scanned {fault : ScanFault} {p : Nat} {text : List Char}
    (blank : blankComments source = .ok text) (overwritten : Overwritten source text)
    (le : p ≤ source.length)
    (stands : fault.Stands (text.drop p)) : Found source fault p

theorem found_of_declarations {source : List Char} {fault : ScanFault} {p : Nat}
    (h : declarations source = .error (fault, p)) : Found source fault p := by
  rw [declarations] at h
  split at h
  next offset hblank =>
    cases h
    rcases unclosed_of_blankCommentsFrom hblank with ⟨hopened, -⟩ | ⟨n, hn, hunclosed⟩
    · cases hopened
    · rw [hn, Nat.zero_add]
      exact .unclosed hunclosed
  next text hblank =>
    split at h
    next l hscan =>
      cases h
      have hoverwritten := overwritten_of_blankCommentsFrom hblank
      obtain ⟨cs', ⟨before, rfl⟩, hremaining, hstands⟩ := standsIn_of_scan hscan
      refine .scanned hblank hoverwritten ?_ ?_
      · rw [hoverwritten.length_eq]
        exact Nat.sub_le _ _
      · rw [hremaining, List.length_append, Nat.add_sub_cancel, List.drop_left]
        exact hstands
    next => cases h

theorem Found.le {source : List Char} {fault : ScanFault} {p : Nat} (h : Found source fault p) :
    p ≤ source.length := by
  rcases h with ⟨rest, hrest, -⟩ | ⟨-, -, hle, -⟩
  · by_contra hlt
    rw [List.drop_eq_nil_of_le (by omega)] at hrest
    cases hrest
  · exact hle

theorem declarations_nil : declarations [] = .ok [] := by
  rw [declarations, blankComments, blankCommentsFrom]
  dsimp only
  rw [scan]

/-! ## Reports -/

/-- **A fault is reported where it stands.** What it is about begins at an offset of the source. The
line and the column that are reported say which one, whatever comments and declarations of several
lines are before it. The rows that are shown are the lines of the source from two before that line to
two after it, as far as the source has them, each with its number; behind the row of that line, and
nowhere else, a marker is put in the column. -/
theorem parse_fault {text projectName : String} {file : Option Path} {d : Diagnostic}
    (h : parse text projectName file = .error d) :
    ∃ fault p line column,
      declarations text.toList = .error (fault, p) ∧ Found text.toList fault p ∧
      d.message = fault.message ∧ d.place.line = some line ∧ d.place.column = some column ∧
      Pinpoints text.toList line column p ∧
      ∃ shown, d.place.format = d.place.headline ++ "\n" ++ shown ∧
        fieldStrings (· == '\n') shown =
          Place.numberedRows text.toList (max 1 (line - 2)) (line + 1 - max 1 (line - 2)) ++
            (String.ofList (List.replicate ((Place.lineLabel line).length + (column - 1)) ' ') ++
                "^^^") ::
              Place.numberedRows text.toList (line + 1)
                (min (lines text.toList).length (line + 2) - line) := by
  rw [parse] at h
  split at h
  next fault p hfault =>
    cases h
    have hfound := found_of_declarations hfault
    have hpinpoints := pinpoints hfound.le
    have hne : text.toList ≠ [] := by
      intro hnil
      rw [hnil, declarations_nil] at hfault
      cases hfault
    exact ⟨fault, p, lineAt text.toList p, columnAt text.toList p, hfault, hfound, rfl, rfl, rfl,
      hpinpoints, Place.exists_shown rfl rfl rfl hpinpoints.line_pos hpinpoints.line_le
        hpinpoints.column_pos hne⟩
  next => cases h

/-- An interface behind a comment of two lines, with a property that has no type. -/
def untyped : String :=
  "/* Sizes\n   and names */\n" ++
    "interface Node \x7b\n    size: number; name string\n    tag: string\n\x7d\n"

theorem parse_fault_untyped :
    ∃ d fault shown, parse untyped = .error d ∧ d.message = fault.message ∧
      Found untyped.toList fault 59 ∧ Pinpoints untyped.toList 4 18 59 ∧
      d.place.format = d.place.headline ++ "\n" ++ shown ∧
      fieldStrings (· == '\n') shown =
        ["   2 |    and names */", "   3 | interface Node \x7b",
          "   4 |     size: number; name string", "                        ^^^",
          "   5 |     tag: string", "   6 | \x7d"] := by
  have hplace : (match parse untyped with
      | .ok _ => none
      | .error d => some (d.place.line, d.place.column)) = some (some 4, some 18) := by
    decide +kernel
  cases hparse : parse untyped with
  | ok g => simp [hparse] at hplace
  | error d =>
    rw [hparse] at hplace
    obtain ⟨fault, p, line, column, -, hfound, hmessage, hline, hcolumn, hpinpoints, shown, hformat,
      hrows⟩ := parse_fault hparse
    obtain ⟨rfl, rfl⟩ : line = 4 ∧ column = 18 := by
      simpa [hline, hcolumn] using hplace
    have hp : p = 59 := hpinpoints.sum_eq.symm.trans (by decide +kernel)
    subst hp
    refine ⟨d, fault, shown, rfl, hmessage, hfound, hpinpoints, hformat, hrows.trans ?_⟩
    decide +kernel

end DiagramForge.Grammar
