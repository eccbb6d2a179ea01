import DiagramForge.Proofs.Entries
import DiagramForge.Proofs.Grammar.Aliases
import DiagramForge.Proofs.Grammar.Interfaces

/-!
# What is written is read back

A document of explicit declarations in the customary layout is read as the grammar that it
declares, and as nothing else: `Written.Document.parse_text`.

## The course of the proof

For each construct there is one lemma that reads its text off the front of any text that may
follow it, and `scan` is followed from one construct to the next. Nothing else can be read at any
of these places: the kinds of declaration are tried in order, and those before the right one fail
on the first word.
-/

namespace DiagramForge.Grammar

open Text

/-! ## Steps of the scanner -/

theorem scan_nil (notes : Annotations) : scan notes [] = .ok [] := by
  rw [scan.eq_def]

theorem scan_blank {c : Char} (hc : isBlank c = true) (notes : Annotations) (cs : List Char) :
    scan notes (c :: cs) = scan (if c == '\n' && startsWithBlankLine cs then [] else notes) cs := by
  rw [scan.eq_def]
  exact if_pos hc

theorem scan_comment (notes : Annotations) (cs : List Char) :
    scan notes ('/' :: '/' :: cs) =
      scan (addNote notes (cs.takeWhile (· != '\n'))) (cs.dropWhile (· != '\n')) := by
  have hcomment : ('/' == '/' && ('/' :: cs).head? == some '/') = true := rfl
  rw [scan.eq_def]
  dsimp only
  rw [if_neg (by decide), if_pos hcomment, List.tail_cons]

/-- Where no blank and no comment stands a declaration is read, which uses the notes up. -/
theorem scan_eq_bind {notes : Annotations} {cs : List Char}
    (hcs : ∃ c rest, cs = c :: rest ∧ isBlank c = false ∧ c ≠ '/') :
    scan notes cs = (declaration notes cs).bind fun r ↦ (scan [] r.2).map (r.1 :: ·) := by
  obtain ⟨c, rest, rfl, hblank, hslash⟩ := hcs
  have hcomment : ¬ (c == '/' && rest.head? == some '/') = true := by
    rw [Bool.and_eq_true, beq_iff_eq]
    exact fun heq ↦ hslash heq.1
  rw [scan.eq_def]
  dsimp only
  rw [if_neg (Bool.eq_false_iff.mp hblank), if_neg hcomment]
  split
  next herror =>
    rw [herror]
    rfl
  next hok =>
    rw [hok]
    rfl

theorem scan_declaration {notes : Annotations} {cs after : List Char} {d : Declaration}
    (hcs : ∃ c rest, cs = c :: rest ∧ isBlank c = false ∧ c ≠ '/')
    (h : declaration notes cs = .ok (d, after)) :
    scan notes cs = (scan [] after).map (d :: ·) := by
  rw [scan_eq_bind hcs, h]
  rfl

/-- A declaration that cannot be read is a fault of the text. -/
theorem scan_error {notes : Annotations} {cs : List Char} {fault : Located}
    (hcs : ∃ c rest, cs = c :: rest ∧ isBlank c = false ∧ c ≠ '/')
    (h : declaration notes cs = .error fault) : scan notes cs = .error fault := by
  rw [scan_eq_bind hcs, h]
  rfl

/-- Without notes blanks are passed over. -/
theorem scan_blanks {blanks : List Char} (h : allBlank blanks = true) (cs : List Char) :
    scan [] (blanks ++ cs) = scan [] cs := by
  induction blanks with
  | nil => rfl
  | cons c blanks ih =>
    rw [allBlank, List.all_cons, Bool.and_eq_true] at h
    rw [List.cons_append, scan_blank h.1, ite_self, ih h.2]

theorem startsWithBlankLine_eq_false {cs : List Char} (h : StartsFirm cs) :
    startsWithBlankLine cs = false := by
  obtain ⟨c, rest, rfl, hc⟩ := h
  have hnewline : ¬ ('\n' == c) = true := by
    rw [beq_iff_eq]
    rintro rfl
    exact absurd hc (by decide)
  rw [startsWithBlankLine, splitFirst?, after?, if_neg hnewline]
  cases splitFirst? ['\n'] rest with
  | none => rfl
  | some r =>
    change allBlank (c :: r.1) = false
    rw [allBlank, List.all_cons, hc, Bool.false_and]

/-! ## Notes -/

namespace Written

variable (n : Note)

theorem Note.firm_value : Firm n.value :=
  firm_of_trim n.value_trimmed n.value_ne_nil

theorem Note.note?_comment : note? n.comment = some n.entry := by
  have htrim : trim n.comment = '@' :: (n.key ++ ' ' :: n.value) := by
    have hfirm : Firm ('@' :: (n.key ++ ' ' :: n.value)) := by
      refine ⟨⟨'@', _, rfl, by decide⟩, ?_⟩
      rw [List.reverse_cons, List.reverse_append, List.reverse_cons]
      exact ((n.firm_value.stop.append _).append _).append _
    have h := trim_append [' '] [] (by decide) hfirm rfl
    rwa [List.append_nil] at h
  have hspace : ∀ c more, ' ' :: n.value = c :: more → isWordChar c = false := by
    rintro _ _ heq
    cases heq
    decide
  obtain ⟨htake, hdrop⟩ := takeWhile_append_of_all n.key_word hspace
  obtain ⟨c, value, hvalue, -⟩ := n.firm_value.start
  have hblanks : blanks? (' ' :: n.value) = some (c :: value) := by
    rw [← hvalue]
    exact congrArg some (trimLeft_of_startsFirm n.firm_value.start)
  have hkey : n.key.isEmpty = false := by
    rw [Bool.eq_false_iff, ne_eq, List.isEmpty_iff]
    exact n.key_ne_nil
  rw [note?, htrim]
  simp only [htake, hdrop, hblanks, hkey, Bool.false_eq_true, if_false]
  rw [Note.entry, hvalue]

theorem Note.newline_not_mem : '\n' ∉ n.comment := by
  have hkey : '\n' ∉ n.key := fun hmem ↦ ne_of_class (n.key_word _ hmem) (by decide) rfl
  rw [comment, List.mem_cons, List.mem_cons, List.mem_append, List.mem_cons]
  rintro (h | h | h | h | h)
  · cases h
  · cases h
  · exact hkey h
  · cases h
  · exact n.value_line h

/-- The line of a note is read, and the notes are kept for what stands below it. -/
theorem Note.scan_line {notes : Annotations} (hnew : String.ofList n.key ∉ notes.map Prod.fst)
    {rest : List Char} (hrest : StartsFirm rest) :
    scan notes (n.line ++ rest) = scan (notes ++ [n.entry]) rest := by
  have hline : ∀ c ∈ n.comment, (c != '\n') = true := by
    intro c hc
    rw [bne_iff_ne]
    rintro rfl
    exact n.newline_not_mem hc
  have hend : ∀ c more, '\n' :: rest = c :: more → (c != '\n') = false := by
    rintro _ _ heq
    cases heq
    rfl
  obtain ⟨htake, hdrop⟩ := takeWhile_append_of_all hline hend
  have hnote : addNote notes n.comment = notes ++ [n.entry] := by
    rw [addNote, n.note?_comment]
    exact Entries.set_of_not_mem hnew
  rw [line, List.cons_append, List.cons_append, List.append_assoc, List.singleton_append,
    scan_comment, htake, hdrop, hnote, scan_blank (by decide), startsWithBlankLine_eq_false hrest,
    Bool.and_false, if_neg Bool.false_ne_true]

theorem startsFirm_line : StartsFirm n.line := ⟨'/', _, rfl, by decide⟩

/-- The notes above a declaration are collected. -/
theorem scan_notes (before : List Note) {items : List Note}
    (hdistinct : ((before ++ items).map (·.key)).Nodup) {rest : List Char}
    (hrest : StartsFirm rest) :
    scan (before.map Note.entry) (items.flatMap Note.line ++ rest) =
      scan ((before ++ items).map Note.entry) rest := by
  induction items generalizing before with
  | nil => rw [List.flatMap_nil, List.nil_append, List.append_nil]
  | cons n items ih =>
    have hnew : String.ofList n.key ∉ (before.map Note.entry).map Prod.fst := by
      rw [List.map_map, List.mem_map]
      rintro ⟨m, hm, hkey⟩
      rw [List.map_append, List.nodup_append] at hdistinct
      refine hdistinct.2.2 m.key (List.mem_map_of_mem hm) n.key List.mem_cons_self ?_
      exact String.ofList_injective hkey
    -- there is no blank line below the note, so it is kept
    have hbelow : StartsFirm (items.flatMap Note.line ++ rest) := by
      cases items with
      | nil => exact hrest
      | cons m items => exact ((startsFirm_line m).append _).append _
    have hentries : before.map Note.entry ++ [n.entry] = (before ++ [n]).map Note.entry := by
      rw [List.map_append, List.map_singleton]
    rw [List.append_cons] at hdistinct
    rw [List.flatMap_cons, List.append_assoc, n.scan_line hnew hbelow, hentries, ih _ hdistinct,
      ← List.append_cons]

/-! ## Declarations -/

namespace Item

theorem startsFirm_text (i : Item) :
    ∃ c rest, i.text = c :: rest ∧ isBlank c = false ∧ c ≠ '/' := by
  cases i with
  | interface i => exact ⟨'i', _, rfl, by decide, by decide⟩
  | typeAlias t => exact ⟨'t', _, rfl, by decide, by decide⟩

/-- A declaration is read from its text. -/
theorem declaration_text (i : Item) (rest : List Char) :
    declaration i.notes.annotations (i.text ++ rest) = .ok (i.declared, rest) := by
  -- the kinds that are tried before the right one fail on the first letters of its word
  cases i with
  | interface i =>
    obtain ⟨cs, hcs⟩ : ∃ cs, i.text ++ rest = 'i' :: 'n' :: cs := ⟨_, rfl⟩
    have hread := i.interfaceAt?_text rest
    rw [hcs] at hread
    have hheader : headerAt? ('i' :: 'n' :: cs) = none := rfl
    have hreference : referenceAt? ('i' :: 'n' :: cs) = none := rfl
    have hterminal : terminalAt? ('i' :: 'n' :: cs) = none := rfl
    change declaration i.notes.annotations (i.text ++ rest) = _
    rw [declaration, hcs, hheader, hreference, hterminal, hread]
    rfl
  | typeAlias t =>
    obtain ⟨cs, hcs⟩ : ∃ cs, t.text ++ rest = 't' :: 'y' :: cs := ⟨_, rfl⟩
    have hread := t.aliasAt?_text rest
    rw [hcs] at hread
    have hheader : headerAt? ('t' :: 'y' :: cs) = none := rfl
    have hreference : referenceAt? ('t' :: 'y' :: cs) = none := rfl
    have hterminal : terminalAt? ('t' :: 'y' :: cs) = none := rfl
    have hinterface : interfaceAt? t.notes.annotations ('t' :: 'y' :: cs) = none := rfl
    change declaration t.notes.annotations (t.text ++ rest) = _
    rw [declaration, hcs, hheader, hreference, hterminal, hinterface, hread]
    rfl

/-- A declaration is read with the notes above it and the blanks below it. -/
theorem scan_text (i : Item) (gap : Blanks) (rest : List Char) :
    scan [] (i.notes.text ++ (i.text ++ (gap.chars ++ rest))) =
      (scan [] rest).map (i.declared :: ·) := by
  obtain ⟨c, cs, hcs, hblank, hslash⟩ := i.startsFirm_text
  have hfirm : StartsFirm (i.text ++ (gap.chars ++ rest)) := ⟨c, _, by rw [hcs]; rfl, hblank⟩
  have hnotes : scan [] (i.notes.text ++ (i.text ++ (gap.chars ++ rest))) =
      scan i.notes.annotations (i.text ++ (gap.chars ++ rest)) :=
    scan_notes [] i.notes.distinct hfirm
  rw [hnotes, scan_declaration ⟨c, _, by rw [hcs]; rfl, hblank, hslash⟩ (i.declaration_text _),
    scan_blanks gap.blank]

end Item

/-! ## Documents -/

namespace Document

theorem scan_itemsText (items : List (Item × Blanks)) :
    scan [] (itemsText items) = .ok (items.map fun e ↦ e.1.declared) := by
  induction items with
  | nil => exact scan_nil []
  | cons e items ih =>
    rw [itemsText] at ih
    rw [itemsText, List.flatMap_cons, List.append_assoc, List.append_assoc, e.1.scan_text, ih]
    rfl

/-- What a document declares, one by one. -/
def declarations (d : Document) : List Declaration :=
  (d.header.map fun n ↦ Declaration.header n.string).toList ++ d.items.map fun e ↦ e.1.declared

theorem headerAt?_text (n : Name) (rest : List Char) :
    headerAt? ("grammar".toList ++ ' ' :: (n.chars ++ '\n' :: rest)) =
      some (.ok (.header n.string, '\n' :: rest)) := by
  rw [headerAt?, keyword?_append ((firm_of_isIdent n.ident).start.append _), Option.bind_some,
    ident?_append n.ident (breaks_cons (by decide)), Option.map_some]
  rfl

/-- The declarations of a document are cut from its text. -/
theorem scan_text (d : Document) : scan [] d.text = .ok d.declarations := by
  have hbody : scan [] (d.lead.chars ++ itemsText d.items) =
      .ok (d.items.map fun e ↦ e.1.declared) := by
    rw [scan_blanks d.lead.blank, scan_itemsText]
  rw [text, declarations]
  cases d.header with
  | none => exact hbody
  | some n =>
    have htext : headerText (some n) ++ (d.lead.chars ++ itemsText d.items) =
        "grammar".toList ++ ' ' :: (n.chars ++ '\n' :: (d.lead.chars ++ itemsText d.items)) := by
      unfold headerText
      generalize "grammar".toList = word
      simp only [List.append_assoc, List.cons_append, List.nil_append]
    have hread := headerAt?_text n (d.lead.chars ++ itemsText d.items)
    have hdeclaration : declaration [] ("grammar".toList ++ ' ' ::
        (n.chars ++ '\n' :: (d.lead.chars ++ itemsText d.items))) =
        .ok (.header n.string, '\n' :: (d.lead.chars ++ itemsText d.items)) := by
      rw [declaration, hread]
      rfl
    have hstart : ∃ c rest, "grammar".toList ++ ' ' ::
        (n.chars ++ '\n' :: (d.lead.chars ++ itemsText d.items)) = c :: rest ∧
        isBlank c = false ∧ c ≠ '/' := ⟨'g', _, rfl, by decide, by decide⟩
    rw [htext, scan_declaration hstart hdeclaration, scan_blank (by decide), ite_self, hbody]
    rfl

end Document

/-! ## No block comments -/

theorem Name.plain (n : Name) : Plain n.chars :=
  plain_of_class (by decide) (isIdentRest_of_isIdent n.ident)

theorem Blanks.plain (bs : Blanks) : Plain bs.chars :=
  plain_of_class (by decide) (List.all_eq_true.mp bs.blank)

theorem Note.plain_line (n : Note) : Plain n.line := by
  have hvalue : ¬ ['/', '*'] <:+: n.value ++ ['\n'] :=
    not_infix_append n.value_plain (plain_of_not_mem (by decide))
  have hspace : Plain (' ' :: (n.value ++ ['\n'])) := plain_cons (by decide) (by decide) hvalue
  have hkey : Plain n.key := plain_of_class (by decide) n.key_word
  have hsigns : Plain ['/', '/', ' ', '@'] := plain_of_not_mem (by decide)
  have htext : n.line = ['/', '/', ' ', '@'] ++ (n.key ++ ' ' :: (n.value ++ ['\n'])) := by
    rw [line, comment]
    simp only [List.append_assoc, List.cons_append, List.nil_append]
  rw [htext]
  exact hsigns.append (hkey.append hspace)

theorem Notes.plain_text (ns : Notes) : Plain ns.text :=
  flatMap_closed plain_nil Plain.append fun n _ ↦ n.plain_line

theorem plain_supersText (superTypes : List Name) : Plain (supersText superTypes) := by
  cases superTypes with
  | nil => exact plain_nil
  | cons s more =>
    have hword : Plain "extends".toList := plain_of_not_mem (by decide)
    have hnames : Plain (joined [',', ' '] ((s :: more).map Name.chars)) :=
      joined_closed plain_nil Plain.append (plain_of_not_mem (by decide))
        (List.forall_mem_map.mpr fun n _ ↦ n.plain)
    have hspace := plain_cons (c := ' ') (by decide) (by decide) hnames.inside
    exact plain_cons (by decide) (by decide) (hword.append hspace).inside

theorem Body.plain_text (b : Body) : Plain b.text :=
  plain_of_not_mem (b.not_mem_text (by decide) (by decide) (by decide))

theorem Interface.plain_text (i : Interface) : Plain i.text := by
  have hword : Plain "interface".toList := plain_of_not_mem (by decide)
  have hbody := i.body.plain_text.append (plain_of_not_mem (by decide : '*' ∉ ['}']))
  have hbrace := plain_cons (c := '{') (by decide) (by decide) hbody.inside
  have hspace := plain_cons (c := ' ') (by decide) (by decide) hbrace.inside
  have hhead := i.name.plain.append ((plain_supersText i.superTypes).append hspace)
  exact hword.append (plain_cons (by decide) (by decide) hhead.inside)

theorem Literal.plain_text (l : Literal) : Plain l.text :=
  plain_cons (by decide) (by decide) (not_infix_append l.plain (plain_of_not_mem (by decide)))

theorem Members.plain_text (ms : Members) : Plain ms.text :=
  joined_closed plain_nil Plain.append (plain_of_not_mem (by decide))
    (ms.forall_mem_texts Name.plain Literal.plain_text)

theorem Alias.plain_text (t : Alias) : Plain t.text := by
  have hword : Plain "type".toList := plain_of_not_mem (by decide)
  have hmembers := t.members.plain_text.append (plain_of_not_mem (by decide : '*' ∉ [';']))
  have hsigns := (plain_of_not_mem (by decide : '*' ∉ [' ', '=', ' '])).append hmembers
  exact hword.append (plain_cons (by decide) (by decide) (t.name.plain.append hsigns).inside)

theorem Item.plain_text (i : Item) : Plain i.text := by
  cases i with
  | interface i => exact i.plain_text
  | typeAlias t => exact t.plain_text

namespace Document

theorem plain_headerText (header : Option Name) : Plain (headerText header) := by
  cases header with
  | none => exact plain_nil
  | some n =>
    have hword : Plain "grammar".toList := plain_of_not_mem (by decide)
    have hname := n.plain.append (plain_of_not_mem (by decide : '*' ∉ ['\n']))
    exact hword.append (plain_cons (by decide) (by decide) hname.inside)

/-- There is no block comment in a document. -/
theorem plain_text (d : Document) : Plain d.text := by
  have hitems : Plain (itemsText d.items) := flatMap_closed plain_nil Plain.append fun e _ ↦
    e.1.notes.plain_text.append (e.1.plain_text.append e.2.plain)
  exact (plain_headerText d.header).append (d.lead.plain.append hitems)

/-! ## What is declared together -/

theorem filterMap_declared {α : Type} {f : Declaration → Option α} {g : Item → Option α}
    (h : ∀ i : Item, f i.declared = g i) (items : List (Item × Blanks)) :
    (items.map fun e ↦ e.1.declared).filterMap f = items.filterMap fun e ↦ g e.1 := by
  rw [List.filterMap_map]
  exact congrArg (List.filterMap · items) (funext fun e ↦ h e.1)

theorem filterMap_declared_eq_nil {α : Type} {f : Declaration → Option α}
    (h : ∀ i : Item, f i.declared = none) (items : List (Item × Blanks)) :
    (items.map fun e ↦ e.1.declared).filterMap f = [] := by
  rw [filterMap_declared h, List.filterMap_eq_nil_iff]
  exact fun _ _ ↦ rfl

theorem explicitInterfaces_declarations (d : Document) :
    explicitInterfaces d.declarations = d.items.filterMap fun e ↦ e.1.interface? := by
  rw [explicitInterfaces, declarations, List.filterMap_append,
    filterMap_declared (g := Item.interface?) fun i ↦ by cases i <;> rfl]
  cases d.header <;> rfl

theorem explicitAliases_declarations (d : Document) :
    explicitAliases d.declarations = d.items.filterMap fun e ↦ e.1.alias? := by
  rw [explicitAliases, declarations, List.filterMap_append,
    filterMap_declared (g := Item.alias?) fun i ↦ by cases i <;> rfl]
  cases d.header <;> rfl

theorem ruleDeclarations_declarations (d : Document) : ruleDeclarations d.declarations = [] := by
  rw [ruleDeclarations, declarations, List.filterMap_append,
    filterMap_declared_eq_nil (fun i ↦ by cases i <;> rfl), List.append_nil]
  cases d.header <;> rfl

theorem declaredName_declarations (d : Document) :
    declaredName d.declarations = d.header.map Name.string := by
  rw [declaredName, declarations, List.filterMap_append,
    filterMap_declared_eq_nil (fun i ↦ by cases i <;> rfl), List.append_nil]
  cases d.header <;> rfl

/-- The declarations of a document make up the grammar that it declares. -/
theorem assemble_declarations (d : Document) (projectName : String) (file : Option Path) :
    assemble projectName file d.declarations = d.declared projectName file := by
  have hrules : (ruleTypes d.declarations).rules = [] := by
    rw [ruleTypes, d.ruleDeclarations_declarations]
    rfl
  -- only what rules return can be added to the declared interfaces
  have hreturned : ∀ c, undeclaredReturns (explicitInterfaces d.declarations)
      (ruleTypes d.declarations) c = [] := by
    intro c
    rw [undeclaredReturns, hrules]
    rfl
  simp only [assemble, hreturned]
  simp only [d.ruleDeclarations_declarations, List.foldl_nil, List.map_nil, List.append_nil,
    d.explicitInterfaces_declarations, d.explicitAliases_declarations, d.declaredName_declarations]
  rfl

/-- A document of explicit declarations is read as the grammar that it declares. -/
theorem parse_text (d : Document) (projectName : String) (file : Option Path) :
    parse (String.ofList d.text) projectName file = .ok (d.declared projectName file) := by
  have hcomments : blankComments d.text = .ok d.text :=
    blankCommentsFrom_of_plain d.plain_text.inside 0
  have hdeclarations : Grammar.declarations d.text = .ok d.declarations := by
    rw [Grammar.declarations, hcomments]
    dsimp only
    rw [d.scan_text]
  rw [parse, String.toList_ofList, hdeclarations]
  dsimp only
  rw [d.assemble_declarations]

-- the customary layout of a document
example :
    let name := fun (cs : List Char) (h : isIdent cs = true) ↦ Name.mk cs h
    let task := name "Task".toList (by decide)
    let note := Note.mk "glspType".toList "node".toList (by decide)
      (List.all_eq_true.mp (by decide)) (by decide) (by decide) (by decide) (by decide)
    let next := Property.mk (name "next".toList (by decide)) true true task true
    let body := Body.line ⟨"\n    ".toList, by decide⟩ next .newline (.close ⟨[], by decide⟩)
    let off := Literal.mk "off".toList (by decide) (by decide) (by decide) (by decide)
    let on := Literal.mk "on".toList (by decide) (by decide) (by decide) (by decide)
    let named := name "Named".toList (by decide)
    let mode := name "Mode".toList (by decide)
    let items := [(Item.interface ⟨⟨[note], by decide⟩, task, [named], body⟩, Blanks.mk
        "\n\n".toList (by decide)),
      (.typeAlias ⟨⟨[], by decide⟩, mode, .literals off [on]⟩, ⟨[], by decide⟩)]
    Document.text ⟨some (name "Flow".toList (by decide)), ⟨['\n'], by decide⟩, items⟩ =
      ("grammar Flow\n\n"
        ++ "// @glspType node\ninterface Task extends Named \x7b\n    next?: @Task[]\n\x7d\n\n"
        ++ "type Mode = 'off' | 'on';").toList := by
  decide

end Document

end Written

end DiagramForge.Grammar
