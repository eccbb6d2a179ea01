import DiagramForge.Proofs.Diagram.Elements
import DiagramForge.Proofs.Grammar.IdentifiedNames
import DiagramForge.Proofs.Strategy.DistinctPaths

/-!
# Paths for identifiers

The paths of files for elements lead into the output directory if the names of the elements are
identifiers: `accepts_of_framing`. In the spelling of files such a name has no dot, so the path has
the one of its suffix and cannot go up.

The names in a grammar that is read from a text are identifiers, so no path for an element of a
diagram of the grammar is ever refused: `parse_identified`.
-/

namespace DiagramForge

open Text Grammar

/-! ## Paths with one dot -/

theorem sublist_of_mem_fields {sep : Char → Bool} {cs f : List Char} (hf : f ∈ fields sep cs) :
    f.Sublist cs := by
  induction cs generalizing f with
  | nil =>
    obtain rfl := List.mem_singleton.mp hf
    exact .slnil
  | cons c cs ih =>
    cases hcs : fields sep cs with
    | nil => exact absurd hcs (fields_ne_nil sep cs)
    | cons w ws =>
      rw [hcs] at ih
      obtain ⟨hw, hws⟩ := List.forall_mem_cons.mp fun f hf ↦ ih (f := f) hf
      rw [fields, hcs] at hf
      dsimp only at hf
      split at hf
      · rcases List.mem_cons.mp hf with rfl | hf
        · exact List.nil_sublist _
        · exact (ih hf).cons c
      · rcases List.mem_cons.mp hf with rfl | hf
        · exact hw.cons_cons c
        · exact (hws f hf).cons c

/-- A path with one dot does not go up. -/
theorem leadsInside_of_count {path : String} (hne : path.toList ≠ [])
    (hroot : path.toList.head? ≠ some '/') (hdots : path.toList.count '.' ≤ 1) :
    leadsInside path = true := by
  have hup : ".." ∉ fieldStrings (· == '/') path := by
    intro h
    obtain ⟨f, hf, heq⟩ := List.mem_map.mp h
    have hcount := (sublist_of_mem_fields hf).count_le '.'
    have htwo : f.count '.' = 2 := by
      rw [← String.toList_ofList (l := f), heq]
      rfl
    omega
  have hsome : path ≠ "" := fun heq ↦ hne (heq ▸ rfl)
  rw [leadsInside, bne_iff_ne.mpr hsome, bne_iff_ne.mpr hroot]
  simpa using hup

/-! ## Identifiers in the spelling of files -/

theorem isAscii_of_isIdentRest {c : Char} (h : isIdentRest c = true) : isAscii c = true := by
  rcases Bool.or_eq_true_iff.mp h with h | h
  · exact isAscii_of_isAlphanum h
  · rw [eq_of_beq h]
    rfl

/-- In the spelling of files, the characters of an identifier are lowered and there are dashes. -/
theorem exists_of_mem_toKebab {name : String} (h : IsName name) {c : Char}
    (hc : c ∈ (Naming.toKebab name).toList) :
    ∃ b, (isIdentRest b = true ∨ b = '-') ∧ c = b.toLower := by
  have hrest := isIdentRest_of_isIdent h
  have hdashed : ∀ c ∈ name.toList.flatMap Naming.dashed, isIdentRest c = true ∨ c = '-' := by
    intro c hc
    obtain ⟨d, hd, hc⟩ := List.mem_flatMap.mp hc
    rw [Naming.dashed] at hc
    split at hc
    · rcases List.mem_cons.mp hc with rfl | hc
      · exact .inr rfl
      · exact .inl (List.mem_singleton.mp hc ▸ hrest d hd)
    · exact .inl (List.mem_singleton.mp hc ▸ hrest d hd)
  have hascii : ∀ c ∈ name.toList.flatMap Naming.dashed, isAscii c = true := by
    intro c hc
    rcases hdashed c hc with hident | rfl
    · exact isAscii_of_isIdentRest hident
    · rfl
  rw [Naming.toKebab, Naming.onString, String.toList_ofList, Naming.kebab,
    lower_of_isAscii hascii] at hc
  obtain ⟨b, hb, rfl⟩ := List.mem_map.mp ((List.dropWhile_sublist _).subset hc)
  exact ⟨b, hdashed b hb, rfl⟩

/-- What the characters of an identifier are lowered to is not a dot, nor is a dash. -/
theorem count_dot_toKebab {name : String} (h : IsName name) :
    (Naming.toKebab name).toList.count '.' = 0 := by
  rw [List.count_eq_zero]
  intro hmem
  obtain ⟨b, hident | rfl, heq⟩ := exists_of_mem_toKebab h hmem
  · exact forall_isAscii (p := fun c ↦ isIdentRest c = true → '.' ≠ c.toLower) (by decide)
      (isAscii_of_isIdentRest hident) hident heq
  · exact absurd heq (by decide)

/-! ## Paths for elements -/

namespace TemplateStrategy

variable {s : TemplateStrategy} {before after : String}

/-- The path of a file for an element is accepted, if what frames the name has one dot. -/
theorem Framing.accepts (h : s.Framing before after)
    (hroot : (s.directory ++ before).toList.head? ≠ some '/')
    (hne : (s.directory ++ before).toList ≠ [])
    (hdots : (s.directory ++ before ++ after).toList.count '.' ≤ 1) {t : ElementTemplate}
    (ht : t ∈ s.perElement) {name : String} (hname : IsName name) :
    ∃ output path, fillPattern t.output name = .ok output ∧
      OutputPath.ofString (s.directory ++ output) = .ok path := by
  have hinside : leadsInside (s.directory ++ framed before after name) = true := by
    have hpath : (s.directory ++ framed before after name).toList =
        (s.directory ++ before).toList ++ ((Naming.toKebab name).toList ++ after.toList) := by
      simp only [framed, String.toList_append, List.append_assoc]
    refine leadsInside_of_count ?_ ?_ ?_
    · rw [hpath]
      exact List.append_ne_nil_of_left_ne_nil hne _
    · rw [hpath, List.head?_append_of_ne_nil _ hne]
      exact hroot
    · rw [hpath, List.count_append, List.count_append, count_dot_toKebab hname, Nat.zero_add,
        ← List.count_append, ← String.toList_append]
      exact hdots
  exact ⟨_, ⟨_, hinside⟩, fillPattern_of_framesKebab (h.frames t ht) name, dif_pos hinside⟩

end TemplateStrategy

/-- The built-in strategies have a path for each identifier. -/
theorem accepts_builtin {s : TemplateStrategy} (hs : s ∈ builtinStrategies) {t : ElementTemplate}
    (ht : t ∈ s.perElement) {name : String} (hname : IsName name) :
    ∃ output path, fillPattern t.output name = .ok output ∧
      OutputPath.ofString (s.directory ++ output) = .ok path := by
  simp only [builtinStrategies, List.mem_cons, List.not_mem_nil, or_false] at hs
  rcases hs with rfl | rfl | rfl
  · exact absurd ht List.not_mem_nil
  · exact framing_server.accepts (by decide) (by decide) (by decide) ht hname
  · exact framing_browser.accepts (by decide) (by decide) (by decide) ht hname

/-! ## Texts of grammars -/

namespace Grammar

/-- A grammar that is read is assembled from the declarations of its text. -/
theorem exists_declarations_of_parse {text projectName : String} {file : Option Path} {g : Grammar}
    (hg : parse text projectName file = .ok g) :
    ∃ ds, declarations text.toList = .ok ds ∧ g = assemble projectName file ds := by
  cases hds : declarations text.toList with
  | ok ds => exact ⟨ds, rfl, parse_eq_ok hds hg⟩
  | error fault =>
    rw [parse, hds] at hg
    cases hg

theorem identified_of_parse {text projectName : String} {file : Option Path} {g : Grammar}
    (hg : parse text projectName file = .ok g) : g.Identified := by
  obtain ⟨ds, hds, rfl⟩ := exists_declarations_of_parse hg
  exact identified_assemble (identified_of_declarations hds) projectName file

/-- **Every name that comes out of a text is an identifier.** So no property that is made while the
text is read is refused, a text that is not read is reported as such and in no other way, and the
built-in strategies have a path for every element of a diagram of the grammar. -/
theorem parse_identified (text projectName : String) (file : Option Path) :
    (∀ g, parse text projectName file = .ok g →
      g.Identified ∧
      ∀ options settings d, Diagram.build options g settings = .ok d →
        ∀ s ∈ builtinStrategies, ∀ t ∈ s.perElement, ∀ e ∈ d.elements,
          ∃ output path, fillPattern t.output e.name = .ok output ∧
            OutputPath.ofString (s.directory ++ output) = .ok path) ∧
    (∀ p steps, Constructed text.toList p →
      DataReader.solidText steps (.text p.name) = .ok p.name ∧
        DataReader.solidText steps (.text p.type) = .ok p.type) ∧
    ∀ d, parse text projectName file = .error d → d.kind = .parse := by
  refine ⟨fun g hg ↦ ?_, fun p steps hp ↦ ?_, fun d hd ↦ ?_⟩
  · have hidentified := identified_of_parse hg
    refine ⟨hidentified, fun options settings d hbuild s hs t ht e he ↦ accepts_builtin hs ht ?_⟩
    -- an element has the name of an interface
    have hname : e.name ∈ g.interfaceNames := by
      rw [← Diagram.elements_map_name hbuild]
      exact List.mem_map_of_mem he
    obtain ⟨i, hi, heq⟩ := List.mem_map.mp hname
    exact heq ▸ (hidentified.interfaces i hi).name
  · exact ⟨hp.identified.name.solid steps, hp.identified.type.solid steps⟩
  · rw [parse] at hd
    split at hd
    · cases hd
      rfl
    · cases hd

/-- Four types are named by rules, by an action and by what a rule returns; each has its paths. -/
theorem parse_identified_sum :
    let text := "State: name=ID next=[State];\n" ++
      "Sum returns Expression: Num {infer Plus.left=current} right=Num;\nNum: value=INT;"
    ∃ g d, parse text "" none = .ok g ∧ g.Identified ∧
      Diagram.build {} g (Config.settings {}) = .ok d ∧
      d.elements.map (·.name) = ["State", "Plus", "Num", "Expression"] ∧
      ∀ s ∈ builtinStrategies, ∀ t ∈ s.perElement, ∀ e ∈ d.elements,
        ∃ output path, fillPattern t.output e.name = .ok output ∧
          OutputPath.ofString (s.directory ++ output) = .ok path := by
  intro text
  have hread : (parse text "" none).toOption.map (fun g ↦
      (g.interfaceNames, g.validate.ok, decide (∀ i ∈ g.interfaces, i.annotations = []))) =
      some (["State", "Plus", "Num", "Expression"], true, true) := by
    decide +kernel
  obtain ⟨g, hg, hfacts⟩ := Option.map_eq_some_iff.mp hread
  rw [Prod.mk.injEq, Prod.mk.injEq, decide_eq_true_eq] at hfacts
  obtain ⟨hnames, hvalid, hnotes⟩ := hfacts
  obtain ⟨d, hbuild⟩ := Diagram.exists_build_of_valid hvalid hnotes {}
  have hparse := Outcome.toOption_eq_some.mp hg
  obtain ⟨hidentified, hpaths⟩ := (parse_identified text "" none).1 g hparse
  exact ⟨g, d, hparse, hidentified, hbuild, (Diagram.elements_map_name hbuild).trans hnames,
    hpaths _ _ d hbuild⟩

end Grammar

end DiagramForge
