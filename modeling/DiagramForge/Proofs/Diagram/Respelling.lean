import DiagramForge.Proofs.Diagram.Renaming
import DiagramForge.Proofs.Spelling

/-!
# Properties in snake case and in camel case

The words of a name tell sources and targets, and they are to be the same in every spelling. So an
element is to keep its kind and its ends when its properties are respelled from snake case to camel
case. It does wherever no single letter stands between the first and the last word of the name of a
single reference: `Diagram.respelled_keepsEnds`. Otherwise it may not, as a word may be lost in
camel case: `Diagram.respelled_loses_ends`.
-/

namespace DiagramForge

open Naming (toCamel)

/-! ## Names -/

section

variable {a b : String}

theorem toCamel_toList (name : String) : (toCamel name).toList = Naming.camel name.toList :=
  String.toList_ofList

/-- Names in snake case keep apart in camel case. -/
theorem toCamel_injOn : Set.InjOn toCamel {n | Naming.IsSnake n.toList} := by
  intro a ha b hb h
  rw [← String.toList_inj, ← Naming.uncamel_camel ha, ← Naming.uncamel_camel hb,
    ← toCamel_toList, ← toCamel_toList, h]

/-- A property keeps its roles where its name keeps its words. -/
theorem ResolvedProperty.keepsRoles_of_toldApart {p : ResolvedProperty}
    (hsnake : Naming.IsSnake p.name.toList) (hapart : Naming.ToldApart p.name.toList) :
    p.KeepsRoles toCamel := by
  have hwords : Naming.tokenStrings (toCamel p.name) = Naming.tokenStrings p.name := by
    rw [Naming.tokenStrings, Naming.tokenStrings, toCamel_toList,
      Naming.tokens_camel_of_toldApart hsnake hapart]
  constructor <;>
    simp only [IsSource, IsTarget, HasWord, ResolvedProperty.renamed_name, hwords]

end

/-! ## Elements -/

namespace Diagram

variable {options : BuildOptions} {g : Grammar} {c : Config} {d : Diagram} {e : Element}

/-- **What respelling keeps.** All properties of an element, inherited ones included, have names in
snake case, and they are respelled in camel case wherever they are declared, maybe together with
those of other interfaces. Then the grammar still has a diagram, and the element has its properties
under their new names, which have the words that they are made of, but for single letters that run
into the word behind them. If the single references are named as sources and as targets as they were,
the element is of the same kind and the same properties are its ends; so it is if no single letter
stands between the first and the last word of the names of its single references. -/
theorem respelled_keepsEnds (hbuild : build options g c.settings = .ok d) {k : Nat}
    (he : d.elements[k]? = some e) (hsnake : ∀ p ∈ e.allProperties, Naming.IsSnake p.name.toList)
    {names : List String} (hnames : ∀ a ∈ e.name :: e.ancestors, a ∈ names) :
    ∃ d', build options (g.renamed toCamel names) c.settings = .ok d' ∧
      ∃ e', d'.elements[k]? = some e' ∧ e'.name = e.name ∧
        e'.allProperties = e.allProperties.map (·.renamed toCamel) ∧
        (∀ p ∈ e.allProperties, ∀ first rest, Naming.parts p.name.toList = first :: rest →
          (toCamel p.name).toList = first ++ rest.flatMap Naming.hump ∧
          Naming.tokens p.name.toList = first :: rest ∧
          Naming.tokens (toCamel p.name).toList = first :: Naming.runs rest) ∧
        ((∀ p ∈ endsOf e.allProperties, p.KeepsRoles toCamel) → KeepsEnds toCamel d e d' e') ∧
        ((∀ p ∈ endsOf e.allProperties, Naming.ToldApart p.name.toList) →
          KeepsEnds toCamel d e d' e') := by
  have hinj : Set.InjOn toCamel {n | n ∈ e.allProperties.map (·.name)} := by
    refine toCamel_injOn.mono fun n hn ↦ ?_
    obtain ⟨p, hp, rfl⟩ := List.mem_map.mp hn
    exact hsnake p hp
  obtain ⟨d', hbuild'⟩ : ∃ d', build options (g.renamed toCamel names) c.settings = .ok d' :=
    exists_build_renamed hbuild
  obtain ⟨e', he', hname, hannotations, hproperties⟩ :=
    exists_renamed_element hbuild hbuild' he ⟨hnames, hinj⟩
  have hkeeps : (∀ p ∈ endsOf e.allProperties, p.KeepsRoles toCamel) →
      KeepsEnds toCamel d e d' e' :=
    keepsEnds_of_keepsRoles hbuild hbuild' (List.mem_of_getElem? he) (List.mem_of_getElem? he')
      hname hannotations hproperties
  refine ⟨d', hbuild', e', he', hname, hproperties, fun p hp first rest hparts ↦ ⟨?_, ?_, ?_⟩,
    hkeeps, fun hapart ↦ hkeeps fun p hp ↦ ?_⟩
  · rw [toCamel_toList, Naming.camel_of_isSnake (hsnake p hp) hparts]
  · rw [Naming.tokens_of_isSnake (hsnake p hp), hparts]
  · rw [toCamel_toList, Naming.tokens_camel (hsnake p hp) hparts]
  · exact ResolvedProperty.keepsRoles_of_toldApart (hsnake p (mem_endsOf_iff.mp hp).1) (hapart p hp)

end Diagram

/-! ## A link between strangers -/

/-- A link from one interface to another, which have nothing to do with each other. -/
def Grammar.linked (source target : String) : Grammar where
  interfaces := [
    { name := "A", properties := [{ name := "n", type := "string" }] },
    { name := "B", properties := [{ name := "n", type := "string" }] },
    { name := "Link",
      properties := [{ name := source, type := "A", crossReference := true },
        { name := target, type := "B", crossReference := true }] }]

/-- The two references of the link. -/
def linkEnds (source target : String) : List ResolvedProperty :=
  [{ name := source, type := "A", crossReference := true, target := .interface,
      declaredIn := "Link" },
    { name := target, type := "B", crossReference := true, target := .interface,
      declaredIn := "Link" }]

section Linked

variable {source target : String}

theorem Grammar.renamed_linked : (linked source target).renamed toCamel ["Link"] =
    linked (toCamel source) (toCamel target) := by
  simp [renamed, withInterfaces, linked, Interface.renamed, Property.renamed]

theorem Grammar.ancestors_linked (name : String) : (linked source target).ancestors name = [] := by
  have hsupers : (linked source target).supers name = [] := by
    rw [supers, superTypesOf?]
    cases hlast : (linked source target).lastInterface? name with
    | none => rfl
    | some i =>
      have hi := (lastInterface?_eq_some hlast).1
      simp only [linked, List.mem_cons, List.not_mem_nil, or_false] at hi
      rcases hi with rfl | rfl | rfl <;> rfl
  simp [ancestors, ancestorsFrom, hsupers]

theorem Grammar.ancestry_linked :
    (linked source target).ancestry = [("A", []), ("B", []), ("Link", [])] := by
  have hnames : (linked source target).interfaceNames = ["A", "B", "Link"] := rfl
  simp only [ancestry, ancestors_linked, hnames]
  rfl

variable {options : BuildOptions} {d : Diagram} {e : Element}

theorem Diagram.allProperties_linked (hne : source ≠ target) {s : Setting}
    (hbuild : build options (.linked source target) s = .ok d) (he : e ∈ d.elements)
    (hname : e.name = "Link") : e.allProperties = linkEnds source target := by
  obtain ⟨own, hown, hproperties⟩ := exists_own hbuild
  rw [(hproperties e he).2, (of_mem_elements hbuild he).1, hname, Grammar.ancestors_linked]
  cases hown
  change mergeProperties (linkEnds source target) = linkEnds source target
  simp [mergeProperties, linkEnds, Entries.ofList, Entries.merge, Entries.set, hne]

/-- The link is an edge if its references can be the ends of one. -/
theorem Diagram.isEdge_linked (hne : source ≠ target)
    (hbuild : build options (.linked source target) (Config.settings {}) = .ok d)
    (he : e ∈ d.elements) (hname : e.name = "Link") : e.isEdge = true ↔
      (edgeEnds? [("A", []), ("B", []), ("Link", [])] (linkEnds source target)).isSome := by
  have hmem := List.mem_map_of_mem (f := fun e : Element ↦ (e.name, e.annotations)) he
  rw [elements_map_annotations hbuild, hname] at hmem
  have hnotes : e.annotations = [] := by simpa [Grammar.linked] using hmem
  have hnode : ¬ e.Requested (.ofConfig {}) .node := by
    rw [Element.Requested, hname, hnotes]
    decide +kernel
  have hedge : ¬ e.Requested (.ofConfig {}) .edge := by
    rw [Element.Requested, hname, hnotes]
    decide +kernel
  rw [isEdge_iff hbuild (Requests.ofSettings_config {}) he, or_iff_right hedge, and_iff_right hnode,
    Grammar.ancestry_linked, allProperties_linked hne hbuild he hname]

theorem Diagram.exists_linked (hbuild : build options (.linked source target) (Config.settings {}) =
    .ok d) : ∃ e, d.elements[2]? = some e ∧ e.name = "Link" ∧ e.ancestors = [] := by
  have hnames : (d.elements.map (·.name))[2]? = some "Link" := by
    rw [elements_map_name hbuild]
    rfl
  rw [List.getElem?_map, Option.map_eq_some_iff] at hnames
  obtain ⟨e, he, hname⟩ := hnames
  refine ⟨e, he, hname, ?_⟩
  rw [(of_mem_elements hbuild (List.mem_of_getElem? he)).1, Grammar.ancestors_linked]

end Linked

/-- A link from a source node to a target node keeps its kind and its ends. -/
theorem Diagram.respelled_keepsEnds_linked :
    ∃ d, build {} (.linked "source_node" "target_node") (Config.settings {}) = .ok d ∧
      ∃ e, d.elements[2]? = some e ∧ e.isEdge = true ∧
        (∀ p ∈ e.allProperties, Naming.IsSnake p.name.toList) ∧
        (∀ a ∈ e.name :: e.ancestors, a ∈ ["Link"]) ∧
        ∃ d', build {} (.linked "sourceNode" "targetNode") (Config.settings {}) = .ok d' ∧
          ∃ e', d'.elements[2]? = some e' ∧ KeepsEnds toCamel d e d' e' := by
  obtain ⟨d, hd⟩ := exists_build_of_valid (g := .linked "source_node" "target_node")
    (by decide +kernel) (by decide) {}
  obtain ⟨e, he, hname, hancestors⟩ := exists_linked hd
  have hmem := List.mem_of_getElem? he
  have hproperties := allProperties_linked (by decide) hd hmem hname
  have hsnake : ∀ p ∈ e.allProperties, Naming.IsSnake p.name.toList := by
    rw [hproperties]
    decide
  have hnames : ∀ a ∈ e.name :: e.ancestors, a ∈ ["Link"] := by
    rw [hname, hancestors]
    decide
  obtain ⟨d', hd', e', he', -, -, -, -, hkeeps⟩ := respelled_keepsEnds hd he hsnake hnames
  rw [Grammar.renamed_linked] at hd'
  refine ⟨d, hd, e, he, ?_, hsnake, hnames, d', hd', e', he', hkeeps ?_⟩
  · rw [isEdge_linked (by decide) hd hmem hname]
    decide +kernel
  · rw [hproperties]
    decide

/-- **A link loses its ends.** The names `a_b_from` and `a_b_to` tell a source and a target; in
camel case, where the single letters run into the words behind them, they do not. -/
theorem Diagram.respelled_loses_ends :
    ∃ d d', build {} (.linked "a_b_from" "a_b_to") (Config.settings {}) = .ok d ∧
      build {} ((Grammar.linked "a_b_from" "a_b_to").renamed toCamel ["Link"])
        (Config.settings {}) = .ok d' ∧
      ∃ e ∈ d.elements, ∃ e' ∈ d'.elements, e.name = "Link" ∧ e'.name = "Link" ∧
        (∀ p ∈ e.allProperties, Naming.IsSnake p.name.toList) ∧
        (∀ a ∈ e.name :: e.ancestors, a ∈ ["Link"]) ∧
        e'.allProperties.map (·.name) = ["aBFrom", "aBTo"] ∧
        e.kind = .edge ∧ e'.kind = .node := by
  obtain ⟨d, hd⟩ := exists_build_of_valid (g := .linked "a_b_from" "a_b_to")
    (by decide +kernel) (by decide) {}
  obtain ⟨d', hd'⟩ := exists_build_of_valid (g := .linked "aBFrom" "aBTo")
    (by decide +kernel) (by decide) {}
  obtain ⟨e, he, hname, hancestors⟩ := exists_linked hd
  obtain ⟨e', he', hname', -⟩ := exists_linked hd'
  replace he := List.mem_of_getElem? he
  replace he' := List.mem_of_getElem? he'
  have hedge : e.isEdge = true := by
    rw [isEdge_linked (by decide) hd he hname]
    decide +kernel
  have hnode : ¬ e'.isEdge = true := by
    rw [isEdge_linked (by decide) hd' he' hname']
    decide +kernel
  refine ⟨d, d', hd, ?_, e, he, e', he', hname, hname', ?_, ?_, ?_, ?_, ?_⟩
  · rw [Grammar.renamed_linked]
    exact hd'
  · rw [allProperties_linked (by decide) hd he hname]
    decide
  · rw [hname, hancestors]
    decide
  · rw [allProperties_linked (by decide) hd' he' hname']
    rfl
  · exact eq_of_beq hedge
  · rw [Element.isEdge] at hnode
    cases hkind : e'.kind with
    | node => rfl
    | edge => simp [hkind] at hnode

end DiagramForge
