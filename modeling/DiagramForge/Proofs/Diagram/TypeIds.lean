import DiagramForge.Proofs.Diagram.Elements
import DiagramForge.Strategy.Builtin

/-!
# Which elements share an identifier

The diagram knows an element by its kind and its name in lower case. The names of a valid grammar
are distinct, but they may differ in capitals only. So two elements share an identifier exactly if
they are of one kind and their names have the same lower-case form: `Diagram.typeIds_nodup_iff`.

A node and an edge never share an identifier, so it takes no more than a look at the nodes, and one
at the edges, to know whether the generated lists of types are free of repetitions.
`Diagram.repeated_typeId_shouted` is a valid grammar whose list of nodes is not.
-/

namespace DiagramForge

/-! ## Identifiers -/

/-- The kind of an element can be read off its identifier, and so can its name in lower case. -/
theorem Element.typeId_eq_iff {e e' : Element} : e.typeId = e'.typeId ↔
    e.kind = e'.kind ∧ Text.lowerString e.name = Text.lowerString e'.name := by
  constructor
  · intro h
    have hkind : e.kind = e'.kind := by
      have hfirst := congrArg (·.toList.head?) h
      revert hfirst
      cases he : e.kind <;> cases he' : e'.kind <;>
        simp [typeId, he, he', ElementKind.label, String.toList_append]
    rw [typeId, typeId, hkind] at h
    exact ⟨hkind, String.append_right_inj _ |>.mp h⟩
  · rintro ⟨hkind, hname⟩
    rw [typeId, typeId, hkind, hname]

namespace Diagram

/-- No two elements of a kind have names that differ, but not in lower case. -/
def ApartInLowerCase (d : Diagram) (kind : ElementKind) : Prop :=
  ∀ e ∈ d.elements, ∀ e' ∈ d.elements, e.kind = kind → e'.kind = kind →
    Text.lowerString e.name = Text.lowerString e'.name → e.name = e'.name

/-- The constants that are generated for the identifiers of the elements, with their values. -/
def typeConstants (d : Diagram) : List (String × String) :=
  d.elements.map fun e ↦ (e.name, e.typeId)

/-- The values of generated constants. -/
def constantValues (d : Diagram) (names : List String) : List (Option String) :=
  names.map (Entries.get? d.typeConstants)

variable {options : BuildOptions} {g : Grammar} {s : Setting} {d : Diagram}

/-- Among elements with distinct names, those of the kinds `kinds` have distinct identifiers exactly
if they are apart. -/
theorem nodup_typeIds_filter_iff (hnames : (d.elements.map (·.name)).Nodup)
    (p : ElementKind → Bool) :
    ((d.elements.filter fun e ↦ p e.kind).map (·.typeId)).Nodup ↔
      ∀ kind, p kind = true → d.ApartInLowerCase kind := by
  have hnodup : (d.elements.filter fun e ↦ p e.kind).Nodup := (hnames.of_map _).filter _
  rw [List.nodup_map_iff_inj_on hnodup]
  simp only [List.mem_filter, Element.typeId_eq_iff]
  constructor
  · rintro h kind hkind e he e' he' rfl hkind' hname
    rw [h e ⟨he, hkind⟩ e' ⟨he', hkind' ▸ hkind⟩ ⟨hkind'.symm, hname⟩]
  · rintro h e ⟨he, hkind⟩ e' ⟨he', -⟩ ⟨hkinds, hname⟩
    exact List.inj_on_of_nodup_map hnames he he' (h e.kind hkind e he e' he' rfl hkinds.symm hname)

/-- A generated constant has the identifier of the element that it is named after. -/
theorem constantValues_map_name (hnames : (d.elements.map (·.name)).Nodup) {es : List Element}
    (hes : es ⊆ d.elements) :
    d.constantValues (es.map (·.name)) = (es.map (·.typeId)).map some := by
  have hkeys : (d.typeConstants.map Prod.fst).Nodup := by
    rw [typeConstants, List.map_map]
    exact hnames
  rw [constantValues, List.map_map, List.map_map]
  refine List.map_congr_left fun e he ↦ ?_
  exact Entries.get?_of_mem hkeys (List.mem_map_of_mem (hes he))

/-- **Which elements share an identifier.** In the diagram of a valid grammar the elements have
distinct names, and two of them share an identifier exactly if they are of one kind and their names
agree in lower case. So the generated constants have distinct values exactly if the names of the
nodes differ in lower case, and those of the edges do; the generated list of nodes has no
repetitions exactly if the former holds, and the list of edges exactly if the latter does. -/
theorem typeIds_nodup_iff (hvalid : g.validate.ok = true) (hbuild : build options g s = .ok d) :
    (d.elements.map (·.name)).Nodup ∧
    (∀ e ∈ d.elements, ∀ e' ∈ d.elements, e.typeId = e'.typeId ↔
      e.kind = e'.kind ∧ Text.lowerString e.name = Text.lowerString e'.name) ∧
    Entries.get? (sharedVariables d) "element_type_ids" =
      some (.list (d.typeConstants.map fun c ↦ .textTuple [c.1, c.2])) ∧
    ((d.typeConstants.map Prod.snd).Nodup ↔ ∀ kind, d.ApartInLowerCase kind) ∧
    ((d.constantValues (d.nodeTypes.map (·.element.name))).Nodup ↔ d.ApartInLowerCase .node) ∧
    ((d.constantValues (d.edgeTypes.map (·.element.name))).Nodup ↔ d.ApartInLowerCase .edge) := by
  have hnames := nodup_elements_map_name hvalid hbuild
  have hlist : ∀ (p : ElementKind → Bool),
      (d.constantValues ((d.elements.filter fun e ↦ p e.kind).map (·.name))).Nodup ↔
        ∀ kind, p kind = true → d.ApartInLowerCase kind := by
    intro p
    rw [constantValues_map_name hnames (List.filter_subset_self _),
      List.nodup_map_iff (Option.some_injective _), nodup_typeIds_filter_iff hnames]
  refine ⟨hnames, fun e _ e' _ ↦ Element.typeId_eq_iff, ?_, ?_, ?_, ?_⟩
  · rw [typeConstants, List.map_map]
    rfl
  · have hall := nodup_typeIds_filter_iff hnames fun _ ↦ true
    rw [List.filter_eq_self.mpr fun _ _ ↦ rfl] at hall
    rw [typeConstants, List.map_map]
    exact hall.trans (forall_congr' fun _ ↦ ⟨fun h ↦ h rfl, fun h _ ↦ h⟩)
  · have hnodes :
        d.nodeTypes.map (·.element.name) = (d.elements.filter (·.isNode)).map (·.name) := by
      rw [← nodeTypes_map_element hbuild, List.map_map]
      rfl
    rw [hnodes]
    refine (hlist (· == .node)).trans ?_
    simp
  · have hedges :
        d.edgeTypes.map (·.element.name) = (d.elements.filter (·.isEdge)).map (·.name) := by
      rw [← edgeTypes_map_element hbuild, List.map_map]
      rfl
    rw [hedges]
    refine (hlist (· == .edge)).trans ?_
    simp

end Diagram

/-! ## Names that differ in capitals -/

/-- A grammar of two interfaces whose names differ in capitals only. -/
def Grammar.shouted : Grammar where
  interfaces := [{ name := "Task" }, { name := "TASK" }]

theorem Grammar.ancestry_shouted : shouted.ancestry = [("Task", []), ("TASK", [])] := by
  have hnone : ∀ name ∈ shouted.interfaceNames, shouted.ancestors name = [] := by
    intro name hname
    have hsupers : shouted.supers name = [] := by
      revert name
      decide
    rw [ancestors, hsupers, ancestorsFrom]
  rw [ancestry, List.map_congr_left fun name hname ↦ congrArg (Prod.mk name) (hnone name hname)]
  rfl

/-- A node of which only the name is known. -/
def Element.plain (name : String) : Element :=
  ⟨name, .node, [], [], [], [], []⟩

theorem Diagram.build_shouted : ∃ d, build {} .shouted (Config.settings {}) = .ok d ∧
    d.elements = [.plain "Task", .plain "TASK"] ∧
    d.nodeTypes.map (·.element.name) = ["Task", "TASK"] := by
  refine ⟨_, build_eq_ok_iff.mpr ⟨rfl, _, _, [.plain "Task", .plain "TASK"], _, _, _, rfl, rfl,
    ?_, rfl, rfl, rfl, rfl⟩, rfl, rfl⟩
  rw [Grammar.ancestry_shouted]
  rfl

/-- Validation accepts the two names, but the generated list of nodes has one identifier twice. -/
theorem Diagram.repeated_typeId_shouted :
    Grammar.shouted.validate.ok = true ∧ ∃ d, build {} .shouted (Config.settings {}) = .ok d ∧
      (∃ e ∈ d.elements, ∃ e' ∈ d.elements, e.name ≠ e'.name ∧ e.typeId = e'.typeId) ∧
      ¬ (d.constantValues (d.nodeTypes.map (·.element.name))).Nodup := by
  obtain ⟨d, hd, helements, hnodes⟩ := build_shouted
  refine ⟨by decide +kernel, d, hd, ?_, ?_⟩
  · rw [helements]
    exact ⟨_, List.mem_cons_self, _, List.mem_cons_of_mem _ List.mem_cons_self, by decide,
      by decide +kernel⟩
  · rw [hnodes, constantValues, typeConstants, helements]
    decide +kernel

/-- The names of the two nodes are not apart, but those of edges are, since there are none. -/
theorem Diagram.typeIds_nodup_shouted :
    Grammar.shouted.validate.ok = true ∧ ∃ d, build {} .shouted (Config.settings {}) = .ok d ∧
      (d.elements.map (·.name)).Nodup ∧
      ¬ (d.constantValues (d.nodeTypes.map (·.element.name))).Nodup ∧
      (d.constantValues (d.edgeTypes.map (·.element.name))).Nodup := by
  have hvalid : Grammar.shouted.validate.ok = true := by decide +kernel
  obtain ⟨d, hd, helements, -⟩ := build_shouted
  obtain ⟨hnames, -, -, -, hnodes, hedges⟩ := typeIds_nodup_iff hvalid hd
  refine ⟨hvalid, d, hd, hnames, ?_, ?_⟩
  · rw [hnodes, ApartInLowerCase, helements]
    intro h
    exact absurd (h (.plain "Task") List.mem_cons_self (.plain "TASK")
      (List.mem_cons_of_mem _ List.mem_cons_self) rfl rfl (by decide +kernel)) (by decide)
  · rw [hedges, ApartInLowerCase, helements]
    intro e he e' _ hkind
    have hplain : ∀ e ∈ [Element.plain "Task", .plain "TASK"], e.kind = .node := by decide
    rw [hplain e he] at hkind
    cases hkind

end DiagramForge
