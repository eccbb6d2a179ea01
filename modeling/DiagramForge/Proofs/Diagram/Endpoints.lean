import DiagramForge.Proofs.Diagram.AllProperties
import DiagramForge.Proofs.Diagram.EdgeRule

/-!
# The ends of edge types

Every interface is a node or an edge, and an edge has two ends wherever it has two single references
at all: `Diagram.edgeTypes_ends`.

## Two searches

The ends of an edge are searched for twice, once to tell whether an element is an edge and once more
for its edge type. The second search goes on where the first one gives up. So an edge that nothing
requests has the ends that made it an edge, and an edge that is requested has ends unless there are
not two properties to choose from: `requestedEnds?_eq_none_iff`.
-/

namespace DiagramForge

open Outcome

/-! ## Ends that are taken in any case -/

section

variable {a : Ancestry} {ps : List ResolvedProperty}

theorem mem_endsOf_iff {p : ResolvedProperty} : p ∈ endsOf ps ↔ p ∈ ps ∧ p.isEnd = true :=
  List.mem_filter

/-- Ends that join go before the first two single references. -/
theorem requestedEnds?_eq : requestedEnds? a ps =
    (edgeEnds? a ps).or (match endsOf ps with
      | p :: q :: _ => some ⟨p, q⟩
      | _ => none) := by
  rw [requestedEnds?, ← endsOf]
  cases edgeEnds? a ps <;> rfl

theorem requestedEnds?_eq_some {e : Ends} (h : requestedEnds? a ps = some e) :
    edgeEnds? a ps = some e ∨ ∃ rest, endsOf ps = e.source :: e.target :: rest := by
  rw [requestedEnds?_eq, Option.or_eq_some_iff] at h
  rcases h with h | ⟨-, h⟩
  · exact .inl h
  · split at h
    next p q rest heq =>
      cases h
      exact .inr ⟨rest, heq⟩
    next => cases h

/-- The ends are two different single references. -/
theorem mem_of_requestedEnds? (hnames : (ps.map (·.name)).Nodup) {e : Ends}
    (h : requestedEnds? a ps = some e) :
    e.source ∈ endsOf ps ∧ e.target ∈ endsOf ps ∧ e.source ≠ e.target := by
  have hnodup := nodup_endsOf hnames
  rcases requestedEnds?_eq_some h with hfound | ⟨rest, heq⟩
  · obtain ⟨hsource, htarget, hne, -⟩ := joins_of_edgeEnds? hnodup hfound
    exact ⟨hsource, htarget, hne⟩
  · rw [heq, List.nodup_cons, List.mem_cons, not_or] at hnodup
    rw [heq]
    exact ⟨by simp, by simp, hnodup.1.1⟩

/-- There are no ends only if there are not two properties to choose from. -/
theorem requestedEnds?_eq_none_iff (hnames : (ps.map (·.name)).Nodup) :
    requestedEnds? a ps = none ↔ (endsOf ps).length < 2 := by
  constructor
  · intro h
    rw [requestedEnds?_eq, Option.or_eq_none_iff] at h
    by_contra hlength
    match hends : endsOf ps with
    | [] => simp [hends] at hlength
    | [p] => simp [hends] at hlength
    | p :: q :: rest => simp [hends] at h
  · intro hlength
    by_contra hsome
    obtain ⟨e, he⟩ := Option.ne_none_iff_exists'.mp hsome
    obtain ⟨hsource, htarget, hne⟩ := mem_of_requestedEnds? hnames he
    match hends : endsOf ps with
    | [] => simp [hends] at hsource
    | [p] =>
      rw [hends, List.mem_singleton] at hsource htarget
      exact hne (hsource.trans htarget.symm)
    | p :: q :: rest =>
      rw [hends, List.length_cons, List.length_cons] at hlength
      omega

end

/-- Two single references of different names among some properties, each of them to one of some
interfaces. -/
structure Ends.Among (e : Ends) (ps : List ResolvedProperty) (interfaces : List String) : Prop where
  /-- The source is a single reference. -/
  source_mem : e.source ∈ endsOf ps
  /-- The target is a single reference. -/
  target_mem : e.target ∈ endsOf ps
  /-- They are different properties. -/
  name_ne : e.source.name ≠ e.target.name
  /-- The source is an interface. -/
  source_type : e.source.type ∈ interfaces
  /-- The target is an interface. -/
  target_type : e.target.type ∈ interfaces

/-! ## References -/

namespace Grammar

variable {g : Grammar} {own : OwnProperties}

/-- What a reference refers to is declared. -/
theorem type_mem_of_resolve {i : Interface} {p : Property} {q : ResolvedProperty}
    (h : g.resolve i p = .ok q) (hreference : q.isReference = true) :
    q.type ∈ g.interfaceNames := by
  rw [resolve] at h
  split at h
  next target htarget =>
    cases h
    have hinterface : target = .interface := eq_of_beq hreference
    rw [target?, hinterface] at htarget
    split at htarget
    next hdeclared => exact List.contains_iff_mem.mp hdeclared
    next =>
      split at htarget
      · cases htarget
      · split at htarget <;> cases htarget
  next => cases h

theorem type_mem_of_ownProperties (hown : g.ownProperties = .ok own) {c : String}
    {q : ResolvedProperty} (hq : q ∈ own.of c) (hreference : q.isReference = true) :
    q.type ∈ g.interfaceNames := by
  rcases ownProperties_cases hown c with ⟨-, hnil⟩ | ⟨i, -, hqs⟩
  · rw [hnil] at hq
    exact absurd hq List.not_mem_nil
  · obtain ⟨p, -, hpq⟩ := exists_of_mem_mapM hqs hq
    exact type_mem_of_resolve hpq hreference

end Grammar

/-! ## Edge types -/

/-- An element is requested as one of a kind, by a note or in the configuration. -/
def Element.Requested (r : Requests) (e : Element) (kind : ElementKind) : Prop :=
  r.include { name := e.name, annotations := e.annotations } kind = true

theorem EdgeType.ends_ofElement {s : Setting} {a : Ancestry} {e : Element} {t : EdgeType}
    (h : ofElement s a e = .ok t) : t.ends = requestedEnds? a t.element.allProperties := by
  obtain ⟨routing, -, h⟩ := bind_eq_ok.mp h
  split at h
  · cases h
    rfl
  · cases h

/-- What is an edge: what is requested as one, and of what is not requested as a node, that for which
two ends are found. -/
theorem Element.isEdge_iff {r : Requests} {a : Ancestry} {own : OwnProperties} {i : Interface}
    {e : Element} (h : ofInterface r a own i = .ok e) : e.isEdge = true ↔
      e.Requested r .edge ∨ ¬ e.Requested r .node ∧ (edgeEnds? a e.allProperties).isSome := by
  obtain ⟨kind, hkind, h⟩ := bind_eq_ok.mp h
  cases h
  change (kind == .edge) = true ↔ r.include i .edge = true ∨ ¬ r.include i .node = true ∧
    (edgeEnds? a (gatherProperties own (a.of i.name) i.name)).isSome = true
  rw [beq_iff_eq]
  rw [classify, Requests.kindOf] at hkind
  cases hnode : r.include i .node <;> cases hedge : r.include i .edge <;>
    simp only [hnode, hedge] at hkind
  · cases hkind
    simp [Option.isSome_iff_ne_none]
  · cases hkind
    simp
  · cases hkind
    simp
  · cases hkind

namespace Diagram

variable {options : BuildOptions} {g : Grammar} {s : Setting} {d : Diagram} {e : Element}
  {t : EdgeType}

theorem nodup_allProperties (hbuild : build options g s = .ok d) (he : e ∈ d.elements) :
    (e.allProperties.map (·.name)).Nodup := by
  obtain ⟨own, -, hproperties⟩ := exists_own hbuild
  rw [(hproperties e he).2]
  exact nodup_mergeProperties _

/-- What the ends of edges refer to are interfaces. -/
theorem type_mem_of_mem_endsOf (hbuild : build options g s = .ok d) (he : e ∈ d.elements)
    {p : ResolvedProperty} (hp : p ∈ endsOf e.allProperties) : p.type ∈ g.interfaceNames := by
  obtain ⟨own, hown, hproperties⟩ := exists_own hbuild
  obtain ⟨hmem, hend⟩ := mem_endsOf_iff.mp hp
  rw [(hproperties e he).2] at hmem
  obtain ⟨c, -, hfound⟩ := exists_of_mem_gatherProperties hmem
  rw [List.findRev?_eq_find?_reverse] at hfound
  rw [ResolvedProperty.isEnd, Bool.and_eq_true] at hend
  exact Grammar.type_mem_of_ownProperties hown
    (List.mem_reverse.mp (List.mem_of_find?_eq_some hfound)) hend.1

/-- Elements have the notes of their interfaces. -/
theorem elements_map_annotations (hbuild : build options g s = .ok d) :
    d.elements.map (fun e ↦ (e.name, e.annotations)) =
      g.interfaces.map fun i ↦ (i.name, i.annotations) := by
  obtain ⟨-, own, requests, -, -, helements⟩ := build_eq_ok hbuild
  refine map_eq_of_forall₂ (mapM_eq_ok.mp helements) fun i e h ↦ ?_
  obtain ⟨kind, -, h⟩ := bind_eq_ok.mp h
  cases h
  rfl

/-- Which elements of a diagram are edges. -/
theorem isEdge_iff (hbuild : build options g s = .ok d) {requests : Requests}
    (hrequests : Requests.ofSettings s = .ok requests) (he : e ∈ d.elements) : e.isEdge = true ↔
      e.Requested requests .edge ∨
        ¬ e.Requested requests .node ∧ (edgeEnds? g.ancestry e.allProperties).isSome := by
  obtain ⟨-, own, requests', -, hrequests', helements⟩ := build_eq_ok hbuild
  obtain rfl : requests' = requests := Except.ok.inj (hrequests'.symm.trans hrequests)
  obtain ⟨i, -, hi⟩ := exists_of_mem_mapM helements he
  exact Element.isEdge_iff hi

/-- The ends of an edge type are those of its element. -/
theorem of_mem_edgeTypes (hbuild : build options g s = .ok d) (ht : t ∈ d.edgeTypes) :
    t.element ∈ d.elements ∧ t.element.isEdge = true ∧
      t.ends = requestedEnds? g.ancestry t.element.allProperties := by
  have helement : t.element ∈ d.elements.filter (·.isEdge) := by
    rw [← edgeTypes_map_element hbuild]
    exact List.mem_map_of_mem ht
  refine ⟨(List.mem_filter.mp helement).1, (List.mem_filter.mp helement).2, ?_⟩
  obtain ⟨-, _, _, elements, _, edges, _, -, -, -, -, hedges, -, rfl⟩ := build_eq_ok_iff.mp hbuild
  obtain ⟨e, -, he⟩ := exists_of_mem_mapM hedges ht
  exact EdgeType.ends_ofElement he

/-- The ends of an edge type are different single references to interfaces. -/
theorem among_of_ends (hbuild : build options g s = .ok d) (ht : t ∈ d.edgeTypes) {ends : Ends}
    (hends : t.ends = some ends) : ends.Among t.element.allProperties g.interfaceNames := by
  obtain ⟨helement, -, heq⟩ := of_mem_edgeTypes hbuild ht
  have hnames := nodup_allProperties hbuild helement
  obtain ⟨hsource, htarget, hne⟩ := mem_of_requestedEnds? hnames (heq.symm.trans hends)
  refine ⟨hsource, htarget, fun hname ↦ hne ?_, type_mem_of_mem_endsOf hbuild helement hsource,
    type_mem_of_mem_endsOf hbuild helement htarget⟩
  exact List.inj_on_of_nodup_map hnames (mem_endsOf_iff.mp hsource).1 (mem_endsOf_iff.mp htarget).1
    hname

/-- **Nodes, edges and their ends.** The elements of a diagram are its interfaces in declaration
order. Its node types are those of the elements that are nodes, its edge types those of all others,
in the same order.

An edge type has no ends exactly if its element has fewer than two single references. Otherwise its
ends are two of them with different names, and both refer to interfaces. An edge that is not
requested as one always has ends. -/
theorem edgeTypes_ends (hbuild : build options g s = .ok d) :
    (d.elements.map (·.name) = g.interfaceNames ∧
      d.nodeTypes.map (·.element) = d.elements.filter (·.isNode) ∧
      d.edgeTypes.map (·.element) = d.elements.filter fun e ↦ !e.isNode) ∧
    (∀ t ∈ d.edgeTypes, (t.ends = none ↔ (endsOf t.element.allProperties).length < 2) ∧
      ∀ ends, t.ends = some ends →
        ends.Among t.element.allProperties (d.elements.map (·.name))) ∧
    ∃ requests, Requests.ofSettings s = .ok requests ∧
      ∀ t ∈ d.edgeTypes, ¬ t.element.Requested requests .edge → t.ends.isSome := by
  have hnames := elements_map_name hbuild
  refine ⟨⟨hnames, nodeTypes_map_element hbuild, ?_⟩, fun t ht ↦ ⟨?_, fun ends hends ↦ ?_⟩, ?_⟩
  · have hedge (e : Element) : e.isEdge = !e.isNode := by
      rw [Element.isEdge, Element.isNode]
      cases e.kind <;> rfl
    rw [edgeTypes_map_element hbuild]
    simp only [hedge]
  · obtain ⟨helement, -, heq⟩ := of_mem_edgeTypes hbuild ht
    rw [heq, requestedEnds?_eq_none_iff (nodup_allProperties hbuild helement)]
  · rw [hnames]
    exact among_of_ends hbuild ht hends
  · obtain ⟨-, -, requests, -, hrequests, -⟩ := build_eq_ok hbuild
    refine ⟨requests, hrequests, fun t ht hrequested ↦ ?_⟩
    obtain ⟨helement, hedge, heq⟩ := of_mem_edgeTypes hbuild ht
    rw [heq, requestedEnds?_eq, Option.isSome_or, Bool.or_eq_true]
    exact .inl (((isEdge_iff hbuild hrequests helement).mp hedge).resolve_left hrequested).2

end Diagram

/-- A wire runs from a pin to a plug, which is a pin as well. -/
def Grammar.wires : Grammar where
  interfaces := [
    { name := "Pin", properties := [{ name := "label", type := "string" }] },
    { name := "Plug", superTypes := ["Pin"] },
    { name := "Wire",
      properties := [{ name := "from", type := "Pin" }, { name := "to", type := "Plug" }] }]

/-- The two references of the wire. -/
def wireProperties : List ResolvedProperty :=
  [{ name := "from", type := "Pin", target := .interface, declaredIn := "Wire" },
    { name := "to", type := "Plug", target := .interface, declaredIn := "Wire" }]

theorem Diagram.allProperties_wires {options : BuildOptions} {s : Setting} {d : Diagram}
    (hbuild : build options .wires s = .ok d) {e : Element} (he : e ∈ d.elements)
    (hname : e.name = "Wire") : e.allProperties = wireProperties := by
  have hwire : Grammar.wires.supers "Wire" = [] := rfl
  have hancestors : Grammar.wires.ancestors "Wire" = [] := by
    simp [Grammar.ancestors, Grammar.ancestorsFrom, hwire]
  obtain ⟨own, hown, hproperties⟩ := exists_own hbuild
  rw [(hproperties e he).2, (of_mem_elements hbuild he).1, hname, hancestors]
  cases hown
  rfl

/-- The wire is an edge type and has two ends, although nothing requests it. -/
theorem Diagram.edgeTypes_ends_wires :
    ∃ d, build {} .wires (Config.settings {}) = .ok d ∧ ∃ t ∈ d.edgeTypes,
      t.element.name = "Wire" ∧ t.element.allProperties = wireProperties ∧
        ∃ ends, t.ends = some ends ∧
          ends.Among t.element.allProperties (d.elements.map (·.name)) := by
  obtain ⟨d, hd⟩ := exists_build_of_valid (g := .wires) (by decide +kernel) (by decide) {}
  obtain ⟨⟨-, -, hedges⟩, hends, -⟩ := edgeTypes_ends hd
  obtain ⟨e, he, hname⟩ := exists_element hd (by decide : "Wire" ∈ Grammar.wires.interfaceNames)
  have hproperties := allProperties_wires hd he hname
  have hedge : e.isEdge = true := by
    refine (isEdge_iff hd (Requests.ofSettings_config {}) he).mpr (.inr ⟨?_, ?_⟩)
    · have hmem := List.mem_map_of_mem (f := fun e : Element ↦ (e.name, e.annotations)) he
      rw [elements_map_annotations hd, hname] at hmem
      have hnotes : e.annotations = [] := by simpa [Grammar.wires] using hmem
      rw [Element.Requested, hname, hnotes]
      decide +kernel
    · rw [hproperties, edgeEnds?_eq, Option.isSome_or, Bool.or_eq_true]
      exact .inl (by decide +kernel)
  have hmem : e ∈ d.edgeTypes.map (·.element) := by
    rw [edgeTypes_map_element hd]
    exact List.mem_filter.mpr ⟨he, hedge⟩
  obtain ⟨t, ht, rfl⟩ := List.mem_map.mp hmem
  have hsome : t.ends.isSome := by
    rw [← Option.ne_none_iff_isSome, ne_eq, (hends t ht).1, hproperties]
    decide
  obtain ⟨ends, hends'⟩ := Option.isSome_iff_exists.mp hsome
  exact ⟨d, hd, t, ht, hname, hproperties, ends, hends', (hends t ht).2 ends hends'⟩

end DiagramForge
