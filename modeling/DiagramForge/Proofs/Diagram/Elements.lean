import DiagramForge.Proofs.Diagram.Redeclaration
import DiagramForge.Proofs.Grammar.DistinctNames

/-!
# What a diagram is made of

A diagram has one element for each interface, in declaration order, and one node or edge type for
each element of that kind, in the same order.
-/

namespace DiagramForge

open Outcome

/-! ## Items made one by one -/

/-- What two items that belong together have in common, two lists of them have in common. -/
theorem map_eq_of_forall₂ {α β γ : Type} {r : α → β → Prop} {p : α → γ} {q : β → γ}
    {as : List α} {bs : List β} (h : List.Forall₂ r as bs) (hcommon : ∀ a b, r a b → q b = p a) :
    bs.map q = as.map p := by
  induction h with
  | nil => rfl
  | cons hab _ ih => rw [List.map_cons, List.map_cons, hcommon _ _ hab, ih]

theorem NodeType.ofElement_eq_ok {s : Setting} {e : Element} {n : NodeType}
    (h : ofElement s e = .ok n) : n.element = e := by
  obtain ⟨defaults, -, h⟩ := bind_eq_ok.mp h
  obtain ⟨ports, -, h⟩ := bind_eq_ok.mp h
  obtain ⟨size, -, h⟩ := bind_eq_ok.mp h
  cases h
  rfl

theorem EdgeType.ofElement_eq_ok {s : Setting} {a : Ancestry} {e : Element} {t : EdgeType}
    (h : ofElement s a e = .ok t) : t.element = e := by
  obtain ⟨routing, -, h⟩ := bind_eq_ok.mp h
  split at h
  · cases h
    rfl
  · cases h

/-! ## Elements and their types -/

namespace Diagram

variable {options : BuildOptions} {g : Grammar} {s : Setting} {d : Diagram}

/-- The elements of a diagram stand for the interfaces of its grammar. -/
theorem elements_map_name (hbuild : build options g s = .ok d) :
    d.elements.map (·.name) = g.interfaceNames := by
  obtain ⟨-, own, requests, -, -, helements⟩ := build_eq_ok hbuild
  exact map_eq_of_forall₂ (mapM_eq_ok.mp helements) fun _ _ h ↦ (Element.ofInterface_eq_ok h).1

theorem nodup_elements_map_name (hvalid : g.validate.ok = true)
    (hbuild : build options g s = .ok d) : (d.elements.map (·.name)).Nodup := by
  have hdistinct := (Grammar.repeats_eq_nil_iff.mp (Grammar.validate_ok hvalid).2.2).1
  rw [elements_map_name hbuild]
  exact (List.nodup_append.mp hdistinct).1

theorem nodeTypes_map_element (hbuild : build options g s = .ok d) :
    d.nodeTypes.map (·.element) = d.elements.filter (·.isNode) := by
  obtain ⟨-, _, _, elements, nodes, _, _, -, -, -, hnodes, -, -, rfl⟩ := build_eq_ok_iff.mp hbuild
  exact (map_eq_of_forall₂ (mapM_eq_ok.mp hnodes) fun _ _ ↦ NodeType.ofElement_eq_ok).trans
    (List.map_id _)

theorem edgeTypes_map_element (hbuild : build options g s = .ok d) :
    d.edgeTypes.map (·.element) = d.elements.filter (·.isEdge) := by
  obtain ⟨-, _, _, elements, _, edges, _, -, -, -, -, hedges, -, rfl⟩ := build_eq_ok_iff.mp hbuild
  exact (map_eq_of_forall₂ (mapM_eq_ok.mp hedges) fun _ _ ↦ EdgeType.ofElement_eq_ok).trans
    (List.map_id _)

end Diagram

end DiagramForge
