import DiagramForge.Proofs.Diagram.Redeclaration
import Mathlib.Order.Bounds.Basic
import Mathlib.Order.Lattice.Nat

/-!
# Ancestry

The ancestors of the interfaces of a grammar, as diagrams have them: what an interface inherits
from, each interface once, by distance, and never the interface itself. `ancestry_orderly` puts
together what the search for the ancestors of one interface gives, and what the table says of all
interfaces at once.

## Termination

The search is defined for every grammar, and what it yields is ordered even if interfaces inherit
from each other in a circle. Why it ends there as well is seen in its rounds. Each takes one name
from the queue, and names are put there for an interface only when it is found, which happens once.
So the rounds are counted by what the interface and its ancestors extend.
-/

namespace DiagramForge

namespace Grammar

variable {g : Grammar}

/-! ## Distance -/

/-- The number of steps on the shortest way from an interface to one it inherits from. -/
noncomputable def distance (g : Grammar) (a b : String) : Nat :=
  sInf {n | ∃ k, n = k + 1 ∧ g.Above k a b}

theorem isLeast_distance {a b : String} (h : Relation.TransGen g.Extends a b) :
    IsLeast {n | ∃ k, n = k + 1 ∧ g.Above k a b} (g.distance a b) := by
  obtain ⟨k, hk⟩ := exists_above_iff.mpr h
  exact ⟨Nat.sInf_mem ⟨k + 1, k, rfl, hk⟩, fun _ hn ↦ Nat.sInf_le hn⟩

theorem NoFarther.distance_le {root a b : String} (h : g.NoFarther root a b)
    (hb : Relation.TransGen g.Extends root b) : g.distance root a ≤ g.distance root b := by
  obtain ⟨⟨k, hk, habove⟩, -⟩ := isLeast_distance hb
  obtain ⟨j, hj, habove'⟩ := h k habove
  have hle : g.distance root a ≤ j + 1 := Nat.sInf_le ⟨j, rfl, habove'⟩
  rw [hk]
  exact hle.trans (Nat.succ_le_succ hj)

/-! ## Rounds of the search -/

/-- One round of the search for ancestors: the names found and the queue after the first name of the
queue has been dealt with. -/
def searchRound (g : Grammar) : List String × List String → List String × List String
  | (found, []) => (found, [])
  | (found, name :: queue) =>
    if found.contains name then (found, queue) else (found ++ [name], queue ++ g.supers name)

/-- The search empties the queue in as many rounds as there are names in it, those included that it
puts there. -/
theorem searchRound_iterate (found queue : List String) :
    ∃ new, g.ancestorsFrom found queue = found ++ new ∧
      g.searchRound^[queue.length + (new.flatMap g.supers).length] (found, queue) =
        (found ++ new, []) := by
  induction found, queue using ancestorsFrom.induct g with
  | case1 found =>
    refine ⟨[], ?_, ?_⟩
    · rw [ancestorsFrom, List.append_nil]
    · rw [List.append_nil]
      rfl
  | case2 found name queue hname ih =>
    obtain ⟨new, hfrom, hrounds⟩ := ih
    refine ⟨new, ?_, ?_⟩
    · rw [ancestorsFrom, if_pos hname, hfrom]
    · rw [List.length_cons, Nat.add_right_comm, Function.iterate_succ_apply, searchRound,
        if_pos hname, hrounds]
  | case3 found name queue hname ih =>
    obtain ⟨new, hfrom, hrounds⟩ := ih
    rw [List.append_assoc, List.singleton_append] at hfrom hrounds
    refine ⟨name :: new, ?_, ?_⟩
    · rw [ancestorsFrom, if_neg hname, hfrom]
    · rw [List.length_append, Nat.add_assoc] at hrounds
      rw [List.length_cons, List.flatMap_cons, List.length_append, Nat.add_right_comm,
        Function.iterate_succ_apply, searchRound, if_neg hname, hrounds]

/-! ## The ancestors of all interfaces -/

/-- What an interface inherits from is declared, if all supertypes are. -/
theorem mem_interfaceNames_of_inherits
    (hdeclared : ∀ i ∈ g.interfaces, ∀ s ∈ i.superTypes, s ∈ g.interfaceNames) {a b : String}
    (h : Relation.TransGen g.Extends a b) : b ∈ g.interfaceNames := by
  obtain ⟨c, -, hcb⟩ := Relation.TransGen.tail'_iff.mp h
  rw [Extends, supers, superTypesOf?] at hcb
  cases hlast : g.lastInterface? c with
  | none =>
    rw [hlast] at hcb
    exact absurd hcb List.not_mem_nil
  | some i =>
    rw [hlast] at hcb
    exact hdeclared i (lastInterface?_eq_some hlast).1 b hcb

/-- Only interfaces have ancestors. -/
theorem mem_ancestry_of_iff {a b : String} :
    b ∈ g.ancestry.of a ↔ Relation.TransGen g.Extends a b := by
  by_cases ha : a ∈ g.interfaceNames
  · rw [ancestry_of ha, mem_ancestors_iff]
  · have hnone : g.ancestry.of a = [] := by
      rw [Ancestry.of, ancestry, Entries.get?_ofList, Entries.get?_eq_none]
      · rfl
      · simpa [List.map_map, Function.comp_def] using ha
    rw [hnone]
    exact ⟨fun h ↦ absurd h List.not_mem_nil, fun h ↦ absurd (mem_interfaceNames_of_transGen h) ha⟩

end Grammar

/-- A diagram has the ancestors that its grammar gives. -/
theorem Diagram.ancestry_build {options : BuildOptions} {g : Grammar} {s : Setting} {d : Diagram}
    (hbuild : build options g s = .ok d) :
    d.ancestry = g.ancestry ∧ ∀ e ∈ d.elements, e.ancestors = g.ancestry.of e.name := by
  obtain ⟨-, _, _, elements, _, _, _, -, -, helements, -, -, -, rfl⟩ := build_eq_ok_iff.mp hbuild
  refine ⟨rfl, fun e he ↦ ?_⟩
  obtain ⟨i, -, hei⟩ := Outcome.exists_of_mem_mapM helements he
  exact (Element.ofInterface_eq_ok hei).2.1

namespace Grammar

/-- **The ancestors of interfaces.** Every diagram of a grammar has the ancestors in the table, and
for each interface the search for them ends, whatever the grammar. If supertypes are declared and no
interface inherits from itself, the table lists for each interface the interfaces that it inherits
from and no others, each once, by distance, and inheriting is transitive and irreflexive in it. -/
theorem ancestry_orderly (g : Grammar) :
    (∀ options s d, Diagram.build options g s = .ok d →
      d.ancestry = g.ancestry ∧ ∀ e ∈ d.elements, e.ancestors = g.ancestry.of e.name) ∧
    (∀ name ∈ g.interfaceNames, g.searchRound^[(g.supers name).length +
        ((g.ancestry.of name).flatMap g.supers).length] ([], g.supers name) =
      (g.ancestry.of name, [])) ∧
    ((∀ i ∈ g.interfaces, ∀ s ∈ i.superTypes, s ∈ g.interfaceNames) → g.Acyclic →
      (∀ name ∈ g.interfaceNames,
        (∀ a, a ∈ g.ancestry.of name ↔ Relation.TransGen g.Extends name a) ∧
        (g.ancestry.of name).Nodup ∧ name ∉ g.ancestry.of name ∧
        g.ancestry.of name ⊆ g.interfaceNames ∧
        (∀ a ∈ g.ancestry.of name,
          IsLeast {n | ∃ k, n = k + 1 ∧ g.Above k name a} (g.distance name a)) ∧
        ((g.ancestry.of name).map (g.distance name)).Pairwise (· ≤ ·)) ∧
      (∀ a b c, b ∈ g.ancestry.of a → c ∈ g.ancestry.of b → c ∈ g.ancestry.of a) ∧
      ∀ a, a ∉ g.ancestry.of a) := by
  refine ⟨fun options s d hbuild ↦ Diagram.ancestry_build hbuild, fun name hname ↦ ?_,
    fun hdeclared hacyclic ↦ ⟨fun name hname ↦ ⟨?_, ?_, ?_, ?_, ?_, ?_⟩, ?_, ?_⟩⟩
  · obtain ⟨new, hfrom, hrounds⟩ := searchRound_iterate (g := g) [] (g.supers name)
    rw [List.nil_append] at hfrom hrounds
    rwa [ancestry_of hname, ancestors, hfrom]
  · exact fun a ↦ mem_ancestry_of_iff
  · rw [ancestry_of hname]
    exact nodup_ancestors g name
  · exact fun h ↦ hacyclic name (mem_ancestry_of_iff.mp h)
  · exact fun a ha ↦ mem_interfaceNames_of_inherits hdeclared (mem_ancestry_of_iff.mp ha)
  · exact fun a ha ↦ isLeast_distance (mem_ancestry_of_iff.mp ha)
  · rw [ancestry_of hname, List.pairwise_map]
    refine (pairwise_ancestors g name).imp_of_mem fun _ hb h ↦ ?_
    exact h.distance_le (mem_ancestors_iff.mp hb)
  · intro a b c hb hc
    exact mem_ancestry_of_iff.mpr ((mem_ancestry_of_iff.mp hb).trans (mem_ancestry_of_iff.mp hc))
  · exact fun a h ↦ hacyclic a (mem_ancestry_of_iff.mp h)

/-- A leaf extends two interfaces and the root that both of them extend. -/
def kite : Grammar where
  interfaces := [
    { name := "Root" },
    { name := "Left", superTypes := ["Root"] },
    { name := "Right", superTypes := ["Root"] },
    { name := "Leaf", superTypes := ["Left", "Right", "Root"] }]

theorem ancestry_of_kite : kite.ancestry.of "Leaf" = ["Left", "Right", "Root"] := by
  have hleaf : kite.supers "Leaf" = ["Left", "Right", "Root"] := rfl
  have hleft : kite.supers "Left" = ["Root"] := rfl
  have hright : kite.supers "Right" = ["Root"] := rfl
  have hroot : kite.supers "Root" = [] := rfl
  rw [ancestry_of (by decide)]
  simp [ancestors, ancestorsFrom, hleaf, hleft, hright, hroot]

/-- The root is one step away from the leaf, although two of its ways there are longer. -/
theorem ancestry_orderly_kite :
    (∀ i ∈ kite.interfaces, ∀ s ∈ i.superTypes, s ∈ kite.interfaceNames) ∧ kite.Acyclic ∧
      kite.searchRound^[6] ([], kite.supers "Leaf") = (["Left", "Right", "Root"], []) ∧
      (∀ a, a ∈ kite.ancestry.of "Leaf" ↔ Relation.TransGen kite.Extends "Leaf" a) ∧
      (kite.ancestry.of "Leaf").Nodup ∧ "Leaf" ∉ kite.ancestry.of "Leaf" ∧
      kite.ancestry.of "Leaf" ⊆ kite.interfaceNames ∧
      (∀ a ∈ kite.ancestry.of "Leaf",
        IsLeast {n | ∃ k, n = k + 1 ∧ kite.Above k "Leaf" a} (kite.distance "Leaf" a)) ∧
      ((kite.ancestry.of "Leaf").map (kite.distance "Leaf")).Pairwise (· ≤ ·) := by
  have hdeclared : ∀ i ∈ kite.interfaces, ∀ s ∈ i.superTypes, s ∈ kite.interfaceNames := by
    decide
  have hacyclic : kite.Acyclic := acyclic_of_inheritanceCycles_eq_nil (by decide +kernel)
  obtain ⟨-, hrounds, horder⟩ := ancestry_orderly kite
  have hleaf := hrounds "Leaf" (by decide)
  rw [ancestry_of_kite] at hleaf
  exact ⟨hdeclared, hacyclic, hleaf, (horder hdeclared hacyclic).1 "Leaf" (by decide)⟩

end Grammar

end DiagramForge
