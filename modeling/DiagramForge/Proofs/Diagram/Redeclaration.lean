import DiagramForge.Proofs.Diagram.Buildable
import DiagramForge.Proofs.Entries
import DiagramForge.Proofs.Grammar.Ancestors

/-!
# Which declaration of a property counts

An element has one property of each name that its interface or one of its ancestors declares. If
several declare it, the first of them counts, the interface itself standing before its ancestors:
`filter_gatherProperties`.

## Redeclarations

Ancestors are listed by distance, and a supertype may be no farther than its subtype. Then the
declaration in the supertype counts, although the subtype redeclares the property:
`Diagram.declaredIn_supertype_iff` says exactly when. It takes a shortcut, an interface that
extends the supertype beside something that extends it as well.
-/

namespace DiagramForge

open Grammar (StructuralFault)
open Outcome

/-! ## What an interface declares -/

namespace Grammar

variable {g : Grammar} {own : OwnProperties}

/-- The last declaration of an interface has a property of a name. -/
def Declares (g : Grammar) (interface name : String) : Prop :=
  ∃ i, g.lastInterface? interface = some i ∧ name ∈ i.properties.map (·.name)

theorem resolve_eq_ok {i : Interface} {p : Property} {q : ResolvedProperty}
    (h : g.resolve i p = .ok q) : q.toProperty = p ∧ q.declaredIn = i.name := by
  rw [resolve] at h
  split at h
  · cases h
    exact ⟨rfl, rfl⟩
  · cases h

theorem mapM_resolve_eq_ok {i : Interface} {ps : List Property} {qs : List ResolvedProperty}
    (h : ps.mapM (g.resolve i) = .ok qs) :
    qs.map (·.name) = ps.map (·.name) ∧ ∀ q ∈ qs, q.declaredIn = i.name := by
  rw [mapM_eq_ok] at h
  induction h with
  | nil => exact ⟨rfl, nofun⟩
  | cons hpq _ ih =>
    obtain ⟨rfl, hdeclared⟩ := resolve_eq_ok hpq
    refine ⟨?_, List.forall_mem_cons.mpr ⟨hdeclared, ih.2⟩⟩
    rw [List.map_cons, List.map_cons, ih.1]

/-- A table with one entry for each interface answers as the list of interfaces does. -/
theorem get?_of_forall₂ {r : Interface → List ResolvedProperty → Prop} {is : List Interface}
    {es : OwnProperties} (h : List.Forall₂ (fun i e ↦ e.1 = i.name ∧ r i e.2) is es)
    (name : String) :
    (is.find? (fun i ↦ i.name == name) = none ∧ Entries.get? es name = none) ∨
      ∃ i qs, is.find? (fun i ↦ i.name == name) = some i ∧ Entries.get? es name = some qs ∧
        r i qs := by
  induction h with
  | nil => exact .inl ⟨rfl, rfl⟩
  | @cons i e is es hie _ ih =>
    rw [← List.singleton_append (l := es), Entries.get?_append, Entries.get?_singleton, hie.1,
      List.find?_cons]
    by_cases hname : (i.name == name) = true
    · rw [hname]
      exact .inr ⟨i, e.2, rfl, rfl, hie.2⟩
    · rw [if_neg hname, Bool.eq_false_iff.mpr hname]
      exact ih

/-- The properties of a name are resolved from the last declaration of the name, if there is one. -/
theorem ownProperties_cases (hown : g.ownProperties = .ok own) (c : String) :
    (g.lastInterface? c = none ∧ own.of c = []) ∨
      ∃ i, g.lastInterface? c = some i ∧ i.properties.mapM (g.resolve i) = .ok (own.of c) := by
  obtain ⟨es, hes, rfl⟩ := ownProperties_eq_ok.mp hown
  -- of a repeated name the last entry counts, which is the first one from the end
  have hanswer := get?_of_forall₂ (r := fun i qs ↦ i.properties.mapM (g.resolve i) = .ok qs)
    (List.forall₂_reverse_iff.mpr hes) c
  rw [OwnProperties.of, Entries.get?_ofList, lastInterface?, List.findRev?_eq_find?_reverse]
  rcases hanswer with ⟨hnone, hget⟩ | ⟨i, qs, hsome, hget, hqs⟩
  · rw [hget, hnone]
    exact .inl ⟨rfl, rfl⟩
  · rw [hget, hsome]
    exact .inr ⟨i, rfl, hqs⟩

/-- What an interface declares, in terms of its last declaration. -/
theorem of_ownProperties (hown : g.ownProperties = .ok own) (c : String) :
    (∀ q ∈ own.of c, q.declaredIn = c) ∧
      ∀ name, name ∈ (own.of c).map (·.name) ↔ g.Declares c name := by
  unfold Declares
  rcases ownProperties_cases hown c with ⟨hnone, hnil⟩ | ⟨i, hlast, hqs⟩
  · rw [hnil, hnone]
    refine ⟨fun q hq ↦ absurd hq List.not_mem_nil, fun n ↦ ⟨fun h ↦ absurd h List.not_mem_nil, ?_⟩⟩
    rintro ⟨i, hi, -⟩
    cases hi
  · obtain ⟨hnames, hdeclared⟩ := mapM_resolve_eq_ok hqs
    obtain ⟨-, rfl⟩ := lastInterface?_eq_some hlast
    rw [hnames, hlast]
    refine ⟨hdeclared, fun n ↦ ⟨fun h ↦ ⟨i, rfl, h⟩, ?_⟩⟩
    rintro ⟨_, heq, h⟩
    cases heq
    exact h

end Grammar

/-! ## Gathering properties -/

/-- The table that properties are merged by. -/
theorem get?_ofList_properties (ps : List ResolvedProperty) (name : String) :
    Entries.get? (Entries.ofList (ps.map fun q ↦ (q.name, q))) name =
      ps.reverse.find? fun q ↦ q.name == name := by
  rw [Entries.get?_ofList, ← List.map_reverse, Entries.get?, List.find?_map, Option.map_map]
  exact congrFun Option.map_id _

/-- Of the properties of a name the last one is kept. -/
theorem filter_mergeProperties {ps : List ResolvedProperty} {name : String} {p : ResolvedProperty}
    (h : ps.reverse.find? (fun q ↦ q.name == name) = some p) :
    ((mergeProperties ps).filter fun q ↦ q.name == name) = [p] := by
  have hkeys : ∀ e ∈ Entries.ofList (ps.map fun q ↦ (q.name, q)),
      (e.2.name == name) = (e.1 == name) := by
    intro e he
    obtain ⟨q, -, rfl⟩ := List.mem_map.mp (Entries.mem_of_mem_ofList he)
    rfl
  have hget : Entries.get? (Entries.ofList (ps.map fun q ↦ (q.name, q))) name = some p :=
    (get?_ofList_properties ps name).trans h
  rw [mergeProperties, List.filter_map]
  refine (congrArg (·.map (·.2)) (List.filter_congr hkeys)).trans ?_
  rw [Entries.filter_eq_singleton (Entries.nodup_ofList _) hget]
  rfl

/-- The first declaration counts, the interface standing before its ancestors. -/
theorem filter_gatherProperties {g : Grammar} {own : OwnProperties}
    (hown : g.ownProperties = .ok own) {ancestors nearer farther : List String}
    {name first property : String} (hfirst : name :: ancestors = nearer ++ first :: farther)
    (hdeclares : g.Declares first property) (hnearer : ∀ c ∈ nearer, ¬ g.Declares c property) :
    ∃ p, ((gatherProperties own ancestors name).filter fun q ↦ q.name == property) = [p] ∧
      p.declaredIn = first := by
  obtain ⟨hdeclaredIn, hnames⟩ := Grammar.of_ownProperties hown first
  have hfind : ∃ p, (own.of first).reverse.find? (fun q ↦ q.name == property) = some p := by
    obtain ⟨q, hq, hname⟩ := List.mem_map.mp ((hnames property).mpr hdeclares)
    refine Option.isSome_iff_exists.mp (List.find?_isSome.mpr ?_)
    exact ⟨q, List.mem_reverse.mpr hq, beq_iff_eq.mpr hname⟩
  obtain ⟨p, hp⟩ := hfind
  have hmem : p ∈ own.of first := List.mem_reverse.mp (List.mem_of_find?_eq_some hp)
  refine ⟨p, filter_mergeProperties ?_, hdeclaredIn p hmem⟩
  -- from the end, the properties are those of the interface and then of its ancestors in order
  rw [List.reverse_flatMap, List.reverse_append, List.reverse_singleton, List.reverse_reverse,
    List.singleton_append, List.find?_flatMap, List.findSome?_eq_some_iff]
  refine ⟨nearer, first, farther, hfirst, hp, fun c hc ↦ ?_⟩
  have hnone := (Grammar.of_ownProperties hown c).2 property
  refine List.find?_eq_none.mpr fun q hq hname ↦ hnearer c hc (hnone.mp ?_)
  exact List.mem_map.mpr ⟨q, List.mem_reverse.mp hq, eq_of_beq hname⟩

/-! ## Elements -/

theorem Grammar.ancestry_of {g : Grammar} {name : String} (h : name ∈ g.interfaceNames) :
    g.ancestry.of name = g.ancestors name := by
  rw [Ancestry.of, ancestry, Entries.get?_ofList, ← List.map_reverse,
    Entries.get?_map_of_mem _ (List.mem_reverse.mpr h), Option.getD_some]

/-- Where an element has its properties from. -/
theorem Element.ofInterface_eq_ok {requests : Requests} {a : Ancestry} {own : OwnProperties}
    {i : Interface} {e : Element} (h : ofInterface requests a own i = .ok e) :
    e.name = i.name ∧ e.ancestors = a.of e.name ∧
      e.allProperties = gatherProperties own e.ancestors e.name := by
  obtain ⟨kind, -, h⟩ := bind_eq_ok.mp h
  cases h
  exact ⟨rfl, rfl, rfl⟩

namespace Diagram

variable {options : BuildOptions} {g : Grammar} {s : Setting} {d : Diagram}

/-- The properties of an element are gathered along its ancestors. -/
theorem of_mem_elements (hbuild : build options g s = .ok d) {e : Element}
    (he : e ∈ d.elements) : e.ancestors = g.ancestors e.name ∧
      ∃ own, g.ownProperties = .ok own ∧
        e.allProperties = gatherProperties own e.ancestors e.name := by
  obtain ⟨-, own, requests, hown, -, helements⟩ := build_eq_ok hbuild
  obtain ⟨i, hi, hei⟩ := exists_of_mem_mapM helements he
  obtain ⟨hname, hancestors, hproperties⟩ := Element.ofInterface_eq_ok hei
  refine ⟨?_, own, hown, hproperties⟩
  rw [hancestors, Grammar.ancestry_of (by rw [hname]; exact List.mem_map_of_mem hi)]

/-- Every interface has an element. -/
theorem exists_element (hbuild : build options g s = .ok d) {name : String}
    (hname : name ∈ g.interfaceNames) : ∃ e ∈ d.elements, e.name = name := by
  obtain ⟨-, own, requests, -, -, helements⟩ := build_eq_ok hbuild
  obtain ⟨i, hi, rfl⟩ := List.mem_map.mp hname
  obtain ⟨e, he, hei⟩ := exists_mem_of_mapM helements hi
  exact ⟨e, he, (Element.ofInterface_eq_ok hei).1⟩

/-- An element has one property of a name that is declared, as it is declared first. -/
theorem filter_allProperties (hbuild : build options g s = .ok d) {e : Element}
    (he : e ∈ d.elements) {nearer farther : List String} {first property : String}
    (hfirst : e.name :: e.ancestors = nearer ++ first :: farther)
    (hdeclares : g.Declares first property) (hnearer : ∀ c ∈ nearer, ¬ g.Declares c property) :
    ∃ p, (e.allProperties.filter fun q ↦ q.name == property) = [p] ∧ p.declaredIn = first := by
  obtain ⟨-, own, hown, hproperties⟩ := of_mem_elements hbuild he
  rw [hproperties]
  exact filter_gatherProperties hown hfirst hdeclares hnearer

end Diagram

/-! ## Redeclarations -/

theorem exists_first {α : Type} {p : α → Prop} {l : List α} (h : ∃ a ∈ l, p a) :
    ∃ before a after, l = before ++ a :: after ∧ p a ∧ ∀ b ∈ before, ¬ p b := by
  induction l with
  | nil => exact absurd h (by rintro ⟨a, ha, -⟩; exact List.not_mem_nil ha)
  | cons b l ih =>
    by_cases hb : p b
    · exact ⟨[], b, l, rfl, hb, nofun⟩
    · obtain ⟨a, ha, hpa⟩ := h
      have hmem : a ∈ l := (List.mem_cons.mp ha).resolve_left fun heq ↦ hb (heq ▸ hpa)
      obtain ⟨before, c, after, rfl, hc, hbefore⟩ := ih ⟨a, hmem, hpa⟩
      exact ⟨b :: before, c, after, rfl, hc, List.forall_mem_cons.mpr ⟨hb, hbefore⟩⟩

namespace Diagram

variable {options : BuildOptions} {g : Grammar} {s : Setting} {d : Diagram} {e : Element}
  {a b property : String}

/-- If the declaration in a supertype counts, the ancestors list the supertype before the subtype,
and before everything else that declares the property. -/
theorem exists_of_declaredIn (hbuild : build options g s = .ok d) (he : e ∈ d.elements)
    (ha : Relation.TransGen g.Extends e.name a) (hab : Relation.TransGen g.Extends a b)
    (hna : g.Declares a property) (hacyclic : g.Acyclic) {nearer farther : List String}
    (hfirst : e.name :: e.ancestors = nearer ++ b :: farther)
    (hnearer : ∀ c ∈ nearer, ¬ g.Declares c property) :
    ¬ g.Declares e.name property ∧ ∃ nearer between farther,
      e.ancestors = nearer ++ b :: (between ++ a :: farther) ∧
        ∀ c ∈ nearer, ¬ g.Declares c property := by
  have hmem : a ∈ e.ancestors := by
    rw [(of_mem_elements hbuild he).1]
    exact Grammar.mem_ancestors_iff.mpr ha
  cases nearer with
  | nil =>
    obtain ⟨hname, -⟩ := List.cons.inj hfirst
    rw [hname] at ha
    exact absurd (ha.trans hab) (hacyclic b)
  | cons c nearer =>
    rw [List.cons_append] at hfirst
    obtain ⟨hname, hancestors⟩ := List.cons.inj hfirst
    obtain ⟨hc, hnearer⟩ := List.forall_mem_cons.mp hnearer
    rw [hancestors, List.mem_append, List.mem_cons] at hmem
    have hfarther : a ∈ farther := by
      rcases hmem with hmem | rfl | hmem
      · exact absurd hna (hnearer a hmem)
      · exact absurd hab (hacyclic a)
      · exact hmem
    obtain ⟨between, farther, rfl⟩ := List.append_of_mem hfarther
    exact ⟨hname ▸ hc, nearer, between, farther, hancestors, hnearer⟩

/-- **When a redeclaration is hidden.** A subtype `a` of `b` redeclares a property of `b`. An
element that inherits from both has one property of the name, and it is the one declared in `b`
exactly if the element's own interface does not declare it, the ancestors list `b` before `a`, and
none before `b` declares it. Then `b` is no farther from the element than `a`. -/
theorem declaredIn_supertype_iff (hbuild : build options g s = .ok d) (he : e ∈ d.elements)
    (ha : Relation.TransGen g.Extends e.name a) (hab : Relation.TransGen g.Extends a b)
    (hna : g.Declares a property) (hnb : g.Declares b property) :
    ∃ p, (e.allProperties.filter fun q ↦ q.name == property) = [p] ∧
      (p.declaredIn = b ↔ ¬ g.Declares e.name property ∧ ∃ nearer between farther,
        e.ancestors = nearer ++ b :: (between ++ a :: farther) ∧
          ∀ c ∈ nearer, ¬ g.Declares c property) ∧
      (p.declaredIn = b → g.NoFarther e.name b a) := by
  have hcycles := (Grammar.checkInheritance_eq_ok.mp (build_eq_ok hbuild).1).2
  have hacyclic := Grammar.acyclic_of_inheritanceCycles_eq_nil hcycles
  have hancestors := (of_mem_elements hbuild he).1
  have hb : b ∈ e.name :: e.ancestors := by
    rw [hancestors]
    exact List.mem_cons_of_mem _ (Grammar.mem_ancestors_iff.mpr (ha.trans hab))
  obtain ⟨nearer, first, farther, hfirst, hdeclares, hnearer⟩ :=
    exists_first (p := fun c ↦ g.Declares c property) ⟨b, hb, hnb⟩
  obtain ⟨p, hp, rfl⟩ := filter_allProperties hbuild he hfirst hdeclares hnearer
  have hlisted : p.declaredIn = b → ¬ g.Declares e.name property ∧ ∃ nearer between farther,
      e.ancestors = nearer ++ b :: (between ++ a :: farther) ∧
        ∀ c ∈ nearer, ¬ g.Declares c property := by
    rintro rfl
    exact exists_of_declaredIn hbuild he ha hab hna hacyclic hfirst hnearer
  refine ⟨p, hp, ⟨hlisted, ?_⟩, fun h ↦ ?_⟩
  · rintro ⟨hname, nearer, between, farther, hlist, hnearer⟩
    have hfirst : e.name :: e.ancestors = (e.name :: nearer) ++ b :: (between ++ a :: farther) := by
      rw [hlist, List.cons_append]
    obtain ⟨q, hq, hqb⟩ := filter_allProperties hbuild he hfirst hnb
      (List.forall_mem_cons.mpr ⟨hname, hnearer⟩)
    rw [hp] at hq
    cases hq
    exact hqb
  · obtain ⟨-, nearer, between, farther, hlist, -⟩ := hlisted h
    have hordered := Grammar.pairwise_ancestors g e.name
    rw [← hancestors, hlist, List.pairwise_append, List.pairwise_cons] at hordered
    exact hordered.2.1.1 a (List.mem_append_right _ List.mem_cons_self)

end Diagram

/-- A box that extends a base and a shape, which extends the base and redeclares its label. -/
def Grammar.shortcut : Grammar where
  interfaces := [
    { name := "Base", properties := [{ name := "label", type := "string" }] },
    { name := "Shape", superTypes := ["Base"],
      properties := [{ name := "label", type := "number" }] },
    { name := "Box", superTypes := ["Base", "Shape"] }]

theorem Grammar.declares_shortcut :
    shortcut.Declares "Base" "label" ∧ shortcut.Declares "Shape" "label" ∧
      ¬ shortcut.Declares "Box" "label" := by
  refine ⟨⟨_, rfl, by decide⟩, ⟨_, rfl, by decide⟩, ?_⟩
  rintro ⟨i, hi, hlabel⟩
  cases hi
  exact absurd hlabel (by decide)

theorem Grammar.extends_shortcut :
    shortcut.Extends "Box" "Shape" ∧ shortcut.Extends "Shape" "Base" ∧
      shortcut.ancestors "Box" = ["Base", "Shape"] := by
  have hbox : shortcut.supers "Box" = ["Base", "Shape"] := rfl
  have hshape : shortcut.supers "Shape" = ["Base"] := rfl
  have hbase : shortcut.supers "Base" = [] := rfl
  refine ⟨?_, ?_, ?_⟩
  · rw [Extends, hbox]
    decide
  · rw [Extends, hshape]
    decide
  · simp [ancestors, ancestorsFrom, hbox, hshape, hbase]

theorem Diagram.exists_build_shortcut :
    ∃ d, build {} .shortcut (Config.settings {}) = .ok d :=
  exists_build_of_valid (by decide +kernel) (by decide) {}

/-- The redeclaration in the shape is hidden from the box, by the declaration that it replaces. -/
theorem Diagram.shortcut_hides_redeclaration :
    Grammar.shortcut.validate.ok = true ∧
      ∃ d, build {} .shortcut (Config.settings {}) = .ok d ∧
      ∃ e ∈ d.elements, Relation.TransGen Grammar.shortcut.Extends e.name "Shape" ∧
        Relation.TransGen Grammar.shortcut.Extends "Shape" "Base" ∧
        Grammar.shortcut.Declares "Shape" "label" ∧ Grammar.shortcut.Declares "Base" "label" ∧
        ∃ p, (e.allProperties.filter fun q ↦ q.name == "label") = [p] ∧
          p.declaredIn = "Base" := by
  obtain ⟨hbase, hshape, hbox⟩ := Grammar.declares_shortcut
  obtain ⟨hboxShape, hshapeBase, hancestors⟩ := Grammar.extends_shortcut
  obtain ⟨d, hd⟩ := exists_build_shortcut
  obtain ⟨e, he, hname⟩ := exists_element hd (by decide : "Box" ∈ Grammar.shortcut.interfaceNames)
  have hfirst : e.name :: e.ancestors = ["Box"] ++ "Base" :: ["Shape"] := by
    rw [(of_mem_elements hd he).1, hname, hancestors]
    rfl
  have hnearer : ∀ c ∈ ["Box"], ¬ Grammar.shortcut.Declares c "label" := by
    intro c hc
    rwa [List.mem_singleton.mp hc]
  refine ⟨by decide +kernel, d, hd, e, he, ?_, .single hshapeBase, hshape, hbase,
    filter_allProperties hd he hfirst hbase hnearer⟩
  rw [hname]
  exact .single hboxShape

/-- In the same grammar the ancestors of the box list the base before the shape. -/
theorem Diagram.declaredIn_supertype_shortcut :
    ∃ d, build {} .shortcut (Config.settings {}) = .ok d ∧ ∃ e ∈ d.elements,
      Relation.TransGen Grammar.shortcut.Extends e.name "Shape" ∧
      Relation.TransGen Grammar.shortcut.Extends "Shape" "Base" ∧
      Grammar.shortcut.Declares "Shape" "label" ∧ Grammar.shortcut.Declares "Base" "label" ∧
      ∃ p, (e.allProperties.filter fun q ↦ q.name == "label") = [p] ∧
        (p.declaredIn = "Base" ↔ ¬ Grammar.shortcut.Declares e.name "label" ∧
          ∃ nearer between farther,
            e.ancestors = nearer ++ "Base" :: (between ++ "Shape" :: farther) ∧
              ∀ c ∈ nearer, ¬ Grammar.shortcut.Declares c "label") ∧
        (p.declaredIn = "Base" → Grammar.shortcut.NoFarther e.name "Base" "Shape") := by
  obtain ⟨hbase, hshape, -⟩ := Grammar.declares_shortcut
  obtain ⟨hboxShape, hshapeBase, -⟩ := Grammar.extends_shortcut
  obtain ⟨d, hd⟩ := exists_build_shortcut
  obtain ⟨e, he, hname⟩ := exists_element hd (by decide : "Box" ∈ Grammar.shortcut.interfaceNames)
  have hbox : Relation.TransGen Grammar.shortcut.Extends e.name "Shape" := by
    rw [hname]
    exact .single hboxShape
  exact ⟨d, hd, e, he, hbox, .single hshapeBase, hshape, hbase,
    declaredIn_supertype_iff hd he hbox (.single hshapeBase) hshape hbase⟩

end DiagramForge
