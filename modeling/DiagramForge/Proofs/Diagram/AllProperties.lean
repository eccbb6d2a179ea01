import DiagramForge.Proofs.Diagram.Ancestry
import DiagramForge.Proofs.Diagram.Elements

/-!
# All properties of an interface

An element has the properties that its interface declares and those that it inherits:
`allProperties_orderly` says which these are, for grammars whose interfaces have distinct names.

## Last declarations

Properties are merged from the farthest ancestor on, and a name keeps its last declaration. Read
from the end, a property is therefore the first that is found along the interface and its ancestors:
`mem_gatherProperties_iff`. Everything about all properties follows from this equivalence, in which
the places of properties play no part.
-/

namespace DiagramForge

open Grammar (StructuralFault)
open Outcome

/-! ## Merging -/

section

variable {ps : List ResolvedProperty}

theorem map_name_mergeProperties (ps : List ResolvedProperty) :
    (mergeProperties ps).map (·.name) =
      (Entries.ofList (ps.map fun q ↦ (q.name, q))).map Prod.fst := by
  rw [mergeProperties, List.map_map]
  refine List.map_congr_left fun e he ↦ ?_
  obtain ⟨q, -, rfl⟩ := List.mem_map.mp (Entries.mem_of_mem_ofList he)
  rfl

theorem nodup_mergeProperties (ps : List ResolvedProperty) :
    ((mergeProperties ps).map (·.name)).Nodup := by
  rw [map_name_mergeProperties]
  exact Entries.nodup_ofList _

/-- What is merged is the last property of its name. -/
theorem mem_mergeProperties_iff {p : ResolvedProperty} :
    p ∈ mergeProperties ps ↔ ps.reverse.find? (fun q ↦ q.name == p.name) = some p := by
  rw [← get?_ofList_properties, mergeProperties, List.mem_map]
  constructor
  · rintro ⟨e, he, rfl⟩
    obtain ⟨q, -, rfl⟩ := List.mem_map.mp (Entries.mem_of_mem_ofList he)
    exact Entries.get?_of_mem (Entries.nodup_ofList _) he
  · exact fun h ↦ ⟨_, Entries.mem_of_get? h, rfl⟩

end

/-! ## Gathering -/

section

variable {own : OwnProperties} {ancestors : List String} {name : String}

/-- A property is the first of its name along the interface and its ancestors, the last declaration
of each of them being looked for first. -/
theorem mem_gatherProperties_iff {p : ResolvedProperty} :
    p ∈ gatherProperties own ancestors name ↔
      (name :: ancestors).findSome? (fun c ↦ (own.of c).findRev? fun q ↦ q.name == p.name) =
        some p := by
  rw [gatherProperties, mem_mergeProperties_iff, List.reverse_flatMap, List.reverse_append,
    List.reverse_singleton, List.reverse_reverse, List.singleton_append, List.find?_flatMap]
  simp only [List.findRev?_eq_find?_reverse]
  rfl

/-- A property is the last declaration of the interface that declares it. -/
theorem exists_of_mem_gatherProperties {p : ResolvedProperty}
    (hp : p ∈ gatherProperties own ancestors name) :
    ∃ c ∈ name :: ancestors, (own.of c).findRev? (fun q ↦ q.name == p.name) = some p := by
  obtain ⟨nearer, c, farther, hlist, hc, -⟩ :=
    List.findSome?_eq_some_iff.mp (mem_gatherProperties_iff.mp hp)
  exact ⟨c, hlist ▸ List.mem_append_right _ List.mem_cons_self, hc⟩

theorem isSome_findRev?_name {ps : List ResolvedProperty} {property : String} :
    (ps.findRev? fun q ↦ q.name == property).isSome ↔ property ∈ ps.map (·.name) := by
  rw [List.findRev?_eq_find?_reverse, List.find?_isSome]
  simp only [List.mem_reverse, List.mem_map, beq_iff_eq]

/-- The names of all properties are those that the interface and its ancestors declare. -/
theorem mem_map_name_gatherProperties {property : String} :
    property ∈ (gatherProperties own ancestors name).map (·.name) ↔
      ∃ c ∈ name :: ancestors, property ∈ (own.of c).map (·.name) := by
  constructor
  · intro h
    obtain ⟨p, hp, rfl⟩ := List.mem_map.mp h
    obtain ⟨c, hc, hfound⟩ := exists_of_mem_gatherProperties hp
    exact ⟨c, hc, isSome_findRev?_name.mp (Option.isSome_of_eq_some hfound)⟩
  · rintro ⟨c, hc, hproperty⟩
    obtain ⟨p, hp⟩ := Option.isSome_iff_exists.mp (List.findSome?_isSome_iff
      (f := fun c ↦ (own.of c).findRev? fun q ↦ q.name == property).mpr
      ⟨c, hc, isSome_findRev?_name.mpr hproperty⟩)
    obtain ⟨c', -, hc'⟩ := List.exists_of_findSome?_eq_some hp
    rw [List.findRev?_eq_find?_reverse] at hc'
    have hkey := List.find?_some hc'
    have hname : p.name = property := eq_of_beq hkey
    refine List.mem_map.mpr ⟨p, mem_gatherProperties_iff.mpr ?_, hname⟩
    rwa [hname]

/-- What an interface declares itself is what counts. -/
theorem findRev?_of_mem_gatherProperties {p : ResolvedProperty}
    (hp : p ∈ gatherProperties own ancestors name) (hown : p.name ∈ (own.of name).map (·.name)) :
    (own.of name).findRev? (fun q ↦ q.name == p.name) = some p := by
  obtain ⟨q, hq⟩ := Option.isSome_iff_exists.mp (isSome_findRev?_name.mpr hown)
  have hfirst := mem_gatherProperties_iff.mp hp
  rw [List.findSome?_cons, hq] at hfirst
  rw [hq, ← hfirst]

end

/-! ## Declarations -/

namespace Grammar

variable {g : Grammar} {own : OwnProperties}

/-- If names are distinct, the declaration of an interface is the last one of its name. -/
theorem lastInterface?_of_mem (hnames : g.interfaceNames.Nodup) {i : Interface}
    (hi : i ∈ g.interfaces) : g.lastInterface? i.name = some i := by
  have hkeys : (g.interfaces.reverse.map (·.name)).Nodup := by
    rw [List.map_reverse]
    exact List.nodup_reverse.mpr hnames
  rw [lastInterface?, List.findRev?_eq_find?_reverse, Entries.find?_key_eq_some_iff hkeys]
  exact ⟨List.mem_reverse.mpr hi, rfl⟩

/-- The properties that an interface declares are resolved one by one. -/
theorem forall₂_resolve (hown : g.ownProperties = .ok own) (hnames : g.interfaceNames.Nodup)
    {i : Interface} (hi : i ∈ g.interfaces) :
    List.Forall₂ (fun p q ↦ g.resolve i p = .ok q) i.properties (own.of i.name) := by
  have hlast := lastInterface?_of_mem hnames hi
  rcases ownProperties_cases hown i.name with ⟨hnone, -⟩ | ⟨j, hj, hqs⟩
  · rw [hlast] at hnone
    cases hnone
  · obtain rfl := Option.some.inj (hlast.symm.trans hj)
    exact mapM_eq_ok.mp hqs

theorem find?_resolve {i : Interface} {ps : List Property} {qs : List ResolvedProperty}
    (h : List.Forall₂ (fun p q ↦ g.resolve i p = .ok q) ps qs) {name : String}
    {q : ResolvedProperty} (hq : qs.find? (fun q ↦ q.name == name) = some q) :
    ps.find? (fun p ↦ p.name == name) = some q.toProperty ∧ g.resolve i q.toProperty = .ok q := by
  induction h with
  | nil => cases hq
  | cons hpq _ ih =>
    obtain ⟨rfl, -⟩ := resolve_eq_ok hpq
    rw [List.find?_cons] at hq ⊢
    split at hq
    · cases hq
      exact ⟨rfl, hpq⟩
    · exact ih hq

/-- The last of the resolved properties of a name is resolved from the last declaration. -/
theorem findRev?_resolve {i : Interface} {ps : List Property} {qs : List ResolvedProperty}
    (h : List.Forall₂ (fun p q ↦ g.resolve i p = .ok q) ps qs) {name : String}
    {q : ResolvedProperty} (hq : qs.findRev? (fun q ↦ q.name == name) = some q) :
    ps.findRev? (fun p ↦ p.name == name) = some q.toProperty ∧
      g.resolve i q.toProperty = .ok q := by
  rw [List.findRev?_eq_find?_reverse] at hq ⊢
  exact find?_resolve (List.forall₂_reverse_iff.mpr h) hq

/-- Resolving keeps the names of properties. -/
theorem map_name_of_ownProperties (hown : g.ownProperties = .ok own)
    (hnames : g.interfaceNames.Nodup) {i : Interface} (hi : i ∈ g.interfaces) :
    (own.of i.name).map (·.name) = i.properties.map (·.name) :=
  (mapM_resolve_eq_ok (mapM_eq_ok.mpr (forall₂_resolve hown hnames hi))).1

end Grammar

/-! ## Elements -/

/-- The last declaration of a property in an interface. -/
def Interface.lastProperty? (i : Interface) (name : String) : Option Property :=
  i.properties.findRev? fun p ↦ p.name == name

/-- The last of the properties of a name that the interface of an element declares. -/
def Element.lastProperty? (e : Element) (name : String) : Option ResolvedProperty :=
  e.properties.findRev? fun p ↦ p.name == name

namespace Diagram

variable {options : BuildOptions} {g : Grammar} {s : Setting} {d : Diagram} {e : Element}

/-- An element has the properties that its interface declares, and gathers all properties from
these. -/
theorem exists_own (hbuild : build options g s = .ok d) :
    ∃ own, g.ownProperties = .ok own ∧ ∀ e ∈ d.elements, e.properties = own.of e.name ∧
      e.allProperties = gatherProperties own e.ancestors e.name := by
  obtain ⟨-, own, requests, hown, -, helements⟩ := build_eq_ok hbuild
  refine ⟨own, hown, fun e he ↦ ?_⟩
  obtain ⟨i, -, hei⟩ := exists_of_mem_mapM helements he
  obtain ⟨kind, -, hei⟩ := bind_eq_ok.mp hei
  cases hei
  exact ⟨rfl, rfl⟩

theorem mem_ancestors_iff (hbuild : build options g s = .ok d) (he : e ∈ d.elements) {a : String} :
    a ∈ e.ancestors ↔ Relation.TransGen g.Extends e.name a := by
  rw [(of_mem_elements hbuild he).1, Grammar.mem_ancestors_iff]

/-- What an element inherits from is an interface, as it is one itself. -/
theorem exists_interface (hbuild : build options g s = .ok d) (he : e ∈ d.elements) {c : String}
    (hc : c ∈ e.name :: e.ancestors) : ∃ i ∈ g.interfaces, i.name = c := by
  refine List.mem_map.mp (show c ∈ g.interfaceNames from ?_)
  rcases List.mem_cons.mp hc with rfl | hc
  · rw [← elements_map_name hbuild]
    exact List.mem_map_of_mem he
  · obtain ⟨hdeclared, -⟩ := Grammar.checkInheritance_eq_ok.mp (build_eq_ok hbuild).1
    exact Grammar.mem_interfaceNames_of_inherits hdeclared ((mem_ancestors_iff hbuild he).mp hc)

theorem mem_map_name_allProperties (hbuild : build options g s = .ok d)
    (hnames : g.interfaceNames.Nodup) (he : e ∈ d.elements) {property : String} :
    property ∈ e.allProperties.map (·.name) ↔ ∃ i ∈ g.interfaces,
      i.name ∈ e.name :: e.ancestors ∧ property ∈ i.properties.map (·.name) := by
  obtain ⟨own, hown, hproperties⟩ := exists_own hbuild
  rw [(hproperties e he).2, mem_map_name_gatherProperties]
  constructor
  · rintro ⟨c, hc, hproperty⟩
    obtain ⟨i, hi, rfl⟩ := exists_interface hbuild he hc
    exact ⟨i, hi, hc, Grammar.map_name_of_ownProperties hown hnames hi ▸ hproperty⟩
  · rintro ⟨i, hi, hc, hproperty⟩
    exact ⟨i.name, hc, Grammar.map_name_of_ownProperties hown hnames hi ▸ hproperty⟩

/-- A property is what the interface that it is declared in declares last. -/
theorem exists_of_mem_allProperties (hbuild : build options g s = .ok d)
    (hnames : g.interfaceNames.Nodup) (he : e ∈ d.elements) {p : ResolvedProperty}
    (hp : p ∈ e.allProperties) : p.declaredIn ∈ e.name :: e.ancestors ∧
      ∃ i ∈ g.interfaces, i.name = p.declaredIn ∧ i.lastProperty? p.name = some p.toProperty ∧
        g.resolve i p.toProperty = .ok p ∧
          ∃ a ∈ d.elements, a.name = p.declaredIn ∧ a.lastProperty? p.name = some p := by
  obtain ⟨own, hown, hproperties⟩ := exists_own hbuild
  rw [(hproperties e he).2] at hp
  obtain ⟨c, hc, hfound⟩ := exists_of_mem_gatherProperties hp
  obtain ⟨i, hi, rfl⟩ := exists_interface hbuild he hc
  obtain ⟨hlast, hresolve⟩ :=
    Grammar.findRev?_resolve (Grammar.forall₂_resolve hown hnames hi) hfound
  obtain ⟨-, hdeclaredIn⟩ := Grammar.resolve_eq_ok hresolve
  obtain ⟨a, ha, hname⟩ := exists_element hbuild (List.mem_map_of_mem hi)
  rw [hdeclaredIn]
  refine ⟨hc, i, hi, rfl, hlast, hresolve, a, ha, hname, ?_⟩
  rwa [Element.lastProperty?, (hproperties a ha).1, hname]

/-- What the interface of an element declares itself is declared there. -/
theorem declaredIn_of_mem_allProperties (hbuild : build options g s = .ok d)
    (hnames : g.interfaceNames.Nodup) (he : e ∈ d.elements) {i : Interface}
    (hi : i ∈ g.interfaces) (hname : i.name = e.name) {p : ResolvedProperty}
    (hp : p ∈ e.allProperties) (hproperty : p.name ∈ i.properties.map (·.name)) :
    p.declaredIn = e.name ∧ i.lastProperty? p.name = some p.toProperty := by
  obtain ⟨own, hown, hproperties⟩ := exists_own hbuild
  rw [(hproperties e he).2, ← hname] at hp
  rw [← Grammar.map_name_of_ownProperties hown hnames hi] at hproperty
  obtain ⟨hlast, hresolve⟩ := Grammar.findRev?_resolve (Grammar.forall₂_resolve hown hnames hi)
    (findRev?_of_mem_gatherProperties hp hproperty)
  exact ⟨(Grammar.resolve_eq_ok hresolve).2.trans hname, hlast⟩

/-- Nothing that an ancestor has is lost on the way down. -/
theorem map_name_allProperties_subset (hbuild : build options g s = .ok d)
    (hnames : g.interfaceNames.Nodup) (he : e ∈ d.elements) {a : Element} (ha : a ∈ d.elements)
    (hinherits : a.name ∈ e.ancestors) :
    a.allProperties.map (·.name) ⊆ e.allProperties.map (·.name) := by
  intro property hproperty
  obtain ⟨i, hi, hc, hdeclares⟩ := (mem_map_name_allProperties hbuild hnames ha).mp hproperty
  refine (mem_map_name_allProperties hbuild hnames he).mpr ⟨i, hi, ?_, hdeclares⟩
  refine List.mem_cons_of_mem _ ?_
  rcases List.mem_cons.mp hc with hc | hc
  · rwa [hc]
  · rw [mem_ancestors_iff hbuild he] at hinherits ⊢
    exact hinherits.trans ((mem_ancestors_iff hbuild ha).mp hc)

/-- **All properties of an interface.** They have one entry for each name that the interface or one
of its ancestors declares, and no other. What the interface declares itself counts as it is declared
there last, and every entry is the last declaration of the interface that it names. An interface has
all the names that its ancestors have. -/
theorem allProperties_orderly (hbuild : build options g s = .ok d)
    (hnames : g.interfaceNames.Nodup) :
    d.elements.map (·.name) = g.interfaceNames ∧ ∀ e ∈ d.elements,
      (∀ a, a ∈ e.ancestors ↔ Relation.TransGen g.Extends e.name a) ∧
      (e.allProperties.map (·.name)).Nodup ∧
      (∀ property, property ∈ e.allProperties.map (·.name) ↔ ∃ i ∈ g.interfaces,
        i.name ∈ e.name :: e.ancestors ∧ property ∈ i.properties.map (·.name)) ∧
      (∀ i ∈ g.interfaces, i.name = e.name → ∀ p ∈ e.allProperties,
        p.name ∈ i.properties.map (·.name) →
          p.declaredIn = e.name ∧ i.lastProperty? p.name = some p.toProperty) ∧
      (∀ p ∈ e.allProperties, p.declaredIn ∈ e.name :: e.ancestors ∧
        ∃ i ∈ g.interfaces, i.name = p.declaredIn ∧ i.lastProperty? p.name = some p.toProperty ∧
          g.resolve i p.toProperty = .ok p ∧
            ∃ a ∈ d.elements, a.name = p.declaredIn ∧ a.lastProperty? p.name = some p) ∧
      ∀ a ∈ d.elements, a.name ∈ e.ancestors →
        a.allProperties.map (·.name) ⊆ e.allProperties.map (·.name) := by
  refine ⟨elements_map_name hbuild, fun e he ↦ ⟨fun a ↦ mem_ancestors_iff hbuild he, ?_,
    fun property ↦ mem_map_name_allProperties hbuild hnames he, ?_, ?_, ?_⟩⟩
  · obtain ⟨own, -, hproperties⟩ := exists_own hbuild
    rw [(hproperties e he).2]
    exact nodup_mergeProperties _
  · exact fun i hi hname p hp ↦ declaredIn_of_mem_allProperties hbuild hnames he hi hname hp
  · exact fun p hp ↦ exists_of_mem_allProperties hbuild hnames he hp
  · exact fun a ha ↦ map_name_allProperties_subset hbuild hnames he ha

end Diagram

/-- A box inherits a label on two ways and declares its size twice. -/
def Grammar.crate : Grammar where
  interfaces := [
    { name := "Named", properties := [{ name := "label", type := "string" }] },
    { name := "Shape", superTypes := ["Named"],
      properties := [{ name := "label", type := "number" }, { name := "size", type := "number" }] },
    { name := "Tagged", superTypes := ["Named"], properties := [{ name := "tag", type := "Named" }] },
    { name := "Box", superTypes := ["Tagged", "Shape"],
      properties := [{ name := "size", type := "string" }, { name := "size", type := "boolean" }] }]

theorem Grammar.ancestors_crate : crate.ancestors "Box" = ["Tagged", "Shape", "Named"] := by
  have hbox : crate.supers "Box" = ["Tagged", "Shape"] := rfl
  have htagged : crate.supers "Tagged" = ["Named"] := rfl
  have hshape : crate.supers "Shape" = ["Named"] := rfl
  have hnamed : crate.supers "Named" = [] := rfl
  simp [ancestors, ancestorsFrom, hbox, htagged, hshape, hnamed]

/-- The box has three properties, of which the size is the second that it declares. -/
theorem Diagram.allProperties_orderly_crate :
    ∃ d, build {} .crate (Config.settings {}) = .ok d ∧ Grammar.crate.interfaceNames.Nodup ∧
      ∃ e ∈ d.elements, e.name = "Box" ∧ (e.allProperties.map (·.name)).Nodup ∧
        (∀ property, property ∈ e.allProperties.map (·.name) ↔
          property ∈ ["label", "size", "tag"]) ∧
        ∀ p ∈ e.allProperties, p.name = "size" →
          p.declaredIn = "Box" ∧ p.toProperty = { name := "size", type := "boolean" } := by
  have hnames : Grammar.crate.interfaceNames.Nodup := by decide
  have honly : ∀ i ∈ Grammar.crate.interfaces, ∀ property ∈ i.properties.map (·.name),
      property ∈ ["label", "size", "tag"] := by decide
  have hall : ∀ property ∈ ["label", "size", "tag"], ∃ i ∈ Grammar.crate.interfaces,
      i.name ∈ ["Box", "Tagged", "Shape", "Named"] ∧ property ∈ i.properties.map (·.name) := by
    decide
  obtain ⟨d, hd⟩ := exists_build_of_valid (g := .crate) (by decide +kernel) (by decide) {}
  obtain ⟨e, he, hname⟩ := exists_element hd (by decide : "Box" ∈ Grammar.crate.interfaceNames)
  obtain ⟨-, hnodup, hproperties, hown, -⟩ := (allProperties_orderly hd hnames).2 e he
  refine ⟨d, hd, hnames, e, he, hname, hnodup, fun property ↦ ?_, fun p hp hsize ↦ ?_⟩
  · rw [hproperties, (of_mem_elements hd he).1, hname, Grammar.ancestors_crate]
    exact ⟨fun ⟨i, hi, _, h⟩ ↦ honly i hi property h, hall property⟩
  · obtain ⟨hdeclaredIn, hlast⟩ := hown _ (List.getLast_mem (l := Grammar.crate.interfaces) nofun)
      hname.symm p hp (by rw [hsize]; decide)
    rw [hsize] at hlast
    exact ⟨hdeclaredIn.trans hname, (Option.some.inj hlast).symm⟩

end DiagramForge
