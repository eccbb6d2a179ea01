import DiagramForge.Proofs.Diagram.Endpoints
import DiagramForge.Proofs.Diagram.Reordering
import Mathlib.Data.List.Find

/-!
# Renaming properties

The properties of some interfaces of a grammar are renamed. A grammar that has a diagram still has
one, and an element whose properties are all renamed, and keep apart, has the same properties under
their new names: `Diagram.exists_renamed_element`. What kind of element it is and what its ends are
can only depend on the new names in one way: on which single references are named as sources and
which as targets. Where this is kept, kind and ends are: `Diagram.keepsEnds_of_keepsRoles`.
-/

namespace DiagramForge

open Grammar (StructuralFault)
open Outcome

/-! ## Renamed properties -/

/-- The property under another name. -/
def Property.renamed (f : String → String) (p : Property) : Property :=
  { p with name := f p.name }

/-- The property under another name. -/
def ResolvedProperty.renamed (f : String → String) (p : ResolvedProperty) : ResolvedProperty :=
  { p with name := f p.name }

/-- The ends under other names. -/
def Ends.renamed (f : String → String) (e : Ends) : Ends :=
  ⟨e.source.renamed f, e.target.renamed f⟩

/-- The interface with its properties renamed, if its name is one of some names. -/
def Interface.renamed (f : String → String) (names : List String) (i : Interface) : Interface :=
  if i.name ∈ names then { i with properties := i.properties.map (·.renamed f) } else i

/-- The grammar with the properties renamed that the interfaces of some names declare. -/
def Grammar.renamed (f : String → String) (names : List String) (g : Grammar) : Grammar :=
  g.withInterfaces (g.interfaces.map (·.renamed f names))

section

variable {f : String → String} {names : List String}

@[simp] theorem ResolvedProperty.renamed_name (p : ResolvedProperty) :
    (p.renamed f).name = f p.name := rfl

@[simp] theorem ResolvedProperty.renamed_type (p : ResolvedProperty) :
    (p.renamed f).type = p.type := rfl

@[simp] theorem ResolvedProperty.renamed_isEnd (p : ResolvedProperty) :
    (p.renamed f).isEnd = p.isEnd := rfl

@[simp] theorem Interface.renamed_name (i : Interface) : (i.renamed f names).name = i.name := by
  rw [renamed]
  split <;> rfl

@[simp] theorem Interface.renamed_superTypes (i : Interface) :
    (i.renamed f names).superTypes = i.superTypes := by
  rw [renamed]
  split <;> rfl

@[simp] theorem Interface.renamed_annotations (i : Interface) :
    (i.renamed f names).annotations = i.annotations := by
  rw [renamed]
  split <;> rfl

/-! ## Merging -/

variable {ps : List ResolvedProperty}

/-- Properties that keep apart are merged as before. -/
theorem mergeProperties_renamed (hinj : Set.InjOn f {n | n ∈ ps.map (·.name)}) :
    mergeProperties (ps.map (·.renamed f)) = (mergeProperties ps).map (·.renamed f) := by
  have hentries : (ps.map (·.renamed f)).map (fun p ↦ (p.name, p)) =
      (ps.map fun p ↦ (p.name, p)).map fun e ↦ (f e.1, e.2.renamed f) := by
    rw [List.map_map, List.map_map]
    rfl
  have hkeys : ∀ e ∈ ps.map fun p ↦ (p.name, p), e.1 ∈ {n | n ∈ ps.map (·.name)} := by
    rw [List.forall_mem_map]
    intro p hp
    exact List.mem_map_of_mem (f := (·.name)) hp
  rw [mergeProperties, mergeProperties, hentries, Entries.ofList_renamed hinj hkeys, List.map_map,
    List.map_map]
  rfl

/-! ## Ends -/

theorem endsOf_renamed : endsOf (ps.map (·.renamed f)) = (endsOf ps).map (·.renamed f) := by
  rw [endsOf, List.filter_map]
  rfl

/-- The property is a source and a target under its new name as it is under its old one. -/
structure ResolvedProperty.KeepsRoles (f : String → String) (p : ResolvedProperty) : Prop where
  /-- It is as much of a source. -/
  source : (p.renamed f).IsSource ↔ p.IsSource
  /-- It is as much of a target. -/
  target : (p.renamed f).IsTarget ↔ p.IsTarget

theorem namedEnds?_renamed (hkeeps : ∀ p ∈ ps, p.KeepsRoles f) :
    namedEnds? (ps.map (·.renamed f)) = (namedEnds? ps).map (·.renamed f) := by
  by_cases hsource : ∃ p ∈ ps, p.IsSource
  · obtain ⟨before, p, after, rfl, hp, hbefore⟩ := exists_first_source hsource
    have hp' : (p.renamed f).IsSource := (hkeeps p (by simp)).source.mpr hp
    have hbefore' : ∀ q ∈ before.map (·.renamed f), ¬ q.IsSource := by
      rw [List.forall_mem_map]
      intro q hq hsource
      exact hbefore q hq ((hkeeps q (by simp [hq])).source.mp hsource)
    have htarget : ∀ q ∈ before ++ after,
        mentions targetWords (q.renamed f).name = mentions targetWords q.name := by
      intro q hq
      rw [Bool.eq_iff_iff, mentions_iff, mentions_iff]
      refine (hkeeps q ?_).target
      rw [List.mem_append] at hq
      simp only [List.mem_append, List.mem_cons]
      tauto
    have hfind : (before ++ after).find? (fun q ↦ mentions targetWords (q.renamed f).name) =
        (before ++ after).find? fun q ↦ mentions targetWords q.name :=
      List.find?_congr htarget
    rw [List.map_append, List.map_cons, namedEnds?_of_first hbefore' hp',
      namedEnds?_of_first hbefore hp, ← List.map_append, List.find?_map, Option.map_map,
      Option.map_map, ← hfind]
    rfl
  · rw [namedEnds?_eq_none, namedEnds?_eq_none fun q hq h ↦ hsource ⟨q, hq, h⟩]
    · rfl
    · rw [List.forall_mem_map]
      intro q hq h
      exact hsource ⟨q, hq, (hkeeps q hq).source.mp h⟩

theorem compatibleEnds?_renamed (a : Ancestry) (ps : List ResolvedProperty) :
    compatibleEnds? a (ps.map (·.renamed f)) = (compatibleEnds? a ps).map (·.renamed f) := by
  induction ps with
  | nil => rfl
  | cons p ps ih =>
    have hfind : ((ps.map (·.renamed f)).find? fun q ↦ a.compatible (p.renamed f).type q.type) =
        (ps.find? fun q ↦ a.compatible p.type q.type).map (·.renamed f) :=
      List.find?_map
    rw [List.map_cons, compatibleEnds?, compatibleEnds?, hfind, ih]
    cases ps.find? fun q ↦ a.compatible p.type q.type <;> rfl

/-- Where the roles are kept, the same ends are found. -/
theorem edgeEnds?_renamed {a : Ancestry} (hkeeps : ∀ p ∈ endsOf ps, p.KeepsRoles f) :
    edgeEnds? a (ps.map (·.renamed f)) = (edgeEnds? a ps).map (·.renamed f) := by
  rw [edgeEnds?_eq, edgeEnds?_eq, endsOf_renamed, namedEnds?_renamed hkeeps,
    compatibleEnds?_renamed, Option.map_or]

theorem requestedEnds?_renamed {a : Ancestry} (hkeeps : ∀ p ∈ endsOf ps, p.KeepsRoles f) :
    requestedEnds? a (ps.map (·.renamed f)) = (requestedEnds? a ps).map (·.renamed f) := by
  rw [requestedEnds?_eq, requestedEnds?_eq, edgeEnds?_renamed hkeeps, endsOf_renamed,
    Option.map_or]
  congr 1
  rcases endsOf ps with _ | ⟨p, _ | ⟨q, rest⟩⟩ <;> rfl

end

/-! ## Tables of a renamed grammar -/

namespace Grammar

variable {g : Grammar} {f : String → String} {names : List String}

theorem interfaceNames_renamed : (g.renamed f names).interfaceNames = g.interfaceNames := by
  rw [interfaceNames, renamed, withInterfaces, List.map_map]
  exact List.map_congr_left fun i _ ↦ Interface.renamed_name i

theorem lastInterface?_renamed (c : String) :
    (g.renamed f names).lastInterface? c = (g.lastInterface? c).map (·.renamed f names) := by
  rw [lastInterface?, lastInterface?, List.findRev?_eq_find?_reverse,
    List.findRev?_eq_find?_reverse, renamed, withInterfaces, ← List.map_reverse, List.find?_map]
  congr 2
  funext i
  simp

theorem supers_renamed (c : String) : (g.renamed f names).supers c = g.supers c := by
  rw [supers, supers, superTypesOf?, superTypesOf?, lastInterface?_renamed, Option.map_map]
  congr 2
  funext i
  simp

theorem ancestors_renamed (c : String) : (g.renamed f names).ancestors c = g.ancestors c := by
  rw [ancestors, ancestors, ancestorsFrom_congr supers_renamed, supers_renamed]

theorem ancestry_renamed : (g.renamed f names).ancestry = g.ancestry := by
  rw [ancestry, ancestry, interfaceNames_renamed]
  simp only [ancestors_renamed]

theorem target?_renamed (type : String) : (g.renamed f names).target? type = g.target? type := by
  rw [target?, target?, hasInterface, hasInterface, interfaceNames_renamed]
  rfl

/-- A property is resolved under its new name as under its old one. -/
theorem resolve_renamed {i j : Interface} (hname : j.name = i.name) {p : Property}
    {q : ResolvedProperty} (h : g.resolve i p = .ok q) :
    (g.renamed f names).resolve j (p.renamed f) = .ok (q.renamed f) := by
  rw [resolve] at h ⊢
  have htype : (p.renamed f).type = p.type := rfl
  rw [htype, target?_renamed]
  split at h
  next target htarget =>
    cases h
    rw [hname]
    rfl
  next => cases h

theorem mapM_resolve_renamed {i j : Interface} (hname : j.name = i.name) {ps : List Property}
    {qs : List ResolvedProperty} (h : ps.mapM (g.resolve i) = .ok qs) :
    (ps.map (·.renamed f)).mapM ((g.renamed f names).resolve j) =
      .ok (qs.map (·.renamed f)) := by
  rw [mapM_eq_ok] at h ⊢
  rw [List.forall₂_map_left_iff, List.forall₂_map_right_iff]
  exact h.imp fun _ _ ↦ resolve_renamed hname

theorem resolve_renamed_self (i : Interface) :
    (g.renamed f names).resolve i = g.resolve i := by
  funext p
  rw [resolve, resolve, target?_renamed]

/-- The properties that an interface declares are those under their new names. -/
theorem of_ownProperties_renamed {own own' : OwnProperties} (hown : g.ownProperties = .ok own)
    (hown' : (g.renamed f names).ownProperties = .ok own') (c : String) :
    own'.of c = if c ∈ names then (own.of c).map (·.renamed f) else own.of c := by
  have hlast : (g.renamed f names).lastInterface? c =
      (g.lastInterface? c).map (·.renamed f names) := lastInterface?_renamed c
  rcases ownProperties_cases hown c with ⟨hnone, hnil⟩ | ⟨i, hi, hqs⟩
  · rw [hnone, Option.map_none] at hlast
    rcases ownProperties_cases hown' c with ⟨-, hnil'⟩ | ⟨j, hj, -⟩
    · rw [hnil, hnil']
      split <;> rfl
    · rw [hlast] at hj
      cases hj
  · rw [hi, Option.map_some] at hlast
    rcases ownProperties_cases hown' c with ⟨hnone', -⟩ | ⟨j, hj, hqs'⟩
    · rw [hlast] at hnone'
      cases hnone'
    · obtain rfl := Option.some.inj (hlast.symm.trans hj)
      obtain ⟨-, rfl⟩ := lastInterface?_eq_some hi
      rw [Interface.renamed] at hqs'
      split
      next hmem =>
        rw [if_pos hmem] at hqs'
        have hrenamed : (i.properties.map (·.renamed f)).mapM ((g.renamed f names).resolve
            { i with properties := i.properties.map (·.renamed f) }) =
              .ok ((own.of i.name).map (·.renamed f)) := mapM_resolve_renamed rfl hqs
        exact Except.ok.inj (hqs'.symm.trans hrenamed)
      next hmem =>
        rw [if_neg hmem, resolve_renamed_self, hqs] at hqs'
        exact (Except.ok.inj hqs').symm

theorem extends_renamed : (g.renamed f names).Extends = g.Extends := by
  funext a b
  rw [Extends, Extends, supers_renamed]

/-- A grammar that has a diagram still has one. -/
theorem not_faulty_renamed {c : Config} (h : ¬ g.Faulty c) : ¬ (g.renamed f names).Faulty c := by
  rw [not_faulty_iff, inheritanceCycles_eq_nil_iff] at h ⊢
  obtain ⟨hclosed, hacyclic, hdisputed⟩ := h
  have hinterfaces : (g.renamed f names).interfaces = g.interfaces.map (·.renamed f names) := rfl
  refine ⟨⟨?_, ?_⟩, ?_, ?_⟩
  · rw [hinterfaces, List.forall_mem_map]
    intro i hi
    rw [Interface.renamed_superTypes, interfaceNames_renamed]
    exact hclosed.superTypes i hi
  · rw [hinterfaces, List.forall_mem_map]
    intro i hi
    rw [interfaceNames_renamed, Interface.renamed]
    split
    · rw [List.forall_mem_map]
      exact hclosed.types i hi
    · exact hclosed.types i hi
  · rw [Acyclic, extends_renamed]
    exact hacyclic
  · rw [hinterfaces, List.forall_mem_map]
    intro i hi
    simp only [Interface.Disputed, Interface.Requested, Interface.renamed_name,
      Interface.renamed_annotations]
    exact hdisputed i hi

end Grammar

/-! ## Renamed elements -/

namespace Diagram

variable {options : BuildOptions} {g : Grammar} {c : Config} {d d' : Diagram}
  {f : String → String} {names : List String} {e e' : Element}

theorem exists_build_renamed (hbuild : build options g c.settings = .ok d) :
    ∃ d', build options (g.renamed f names) c.settings = .ok d' :=
  exists_build_iff.mpr (Grammar.not_faulty_renamed (exists_build_iff.mp ⟨d, hbuild⟩))

/-- All properties of an element are renamed if its interface and its ancestors are among those whose
properties are renamed. -/
structure Reached (f : String → String) (names : List String) (e : Element) : Prop where
  /-- The interfaces are among those. -/
  mem : ∀ a ∈ e.name :: e.ancestors, a ∈ names
  /-- The new names keep the properties apart. -/
  injOn : Set.InjOn f {n | n ∈ e.allProperties.map (·.name)}

theorem map_name_elements_renamed (hbuild : build options g c.settings = .ok d)
    (hbuild' : build options (g.renamed f names) c.settings = .ok d') :
    d'.elements.map (fun e ↦ (e.name, e.annotations)) =
      d.elements.map fun e ↦ (e.name, e.annotations) := by
  have hinterfaces : (g.renamed f names).interfaces = g.interfaces.map (·.renamed f names) := rfl
  rw [elements_map_annotations hbuild, elements_map_annotations hbuild', hinterfaces, List.map_map]
  refine List.map_congr_left fun i _ ↦ ?_
  simp

/-- An element has its properties under their new names. -/
theorem allProperties_renamed (hbuild : build options g c.settings = .ok d)
    (hbuild' : build options (g.renamed f names) c.settings = .ok d') (he : e ∈ d.elements)
    (he' : e' ∈ d'.elements) (hname : e'.name = e.name) (hreached : Reached f names e) :
    e'.allProperties = e.allProperties.map (·.renamed f) := by
  obtain ⟨own, hown, hproperties⟩ := exists_own hbuild
  obtain ⟨own', hown', hproperties'⟩ := exists_own hbuild'
  have hancestors : e'.ancestors = e.ancestors := by
    rw [(of_mem_elements hbuild he).1, (of_mem_elements hbuild' he').1, hname,
      Grammar.ancestors_renamed]
  have hgathered : (e.ancestors.reverse ++ [e.name]).flatMap own'.of =
      ((e.ancestors.reverse ++ [e.name]).flatMap own.of).map (·.renamed f) := by
    rw [List.map_flatMap]
    refine List.flatMap_congr fun a ha ↦ ?_
    rw [Grammar.of_ownProperties_renamed hown hown', if_pos]
    refine hreached.mem a ?_
    simp only [List.mem_append, List.mem_reverse, List.mem_singleton] at ha
    exact List.mem_cons.mpr ha.symm
  rw [(hproperties e he).2, (hproperties' e' he').2, hname, hancestors, gatherProperties,
    gatherProperties, hgathered]
  refine mergeProperties_renamed (hreached.injOn.mono fun n hn ↦ ?_)
  -- merging takes no name away
  have hn : n ∈ ((e.ancestors.reverse ++ [e.name]).flatMap own.of).map (·.name) := hn
  have hall : n ∈ e.allProperties.map (·.name) := by
    rw [(hproperties e he).2, mem_map_name_gatherProperties]
    rw [List.map_flatMap, List.mem_flatMap] at hn
    obtain ⟨a, ha, hn⟩ := hn
    refine ⟨a, ?_, hn⟩
    simp only [List.mem_append, List.mem_reverse, List.mem_singleton] at ha
    exact List.mem_cons.mpr ha.symm
  exact hall

theorem exists_renamed_element (hbuild : build options g c.settings = .ok d)
    (hbuild' : build options (g.renamed f names) c.settings = .ok d') {k : Nat}
    (he : d.elements[k]? = some e) (hreached : Reached f names e) :
    ∃ e', d'.elements[k]? = some e' ∧ e'.name = e.name ∧ e'.annotations = e.annotations ∧
      e'.allProperties = e.allProperties.map (·.renamed f) := by
  have hmap := congrArg (·[k]?) (map_name_elements_renamed hbuild hbuild')
  rw [List.getElem?_map, List.getElem?_map, he, Option.map_some, Option.map_eq_some_iff] at hmap
  obtain ⟨e', he', heq⟩ := hmap
  obtain ⟨hname, hannotations⟩ := Prod.mk.inj heq
  exact ⟨e', he', hname, hannotations, allProperties_renamed hbuild hbuild'
    (List.mem_of_getElem? he) (List.mem_of_getElem? he') hname hreached⟩

/-- An element of a diagram is as an element of another one: it is of the same kind, and if it is an
edge, the same properties under their new names are its ends. -/
structure KeepsEnds (f : String → String) (d : Diagram) (e : Element) (d' : Diagram)
    (e' : Element) : Prop where
  /-- The kind is the same. -/
  kind_eq : e'.kind = e.kind
  /-- The ends are the same. -/
  ends_eq : ∀ t ∈ d.edgeTypes, t.element = e →
    ∃ t' ∈ d'.edgeTypes, t'.element = e' ∧ t'.ends = t.ends.map (·.renamed f)

/-- Where the single references of an element keep their roles, it keeps its kind and its ends. -/
theorem keepsEnds_of_keepsRoles (hbuild : build options g c.settings = .ok d)
    (hbuild' : build options (g.renamed f names) c.settings = .ok d') (he : e ∈ d.elements)
    (he' : e' ∈ d'.elements) (hname : e'.name = e.name)
    (hannotations : e'.annotations = e.annotations)
    (hproperties : e'.allProperties = e.allProperties.map (·.renamed f))
    (hkeeps : ∀ p ∈ endsOf e.allProperties, p.KeepsRoles f) : KeepsEnds f d e d' e' := by
  have hedge : e'.isEdge = e.isEdge := by
    have hrequests := Requests.ofSettings_config c
    rw [Bool.eq_iff_iff, isEdge_iff hbuild hrequests he, isEdge_iff hbuild' hrequests he',
      Grammar.ancestry_renamed, hproperties, edgeEnds?_renamed hkeeps, Option.isSome_map,
      Element.Requested, Element.Requested, Element.Requested, Element.Requested, hname,
      hannotations]
  have hkind : e'.kind = e.kind := by
    rw [Element.isEdge, Element.isEdge] at hedge
    cases hk : e.kind <;> cases hk' : e'.kind <;> simp [hk, hk'] at hedge
    · rfl
    · rfl
  refine ⟨hkind, ?_⟩
  rintro t ht rfl
  obtain ⟨-, hisEdge, hends⟩ := of_mem_edgeTypes hbuild ht
  have hmem : e' ∈ d'.edgeTypes.map (·.element) := by
    rw [edgeTypes_map_element hbuild', List.mem_filter, hedge]
    exact ⟨he', hisEdge⟩
  obtain ⟨t', ht', rfl⟩ := List.mem_map.mp hmem
  obtain ⟨-, -, hends'⟩ := of_mem_edgeTypes hbuild' ht'
  refine ⟨t', ht', rfl, ?_⟩
  rw [hends', hends, hproperties, Grammar.ancestry_renamed, requestedEnds?_renamed hkeeps]

end Diagram

end DiagramForge
