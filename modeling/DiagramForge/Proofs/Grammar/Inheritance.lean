import DiagramForge.Diagram.Build
import Mathlib.Data.List.Chain
import Mathlib.Data.List.Nodup
import Mathlib.Order.Antisymmetrization

/-!
# The search for cycles

`Grammar.Extends` is the supertype relation between interfaces, the last declaration of a name
counting. What `Grammar.inheritanceCycles` finds are simple cycles of this relation, no two of them
through the same interfaces, and one in each strongly connected component that has a cycle at all:
`Grammar.inheritanceCycles_cover`. So it finds nothing exactly if no interface extends itself, not
even through others.

## The invariant

The search keeps a list of the interfaces that it has left. This list is `Settled`: what an
interface in it extends stands behind it, unless a cycle has been found in its component. So from
an interface without a cycle in its component, every way through the component leads farther back
in the list, and never returns.

A cycle closes where the search meets an interface on its own path. All of the cycle lies in the
component of that interface. If it is not kept, then one of the same names has been found before,
and lies in the same component.

The bound on the depth is no obstacle. The names on a path differ and are declared, so a path as
long as the bound would hold more names than there are interfaces.
-/

namespace DiagramForge.Grammar

variable {g : Grammar}

/-! ## The supertype relation -/

/-- The last declaration of an interface names another one as its supertype. -/
def Extends (g : Grammar) (a b : String) : Prop :=
  b ∈ g.supers a

/-- No interface extends itself, not even through others. -/
def Acyclic (g : Grammar) : Prop :=
  ∀ a, ¬ Relation.TransGen g.Extends a a

theorem mem_interfaceNames_of_extends {a b : String} (h : g.Extends a b) :
    a ∈ g.interfaceNames := by
  by_contra hundeclared
  rw [Extends, supers_eq_nil hundeclared] at h
  exact List.not_mem_nil h

theorem mem_interfaceNames_of_transGen {a b : String} (h : Relation.TransGen g.Extends a b) :
    a ∈ g.interfaceNames := by
  induction h using Relation.TransGen.head_induction_on with
  | single h => exact mem_interfaceNames_of_extends h
  | head h _ _ => exact mem_interfaceNames_of_extends h

theorem lastInterface?_eq_some {name : String} {i : Interface}
    (h : g.lastInterface? name = some i) : i ∈ g.interfaces ∧ i.name = name := by
  rw [lastInterface?, List.findRev?_eq_find?_reverse] at h
  have hname := List.find?_some h
  exact ⟨List.mem_reverse.mp (List.mem_of_find?_eq_some h), eq_of_beq hname⟩

theorem lastInterface?_isSome {name : String} (h : name ∈ g.interfaceNames) :
    ∃ i, g.lastInterface? name = some i := by
  obtain ⟨i, hi, rfl⟩ := List.mem_map.mp h
  rw [lastInterface?, List.findRev?_eq_find?_reverse]
  refine Option.isSome_iff_exists.mp (List.find?_isSome.mpr ?_)
  exact ⟨i, List.mem_reverse.mpr hi, beq_self_eq_true _⟩

/-! ## Cycles and components -/

/-- Two interfaces lie in one strongly connected component: each is the other, or inherits from
it. -/
def Interlinked (g : Grammar) : String → String → Prop :=
  AntisymmRel (Relation.ReflTransGen g.Extends)

/-- A simple cycle of declared interfaces, with its first name repeated at the end. -/
structure IsCycle (g : Grammar) (names : List String) : Prop where
  /-- All names are those of interfaces. -/
  declared : names ⊆ g.interfaceNames
  /-- Each interface extends the next one. -/
  chain : names.IsChain g.Extends
  /-- The first name is the last one. -/
  closed : ∃ first rest, names = first :: rest ++ [first]
  /-- No other name is repeated. -/
  simple : names.dropLast.Nodup

/-- Along a chain, everything before inherits from everything after. -/
theorem pairwise_of_isChain {names : List String} (h : names.IsChain g.Extends) :
    names.Pairwise (Relation.ReflTransGen g.Extends) :=
  (h.imp fun _ _ ↦ Relation.ReflTransGen.single).pairwise

/-- All of a closed chain lies in one component. -/
theorem interlinked_of_isChain {first : String} {rest : List String}
    (h : (first :: rest ++ [first]).IsChain g.Extends) {b : String}
    (hb : b ∈ first :: rest ++ [first]) : g.Interlinked first b := by
  have hpairwise := pairwise_of_isChain h
  rcases List.mem_append.mp hb with hb' | hb'
  · have hback := (List.pairwise_append.mp hpairwise).2.2 b hb' first (List.mem_singleton_self _)
    rcases List.mem_cons.mp hb' with rfl | hrest
    · exact ⟨hback, hback⟩
    · exact ⟨List.rel_of_pairwise_cons hpairwise (List.mem_append_left _ hrest), hback⟩
  · rw [List.mem_singleton.mp hb']
    exact AntisymmRel.refl _ _

/-- A cycle has been found in the component of an interface. -/
def Recorded (g : Grammar) (cycles : List (List String)) (a : String) : Prop :=
  ∃ c ∈ cycles, ∀ b ∈ c, g.Interlinked a b

theorem Recorded.mono {cycles cycles' : List (List String)} {a : String}
    (h : g.Recorded cycles a) (hle : cycles ⊆ cycles') : g.Recorded cycles' a := by
  obtain ⟨c, hc, hlinked⟩ := h
  exact ⟨c, hle hc, hlinked⟩

theorem Recorded.of_interlinked {cycles : List (List String)} {a b : String}
    (h : g.Recorded cycles b) (hab : g.Interlinked a b) : g.Recorded cycles a := by
  obtain ⟨c, hc, hlinked⟩ := h
  exact ⟨c, hc, fun x hx ↦ hab.trans (hlinked x hx)⟩

/-! ## Settled lists -/

/-- What an interface in the list extends stands behind it, if it is declared and no cycle has been
found in the component of the interface. -/
inductive Settled (g : Grammar) (cycles : List (List String)) : List String → Prop where
  /-- Nothing is settled. -/
  | nil : Settled g cycles []
  /-- An interface is settled after its supertypes. -/
  | cons {name : String} {done : List String} (hdone : Settled g cycles done) (hnew : name ∉ done)
    (hsupers : ∀ b, g.Extends name b → b ∈ g.interfaceNames →
      b ∈ done ∨ g.Recorded cycles name) :
    Settled g cycles (name :: done)

variable {cycles : List (List String)} {done : List String}

theorem Settled.mono {cycles' : List (List String)} (h : Settled g cycles done)
    (hle : cycles ⊆ cycles') : Settled g cycles' done := by
  induction h with
  | nil => exact .nil
  | cons _ hnew hsupers ih =>
    exact .cons ih hnew fun b hb hdeclared ↦ (hsupers b hb hdeclared).imp_right (·.mono hle)

theorem Settled.mem_of_extends (h : Settled g cycles done) {a b : String} (ha : a ∈ done)
    (hab : g.Extends a b) (hb : b ∈ g.interfaceNames) : b ∈ done ∨ g.Recorded cycles a := by
  induction h with
  | nil => exact absurd ha List.not_mem_nil
  | cons _ _ hsupers ih =>
    rcases List.mem_cons.mp ha with rfl | ha
    · exact (hsupers b hab hb).imp_left (List.mem_cons_of_mem _)
    · exact (ih ha).imp_left (List.mem_cons_of_mem _)

/-- A component in which no cycle has been found is left as a whole. -/
theorem Settled.mem_of_interlinked (h : Settled g cycles done) {a b : String} (ha : a ∈ done)
    (hab : g.Interlinked a b) : b ∈ done ∨ g.Recorded cycles a := by
  by_cases hrecorded : g.Recorded cycles a
  · exact .inr hrecorded
  refine .inl ?_
  obtain ⟨hforth, hback⟩ := hab
  induction hforth using Relation.ReflTransGen.head_induction_on with
  | refl => exact ha
  | @head a c hac hcb ih =>
    -- the next interface on the way leads back to this one, so it is in the component as well
    have hca : Relation.ReflTransGen g.Extends c a := hcb.trans hback
    have hlinked : g.Interlinked c a := ⟨hca, .single hac⟩
    have hdeclared := mem_interfaceNames_of_transGen (Relation.TransGen.tail' hca hac)
    have hc : c ∈ done := (h.mem_of_extends ha hac hdeclared).resolve_right hrecorded
    refine ih hc (fun hrecorded' ↦ hrecorded ?_) (hback.tail hac)
    exact hrecorded'.of_interlinked hlinked.symm

/-- A settled list has no room for a cycle in a component without one that has been found. -/
theorem Settled.recorded (h : Settled g cycles done) {a : String} (ha : a ∈ done)
    (hcycle : Relation.TransGen g.Extends a a) : g.Recorded cycles a := by
  induction h with
  | nil => exact absurd ha List.not_mem_nil
  | @cons name done hdone hnew hsupers ih =>
    rcases List.mem_cons.mp ha with rfl | ha
    · obtain ⟨c, hac, hca⟩ := Relation.TransGen.head'_iff.mp hcycle
      have hdeclared := mem_interfaceNames_of_transGen (Relation.TransGen.tail' hca hac)
      have hlinked : g.Interlinked c a := ⟨hca, .single hac⟩
      -- the next interface on the cycle stands behind this one, and this one does not
      rcases hsupers c hac hdeclared with hc | hrecorded
      · rcases hdone.mem_of_interlinked hc hlinked with hmem | hrecorded
        · exact absurd hmem hnew
        · exact hrecorded.of_interlinked hlinked.symm
      · exact hrecorded
    · exact ih ha

/-! ## Finds -/

theorem sameNames_iff (c c' : List String) :
    sameNames c c' = true ↔ ∀ name, name ∈ c ↔ name ∈ c' := by
  simp only [sameNames, Bool.and_eq_true, List.all_eq_true, List.contains_iff_mem]
  constructor
  · rintro ⟨h, h'⟩ name
    exact ⟨h name, h' name⟩
  · intro h
    exact ⟨fun name ↦ (h name).mp, fun name ↦ (h name).mpr⟩

/-- What holds of the finds at any time: they are cycles, no two of the same names. -/
structure Finds (g : Grammar) (cycles : List (List String)) : Prop where
  /-- Each find is a cycle. -/
  isCycle : ∀ c ∈ cycles, g.IsCycle c
  /-- No two finds have the same names. -/
  distinct : cycles.Pairwise fun c c' ↦ ¬ ∀ name, name ∈ c ↔ name ∈ c'

namespace CycleSearch

variable {s t : CycleSearch} {c : List String}

theorem cycles_subset_addCycle : s.cycles ⊆ (s.addCycle c).cycles := by
  rw [addCycle]
  split
  · exact List.Subset.refl _
  · exact List.subset_append_left _ _

@[simp] theorem done_addCycle : (s.addCycle c).done = s.done := by
  rw [addCycle]
  split <;> rfl

theorem finds_addCycle (h : g.Finds s.cycles) (hc : g.IsCycle c) :
    g.Finds (s.addCycle c).cycles := by
  rw [addCycle]
  split
  next => exact h
  next hnew =>
    refine ⟨?_, ?_⟩
    · intro c' hc'
      rcases List.mem_append.mp hc' with hc' | hc'
      · exact h.isCycle c' hc'
      · rw [List.mem_singleton.mp hc']
        exact hc
    · rw [List.pairwise_append]
      refine ⟨h.distinct, List.pairwise_singleton _ _, fun c' hc' c'' hc'' hsame ↦ hnew ?_⟩
      rw [List.mem_singleton.mp hc''] at hsame
      rw [List.any_eq_true]
      exact ⟨c', hc', (sameNames_iff c c').mpr fun name ↦ (hsame name).symm⟩

/-- Whether a cycle is kept or not, one of its names is among the finds. -/
theorem exists_sameNames_addCycle :
    ∃ c' ∈ (s.addCycle c).cycles, ∀ name, name ∈ c' ↔ name ∈ c := by
  rw [addCycle]
  split
  next hknown =>
    obtain ⟨c', hc', hsame⟩ := List.any_eq_true.mp hknown
    exact ⟨c', hc', fun name ↦ ((sameNames_iff c c').mp hsame name).symm⟩
  next => exact ⟨c, List.mem_append_right _ (List.mem_singleton_self _), fun _ ↦ Iff.rfl⟩

end CycleSearch

/-! ## The search -/

/-- A path of the search: different interfaces, each of which extends the next. -/
structure IsPath (g : Grammar) (path : List String) : Prop where
  /-- All names are those of interfaces. -/
  declared : path ⊆ g.interfaceNames
  /-- Each interface extends the next one. -/
  chain : path.IsChain g.Extends
  /-- No name is repeated. -/
  nodup : path.Nodup

theorem IsPath.length_le {path : List String} (h : g.IsPath path) :
    path.length ≤ g.interfaces.length := by
  have hle := h.nodup.length_le_of_subset h.declared
  rwa [interfaceNames, List.length_map] at hle

/-- A path that comes to a name on it closes a cycle, from that name on. -/
theorem IsPath.exists_cycle {path : List String} {name : String} (h : g.IsPath path)
    (hstep : (path ++ [name]).IsChain g.Extends) (hmem : name ∈ path) :
    ∃ rest, path.dropWhile (· != name) = name :: rest ∧ g.IsCycle (name :: rest ++ [name]) := by
  obtain ⟨before, rest, rfl, hbefore⟩ := List.eq_append_cons_of_mem hmem
  have hdrop : (before ++ name :: rest).dropWhile (· != name) = name :: rest := by
    rw [List.dropWhile_append_of_pos, List.dropWhile_cons_of_neg (by simp)]
    intro b hb
    simp only [bne_iff_ne, ne_eq]
    exact fun hsame ↦ hbefore (hsame ▸ hb)
  have hsuffix : name :: rest <:+ before ++ name :: rest := List.suffix_append _ _
  refine ⟨rest, hdrop, ?_, ?_, ⟨name, rest, rfl⟩, ?_⟩
  · refine List.append_subset.mpr ⟨List.Subset.trans hsuffix.subset h.declared, ?_⟩
    exact List.cons_subset.mpr ⟨h.declared hmem, List.nil_subset _⟩
  · rw [List.append_assoc] at hstep
    exact hstep.suffix (List.suffix_append _ _)
  · rw [List.dropLast_concat]
    exact h.nodup.sublist hsuffix.sublist

/-- A path that leads to an interface not on it becomes longer. -/
theorem IsPath.snoc {path : List String} {name : String} (h : g.IsPath path)
    (hstep : (path ++ [name]).IsChain g.Extends) (hname : name ∈ g.interfaceNames)
    (hnew : name ∉ path) : g.IsPath (path ++ [name]) := by
  refine ⟨?_, hstep, ?_⟩
  · refine List.append_subset.mpr ⟨h.declared, ?_⟩
    exact List.cons_subset.mpr ⟨hname, List.nil_subset _⟩
  · refine List.nodup_append.mpr ⟨h.nodup, List.nodup_singleton _, ?_⟩
    rintro a ha b hb rfl
    exact hnew (List.mem_singleton.mp hb ▸ ha)

theorem isChain_snoc_snoc {path : List String} {name b : String}
    (hstep : (path ++ [name]).IsChain g.Extends) (hb : g.Extends name b) :
    (path ++ [name] ++ [b]).IsChain g.Extends := by
  refine List.isChain_append.mpr ⟨hstep, List.isChain_singleton _, ?_⟩
  intro x hx y hy
  rw [List.getLast?_concat, Option.mem_some_iff] at hx
  rw [List.head?_cons, Option.mem_some_iff] at hy
  rwa [← hx, ← hy]

/-- What holds of the search while it is at the end of a path. -/
structure Underway (g : Grammar) (path : List String) (s : CycleSearch) : Prop where
  /-- The interfaces left are settled. -/
  settled : Settled g s.cycles s.done
  /-- The interfaces on the path have not been left. -/
  disjoint : path.Disjoint s.done
  /-- The finds are cycles, no two of the same names. -/
  finds : g.Finds s.cycles

/-- Nothing that has been left or found is given up. -/
structure CycleSearch.Le (s t : CycleSearch) : Prop where
  /-- What was left before has been left. -/
  done : s.done ⊆ t.done
  /-- What was found before has been found. -/
  cycles : s.cycles ⊆ t.cycles

theorem CycleSearch.Le.trans {s t u : CycleSearch} (h : s.Le t) (h' : t.Le u) : s.Le u :=
  ⟨List.Subset.trans h.done h'.done, List.Subset.trans h.cycles h'.cycles⟩

/-- An interface has been dealt with: it has been left, or it is on the path and a cycle has been
found in its component. -/
def DealtWith (g : Grammar) (path : List String) (t : CycleSearch) (name : String) : Prop :=
  name ∈ g.interfaceNames → name ∈ t.done ∨ (name ∈ path ∧ g.Recorded t.cycles name)

theorem DealtWith.mono {path : List String} {t u : CycleSearch} {name : String}
    (h : g.DealtWith path t name) (hle : t.Le u) : g.DealtWith path u name := by
  intro hname
  rcases h hname with hdone | ⟨hpath, hrecorded⟩
  · exact .inl (hle.done hdone)
  · exact .inr ⟨hpath, hrecorded.mono hle.cycles⟩

/-- Searching several interfaces one after another. -/
theorem underway_foldl {f : CycleSearch → String → CycleSearch} {path : List String}
    (names : List String)
    (hf : ∀ s, ∀ name ∈ names, g.Underway path s →
      g.Underway path (f s name) ∧ s.Le (f s name) ∧ g.DealtWith path (f s name) name)
    (s : CycleSearch) (hs : g.Underway path s) :
    g.Underway path (names.foldl f s) ∧ s.Le (names.foldl f s) ∧
      ∀ name ∈ names, g.DealtWith path (names.foldl f s) name := by
  induction names generalizing s with
  | nil => exact ⟨hs, ⟨List.Subset.refl _, List.Subset.refl _⟩, nofun⟩
  | cons name names ih =>
    obtain ⟨hfirst, hle, hname⟩ := hf s name List.mem_cons_self hs
    obtain ⟨hrest, hle', hnames⟩ :=
      ih (fun s n hn ↦ hf s n (List.mem_cons_of_mem _ hn)) (f s name) hfirst
    refine ⟨hrest, hle.trans hle', fun n hn ↦ ?_⟩
    rcases List.mem_cons.mp hn with rfl | hn
    · exact hname.mono hle'
    · exact hnames n hn

/-- Where the search meets its own path, a cycle is found in the component of the name. -/
theorem underway_addCycle {path : List String} {s : CycleSearch} {name : String}
    (hpath : g.IsPath path) (hstep : (path ++ [name]).IsChain g.Extends) (hmem : name ∈ path)
    (hs : g.Underway path s) :
    let t := s.addCycle (path.dropWhile (· != name) ++ [name])
    g.Underway path t ∧ s.Le t ∧ g.DealtWith path t name := by
  obtain ⟨rest, hrest, hcycle⟩ := hpath.exists_cycle hstep hmem
  rw [hrest]
  intro t
  have hdone : t.done = s.done := CycleSearch.done_addCycle
  have hle : s.cycles ⊆ t.cycles := CycleSearch.cycles_subset_addCycle
  refine ⟨⟨?_, ?_, CycleSearch.finds_addCycle hs.finds hcycle⟩, ⟨?_, hle⟩, fun _ ↦ .inr ⟨hmem, ?_⟩⟩
  · rw [hdone]
    exact hs.settled.mono hle
  · rw [hdone]
    exact hs.disjoint
  · rw [hdone]
    exact List.Subset.refl _
  · obtain ⟨c, hc, hsame⟩ := CycleSearch.exists_sameNames_addCycle (s := s)
    exact ⟨c, hc, fun b hb ↦ interlinked_of_isChain hcycle.chain ((hsame b).mp hb)⟩

/-- An interface is left after all that it extends has been dealt with. -/
theorem underway_leave {path : List String} {t : CycleSearch} {name : String}
    (hpath : g.IsPath (path ++ [name])) (ht : g.Underway (path ++ [name]) t)
    (hsupers : ∀ b ∈ g.supers name, g.DealtWith (path ++ [name]) t b) :
    g.Underway path { t with done := name :: t.done } := by
  obtain ⟨hleft, hname⟩ := List.disjoint_append_left.mp ht.disjoint
  have hnew : name ∉ t.done := List.singleton_disjoint.mp hname
  refine ⟨.cons ht.settled hnew fun b hb hdeclared ↦ ?_, ?_, ht.finds⟩
  · rcases hsupers b hb hdeclared with hdone | ⟨hmem, hrecorded⟩
    · exact .inl hdone
    · -- the supertype is on the path, which leads from it to the interface and back
      refine .inr (hrecorded.of_interlinked ⟨.single hb, ?_⟩)
      rcases List.mem_append.mp hmem with hmem | hmem
      · exact (List.pairwise_append.mp (pairwise_of_isChain hpath.chain)).2.2 b hmem name
          (List.mem_singleton_self _)
      · rw [List.mem_singleton.mp hmem]
  · refine List.disjoint_cons_right.mpr ⟨fun hmem ↦ ?_, hleft⟩
    exact (List.nodup_append.mp hpath.nodup).2.2 name hmem name (List.mem_singleton_self _) rfl

theorem mem_interfaceNames_of_superTypesOf? {name : String} {supers : List String}
    (h : g.superTypesOf? name = some supers) : name ∈ g.interfaceNames := by
  obtain ⟨i, hi, -⟩ := Option.map_eq_some_iff.mp h
  obtain ⟨hmem, rfl⟩ := lastInterface?_eq_some hi
  exact List.mem_map_of_mem hmem

theorem superTypesOf?_ne_none {name : String} (h : name ∈ g.interfaceNames) :
    g.superTypesOf? name ≠ none := by
  obtain ⟨i, hi⟩ := lastInterface?_isSome h
  rw [superTypesOf?, hi]
  exact Option.some_ne_none _

/-- A search deals with the interface it starts from. -/
theorem underway_searchFrom (depth : Nat) (path : List String) (s : CycleSearch) (name : String)
    (hpath : g.IsPath path) (hstep : (path ++ [name]).IsChain g.Extends)
    (hdepth : g.interfaces.length < path.length + depth) (hs : g.Underway path s) :
    g.Underway path (g.searchFrom depth path s name) ∧ s.Le (g.searchFrom depth path s name) ∧
      g.DealtWith path (g.searchFrom depth path s name) name := by
  induction depth generalizing path s name with
  | zero =>
    have hlength := hpath.length_le
    omega
  | succ depth ih =>
    have hrefl : s.Le s := ⟨List.Subset.refl _, List.Subset.refl _⟩
    rw [searchFrom]
    by_cases hclosed : path.contains name = true
    · rw [if_pos hclosed]
      exact underway_addCycle hpath hstep (List.contains_iff_mem.mp hclosed) hs
    rw [if_neg hclosed]
    by_cases hdone : s.done.contains name = true
    · rw [if_pos hdone]
      exact ⟨hs, hrefl, fun _ ↦ .inl (List.contains_iff_mem.mp hdone)⟩
    rw [if_neg hdone]
    cases hsupers : g.superTypesOf? name with
    | none => exact ⟨hs, hrefl, fun hname ↦ absurd hsupers (superTypesOf?_ne_none hname)⟩
    | some supers =>
      have hname := mem_interfaceNames_of_superTypesOf? hsupers
      have hextends : g.supers name = supers := by rw [Grammar.supers, hsupers, Option.getD_some]
      have hnew : name ∉ s.done := fun h ↦ hdone (List.contains_iff_mem.mpr h)
      have hlonger : g.IsPath (path ++ [name]) :=
        hpath.snoc hstep hname fun h ↦ hclosed (List.contains_iff_mem.mpr h)
      have hlonger_disjoint : (path ++ [name]).Disjoint s.done :=
        List.disjoint_append_left.mpr ⟨hs.disjoint, List.singleton_disjoint.mpr hnew⟩
      have hdepth' : g.interfaces.length < (path ++ [name]).length + depth := by
        rw [List.length_append, List.length_singleton]
        omega
      obtain ⟨hsearched, hle, hall⟩ := underway_foldl supers
        (fun t b hb ht ↦ ih (path ++ [name]) t b hlonger
          (isChain_snoc_snoc hstep (by rw [Extends, hextends]; exact hb)) hdepth' ht)
        s ⟨hs.settled, hlonger_disjoint, hs.finds⟩
      refine ⟨underway_leave hlonger hsearched (by rwa [hextends]), ⟨?_, hle.cycles⟩,
        fun _ ↦ .inl List.mem_cons_self⟩
      exact List.subset_cons_of_subset _ hle.done

/-- The search as a whole leaves every interface. -/
theorem underway_inheritanceCycles (g : Grammar) :
    g.Finds g.inheritanceCycles ∧ ∃ done, Settled g g.inheritanceCycles done ∧
      g.interfaceNames ⊆ done := by
  have hpath : g.IsPath [] := ⟨List.nil_subset _, .nil, List.nodup_nil⟩
  obtain ⟨hsearched, -, hall⟩ := underway_foldl g.interfaceNames
    (fun s name _ hs ↦ underway_searchFrom (g.interfaces.length + 1) [] s name hpath
      (List.isChain_singleton name) (by rw [List.length_nil]; omega) hs)
    {} ⟨.nil, List.disjoint_nil_left _, ⟨nofun, .nil⟩⟩
  refine ⟨hsearched.finds, _, hsearched.settled, fun name hname ↦ ?_⟩
  rcases hall name hname hname with hdone | ⟨hmem, -⟩
  · exact hdone
  · exact absurd hmem List.not_mem_nil

/-- An interface that extends itself, if only through others, has a find in its component. -/
theorem recorded_of_transGen {a : String} (h : Relation.TransGen g.Extends a a) :
    g.Recorded g.inheritanceCycles a := by
  obtain ⟨-, done, hsettled, hall⟩ := underway_inheritanceCycles g
  exact hsettled.recorded (hall (mem_interfaceNames_of_transGen h)) h

/-- **A grammar in which no cycle is found has none.** -/
theorem acyclic_of_inheritanceCycles_eq_nil (h : g.inheritanceCycles = []) : g.Acyclic := by
  intro a hcycle
  obtain ⟨c, hc, -⟩ := recorded_of_transGen hcycle
  rw [h] at hc
  exact List.not_mem_nil hc

/-- On a cycle, an interface extends itself through the others. -/
theorem IsCycle.transGen {c : List String} (h : g.IsCycle c) :
    ∃ a, Relation.TransGen g.Extends a a := by
  obtain ⟨first, rest, rfl⟩ := h.closed
  have hchain := h.chain
  -- the step from the first name leads to one that inherits from it
  cases rest with
  | nil =>
    exact ⟨first, .single (List.isChain_cons_cons.mp hchain).1⟩
  | cons second rest =>
    obtain ⟨hstep, -⟩ := List.isChain_cons_cons.mp hchain
    have hlinked := interlinked_of_isChain hchain (b := second)
      (List.mem_cons_of_mem _ List.mem_cons_self)
    exact ⟨first, Relation.TransGen.head' hstep hlinked.2⟩

/-- Nothing is found exactly if there is no cycle. -/
theorem inheritanceCycles_eq_nil_iff : g.inheritanceCycles = [] ↔ g.Acyclic := by
  refine ⟨acyclic_of_inheritanceCycles_eq_nil, fun hacyclic ↦ ?_⟩
  rw [List.eq_nil_iff_forall_not_mem]
  intro c hc
  obtain ⟨a, ha⟩ := ((underway_inheritanceCycles g).1.isCycle c hc).transGen
  exact hacyclic a ha

end DiagramForge.Grammar
