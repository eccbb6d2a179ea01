import DiagramForge.Diagram.Classify
import Mathlib.Data.List.Nodup
import Mathlib.Data.List.Pairwise

/-!
# The edge rule

An element is like an edge if two different ones of its single references can be its ends: one is
named as a source and the other as a target, or both refer to related interfaces. This rule is
`IsEdgeLike`; it speaks of no order. `edgeEnds?` is the search that is to decide it.

## What the search misses

The search takes the first source, looks for a target other than it, and does not come back to a
later source. So it misses two ends that are only told by their names if the first source is the
only target as well. This case is `Eclipsed`, and it is the only one: `edgeEnds?_isSome_iff`. It
depends on the order of the properties (`fromTo_eclipsed`), and it does not arise where no property
is named as a source and as a target at once.
-/

namespace DiagramForge

/-! ## The rule -/

/-- Two interfaces are the same, or one inherits from the other. -/
def Ancestry.Related (a : Ancestry) (x y : String) : Prop :=
  x = y ∨ x ∈ a.of y ∨ y ∈ a.of x

/-- One of some words is a word of a name. -/
def HasWord (ws : List String) (name : String) : Prop :=
  ∃ w ∈ ws, w ∈ Naming.tokenStrings name

namespace ResolvedProperty

/-- The property is named as a source. -/
def IsSource (p : ResolvedProperty) : Prop :=
  HasWord sourceWords p.name

/-- The property is named as a target. -/
def IsTarget (p : ResolvedProperty) : Prop :=
  HasWord targetWords p.name

end ResolvedProperty

/-- The properties of a list that can be ends: its single references. -/
def endsOf (ps : List ResolvedProperty) : List ResolvedProperty :=
  ps.filter (·.isEnd)

/-- One property is named as a source and the other as a target, or both refer to related
interfaces. -/
def Joins (a : Ancestry) (p q : ResolvedProperty) : Prop :=
  (p.IsSource ∧ q.IsTarget) ∨ a.Related p.type q.type

/-- **The edge rule.** Among the single references there are two different ones that join. -/
def IsEdgeLike (a : Ancestry) (ps : List ResolvedProperty) : Prop :=
  ∃ p ∈ endsOf ps, ∃ q ∈ endsOf ps, p ≠ q ∧ Joins a p q

/-- The first source is the only target, and no two single references are related. -/
structure Eclipsed (a : Ancestry) (ps : List ResolvedProperty) : Prop where
  /-- The first source is a target, and there is no other target. -/
  named : ∃ before p after, endsOf ps = before ++ p :: after ∧ p.IsSource ∧ p.IsTarget ∧
    (∀ q ∈ before, ¬ q.IsSource) ∧ ∀ q ∈ before ++ after, ¬ q.IsTarget
  /-- No two of the single references are related. -/
  unrelated : (endsOf ps).Pairwise fun p q ↦ ¬ a.Related p.type q.type

variable {a : Ancestry} {ps qs : List ResolvedProperty}

/-! ## The questions of the search -/

theorem mentions_iff (ws : List String) (name : String) :
    mentions ws name = true ↔ HasWord ws name := by
  simp only [mentions, HasWord, List.any_eq_true, List.contains_iff_mem]
  exact exists_congr fun w ↦ and_comm

theorem compatible_iff (x y : String) : a.compatible x y = true ↔ a.Related x y := by
  simp only [Ancestry.compatible, Ancestry.Related, Bool.or_eq_true, beq_iff_eq,
    List.contains_iff_mem, or_assoc]

theorem Ancestry.Related.symm {x y : String} (h : a.Related x y) : a.Related y x := by
  rcases h with h | h | h
  · exact .inl h.symm
  · exact .inr (.inr h)
  · exact .inr (.inl h)

/-- Properties whose names differ are different. -/
theorem nodup_endsOf (hnames : (ps.map (·.name)).Nodup) : (endsOf ps).Nodup :=
  hnames.of_map.filter _

/-! ## Ends that are told by their names -/

/-- Where the first source is found, a target is looked for among all others. -/
theorem namedEnds?_of_first {before after : List ResolvedProperty} {p : ResolvedProperty}
    (hbefore : ∀ q ∈ before, ¬ q.IsSource) (hp : p.IsSource) :
    namedEnds? (before ++ p :: after) =
      ((before ++ after).find? fun q ↦ mentions targetWords q.name).map fun q ↦ ⟨p, q⟩ := by
  have hnone : before.findIdx? (fun q ↦ mentions sourceWords q.name) = none := by
    rw [List.findIdx?_eq_none_iff]
    intro q hq
    rw [Bool.eq_false_iff, ne_eq, mentions_iff]
    exact hbefore q hq
  have hfirst : (before ++ p :: after).findIdx? (fun q ↦ mentions sourceWords q.name) =
      some before.length := by
    have hmentions : mentions sourceWords p.name = true := (mentions_iff _ _).mpr hp
    rw [List.findIdx?_append, hnone, List.findIdx?_cons, if_pos hmentions]
    simp
  rw [namedEnds?, hfirst]
  simp only [List.getElem?_append_right (Nat.le_refl _), Nat.sub_self, List.getElem?_cons_zero,
    List.eraseIdx_append_of_length_le (Nat.le_refl _), List.eraseIdx_cons_zero]
  cases (before ++ after).find? fun q ↦ mentions targetWords q.name <;> rfl

theorem namedEnds?_eq_none (h : ∀ q ∈ ps, ¬ q.IsSource) : namedEnds? ps = none := by
  have hnone : ps.findIdx? (fun q ↦ mentions sourceWords q.name) = none := by
    rw [List.findIdx?_eq_none_iff]
    intro q hq
    rw [Bool.eq_false_iff, ne_eq, mentions_iff]
    exact h q hq
  rw [namedEnds?, hnone]

/-- A list with a source has a first one. -/
theorem exists_first_source (h : ∃ p ∈ ps, p.IsSource) :
    ∃ before p after, ps = before ++ p :: after ∧ p.IsSource ∧ ∀ q ∈ before, ¬ q.IsSource := by
  induction ps with
  | nil =>
    obtain ⟨p, hp, -⟩ := h
    exact absurd hp List.not_mem_nil
  | cons p ps ih =>
    by_cases hp : p.IsSource
    · exact ⟨[], p, ps, rfl, hp, nofun⟩
    · have hrest : ∃ q ∈ ps, q.IsSource := by
        obtain ⟨q, hq, hsource⟩ := h
        rcases List.mem_cons.mp hq with rfl | hq
        · exact absurd hsource hp
        · exact ⟨q, hq, hsource⟩
      obtain ⟨before, q, after, rfl, hq, hbefore⟩ := ih hrest
      refine ⟨p :: before, q, after, rfl, hq, fun r hr ↦ ?_⟩
      rcases List.mem_cons.mp hr with rfl | hr
      · exact hp
      · exact hbefore r hr

/-- What is found by names: the first source, and a target in another place. -/
theorem namedEnds?_eq_some {e : Ends} (h : namedEnds? ps = some e) :
    ∃ before after, ps = before ++ e.source :: after ∧ e.source.IsSource ∧
      e.target ∈ before ++ after ∧ e.target.IsTarget := by
  by_cases hsource : ∃ p ∈ ps, p.IsSource
  · obtain ⟨before, p, after, rfl, hp, hbefore⟩ := exists_first_source hsource
    rw [namedEnds?_of_first hbefore hp, Option.map_eq_some_iff] at h
    obtain ⟨q, hq, rfl⟩ := h
    have htarget := List.find?_some hq
    exact ⟨before, after, rfl, hp, List.mem_of_find?_eq_some hq, (mentions_iff _ _).mp htarget⟩
  · rw [namedEnds?_eq_none fun q hq hsource' ↦ hsource ⟨q, hq, hsource'⟩] at h
    cases h

/-! ## Ends that are related -/

theorem compatibleEnds?_eq_some {e : Ends} (h : compatibleEnds? a ps = some e) :
    [e.source, e.target].Sublist ps ∧ a.Related e.source.type e.target.type := by
  induction ps with
  | nil => cases h
  | cons p ps ih =>
    rw [compatibleEnds?] at h
    split at h
    next q hq =>
      cases h
      have hmem := List.mem_of_find?_eq_some hq
      have hrelated := List.find?_some hq
      exact ⟨(List.singleton_sublist.mpr hmem).cons_cons p, (compatible_iff _ _).mp hrelated⟩
    next =>
      obtain ⟨hsublist, hrelated⟩ := ih h
      exact ⟨hsublist.cons p, hrelated⟩

/-- Nothing is found exactly where no two properties are related. -/
theorem compatibleEnds?_eq_none_iff :
    compatibleEnds? a ps = none ↔ ps.Pairwise fun p q ↦ ¬ a.Related p.type q.type := by
  induction ps with
  | nil => exact ⟨fun _ ↦ .nil, fun _ ↦ rfl⟩
  | cons p ps ih =>
    rw [List.pairwise_cons, ← ih, compatibleEnds?]
    split
    next q hq =>
      have hmem := List.mem_of_find?_eq_some hq
      have hrelated := List.find?_some hq
      constructor
      · intro h
        cases h
      · rintro ⟨h, -⟩
        exact absurd ((compatible_iff _ _).mp hrelated) (h q hmem)
    next hnone =>
      rw [List.find?_eq_none] at hnone
      refine (and_iff_right fun q hq hrelated ↦ ?_).symm
      exact hnone q hq ((compatible_iff _ _).mpr hrelated)

/-- In a list without repeats, related properties in different places are different properties. -/
theorem pairwise_unrelated_iff (hnodup : ps.Nodup) :
    (ps.Pairwise fun p q ↦ ¬ a.Related p.type q.type) ↔
      ∀ p ∈ ps, ∀ q ∈ ps, p ≠ q → ¬ a.Related p.type q.type := by
  constructor
  · intro h
    have : Std.Symm fun p q : ResolvedProperty ↦ ¬ a.Related p.type q.type :=
      ⟨fun _ _ h hrelated ↦ h hrelated.symm⟩
    exact h.forall
  · exact hnodup.pairwise_of_forall_ne

/-! ## The search and the rule -/

/-- Ends that are told by their names go before those that are related. -/
theorem edgeEnds?_eq : edgeEnds? a ps =
    (namedEnds? (endsOf ps)).or (compatibleEnds? a (endsOf ps)) := by
  rw [edgeEnds?, ← endsOf]
  cases namedEnds? (endsOf ps) <;> rfl

/-- The ends that are found are two different single references, and they join. -/
theorem joins_of_edgeEnds? (hnodup : (endsOf ps).Nodup) {e : Ends}
    (h : edgeEnds? a ps = some e) :
    e.source ∈ endsOf ps ∧ e.target ∈ endsOf ps ∧ e.source ≠ e.target ∧
      Joins a e.source e.target := by
  rw [edgeEnds?_eq, Option.or_eq_some_iff] at h
  rcases h with hnamed | ⟨-, hrelated⟩
  · obtain ⟨before, after, heq, hsource, hmem, htarget⟩ := namedEnds?_eq_some hnamed
    rw [heq, List.nodup_middle, List.nodup_cons] at hnodup
    rw [heq, List.mem_append, List.mem_append, List.mem_cons, List.mem_cons]
    refine ⟨.inr (.inl rfl), ?_, ?_, .inl ⟨hsource, htarget⟩⟩
    · exact (List.mem_append.mp hmem).imp_right .inr
    · intro hsame
      exact hnodup.1 (hsame ▸ hmem)
  · obtain ⟨hsublist, hrelated⟩ := compatibleEnds?_eq_some hrelated
    have hpair := hnodup.sublist hsublist
    rw [List.nodup_cons, List.mem_singleton] at hpair
    have hmem := hsublist.subset
    exact ⟨hmem List.mem_cons_self, hmem (List.mem_cons_of_mem _ List.mem_cons_self), hpair.1,
      .inr hrelated⟩

/-- The search comes to nothing where the rule does not hold, and where it is eclipsed. -/
theorem edgeEnds?_eq_none_of_eclipsed (h : Eclipsed a ps) : edgeEnds? a ps = none := by
  rw [edgeEnds?_eq, Option.or_eq_none_iff, compatibleEnds?_eq_none_iff]
  refine ⟨?_, h.unrelated⟩
  obtain ⟨before, p, after, heq, hp, -, hbefore, htargets⟩ := h.named
  rw [heq, namedEnds?_of_first hbefore hp, Option.map_eq_none_iff, List.find?_eq_none]
  intro q hq hmentions
  exact htargets q hq ((mentions_iff _ _).mp hmentions)

/-- Where the rule holds and nothing is found, the rule is eclipsed. -/
theorem eclipsed_of_edgeEnds?_eq_none (hnodup : (endsOf ps).Nodup) (hrule : IsEdgeLike a ps)
    (h : edgeEnds? a ps = none) : Eclipsed a ps := by
  rw [edgeEnds?_eq, Option.or_eq_none_iff, compatibleEnds?_eq_none_iff] at h
  obtain ⟨hnamed, hunrelated⟩ := h
  refine ⟨?_, hunrelated⟩
  obtain ⟨p, hp, q, hq, hne, hjoins⟩ := hrule
  have hnames : p.IsSource ∧ q.IsTarget :=
    hjoins.resolve_right ((pairwise_unrelated_iff hnodup).mp hunrelated p hp q hq hne)
  obtain ⟨before, first, after, heq, hfirst, hbefore⟩ := exists_first_source ⟨p, hp, hnames.1⟩
  rw [heq, namedEnds?_of_first hbefore hfirst, Option.map_eq_none_iff, List.find?_eq_none] at hnamed
  have htargets : ∀ r ∈ before ++ after, ¬ r.IsTarget := fun r hr htarget ↦
    hnamed r hr ((mentions_iff _ _).mpr htarget)
  -- the target of the rule is in none of the other places, so it is the first source
  have hfirst_target : first.IsTarget := by
    have hmem : q ∈ before ++ first :: after := heq ▸ hq
    rcases List.mem_append.mp hmem with hmem | hmem
    · exact absurd hnames.2 (htargets q (List.mem_append_left _ hmem))
    · rcases List.mem_cons.mp hmem with rfl | hmem
      · exact hnames.2
      · exact absurd hnames.2 (htargets q (List.mem_append_right _ hmem))
  exact ⟨before, first, after, heq, hfirst, hfirst_target, hbefore, htargets⟩

theorem isEdgeLike_perm (h : qs.Perm ps) : IsEdgeLike a qs ↔ IsEdgeLike a ps := by
  have hmem (p : ResolvedProperty) : p ∈ endsOf qs ↔ p ∈ endsOf ps := (h.filter _).mem_iff
  simp only [IsEdgeLike, hmem]

/-- Only a property that is named as a source and as a target can be eclipsed. -/
theorem not_eclipsed (h : ∀ p ∈ endsOf ps, ¬ (p.IsSource ∧ p.IsTarget)) : ¬ Eclipsed a ps := by
  intro heclipsed
  obtain ⟨before, p, after, heq, hsource, htarget, -, -⟩ := heclipsed.named
  refine h p ?_ ⟨hsource, htarget⟩
  rw [heq]
  exact List.mem_append_right _ List.mem_cons_self

theorem isSome_edgeEnds?_iff (hnodup : (endsOf ps).Nodup) :
    (edgeEnds? a ps).isSome ↔ IsEdgeLike a ps ∧ ¬ Eclipsed a ps := by
  constructor
  · intro h
    obtain ⟨e, he⟩ := Option.isSome_iff_exists.mp h
    obtain ⟨hsource, htarget, hne, hjoins⟩ := joins_of_edgeEnds? hnodup he
    refine ⟨⟨e.source, hsource, e.target, htarget, hne, hjoins⟩, fun heclipsed ↦ ?_⟩
    rw [edgeEnds?_eq_none_of_eclipsed heclipsed] at he
    cases he
  · rintro ⟨hrule, hneclipsed⟩
    rw [Option.isSome_iff_ne_none]
    intro hnone
    exact hneclipsed (eclipsed_of_edgeEnds?_eq_none hnodup hrule hnone)

/-- **The search decides the edge rule, unless it is eclipsed.** For properties whose names differ,
ends are found exactly if the rule holds and the first source is not the only target; what is found
obeys the rule; and where no single reference is named as a source and as a target, the order of the
properties makes no difference. -/
theorem edgeEnds?_isSome_iff (hnames : (ps.map (·.name)).Nodup) :
    ((edgeEnds? a ps).isSome ↔ IsEdgeLike a ps ∧ ¬ Eclipsed a ps) ∧
    (∀ e, edgeEnds? a ps = some e → e.source ∈ endsOf ps ∧ e.target ∈ endsOf ps ∧
      e.source ≠ e.target ∧ Joins a e.source e.target) ∧
    ((∀ p ∈ endsOf ps, ¬ (p.IsSource ∧ p.IsTarget)) → ∀ qs, qs.Perm ps →
      ((edgeEnds? a qs).isSome ↔ (edgeEnds? a ps).isSome)) := by
  have hnodup := nodup_endsOf hnames
  refine ⟨isSome_edgeEnds?_iff hnodup, fun e he ↦ joins_of_edgeEnds? hnodup he, ?_⟩
  intro hdistinct qs hperm
  have hmem (p : ResolvedProperty) : p ∈ endsOf qs ↔ p ∈ endsOf ps := (hperm.filter _).mem_iff
  have hnodup' : (endsOf qs).Nodup := (hperm.filter _).nodup_iff.mpr hnodup
  have hdistinct' : ∀ p ∈ endsOf qs, ¬ (p.IsSource ∧ p.IsTarget) := fun p hp ↦
    hdistinct p ((hmem p).mp hp)
  rw [isSome_edgeEnds?_iff hnodup, isSome_edgeEnds?_iff hnodup', isEdgeLike_perm hperm]
  simp only [not_eclipsed hdistinct, not_eclipsed hdistinct']

/-! ### A property with two roles -/

/-- A reference that is named as a source and as a target. -/
def fromToEnd : ResolvedProperty :=
  { name := "fromTo", type := "A", target := .interface, declaredIn := "Link" }

/-- A reference that is named as a source, to another interface. -/
def sourceEnd : ResolvedProperty :=
  { name := "source", type := "B", target := .interface, declaredIn := "Link" }

/-- Where the plain source comes first, the rule holds and is not eclipsed. -/
theorem edgeEnds?_isSome_iff_sourceEnd :
    ([sourceEnd, fromToEnd].map (·.name)).Nodup ∧ IsEdgeLike [] [sourceEnd, fromToEnd] ∧
      ¬ Eclipsed [] [sourceEnd, fromToEnd] := by
  have hnames : ([sourceEnd, fromToEnd].map (·.name)).Nodup := by decide
  have hfound : (edgeEnds? [] [sourceEnd, fromToEnd]).isSome = true := by decide +kernel
  exact ⟨hnames, (edgeEnds?_isSome_iff hnames).1.mp hfound⟩

/-- The two references obey the rule in either order, but in one of them nothing is found. -/
theorem fromTo_eclipsed :
    ([fromToEnd, sourceEnd].map (·.name)).Nodup ∧ IsEdgeLike [] [fromToEnd, sourceEnd] ∧
      edgeEnds? [] [fromToEnd, sourceEnd] = none ∧
      edgeEnds? [] [sourceEnd, fromToEnd] = some ⟨sourceEnd, fromToEnd⟩ := by
  refine ⟨by decide, ⟨sourceEnd, by decide, fromToEnd, by decide, by decide, .inl ⟨?_, ?_⟩⟩,
    by decide +kernel, by decide +kernel⟩
  · exact ⟨"source", by decide, by decide +kernel⟩
  · exact ⟨"to", by decide, by decide +kernel⟩

end DiagramForge
