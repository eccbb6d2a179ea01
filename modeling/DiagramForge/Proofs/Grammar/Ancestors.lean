import DiagramForge.Proofs.Grammar.Inheritance

/-!
# The order of ancestors

`Grammar.ancestors` lists exactly the interfaces that an interface inherits from, each of them
once, and by distance: an interface is never listed before one that is nearer.

## The invariant

The search takes the names of the queue level by level. `Level` says that everything nearer than
the current level has been found, that what is left of the level stands first in the queue, and
that the next level so far stands behind it.
-/

namespace DiagramForge.Grammar

variable {g : Grammar} {root : String}

/-! ## Distance -/

/-- An interface inherits from another, with a number of interfaces between them. -/
def Above (g : Grammar) : Nat → String → String → Prop
  | 0, a, b => g.Extends a b
  | k + 1, a, b => ∃ c, g.Above k a c ∧ g.Extends c b

theorem exists_above_iff {a b : String} :
    (∃ k, g.Above k a b) ↔ Relation.TransGen g.Extends a b := by
  constructor
  · rintro ⟨k, h⟩
    induction k generalizing b with
    | zero => exact .single h
    | succ k ih =>
      obtain ⟨c, hc, hcb⟩ := h
      exact (ih hc).tail hcb
  · intro h
    induction h with
    | single h => exact ⟨0, h⟩
    | tail _ hcb ih =>
      obtain ⟨k, hc⟩ := ih
      exact ⟨k + 1, _, hc, hcb⟩

/-- The first interface is no farther from the root than the second. -/
def NoFarther (g : Grammar) (root a b : String) : Prop :=
  ∀ k, g.Above k root b → ∃ j ≤ k, g.Above j root a

/-! ## Levels -/

/-- The search has arrived at level `k`: `near` is what is left of the level, and `far` is what is
known of the next one. -/
structure Level (g : Grammar) (root : String) (k : Nat) (found near far : List String) : Prop where
  /-- Nothing is found twice. -/
  nodup : found.Nodup
  /-- What is found is listed by distance. -/
  ordered : found.Pairwise (g.NoFarther root)
  /-- Nothing farther than the level is found. -/
  within : ∀ a ∈ found, ∃ j ≤ k, g.Above j root a
  /-- What is left of the level belongs to it. -/
  near_above : ∀ a ∈ near, g.Above k root a
  /-- The next level is one farther. -/
  far_above : ∀ a ∈ far, g.Above (k + 1) root a
  /-- Everything nearer than the level is found. -/
  nearer : ∀ j < k, ∀ a, g.Above j root a → a ∈ found
  /-- The level is complete. -/
  level : ∀ a, g.Above k root a → a ∈ found ∨ a ∈ near
  /-- What is found has been expanded. -/
  expanded : ∀ a ∈ found, ∀ b, g.Extends a b → b ∈ found ∨ b ∈ near ∨ b ∈ far

namespace Level

variable {k : Nat} {found near far : List String}

theorem init (g : Grammar) (root : String) : Level g root 0 [] (g.supers root) [] where
  nodup := List.nodup_nil
  ordered := .nil
  within := nofun
  near_above _ ha := ha
  far_above := nofun
  nearer _ hj := absurd hj (Nat.not_lt_zero _)
  level _ ha := .inr ha
  expanded := nofun

/-- At the end of a level the next one begins. -/
theorem next (h : Level g root k found [] far) : Level g root (k + 1) found far [] where
  nodup := h.nodup
  ordered := h.ordered
  within a ha := by
    obtain ⟨j, hj, habove⟩ := h.within a ha
    exact ⟨j, Nat.le_succ_of_le hj, habove⟩
  near_above := h.far_above
  far_above := nofun
  nearer j hj a ha := by
    rcases Nat.lt_succ_iff_lt_or_eq.mp hj with hlt | rfl
    · exact h.nearer j hlt a ha
    · exact (h.level a ha).resolve_right List.not_mem_nil
  level b hb := by
    obtain ⟨a, ha, hab⟩ := hb
    have hfound := (h.level a ha).resolve_right List.not_mem_nil
    exact (h.expanded a hfound b hab).imp_right fun hmem ↦ hmem.resolve_left List.not_mem_nil
  expanded a ha b hab := by
    rcases h.expanded a ha b hab with hb | hb | hb
    · exact .inl hb
    · exact absurd hb List.not_mem_nil
    · exact .inr (.inl hb)

/-- A name that is found already is dropped. -/
theorem skip {name : String} (h : Level g root k found (name :: near) far)
    (hname : name ∈ found) : Level g root k found near far where
  nodup := h.nodup
  ordered := h.ordered
  within := h.within
  near_above a ha := h.near_above a (List.mem_cons_of_mem _ ha)
  far_above := h.far_above
  nearer := h.nearer
  level a ha := by
    rcases h.level a ha with hmem | hmem
    · exact .inl hmem
    · rcases List.mem_cons.mp hmem with rfl | hmem
      · exact .inl hname
      · exact .inr hmem
  expanded a ha b hab := by
    rcases h.expanded a ha b hab with hmem | hmem | hmem
    · exact .inl hmem
    · rcases List.mem_cons.mp hmem with rfl | hmem
      · exact .inl hname
      · exact .inr (.inl hmem)
    · exact .inr (.inr hmem)

/-- A new name is listed, and what it extends belongs to the next level. -/
theorem add {name : String} (h : Level g root k found (name :: near) far) (hname : name ∉ found) :
    Level g root k (found ++ [name]) near (far ++ g.supers name) where
  nodup := by
    rw [List.nodup_append]
    refine ⟨h.nodup, List.nodup_singleton _, fun a ha b hb ↦ ?_⟩
    rw [List.mem_singleton.mp hb]
    exact fun heq ↦ hname (heq ▸ ha)
  ordered := by
    rw [List.pairwise_append]
    refine ⟨h.ordered, List.pairwise_singleton _ _, fun a ha b hb j hj ↦ ?_⟩
    -- what is not found yet is not nearer than the level
    have hkj : k ≤ j := by
      by_contra hlt
      rw [List.mem_singleton.mp hb] at hj
      exact hname (h.nearer j (Nat.lt_of_not_le hlt) name hj)
    obtain ⟨i, hi, habove⟩ := h.within a ha
    exact ⟨i, Nat.le_trans hi hkj, habove⟩
  within a ha := by
    rcases List.mem_append.mp ha with ha | ha
    · exact h.within a ha
    · rw [List.mem_singleton.mp ha]
      exact ⟨k, Nat.le_refl k, h.near_above name List.mem_cons_self⟩
  near_above a ha := h.near_above a (List.mem_cons_of_mem _ ha)
  far_above b hb := by
    rcases List.mem_append.mp hb with hb | hb
    · exact h.far_above b hb
    · exact ⟨name, h.near_above name List.mem_cons_self, hb⟩
  nearer j hj a ha := List.mem_append_left _ (h.nearer j hj a ha)
  level a ha := by
    rcases h.level a ha with hmem | hmem
    · exact .inl (List.mem_append_left _ hmem)
    · rcases List.mem_cons.mp hmem with rfl | hmem
      · exact .inl (List.mem_append_right _ List.mem_cons_self)
      · exact .inr hmem
  expanded a ha b hab := by
    rcases List.mem_append.mp ha with ha | ha
    · rcases h.expanded a ha b hab with hmem | hmem | hmem
      · exact .inl (List.mem_append_left _ hmem)
      · rcases List.mem_cons.mp hmem with rfl | hmem
        · exact .inl (List.mem_append_right _ List.mem_cons_self)
        · exact .inr (.inl hmem)
      · exact .inr (.inr (List.mem_append_left _ hmem))
    · rw [List.mem_singleton.mp ha] at hab
      exact .inr (.inr (List.mem_append_right _ hab))

/-- The first name of the queue belongs to the level, or to the next one if the level is at its
end. -/
theorem exists_cons {name : String} {queue : List String} (h : Level g root k found near far)
    (hqueue : near ++ far = name :: queue) :
    ∃ k near far, Level g root k found (name :: near) far ∧ near ++ far = queue := by
  cases near with
  | nil =>
    rw [List.nil_append] at hqueue
    subst hqueue
    exact ⟨k + 1, queue, [], h.next, List.append_nil queue⟩
  | cons a near =>
    obtain ⟨rfl, rfl⟩ := List.cons.inj hqueue
    exact ⟨k, near, far, h, rfl⟩

/-- When the queue is empty, everything that the root inherits from is found. -/
theorem mem_of_transGen (h : Level g root k found [] []) {a : String}
    (ha : Relation.TransGen g.Extends root a) : a ∈ found := by
  obtain ⟨j, hj⟩ := exists_above_iff.mpr ha
  induction j generalizing a with
  | zero =>
    rcases Nat.eq_zero_or_pos k with rfl | hk
    · exact (h.level a hj).resolve_right List.not_mem_nil
    · exact h.nearer 0 hk a hj
  | succ j ih =>
    obtain ⟨c, hc, hca⟩ := hj
    have hfound := ih (exists_above_iff.mp ⟨j, hc⟩) hc
    exact (h.expanded c hfound a hca).resolve_right fun hmem ↦
      hmem.elim List.not_mem_nil List.not_mem_nil

end Level

/-! ## The search -/

/-- The search goes on until there is no level left. -/
theorem exists_level_ancestorsFrom {k : Nat} {found near far queue : List String}
    (h : Level g root k found near far) (hqueue : near ++ far = queue) :
    ∃ k, Level g root k (g.ancestorsFrom found queue) [] [] := by
  induction found, queue using ancestorsFrom.induct g generalizing k near far with
  | case1 found =>
    obtain ⟨rfl, rfl⟩ := List.append_eq_nil_iff.mp hqueue
    rw [ancestorsFrom]
    exact ⟨k, h⟩
  | case2 found name queue hname ih =>
    obtain ⟨k, near, far, h, rfl⟩ := h.exists_cons hqueue
    rw [ancestorsFrom, if_pos hname]
    exact ih (h.skip (List.contains_iff_mem.mp hname)) rfl
  | case3 found name queue hname ih =>
    obtain ⟨k, near, far, h, rfl⟩ := h.exists_cons hqueue
    rw [ancestorsFrom, if_neg hname]
    exact ih (h.add fun hmem ↦ hname (List.contains_iff_mem.mpr hmem))
      (List.append_assoc near far _).symm

theorem exists_level_ancestors (g : Grammar) (name : String) :
    ∃ k, Level g name k (g.ancestors name) [] [] :=
  exists_level_ancestorsFrom (Level.init g name) (List.append_nil _)

/-- The ancestors of an interface are what it inherits from. -/
theorem mem_ancestors_iff {name a : String} :
    a ∈ g.ancestors name ↔ Relation.TransGen g.Extends name a := by
  obtain ⟨k, h⟩ := exists_level_ancestors g name
  refine ⟨fun ha ↦ ?_, h.mem_of_transGen⟩
  obtain ⟨j, -, hj⟩ := h.within a ha
  exact exists_above_iff.mp ⟨j, hj⟩

theorem nodup_ancestors (g : Grammar) (name : String) : (g.ancestors name).Nodup := by
  obtain ⟨k, h⟩ := exists_level_ancestors g name
  exact h.nodup

/-- Ancestors are listed by distance. -/
theorem pairwise_ancestors (g : Grammar) (name : String) :
    (g.ancestors name).Pairwise (g.NoFarther name) := by
  obtain ⟨k, h⟩ := exists_level_ancestors g name
  exact h.ordered

end DiagramForge.Grammar
