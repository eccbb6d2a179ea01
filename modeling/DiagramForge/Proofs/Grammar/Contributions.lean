import DiagramForge.Grammar.Parse
import Mathlib.Data.List.Nodup

/-!
# What rules contribute

The rules of a grammar are read one after the other, and each adds interfaces and aliases to what
those before it have contributed. Here is what one rule adds, as far as names go.

There are three ways in which a rule adds something. A type that one of its segments produces is
merged into the interface of its name, if there is one; an alias for its alternatives is added under
a name that is free; and an alias for a data type is added under the name of the rule, whether it is
free or not. So the names stay distinct as long as no data type rule bears a name that is taken:
`Contribution.nodup_names_addRule`.
-/

namespace DiagramForge.Grammar

variable {explicit : List String} {types : RuleTypes}

/-! ## Interfaces of a name -/

theorem any_name_eq_true_iff {is : List Interface} {name : String} :
    (is.any fun i ↦ i.name == name) = true ↔ name ∈ is.map (·.name) := by
  simp [List.any_eq_true, List.mem_map]

/-- Merging keeps the names and adds that of a new interface at the end. -/
theorem names_mergeInferred (is : List Interface) (i : Interface) :
    (mergeInferred is i).map (·.name) =
      if i.name ∈ is.map (·.name) then is.map (·.name) else is.map (·.name) ++ [i.name] := by
  rw [mergeInferred]
  simp only [any_name_eq_true_iff]
  split
  · rw [List.map_map]
    apply List.map_congr_left
    intro j _
    dsimp only [Function.comp_apply]
    split <;> rfl
  · simp

/-! ## Names -/

namespace Contribution

/-- The names that are taken: those of the explicit interfaces, of the inferred ones and of the
aliases. -/
def names (explicit : List String) (k : Contribution) : List String :=
  explicit ++ k.interfaces.map (·.name) ++ k.aliases.map (·.name)

variable {k : Contribution}

theorem hasInterface_iff {name : String} :
    k.hasInterface name = true ↔ name ∈ k.interfaces.map (·.name) :=
  any_name_eq_true_iff

theorem hasAlias_iff {name : String} :
    k.hasAlias name = true ↔ name ∈ k.aliases.map (·.name) := by
  simp [hasAlias, List.any_eq_true, List.mem_map]

theorem mem_names_iff {name : String} : name ∈ k.names explicit ↔
    (name ∈ explicit ∨ k.hasInterface name = true) ∨ k.hasAlias name = true := by
  rw [names, List.mem_append, List.mem_append, hasInterface_iff, hasAlias_iff]

/-- Adding an alias keeps the names distinct if and only if its name is free. -/
theorem nodup_names_addAlias (t : TypeAlias) :
    (names explicit { k with aliases := k.aliases ++ [t] }).Nodup ↔
      (k.names explicit).Nodup ∧ t.name ∉ k.names explicit := by
  have hnames : names explicit { k with aliases := k.aliases ++ [t] } =
      k.names explicit ++ [t.name] := by
    simp [names]
  rw [hnames, List.nodup_append_comm, List.singleton_append, List.nodup_cons, and_comm]

/-! ## The types that a rule produces -/

@[simp] theorem aliases_addProduced (notes : Annotations) (p : Produced) :
    (k.addProduced explicit notes p).aliases = k.aliases := by
  rw [addProduced]
  split
  · rfl
  split <;> rfl

/-- A type that a rule produces takes a name that is free, or it is merged into what has its name. -/
theorem nodup_names_addProduced (notes : Annotations) (p : Produced) :
    ((k.addProduced explicit notes p).names explicit).Nodup ↔ (k.names explicit).Nodup := by
  rw [addProduced]
  split
  · rfl
  next hfree =>
    split
    · rfl
    · rw [names, names, names_mergeInferred]
      split
      · rfl
      next hnew =>
        have hnot : p.type ∉ k.names explicit := by
          simp only [Bool.or_eq_true, List.contains_iff_mem, not_or] at hfree
          rw [mem_names_iff, hasInterface_iff]
          simp only [not_or]
          exact ⟨⟨hfree.1, hnew⟩, hfree.2⟩
        have hperm : (explicit ++ (k.interfaces.map (·.name) ++ [p.type]) ++
            k.aliases.map (·.name)).Perm (p.type :: k.names explicit) := by
          rw [← List.append_assoc, List.append_assoc, List.singleton_append]
          exact List.perm_middle
        rw [hperm.nodup_iff, List.nodup_cons]
        exact and_iff_right hnot

@[simp] theorem aliases_foldl_addProduced (notes : Annotations) (ps : List Produced) :
    (ps.foldl (addProduced explicit notes) k).aliases = k.aliases := by
  induction ps generalizing k with
  | nil => rfl
  | cons p ps ih => rw [List.foldl_cons, ih, aliases_addProduced]

theorem nodup_names_foldl_addProduced (notes : Annotations) (ps : List Produced) :
    ((ps.foldl (addProduced explicit notes) k).names explicit).Nodup ↔
      (k.names explicit).Nodup := by
  induction ps generalizing k with
  | nil => rfl
  | cons p ps ih => rw [List.foldl_cons, ih, nodup_names_addProduced]

end Contribution

/-! ## Rules -/

/-- Whether a rule is taken for a data type: it returns a primitive, or what some terminal
returns. -/
def Rule.isDataType (types : RuleTypes) (r : Rule) : Bool :=
  (r.returns.filter (Grammar.isDataType types.terminals)).isSome

namespace Contribution

variable {k : Contribution} {r : Rule}

/-- Whether a rule is passed over: an explicit interface or an alias has the name of its type. -/
def passesOver (explicit : List String) (k : Contribution) (r : Rule) : Bool :=
  explicit.contains r.target || k.hasAlias r.target

/-- Whether a rule is read for the types that it produces: it is neither passed over nor taken for a
data type. -/
def reads (explicit : List String) (types : RuleTypes) (k : Contribution) (r : Rule) : Bool :=
  !k.passesOver explicit r && !r.isDataType types

/-- Nothing comes of a rule that is passed over. -/
theorem addRule_of_passesOver (h : k.passesOver explicit r = true) :
    k.addRule explicit types r = k :=
  if_pos h

/-- A data type is an alias of the name of its rule. -/
theorem exists_addRule_of_isDataType (h : k.passesOver explicit r = false)
    (hdata : r.isDataType types = true) : ∃ type, k.addRule explicit types r =
      { k with aliases := k.aliases ++ [⟨r.name, type, [], []⟩] } := by
  obtain ⟨type, htype⟩ := Option.isSome_iff_exists.mp hdata
  refine ⟨type, ?_⟩
  rw [passesOver] at h
  rw [addRule, h, htype]
  rfl

/-- What a rule that is read adds: the types that it produces, and an alias for its alternatives if
it does not produce its own type. -/
theorem addRule_of_reads (h : k.reads explicit types r = true) : k.addRule explicit types r =
    let added := (r.produced types).foldl (addProduced explicit r.annotations) k
    if !added.hasInterface r.target && (r.produced types).length ≤ 1 && isAlternatives r.body then
      { added with aliases := added.aliases ++ [aliasOf r.target r.body r.annotations] }
    else added := by
  simp only [reads, passesOver, Rule.isDataType, Bool.and_eq_true, Bool.not_eq_true',
    Option.isSome_eq_false_iff, Option.isNone_iff_eq_none] at h
  rw [addRule, h.1, h.2]
  rfl

theorem reads_eq_true_iff : k.reads explicit types r = true ↔
    k.passesOver explicit r = false ∧ r.isDataType types = false := by
  simp [reads]

/-- The body of a rule matters only if the rule is read, and then by what is produced and by the
alternatives that it lists. -/
theorem addRule_body {body : List Char} (h : k.reads explicit types r = true →
      Rule.produced { r with body := body } types = r.produced types ∧
        isAlternatives body = false ∧ isAlternatives r.body = false) :
    k.addRule explicit types { r with body := body } = k.addRule explicit types r := by
  by_cases hreads : k.reads explicit types r = true
  · obtain ⟨hproduced, hnone, hnone'⟩ := h hreads
    have hreads' : k.reads explicit types { r with body := body } = true := hreads
    rw [addRule_of_reads hreads, addRule_of_reads hreads', hproduced]
    simp [hnone, hnone']
  · rw [reads_eq_true_iff, not_and_or, Bool.not_eq_false, Bool.not_eq_false] at hreads
    by_cases hpass : k.passesOver explicit r = true
    · have hpass' : k.passesOver explicit { r with body := body } = true := hpass
      rw [addRule_of_passesOver hpass, addRule_of_passesOver hpass']
    · -- a data type is told by what the rule returns
      obtain ⟨type, htype⟩ := Option.isSome_iff_exists.mp (hreads.resolve_left hpass)
      have htarget : Rule.target { r with body := body } = r.target := rfl
      rw [addRule, addRule, htarget, htype]

/-- A rule is taken for a data type, and its name is taken already. -/
def Clashes (explicit : List String) (types : RuleTypes) (k : Contribution) (r : Rule) : Prop :=
  k.passesOver explicit r = false ∧ r.isDataType types = true ∧ r.name ∈ k.names explicit

/-- **A rule keeps the names distinct unless it clashes.** -/
theorem nodup_names_addRule : ((k.addRule explicit types r).names explicit).Nodup ↔
    (k.names explicit).Nodup ∧ ¬ k.Clashes explicit types r := by
  rcases hpass : k.passesOver explicit r with _ | _
  case true =>
    have hclash : ¬ k.Clashes explicit types r := by
      rintro ⟨hnot, -⟩
      simp [hpass] at hnot
    rw [addRule_of_passesOver hpass]
    exact (and_iff_left hclash).symm
  rcases hdata : r.isDataType types with _ | _
  case true =>
    obtain ⟨type, hadd⟩ := exists_addRule_of_isDataType hpass hdata
    rw [hadd, nodup_names_addAlias]
    simp [Clashes, hpass, hdata]
  case false =>
    have hclash : ¬ k.Clashes explicit types r := by
      rintro ⟨-, hnot, -⟩
      simp [hdata] at hnot
    rw [addRule_of_reads (reads_eq_true_iff.mpr ⟨hpass, hdata⟩), and_iff_left hclash]
    dsimp only
    split
    next hlists =>
      -- the alias has the name of the rule's type, which nothing else has
      have hfree : (aliasOf r.target r.body r.annotations).name ∉
          ((r.produced types).foldl (addProduced explicit r.annotations) k).names explicit := by
        simp only [passesOver, Bool.or_eq_false_iff, List.contains_eq_mem,
          decide_eq_false_iff_not] at hpass
        simp only [Bool.and_eq_true, Bool.not_eq_true'] at hlists
        rw [mem_names_iff, hasAlias_iff, aliases_foldl_addProduced, ← hasAlias_iff]
        simp [aliasOf, hpass, hlists.1.1]
      rw [nodup_names_addAlias, and_iff_left hfree, nodup_names_foldl_addProduced]
    next => exact nodup_names_foldl_addProduced _ _

/-- What a list of rules contributes keeps the names distinct if and only if no rule clashes with what
those before it have contributed. -/
theorem nodup_names_foldl_addRule (rs : List Rule) :
    ((rs.foldl (addRule explicit types) k).names explicit).Nodup ↔ (k.names explicit).Nodup ∧
      ∀ before r after, rs = before ++ r :: after →
        ¬ (before.foldl (addRule explicit types) k).Clashes explicit types r := by
  induction rs generalizing k with
  | nil => simp
  | cons r rs ih =>
    rw [List.foldl_cons, ih, nodup_names_addRule, and_assoc]
    refine and_congr_right fun _ ↦ ?_
    constructor
    · rintro ⟨hfirst, hmore⟩ before r' after heq
      rcases before with _ | ⟨r'', before⟩
      · obtain ⟨rfl, rfl⟩ := List.cons.inj heq
        exact hfirst
      · obtain ⟨rfl, rfl⟩ := List.cons.inj heq
        exact hmore before r' after rfl
    · intro h
      exact ⟨h [] r rs rfl, fun before r' after heq ↦ h (r :: before) r' after (by rw [heq]; rfl)⟩

end Contribution

end DiagramForge.Grammar
