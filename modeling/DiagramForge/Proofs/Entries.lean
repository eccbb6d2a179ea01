import DiagramForge.Data
import Mathlib.Data.List.Nodup
import Mathlib.Data.Set.Operations

/-!
# Lists of entries

What `Entries.set` and `Entries.ofList` do to the keys and to a lookup. `Entries.ofList` keeps each
key once, and a key has its last value: `get?_ofList` and `nodup_ofList`.
-/

namespace DiagramForge.Entries

variable {α : Type}

/-! ## Setting a key -/

/-- A key that is not present is set at the end. -/
theorem set_of_not_mem {es : List (String × α)} {key : String} {value : α}
    (h : key ∉ es.map Prod.fst) : set es key value = es ++ [(key, value)] := by
  induction es with
  | nil => rfl
  | cons e es ih =>
    rw [List.map_cons, List.mem_cons, not_or] at h
    rw [set, if_neg (by rw [beq_iff_eq]; exact Ne.symm h.1), ih h.2, List.cons_append]

theorem mem_of_mem_set {es : List (String × α)} {key : String} {value : α} {e : String × α}
    (h : e ∈ set es key value) : e ∈ es ∨ e = (key, value) := by
  induction es with
  | nil => exact .inr (List.mem_singleton.mp h)
  | cons e' es ih =>
    rw [set] at h
    split at h
    · rcases List.mem_cons.mp h with rfl | h
      · exact .inr rfl
      · exact .inl (List.mem_cons_of_mem _ h)
    · rcases List.mem_cons.mp h with rfl | h
      · exact .inl List.mem_cons_self
      · exact (ih h).imp_left (List.mem_cons_of_mem _)

theorem nodup_set {es : List (String × α)} (h : (es.map Prod.fst).Nodup) (key : String)
    (value : α) : ((set es key value).map Prod.fst).Nodup := by
  induction es with
  | nil => exact List.nodup_cons.mpr ⟨List.not_mem_nil, List.nodup_nil⟩
  | cons e es ih =>
    rw [List.map_cons, List.nodup_cons] at h
    rw [set]
    split
    next heq =>
      rw [beq_iff_eq] at heq
      rw [List.map_cons, List.nodup_cons, ← heq]
      exact h
    next hne =>
      rw [beq_iff_eq] at hne
      rw [List.map_cons, List.nodup_cons]
      refine ⟨fun hmem ↦ ?_, ih h.2⟩
      obtain ⟨e', he', hkey⟩ := List.mem_map.mp hmem
      rcases mem_of_mem_set he' with he' | rfl
      · exact h.1 (List.mem_map.mpr ⟨e', he', hkey⟩)
      · exact hne hkey.symm

/-! ## Lists with repeated keys -/

theorem mem_of_mem_merge {es first : List (String × α)} {e : String × α}
    (h : e ∈ merge first es) : e ∈ first ∨ e ∈ es := by
  induction es generalizing first with
  | nil => exact .inl h
  | cons e' es ih =>
    rcases ih h with h | h
    · rcases mem_of_mem_set h with h | rfl
      · exact .inl h
      · exact .inr List.mem_cons_self
    · exact .inr (List.mem_cons_of_mem _ h)

theorem mem_of_mem_ofList {es : List (String × α)} {e : String × α} (h : e ∈ ofList es) :
    e ∈ es :=
  (mem_of_mem_merge h).resolve_left List.not_mem_nil

theorem nodup_merge {first : List (String × α)} (h : (first.map Prod.fst).Nodup)
    (es : List (String × α)) : ((merge first es).map Prod.fst).Nodup := by
  induction es generalizing first with
  | nil => exact h
  | cons e es ih => exact ih (nodup_set h _ _)

/-- Each key is kept once. -/
theorem nodup_ofList (es : List (String × α)) : ((ofList es).map Prod.fst).Nodup := by
  refine nodup_merge ?_ es
  exact List.nodup_nil

theorem get?_append (first second : List (String × α)) (key : String) :
    get? (first ++ second) key = (get? first key).or (get? second key) := by
  rw [get?, List.find?_append, Option.map_or]
  rfl

theorem get?_singleton (e : String × α) (key : String) :
    get? [e] key = if e.1 == key then some e.2 else none := by
  rw [get?, List.find?_singleton]
  split <;> rfl

theorem get?_cons (e : String × α) (es : List (String × α)) (key : String) :
    get? (e :: es) key = if e.1 == key then some e.2 else get? es key := by
  rw [← List.singleton_append, get?_append, get?_singleton]
  split <;> rfl

theorem get?_set (es : List (String × α)) (key other : String) (value : α) :
    get? (set es key value) other = if key == other then some value else get? es other := by
  split
  next heq => rw [← eq_of_beq heq, get?_set_self]
  next hne => exact get?_set_of_ne es value fun heq ↦ hne (beq_iff_eq.mpr heq)

theorem get?_erase (es : List (String × α)) (key other : String) :
    get? (erase es key) other = if key == other then none else get? es other := by
  induction es with
  | nil => split <;> rfl
  | cons e es ih =>
    rw [erase, List.filter_cons, ← erase, get?_cons]
    split
    next hkept =>
      rw [get?_cons, ih]
      by_cases hother : e.1 == other
      · rw [if_pos hother, if_pos hother, if_neg]
        rw [← eq_of_beq hother, beq_iff_eq]
        exact fun heq ↦ bne_iff_ne.mp hkept heq.symm
      · rw [if_neg hother, if_neg hother]
    next hdropped =>
      have hkey : e.1 = key := Decidable.of_not_not fun hne ↦ hdropped (bne_iff_ne.mpr hne)
      rw [ih, hkey]
      split <;> rfl

theorem get?_merge (first es : List (String × α)) (key : String) :
    get? (merge first es) key = (get? es.reverse key).or (get? first key) := by
  induction es generalizing first with
  | nil => rfl
  | cons e es ih =>
    have hmerge : merge first (e :: es) = merge (set first e.1 e.2) es := rfl
    rw [hmerge, ih, List.reverse_cons, get?_append, get?_singleton, get?_set, Option.or_assoc]
    congr 1
    split <;> rfl

/-- A key has its last value. -/
theorem get?_ofList (es : List (String × α)) (key : String) :
    get? (ofList es) key = get? es.reverse key :=
  (get?_merge [] es key).trans Option.or_none

/-- A table whose values are changed. -/
theorem get?_map {β : Type} (f : α → β) (es : List (String × α)) (key : String) :
    get? (es.map fun e ↦ (e.1, f e.2)) key = (get? es key).map f := by
  induction es with
  | nil => rfl
  | cons e es ih =>
    rw [List.map_cons, get?_cons, get?_cons, ih]
    split <;> rfl

/-- A table of the values of a function. -/
theorem get?_map_of_mem (f : String → α) {keys : List String} {key : String} (h : key ∈ keys) :
    get? (keys.map fun k ↦ (k, f k)) key = some (f key) := by
  induction keys with
  | nil => exact absurd h List.not_mem_nil
  | cons k keys ih =>
    rw [List.map_cons, get?_cons]
    split
    next heq =>
      have hkey : k = key := eq_of_beq heq
      rw [hkey]
    next hne =>
      refine ih ((List.mem_cons.mp h).resolve_left ?_)
      rintro rfl
      exact hne (beq_self_eq_true _)

/-- Where the keys differ, the entry of a key is the only one with it. -/
theorem filter_eq_singleton {es : List (String × α)} (hnodup : (es.map Prod.fst).Nodup)
    {key : String} {value : α} (h : get? es key = some value) :
    (es.filter fun e ↦ e.1 == key) = [(key, value)] := by
  induction es with
  | nil => cases h
  | cons e es ih =>
    rw [List.map_cons, List.nodup_cons] at hnodup
    rw [get?_cons] at h
    rw [List.filter_cons]
    split at h
    next heq =>
      cases h
      have hkey := eq_of_beq heq
      have hrest : (es.filter fun e ↦ e.1 == key) = [] := by
        rw [List.filter_eq_nil_iff]
        intro e' he' hkey'
        refine hnodup.1 (List.mem_map.mpr ⟨e', he', ?_⟩)
        rw [hkey, eq_of_beq hkey']
      rw [if_pos heq, hrest, ← hkey]
    next hne =>
      rw [if_neg hne]
      exact ih hnodup.2 h

theorem mem_of_get? {es : List (String × α)} {key : String} {value : α}
    (h : get? es key = some value) : (key, value) ∈ es := by
  obtain ⟨e, he, rfl⟩ := Option.map_eq_some_iff.mp h
  have hfound := List.find?_some he
  have hkey : e.1 = key := eq_of_beq hfound
  rw [← hkey]
  exact List.mem_of_find?_eq_some he

/-- Where the keys differ, each entry is found by its key. -/
theorem get?_eq_none {es : List (String × α)} {key : String} (h : key ∉ es.map Prod.fst) :
    get? es key = none := by
  rw [get?, Option.map_eq_none_iff, List.find?_eq_none]
  intro e he hkey
  exact h (eq_of_beq hkey ▸ List.mem_map_of_mem he)

theorem get?_of_mem {es : List (String × α)} (hnodup : (es.map Prod.fst).Nodup)
    {e : String × α} (he : e ∈ es) : get? es e.1 = some e.2 := by
  induction es with
  | nil => cases he
  | cons e' es ih =>
    rw [List.map_cons, List.nodup_cons] at hnodup
    rw [get?_cons]
    rcases List.mem_cons.mp he with rfl | he
    · rw [if_pos (beq_self_eq_true _)]
    · have hne : e'.1 ≠ e.1 := fun heq ↦ hnodup.1 (heq ▸ List.mem_map_of_mem he)
      rw [if_neg (by simpa using hne)]
      exact ih hnodup.2 he

/-! ## Renamed keys -/

section Renamed

variable {β : Type} {f : String → String} {φ : α → β} {keys : Set String}

theorem set_renamed (hf : Set.InjOn f keys) {es : List (String × α)} (hes : ∀ e ∈ es, e.1 ∈ keys)
    {key : String} (hkey : key ∈ keys) (value : α) :
    set (es.map fun e ↦ (f e.1, φ e.2)) (f key) (φ value) =
      (set es key value).map fun e ↦ (f e.1, φ e.2) := by
  induction es with
  | nil => rfl
  | cons e es ih =>
    rw [List.forall_mem_cons] at hes
    rw [List.map_cons, set, set, ih hes.2]
    by_cases heq : e.1 = key
    · simp [heq]
    · have hne : f e.1 ≠ f key := fun h ↦ heq (hf hes.1 hkey h)
      simp [heq, hne]

theorem merge_renamed (hf : Set.InjOn f keys) {first es : List (String × α)}
    (hfirst : ∀ e ∈ first, e.1 ∈ keys) (hes : ∀ e ∈ es, e.1 ∈ keys) :
    merge (first.map fun e ↦ (f e.1, φ e.2)) (es.map fun e ↦ (f e.1, φ e.2)) =
      (merge first es).map fun e ↦ (f e.1, φ e.2) := by
  induction es generalizing first with
  | nil => rfl
  | cons e es ih =>
    rw [List.forall_mem_cons] at hes
    have hset : ∀ e' ∈ set first e.1 e.2, e'.1 ∈ keys := by
      intro e' he'
      rcases mem_of_mem_set he' with he' | rfl
      · exact hfirst e' he'
      · exact hes.1
    have hstep := ih hset hes.2
    rw [← set_renamed hf hfirst hes.1] at hstep
    exact hstep

/-- If the keys are renamed and keep apart, the table is that of the renamed keys. -/
theorem ofList_renamed (hf : Set.InjOn f keys) {es : List (String × α)}
    (hes : ∀ e ∈ es, e.1 ∈ keys) :
    ofList (es.map fun e ↦ (f e.1, φ e.2)) = (ofList es).map fun e ↦ (f e.1, φ e.2) := by
  have hnone : ∀ e ∈ ([] : List (String × α)), e.1 ∈ keys := nofun
  exact merge_renamed hf hnone hes

end Renamed

/-! ## Distinct keys in any order -/

/-- Among items with distinct keys, an item is found by its key. -/
theorem find?_key_eq_some_iff {α : Type} {key : α → String} {as : List α}
    (hkeys : (as.map key).Nodup) {k : String} {a : α} :
    as.find? (fun a ↦ key a == k) = some a ↔ a ∈ as ∧ key a = k := by
  constructor
  · intro h
    have hkey := List.find?_some h
    exact ⟨List.mem_of_find?_eq_some h, eq_of_beq hkey⟩
  · rintro ⟨ha, rfl⟩
    obtain ⟨b, hb⟩ : ∃ b, as.find? (fun b ↦ key b == key a) = some b :=
      Option.isSome_iff_exists.mp (List.find?_isSome.mpr ⟨a, ha, beq_self_eq_true _⟩)
    have hkey := List.find?_some hb
    rw [hb, List.inj_on_of_nodup_map hkeys (List.mem_of_find?_eq_some hb) ha (eq_of_beq hkey)]

variable {es es' : List (String × α)}

theorem merge_of_nodup {first : List (String × α)}
    (hkeys : ((first ++ es).map Prod.fst).Nodup) : merge first es = first ++ es := by
  induction es generalizing first with
  | nil => exact (List.append_nil first).symm
  | cons e es ih =>
    have hnew : e.1 ∉ first.map Prod.fst := by
      rw [List.map_append, List.map_cons] at hkeys
      exact fun hmem ↦ (List.nodup_append.mp hkeys).2.2 _ hmem _ List.mem_cons_self rfl
    have hmerge : merge first (e :: es) = merge (set first e.1 e.2) es := rfl
    have hassoc : first ++ [e] ++ es = first ++ e :: es := List.append_cons first e es ▸ rfl
    rw [hmerge, set_of_not_mem hnew, ih (by rwa [hassoc]), hassoc]

/-- A table of entries with distinct keys lists them as they are. -/
theorem ofList_of_nodup (hkeys : (es.map Prod.fst).Nodup) : ofList es = es :=
  merge_of_nodup hkeys

end DiagramForge.Entries
