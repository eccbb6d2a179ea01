import DiagramForge.Proofs.History
import DiagramForge.Template.Cache
import Mathlib.Data.List.Nodup

/-!
# What a cache remembers

A cache is a map that may forget. Whatever was called before and whatever the clock showed, a lookup
finds only what was last stored under its key; and if the number of entries is not limited, it finds
it unless the entry is outdated: `Cache.after_faithful`.

## The argument

What a single call does is said once for each operation: what it leaves in the table of entries for
a key (`find?_set`, `find?_get`, `find?_clear`), and that the two tables keep the same keys in the
same order (`Paired`). Everything about sequences of calls is an induction on their last call.

An entry `Lasts` in a sequence of calls if it was stored and no call since has taken it away. This
speaks of the calls alone; that a cache with a limit may drop an entry earlier is the only
difference between what lasts and what is there.
-/

namespace DiagramForge.Template

namespace Cache

variable {κ ν α β : Type} [DecidableEq κ] {c : Cache κ ν} {key other : κ}

/-! ## Tables -/

theorem valueAt?_cons (e : κ × α) (table : List (κ × α)) (key : κ) :
    valueAt? (e :: table) key = if e.1 = key then some e.2 else valueAt? table key := by
  rw [valueAt?, List.find?_cons]
  by_cases hkey : e.1 = key
  · simp [hkey]
  · simp [hkey, valueAt?]

theorem valueAt?_place (key other : κ) (a : α) (table : List (κ × α)) :
    valueAt? (place key a table) other = if key = other then some a else valueAt? table other := by
  induction table with
  | nil => rw [place, valueAt?_cons]
  | cons e table ih =>
    rw [place]
    by_cases he : e.1 = key
    · rw [if_pos he, valueAt?_cons, valueAt?_cons, he]
      split <;> rfl
    · rw [if_neg he, valueAt?_cons, ih, valueAt?_cons]
      by_cases hother : e.1 = other
      · rw [if_pos hother, if_pos hother, if_neg fun hkey ↦ he (hother.trans hkey.symm)]
      · rw [if_neg hother, if_neg hother]

theorem valueAt?_remove (key other : κ) (table : List (κ × α)) :
    valueAt? (remove key table) other = if key = other then none else valueAt? table other := by
  induction table with
  | nil =>
    split <;> rfl
  | cons e table ih =>
    rw [remove, List.filter_cons]
    by_cases he : e.1 = key
    · rw [if_neg (by simpa using he), ← remove, ih, valueAt?_cons, he]
      split <;> rfl
    · rw [if_pos (by simpa using he), ← remove, valueAt?_cons, ih, valueAt?_cons]
      by_cases hother : e.1 = other
      · rw [if_pos hother, if_pos hother, if_neg fun hkey ↦ he (hother.trans hkey.symm)]
      · rw [if_neg hother, if_neg hother]

theorem mem_place {a : α} {table : List (κ × α)} {e : κ × α} (he : e ∈ place key a table) :
    e = (key, a) ∨ e ∈ table := by
  induction table with
  | nil => exact .inl (List.mem_singleton.mp he)
  | cons e' table ih =>
    rw [place] at he
    split at he
    all_goals rcases List.mem_cons.mp he with rfl | he
    · exact .inl rfl
    · exact .inr (List.mem_cons_of_mem _ he)
    · exact .inr List.mem_cons_self
    · exact (ih he).imp_right (List.mem_cons_of_mem _)

/-- Two tables have the same keys in the same order, each of them once. -/
structure Paired (first : List (κ × α)) (second : List (κ × β)) : Prop where
  /-- The keys are the same. -/
  keys_eq : second.map Prod.fst = first.map Prod.fst
  /-- No key is repeated. -/
  nodup : (first.map Prod.fst).Nodup

theorem keys_remove (key : κ) (table : List (κ × α)) :
    (remove key table).map Prod.fst = (table.map Prod.fst).filter (· ≠ key) := by
  rw [remove, List.filter_map]
  rfl

theorem keys_place (key : κ) (a : α) (table : List (κ × α)) :
    (place key a table).map Prod.fst =
      if key ∈ table.map Prod.fst then table.map Prod.fst else table.map Prod.fst ++ [key] := by
  induction table with
  | nil => rfl
  | cons e table ih =>
    rw [place]
    by_cases he : e.1 = key
    · rw [if_pos he, if_pos (by simp [he]), List.map_cons, List.map_cons, he]
    · have hmem : key ∈ (e :: table).map Prod.fst ↔ key ∈ table.map Prod.fst := by
        rw [List.map_cons, List.mem_cons]
        exact or_iff_right fun hkey ↦ he hkey.symm
      rw [if_neg he, List.map_cons, ih]
      by_cases hin : key ∈ table.map Prod.fst
      · rw [if_pos hin, if_pos (hmem.mpr hin), List.map_cons]
      · rw [if_neg hin, if_neg fun h ↦ hin (hmem.mp h), List.map_cons, List.cons_append]

namespace Paired

variable {first : List (κ × α)} {second : List (κ × β)}

theorem remove (h : Paired first second) (key : κ) :
    Paired (Cache.remove key first) (Cache.remove key second) where
  keys_eq := by rw [keys_remove, keys_remove, h.keys_eq]
  nodup := by
    rw [keys_remove]
    exact h.nodup.filter _

theorem place (h : Paired first second) (key : κ) (a : α) (b : β) :
    Paired (Cache.place key a first) (Cache.place key b second) where
  keys_eq := by rw [keys_place, keys_place, h.keys_eq]
  nodup := by
    rw [keys_place]
    split
    case isTrue => exact h.nodup
    case isFalse hkey => exact List.nodup_append_comm.mp (List.nodup_cons.mpr ⟨hkey, h.nodup⟩)

/-- A key that is there already stays where it is. -/
theorem place_right (h : Paired first second) {key : κ} {a : α} (hkey : valueAt? first key = some a)
    (b : β) : Paired first (Cache.place key b second) where
  keys_eq := by
    have hmem : key ∈ first.map Prod.fst := by
      obtain ⟨e, he, -⟩ := Option.map_eq_some_iff.mp hkey
      have heq : e.1 = key := by simpa using List.find?_some he
      exact heq ▸ List.mem_map_of_mem (List.mem_of_find?_eq_some he)
    rw [keys_place, h.keys_eq, if_pos hmem]
  nodup := h.nodup

end Paired

/-! ## Entries that give way -/

/-- A fold that at each item takes the item or keeps what it has yields one of them. -/
theorem foldl_choice_mem (p : α → α → Prop) [DecidableRel p] (a : α) (as : List α) :
    as.foldl (fun old a ↦ if p a old then a else old) a ∈ a :: as := by
  induction as generalizing a with
  | nil => exact List.mem_cons_self
  | cons b as ih =>
    rw [List.foldl_cons]
    by_cases hb : p b a
    · rw [if_pos hb]
      exact List.mem_cons_of_mem _ (ih b)
    · rw [if_neg hb]
      rcases List.mem_cons.mp (ih a) with hmem | hmem
      · rw [hmem]
        exact List.mem_cons_self
      · exact List.mem_cons_of_mem _ (List.mem_cons_of_mem _ hmem)

theorem oldest?_mem {accesses : List (κ × Int)} {es : List (κ × CacheEntry ν)}
    (h : oldest? accesses es = some key) : key ∈ es.map Prod.fst := by
  cases es with
  | nil => cases h
  | cons e es =>
    rw [oldest?, Option.some.injEq] at h
    exact h ▸ List.mem_map_of_mem (foldl_choice_mem
      (fun e old ↦ touchedAt accesses e.1 < touchedAt accesses old.1) e es)

theorem length_remove_lt {table : List (κ × α)} (h : key ∈ table.map Prod.fst) :
    (remove key table).length < table.length := by
  obtain ⟨e, he, hkey⟩ := List.mem_map.mp h
  refine List.length_filter_lt_length_iff_exists.mpr ⟨e, he, ?_⟩
  simpa using hkey

section Shrink

variable {es : List (κ × CacheEntry ν)} {accesses : List (κ × Int)} {capacity excess : Nat}

/-- What is left when entries give way was there before. -/
theorem valueAt?_shrink {e : CacheEntry ν}
    (h : valueAt? (shrink capacity es accesses excess).1 key = some e) :
    valueAt? es key = some e := by
  induction excess generalizing es accesses with
  | zero => exact h
  | succ excess ih =>
    rw [shrink] at h
    split at h
    · exact h
    · split at h
      · exact h
      · replace h := ih h
        rw [valueAt?_remove] at h
        split at h
        · cases h
        · exact h

theorem mem_of_mem_shrink {e : κ × CacheEntry ν}
    (he : e ∈ (shrink capacity es accesses excess).1) : e ∈ es := by
  induction excess generalizing es accesses with
  | zero => exact he
  | succ excess ih =>
    rw [shrink] at he
    split at he
    · exact he
    · split at he
      · exact he
      · exact List.mem_of_mem_filter (ih he)

theorem Paired.shrink (h : Paired es accesses) :
    Paired (shrink capacity es accesses excess).1 (shrink capacity es accesses excess).2 := by
  induction excess generalizing es accesses with
  | zero => exact h
  | succ excess ih =>
    rw [Cache.shrink]
    split
    · exact h
    · split
      · exact h
      case h_2 key _ => exact ih (h.remove key)

/-- Each step of giving way removes an entry, so there are steps enough. -/
theorem length_shrink_le (h : es.length ≤ capacity + excess) :
    (shrink capacity es accesses excess).1.length ≤ capacity := by
  induction excess generalizing es accesses with
  | zero => exact h
  | succ excess ih =>
    rw [shrink]
    split
    case isTrue hle => exact hle
    case isFalse =>
      split
      case h_1 holdest =>
        cases es with
        | nil => exact Nat.zero_le _
        | cons e es => cases holdest
      case h_2 key holdest =>
        have hlt := length_remove_lt (oldest?_mem holdest)
        exact ih (by omega)

end Shrink

/-! ## One call -/

theorem mem_of_find? {e : CacheEntry ν} (h : c.find? key = some e) : (key, e) ∈ c.entries := by
  rw [find?, valueAt?, Option.map_eq_some_iff] at h
  obtain ⟨⟨key', e'⟩, he, rfl⟩ := h
  have hkey : key' = key := by simpa using List.find?_some he
  exact hkey ▸ List.mem_of_find?_eq_some he

/-- A lookup finds what is there and not outdated. -/
theorem get_eq_some_iff {checked touched : Int} {modified : Option Int} {v : ν} :
    (c.get key checked modified touched).1 = some v ↔
      ∃ e, c.find? key = some e ∧ c.isStale e checked modified = false ∧ e.value = v := by
  rw [get]
  split
  case h_1 hfind =>
    rw [hfind]
    exact ⟨nofun, fun ⟨_, h, _⟩ ↦ nomatch h⟩
  case h_2 e hfind =>
    rw [hfind]
    by_cases hstale : c.isStale e checked modified = true
    · rw [if_pos hstale]
      refine ⟨nofun, ?_⟩
      rintro ⟨_, h, hfresh, -⟩
      cases h
      rw [hstale] at hfresh
      cases hfresh
    · rw [if_neg hstale, Option.some.injEq]
      refine ⟨fun h ↦ ⟨e, rfl, Bool.eq_false_iff.mpr hstale, h⟩, ?_⟩
      rintro ⟨_, h, -, rfl⟩
      cases h
      rfl

/-- A lookup takes away the entry of its key if it is outdated, and nothing else. -/
theorem find?_get (c : Cache κ ν) (key other : κ) (checked : Int) (modified : Option Int)
    (touched : Int) : (c.get key checked modified touched).2.find? other =
      if key = other then (c.find? key).filter fun e ↦ !c.isStale e checked modified
      else c.find? other := by
  rw [get]
  split
  case h_1 hfind =>
    rw [hfind]
    split
    case isTrue hkey => exact hkey ▸ hfind
    case isFalse => rfl
  case h_2 e hfind =>
    rw [hfind]
    by_cases hstale : c.isStale e checked modified = true
    · rw [if_pos hstale, Option.filter_some, hstale]
      exact valueAt?_remove key other c.entries
    · rw [Bool.not_eq_true] at hstale
      simp only [hstale, Bool.false_eq_true, if_false, Option.filter_some, Bool.not_false, if_true]
      split
      case isTrue hkey => exact hkey ▸ hfind
      case isFalse => rfl

/-- A lookup adds no entry. -/
theorem mem_entries_get {checked touched : Int} {modified : Option Int} {e : κ × CacheEntry ν}
    (he : e ∈ (c.get key checked modified touched).2.entries) : e ∈ c.entries := by
  rw [get] at he
  split at he
  · exact he
  · split at he
    · exact List.mem_of_mem_filter he
    · exact he

theorem entries_set (c : Cache κ ν) (key : κ) (v : ν) (now : Int) (source : Option Int) :
    (c.set key v now source).entries = match c.capacity with
      | none => place key (entryOf v now source) c.entries
      | some capacity => (shrink capacity.toNat (place key (entryOf v now source) c.entries)
          (place key now c.accesses) (place key (entryOf v now source) c.entries).length).1 := by
  rw [set]
  cases c.capacity <;> rfl

/-- Storing adds the entry of the value and no other. -/
theorem mem_entries_set {v : ν} {now : Int} {source : Option Int} {e : κ × CacheEntry ν}
    (he : e ∈ (c.set key v now source).entries) :
    e = (key, entryOf v now source) ∨ e ∈ c.entries := by
  rw [entries_set] at he
  split at he
  · exact mem_place he
  · exact mem_place (mem_of_mem_shrink he)

/-- What is there after a value is stored is the value, or was there. -/
theorem find?_set {v : ν} {now : Int} {source : Option Int} {e : CacheEntry ν}
    (h : (c.set key v now source).find? other = some e) :
    (if key = other then some (entryOf v now source) else c.find? other) = some e := by
  rw [find?, entries_set] at h
  rw [find?, ← valueAt?_place]
  split at h
  · exact h
  · exact valueAt?_shrink h

/-- Without a limit, nothing gives way. -/
theorem find?_set_of_unlimited (h : c.capacity = none) (key other : κ) (v : ν) (now : Int)
    (source : Option Int) : (c.set key v now source).find? other =
      if key = other then some (entryOf v now source) else c.find? other := by
  rw [find?, entries_set, h]
  exact valueAt?_place key other _ c.entries

theorem capacity_get (c : Cache κ ν) (key : κ) (checked : Int) (modified : Option Int)
    (touched : Int) : (c.get key checked modified touched).2.capacity = c.capacity := by
  rw [get]
  split
  · rfl
  · split <;> rfl

theorem lifetime_get (c : Cache κ ν) (key : κ) (checked : Int) (modified : Option Int)
    (touched : Int) : (c.get key checked modified touched).2.lifetime = c.lifetime := by
  rw [get]
  split
  · rfl
  · split <;> rfl

end Cache

/-! ## Calls -/

/-- A call of a cache, with what the clock and the source show during the call. -/
inductive CacheCall (κ ν : Type) where
  /-- A value is stored. -/
  | set (key : κ) (value : ν) (now : Int) (source : Option Int)
  /-- A key is looked up. -/
  | get (key : κ) (checked : Int) (modified : Option Int) (touched : Int)
  /-- Everything is forgotten. -/
  | clear

namespace CacheCall

variable {κ ν : Type} [DecidableEq κ]

/-- What a call makes of a cache. -/
def run (c : Cache κ ν) : CacheCall κ ν → Cache κ ν
  | set key value now source => c.set key value now source
  | get key checked modified touched => (c.get key checked modified touched).2
  | clear => c.clear

/-- Whether a call is a lookup. -/
def isGet : CacheCall κ ν → Bool
  | get .. => true
  | _ => false

/-- A call leaves the entry of a key alone: it stores nothing under the key, does not find the entry
outdated, and does not forget everything. -/
def Spares (c : Cache κ ν) (key : κ) (e : CacheEntry ν) : CacheCall κ ν → Prop
  | set other _ _ _ => other ≠ key
  | get other checked modified _ => other = key → c.isStale e checked modified = false
  | clear => False

end CacheCall

namespace Cache

variable {κ ν : Type} [DecidableEq κ] {c fresh : Cache κ ν} {key : κ} {e : CacheEntry ν}
  {calls : List (CacheCall κ ν)} {call : CacheCall κ ν}

/-- The cache after a sequence of calls. -/
def after (c : Cache κ ν) (calls : List (CacheCall κ ν)) : Cache κ ν :=
  calls.foldl CacheCall.run c

theorem after_snoc (c : Cache κ ν) (calls : List (CacheCall κ ν)) (call : CacheCall κ ν) :
    c.after (calls ++ [call]) = call.run (c.after calls) := by
  rw [after, List.foldl_append]
  rfl

/-- An entry lasts in a sequence of calls of a cache: it is what was last stored under its key since
everything was last forgotten, and no lookup of the key since has found it outdated. -/
def Lasts (c : Cache κ ν) (calls : List (CacheCall κ ν)) (key : κ) (e : CacheEntry ν) : Prop :=
  Since (fun _ call ↦ ∃ value now source, call = .set key value now source ∧
    e = entryOf value now source) (·.Spares c key e) calls

/-! ## Sequences of calls -/

omit [DecidableEq κ] in
theorem isStale_eq {c' : Cache κ ν} (h : c'.lifetime = c.lifetime) : c'.isStale = c.isStale := by
  funext e now modified
  rw [isStale, isStale, h]

theorem limits_after (c : Cache κ ν) (calls : List (CacheCall κ ν)) :
    (c.after calls).capacity = c.capacity ∧ (c.after calls).lifetime = c.lifetime := by
  induction calls using List.reverseRecOn with
  | nil => exact ⟨rfl, rfl⟩
  | append_singleton calls call ih =>
    rw [after_snoc]
    cases call with
    | set key value now source => exact ih
    | get key checked modified touched =>
      exact ⟨(capacity_get _ _ _ _ _).trans ih.1, (lifetime_get _ _ _ _ _).trans ih.2⟩
    | clear => exact ih

theorem isStale_after (c : Cache κ ν) (calls : List (CacheCall κ ν)) :
    (c.after calls).isStale = c.isStale :=
  isStale_eq (limits_after c calls).2

/-- What is there lasts. -/
theorem lasts_of_find? (hfresh : fresh.entries = []) (h : (fresh.after calls).find? key = some e) :
    fresh.Lasts calls key e := by
  induction calls using List.reverseRecOn with
  | nil =>
    rw [after, List.foldl_nil, find?, hfresh] at h
    cases h
  | append_singleton calls call ih =>
    rw [after_snoc] at h
    rw [Lasts, since_snoc]
    cases call with
    | set other value now source =>
      replace h := find?_set h
      by_cases hkey : other = key
      · rw [if_pos hkey, Option.some.injEq] at h
        exact .inl ⟨value, now, source, by rw [hkey], h.symm⟩
      · rw [if_neg hkey] at h
        exact .inr ⟨ih h, hkey⟩
    | get other checked modified touched =>
      rw [CacheCall.run, find?_get, isStale_after] at h
      by_cases hkey : other = key
      · rw [if_pos hkey, Option.filter_eq_some_iff] at h
        exact .inr ⟨ih (hkey ▸ h.1), fun _ ↦ by simpa using h.2⟩
      · rw [if_neg hkey] at h
        exact .inr ⟨ih h, fun hother ↦ absurd hother hkey⟩
    | clear => cases h

/-- Without a limit, what lasts is there. -/
theorem find?_of_lasts (hcapacity : fresh.capacity = none) (h : fresh.Lasts calls key e) :
    (fresh.after calls).find? key = some e := by
  induction calls using List.reverseRecOn with
  | nil => exact absurd h not_since_nil
  | append_singleton calls call ih =>
    have hunlimited : (fresh.after calls).capacity = none := (limits_after _ _).1.trans hcapacity
    rw [after_snoc]
    rcases since_snoc.mp h with ⟨value, now, source, rfl, rfl⟩ | ⟨hlasts, hspares⟩
    · exact (find?_set_of_unlimited hunlimited _ _ _ _ _).trans (if_pos rfl)
    · cases call with
      | set other value now source =>
        exact ((find?_set_of_unlimited hunlimited _ _ _ _ _).trans (if_neg hspares)).trans
          (ih hlasts)
      | get other checked modified touched =>
        rw [CacheCall.run, find?_get, isStale_after]
        by_cases hkey : other = key
        · rw [if_pos hkey, hkey, ih hlasts, Option.filter_some, hspares hkey]
          rfl
        · rw [if_neg hkey]
          exact ih hlasts
      | clear => exact hspares.elim

theorem paired_after (hfresh : Paired fresh.entries fresh.accesses)
    (calls : List (CacheCall κ ν)) :
    Paired (fresh.after calls).entries (fresh.after calls).accesses := by
  induction calls using List.reverseRecOn with
  | nil => exact hfresh
  | append_singleton calls call ih =>
    rw [after_snoc]
    generalize fresh.after calls = c at ih ⊢
    cases call with
    | set key value now source =>
      have hplaced := ih.place key (entryOf value now source) now
      rw [CacheCall.run, set]
      cases c.capacity with
      | none => exact hplaced
      | some capacity => exact hplaced.shrink
    | get key checked modified touched =>
      rw [CacheCall.run, get]
      split
      · exact ih
      case h_2 hfind =>
        split
        · exact ih.remove key
        · exact ih.place_right hfind touched
    | clear => exact ⟨rfl, List.nodup_nil⟩

/-- A cache never holds more than its limit. -/
theorem size_after {n : Int} (hcapacity : fresh.capacity = some n) (hn : 0 ≤ n)
    (hfresh : (fresh.size : Int) ≤ n) (calls : List (CacheCall κ ν)) :
    ((fresh.after calls).size : Int) ≤ n := by
  induction calls using List.reverseRecOn with
  | nil => exact hfresh
  | append_singleton calls call ih =>
    have hlimit : (fresh.after calls).capacity = some n := (limits_after _ _).1.trans hcapacity
    rw [after_snoc]
    generalize fresh.after calls = c at ih hlimit ⊢
    cases call with
    | set key value now source =>
      rw [CacheCall.run, size, entries_set, hlimit]
      dsimp only
      have hle : (shrink n.toNat (place key (entryOf value now source) c.entries)
          (place key now c.accesses) _).1.length ≤ n.toNat := length_shrink_le (Nat.le_add_left _ _)
      omega
    | get key checked modified touched =>
      have hle : (c.get key checked modified touched).2.entries.length ≤ c.entries.length := by
        rw [get]
        split
        · exact Nat.le_refl _
        · split
          · exact List.length_filter_le _ _
          · exact Nat.le_refl _
      rw [size] at ih
      rw [CacheCall.run, size]
      omega
    | clear => exact hn

theorem count_after (fresh : Cache κ ν) (calls : List (CacheCall κ ν)) :
    (fresh.after calls).hits + (fresh.after calls).misses =
      fresh.hits + fresh.misses + calls.countP CacheCall.isGet := by
  induction calls using List.reverseRecOn with
  | nil => rfl
  | append_singleton calls call ih =>
    rw [after_snoc, List.countP_append, List.countP_singleton]
    generalize fresh.after calls = c at ih ⊢
    cases call with
    | set key value now source => exact ih
    | get key checked modified touched =>
      -- each branch of a lookup counts once
      have hget : (c.get key checked modified touched).2.hits +
          (c.get key checked modified touched).2.misses = c.hits + c.misses + 1 := by
        rw [get]
        split
        · exact (Nat.add_assoc _ _ _).symm
        · split
          · exact (Nat.add_assoc _ _ _).symm
          · exact Nat.add_right_comm _ _ _
      rw [CacheCall.run, hget, ih]
      rfl
    | clear => exact ih

/-- **A cache is a map that may forget.** After any calls, whatever the clock and the sources showed
during them: a lookup finds a value only if its entry lasts and is not outdated now, and if the
number of entries is not limited it finds every such value. The two tables have the same keys, no
key twice, there are no more entries than the limit allows, and each lookup has counted as a hit or
as a miss. -/
theorem after_faithful {capacity lifetime : Option Int} (hcapacity : ∀ n ∈ capacity, 1 ≤ n)
    (calls : List (CacheCall κ ν)) :
    let fresh : Cache κ ν := { capacity, lifetime }
    let c := fresh.after calls
    (∀ key checked modified touched v, (c.get key checked modified touched).1 = some v →
      ∃ e, fresh.Lasts calls key e ∧ fresh.isStale e checked modified = false ∧ e.value = v) ∧
    (capacity = none → ∀ key checked modified touched e, fresh.Lasts calls key e →
      fresh.isStale e checked modified = false →
      (c.get key checked modified touched).1 = some e.value) ∧
    (c.accesses.map Prod.fst = c.entries.map Prod.fst ∧ (c.entries.map Prod.fst).Nodup) ∧
    (∀ n ∈ capacity, (c.size : Int) ≤ n) ∧
    c.hits + c.misses = calls.countP CacheCall.isGet := by
  intro fresh c
  have hstale : c.isStale = fresh.isStale := isStale_after fresh calls
  refine ⟨?_, ?_, ?_, ?_, ?_⟩
  · intro key checked modified touched v hv
    obtain ⟨e, hfind, hnow, hvalue⟩ := get_eq_some_iff.mp hv
    rw [hstale] at hnow
    exact ⟨e, lasts_of_find? rfl hfind, hnow, hvalue⟩
  · intro hunlimited key checked modified touched e hlasts hnow
    rw [← hstale] at hnow
    exact get_eq_some_iff.mpr ⟨e, find?_of_lasts hunlimited hlasts, hnow, rfl⟩
  · have hpaired : Paired c.entries c.accesses := by
      refine paired_after ?_ calls
      exact ⟨rfl, List.nodup_nil⟩
    exact ⟨hpaired.keys_eq, hpaired.nodup⟩
  · intro n hn
    have hpositive := hcapacity n hn
    exact size_after hn (by omega) (by change (0 : Int) ≤ n; omega) calls
  · exact (count_after fresh calls).trans (Nat.zero_add _)

/-- Calls of a cache with room for one entry while the clock runs backwards: what is stored under
one key gives way at once, because it counts as touched before what was stored first. -/
def backwardCalls : List (CacheCall Nat Nat) :=
  [.set 1 10 5 none, .get 2 5 none 5, .set 2 20 3 (some 3), .get 2 3 none 3, .get 1 2 (some 5) 2]

/-- With room for one entry there is one, under the first key, and all lookups have counted. -/
theorem after_faithful_backward :
    (∀ n ∈ some (1 : Int), 1 ≤ n) ∧
    (({ capacity := some 1 } : Cache Nat Nat).after backwardCalls).accesses.map Prod.fst = [1] ∧
    (({ capacity := some 1 } : Cache Nat Nat).after backwardCalls).size ≤ 1 ∧
    (({ capacity := some 1 } : Cache Nat Nat).after backwardCalls).hits +
      (({ capacity := some 1 } : Cache Nat Nat).after backwardCalls).misses = 3 := by
  have hcapacity : ∀ n ∈ some (1 : Int), 1 ≤ n := fun n hn ↦ by
    cases hn
    exact Int.le_refl 1
  obtain ⟨-, -, ⟨hkeys, -⟩, hsize, hcount⟩ :=
    @after_faithful Nat Nat _ (some 1) none hcapacity backwardCalls
  exact ⟨hcapacity, hkeys.trans (by decide), by exact_mod_cast hsize 1 rfl, hcount⟩

end Cache

end DiagramForge.Template
