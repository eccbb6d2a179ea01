import DiagramForge.Proofs.Distinct
import DiagramForge.Proofs.Template.Cache

/-!
# Which entries give way

A cache with room for a number of entries keeps those that were touched last, provided that the
clock moves on at every reading and nothing goes stale: `Cache.after_recency`. If the clock may
stand still, what is stored just now stays all the same.

## The argument

The cache has no list of its keys in the order of their touches. It has times, and looks for the
least one when an entry has to give way. `Ranked` ties the two: the keys of a table are those of a
list, and their times fall along the list. Then the key that gives way is the last of the list
(`Ranked.oldest?_eq`), and touching a key moves it to the front of the list (`Ranked.place`).

That a touch has a later time than all times before it is where the clock is needed, and the only
place: every recorded time is that of a touch in the history (`mem_accesses_after`).
-/

namespace DiagramForge.Template

/-! ## Touches -/

section Touches

variable {κ ν : Type} [DecidableEq κ]

namespace CacheCall

/-- The key that a call of a cache touches, and the time it reads for that: of a key that is stored,
and of a key that is handed out. -/
def touch? (c : Cache κ ν) : CacheCall κ ν → Option (κ × Int)
  | set key _ now _ => some (key, now)
  | get key checked modified touched =>
    if (c.get key checked modified touched).1.isSome then some (key, touched) else none
  | clear => none

/-- The keys that were touched since everything was last forgotten, the last one first, when a call
follows. -/
def remember (c : Cache κ ν) (recent : List κ) : CacheCall κ ν → List κ
  | clear => []
  | call => (call.touch? c).elim recent fun t ↦ t.1 :: recent

/-- The call is no lookup of an outdated entry. -/
def FindsFresh (c : Cache κ ν) : CacheCall κ ν → Prop
  | get key checked modified _ => ∀ e ∈ c.find? key, c.isStale e checked modified = false
  | _ => True

/-- The value that a call stores under a key. -/
def stored? (key : κ) : CacheCall κ ν → Option ν
  | set other value _ _ => if other = key then some value else none
  | _ => none

end CacheCall

namespace Cache

/-- The touches during a sequence of calls, in their order. A cache without a limit of age reads the
clock for these and for nothing else. -/
def touches (c : Cache κ ν) : List (CacheCall κ ν) → List (κ × Int)
  | [] => []
  | call :: calls => (call.touch? c).toList ++ (call.run c).touches calls

/-- The keys that were touched since everything was last forgotten, the last one first, after a
sequence of calls; `recent` are those before. -/
def recentFrom (c : Cache κ ν) (recent : List κ) : List (CacheCall κ ν) → List κ
  | [] => recent
  | call :: calls => (call.run c).recentFrom (call.remember c recent) calls

/-- The different keys that calls of a cache have touched since everything was last forgotten, the
one that was touched last first. -/
def recent (c : Cache κ ν) (calls : List (CacheCall κ ν)) : List κ :=
  (c.recentFrom [] calls).eraseDups

/-- No lookup during a sequence of calls finds an outdated entry. -/
def StaysFresh (c : Cache κ ν) : List (CacheCall κ ν) → Prop
  | [] => True
  | call :: calls => call.FindsFresh c ∧ (call.run c).StaysFresh calls

/-- The value that was last stored under a key. -/
def lastStored? (calls : List (CacheCall κ ν)) (key : κ) : Option ν :=
  calls.reverse.findSome? (·.stored? key)

end Cache

end Touches

namespace Cache

variable {κ ν : Type} [DecidableEq κ] {c fresh : Cache κ ν} {key : κ}
  {calls : List (CacheCall κ ν)} {call : CacheCall κ ν}

theorem touches_snoc (c : Cache κ ν) (calls : List (CacheCall κ ν)) (call : CacheCall κ ν) :
    c.touches (calls ++ [call]) = c.touches calls ++ (call.touch? (c.after calls)).toList := by
  induction calls generalizing c with
  | nil => simp [touches, after]
  | cons first calls ih => simp [touches, after, ih]

theorem recentFrom_snoc (c : Cache κ ν) (recent : List κ) (calls : List (CacheCall κ ν))
    (call : CacheCall κ ν) : c.recentFrom recent (calls ++ [call]) =
      call.remember (c.after calls) (c.recentFrom recent calls) := by
  induction calls generalizing c recent with
  | nil => rfl
  | cons first calls ih => exact ih _ _

theorem staysFresh_snoc : c.StaysFresh (calls ++ [call]) ↔
    c.StaysFresh calls ∧ call.FindsFresh (c.after calls) := by
  induction calls generalizing c with
  | nil => simp [StaysFresh, after]
  | cons first calls ih => simp [StaysFresh, after, ih, and_assoc]

/-! ## Moving to the front -/

/-- Puts a key in front of a list, instead of where it was. -/
def promote (key : κ) (keys : List κ) : List κ :=
  key :: keys.erase key

theorem eraseDups_cons_eq_promote (key : κ) (keys : List κ) :
    (key :: keys).eraseDups = promote key keys.eraseDups := by
  rw [List.eraseDups_cons, eraseDups_filter, promote, (nodup_eraseDups keys).erase_eq_filter]
  rfl

/-- The front of a list decides what is in front after a key has come there. -/
theorem take_promote (key : κ) (keys : List κ) (n : Nat) :
    (promote key (keys.take n)).take n = (promote key keys).take n := by
  cases n with
  | zero => simp
  | succ n =>
    rw [promote, promote, List.take_succ_cons, List.take_succ_cons]
    congr 1
    induction keys generalizing n with
    | nil => simp
    | cons first keys ih =>
      by_cases hfirst : first = key
      · simp [hfirst, List.take_take]
      · cases n with
        | zero => simp
        | succ n => simp [hfirst, ih]

theorem length_promote {keys : List κ} (h : key ∈ keys) :
    (promote key keys).length = keys.length := by
  have hpositive : 0 < keys.length := List.length_pos_of_mem h
  rw [promote, List.length_cons, List.length_erase_of_mem h]
  omega

/-! ## Ranks -/

theorem touchedAt_place (accesses : List (κ × Int)) (key other : κ) (now : Int) :
    touchedAt (place key now accesses) other =
      if key = other then now else touchedAt accesses other := by
  rw [touchedAt, valueAt?_place]
  split <;> rfl

theorem touchedAt_remove (accesses : List (κ × Int)) {key other : κ} (h : key ≠ other) :
    touchedAt (remove key accesses) other = touchedAt accesses other := by
  rw [touchedAt, valueAt?_remove, if_neg h, touchedAt]

/-- The keys of a table are those of a list, and they were touched the longer ago the farther they
are along the list. -/
structure Ranked (keys : List κ) (accesses : List (κ × Int)) (ranks : List κ) : Prop where
  /-- The keys are the same. -/
  perm : keys.Perm ranks
  /-- Their times fall along the list. -/
  falling : ranks.Pairwise fun a b ↦ touchedAt accesses b < touchedAt accesses a

namespace Ranked

variable {keys ranks : List κ} {accesses : List (κ × Int)}

theorem nodup (h : Ranked keys accesses ranks) : ranks.Nodup :=
  h.falling.imp fun hlt heq ↦ by simp [heq] at hlt

/-- A key that is touched after all others moves to the front of the list. -/
theorem place (h : Ranked keys accesses ranks) (key : κ) {now : Int}
    (hnow : ∀ k ∈ keys, touchedAt accesses k < now) :
    Ranked (if key ∈ keys then keys else keys ++ [key]) (Cache.place key now accesses)
      (promote key ranks) where
  perm := by
    split
    next hmem => exact h.perm.trans (List.perm_cons_erase (h.perm.mem_iff.mp hmem))
    next hmem =>
      rw [promote, List.erase_of_not_mem fun hk ↦ hmem (h.perm.mem_iff.mpr hk)]
      exact List.perm_append_singleton _ _ |>.trans (h.perm.cons key)
  falling := by
    have hother : ∀ k ∈ ranks.erase key, touchedAt (Cache.place key now accesses) k =
        touchedAt accesses k := by
      intro k hk
      rw [touchedAt_place, if_neg]
      rintro rfl
      exact h.nodup.not_mem_erase hk
    rw [promote, List.pairwise_cons]
    constructor
    · intro k hk
      rw [hother k hk, touchedAt_place, if_pos rfl]
      exact hnow k (h.perm.mem_iff.mpr (List.mem_of_mem_erase hk))
    · refine (h.falling.sublist List.erase_sublist).imp_of_mem fun {a b} ha hb hlt ↦ ?_
      rwa [hother a ha, hother b hb]

/-- Without its last key, a list ranks the table without that key. -/
theorem remove_last {last : κ} (h : Ranked keys accesses (ranks ++ [last])) :
    Ranked (keys.filter (· ≠ last)) (Cache.remove last accesses) ranks := by
  have hne : ∀ k ∈ ranks, k ≠ last := by
    intro k hk
    have hnodup := h.nodup
    rw [List.nodup_append] at hnodup
    exact hnodup.2.2 k hk last List.mem_cons_self
  constructor
  · have hranks : (ranks ++ [last]).filter (· ≠ last) = ranks := by
      rw [List.filter_append, List.filter_eq_self.mpr (by simpa using hne)]
      simp
    exact hranks ▸ h.perm.filter (· ≠ last)
  · have hfalling := (List.pairwise_append.mp h.falling).1
    refine hfalling.imp_of_mem fun {a b} ha hb hlt ↦ ?_
    rwa [touchedAt_remove accesses (hne a ha).symm, touchedAt_remove accesses (hne b hb).symm]

end Ranked

/-! ## The entry that gives way -/

section Shrink

variable {es : List (κ × CacheEntry ν)} {accesses : List (κ × Int)} {capacity excess : Nat}
  {ranks : List κ}

omit [DecidableEq κ] in
theorem foldl_least_le {α : Type} (time : α → Int) (a : α) (as : List α) :
    ∀ b ∈ a :: as,
      time (as.foldl (fun old b ↦ if time b < time old then b else old) a) ≤ time b := by
  induction as generalizing a with
  | nil => simp
  | cons next as ih =>
    rw [List.foldl_cons]
    simp only [List.forall_mem_cons] at ih ⊢
    by_cases hlt : time next < time a
    · rw [if_pos hlt]
      obtain ⟨hnext, has⟩ := ih next
      exact ⟨Int.le_trans hnext (Int.le_of_lt hlt), hnext, has⟩
    · rw [if_neg hlt]
      obtain ⟨ha, has⟩ := ih a
      exact ⟨ha, Int.le_trans ha (Int.not_lt.mp hlt), has⟩

/-- No entry was touched before the one that gives way. -/
theorem oldest?_le {old : κ} (h : oldest? accesses es = some old) :
    ∀ k ∈ es.map Prod.fst, touchedAt accesses old ≤ touchedAt accesses k := by
  cases es with
  | nil => simp
  | cons e es =>
    rw [oldest?, Option.some.injEq] at h
    rw [List.forall_mem_map, ← h]
    exact foldl_least_le (fun e ↦ touchedAt accesses e.1) e es

theorem exists_oldest? (h : es ≠ []) : ∃ old, oldest? accesses es = some old := by
  cases es with
  | nil => exact absurd rfl h
  | cons e es => exact ⟨_, rfl⟩

/-- The key that gives way is the last of the list. -/
theorem Ranked.oldest?_eq {last : κ} (h : Ranked (es.map Prod.fst) accesses (ranks ++ [last])) :
    oldest? accesses es = some last := by
  have hlast : last ∈ es.map Prod.fst := h.perm.mem_iff.mpr (by simp)
  obtain ⟨old, hold⟩ : ∃ old, oldest? accesses es = some old := by
    refine exists_oldest? ?_
    rintro rfl
    simp at hlast
  have hmem : old ∈ ranks ++ [last] := h.perm.mem_iff.mp (oldest?_mem hold)
  rcases List.mem_append.mp hmem with hranks | hold'
  · have hlt := (List.pairwise_append.mp h.falling).2.2 old hranks last List.mem_cons_self
    exact absurd (oldest?_le hold last hlast) (Int.not_le.mpr hlt)
  · rw [hold, List.mem_singleton.mp hold']

theorem shrink_of_le (h : es.length ≤ capacity) :
    shrink capacity es accesses excess = (es, accesses) := by
  cases excess with
  | zero => rfl
  | succ excess => rw [shrink, if_pos h]

/-- **What is left when entries give way is the front of the list.** -/
theorem Ranked.shrink (h : Ranked (es.map Prod.fst) accesses ranks)
    (hexcess : es.length ≤ capacity + excess) :
    Ranked ((Cache.shrink capacity es accesses excess).1.map Prod.fst)
      (Cache.shrink capacity es accesses excess).2 (ranks.take capacity) := by
  induction excess generalizing es accesses ranks with
  | zero =>
    have hlength : ranks.length ≤ capacity := by simpa [← h.perm.length_eq] using hexcess
    rwa [List.take_of_length_le hlength, Cache.shrink]
  | succ excess ih =>
    have hlength : es.length = ranks.length := by simpa using h.perm.length_eq
    by_cases hle : es.length ≤ capacity
    · rwa [shrink_of_le hle, List.take_of_length_le (hlength ▸ hle)]
    · rcases List.eq_nil_or_concat ranks with rfl | ⟨front, last, rfl⟩
      · simp at hlength
        simp [hlength] at hle
      · rw [List.concat_eq_append] at h hlength ⊢
        rw [List.length_append, List.length_singleton] at hlength
        have hrest : Ranked ((remove last es).map Prod.fst) (remove last accesses) front := by
          rw [keys_remove]
          exact h.remove_last
        have hshorter : (remove last es).length = front.length := by
          simpa using hrest.perm.length_eq
        rw [Cache.shrink, if_neg hle, h.oldest?_eq,
          List.take_append_of_le_length (by omega)]
        exact ih hrest (by omega)

theorem oldest?_append {e : κ × CacheEntry ν} {old : κ} (h : oldest? accesses es = some old)
    (hle : touchedAt accesses old ≤ touchedAt accesses e.1) :
    oldest? accesses (es ++ [e]) = some old := by
  cases es with
  | nil => cases h
  | cons first es =>
    rw [oldest?, Option.some.injEq] at h
    rw [List.cons_append, oldest?, List.foldl_append, List.foldl_cons, List.foldl_nil, h,
      if_neg (Int.not_lt.mpr hle), h]

theorem valueAt?_append_singleton {e : κ × ν} {table : List (κ × ν)}
    (hnew : e.1 ∉ table.map Prod.fst) : valueAt? (table ++ [e]) e.1 = some e.2 := by
  induction table with
  | nil => simp [valueAt?]
  | cons first table ih =>
    rw [List.map_cons, List.mem_cons, not_or] at hnew
    rw [List.cons_append, valueAt?_cons, if_neg (Ne.symm hnew.1), ih hnew.2]

/-- What stands last, and was touched no earlier than anything else, stays. -/
theorem valueAt?_shrink_last {e : κ × CacheEntry ν} (hcapacity : 1 ≤ capacity)
    (hnew : e.1 ∉ es.map Prod.fst)
    (hlast : ∀ k ∈ es.map Prod.fst, touchedAt accesses k ≤ touchedAt accesses e.1) :
    valueAt? (Cache.shrink capacity (es ++ [e]) accesses excess).1 e.1 = some e.2 := by
  induction excess generalizing es accesses with
  | zero => exact valueAt?_append_singleton hnew
  | succ excess ih =>
    by_cases hle : (es ++ [e]).length ≤ capacity
    · rw [shrink_of_le hle]
      exact valueAt?_append_singleton hnew
    · obtain ⟨old, hold⟩ : ∃ old, oldest? accesses es = some old := by
        refine exists_oldest? ?_
        rintro rfl
        exact hle hcapacity
      have hmem := oldest?_mem hold
      have hne : old ≠ e.1 := fun heq ↦ hnew (heq ▸ hmem)
      have hrest : remove old (es ++ [e]) = remove old es ++ [e] := by
        rw [remove, List.filter_append, ← remove]
        simp [hne.symm]
      have hkept : ∀ k ∈ (remove old es).map Prod.fst, k ∈ es.map Prod.fst ∧ old ≠ k := by
        intro k hk
        rw [keys_remove, List.mem_filter, decide_eq_true_eq] at hk
        exact ⟨hk.1, hk.2.symm⟩
      rw [Cache.shrink, if_neg hle, oldest?_append hold (hlast old hmem)]
      dsimp only
      rw [hrest]
      refine ih (fun hin ↦ hnew (hkept _ hin).1) fun k hk ↦ ?_
      obtain ⟨hk, hk'⟩ := hkept k hk
      rw [touchedAt_remove _ hk', touchedAt_remove _ hne]
      exact hlast k hk

theorem mem_accesses_shrink {t : κ × Int} (ht : t ∈ (shrink capacity es accesses excess).2) :
    t ∈ accesses := by
  induction excess generalizing es accesses with
  | zero => exact ht
  | succ excess ih =>
    rw [Cache.shrink] at ht
    split at ht
    · exact ht
    · split at ht
      · exact ht
      · exact List.mem_of_mem_filter (ih ht)

end Shrink

/-! ## One call -/

section Get

variable {e : CacheEntry ν} {checked touched : Int} {modified : Option Int}

theorem get_of_missing (hfind : c.find? key = none) :
    c.get key checked modified touched = (none, { c with misses := c.misses + 1 }) := by
  rw [get, hfind]

theorem get_of_stale (hfind : c.find? key = some e) (hstale : c.isStale e checked modified = true) :
    c.get key checked modified touched =
      (none, { c.erase key with misses := c.misses + 1 }) := by
  rw [get, hfind]
  exact if_pos hstale

theorem get_of_fresh (hfind : c.find? key = some e)
    (hfresh : c.isStale e checked modified = false) :
    c.get key checked modified touched =
      (some e.value, { c.touch key touched with hits := c.hits + 1 }) := by
  rw [get, hfind]
  exact if_neg (by simp [hfresh])

end Get

theorem accesses_set (c : Cache κ ν) (key : κ) (v : ν) (now : Int) (source : Option Int) :
    (c.set key v now source).accesses = match c.capacity with
      | none => place key now c.accesses
      | some capacity => (shrink capacity.toNat (place key (entryOf v now source) c.entries)
          (place key now c.accesses) (place key (entryOf v now source) c.entries).length).2 := by
  rw [set]
  cases c.capacity <;> rfl

/-- A call records the time of its touch and no other. -/
theorem mem_accesses_run {t : κ × Int} (ht : t ∈ (call.run c).accesses) :
    call.touch? c = some t ∨ t ∈ c.accesses := by
  cases call with
  | set key value now source =>
    rw [CacheCall.run, accesses_set] at ht
    rw [CacheCall.touch?, Option.some.injEq, eq_comm]
    split at ht
    · exact mem_place ht
    · exact mem_place (mem_accesses_shrink ht)
  | get key checked modified touched =>
    rw [CacheCall.run] at ht
    rw [CacheCall.touch?]
    cases hfind : c.find? key with
    | none =>
      rw [get_of_missing hfind] at ht
      exact .inr ht
    | some e =>
      cases hstale : c.isStale e checked modified with
      | true =>
        rw [get_of_stale hfind hstale] at ht
        exact .inr (List.mem_of_mem_filter ht)
      | false =>
        rw [get_of_fresh hfind hstale] at ht
        simp only [get_of_fresh hfind hstale, Option.isSome_some, if_true, Option.some.injEq]
        exact (mem_place ht).imp_left Eq.symm
  | clear => cases ht

/-- **Every recorded time is that of a touch.** -/
theorem mem_accesses_after (hfresh : fresh.accesses = []) {t : κ × Int}
    (ht : t ∈ (fresh.after calls).accesses) : t ∈ fresh.touches calls := by
  induction calls using List.reverseRecOn with
  | nil =>
    rw [after, List.foldl_nil, hfresh] at ht
    cases ht
  | append_singleton calls call ih =>
    rw [after_snoc] at ht
    rw [touches_snoc, List.mem_append, Option.mem_toList]
    exact (mem_accesses_run ht).symm.imp_left ih

theorem valueAt?_isSome_iff {α : Type} {table : List (κ × α)} :
    (valueAt? table key).isSome ↔ key ∈ table.map Prod.fst := by
  induction table with
  | nil => simp [valueAt?]
  | cons e table ih =>
    rw [valueAt?_cons, List.map_cons, List.mem_cons]
    by_cases hkey : e.1 = key
    · simp [hkey]
    · simp [hkey, Ne.symm hkey, ih]

theorem place_of_not_mem {α : Type} {a : α} {table : List (κ × α)}
    (h : key ∉ table.map Prod.fst) : place key a table = table ++ [(key, a)] := by
  induction table with
  | nil => rfl
  | cons e table ih =>
    rw [List.map_cons, List.mem_cons, not_or] at h
    rw [place, if_neg (Ne.symm h.1), ih h.2, List.cons_append]

/-- The time of every entry is that of a touch of its key. -/
theorem touchedAt_mem_touches (hentries : fresh.entries = []) (haccesses : fresh.accesses = [])
    (hkey : key ∈ (fresh.after calls).entries.map Prod.fst) :
    (key, touchedAt (fresh.after calls).accesses key) ∈ fresh.touches calls := by
  have hpaired : Paired (fresh.after calls).entries (fresh.after calls).accesses := by
    refine paired_after ?_ calls
    rw [hentries, haccesses]
    exact ⟨rfl, List.nodup_nil⟩
  rw [← hpaired.keys_eq, ← valueAt?_isSome_iff, Option.isSome_iff_exists] at hkey
  obtain ⟨time, htime⟩ := hkey
  rw [touchedAt, htime, Option.getD_some]
  refine mem_accesses_after haccesses ?_
  obtain ⟨t, ht, rfl⟩ := Option.map_eq_some_iff.mp htime
  have hfst : t.1 = key := by simpa using List.find?_some ht
  exact hfst ▸ List.mem_of_find?_eq_some ht

/-- A call after which the time of its touch is the latest keeps the ranks. -/
theorem ranked_run {n : Int} {touched : List κ} (hcapacity : c.capacity = some n)
    (hfresh : call.FindsFresh c)
    (hlater : ∀ t ∈ call.touch? c, ∀ k ∈ c.entries.map Prod.fst, touchedAt c.accesses k < t.2)
    (h : Ranked (c.entries.map Prod.fst) c.accesses (touched.eraseDups.take n.toNat)) :
    Ranked ((call.run c).entries.map Prod.fst) (call.run c).accesses
      ((call.remember c touched).eraseDups.take n.toNat) := by
  cases call with
  | set key value now source =>
    have hplaced := h.place key (hlater (key, now) rfl)
    rw [← keys_place key (entryOf value now source)] at hplaced
    have hremember : (CacheCall.set key value now source).remember c touched = key :: touched := rfl
    rw [CacheCall.run, entries_set, accesses_set, hcapacity, hremember, eraseDups_cons_eq_promote,
      ← take_promote]
    exact hplaced.shrink (Nat.le_add_left _ _)
  | get key checked modified now =>
    cases hfind : c.find? key with
    | none =>
      have hremember : (CacheCall.get key checked modified now).remember c touched = touched := by
        simp [CacheCall.remember, CacheCall.touch?, get_of_missing hfind]
      rw [CacheCall.run, hremember, get_of_missing hfind]
      exact h
    | some e =>
      have hget : c.get key checked modified now =
          (some e.value, { c.touch key now with hits := c.hits + 1 }) :=
        get_of_fresh hfind (hfresh e hfind)
      have htouch : (CacheCall.get key checked modified now).touch? c = some (key, now) := by
        simp [CacheCall.touch?, hget]
      have hremember : (CacheCall.get key checked modified now).remember c touched =
          key :: touched := by
        simp [CacheCall.remember, htouch]
      have hkey : key ∈ c.entries.map Prod.fst := List.mem_map_of_mem (mem_of_find? hfind)
      have hplaced := h.place key (hlater (key, now) htouch)
      rw [if_pos hkey] at hplaced
      have hlength : (promote key (touched.eraseDups.take n.toNat)).length ≤ n.toNat := by
        rw [length_promote (h.perm.mem_iff.mp hkey)]
        exact List.length_take_le _ _
      rw [CacheCall.run, hget, hremember, eraseDups_cons_eq_promote, ← take_promote,
        List.take_of_length_le hlength]
      exact hplaced
  | clear =>
    constructor
    · simp [CacheCall.run, clear, CacheCall.remember]
    · simp [CacheCall.remember]

/-- **The cached keys are those touched last**, as long as the clock moves on at every touch and no
entry is found outdated. -/
theorem ranked_after {n : Int} (hentries : fresh.entries = []) (haccesses : fresh.accesses = [])
    (hcapacity : fresh.capacity = some n) (hfresh : fresh.StaysFresh calls)
    (hclock : (fresh.touches calls).Pairwise fun s t ↦ s.2 < t.2) :
    Ranked ((fresh.after calls).entries.map Prod.fst) (fresh.after calls).accesses
      ((fresh.recent calls).take n.toNat) := by
  induction calls using List.reverseRecOn with
  | nil => exact ⟨by simp [after, hentries, recent, recentFrom], by simp [recent, recentFrom]⟩
  | append_singleton calls call ih =>
    rw [touches_snoc, List.pairwise_append] at hclock
    obtain ⟨hbefore, -, hlast⟩ := hclock
    obtain ⟨hfresh, hcall⟩ := staysFresh_snoc.mp hfresh
    rw [after_snoc, recent, recentFrom_snoc]
    refine ranked_run ((limits_after _ _).1.trans hcapacity) hcall (fun t ht k hk ↦ ?_)
      (ih hfresh hbefore)
    exact hlast _ (touchedAt_mem_touches hentries haccesses hk) t (Option.mem_toList.mpr ht)

/-- An entry that lasts has the value that was last stored under its key. -/
theorem lastStored?_of_lasts {e : CacheEntry ν} (h : fresh.Lasts calls key e) :
    lastStored? calls key = some e.value := by
  obtain ⟨before, _, since, rfl, ⟨value, now, source, rfl, rfl⟩, hspares⟩ := h
  have hnone : since.reverse.findSome? (·.stored? key) = none := by
    rw [List.findSome?_eq_none_iff]
    intro call hcall
    have hcall := hspares call (List.mem_reverse.mp hcall)
    cases call with
    | set other value now source => exact if_neg hcall
    | get => rfl
    | clear => rfl
  have hself : (CacheCall.set key value now source).stored? key = some value := if_pos rfl
  simp [lastStored?, hnone, hself, entryOf]

/-- What is stored just now stays if no entry was touched later. -/
theorem find?_set_self {n : Int} (hn : 1 ≤ n) (hcapacity : c.capacity = some n)
    (hsize : (c.size : Int) ≤ n) {now : Int}
    (hlast : ∀ k ∈ c.entries.map Prod.fst, touchedAt c.accesses k ≤ now) (value : ν)
    (source : Option Int) :
    (c.set key value now source).find? key = some (entryOf value now source) := by
  rw [find?, entries_set, hcapacity]
  dsimp only
  by_cases hkey : key ∈ c.entries.map Prod.fst
  · -- the table does not grow
    have hle : (place key (entryOf value now source) c.entries).length ≤ n.toNat := by
      rw [← List.length_map Prod.fst, keys_place, if_pos hkey, List.length_map]
      rw [size] at hsize
      omega
    rw [shrink_of_le hle, valueAt?_place, if_pos rfl]
  · have hplace : place key (entryOf value now source) c.entries =
        c.entries ++ [(key, entryOf value now source)] :=
      place_of_not_mem hkey
    rw [hplace]
    refine valueAt?_shrink_last (e := (key, entryOf value now source)) (by omega) hkey
      fun k hk ↦ ?_
    have hne : key ≠ k := fun heq ↦ hkey (heq ▸ hk)
    rw [touchedAt_place, touchedAt_place, if_neg hne, if_pos rfl]
    exact hlast k hk

/-- **A cache keeps what was touched last.** For a cache with room for `n` entries, in which nothing
grows too old, and any calls:

If no lookup finds an outdated entry and the clock moves on at every touch, the keys of the cache
are the `n` different keys that were touched last since everything was last forgotten, or all of
them if there are fewer, and each of them has the value that was last stored under it.

If the clock just never goes back, then a value that is stored is there afterwards: it is not the
one that gives way. -/
theorem after_recency {n : Int} (hn : 1 ≤ n) (calls : List (CacheCall κ ν)) :
    let fresh : Cache κ ν := { capacity := some n }
    let c := fresh.after calls
    (fresh.StaysFresh calls → ((fresh.touches calls).Pairwise fun s t ↦ s.2 < t.2) →
      (c.entries.map Prod.fst).Perm ((fresh.recent calls).take n.toNat) ∧
      ∀ key, (c.find? key).map (·.value) =
        if key ∈ (fresh.recent calls).take n.toNat then lastStored? calls key else none) ∧
    ∀ key value now source,
      ((fresh.touches (calls ++ [.set key value now source])).Pairwise fun s t ↦ s.2 ≤ t.2) →
      (c.set key value now source).find? key = some (entryOf value now source) := by
  intro fresh c
  refine ⟨fun hfresh hclock ↦ ?_, fun key value now source hclock ↦ ?_⟩
  · have hranked : Ranked (c.entries.map Prod.fst) c.accesses ((fresh.recent calls).take n.toNat) :=
      ranked_after rfl rfl rfl hfresh hclock
    refine ⟨hranked.perm, fun key ↦ ?_⟩
    have hmem : (c.find? key).isSome ↔ key ∈ (fresh.recent calls).take n.toNat :=
      valueAt?_isSome_iff.trans hranked.perm.mem_iff
    cases hfind : c.find? key with
    | none =>
      have hnot : key ∉ (fresh.recent calls).take n.toNat := fun hkey ↦ by
        simpa [hfind] using hmem.mpr hkey
      rw [if_neg hnot]
      rfl
    | some e =>
      rw [if_pos (hmem.mp (by rw [hfind]; rfl)), lastStored?_of_lasts (lasts_of_find? rfl hfind)]
      rfl
  · rw [touches_snoc, List.pairwise_append] at hclock
    have hcapacity : c.capacity = some n := (limits_after fresh calls).1
    have hsize : (c.size : Int) ≤ n :=
      size_after rfl (by omega) (by change (0 : Int) ≤ n; omega) calls
    refine find?_set_self hn hcapacity hsize (fun k hk ↦ ?_) value source
    exact hclock.2.2 _ (touchedAt_mem_touches rfl rfl hk) (key, now) (by simp [CacheCall.touch?])

/-- Calls of a cache with room for two entries. -/
def threeKeys : List (CacheCall Nat Nat) :=
  [.set 1 10 1 none, .set 2 20 2 none, .get 1 0 none 3, .set 3 30 4 none, .get 2 0 none 0]

/-- The key that was handed out stays, the one that was not gives way. -/
theorem after_recency_threeKeys :
    ((({ capacity := some 2 } : Cache Nat Nat).after threeKeys).entries.map Prod.fst).Perm [3, 1] ∧
    ((({ capacity := some 2 } : Cache Nat Nat).after threeKeys).find? 1).map (·.value) = some 10 ∧
    ((({ capacity := some 2 } : Cache Nat Nat).after threeKeys).set 4 40 4 none).find? 4 =
      some ⟨40, 4, 4⟩ := by
  obtain ⟨hkeys, hset⟩ := @after_recency Nat Nat _ 2 (by decide) threeKeys
  obtain ⟨hperm, hvalue⟩ := hkeys ⟨trivial, trivial, fun _ _ ↦ rfl, trivial, fun _ _ ↦ rfl, trivial⟩
    (by decide)
  refine ⟨hperm, (hvalue 1).trans (by decide), ?_⟩
  exact hset 4 40 4 none (by decide)

end Cache

end DiagramForge.Template
