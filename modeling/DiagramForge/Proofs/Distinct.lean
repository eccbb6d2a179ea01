import Mathlib.Data.List.Induction
import Mathlib.Data.List.Nodup

/-!
# Lists without repetitions

What `List.eraseDups`, which keeps the first of equal items, leaves of a list, and what it does with a
filter and with an item at the end.
-/

namespace DiagramForge

section

variable {α : Type} [BEq α] [LawfulBEq α]

theorem eraseDups_filter (p : α → Bool) (as : List α) :
    (as.filter p).eraseDups = as.eraseDups.filter p := by
  induction as using List.reverseRecOn with
  | nil => rfl
  | append_singleton as a ih =>
    rw [List.filter_append, List.eraseDups_append, List.eraseDups_append, List.filter_append, ih]
    congr 1
    by_cases hp : p a
    · by_cases hmem : a ∈ as
      · simp [hp, hmem, List.removeAll]
      · simp [hp, hmem, List.removeAll, List.eraseDups_cons]
    · by_cases hmem : a ∈ as
      · simp [hp, hmem, List.removeAll]
      · simp [hp, hmem, List.removeAll, List.eraseDups_cons]

theorem nodup_eraseDups (as : List α) : as.eraseDups.Nodup := by
  induction as with
  | nil => simp
  | cons a as ih =>
    rw [List.eraseDups_cons, eraseDups_filter, List.nodup_cons]
    exact ⟨by simp, ih.filter _⟩

theorem eraseDups_sublist (as : List α) : as.eraseDups.Sublist as := by
  induction as with
  | nil => simp
  | cons a as ih =>
    rw [List.eraseDups_cons, eraseDups_filter]
    exact (List.filter_sublist.trans ih).cons_cons a

/-- Without repetitions, a list is extended by what is not in it. -/
theorem eraseDups_append_eq (as bs : List α) : (as ++ bs).eraseDups =
    as.eraseDups ++ bs.eraseDups.filter fun b ↦ !as.eraseDups.contains b := by
  rw [List.eraseDups_append, List.removeAll, eraseDups_filter]
  congr 1
  apply List.filter_congr
  intro b _
  simp [List.mem_eraseDups]

theorem eraseDups_snoc (as : List α) (b : α) : (as ++ [b]).eraseDups =
    if as.contains b then as.eraseDups else as.eraseDups ++ [b] := by
  rw [eraseDups_append_eq, List.eraseDups_cons]
  by_cases hb : b ∈ as <;> simp [hb, List.mem_eraseDups]

end

end DiagramForge
