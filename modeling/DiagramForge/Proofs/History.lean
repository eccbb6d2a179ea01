import Mathlib.Data.List.Induction

/-!
# Histories

A history is the list of what happened, the last event at the end. What holds after a history is
shown by induction on its last event, so each notion about histories comes with an equation for a
history with one event more.
-/

namespace DiagramForge

variable {α : Type}

/-- In a history there is an event of which, with what came before it, `p` holds, and `q` holds of
every event since. -/
def Since (p : List α → α → Prop) (q : α → Prop) (history : List α) : Prop :=
  ∃ before event since, history = before ++ event :: since ∧ p before event ∧ ∀ e ∈ since, q e

variable {p : List α → α → Prop} {q : α → Prop}

theorem not_since_nil : ¬ Since p q [] := by
  rintro ⟨before, event, since, h, -⟩
  exact absurd h.symm (List.append_ne_nil_of_right_ne_nil _ (List.cons_ne_nil _ _))

/-- The event is the last one, or it was there before and `q` holds of the last one. -/
theorem since_snoc {history : List α} {last : α} :
    Since p q (history ++ [last]) ↔ p history last ∨ Since p q history ∧ q last := by
  constructor
  · rintro ⟨before, event, since, hhistory, hp, hq⟩
    rcases List.eq_nil_or_concat since with rfl | ⟨since, e, rfl⟩
    · obtain ⟨rfl, hlast⟩ := List.append_inj' hhistory rfl
      cases hlast
      exact .inl hp
    · rw [List.concat_eq_append] at hhistory hq
      rw [← List.cons_append, ← List.append_assoc] at hhistory
      obtain ⟨heq, hlast⟩ := List.append_inj' hhistory rfl
      cases hlast
      rw [List.forall_mem_append, List.forall_mem_singleton] at hq
      exact .inr ⟨⟨before, event, since, heq, hp, hq.1⟩, hq.2⟩
  · rintro (hp | ⟨⟨before, event, since, rfl, hp, hq⟩, hlast⟩)
    · exact ⟨history, last, [], rfl, hp, nofun⟩
    · refine ⟨before, event, since ++ [last], by rw [List.append_assoc, List.cons_append], hp, ?_⟩
      rw [List.forall_mem_append, List.forall_mem_singleton]
      exact ⟨hq, hlast⟩

end DiagramForge
