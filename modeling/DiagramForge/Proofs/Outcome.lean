import Mathlib.Data.List.Forall2

/-!
# Outcomes of computations that can fail

How a composed computation comes out, in terms of how its parts do. Every statement about a value
that is there, or about the failure that is met first, is an equivalence or an equation, so nested
computations are taken apart by rewriting.
-/

namespace DiagramForge.Outcome

variable {ε ε' α β : Type}

/-! ## Two computations -/

theorem bind_eq_ok {x : Except ε α} {f : α → Except ε β} {b : β} :
    x >>= f = .ok b ↔ ∃ a, x = .ok a ∧ f a = .ok b := by
  cases x with
  | error e => exact ⟨nofun, fun ⟨_, h, _⟩ ↦ nomatch h⟩
  | ok a => exact ⟨fun h ↦ ⟨a, rfl, h⟩, fun ⟨_, ha, h⟩ ↦ by cases ha; exact h⟩

theorem bind_eq_error {x : Except ε α} {f : α → Except ε β} {e : ε} :
    x >>= f = .error e ↔ x = .error e ∨ ∃ a, x = .ok a ∧ f a = .error e := by
  cases x with
  | error e' =>
    refine ⟨fun h ↦ .inl (by cases h; rfl), ?_⟩
    rintro (h | ⟨_, h, _⟩)
    · cases h
      rfl
    · cases h
  | ok a =>
    refine ⟨fun h ↦ .inr ⟨a, rfl, h⟩, ?_⟩
    rintro (h | ⟨_, ha, h⟩)
    · cases h
    · cases ha
      exact h

theorem mapError_eq_ok {x : Except ε α} {f : ε → ε'} {a : α} :
    x.mapError f = .ok a ↔ x = .ok a := by
  cases x with
  | error e => exact ⟨nofun, nofun⟩
  | ok a' => exact ⟨fun h ↦ by cases h; rfl, fun h ↦ by cases h; rfl⟩

theorem mapError_eq_error {x : Except ε α} {f : ε → ε'} {e' : ε'} :
    x.mapError f = .error e' ↔ ∃ e, x = .error e ∧ f e = e' := by
  cases x with
  | error e =>
    refine ⟨fun h ↦ ⟨e, rfl, by cases h; rfl⟩, ?_⟩
    rintro ⟨_, he, rfl⟩
    cases he
    rfl
  | ok a => exact ⟨nofun, fun ⟨_, h, _⟩ ↦ nomatch h⟩

theorem toOption_bind (x : Except ε α) (f : α → Except ε β) :
    (x >>= f).toOption = x.toOption >>= fun a ↦ (f a).toOption := by
  cases x <;> rfl

theorem toOption_mapError (x : Except ε α) (f : ε → ε') :
    (x.mapError f).toOption = x.toOption := by
  cases x <;> rfl

theorem toOption_eq_some {x : Except ε α} {a : α} : x.toOption = some a ↔ x = .ok a := by
  cases x with
  | error e => exact ⟨nofun, nofun⟩
  | ok a' => exact ⟨fun h ↦ by cases h; rfl, fun h ↦ by cases h; rfl⟩

/-! ## Lists of computations -/

/-- A list of computations has values if each of them has its own. -/
theorem mapM_eq_ok {f : α → Except ε β} {as : List α} {bs : List β} :
    as.mapM f = .ok bs ↔ List.Forall₂ (fun a b ↦ f a = .ok b) as bs := by
  induction as generalizing bs with
  | nil =>
    rw [List.mapM_nil, List.forall₂_nil_left_iff]
    exact ⟨fun h ↦ by cases h; rfl, fun h ↦ by cases h; rfl⟩
  | cons a as ih =>
    rw [List.mapM_cons, bind_eq_ok, List.forall₂_cons_left_iff]
    constructor
    · rintro ⟨b, hb, h⟩
      obtain ⟨bs', hbs', h⟩ := bind_eq_ok.mp h
      cases h
      exact ⟨b, bs', hb, ih.mp hbs', rfl⟩
    · rintro ⟨b, bs', hb, hbs', rfl⟩
      exact ⟨b, hb, bind_eq_ok.mpr ⟨bs', ih.mpr hbs', rfl⟩⟩

/-- Partners for all items of a list are a list of partners. -/
theorem exists_forall₂ {r : α → β → Prop} {as : List α} :
    (∃ bs, List.Forall₂ r as bs) ↔ ∀ a ∈ as, ∃ b, r a b := by
  induction as with
  | nil => exact ⟨fun _ ↦ nofun, fun _ ↦ ⟨[], .nil⟩⟩
  | cons a as ih =>
    rw [List.forall_mem_cons, ← ih]
    constructor
    · rintro ⟨_, _ | ⟨hb, hbs⟩⟩
      exact ⟨⟨_, hb⟩, ⟨_, hbs⟩⟩
    · rintro ⟨⟨b, hb⟩, bs, hbs⟩
      exact ⟨b :: bs, .cons hb hbs⟩

theorem exists_mapM_eq_ok {f : α → Except ε β} {as : List α} :
    (∃ bs, as.mapM f = .ok bs) ↔ ∀ a ∈ as, ∃ b, f a = .ok b := by
  rw [← exists_forall₂]
  exact exists_congr fun _ ↦ mapM_eq_ok

theorem exists_of_mem_mapM {f : α → Except ε β} {as : List α} {bs : List β}
    (h : as.mapM f = .ok bs) {b : β} (hb : b ∈ bs) : ∃ a ∈ as, f a = .ok b := by
  rw [mapM_eq_ok] at h
  induction h with
  | nil => exact absurd hb List.not_mem_nil
  | cons hab _ ih =>
    rcases List.mem_cons.mp hb with rfl | hb
    · exact ⟨_, List.mem_cons_self, hab⟩
    · obtain ⟨a, ha, hfa⟩ := ih hb
      exact ⟨a, List.mem_cons_of_mem _ ha, hfa⟩

theorem exists_mem_of_mapM {f : α → Except ε β} {as : List α} {bs : List β}
    (h : as.mapM f = .ok bs) {a : α} (ha : a ∈ as) : ∃ b ∈ bs, f a = .ok b := by
  rw [mapM_eq_ok] at h
  induction h with
  | nil => exact absurd ha List.not_mem_nil
  | cons hab _ ih =>
    rcases List.mem_cons.mp ha with rfl | ha
    · exact ⟨_, List.mem_cons_self, hab⟩
    · obtain ⟨b, hb, hfb⟩ := ih ha
      exact ⟨b, List.mem_cons_of_mem _ hb, hfb⟩

/-- The failure of a list of computations is that of one of them. -/
theorem exists_of_mapM_eq_error {f : α → Except ε β} {as : List α} {e : ε}
    (h : as.mapM f = .error e) : ∃ a ∈ as, f a = .error e := by
  induction as with
  | nil => cases h
  | cons a as ih =>
    rw [List.mapM_cons, bind_eq_error] at h
    rcases h with h | ⟨b, -, h⟩
    · exact ⟨a, List.mem_cons_self, h⟩
    · rcases bind_eq_error.mp h with h | ⟨bs, -, h⟩
      · obtain ⟨a', ha', h⟩ := ih h
        exact ⟨a', List.mem_cons_of_mem _ ha', h⟩
      · cases h

/-- A list can be filtered if the question about its items always has an answer. -/
theorem exists_filterM_eq_ok {p : α → Except ε Bool} {as : List α}
    (hp : ∀ a ∈ as, ∃ b, p a = .ok b) : ∃ bs, as.filterM p = .ok bs := by
  have haux : ∀ acc, ∃ bs, as.filterAuxM p acc = .ok bs := by
    induction as with
    | nil => exact fun acc ↦ ⟨acc, rfl⟩
    | cons a as ih =>
      intro acc
      obtain ⟨⟨b, hb⟩, has⟩ := List.forall_mem_cons.mp hp
      obtain ⟨bs, hbs⟩ := ih has (bif b then a :: acc else acc)
      exact ⟨bs, bind_eq_ok.mpr ⟨b, hb, hbs⟩⟩
  obtain ⟨bs, hbs⟩ := haux []
  exact ⟨bs.reverse, bind_eq_ok.mpr ⟨bs, hbs, rfl⟩⟩

/-- Filtering asks the question about each item, and adds those with the answer yes. -/
theorem filterAuxM_eq_ok {p : α → Except ε Bool} {as acc bs : List α}
    (h : as.filterAuxM p acc = .ok bs) :
    (∀ a ∈ as, ∃ b, p a = .ok b) ∧ ∀ a, a ∈ bs ↔ a ∈ acc ∨ (a ∈ as ∧ p a = .ok true) := by
  induction as generalizing acc with
  | nil =>
    cases h
    exact ⟨nofun, fun a ↦ ⟨.inl, fun h ↦ h.resolve_right fun h ↦ List.not_mem_nil h.1⟩⟩
  | cons a as ih =>
    obtain ⟨b, hb, h⟩ := bind_eq_ok.mp h
    obtain ⟨hall, hmem⟩ := ih h
    refine ⟨?_, fun a' ↦ ?_⟩
    · rw [List.forall_mem_cons]
      exact ⟨⟨b, hb⟩, hall⟩
    · rw [hmem, List.mem_cons]
      cases b with
      | true =>
        by_cases ha : a' = a
        · simp [ha, hb]
        · simp [ha]
      | false =>
        by_cases ha : a' = a
        · simp [ha, hb]
        · simp [ha]

/-- What is kept of a list is in the order of the list. -/
theorem sublist_of_filterAuxM {p : α → Except ε Bool} {as acc bs : List α}
    (h : as.filterAuxM p acc = .ok bs) :
    ∃ kept : List α, kept.Sublist as ∧ bs = kept.reverse ++ acc := by
  induction as generalizing acc with
  | nil =>
    cases h
    exact ⟨[], .slnil, rfl⟩
  | cons a as ih =>
    obtain ⟨b, -, h⟩ := bind_eq_ok.mp h
    obtain ⟨kept, hkept, rfl⟩ := ih h
    cases b with
    | true => exact ⟨a :: kept, hkept.cons_cons a, by simp⟩
    | false => exact ⟨kept, hkept.cons a, rfl⟩

theorem sublist_of_filterM {p : α → Except ε Bool} {as bs : List α} (h : as.filterM p = .ok bs) :
    bs.Sublist as := by
  obtain ⟨cs, hcs, h⟩ := bind_eq_ok.mp h
  cases h
  obtain ⟨kept, hkept, rfl⟩ := sublist_of_filterAuxM hcs
  rwa [List.append_nil, List.reverse_reverse]

theorem mem_filterM {p : α → Except ε Bool} {as bs : List α} (h : as.filterM p = .ok bs) {a : α} :
    a ∈ bs ↔ a ∈ as ∧ p a = .ok true := by
  obtain ⟨cs, hcs, h⟩ := bind_eq_ok.mp h
  cases h
  rw [List.mem_reverse, (filterAuxM_eq_ok hcs).2 a, or_iff_right List.not_mem_nil]

/-- Nothing is kept if the answer is no each time. -/
theorem filterM_eq_nil {p : α → Except ε Bool} {as : List α} (h : ∀ a ∈ as, p a = .ok false) :
    as.filterM p = .ok [] := by
  have haux : as.filterAuxM p [] = .ok [] := by
    induction as with
    | nil => rfl
    | cons a as ih =>
      obtain ⟨ha, has⟩ := List.forall_mem_cons.mp h
      exact bind_eq_ok.mpr ⟨false, ha, ih has⟩
  exact bind_eq_ok.mpr ⟨[], haux, rfl⟩

/-- In a list that can be filtered, the question has an answer for each item. -/
theorem exists_of_filterM {p : α → Except ε Bool} {as bs : List α} (h : as.filterM p = .ok bs)
    {a : α} (ha : a ∈ as) : ∃ b, p a = .ok b := by
  obtain ⟨cs, hcs, -⟩ := bind_eq_ok.mp h
  exact (filterAuxM_eq_ok hcs).1 a ha

end DiagramForge.Outcome
