import DiagramForge.Proofs.Grammar.Leftovers

/-!
# Replacing a part of a rule body

A rule body is cut into segments at its actions. If a part `m` of a body that stands between `x` and
`y` is replaced by `m'`, the segments before it stay, the one around it has the other part in it, and
those behind it are moved: `segments_replaced`. This holds if no action is read in the part, whatever
it is, and none goes over the places where it begins and ends.
-/

namespace DiagramForge.Grammar

open Text

/-! ## Parts of a body -/

theorem bodyParts_nil : bodyParts [] = [] := by
  rw [bodyParts]

theorem bodyParts_of_some {cs after : List Char} {a : Action}
    (h : action? cs = some (a, after)) :
    bodyParts cs = .action a (cs.length - after.length) :: bodyParts after := by
  have hlt := length_lt_of_action? h
  rcases cs with _ | ⟨d, cs⟩
  · cases hlt
  have hread : actionIn? (d :: cs) = some (a, ⟨after, hlt⟩) := by
    rw [actionIn?, h, Option.bind_some]
    exact dif_pos hlt
  rw [bodyParts, hread]

theorem bodyParts_of_none {d : Char} {cs : List Char} (h : action? (d :: cs) = none) :
    bodyParts (d :: cs) = .char d :: bodyParts cs := by
  have hread : actionIn? (d :: cs) = none := by
    rw [actionIn?, h, Option.bind_none]
  rw [bodyParts, hread]

/-- If no action that begins in a text goes on behind it, the parts are those of the text and those of
what follows. -/
theorem bodyParts_append {x z : List Char} (h : ∀ u, u <:+ x → u ≠ [] →
      action? (u ++ z) = (action? u).map fun r ↦ (r.1, r.2 ++ z)) :
    bodyParts (x ++ z) = bodyParts x ++ bodyParts z := by
  induction x using bodyParts_cases with
  | nil => rw [bodyParts_nil, List.nil_append, List.nil_append]
  | action x a after hread ih =>
    have hne : x ≠ [] := by
      rintro rfl
      cases hread
    have hlocal := h x List.suffix_rfl hne
    rw [hread, Option.map_some] at hlocal
    obtain ⟨inside, rfl⟩ := exists_of_action? hread
    have hafter : after <:+ '{' :: (inside ++ '}' :: after) :=
      (List.suffix_cons _ _).trans ((List.suffix_append _ _).trans (List.suffix_cons _ _))
    rw [bodyParts_of_some hread, bodyParts_of_some hlocal,
      ih fun u hu hne ↦ h u (hu.trans hafter) hne, List.length_append, List.length_append,
      Nat.add_sub_add_right, List.cons_append]
  | char d x hread ih =>
    have hlocal := h (d :: x) List.suffix_rfl nofun
    rw [hread, Option.map_none] at hlocal
    rw [List.cons_append] at hlocal ⊢
    rw [bodyParts_of_none hread, bodyParts_of_none hlocal,
      ih fun u hu hne ↦ h u (hu.trans (List.suffix_cons d x)) hne, List.cons_append]

/-- A text without actions has its characters for parts. -/
theorem bodyParts_of_forall_none {cs : List Char} (h : ∀ u, u <:+ cs → action? u = none) :
    bodyParts cs = cs.map .char := by
  induction cs with
  | nil => rw [bodyParts_nil, List.map_nil]
  | cons d cs ih =>
    rw [bodyParts_of_none (h _ List.suffix_rfl), ih fun u hu ↦ h u (hu.trans (List.suffix_cons d cs)),
      List.map_cons]

/-- A text with its actions blanked. -/
def blankActions (cs : List Char) : List Char :=
  (bodyParts cs).flatMap BodyPart.blank

theorem blank_chars (cs : List Char) : (cs.map BodyPart.char).flatMap BodyPart.blank = cs := by
  induction cs with
  | nil => rfl
  | cons d cs ih =>
    rw [List.map_cons, List.flatMap_cons, ih]
    rfl

/-- Blanking actions keeps the places of characters. -/
theorem length_blankActions (cs : List Char) : (blankActions cs).length = cs.length := by
  rw [blankActions]
  induction cs using bodyParts_cases with
  | nil => rw [bodyParts_nil]; rfl
  | action cs a after hread ih =>
    have hlt := length_lt_of_action? hread
    rw [bodyParts_of_some hread, List.flatMap_cons, List.length_append, ih, BodyPart.blank,
      List.length_replicate]
    omega
  | char d cs hread ih =>
    rw [bodyParts_of_none hread, List.flatMap_cons, List.length_append, ih, List.length_cons,
      Nat.add_comm]
    rfl

/-! ## Segments -/

/-- What becomes of a segment when the part `m` of a body, between `x` and `y`, is replaced by `m'`. -/
inductive SegmentReplaced (m m' x y : List Char) : Segment → Segment → Prop where
  /-- The segment ends before the part. -/
  | before (s : Segment) (h : s.start + s.text.length ≤ x.length) : SegmentReplaced m m' x y s s
  /-- The part stands in the segment, between `u` and `v`. -/
  | around (action : Option Action) (start : Nat) (u v z : List Char)
    (hplace : start + u.length = x.length) (hu : u <:+ x) (hblank : u <:+ blankActions x)
    (hy : y = v ++ z) (hz : Breaks z) :
    SegmentReplaced m m' x y ⟨action, start, u ++ (m ++ v)⟩ ⟨action, start, u ++ (m' ++ v)⟩
  /-- The segment begins behind the part. -/
  | behind (action : Option Action) (i : Nat) (text : List Char) :
    SegmentReplaced m m' x y ⟨action, x.length + m.length + i, text⟩
      ⟨action, x.length + m'.length + i, text⟩

section

variable {m m' x y : List Char}

theorem segmentsFrom_chars (a : Option Action) (start : Nat) (text : List Char) (offset : Nat)
    (cs : List Char) (parts : List BodyPart) :
    segmentsFrom ⟨a, start, text⟩ offset (cs.map .char ++ parts) =
      segmentsFrom ⟨a, start, cs.reverse ++ text⟩ (offset + cs.length) parts := by
  induction cs generalizing text offset with
  | nil => rfl
  | cons d cs ih =>
    rw [List.map_cons, List.cons_append, segmentsFrom, ih, List.reverse_cons, List.append_assoc,
      List.singleton_append, List.length_cons, Nat.add_right_comm, Nat.add_assoc]

/-- Behind the part the segments are moved. -/
theorem segmentsFrom_behind (parts : List BodyPart) (a : Option Action) (text : List Char)
    (j i : Nat) : List.Forall₂ (SegmentReplaced m m' x y)
      (segmentsFrom ⟨a, x.length + m.length + j, text⟩ (x.length + m.length + i) parts)
      (segmentsFrom ⟨a, x.length + m'.length + j, text⟩ (x.length + m'.length + i) parts) := by
  induction parts generalizing a text j i with
  | nil => exact .cons (.behind a j _) .nil
  | cons part parts ih =>
    cases part with
    | char d => exact ih a (d :: text) j (i + 1)
    | action b width =>
      have hnext := ih (some b) [] (i + width) (i + width)
      rw [← Nat.add_assoc, ← Nat.add_assoc] at hnext
      exact .cons (.behind a j _) hnext

/-- The segment around the part goes on to the next action. -/
theorem segmentsFrom_around {u : List Char} (a : Option Action) {start : Nat}
    (hplace : start + u.length = x.length) (hu : u <:+ x) (hblank : u <:+ blankActions x)
    (v : List Char) {rest : List Char} (hy : y = v ++ rest) :
    List.Forall₂ (SegmentReplaced m m' x y)
      (segmentsFrom ⟨a, start, (u ++ (m ++ v)).reverse⟩ (x.length + m.length + v.length)
        (bodyParts rest))
      (segmentsFrom ⟨a, start, (u ++ (m' ++ v)).reverse⟩ (x.length + m'.length + v.length)
        (bodyParts rest)) := by
  have hdone : ∀ v rest, y = v ++ rest → Breaks rest → SegmentReplaced m m' x y
      ⟨a, start, (u ++ (m ++ v)).reverse.reverse⟩ ⟨a, start, (u ++ (m' ++ v)).reverse.reverse⟩ := by
    intro v rest hy hbreaks
    rw [List.reverse_reverse, List.reverse_reverse]
    exact .around a start u v rest hplace hu hblank hy hbreaks
  induction rest using bodyParts_cases generalizing v with
  | nil =>
    rw [bodyParts_nil]
    exact .cons (hdone v [] hy nofun) .nil
  | action rest b after hread ih =>
    obtain ⟨inside, hrest⟩ := exists_of_action? hread
    have hbreaks : Breaks rest := by
      rw [hrest]
      exact breaks_cons (by decide)
    rw [bodyParts_of_some hread, segmentsFrom, segmentsFrom, Nat.add_assoc (x.length + m.length),
      Nat.add_assoc (x.length + m'.length)]
    exact .cons (hdone v rest hy hbreaks) (segmentsFrom_behind _ _ _ _ _)
  | char d rest hread ih =>
    have hnext : ∀ m, d :: (u ++ (m ++ v)).reverse = (u ++ (m ++ (v ++ [d]))).reverse := by
      simp
    have hlength : v.length + 1 = (v ++ [d]).length := by simp
    rw [bodyParts_of_none hread, segmentsFrom, segmentsFrom, hnext, hnext,
      Nat.add_assoc (x.length + m.length), Nat.add_assoc (x.length + m'.length), hlength]
    exact ih (v ++ [d]) (by rw [hy]; simp)

/-- Up to the part the segments are the same. -/
theorem segmentsFrom_before (a : Option Action) (done blank : List Char) {start : Nat}
    {u rest : List Char} (hx : x = done ++ rest) (hplace : start + u.length = done.length)
    (hu : u <:+ done) (hblank : blankActions x = blank ++ blankActions rest) (hu' : u <:+ blank) :
    List.Forall₂ (SegmentReplaced m m' x y)
      (segmentsFrom ⟨a, start, u.reverse⟩ done.length
        (bodyParts rest ++ (m.map .char ++ bodyParts y)))
      (segmentsFrom ⟨a, start, u.reverse⟩ done.length
        (bodyParts rest ++ (m'.map .char ++ bodyParts y))) := by
  induction rest using bodyParts_cases generalizing a start u done blank with
  | nil =>
    -- the part comes next, in the segment that has begun with `u`
    rw [List.append_nil] at hx
    subst hx
    have hempty : blankActions [] = [] := by rw [blankActions, bodyParts_nil]; rfl
    rw [hempty, List.append_nil] at hblank
    have haround := @segmentsFrom_around m m' x y u a start hplace hu (hblank ▸ hu') [] y rfl
    simp only [List.append_nil, List.length_nil, Nat.add_zero, List.reverse_append] at haround
    rw [bodyParts_nil, List.nil_append, List.nil_append, segmentsFrom_chars, segmentsFrom_chars]
    exact haround
  | action rest b after hread ih =>
    obtain ⟨inside, hrest⟩ := exists_of_action? hread
    have htaken : rest = ('{' :: (inside ++ ['}'])) ++ after := by rw [hrest]; simp
    have hwidth : rest.length - after.length = ('{' :: (inside ++ ['}'])).length := by
      rw [htaken, List.length_append, Nat.add_sub_cancel]
    -- the action ends a segment before the part
    rw [bodyParts_of_some hread, List.cons_append, List.cons_append, segmentsFrom, segmentsFrom,
      hwidth, ← List.length_append]
    refine .cons (.before _ ?_) (ih (some b) _
      (blank ++ List.replicate ('{' :: (inside ++ ['}'])).length ' ') ?_ (Nat.add_zero _)
      List.nil_suffix ?_ List.nil_suffix)
    · rw [hx, List.length_reverse, List.length_reverse, hplace, List.length_append]
      exact Nat.le_add_right _ _
    · rw [hx, htaken, List.append_assoc]
    · rw [hblank, blankActions, bodyParts_of_some hread, List.flatMap_cons, ← List.append_assoc,
        BodyPart.blank, hwidth, blankActions]
  | char d rest hread ih =>
    have hnext : d :: u.reverse = (u ++ [d]).reverse := by simp
    have hlength : done.length + 1 = (done ++ [d]).length := by simp
    rw [bodyParts_of_none hread, List.cons_append, List.cons_append, segmentsFrom, segmentsFrom,
      hnext, hlength]
    refine ih a _ (blank ++ [d]) ?_ ?_ ?_ ?_ ?_
    · rw [hx, List.append_assoc, List.singleton_append]
    · rw [List.length_append, List.length_append, ← hplace, Nat.add_assoc]
    · obtain ⟨before, rfl⟩ := hu
      exact ⟨before, by rw [List.append_assoc]⟩
    · rw [hblank, blankActions, bodyParts_of_none hread, List.flatMap_cons, ← List.append_assoc,
        BodyPart.blank, blankActions]
    · obtain ⟨before, rfl⟩ := hu'
      exact ⟨before, by rw [List.append_assoc]⟩

/-- **The segments of a body when a part of it is replaced.** -/
theorem segments_replaced (m m' x y : List Char) : List.Forall₂ (SegmentReplaced m m' x y)
    (segments (bodyParts x ++ (m.map .char ++ bodyParts y)))
    (segments (bodyParts x ++ (m'.map .char ++ bodyParts y))) :=
  segmentsFrom_before none [] [] rfl rfl List.nil_suffix rfl List.nil_suffix

end

end DiagramForge.Grammar
