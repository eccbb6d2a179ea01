import DiagramForge.Proofs.Grammar.Lexing
import DiagramForge.Proofs.Naming

/-!
# Two spellings of a name

A name in snake case is made of words of small letters, with an underscore between each two. In
camel case each word but the first begins with a capital instead, and the words are found again
where a capital follows a small letter.

## Words of one letter

A word of one letter is a capital in camel case, and the capital behind it follows no small letter.
So the two words are taken for one: `aBFrom` is read as `a` and `bfrom`. Words are read as `runs`
says, `tokens_camel`, and this is how they were written if no word between the first and the last
has a single letter, `runs_eq_self`.
-/

namespace DiagramForge.Naming

open Text Grammar

/-! ## Small letters and digits -/

section Small

variable {c : Char}

theorem isAlphanum_eq (c : Char) : c.isAlphanum = (c.isUpper || endsHump c) :=
  Bool.or_assoc ..

theorem isAlphanum_of_endsHump (h : endsHump c = true) : c.isAlphanum = true := by
  rw [isAlphanum_eq, h, Bool.or_true]

theorem isAscii_of_endsHump (h : endsHump c = true) : isAscii c = true :=
  isAscii_of_isAlphanum (isAlphanum_of_endsHump h)

/-- What a small letter or a digit is not. -/
theorem of_endsHump (h : endsHump c = true) :
    c.isUpper = false ∧ isSeparator c = false ∧ c.toLower = c :=
  forall_isAscii (p := fun c ↦ endsHump c = true →
    c.isUpper = false ∧ isSeparator c = false ∧ c.toLower = c) (by decide) (isAscii_of_endsHump h) h

theorem endsHump_of_isLower (h : c.isLower = true) : endsHump c = true := by
  rw [endsHump, h, Bool.true_or]

theorem isAscii_of_isLower (h : c.isLower = true) : isAscii c = true :=
  isAscii_of_endsHump (endsHump_of_isLower h)

theorem of_isLower (h : c.isLower = true) :
    c.isUpper = false ∧ isSeparator c = false ∧ c.toLower = c :=
  of_endsHump (endsHump_of_isLower h)

/-- What a small letter becomes as a capital. -/
theorem toUpper_of_isLower (h : c.isLower = true) :
    c.toUpper.isUpper = true ∧ endsHump c.toUpper = false ∧ isSeparator c.toUpper = false ∧
      isAscii c.toUpper = true ∧ c.toUpper.toLower = c :=
  forall_isAscii (p := fun c ↦ c.isLower = true →
    c.toUpper.isUpper = true ∧ endsHump c.toUpper = false ∧ isSeparator c.toUpper = false ∧
      isAscii c.toUpper = true ∧ c.toUpper.toLower = c) (by decide) (isAscii_of_isLower h) h

theorem lower_of_endsHump {cs : List Char} (h : ∀ c ∈ cs, endsHump c = true) : lower cs = cs := by
  rw [lower_of_isAscii fun c hc ↦ isAscii_of_endsHump (h c hc)]
  exact (List.map_congr_left fun c hc ↦ (of_endsHump (h c hc)).2.2).trans (List.map_id cs)

theorem lower_of_isLower {cs : List Char} (h : ∀ c ∈ cs, c.isLower = true) : lower cs = cs :=
  lower_of_endsHump fun c hc ↦ endsHump_of_isLower (h c hc)

end Small

/-- A word: one small letter or more. -/
structure IsWord (w : List Char) : Prop where
  /-- There is a letter. -/
  ne_nil : w ≠ []
  /-- All letters are small. -/
  isLower : ∀ c ∈ w, c.isLower = true

instance (w : List Char) : Decidable (IsWord w) :=
  decidable_of_iff (w ≠ [] ∧ w.all Char.isLower = true)
    ⟨fun h ↦ ⟨h.1, List.all_eq_true.mp h.2⟩, fun h ↦ ⟨h.ne_nil, List.all_eq_true.mpr h.isLower⟩⟩

/-- A text begins with a character of one kind and goes on with characters of another. -/
def Begins (start more : Char → Bool) : List Char → Prop
  | [] => False
  | c :: cs => start c = true ∧ ∀ d ∈ cs, more d = true

instance (start more : Char → Bool) : DecidablePred (Begins start more)
  | [] => .isFalse id
  | c :: cs => decidable_of_iff (start c = true ∧ cs.all more = true)
    (and_congr Iff.rfl List.all_eq_true)

/-- A segment: a small letter, and maybe small letters and digits behind it. -/
def IsSegment : List Char → Prop :=
  Begins Char.isLower endsHump

instance : DecidablePred IsSegment :=
  inferInstanceAs (DecidablePred (Begins Char.isLower endsHump))

theorem IsWord.isSegment {w : List Char} (h : IsWord w) : IsSegment w := by
  cases w with
  | nil => exact absurd rfl h.ne_nil
  | cons c w =>
    obtain ⟨hc, hw⟩ := List.forall_mem_cons.mp h.isLower
    exact ⟨hc, fun d hd ↦ endsHump_of_isLower (hw d hd)⟩

/-! ## Snake case -/

/-- The parts of a name between underscores. -/
def parts (name : List Char) : List (List Char) :=
  fields (· == '_') name

/-- A name is made of words with an underscore between each two. -/
def IsSnake (name : List Char) : Prop :=
  ∀ w ∈ parts name, IsWord w

instance (name : List Char) : Decidable (IsSnake name) :=
  inferInstanceAs (Decidable (∀ w ∈ parts name, IsWord w))

section Snake

variable {name first : List Char} {rest : List (List Char)}

theorem eq_of_parts (hparts : parts name = first :: rest) :
    name = first ++ rest.flatMap ('_' :: ·) :=
  eq_append_of_fields hparts

/-- What holds of the letters of a name and of underscores holds of all its characters. -/
theorem forall_mem_of_isSnake {p : Char → Prop} (hlower : ∀ c : Char, c.isLower = true → p c)
    (hunderscore : p '_') (h : IsSnake name) : ∀ c ∈ name, p c := by
  have hparts : ∃ first rest, parts name = first :: rest :=
    List.exists_cons_of_ne_nil (fields_ne_nil _ _)
  obtain ⟨first, rest, hparts⟩ := hparts
  rw [IsSnake, hparts, List.forall_mem_cons] at h
  rw [eq_of_parts hparts]
  intro c hc
  rcases List.mem_append.mp hc with hc | hc
  · exact hlower c (h.1.isLower c hc)
  · obtain ⟨w, hw, hc⟩ := List.mem_flatMap.mp hc
    rcases List.mem_cons.mp hc with rfl | hc
    · exact hunderscore
    · exact hlower c ((h.2 w hw).isLower c hc)

/-- Where no character is a capital, nothing is broken. -/
theorem breakHumps_of_not_isUpper (sep : Char) {cs : List Char}
    (h : ∀ c ∈ cs, c.isUpper = false) : breakHumps sep cs = cs := by
  induction cs with
  | nil => rfl
  | cons c cs ih =>
    rw [List.forall_mem_cons] at h
    cases cs with
    | nil => rfl
    | cons d cs =>
      have hd := h.2 d List.mem_cons_self
      rw [breakHumps, ih h.2, hd, Bool.and_false, if_neg Bool.false_ne_true]

theorem fields_congr {sep sep' : Char → Bool} {cs : List Char}
    (h : ∀ c ∈ cs, sep c = sep' c) : fields sep cs = fields sep' cs := by
  induction cs with
  | nil => rfl
  | cons c cs ih =>
    rw [List.forall_mem_cons] at h
    rw [fields, fields, ih h.2, h.1]

/-- The words between separators are the parts of the name. -/
theorem words_of_isSnake (h : IsSnake name) : words isSeparator name = parts name := by
  have hfields : fields isSeparator name = parts name := by
    refine fields_congr (forall_mem_of_isSnake (fun c hc ↦ ?_) rfl h)
    have hne : c ≠ '_' := by
      rintro rfl
      exact absurd hc (by decide)
    rw [(of_isLower hc).2.1, beq_eq_false_iff_ne.mpr hne]
  rw [words, hfields, List.filter_eq_self]
  intro w hw
  simpa using (h w hw).ne_nil

/-- The words of a name in snake case are those it is made of. -/
theorem tokens_of_isSnake (h : IsSnake name) : tokens name = parts name := by
  have hunbroken : breakHumps '_' name = name :=
    breakHumps_of_not_isUpper _ (forall_mem_of_isSnake (fun c hc ↦ (of_isLower hc).1) rfl h)
  rw [tokens, hunbroken, words_of_isSnake h]
  exact (List.map_congr_left fun w hw ↦ lower_of_isLower (h w hw).isLower).trans (List.map_id _)

end Snake

/-! ## Camel case -/

/-- The word with a capital for its first letter. -/
def hump : List Char → List Char
  | [] => []
  | c :: cs => c.toUpper :: cs

/-! ### Segments -/

section Segment

variable {w : List Char} {ws : List (List Char)}

theorem pascalWord_of_isSegment (h : IsSegment w) : pascalWord w = hump w := by
  cases w with
  | nil => rfl
  | cons c cs =>
    obtain ⟨hc, hcs⟩ := h
    rw [pascalWord, upperImage, if_pos (isAscii_of_isLower hc), lower_of_endsHump hcs]
    rfl

theorem exists_flatMap_hump (h : ∀ w ∈ ws, IsSegment w) (hne : ws ≠ []) :
    ∃ c cs, ws.flatMap hump = c :: cs ∧ c.isUpper = true := by
  rcases ws with _ | ⟨_ | ⟨c, w⟩, ws⟩
  · exact absurd rfl hne
  · exact (h [] List.mem_cons_self).elim
  · have hw := h (c :: w) List.mem_cons_self
    exact ⟨c.toUpper, w ++ ws.flatMap hump, rfl, (toUpper_of_isLower hw.1).1⟩

/-- What is asked of the characters of a segment with a capital. -/
theorem forall_mem_hump {p : Char → Prop} (hsmall : ∀ c : Char, endsHump c = true → p c)
    (hupper : ∀ c : Char, c.isLower = true → p c.toUpper) (h : IsSegment w) :
    ∀ c ∈ hump w, p c := by
  cases w with
  | nil => exact h.elim
  | cons c w =>
    rw [hump, List.forall_mem_cons]
    exact ⟨hupper c h.1, fun d hd ↦ hsmall d (h.2 d hd)⟩

theorem map_toLower_hump (h : IsSegment w) : (hump w).map Char.toLower = w := by
  cases w with
  | nil => rfl
  | cons c w =>
    rw [hump, List.map_cons, (toUpper_of_isLower h.1).2.2.2.2]
    exact congrArg _ ((List.map_congr_left fun d hd ↦ (of_endsHump (h.2 d hd)).2.2).trans
      (List.map_id w))

end Segment

/-! ### Names -/

section Camel

variable {name first : List Char} {rest : List (List Char)}

/-- In camel case every word but the first begins with a capital. -/
theorem camel_of_isSnake (h : IsSnake name) (hparts : parts name = first :: rest) :
    camel name = first ++ rest.flatMap hump := by
  have hpascal : pascal name = (parts name).flatMap hump := by
    rw [pascal, words_of_isSnake h]
    exact List.flatMap_congr fun w hw ↦ pascalWord_of_isSegment (h w hw).isSegment
  rw [IsSnake, hparts, List.forall_mem_cons] at h
  rw [camel, hpascal, hparts, List.flatMap_cons]
  cases hfirst : first with
  | nil => exact absurd hfirst h.1.ne_nil
  | cons c cs =>
    have hc := toUpper_of_isLower (h.1.isLower c (hfirst ▸ List.mem_cons_self))
    obtain ⟨-, -, -, hascii, hlower⟩ := hc
    rw [hump, List.cons_append, lowerFirst, lower_of_isAscii (by simpa using hascii),
      List.map_singleton, hlower]
    rfl

/-- The name in snake case that is spelled so in camel case. -/
def uncamel (name : List Char) : List Char :=
  name.flatMap fun c ↦ if c.isUpper then ['_', c.toLower] else [c]

theorem uncamel_of_isLower {cs : List Char} (h : ∀ c ∈ cs, c.isLower = true) :
    uncamel cs = cs := by
  have hself : ∀ c ∈ cs, (if c.isUpper then ['_', c.toLower] else [c]) = [c] := by
    intro c hc
    rw [(of_isLower (h c hc)).1]
    rfl
  rw [uncamel, List.flatMap_congr hself]
  exact List.flatMap_singleton' cs

theorem uncamel_hump {w : List Char} (h : IsWord w) : uncamel (hump w) = '_' :: w := by
  cases w with
  | nil => exact absurd rfl h.ne_nil
  | cons c cs =>
    obtain ⟨hupper, -, -, -, hlower⟩ := toUpper_of_isLower (h.isLower c List.mem_cons_self)
    have hcs := uncamel_of_isLower fun d hd ↦ h.isLower d (List.mem_cons_of_mem _ hd)
    rw [uncamel] at hcs
    rw [hump, uncamel, List.flatMap_cons, hupper, if_pos rfl, hlower, hcs]
    rfl

/-- A name in snake case is read back from its spelling in camel case. -/
theorem uncamel_camel (h : IsSnake name) : uncamel (camel name) = name := by
  obtain ⟨first, rest, hparts⟩ : ∃ first rest, parts name = first :: rest :=
    List.exists_cons_of_ne_nil (fields_ne_nil _ _)
  have hcamel := camel_of_isSnake h hparts
  rw [IsSnake, hparts, List.forall_mem_cons] at h
  have hrest : uncamel (rest.flatMap hump) = rest.flatMap ('_' :: ·) := by
    rw [uncamel, List.flatMap_assoc]
    exact List.flatMap_congr fun w hw ↦ uncamel_hump (h.2 w hw)
  rw [hcamel, uncamel, List.flatMap_append, ← uncamel, ← uncamel, uncamel_of_isLower h.1.isLower,
    hrest, ← eq_of_parts hparts]

end Camel

/-! ## Runs -/

/-- A word in front of others. One letter is taken for the beginning of the next word. -/
def prepend : List Char → List (List Char) → List (List Char)
  | [c], r :: rs => (c :: r) :: rs
  | w, rs => w :: rs

/-- The words that are told apart where each of some words begins with a capital. -/
def runs (ws : List (List Char)) : List (List Char) :=
  ws.foldr prepend []

section Runs

variable {w : List Char} {ws rs : List (List Char)}

theorem runs_cons (w : List Char) (ws : List (List Char)) :
    runs (w :: ws) = prepend w (runs ws) := rfl

theorem prepend_nil (w : List Char) : prepend w [] = [w] := by
  rcases w with _ | ⟨c, _ | ⟨d, w⟩⟩ <;> rfl

theorem prepend_of_length_ne_one (h : w.length ≠ 1) (rs : List (List Char)) :
    prepend w rs = w :: rs := by
  rcases w with _ | ⟨c, _ | ⟨d, w⟩⟩
  · rfl
  · exact absurd rfl h
  · rfl

theorem prepend_ne_nil (w : List Char) (rs : List (List Char)) : prepend w rs ≠ [] := by
  rcases w with _ | ⟨c, _ | ⟨d, w⟩⟩ <;> rcases rs with _ | ⟨r, rs⟩ <;> simp [prepend]

theorem ne_nil_of_mem_prepend (hw : w ≠ []) (hrs : ∀ r ∈ rs, r ≠ []) :
    ∀ r ∈ prepend w rs, r ≠ [] := by
  rcases w with _ | ⟨c, _ | ⟨d, w⟩⟩ <;> rcases rs with _ | ⟨r, rs⟩ <;> simp_all [prepend]

theorem prepend_map (f : Char → Char) (w : List Char) (rs : List (List Char)) :
    prepend (w.map f) (rs.map (·.map f)) = (prepend w rs).map (·.map f) := by
  rcases w with _ | ⟨c, _ | ⟨d, w⟩⟩ <;> rcases rs with _ | ⟨r, rs⟩ <;> rfl

theorem runs_map (f : Char → Char) (ws : List (List Char)) :
    runs (ws.map (·.map f)) = (runs ws).map (·.map f) := by
  induction ws with
  | nil => rfl
  | cons w ws ih => rw [List.map_cons, runs_cons, runs_cons, ih, prepend_map]

theorem runs_ne_nil (h : ws ≠ []) : runs ws ≠ [] := by
  cases ws with
  | nil => exact absurd rfl h
  | cons w ws => exact prepend_ne_nil _ _

theorem ne_nil_of_mem_runs (h : ∀ w ∈ ws, w ≠ []) : ∀ r ∈ runs ws, r ≠ [] := by
  induction ws with
  | nil => simp [runs]
  | cons w ws ih =>
    rw [List.forall_mem_cons] at h
    rw [runs_cons]
    exact ne_nil_of_mem_prepend h.1 (ih h.2)

theorem flatten_prepend (w : List Char) (rs : List (List Char)) :
    (prepend w rs).flatten = w ++ rs.flatten := by
  rcases w with _ | ⟨c, _ | ⟨d, w⟩⟩ <;> rcases rs with _ | ⟨r, rs⟩ <;> simp [prepend]

/-- No letter is lost. -/
theorem flatten_runs (ws : List (List Char)) : (runs ws).flatten = ws.flatten := by
  induction ws with
  | nil => rfl
  | cons w ws ih => rw [runs_cons, flatten_prepend, ih, List.flatten_cons]

/-- Words are told apart if none but the last has a single letter. -/
theorem runs_eq_self (h : ∀ w ∈ ws.dropLast, w.length ≠ 1) : runs ws = ws := by
  induction ws with
  | nil => rfl
  | cons w ws ih =>
    rw [runs_cons]
    cases ws with
    | nil => exact prepend_nil w
    | cons v ws =>
      rw [List.dropLast_cons_of_ne_nil (List.cons_ne_nil _ _), List.forall_mem_cons] at h
      rw [ih h.2, prepend_of_length_ne_one h.1]

end Runs

/-! ## Words in camel case -/

section Broken

variable {w first : List Char} {ws : List (List Char)} {sep : Char} {cs : List Char}

theorem breakHumps_cons {c : Char} (hc : endsHump c = false) (sep : Char) (cs : List Char) :
    breakHumps sep (c :: cs) = c :: breakHumps sep cs := by
  cases cs with
  | nil => rfl
  | cons d cs => rw [breakHumps, hc, Bool.false_and, if_neg Bool.false_ne_true]

/-- A separator is put between small letters and a capital. -/
theorem breakHumps_append {c : Char} (hw : IsWord w) (hc : c.isUpper = true) :
    breakHumps sep (w ++ c :: cs) = w ++ sep :: breakHumps sep (c :: cs) := by
  obtain ⟨hne, hlower⟩ := hw
  induction w with
  | nil => exact absurd rfl hne
  | cons d w ih =>
    rw [List.forall_mem_cons] at hlower
    cases w with
    | nil =>
      rw [List.singleton_append, breakHumps, endsHump_of_isLower hlower.1, hc]
      rfl
    | cons d' w =>
      have hd' := (of_isLower (hlower.2 d' List.mem_cons_self)).1
      rw [List.cons_append, List.cons_append, breakHumps, hd', Bool.and_false,
        if_neg Bool.false_ne_true, ← List.cons_append, ih (List.cons_ne_nil _ _) hlower.2]
      rfl

theorem not_isSeparator_hump (h : IsWord w) : ∀ c ∈ hump w, isSeparator c = false :=
  forall_mem_hump (fun _ hc ↦ (of_endsHump hc).2.1) (fun _ hc ↦ (toUpper_of_isLower hc).2.2.1)
    h.isSegment

theorem hump_ne_nil (h : IsWord w) : hump w ≠ [] := by
  cases w with
  | nil => exact absurd rfl h.ne_nil
  | cons c w => exact List.cons_ne_nil _ _

theorem breakHumps_hump (sep : Char) (h : IsWord w) : breakHumps sep (hump w) = hump w := by
  cases w with
  | nil => rfl
  | cons c w =>
    obtain ⟨hc, hw⟩ := List.forall_mem_cons.mp h.isLower
    rw [hump, breakHumps_cons (toUpper_of_isLower hc).2.1,
      breakHumps_of_not_isUpper _ fun d hd ↦ (of_isLower (hw d hd)).1]

/-- Words that begin with capitals are separated as runs. -/
theorem fields_breakHumps (h : ∀ w ∈ ws, IsWord w) (hne : ws ≠ []) :
    fields isSeparator (breakHumps '_' (ws.flatMap hump)) = runs (ws.map hump) := by
  induction ws with
  | nil => exact absurd rfl hne
  | cons w ws ih =>
    obtain ⟨hw, hws⟩ := List.forall_mem_cons.mp h
    rw [List.flatMap_cons, List.map_cons, runs_cons]
    by_cases hlast : ws = []
    · rw [hlast, List.flatMap_nil, List.append_nil, breakHumps_hump _ hw,
        fields_of_not_sep (not_isSeparator_hump hw), List.map_nil]
      exact (prepend_nil _).symm
    obtain ⟨d, ds, hmore, hd⟩ := exists_flatMap_hump (fun w hw ↦ (hws w hw).isSegment) hlast
    replace ih := ih hws hlast
    have hletters := not_isSeparator_hump hw
    rw [hmore] at ih ⊢
    rcases w with _ | ⟨c, _ | ⟨c', w⟩⟩
    · exact absurd rfl hw.ne_nil
    · -- the capital is followed by a capital
      have hhumps : ws.map hump ≠ [] := by simpa using hlast
      obtain ⟨r, rs, hruns⟩ := List.exists_cons_of_ne_nil (runs_ne_nil hhumps)
      have hc := (toUpper_of_isLower (hw.isLower c List.mem_cons_self)).2.1
      rw [hruns] at ih ⊢
      rw [hump] at hletters ⊢
      rw [List.singleton_append, breakHumps_cons hc, ← List.singleton_append,
        fields_append hletters ih]
      rfl
    · have hc := (toUpper_of_isLower (hw.isLower c List.mem_cons_self)).2.1
      have htail : IsWord (c' :: w) :=
        ⟨List.cons_ne_nil _ _, fun e he ↦ hw.isLower e (List.mem_cons_of_mem _ he)⟩
      rw [hump] at hletters ⊢
      rw [List.cons_append, breakHumps_cons hc, breakHumps_append htail hd,
        ← List.cons_append, fields_append_of_sep hletters (by decide), ih]
      rfl

theorem lower_runs (h : ∀ w ∈ ws, IsWord w) : (runs (ws.map hump)).map lower = runs ws := by
  have hascii : ∀ r ∈ runs (ws.map hump), ∀ c ∈ r, isAscii c = true := by
    intro r hr c hc
    have hmem : c ∈ (runs (ws.map hump)).flatten := List.mem_flatten_of_mem hr hc
    rw [flatten_runs, List.mem_flatten] at hmem
    obtain ⟨_, hv, hc⟩ := hmem
    obtain ⟨w, hw, rfl⟩ := List.mem_map.mp hv
    exact forall_mem_hump (fun _ hc ↦ isAscii_of_endsHump hc)
      (fun _ hc ↦ (toUpper_of_isLower hc).2.2.2.1) (h w hw).isSegment c hc
  have hlower : (ws.map hump).map (·.map Char.toLower) = ws := by
    rw [List.map_map]
    exact (List.map_congr_left fun w hw ↦ map_toLower_hump (h w hw).isSegment).trans
      (List.map_id ws)
  rw [List.map_congr_left fun r hr ↦ lower_of_isAscii (hascii r hr), ← runs_map, hlower]

/-- **The words of a name in camel case** are the runs of those it is made of. -/
theorem tokens_camel {name : List Char} (h : IsSnake name) (hparts : parts name = first :: ws) :
    tokens (camel name) = first :: runs ws := by
  have hcamel := camel_of_isSnake h hparts
  rw [IsSnake, hparts, List.forall_mem_cons] at h
  obtain ⟨hfirst, hws⟩ := h
  have hletters : ∀ c ∈ first, isSeparator c = false :=
    fun c hc ↦ (of_isLower (hfirst.isLower c hc)).2.1
  have hfields : fields isSeparator (breakHumps '_' (first ++ ws.flatMap hump)) =
      first :: runs (ws.map hump) := by
    by_cases hlast : ws = []
    · have hunbroken : breakHumps '_' first = first :=
        breakHumps_of_not_isUpper _ fun c hc ↦ (of_isLower (hfirst.isLower c hc)).1
      rw [hlast, List.flatMap_nil, List.append_nil, hunbroken, fields_of_not_sep hletters]
      rfl
    · obtain ⟨d, ds, hmore, hd⟩ := exists_flatMap_hump (fun w hw ↦ (hws w hw).isSegment) hlast
      rw [hmore, breakHumps_append hfirst hd, ← hmore, fields_append_of_sep hletters rfl,
        fields_breakHumps hws hlast]
  have hnonempty : ∀ r ∈ runs (ws.map hump), r ≠ [] := by
    refine ne_nil_of_mem_runs ?_
    rw [List.forall_mem_map]
    exact fun w hw ↦ hump_ne_nil (hws w hw)
  rw [tokens, hcamel, words, hfields, List.filter_eq_self.mpr, List.map_cons,
    lower_of_isLower hfirst.isLower, lower_runs hws]
  rw [List.forall_mem_cons]
  exact ⟨by simpa using hfirst.ne_nil, fun r hr ↦ by simpa using hnonempty r hr⟩

/-- No word between the first and the last has a single letter. -/
def ToldApart (name : List Char) : Prop :=
  ∀ w ∈ (parts name).tail.dropLast, w.length ≠ 1

instance (name : List Char) : Decidable (ToldApart name) :=
  inferInstanceAs (Decidable (∀ w ∈ (parts name).tail.dropLast, w.length ≠ 1))

/-- Both spellings have the same words if no single letter runs into the word behind it. -/
theorem tokens_camel_of_toldApart {name : List Char} (h : IsSnake name) (hapart : ToldApart name) :
    tokens (camel name) = tokens name := by
  obtain ⟨first, rest, hparts⟩ : ∃ first rest, parts name = first :: rest :=
    List.exists_cons_of_ne_nil (fields_ne_nil _ _)
  rw [ToldApart, hparts, List.tail_cons] at hapart
  rw [tokens_camel h hparts, tokens_of_isSnake h, hparts, runs_eq_self hapart]

end Broken

/-- A single letter runs into the word behind it. -/
example : tokens "a_b_from".toList = ["a".toList, "b".toList, "from".toList] ∧
    tokens (camel "a_b_from".toList) = ["a".toList, "bfrom".toList] := by decide

end DiagramForge.Naming
