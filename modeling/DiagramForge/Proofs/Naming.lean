import DiagramForge.Grammar.Validation
import DiagramForge.Naming
import Mathlib.Data.List.Basic

/-!
# File names of types

The spelling of files is one for many names: `Task` and `task` both become `task`. Names that are
spelled as types are, can be told apart by it, `Naming.toKebab_inj`: every capital of such a name is
seen as a dash in front of a small letter, except for the first one, which is always there.

`Naming.unkebab` turns the dashes back into capitals.
-/

namespace DiagramForge

open Text

/-! ## ASCII characters -/

namespace Text

/-- What holds of the first 128 characters holds of every ASCII character. -/
theorem forall_isAscii {p : Char → Prop} (h : ∀ n < 128, p (Char.ofNat n)) {c : Char}
    (hc : isAscii c = true) : p c := by
  rw [← Char.ofNat_toNat c]
  exact h _ (of_decide_eq_true hc)

theorem isAscii_of_isAlphanum {c : Char} (h : c.isAlphanum = true) : isAscii c = true := by
  -- an alphanumeric character is a capital, a small letter or a digit
  change (decide ('A'.val ≤ c.val ∧ c.val ≤ 'Z'.val)
    || (decide ('a'.val ≤ c.val) && decide (c.val ≤ 'z'.val))
    || (decide ('0'.val ≤ c.val) && decide (c.val ≤ '9'.val))) = true at h
  simp only [Bool.or_eq_true, Bool.and_eq_true, decide_eq_true_eq, UInt32.le_iff_toNat_le] at h
  have hval : c.toNat = c.val.toNat := rfl
  have hcapital : 'Z'.val.toNat = 90 := rfl
  have hsmall : 'z'.val.toNat = 122 := rfl
  have hdigit : '9'.val.toNat = 57 := rfl
  rw [isAscii, decide_eq_true_eq]
  omega

/-- On ASCII text each character is lowered by itself. -/
theorem lower_of_isAscii {cs : List Char} (h : ∀ c ∈ cs, isAscii c = true) :
    lower cs = cs.map Char.toLower := by
  have hafter : ∀ before, lowerAfter before cs = cs.map Char.toLower := by
    induction cs with
    | nil => exact fun _ ↦ rfl
    | cons c cs ih =>
      intro before
      obtain ⟨hc, hcs⟩ := List.forall_mem_cons.mp h
      have hsigma : c ≠ 'Σ' := by
        rintro rfl
        exact absurd hc (by decide)
      rw [lowerAfter, if_neg (by simpa using hsigma), lowerImage, if_pos hc, ih hcs,
        List.map_cons, List.singleton_append]
  exact hafter []

end Text

/-! ## Names of types -/

/-- The characters of the name of a type: a capital, and then letters and digits; at the end a line
feed is let pass. -/
theorem Grammar.exists_of_isTypeName {name : String} (h : isTypeName name = true) :
    ∃ c cs, name.toList = c :: cs ∧ c.isUpper = true ∧
      ∀ d ∈ cs, d.isAlphanum = true ∨ d = '\n' := by
  have hnewline : name.toList = withoutNewline name.toList ∨
      name.toList = withoutNewline name.toList ++ ['\n'] := by
    rw [withoutNewline]
    split
    next hlast =>
      rw [beq_iff_eq] at hlast
      exact .inr (List.dropLast_append_getLast? _ hlast).symm
    next => exact .inl rfl
  rw [isTypeName] at h
  split at h
  · cases h
  next c cs hname =>
    rw [Bool.and_eq_true, List.all_eq_true] at h
    rw [hname] at hnewline
    rcases hnewline with hname | hname
    · exact ⟨c, cs, hname, h.1, fun d hd ↦ .inl (h.2 d hd)⟩
    · refine ⟨c, cs ++ ['\n'], hname, h.1, fun d hd ↦ ?_⟩
      rcases List.mem_append.mp hd with hd | hd
      · exact .inl (h.2 d hd)
      · exact .inr (List.mem_singleton.mp hd)

namespace Naming

/-! ## Dashes for capitals -/

/-- The text with a capital for every letter behind a dash, and without the dash. -/
def unkebab : List Char → List Char
  | [] => []
  | [c] => [c]
  | c :: d :: cs => if c == '-' then d.toUpper :: unkebab cs else c :: unkebab (d :: cs)

theorem unkebab_cons {c : Char} (hc : c ≠ '-') (cs : List Char) :
    unkebab (c :: cs) = c :: unkebab cs := by
  cases cs with
  | nil => rfl
  | cons d cs => rw [unkebab, if_neg (by simpa using hc)]

theorem toUpper_toLower {c : Char} (hc : isAscii c = true) :
    c.isUpper = true → c.toLower.toUpper = c :=
  forall_isAscii (p := fun c ↦ c.isUpper = true → c.toLower.toUpper = c) (by decide) hc

theorem toLower_of_not_isUpper {c : Char} (hc : isAscii c = true) :
    c.isUpper = false → c.toLower = c :=
  forall_isAscii (p := fun c ↦ c.isUpper = false → c.toLower = c) (by decide) hc

/-- A character of an ASCII text that is no dash. -/
def IsPlain (c : Char) : Prop :=
  isAscii c = true ∧ c ≠ '-'

theorem isAscii_of_mem_flatMap_dashed {cs : List Char} (h : ∀ c ∈ cs, IsPlain c) :
    ∀ c ∈ cs.flatMap dashed, isAscii c = true := by
  intro c hc
  obtain ⟨d, hd, hc⟩ := List.mem_flatMap.mp hc
  rw [dashed] at hc
  split at hc
  · rcases List.mem_pair.mp hc with rfl | rfl
    · rfl
    · exact (h c hd).1
  · rw [List.mem_singleton.mp hc]
    exact (h d hd).1

/-- No capital is lost if it is lowered behind a dash. -/
theorem unkebab_lower {cs : List Char} (h : ∀ c ∈ cs, IsPlain c) :
    unkebab (lower (cs.flatMap dashed)) = cs := by
  rw [lower_of_isAscii (isAscii_of_mem_flatMap_dashed h)]
  induction cs with
  | nil => rfl
  | cons c cs ih =>
    obtain ⟨⟨hascii, hdash⟩, hcs⟩ := List.forall_mem_cons.mp h
    rw [List.flatMap_cons, List.map_append, dashed]
    split
    next hupper =>
      exact congrArg₂ List.cons (toUpper_toLower hascii hupper) (ih hcs)
    next hupper =>
      rw [Bool.not_eq_true] at hupper
      rw [List.map_singleton, toLower_of_not_isUpper hascii hupper, List.singleton_append,
        unkebab_cons hdash, ih hcs]

/-! ## Telling names apart -/

/-- A small letter is no dash. -/
theorem toLower_ne_dash {c : Char} (hc : isAscii c = true) : c ≠ '-' → c.toLower ≠ '-' :=
  forall_isAscii (p := fun c ↦ c ≠ '-' → c.toLower ≠ '-') (by decide) hc

/-- Only the dash in front is missing in the spelling of files. -/
theorem cons_kebab {c : Char} {cs : List Char} (h : ∀ d ∈ c :: cs, IsPlain d)
    (hupper : c.isUpper = true) : '-' :: kebab (c :: cs) = lower ((c :: cs).flatMap dashed) := by
  obtain ⟨hascii, hdash⟩ := h c List.mem_cons_self
  have hlower : lower ((c :: cs).flatMap dashed) =
      '-' :: c.toLower :: (cs.flatMap dashed).map Char.toLower := by
    rw [lower_of_isAscii (isAscii_of_mem_flatMap_dashed h), List.flatMap_cons, List.map_append,
      dashed, if_pos hupper]
    rfl
  have hfirst : ¬ (c.toLower == '-') = true := by
    rw [beq_iff_eq]
    exact toLower_ne_dash hascii hdash
  rw [kebab, hlower, List.dropWhile_cons_of_pos rfl, List.dropWhile_cons, if_neg hfirst]

/-- The name of a type is read back from the spelling of files. -/
theorem unkebab_kebab {name : String} (h : Grammar.isTypeName name = true) :
    unkebab ('-' :: kebab name.toList) = name.toList := by
  obtain ⟨c, cs, hname, hupper, hcs⟩ := Grammar.exists_of_isTypeName h
  have hplain : ∀ d ∈ c :: cs, IsPlain d := by
    intro d hd
    have hd : d.isAlphanum = true ∨ d = '\n' := by
      rcases List.mem_cons.mp hd with rfl | hd
      · have hletter : (d.isUpper || d.isLower || d.isDigit) = true := by rw [hupper]; rfl
        exact .inl hletter
      · exact hcs d hd
    rcases hd with hd | rfl
    · refine ⟨isAscii_of_isAlphanum hd, ?_⟩
      rintro rfl
      exact absurd hd (by decide)
    · exact ⟨rfl, by decide⟩
  rw [hname, cons_kebab hplain hupper, unkebab_lower hplain]

/-- **Names of types are told apart by the spelling of files.** -/
theorem toKebab_inj {a b : String} (ha : Grammar.isTypeName a = true)
    (hb : Grammar.isTypeName b = true) : toKebab a = toKebab b ↔ a = b := by
  refine ⟨fun h ↦ ?_, congrArg toKebab⟩
  have hkebab : kebab a.toList = kebab b.toList := String.ofList_injective h
  rw [← String.toList_inj, ← unkebab_kebab ha, ← unkebab_kebab hb, hkebab]

/-- Every capital but the first counts, and so `TASK` is not `Task`. -/
example : toKebab "Task" = "task" ∧ toKebab "TASK" = "t-a-s-k" := by decide

end Naming

end DiagramForge
