import DiagramForge.Proofs.Spelling
import DiagramForge.Proofs.Text.Position

/-!
# Class names and file names

The spelling of classes and the spelling of files are each other's inverse: no class name is lost
in the name of its file, and every file name is that of one class, `toKebab_toPascal_inverse`.

## Segments

Both spellings are made of the same segments. A class name has them one behind another, each with a
capital for its first letter, and a file name has them with a dash between each two. A class name
is cut into segments in front of its capitals, `isPascal_iff`, so that a run of capitals is a run of
segments of one letter. Each direction is then a fact about segments: `pascal_intercalate` for those
of a file name and `kebab_flatMap_hump` for those of a class name.
-/

namespace DiagramForge.Naming

open Text Grammar

/-! ## Names -/

/-- A class name: a capital, and maybe letters and digits behind it. -/
def IsPascal : List Char → Prop :=
  Begins Char.isUpper Char.isAlphanum

instance : DecidablePred IsPascal :=
  inferInstanceAs (DecidablePred (Begins Char.isUpper Char.isAlphanum))

/-- A file name: at least one segment, with a dash between each two. -/
def IsKebab (name : List Char) : Prop :=
  ∃ ws : List (List Char), ws ≠ [] ∧ (∀ w ∈ ws, IsSegment w) ∧ name = ['-'].intercalate ws

/-! ## Capitals -/

section Capitals

variable {c : Char}

theorem isAlphanum_of_isUpper (h : c.isUpper = true) : c.isAlphanum = true := by
  rw [isAlphanum_eq, h, Bool.true_or]

/-- A letter or a digit that is no capital can end a word. -/
theorem endsHump_of_isAlphanum (h : c.isAlphanum = true) (hupper : c.isUpper = false) :
    endsHump c = true := by
  rwa [isAlphanum_eq, hupper, Bool.false_or] at h

/-- What a capital becomes as a small letter. -/
theorem toLower_of_isUpper (h : c.isUpper = true) :
    c.toLower.isLower = true ∧ c.toLower.toUpper = c :=
  forall_isAscii (p := fun c ↦ c.isUpper = true →
    c.toLower.isLower = true ∧ c.toLower.toUpper = c) (by decide)
    (isAscii_of_isAlphanum (isAlphanum_of_isUpper h)) h

end Capitals

/-! ## Segments of class names -/

section Segments

variable {w name : List Char} {ws : List (List Char)}

theorem IsSegment.ne_nil (h : IsSegment w) : w ≠ [] := by
  rintro rfl
  exact h

theorem IsSegment.endsHump (h : IsSegment w) : ∀ c ∈ w, endsHump c = true := by
  cases w with
  | nil => exact h.elim
  | cons c w => exact List.forall_mem_cons.mpr ⟨endsHump_of_isLower h.1, h.2⟩

theorem isAlphanum_hump (h : IsSegment w) : ∀ c ∈ hump w, c.isAlphanum = true :=
  forall_mem_hump (fun _ hc ↦ isAlphanum_of_endsHump hc)
    (fun _ hc ↦ isAlphanum_of_isUpper (toUpper_of_isLower hc).1) h

theorem isAlphanum_flatMap_hump (h : ∀ w ∈ ws, IsSegment w) :
    ∀ c ∈ ws.flatMap hump, c.isAlphanum = true := by
  intro c hc
  obtain ⟨w, hw, hc⟩ := List.mem_flatMap.mp hc
  exact isAlphanum_hump (h w hw) c hc

/-- A capital begins a segment with what stands in front of the next one. -/
theorem exists_hump {c : Char} (hc : c.isUpper = true) (hw : ∀ d ∈ w, endsHump d = true) :
    ∃ v, IsSegment v ∧ c :: w = hump v := by
  obtain ⟨hlower, hback⟩ := toLower_of_isUpper hc
  exact ⟨c.toLower :: w, ⟨hlower, hw⟩, by rw [hump, hback]⟩

/-- Letters and digits are cut in front of the capitals. -/
theorem exists_humps {cs : List Char} (h : ∀ c ∈ cs, c.isAlphanum = true) :
    ∃ (w : List Char) (ws : List (List Char)), (∀ c ∈ w, endsHump c = true) ∧
      (∀ v ∈ ws, IsSegment v) ∧ cs = w ++ ws.flatMap hump := by
  induction cs with
  | nil => exact ⟨[], [], List.forall_mem_nil _, List.forall_mem_nil _, rfl⟩
  | cons c cs ih =>
    obtain ⟨hc, hcs⟩ := List.forall_mem_cons.mp h
    obtain ⟨w, ws, hw, hws, rfl⟩ := ih hcs
    cases hupper : c.isUpper with
    | true =>
      obtain ⟨v, hv, hhump⟩ := exists_hump hupper hw
      refine ⟨[], v :: ws, List.forall_mem_nil _, List.forall_mem_cons.mpr ⟨hv, hws⟩, ?_⟩
      rw [List.nil_append, List.flatMap_cons, ← hhump, List.cons_append]
    | false =>
      have hc := endsHump_of_isAlphanum hc hupper
      exact ⟨c :: w, ws, List.forall_mem_cons.mpr ⟨hc, hw⟩, hws, rfl⟩

/-- A class name is made of segments, each with a capital for its first letter. -/
theorem isPascal_iff : IsPascal name ↔
    ∃ ws : List (List Char), ws ≠ [] ∧ (∀ w ∈ ws, IsSegment w) ∧ name = ws.flatMap hump := by
  constructor
  · intro h
    cases name with
    | nil => exact h.elim
    | cons c cs =>
      obtain ⟨w, ws, hw, hws, rfl⟩ := exists_humps h.2
      obtain ⟨v, hv, hhump⟩ := exists_hump h.1 hw
      refine ⟨v :: ws, List.cons_ne_nil _ _, List.forall_mem_cons.mpr ⟨hv, hws⟩, ?_⟩
      rw [List.flatMap_cons, ← hhump, List.cons_append]
  · rintro ⟨ws, hne, hws, rfl⟩
    obtain ⟨c, cs, hcs, hc⟩ := exists_flatMap_hump hws hne
    have halphanum := isAlphanum_flatMap_hump hws
    rw [hcs] at halphanum ⊢
    exact ⟨hc, fun d hd ↦ halphanum d (List.mem_cons_of_mem _ hd)⟩

/-! ## From files to classes -/

/-- The segments of a file name are the words of the class name. -/
theorem pascal_intercalate (hne : ws ≠ []) (hws : ∀ w ∈ ws, IsSegment w) :
    pascal (['-'].intercalate ws) = ws.flatMap hump := by
  have hfields : fields isSeparator (['-'].intercalate ws) = ws :=
    fields_intercalate_of_sep rfl hne fun w hw c hc ↦ (of_endsHump ((hws w hw).endsHump c hc)).2.1
  have hwords : words isSeparator (['-'].intercalate ws) = ws := by
    rw [words, hfields, List.filter_eq_self]
    intro w hw
    simpa using (hws w hw).ne_nil
  rw [pascal, hwords]
  exact List.flatMap_congr fun w hw ↦ pascalWord_of_isSegment (hws w hw)

/-! ## From classes to files -/

theorem flatMap_dashed_of_endsHump {cs : List Char} (h : ∀ c ∈ cs, endsHump c = true) :
    cs.flatMap dashed = cs := by
  have hself : ∀ c ∈ cs, dashed c = [c] := by
    intro c hc
    rw [dashed, (of_endsHump (h c hc)).1]
    rfl
  rw [List.flatMap_congr hself]
  exact List.flatMap_singleton' cs

/-- The only dash in a segment comes in front of it. -/
theorem flatMap_dashed_hump (h : IsSegment w) : (hump w).flatMap dashed = '-' :: hump w := by
  cases w with
  | nil => exact h.elim
  | cons c w =>
    rw [hump, List.flatMap_cons, flatMap_dashed_of_endsHump h.2, dashed,
      if_pos (toUpper_of_isLower h.1).1]
    rfl

theorem cons_intercalate (mark : Char) (hne : ws ≠ []) :
    mark :: [mark].intercalate ws = ws.flatMap (mark :: ·) := by
  induction ws with
  | nil => exact absurd rfl hne
  | cons w ws ih =>
    rcases ws with _ | ⟨v, ws⟩
    · rw [List.intercalate_singleton, List.flatMap_singleton]
    · rw [List.flatMap_cons, ← ih (List.cons_ne_nil _ _), List.intercalate_cons_cons,
        List.append_assoc, List.singleton_append, List.cons_append]

/-- The segments of a class name are those of the file name. -/
theorem kebab_flatMap_hump (hne : ws ≠ []) (hws : ∀ w ∈ ws, IsSegment w) :
    kebab (ws.flatMap hump) = ['-'].intercalate ws := by
  have hplain : ∀ c ∈ ws.flatMap hump, IsPlain c := by
    intro c hc
    have halphanum := isAlphanum_flatMap_hump hws c hc
    exact ⟨isAscii_of_isAlphanum halphanum, ne_of_class halphanum (by decide)⟩
  have hdashes : lower ((ws.flatMap hump).flatMap dashed) = ws.flatMap ('-' :: ·) := by
    rw [lower_of_isAscii (isAscii_of_mem_flatMap_dashed hplain), List.flatMap_assoc,
      List.map_flatMap]
    refine List.flatMap_congr fun w hw ↦ ?_
    rw [flatMap_dashed_hump (hws w hw), List.map_cons, map_toLower_hump (hws w hw)]
    rfl
  obtain ⟨c, cs, hcs, hc⟩ := exists_flatMap_hump hws hne
  rw [hcs] at hplain hdashes ⊢
  -- the dash in front, which the file name does not have, makes all segments alike
  have hfront : '-' :: kebab (c :: cs) = '-' :: ['-'].intercalate ws := by
    rw [cons_kebab hplain hc, hdashes, cons_intercalate '-' hne]
  exact (List.cons.inj hfront).2

end Segments

/-! ## The two spellings -/

section Strings

variable {name : String}

theorem toPascal_toKebab (h : IsPascal name.toList) :
    IsKebab (toKebab name).toList ∧ toPascal (toKebab name) = name := by
  obtain ⟨ws, hne, hws, hname⟩ := isPascal_iff.mp h
  have hkebab : (toKebab name).toList = ['-'].intercalate ws := by
    rw [toKebab, onString, String.toList_ofList, hname, kebab_flatMap_hump hne hws]
  refine ⟨⟨ws, hne, hws, hkebab⟩, ?_⟩
  rw [← String.toList_inj, toPascal, onString, String.toList_ofList, hkebab,
    pascal_intercalate hne hws, hname]

theorem toKebab_toPascal (h : IsKebab name.toList) :
    IsPascal (toPascal name).toList ∧ toKebab (toPascal name) = name := by
  obtain ⟨ws, hne, hws, hname⟩ := h
  have hpascal : (toPascal name).toList = ws.flatMap hump := by
    rw [toPascal, onString, String.toList_ofList, hname, pascal_intercalate hne hws]
  refine ⟨isPascal_iff.mpr ⟨ws, hne, hws, hpascal⟩, ?_⟩
  rw [← String.toList_inj, toKebab, onString, String.toList_ofList, hpascal,
    kebab_flatMap_hump hne hws, hname]

end Strings

/-- **The spellings of classes and of files are each other's inverse**, and so no two class names
have one file name. -/
theorem toKebab_toPascal_inverse :
    (∀ s : String, IsPascal s.toList →
      IsKebab (toKebab s).toList ∧ toPascal (toKebab s) = s) ∧
    (∀ k : String, IsKebab k.toList →
      IsPascal (toPascal k).toList ∧ toKebab (toPascal k) = k) ∧
    ∀ s t : String, IsPascal s.toList → IsPascal t.toList → s ≠ t → toKebab s ≠ toKebab t := by
  refine ⟨fun s ↦ toPascal_toKebab, fun k ↦ toKebab_toPascal, fun s t hs ht hne h ↦ hne ?_⟩
  rw [← (toPascal_toKebab hs).2, ← (toPascal_toKebab ht).2, h]

/-- A run of capitals, a segment of one letter and digits survive both ways. -/
theorem toKebab_toPascal_inverse_capitals :
    IsPascal "HTTPServer2".toList ∧ IsPascal "HttpServer2".toList ∧
      IsKebab "x-h-t-tp2".toList ∧ toPascal (toKebab "HTTPServer2") = "HTTPServer2" ∧
      toKebab (toPascal "x-h-t-tp2") = "x-h-t-tp2" ∧
      toKebab "HTTPServer2" ≠ toKebab "HttpServer2" := by
  obtain ⟨hclasses, hfiles, hapart⟩ := toKebab_toPascal_inverse
  have hcapitals : IsPascal "HTTPServer2".toList := by decide
  have hwords : IsPascal "HttpServer2".toList := by decide
  have hfile : IsKebab "x-h-t-tp2".toList :=
    ⟨[['x'], ['h'], ['t'], "tp2".toList], by decide, by decide, by decide⟩
  exact ⟨hcapitals, hwords, hfile, (hclasses _ hcapitals).2, (hfiles _ hfile).2,
    hapart _ _ hcapitals hwords (by decide)⟩

end DiagramForge.Naming
