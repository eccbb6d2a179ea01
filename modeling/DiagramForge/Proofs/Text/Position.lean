import DiagramForge.Text.Position
import DiagramForge.Proofs.Grammar.Lexing
import Mathlib.Algebra.GroupWithZero.Nat
import Mathlib.Data.List.GetD
import Mathlib.Data.List.TakeWhile

/-!
# Offsets, lines and columns

The line and the column that are counted for an offset say which one it is: `pinpoints`. Lines that
are joined are found again in the text that they make up: `fieldStrings_joinStrings`.
-/

namespace DiagramForge.Text

open Grammar

/-! ## Offsets -/

theorem lineAt_succ (c : Char) (cs : List Char) (p : Nat) :
    lineAt (c :: cs) (p + 1) = lineAt cs p + if c = '\n' then 1 else 0 := by
  simp only [lineAt, List.take_succ_cons, List.count_cons, beq_iff_eq]
  omega

theorem lineAt_eq_one_iff {cs : List Char} {p : Nat} : lineAt cs p = 1 ↔ '\n' ∉ cs.take p := by
  rw [lineAt, Nat.add_eq_right, List.count_eq_zero]

/-- A first character counts for the column of an offset if it is in the line of the offset. -/
theorem columnAt_succ (c : Char) (cs : List Char) (p : Nat) :
    columnAt (c :: cs) (p + 1) =
      columnAt cs p + if c ≠ '\n' ∧ lineAt cs p = 1 then 1 else 0 := by
  simp only [columnAt, List.take_succ_cons, List.reverse_cons, List.takeWhile_append]
  by_cases hline : lineAt cs p = 1
  · have hall : (cs.take p).reverse.takeWhile (· != '\n') = (cs.take p).reverse := by
      rw [List.takeWhile_eq_self_iff]
      intro d hd
      rw [List.mem_reverse] at hd
      exact bne_iff_ne.mpr fun h ↦ lineAt_eq_one_iff.mp hline (h ▸ hd)
    by_cases hc : c = '\n' <;> simp [hall, hline, hc]
  · have hmem : '\n' ∈ (cs.take p).reverse := by
      rw [List.mem_reverse]
      by_contra hmem
      exact hline (lineAt_eq_one_iff.mpr hmem)
    have hshort : ((cs.take p).reverse.takeWhile (· != '\n')).length ≠
        (cs.take p).reverse.length := by
      intro hlength
      have hself := (List.takeWhile_prefix (· != '\n')).eq_of_length hlength
      have hnewline := List.takeWhile_eq_self_iff.mp hself '\n' hmem
      exact absurd hnewline (by decide)
    rw [if_neg hshort, if_neg fun h ↦ hline h.2]

/-- An offset stands in the line that is counted for it: before it are the lines above, with their
line feeds, and as much of its own line as the column says. -/
theorem exists_lines_of_offset {source : List Char} {p : Nat} (hp : p ≤ source.length) :
    ∃ above before after below, lines source = above ++ (before ++ after) :: below ∧
      lineAt source p = above.length + 1 ∧ columnAt source p = before.length + 1 ∧
      (above.map fun line ↦ line.length + 1).sum + before.length = p := by
  induction source generalizing p with
  | nil =>
    obtain rfl := Nat.le_zero.mp hp
    exact ⟨[], [], [], [], rfl, rfl, rfl, rfl⟩
  | cons c cs ih =>
    rcases p with _ | p
    · obtain ⟨w, ws, hlines⟩ := List.exists_cons_of_ne_nil (fields_ne_nil (· == '\n') (c :: cs))
      exact ⟨[], [], w, ws, hlines, rfl, rfl, rfl⟩
    obtain ⟨above, before, after, below, hlines, hline, hcolumn, hsum⟩ :=
      ih (Nat.le_of_succ_le_succ hp)
    rw [lineAt_succ, columnAt_succ, hline, hcolumn]
    by_cases hc : c = '\n'
    · refine ⟨[] :: above, before, after, below, ?_, ?_, ?_, ?_⟩
      · rw [lines, hc, fields_cons_of_sep rfl, ← lines, hlines]
        rfl
      · simp [hc]
      · simp [hc]
      · simp only [List.map_cons, List.sum_cons, List.length_nil]
        omega
    · have hsep : (c == '\n') = false := beq_eq_false_iff_ne.mpr hc
      rcases above with _ | ⟨first, above⟩
      · refine ⟨[], c :: before, after, below, ?_, ?_, ?_, ?_⟩
        · exact fields_cons_of_not_sep hsep hlines
        · simp [hc]
        · simp [hc]
        · simp only [List.map_nil, List.sum_nil, List.length_cons] at hsum ⊢
          omega
      · refine ⟨(c :: first) :: above, before, after, below, ?_, ?_, ?_, ?_⟩
        · exact fields_cons_of_not_sep hsep hlines
        · simp [hc]
        · simp
        · simp only [List.map_cons, List.sum_cons, List.length_cons] at hsum ⊢
          omega

/-! ## Lines -/

/-- The line of a text with a number. -/
def lineOf (source : List Char) (n : Nat) : List Char :=
  (lines source).getD (n - 1) []

theorem lineFeed_not_mem_lineOf (source : List Char) (n : Nat) : '\n' ∉ lineOf source n := by
  intro hmem
  rw [lineOf, List.getD_eq_getElem?_getD] at hmem
  rcases hline : (lines source)[n - 1]? with _ | line
  · simp [hline] at hmem
  · rw [hline] at hmem
    exact absurd (not_sep_of_mem_fields (List.mem_of_getElem? hline) _ hmem) (by decide)

/-- An offset is the one that a line and a column say. -/
structure Pinpoints (source : List Char) (line column p : Nat) : Prop where
  /-- Lines are counted from one. -/
  line_pos : 1 ≤ line
  /-- The text has the line. -/
  line_le : line ≤ (lines source).length
  /-- Columns are counted from one. -/
  column_pos : 1 ≤ column
  /-- The column is in the line, or just behind it. -/
  column_le : column ≤ (lineOf source line).length + 1
  /-- So many characters are in the lines above, with their line feeds, and in the columns before
  it. -/
  sum_eq : (((lines source).take (line - 1)).map fun l ↦ l.length + 1).sum + (column - 1) = p

/-- **The line and the column of an offset say which one it is.** -/
theorem pinpoints {source : List Char} {p : Nat} (hp : p ≤ source.length) :
    Pinpoints source (lineAt source p) (columnAt source p) p := by
  obtain ⟨above, before, after, below, hlines, hline, hcolumn, hsum⟩ := exists_lines_of_offset hp
  have hown : lineOf source (lineAt source p) = before ++ after := by
    rw [lineOf, hlines, hline, Nat.add_sub_cancel, List.getD_append_right _ _ _ _ le_rfl,
      Nat.sub_self, List.getD_cons_zero]
  constructor
  · rw [hline]
    exact Nat.le_add_left _ _
  · rw [hline, hlines, List.length_append, List.length_cons]
    omega
  · rw [hcolumn]
    exact Nat.le_add_left _ _
  · rw [hown, hcolumn, List.length_append]
    omega
  · rw [hline, hcolumn, hlines, Nat.add_sub_cancel, Nat.add_sub_cancel, List.take_left]
    exact hsum

theorem take_drop_lines {source : List Char} {first count : Nat} (hfirst : 1 ≤ first)
    (hfit : first - 1 + count ≤ (lines source).length) :
    ((lines source).drop (first - 1)).take count =
      (List.range' first count).map (lineOf source) := by
  apply List.ext_getElem
  · simp only [List.length_map, List.length_range', List.length_take, List.length_drop]
    omega
  · intro i hi hi'
    have hlt : i < count := by simpa using hi'
    rw [List.getElem_map, List.getElem_range', Nat.one_mul, List.getElem_take, List.getElem_drop,
      lineOf, List.getD_eq_getElem _ _ (by omega)]
    congr 1
    omega

/-- The lines around a line are consecutive ones, as many above and below it as there are. -/
theorem linesAround_eq {before after line : Nat} {source : List Char} (hpos : 1 ≤ line)
    (hle : line ≤ (lines source).length) : linesAround before after source line =
      (List.range' (max 1 (line - before))
        (min (lines source).length (line + after) + 1 - max 1 (line - before))).map
          (lineOf source) := by
  have hfirst : line - 1 - before = max 1 (line - before) - 1 := by omega
  rw [linesAround, hfirst, ← take_drop_lines (by omega) (by omega), List.take_eq_take_iff,
    List.length_drop]
  omega

/-! ## Joined lines -/

/-- Texts without separators are the fields of what they are joined to by a separator. -/
theorem fields_intercalate_of_sep {sep : Char → Bool} {mark : Char} (hmark : sep mark = true)
    {ws : List (List Char)} (hne : ws ≠ []) (hws : ∀ w ∈ ws, ∀ c ∈ w, sep c = false) :
    fields sep ([mark].intercalate ws) = ws := by
  induction ws with
  | nil => exact absurd rfl hne
  | cons w ws ih =>
    obtain ⟨hw, hws⟩ := List.forall_mem_cons.mp hws
    rcases ws with _ | ⟨w', ws⟩
    · rw [List.intercalate_singleton, fields_of_not_sep hw]
    · rw [List.intercalate_cons_cons, List.append_assoc, List.singleton_append,
        fields_append_of_sep hw hmark, ih (List.cons_ne_nil _ _) hws]

theorem fields_intercalate {mark : Char} {ws : List (List Char)} (hne : ws ≠ [])
    (hws : ∀ w ∈ ws, mark ∉ w) : fields (· == mark) ([mark].intercalate ws) = ws := by
  refine fields_intercalate_of_sep ?_ hne fun w hw c hc ↦ ?_
  · exact beq_self_eq_true mark
  · exact beq_eq_false_iff_ne.mpr fun h ↦ hws w hw (h ▸ hc)

/-- Joined rows are the fields of what they are joined to. -/
theorem fieldStrings_joinStrings {mark : Char} {sep : String} (hsep : sep.toList = [mark])
    {rows : List String} (hne : rows ≠ []) (hrows : ∀ row ∈ rows, mark ∉ row.toList) :
    fieldStrings (· == mark) (joinStrings sep rows) = rows := by
  have hfields : fields (· == mark) ([mark].intercalate (rows.map String.toList)) =
      rows.map String.toList := by
    refine fields_intercalate (mt List.map_eq_nil_iff.mp hne) fun w hw ↦ ?_
    obtain ⟨row, hrow, rfl⟩ := List.mem_map.mp hw
    exact hrows row hrow
  rw [fieldStrings, joinStrings, String.toList_intercalate, hsep]
  have hself : rows.map (String.ofList ∘ String.toList) = rows := by simp [Function.comp_def]
  exact (congrArg (List.map String.ofList) hfields).trans ((List.map_map ..).trans hself)

end DiagramForge.Text
