import DiagramForge.Diagnostic
import DiagramForge.Proofs.Text.Position

/-!
# Snippets

The formatter numbers the lines of a snippet anew, from two before the line that the place is in. If
these are the lines around that line in a text, their numbers are those that they have there, and
the marker stands behind the line of the place: `exists_shown`.
-/

namespace DiagramForge.Place

open Grammar Text

/-! ## Rows -/

/-- Lines of a text, from number `first` on, labelled with their numbers. -/
def numberedRows (source : List Char) (first count : Nat) : List String :=
  (List.range' first count).map fun n ↦ lineLabel n ++ String.ofList (lineOf source n)

theorem numberedRows_succ (source : List Char) (first count : Nat) :
    numberedRows source first (count + 1) =
      (lineLabel first ++ String.ofList (lineOf source first)) ::
        numberedRows source (first + 1) count := by
  rw [numberedRows, List.range'_succ, List.map_cons, numberedRows]

section

variable {line column first last count : Nat} (source : List Char)

theorem snippetRows_cons (line column n : Nat) (row : String) (rows : List String) :
    snippetRows line (some column) n (row :: rows) =
      (lineLabel n ++ row) ::
        ((if n = line then [markerRow (lineLabel n).length column] else []) ++
          snippetRows line (some column) (n + 1) rows) := by
  simp [snippetRows]

/-- There is no marker behind the rows of other lines. -/
theorem snippetRows_below (hline : line < first) :
    snippetRows line (some column) first
        ((List.range' first count).map fun n ↦ String.ofList (lineOf source n)) =
      numberedRows source first count := by
  induction count generalizing first with
  | zero => rfl
  | succ count ih =>
    rw [List.range'_succ, List.map_cons, snippetRows_cons, if_neg (Nat.ne_of_gt hline),
      ih (Nat.lt_succ_of_lt hline), numberedRows_succ, List.nil_append]

/-- The marker stands behind the row of its line. -/
theorem snippetRows_around (hfirst : first ≤ line) (hlast : line ≤ last) :
    snippetRows line (some column) first
        ((List.range' first (last + 1 - first)).map fun n ↦ String.ofList (lineOf source n)) =
      numberedRows source first (line + 1 - first) ++
        markerRow (lineLabel line).length column ::
          numberedRows source (line + 1) (last - line) := by
  obtain ⟨above, rfl⟩ := Nat.exists_eq_add_of_le hfirst
  -- the induction is on the number of rows above the line
  induction above generalizing first with
  | zero =>
    have hcount : last + 1 - first = last - first + 1 := by omega
    rw [Nat.add_zero, hcount, List.range'_succ, List.map_cons, snippetRows_cons, if_pos rfl,
      snippetRows_below source (Nat.lt_succ_self first), Nat.add_sub_cancel_left,
      numberedRows_succ]
    rfl
  | succ above ih =>
    have hcount : last + 1 - first = last + 1 - (first + 1) + 1 := by omega
    have habove : first + (above + 1) + 1 - first = first + 1 + above + 1 - (first + 1) + 1 := by
      omega
    have hline : first + (above + 1) = first + 1 + above := by omega
    rw [hcount, List.range'_succ, List.map_cons, snippetRows_cons, if_neg (by omega), habove,
      numberedRows_succ, hline, ih (by omega) (by omega)]
    rfl

end

/-! ## Texts -/

theorem toList_lineLabel (n : Nat) : (lineLabel n).toList =
    List.replicate (4 - (Nat.toDigits 10 n).length) ' ' ++
      (Nat.toDigits 10 n ++ [' ', '|', ' ']) := by
  simp only [lineLabel, String.toList_append, String.toList_ofList, Nat.toString_eq_repr,
    ← String.length_toList, Nat.toList_repr, List.append_assoc]
  rfl

theorem lineFeed_not_mem_lineLabel (n : Nat) : '\n' ∉ (lineLabel n).toList := by
  intro hmem
  simp only [toList_lineLabel, List.mem_append, List.mem_replicate] at hmem
  rcases hmem with ⟨-, hspace⟩ | hdigit | hbar
  · exact absurd hspace (by decide)
  · exact absurd (Nat.isDigit_of_mem_toDigits (by decide) (by decide) hdigit) (by decide)
  · exact absurd hbar (by decide)

theorem lineFeed_not_mem_numberedRows {source : List Char} {first count : Nat} :
    ∀ row ∈ numberedRows source first count, '\n' ∉ row.toList := by
  intro row hrow hmem
  obtain ⟨n, -, rfl⟩ := List.mem_map.mp hrow
  rw [String.toList_append, List.mem_append, String.toList_ofList] at hmem
  exact hmem.elim (lineFeed_not_mem_lineLabel n) (lineFeed_not_mem_lineOf source n)

/-! ## Snippets -/

section

variable {p : Place} {source : List Char} {line column : Nat}

/-- The lines of a text around a line, as a snippet. -/
def around (source : List Char) (line : Nat) : String :=
  joinStrings "\n" ((linesAround linesBefore linesAfter source line).map String.ofList)

theorem fieldStrings_around (hpos : 1 ≤ line) (hle : line ≤ (lines source).length) :
    fieldStrings (· == '\n') (around source line) =
      (List.range' (max 1 (line - linesBefore))
        (min (lines source).length (line + linesAfter) + 1 - max 1 (line - linesBefore))).map
          fun n ↦ String.ofList (lineOf source n) := by
  rw [around, linesAround_eq hpos hle, List.map_map]
  refine fieldStrings_joinStrings (by decide) ?_ fun row hrow ↦ ?_
  · rw [ne_eq, List.map_eq_nil_iff, List.range'_eq_nil_iff]
    omega
  · obtain ⟨n, -, rfl⟩ := List.mem_map.mp hrow
    rw [Function.comp_apply, String.toList_ofList]
    exact lineFeed_not_mem_lineOf source n

/-- Only the empty text has an empty snippet. -/
theorem around_ne_empty (hpos : 1 ≤ line) (hle : line ≤ (lines source).length)
    (hne : source ≠ []) : around source line ≠ "" := by
  intro hempty
  have hrows := fieldStrings_around hpos hle
  have hone : fieldStrings (· == '\n') "" = [""] := rfl
  rw [hempty, hone] at hrows
  have hcount := congrArg List.length hrows
  rw [List.length_map, List.length_range', List.length_singleton, linesBefore, linesAfter] at hcount
  obtain ⟨w, hw⟩ : ∃ w, lines source = [w] := List.length_eq_one_iff.mp (by omega)
  have hline : line = 1 := by
    rw [hw] at hle
    exact Nat.le_antisymm hle hpos
  subst hline
  have hnil : w = [] := by
    rw [hw] at hrows
    simpa [lineOf, hw, linesBefore, linesAfter] using hrows
  rw [eq_append_of_fields hw, hnil] at hne
  exact hne rfl

/-- The marker row is indented to its column, past the label of the row above. -/
theorem markerRow_eq (width : Nat) {column : Nat} (hcolumn : 1 ≤ column) :
    markerRow width column =
      String.ofList (List.replicate (width + (column - 1)) ' ') ++ "^^^" := by
  rw [markerRow, Nat.add_sub_assoc hcolumn]

/-- **The rows of a snippet have the numbers that their lines have in the text**, and the only
marker stands behind the row of the place, in its column. -/
theorem exists_shown (hline : p.line = some line) (hcolumn : p.column = some column)
    (hsnippet : p.snippet = some (around source line)) (hpos : 1 ≤ line)
    (hle : line ≤ (lines source).length) (hcolumn_pos : 1 ≤ column) (hne : source ≠ []) :
    ∃ shown, p.format = p.headline ++ "\n" ++ shown ∧
      fieldStrings (· == '\n') shown =
        numberedRows source (max 1 (line - 2)) (line + 1 - max 1 (line - 2)) ++
          (String.ofList (List.replicate ((lineLabel line).length + (column - 1)) ' ') ++ "^^^") ::
            numberedRows source (line + 1) (min (lines source).length (line + 2) - line) := by
  refine ⟨p.showSnippet (around source line), ?_, ?_⟩
  · rw [format, hsnippet]
    exact if_neg (by simpa using around_ne_empty hpos hle hne)
  · rw [showSnippet, hline, hcolumn]
    dsimp only
    rw [fieldStrings_around hpos hle, linesBefore, linesAfter,
      snippetRows_around source (by omega) (by omega), markerRow_eq _ hcolumn_pos]
    refine fieldStrings_joinStrings (by decide) (by simp) fun row hrow ↦ ?_
    simp only [List.mem_append, List.mem_cons] at hrow
    rcases hrow with hrow | rfl | hrow
    · exact lineFeed_not_mem_numberedRows row hrow
    · simp
    · exact lineFeed_not_mem_numberedRows row hrow

end

end DiagramForge.Place
