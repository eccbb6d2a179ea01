import DiagramForge.Proofs.Entries
import DiagramForge.Proofs.Grammar.Comments
import DiagramForge.Proofs.Grammar.FaultPlaces
import Mathlib.Data.List.DropRight

/-!
# Remarks above declarations

The notes of a declaration are those of the comment lines above it, up to the last line that looks
blank. A line looks blank if it is, and also if it lies in a block comment altogether. So notes are
never taken from above a blank line, and all notes below the last blank line are taken unless a line
of a block comment stands between one of them and the declaration: `parse_annotations`.

The scanner takes notes comment by comment and drops them at a line feed that a blank line follows.
Line by line this is a fold, `ScansTo.notes_eq`, and what the fold comes to are the notes of the last
lines that do not look blank, `foldl_stepNotes`.
-/

namespace DiagramForge.Grammar

open Text

/-! ## Notes of lines -/

/-- The note of a line that is a line comment. -/
def lineNote? (line : List Char) : Option (String × String) :=
  (after? ['/', '/'] (trimLeft line)).bind note?

/-- The notes after a line, if a line that looks blank does not count. -/
def passLine (notes : Annotations) (line : List Char) : Annotations :=
  match lineNote? line with
  | some (key, value) => Entries.set notes key value
  | none => notes

/-- The notes after a line. -/
def stepNotes (notes : Annotations) (line : List Char) : Annotations :=
  if allBlank line then [] else passLine notes line

theorem lineNote?_of_allBlank {line : List Char} (h : allBlank line = true) :
    lineNote? line = none := by
  have htrim : trimLeft line = [] := List.dropWhile_eq_nil_iff.mpr (List.all_eq_true.mp h)
  rw [lineNote?, htrim]
  rfl

theorem passLine_of_allBlank {line : List Char} (h : allBlank line = true) (notes : Annotations) :
    passLine notes line = notes := by
  rw [passLine, lineNote?_of_allBlank h]

theorem passLine_blank {d : Char} (hd : isBlank d = true) (notes : Annotations)
    (line : List Char) : passLine notes (d :: line) = passLine notes line := by
  have htrim : trimLeft (d :: line) = trimLeft line := List.dropWhile_cons_of_pos hd
  rw [passLine, passLine, lineNote?, lineNote?, htrim]

theorem passLine_comment (notes : Annotations) (comment : List Char) :
    passLine notes ('/' :: '/' :: comment) = addNote notes comment := rfl

theorem stepNotes_eq (notes : Annotations) (line : List Char) :
    stepNotes notes line = passLine (if allBlank line then [] else notes) line := by
  rw [stepNotes]
  split
  · next h => rw [passLine_of_allBlank h]
  · rfl

theorem ofList_concat (es : Annotations) (e : String × String) :
    Entries.ofList (es ++ [e]) = Entries.set (Entries.ofList es) e.1 e.2 := by
  rw [Entries.ofList, Entries.merge, List.foldl_append]
  rfl

/-- Only the last lines that do not look blank leave notes. -/
theorem foldl_stepNotes (ls : List (List Char)) : ls.foldl stepNotes [] =
    Entries.ofList ((ls.rtakeWhile (!allBlank ·)).filterMap lineNote?) := by
  induction ls using List.reverseRecOn with
  | nil => rfl
  | append_singleton ls l ih =>
    rw [List.foldl_append, ih, List.rtakeWhile_concat]
    cases hblank : allBlank l with
    | true => simp [stepNotes, hblank, Entries.ofList, Entries.merge]
    | false =>
      have hnotblank : (!false) = true := rfl
      rw [List.foldl_cons, List.foldl_nil, stepNotes, hblank, if_neg Bool.false_ne_true,
        if_pos hnotblank, List.filterMap_append, passLine]
      cases hnote : lineNote? l with
      | none => simp [hnote]
      | some note => simp [hnote, ofList_concat]

/-! ## Lines of a gap -/

theorem lines_ne_nil (cs : List Char) : lines cs ≠ [] :=
  fields_ne_nil _ _

theorem lines_newline (cs : List Char) : lines ('\n' :: cs) = [] :: lines cs :=
  fields_cons_of_sep rfl cs

theorem lines_cons {c : Char} {cs line : List Char} {more : List (List Char)} (hc : c ≠ '\n')
    (hcs : lines cs = line :: more) : lines (c :: cs) = (c :: line) :: more :=
  fields_cons_of_not_sep (beq_eq_false_iff_ne.mpr hc) hcs

theorem lines_append {line : List Char} (h : '\n' ∉ line) (below : List Char) :
    lines (line ++ '\n' :: below) = line :: lines below :=
  fields_append_of_sep (fun _ hc ↦ beq_eq_false_iff_ne.mpr fun hc' ↦ h (hc' ▸ hc)) rfl

/-- A text is a single line, or a line with lines below it. -/
theorem lines_cases (cs : List Char) : ('\n' ∉ cs ∧ lines cs = [cs]) ∨
    ∃ line below, cs = line ++ '\n' :: below ∧ '\n' ∉ line ∧ lines cs = line :: lines below := by
  by_cases hmem : '\n' ∈ cs
  · obtain ⟨line, below, rfl, hline⟩ := List.eq_append_cons_of_mem hmem
    exact .inr ⟨line, below, rfl, hline, lines_append hline below⟩
  · exact .inl ⟨hmem, lines_of_not_mem hmem⟩

/-- The notes behind a gap: its lines are passed, the first one as what is left of a line, the last
one not, as a declaration stands on it. -/
def gapNotes (notes : Annotations) (gap : List Char) : Annotations :=
  match (lines gap).dropLast with
  | [] => notes
  | line :: more => more.foldl stepNotes (passLine notes line)

theorem gapNotes_of_not_mem {gap : List Char} (h : '\n' ∉ gap) (notes : Annotations) :
    gapNotes notes gap = notes := by
  rw [gapNotes, lines_of_not_mem h]
  rfl

theorem gapNotes_line {line : List Char} (h : '\n' ∉ line) (notes : Annotations)
    (below : List Char) : gapNotes notes (line ++ '\n' :: below) =
      (lines below).dropLast.foldl stepNotes (passLine notes line) := by
  rw [gapNotes, lines_append h, List.dropLast_cons_of_ne_nil (lines_ne_nil below)]

/-- Without notes the first line of a gap is passed like the others. -/
theorem gapNotes_nil (gap : List Char) :
    gapNotes [] gap = (lines gap).dropLast.foldl stepNotes [] := by
  rw [gapNotes]
  cases (lines gap).dropLast with
  | nil => rfl
  | cons line more => rw [List.foldl_cons, stepNotes_eq, ite_self]

theorem gapNotes_blank {d : Char} (hd : isBlank d = true) (hnewline : d ≠ '\n')
    (notes : Annotations) (gap : List Char) : gapNotes notes (d :: gap) = gapNotes notes gap := by
  rcases lines_cases gap with ⟨hgap, -⟩ | ⟨line, below, rfl, hline, -⟩
  · rw [gapNotes_of_not_mem hgap, gapNotes_of_not_mem]
    exact List.not_mem_cons_of_ne_of_not_mem hnewline.symm hgap
  · rw [← List.cons_append, gapNotes_line hline, gapNotes_line, passLine_blank hd]
    exact List.not_mem_cons_of_ne_of_not_mem hnewline.symm hline

theorem gapNotes_comment {comment : List Char} (h : '\n' ∉ comment) (notes : Annotations)
    (gap : List Char) : gapNotes notes ('/' :: '/' :: comment ++ '\n' :: gap) =
      gapNotes (addNote notes comment) ('\n' :: gap) := by
  have hline : '\n' ∉ '/' :: '/' :: comment := by simpa using h
  have hrest := gapNotes_line List.not_mem_nil (addNote notes comment) gap
  rw [gapNotes_line hline, passLine_comment]
  exact hrest.symm

/-- At a line feed the notes are dropped if the line that begins there looks blank. -/
theorem gapNotes_newline {k : Char} (hk : isBlank k = false) (notes : Annotations)
    (gap z : List Char) : gapNotes notes ('\n' :: gap) =
      gapNotes (if startsWithBlankLine (gap ++ k :: z) then [] else notes) gap := by
  have hnewline : k ≠ '\n' := fun h ↦ by
    rw [h] at hk
    cases hk
  have hfirst : gapNotes notes ('\n' :: gap) = (lines gap).dropLast.foldl stepNotes notes :=
    gapNotes_line List.not_mem_nil notes gap
  rcases lines_cases gap with ⟨hgap, hlines⟩ | ⟨line, below, rfl, hline, hlines⟩
  · -- the declaration stands on the line
    have hvisible : startsWithBlankLine (gap ++ k :: z) = false := by
      rw [startsWithBlankLine, List.append_cons,
        splitFirst?_append_of_not_mem (by simpa [hgap] using hnewline.symm)]
      cases splitFirst? ['\n'] z with
      | none => rfl
      | some r =>
        change allBlank (gap ++ [k] ++ r.1) = false
        simp [allBlank, hk]
    rw [hfirst, hlines, hvisible, gapNotes_of_not_mem hgap]
    rfl
  · have hblank : startsWithBlankLine (line ++ '\n' :: below ++ k :: z) = allBlank line := by
      rw [startsWithBlankLine, List.append_assoc, List.cons_append, splitFirst?_append hline]
    rw [hfirst, hlines, List.dropLast_cons_of_ne_nil (lines_ne_nil below), hblank,
      gapNotes_line hline, List.foldl_cons, stepNotes_eq]

/-- **The notes that the scanner comes to a declaration with are those of the gap before it.** -/
theorem ScansTo.notes_eq {notes notes' : Annotations} {cs z : List Char} {k : Char}
    (hk : isBlank k = false) (h : ScansTo notes cs [] notes' (k :: z)) :
    ∃ gap, cs = gap ++ k :: z ∧ notes' = gapNotes notes gap := by
  generalize hnone : ([] : List Declaration) = ds, hplace : k :: z = place at h
  induction h with
  | refl notes cs => exact ⟨[], rfl, rfl⟩
  | @blank notes notes' d cs cs' ds hd h ih =>
    obtain ⟨gap, rfl, rfl⟩ := ih hnone hplace
    refine ⟨d :: gap, rfl, ?_⟩
    by_cases hnewline : d = '\n'
    · subst hnewline hplace
      exact (gapNotes_newline hk notes gap z).symm
    · rw [gapNotes_blank hd hnewline, beq_eq_false_iff_ne.mpr hnewline]
      rfl
  | @comment notes notes' cs cs' ds h ih =>
    subst hplace
    obtain ⟨gap, hgap, rfl⟩ := ih hnone rfl
    have hend := List.head?_dropWhile_not (· != '\n') cs
    rw [hgap] at hend
    cases gap with
    | nil =>
      -- the comment ends at a line feed, where no declaration begins
      obtain rfl : k = '\n' := bne_eq_false_iff_eq.mp hend
      cases hk
    | cons d gap =>
      obtain rfl : d = '\n' := bne_eq_false_iff_eq.mp hend
      have hcs : cs = cs.takeWhile (· != '\n') ++ ('\n' :: gap ++ k :: z) := by
        rw [← hgap, List.takeWhile_append_dropWhile]
      have hcomment : '\n' ∉ cs.takeWhile (· != '\n') := fun hmem ↦ by
        simpa using List.mem_takeWhile_imp hmem
      refine ⟨'/' :: '/' :: cs.takeWhile (· != '\n') ++ '\n' :: gap, ?_,
        (gapNotes_comment hcomment notes gap).symm⟩
      rw [List.append_assoc, List.cons_append, List.cons_append, List.cons_append]
      exact congrArg (fun cs ↦ '/' :: '/' :: cs) hcs
  | declaration => cases hnone

/-! ## The notes of a declaration -/

/-- The notes of a declaration that may have some. -/
def Declaration.annotations? : Declaration → Option Annotations
  | .interface i => some i.annotations
  | .alias t => some t.annotations
  | .rule r => some r.annotations
  | _ => none

theorem annotations?_of_kind {notes : Annotations} : ∀ kind ∈ kinds notes, ∀ cs d rest,
    kind cs = some (.ok (d, rest)) → ∀ notes', d.annotations? = some notes' → notes' = notes := by
  refine forall_kinds.mpr ⟨?_, ?_, ?_, ?_, ?_, ?_⟩ <;> intro cs d rest h notes' hnotes
  · obtain ⟨r, -, heq⟩ := Option.map_eq_some_iff.mp h
    cases heq
    cases hnotes
  · obtain ⟨r, -, heq⟩ := Option.map_eq_some_iff.mp h
    cases heq
    cases hnotes
  · obtain ⟨r, -, heq⟩ := Option.map_eq_some_iff.mp h
    obtain ⟨b, -, heq⟩ := exists_of_map_eq_ok heq
    cases heq
    cases hnotes
  · obtain ⟨r, -, heq⟩ := Option.map_eq_some_iff.mp h
    dsimp only at heq
    split at heq
    · cases heq
    · split at heq
      · cases heq
      · obtain ⟨ps, -, heq⟩ := exists_of_map_eq_ok heq
        cases heq
        exact (Option.some.inj hnotes).symm
  · rw [aliasAt?_eq] at h
    obtain ⟨r, -, heq⟩ := Option.map_eq_some_iff.mp h
    dsimp only at heq
    rcases hbody : body r.2 with fault | s
    · simp [hbody, Except.bind] at heq
    · simp only [hbody, Except.bind] at heq
      split at heq
      · cases heq
      · cases heq
        exact (Option.some.inj hnotes).symm
  · obtain ⟨r, -, heq⟩ := Option.map_eq_some_iff.mp h
    obtain ⟨s, -, heq⟩ := exists_of_map_eq_ok heq
    dsimp only at heq
    split at heq
    · cases heq
      cases hnotes
    · cases heq
      exact (Option.some.inj hnotes).symm

theorem annotations?_of_declaration {notes notes' : Annotations} {cs rest : List Char}
    {d : Declaration} (h : declaration notes cs = .ok (d, rest)) (hd : d.annotations? = some notes') :
    notes' = notes := by
  obtain ⟨kind, hkind, hread⟩ := List.exists_of_findSome?_eq_some (declaration_eq_ok_iff.mp h)
  exact annotations?_of_kind kind hkind cs d rest hread notes' hd

/-! ## Remarks -/

/-- A line above a declaration, as it is written and as the scanner sees it, without block
comments. -/
structure Remark where
  /-- The line of the source. -/
  written : List Char
  /-- The line with block comments blanked. -/
  shown : List Char

/-- The note of a line above a declaration. -/
def Remark.note? (l : Remark) : Option (String × String) :=
  lineNote? l.shown

/-- The scanner has read declarations and stands behind the last of them. -/
inductive StandsBehind (text : List Char) : List Declaration → List Char → Prop where
  /-- It has read none. -/
  | start : StandsBehind text [] text
  /-- It has read one more. -/
  | declaration {before : List Declaration} {d : Declaration} {notes : Annotations}
    {cs cs' rest : List Char} (h : StandsBehind text before cs) (hcs : ScansTo [] cs [] notes cs')
    (hread : Grammar.declaration notes cs' = .ok (d, rest)) : StandsBehind text (before ++ [d]) rest

/-- The part of a text between two offsets. -/
def slice (cs : List Char) (start stop : Nat) : List Char :=
  (cs.take stop).drop start

/-- The lines between two offsets, without the one on which the part between them ends. -/
def remarks (source text : List Char) (start stop : Nat) : List Remark :=
  (List.zipWith Remark.mk (lines (slice source start stop)) (lines (slice text start stop))).dropLast

/-- A declaration in a source that is read after others, and where it stands. -/
structure Remarked (source : List Char) (before : List Declaration) (d : Declaration) where
  /-- The source with block comments blanked. -/
  text : List Char
  /-- Block comments are blanked. -/
  blanked : blankComments source = .ok text
  /-- The offset at which the declaration before it ends, or the source begins. -/
  start : Nat
  /-- The declarations before it are read up to there. -/
  behind : StandsBehind text before (text.drop start)
  /-- The offset at which it begins. -/
  stop : Nat
  /-- No blank stands there. -/
  solid : ∃ k z, text.drop stop = k :: z ∧ isBlank k = false
  /-- The notes it is read with. -/
  notes : Annotations
  /-- The scanner comes to it with these notes. -/
  reaches : ScansTo [] (text.drop start) [] notes (text.drop stop)
  /-- What stands behind it. -/
  rest : List Char
  /-- It is read there. -/
  reads : declaration notes (text.drop stop) = .ok (d, rest)

namespace Remarked

variable {source : List Char} {before : List Declaration} {d : Declaration}
  (r : Remarked source before d)

/-- The lines above the declaration, back to the declaration before it. What is left of the line on
which that one ends is the first of them. -/
def lines : List Remark :=
  remarks source r.text r.start r.stop

/-- The lines above the declaration below the last blank one. -/
def block : List Remark :=
  r.lines.rtakeWhile fun l ↦ !allBlank l.written

/-- No note in the block stands above a line that lies in block comments altogether. -/
def Intact : Prop :=
  ∀ above l below, r.block = above ++ l :: below → allBlank l.shown → above.filterMap Remark.note? = []

end Remarked

/-! ## Lines of the source and of the text -/

theorem slice_eq {cs gap : List Char} {start stop : Nat} (h : cs.drop start = gap ++ cs.drop stop)
    (hne : cs.drop stop ≠ []) : slice cs start stop = gap := by
  have hlength := congrArg List.length h
  have hstop : 0 < (cs.drop stop).length := List.length_pos_iff.mpr hne
  rw [List.length_drop] at hstop
  rw [List.length_append, List.length_drop, List.length_drop] at hlength
  have hgap : stop - start = gap.length := by omega
  rw [slice, List.drop_take, h, hgap, List.take_left]

theorem Overwritten.slice {source text : List Char} (h : Overwritten source text)
    (start stop : Nat) : Overwritten (slice source start stop) (slice text start stop) :=
  List.forall₂_drop _ (List.forall₂_take _ h)

/-- Blanking leaves the lines. -/
theorem Overwritten.lines {source text : List Char} (h : Overwritten source text) :
    List.Forall₂ Overwritten (Text.lines source) (Text.lines text) := by
  induction h with
  | nil => exact .cons .nil .nil
  | @cons c d cs ds hcd _ ih =>
    by_cases hc : c = '\n'
    · obtain rfl : d = c := hcd.resolve_right fun h ↦ h.1 hc
      rw [hc, lines_newline, lines_newline]
      exact .cons .nil ih
    · have hd : d ≠ '\n' := by
        rcases hcd with rfl | ⟨-, rfl⟩
        · exact hc
        · decide
      obtain ⟨line, more, hline⟩ := List.exists_cons_of_ne_nil (lines_ne_nil cs)
      obtain ⟨line', more', hline'⟩ := List.exists_cons_of_ne_nil (lines_ne_nil ds)
      rw [hline, hline'] at ih
      rw [lines_cons hc hline, lines_cons hd hline']
      cases ih with
      | cons hfirst hmore => exact .cons (.cons hcd hfirst) hmore

/-- A blank line is blank without its comments. -/
theorem Overwritten.allBlank {line shown : List Char} (h : Overwritten line shown)
    (hline : allBlank line = true) : allBlank shown = true := by
  induction h with
  | nil => rfl
  | cons hcd _ ih =>
    rw [Text.allBlank, List.all_cons, Bool.and_eq_true] at hline ⊢
    refine ⟨?_, ih hline.2⟩
    rcases hcd with rfl | ⟨-, rfl⟩
    · exact hline.1
    · rfl

theorem zipWith_remark {r : List Char → List Char → Prop} {ss ts : List (List Char)}
    (h : List.Forall₂ r ss ts) : (List.zipWith Remark.mk ss ts).map Remark.shown = ts ∧
      ∀ l ∈ List.zipWith Remark.mk ss ts, r l.written l.shown := by
  induction h with
  | nil => exact ⟨rfl, nofun⟩
  | cons hst _ ih =>
    rw [List.zipWith_cons_cons, List.map_cons, ih.1, List.forall_mem_cons]
    exact ⟨rfl, hst, ih.2⟩

theorem rtakeWhile_map {α β : Type} (f : α → β) (p : β → Bool) (as : List α) :
    (as.map f).rtakeWhile p = (as.rtakeWhile (p ∘ f)).map f := by
  rw [List.rtakeWhile, ← List.map_reverse, List.takeWhile_map, ← List.map_reverse, List.rtakeWhile]

theorem rtakeWhile_suffix_of_imp {α : Type} {p q : α → Bool} {as : List α}
    (h : ∀ a ∈ as, p a → q a) : as.rtakeWhile p <:+ as.rtakeWhile q := by
  induction as using List.reverseRecOn with
  | nil => exact List.suffix_rfl
  | append_singleton as a ih =>
    rw [List.rtakeWhile_concat, List.rtakeWhile_concat]
    by_cases hp : p a
    · have hq : q a := h a (List.mem_append_right _ List.mem_cons_self) hp
      obtain ⟨t, ht⟩ := ih fun b hb ↦ h b (List.mem_append_left _ hb)
      rw [if_pos hp, if_pos hq, ← ht, List.append_assoc]
      exact List.suffix_append _ _
    · rw [if_neg hp]
      exact List.nil_suffix

/-- The item before the last ones with a property does not have it. -/
theorem not_of_rtakeWhile {α : Type} {p : α → Bool} {as before : List α} {a : α}
    (h : as = before ++ [a] ++ as.rtakeWhile p) : p a = false := by
  have hdropped : as.rdropWhile p = before ++ [a] := by
    rw [← List.append_left_inj (as.rtakeWhile p), ← h, List.rdropWhile_append_rtakeWhile]
  have hlast := List.rdropWhile_last_not p as (by simp [hdropped])
  simpa [hdropped] using hlast

/-! ## The notes of the block -/

namespace Remarked

variable {source : List Char} {before : List Declaration} {d : Declaration}
  (r : Remarked source before d)

theorem overwritten : List.Forall₂ Overwritten (Text.lines (slice source r.start r.stop))
    (Text.lines (slice r.text r.start r.stop)) :=
  ((overwritten_of_blankCommentsFrom r.blanked).slice r.start r.stop).lines

theorem map_shown_lines :
    r.lines.map Remark.shown = (Text.lines (slice r.text r.start r.stop)).dropLast := by
  rw [lines, remarks, List.map_dropLast, (zipWith_remark r.overwritten).1]

theorem allBlank_shown {l : Remark} (hl : l ∈ r.lines) (h : allBlank l.written = true) :
    allBlank l.shown = true :=
  ((zipWith_remark r.overwritten).2 l (List.dropLast_subset _ hl)).allBlank h

/-- The lines below the last one that looks blank. -/
def attached : List Remark :=
  r.lines.rtakeWhile fun l ↦ !allBlank l.shown

theorem notes_eq : r.notes = Entries.ofList (r.attached.filterMap Remark.note?) := by
  obtain ⟨k, z, hstop, hk⟩ := r.solid
  have hreaches := r.reaches
  rw [hstop] at hreaches
  obtain ⟨gap, hgap, hnotes⟩ := hreaches.notes_eq hk
  rw [← hstop] at hgap
  have hslice := slice_eq hgap (by simp [hstop])
  rw [hnotes, gapNotes_nil, foldl_stepNotes, ← hslice, ← r.map_shown_lines, rtakeWhile_map,
    List.filterMap_map]
  rfl

theorem attached_suffix : r.attached <:+ r.block := by
  refine rtakeWhile_suffix_of_imp fun l hl hshown ↦ ?_
  cases hblank : allBlank l.written with
  | true =>
    rw [r.allBlank_shown hl hblank] at hshown
    cases hshown
  | false => rfl

/-- If no note stands above a line of a block comment, all notes of the block are attached. -/
theorem filterMap_attached (h : r.Intact) :
    r.attached.filterMap Remark.note? = r.block.filterMap Remark.note? := by
  obtain ⟨above, habove⟩ := r.attached_suffix
  obtain ⟨higher, hhigher⟩ := List.rtakeWhile_suffix (fun l : Remark ↦ !allBlank l.written) r.lines
  rcases List.eq_nil_or_concat' above with rfl | ⟨above, l, rfl⟩
  · rw [← habove, List.nil_append]
  · have hlines : r.lines = (higher ++ above) ++ [l] ++ r.attached := by
      rw [List.append_assoc higher, List.append_assoc higher, habove]
      exact hhigher.symm
    have hshown : allBlank l.shown = true := by
      simpa using not_of_rtakeWhile (p := fun l : Remark ↦ !allBlank l.shown) hlines
    have hnotes : above.filterMap Remark.note? = [] :=
      h above l r.attached (by rw [← habove, List.append_assoc]; rfl) hshown
    have hnote : l.note? = none := lineNote?_of_allBlank hshown
    rw [← habove, List.filterMap_append, List.filterMap_append, hnotes]
    simp [hnote]

end Remarked

/-! ## Declarations of a source -/

/-- The scanner comes to the first declaration without reading one, and goes on behind it. -/
theorem reaches_first {notes : Annotations} {cs : List Char} {d : Declaration}
    {ds : List Declaration} (h : scan notes cs = .ok (d :: ds)) :
    ∃ notes' k z rest, ScansTo notes cs [] notes' (k :: z) ∧ isBlank k = false ∧
      declaration notes' (k :: z) = .ok (d, rest) ∧ scan [] rest = .ok ds := by
  fun_induction scan notes cs with
  | case1 => cases h
  | case2 notes c rest hblank ih =>
    obtain ⟨notes', k, z, after, hreaches, hreads⟩ := ih h
    exact ⟨notes', k, z, after, .blank hblank hreaches, hreads⟩
  | case3 notes c rest hblank hslash ih =>
    obtain ⟨notes', k, z, after, hreaches, hreads⟩ := ih h
    obtain ⟨hc, hhead⟩ := Bool.and_eq_true_iff.mp hslash
    obtain ⟨tail, rfl⟩ := List.head?_eq_some_iff.mp (eq_of_beq hhead)
    rw [eq_of_beq hc]
    exact ⟨notes', k, z, after, .comment hreaches, hreads⟩
  | case4 => cases h
  | case5 notes c rest hblank hslash d' after hread ih =>
    obtain ⟨more, hmore, heq⟩ := exists_of_map_eq_ok h
    obtain ⟨rfl, rfl⟩ := List.cons.inj heq
    exact ⟨notes, c, rest, after, .refl notes _, Bool.eq_false_iff.mpr hblank, hread, hmore⟩

/-- A line comment that no blank line follows is passed over together with its line feed. -/
theorem ScansTo.comment_line {notes notes' : Annotations} {line cs cs' : List Char}
    {ds : List Declaration} (hline : '\n' ∉ line) (hbelow : startsWithBlankLine cs = false)
    (h : ScansTo (addNote notes line) cs ds notes' cs') :
    ScansTo notes ('/' :: '/' :: (line ++ '\n' :: cs)) ds notes' cs' := by
  have hchars : ∀ c ∈ line, (c != '\n') = true :=
    fun c hc ↦ bne_iff_ne.mpr fun hnewline ↦ hline (hnewline ▸ hc)
  have hcomment : (line ++ '\n' :: cs).takeWhile (· != '\n') = line := by
    rw [List.takeWhile_append_of_pos hchars]
    exact List.append_nil line
  have hrest : (line ++ '\n' :: cs).dropWhile (· != '\n') = '\n' :: cs :=
    List.dropWhile_append_of_pos hchars
  refine .comment ?_
  rw [hcomment, hrest]
  refine .blank rfl ?_
  rw [hbelow]
  exact h

theorem StandsBehind.suffix {text cs : List Char} {before : List Declaration}
    (h : StandsBehind text before cs) : cs <:+ text := by
  induction h with
  | start => exact List.suffix_rfl
  | declaration _ hcs hread ih => exact (suffix_of_declaration hread).trans (hcs.suffix.trans ih)

/-- The scanner stands behind every declaration once. -/
theorem exists_standsBehind {text : List Char} {before more : List Declaration}
    (h : scan [] text = .ok (before ++ more)) :
    ∃ cs, StandsBehind text before cs ∧ scan [] cs = .ok more := by
  induction before using List.reverseRecOn generalizing more with
  | nil => exact ⟨text, .start, h⟩
  | append_singleton before d ih =>
    rw [List.append_assoc] at h
    obtain ⟨cs, hbehind, hscan⟩ := ih h
    obtain ⟨notes, k, z, rest, hreaches, -, hread, hrest⟩ := reaches_first hscan
    exact ⟨rest, hbehind.declaration hreaches hread, hrest⟩

theorem nonempty_remarked {source : List Char} {before more : List Declaration} {d : Declaration}
    (h : declarations source = .ok (before ++ d :: more)) : Nonempty (Remarked source before d) := by
  cases hblanked : blankComments source with
  | error offset =>
    rw [declarations, hblanked] at h
    cases h
  | ok text =>
    obtain ⟨cs, hbehind, hcs⟩ := exists_standsBehind ((declarations_eq_ok_iff hblanked).mp h)
    obtain ⟨notes, k, z, rest, hreaches, hk, hread, -⟩ := reaches_first hcs
    obtain ⟨start, rfl⟩ : ∃ start, cs = text.drop start :=
      ⟨_, List.suffix_iff_eq_drop.mp hbehind.suffix⟩
    have hstop : k :: z = text.drop (text.length - (k :: z).length) :=
      List.suffix_iff_eq_drop.mp (hreaches.suffix.trans hbehind.suffix)
    rw [hstop] at hreaches hread
    exact ⟨⟨text, hblanked, start, hbehind, _, ⟨k, z, hstop.symm, hk⟩, notes, hreaches, rest, hread⟩⟩

/-- **A declaration takes its notes from the lines above it below the last blank line**, of a note
that is given twice the later one, and none from anywhere else. It takes all of them if no note
stands above a line that lies in block comments altogether. -/
theorem parse_annotations {text projectName : String} {file : Option Path} {g : Grammar}
    (h : parse text projectName file = .ok g) :
    ∃ ds, declarations text.toList = .ok ds ∧ g = assemble projectName file ds ∧
      ∀ before d more, ds = before ++ d :: more → Nonempty (Remarked text.toList before d) ∧
        ∀ (r : Remarked text.toList before d) (notes : Annotations), d.annotations? = some notes →
          (r.Intact → notes = Entries.ofList (r.block.filterMap Remark.note?)) ∧
          ∃ attached, attached <:+ r.block ∧
            notes = Entries.ofList (attached.filterMap Remark.note?) := by
  rw [parse] at h
  cases hread : declarations text.toList with
  | error fault =>
    rw [hread] at h
    cases h
  | ok ds =>
    rw [hread] at h
    cases h
    refine ⟨ds, rfl, rfl, fun before d more hds ↦ ⟨nonempty_remarked (hds ▸ hread), ?_⟩⟩
    intro r notes hnotes
    have hattached : notes = Entries.ofList (r.attached.filterMap Remark.note?) := by
      rw [annotations?_of_declaration r.reads hnotes, r.notes_eq]
    refine ⟨fun hintact ↦ ?_, r.attached, r.attached_suffix, hattached⟩
    rw [hattached, r.filterMap_attached hintact]

theorem parse_annotations_block :
    let text := "// @icon box\n// @icon disc\ninterface A \x7b\n\x7d\n"
    ∃ g d, ∃ r : Remarked text.toList [] d, parse text "" none = .ok g ∧
      declarations text.toList = .ok [d] ∧ r.Intact ∧
      r.block.map Remark.note? = [some ("icon", "box"), some ("icon", "disc")] ∧
      d.annotations? = some [("icon", "disc")] ∧
      [("icon", "disc")] = Entries.ofList (r.block.filterMap Remark.note?) := by
  intro text
  have hblanked : blankComments text.toList = .ok text.toList := by decide +kernel
  have hreaches : ScansTo [] (text.toList.drop 0) [] [("icon", "disc")] (text.toList.drop 27) := by
    have htext : text.toList.drop 0 = '/' :: '/' :: (" @icon box".toList ++ '\n' ::
        '/' :: '/' :: (" @icon disc".toList ++ '\n' :: text.toList.drop 27)) := by
      decide +kernel
    have hnotes : addNote (addNote [] " @icon box".toList) " @icon disc".toList =
        [("icon", "disc")] := by
      decide +kernel
    rw [htext, ← hnotes]
    exact .comment_line (by decide +kernel) (by decide +kernel)
      (.comment_line (by decide +kernel) (by decide +kernel) (.refl _ _))
  have hplace : text.toList.drop 27 = 'i' :: "nterface A \x7b\n\x7d\n".toList := by
    decide +kernel
  have hread : (declaration [("icon", "disc")] (text.toList.drop 27)).toOption.map
      (fun r ↦ (r.1.annotations?, r.2)) = some (some [("icon", "disc")], ['\n']) := by
    decide +kernel
  obtain ⟨⟨d, rest⟩, hread, hd⟩ := exists_of_toOption hread
  obtain ⟨hd, rfl⟩ := Prod.mk.inj hd
  let r : Remarked text.toList [] d :=
    { text := text.toList
      blanked := hblanked
      start := 0
      behind := .start
      stop := 27
      solid := ⟨'i', _, hplace, rfl⟩
      notes := [("icon", "disc")]
      reaches := hreaches
      rest := ['\n']
      reads := hread }
  have hds : declarations text.toList = .ok [d] := by
    have hscan := hreaches.scan_eq
    rw [scan_declaration ⟨'i', _, hplace, rfl, by decide⟩ hread, scan_blank rfl, scan_nil] at hscan
    exact (declarations_eq_ok_iff hblanked).mpr hscan
  have hg : parse text "" none = .ok (assemble "" none [d]) := by
    rw [parse, hds]
  have hblock : let block := (remarks text.toList text.toList 0 27).rtakeWhile (!allBlank ·.written)
      block.map Remark.note? = [some ("icon", "box"), some ("icon", "disc")] ∧
        ∀ l ∈ block, ¬ allBlank l.shown := by
    decide +kernel
  have hintact : r.Intact := fun above l below hlines hl ↦ by
    have hmem : l ∈ r.block := hlines ▸ List.mem_append_right above List.mem_cons_self
    exact absurd hl (hblock.2 l hmem)
  obtain ⟨ds, hds', -, hall⟩ := parse_annotations hg
  obtain rfl := Except.ok.inj (hds.symm.trans hds')
  exact ⟨_, d, r, hg, hds, hintact, hblock.1, hd, ((hall [] d [] rfl).2 r _ hd).1 hintact⟩

/-- A line that lies in a block comment altogether looks blank, and the note above it is dropped. -/
theorem note_above_block_comment_dropped :
    let text := "// @icon box\n/* the shape */\ninterface A \x7b\n\x7d\n"
    (lines text.toList).take 3 =
        ["// @icon box".toList, "/* the shape */".toList, "interface A \x7b".toList] ∧
      lineNote? "// @icon box".toList = some ("icon", "box") ∧
      (parse text "" none).toOption.map (·.interfaces) = some [⟨"A", [], [], []⟩] := by
  decide +kernel

end DiagramForge.Grammar
