/-!
# Blank characters, fields and words

The scanner, the configuration reader and the case conversions all need the same few cuts of a
text: trim it, cut it at separators, take its words. They are written over `List Char`, where
offsets are list lengths and every cut is an induction on the list; `String` is kept for the
fields of the domain types.

A character is blank when Unicode gives it the property `White_Space`, or when it is one of the
four ASCII information separators, which line-oriented readers treat alike.
-/

namespace DiagramForge.Text

/-! ## Blanks -/

/-- Whether a character is blank: tabs, line ends, the ASCII information separators, the ASCII
space and the spaces of Unicode. -/
def isBlank (c : Char) : Bool :=
  let n := c.toNat
  (9 ≤ n && n ≤ 13) || (28 ≤ n && n ≤ 32) || n == 0x85 || n == 0xA0 || n == 0x1680
    || (0x2000 ≤ n && n ≤ 0x200A) || n == 0x2028 || n == 0x2029 || n == 0x202F || n == 0x205F
    || n == 0x3000

/-- Core's whitespace is blank. -/
theorem isBlank_of_isWhitespace {c : Char} (h : c.isWhitespace = true) : isBlank c = true := by
  simp only [Char.isWhitespace, Bool.or_eq_true, decide_eq_true_eq] at h
  rcases h with ((rfl | rfl) | rfl) | rfl <;> decide

/-- The text without its leading blanks. -/
def trimLeft (cs : List Char) : List Char :=
  cs.dropWhile isBlank

/-- The text without its trailing blanks. -/
def trimRight (cs : List Char) : List Char :=
  (cs.reverse.dropWhile isBlank).reverse

/-- The text without the blanks at either end. -/
def trim (cs : List Char) : List Char :=
  trimRight (trimLeft cs)

/-- Whether nothing but blanks is left of a text, the empty text included. -/
def allBlank (cs : List Char) : Bool :=
  cs.all isBlank

/-! ## Fields and words -/

/-- The fields between separators, empty ones included: there is always one field more than there
are separators, so a text without separators is its own only field. -/
def fields (sep : Char → Bool) : List Char → List (List Char)
  | [] => [[]]
  | c :: cs =>
    match fields sep cs with
    | [] => [[c]]
    | w :: ws => if sep c then [] :: w :: ws else (c :: w) :: ws

/-- The words of a text: its non-empty fields. -/
def words (sep : Char → Bool) (cs : List Char) : List (List Char) :=
  (fields sep cs).filter fun w ↦ !w.isEmpty

theorem fields_ne_nil (sep : Char → Bool) (cs : List Char) : fields sep cs ≠ [] := by
  cases cs with
  | nil => simp [fields]
  | cons c cs => simp only [fields]; split <;> (try split) <;> simp

/-- The lines of a text; only the line feed ends a line. -/
def lines (cs : List Char) : List (List Char) :=
  fields (· == '\n') cs

/-- A text without line feeds is its own only line. -/
theorem lines_of_not_mem {cs : List Char} (h : '\n' ∉ cs) : lines cs = [cs] := by
  induction cs with
  | nil => rfl
  | cons c cs ih =>
    simp only [List.mem_cons, not_or] at h
    have hc : (c == '\n') = false := beq_eq_false_iff_ne.2 (Ne.symm h.1)
    have ih := ih h.2
    simp only [lines] at ih
    simp [lines, fields, ih, hc]

/-! ## The same cuts on strings -/

/-- `trim` on strings. -/
def trimString (s : String) : String :=
  String.ofList (trim s.toList)

/-- Whether a string is empty or blank throughout. -/
def blankString (s : String) : Bool :=
  allBlank s.toList

/-- The fields of a string as strings. -/
def fieldStrings (sep : Char → Bool) (s : String) : List String :=
  (fields sep s.toList).map String.ofList

/-- The strings with a separator between each two of them. -/
def joinStrings (sep : String) (parts : List String) : String :=
  sep.intercalate parts

/-! ## Parts of a text -/

/-- What is left of a text after a given beginning, if it begins so. -/
def after? (start : List Char) (cs : List Char) : Option (List Char) :=
  match start, cs with
  | [], cs => some cs
  | _ :: _, [] => none
  | p :: ps, c :: cs => if p == c then after? ps cs else none

theorem eq_append_of_after? {start cs rest : List Char} (h : after? start cs = some rest) :
    cs = start ++ rest := by
  induction start generalizing cs with
  | nil => simpa [after?] using h
  | cons p ps ih =>
    cases cs with
    | nil => simp [after?] at h
    | cons c cs =>
      simp only [after?] at h
      split at h
      · next hc => simp [ih h, eq_of_beq hc]
      · cases h

/-- The part of a text before the first occurrence of a mark and the part after it. -/
def splitFirst? (mark : List Char) : List Char → Option (List Char × List Char)
  | [] => if mark.isEmpty then some ([], []) else none
  | c :: cs =>
    match after? mark (c :: cs) with
    | some rest => some ([], rest)
    | none => (splitFirst? mark cs).map fun (before, rest) ↦ (c :: before, rest)

/-- Whether a text occurs in another. -/
def occursIn (mark cs : List Char) : Bool :=
  (splitFirst? mark cs).isSome

/-- Whether a string occurs in another. -/
def stringOccursIn (mark s : String) : Bool :=
  occursIn mark.toList s.toList

end DiagramForge.Text
