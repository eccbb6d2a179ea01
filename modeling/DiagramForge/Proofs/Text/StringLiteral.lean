import DiagramForge.Text.Encoding
import DiagramForge.Text.Quoted

/-!
# String literals of generated code

A string literal between single quotes, read by the rules of strict ECMAScript. What a literal
denotes is a sequence of UTF-16 code units, because an escape can denote half a surrogate pair.

The reader is a machine with one step for each character, `LiteralState.next`. Reading never yields
more units than it has gone through, and fewer as soon as there is an escape: `length_le_of_read`.
So a text that is put between quotes as it is can only be read back as itself, up to the quote
behind it, if all of its characters stand for themselves. That is `read_quoted_iff`.
-/

namespace DiagramForge.Text

/-! ## Characters that stand for themselves -/

/-- The code units of a text. -/
def codeUnits (cs : List Char) : List Nat :=
  cs.flatMap units16

theorem codeUnits_cons (c : Char) (cs : List Char) :
    codeUnits (c :: cs) = units16 c ++ codeUnits cs :=
  List.flatMap_cons

theorem codeUnits_append (as bs : List Char) :
    codeUnits (as ++ bs) = codeUnits as ++ codeUnits bs :=
  List.flatMap_append

/-- Whether a character stands for itself between single quotes. -/
def isVerbatim (c : Char) : Bool :=
  c != '\'' && c != '\\' && c != '\n' && c != '\r'

theorem isVerbatim_iff {c : Char} : isVerbatim c = true ↔ c ∉ ['\'', '\\', '\n', '\r'] := by
  simp [isVerbatim, and_assoc]

/-! ## Reading -/

/-- Where a reader is in a literal. -/
inductive LiteralState where
  /-- Where a character may begin. -/
  | text
  /-- Behind a backslash. -/
  | escape
  /-- Behind an escaped zero, which no digit may follow. -/
  | zero
  /-- Behind an escaped carriage return, which is one line break with a line feed. -/
  | lineEnd
  /-- Behind the letter of an escape for a code unit. -/
  | unit
  /-- Where hexadecimal digits are to come, so many besides the first of them, with the number that
  has been read so far. -/
  | digits (more n : Nat)
  /-- In braces, with the number that has been read so far, if any. -/
  | braces (n : Option Nat)

/-- What a character does. -/
inductive LiteralStep where
  /-- It ends the literal. -/
  | close
  /-- It cannot stand there. -/
  | stop
  /-- The reader goes on, and code units are known. -/
  | go (units : List Nat) (s : LiteralState)

/-- The units of a code point. -/
def pointUnits (n : Nat) : List Nat :=
  if n < 0x10000 then [n] else [0xD800 + (n - 0x10000) / 0x400, 0xDC00 + (n - 0x10000) % 0x400]

/-- What a letter in an escape denotes; other characters denote themselves. -/
def escapedUnits (c : Char) : List Nat :=
  match c with
  | 'b' => [8]
  | 't' => [9]
  | 'n' => [10]
  | 'v' => [11]
  | 'f' => [12]
  | 'r' => [13]
  | c => units16 c

namespace LiteralState

/-- A character where one may begin. -/
def nextText (c : Char) : LiteralStep :=
  if c == '\'' then .close
  else if c == '\\' then .go [] .escape
  else if c == '\n' || c == '\r' then .stop
  else .go (units16 c) .text

/-- A character behind a backslash. A line break is left out of the text. -/
def nextEscape (c : Char) : LiteralStep :=
  if c == 'x' then .go [] (.digits 1 0)
  else if c == 'u' then .go [] .unit
  else if c == '0' then .go [0] .zero
  else if c.isDigit then .stop
  else if c == '\r' then .go [] .lineEnd
  else if c == '\n' || c == '\u2028' || c == '\u2029' then .go [] .text
  else .go (escapedUnits c) .text

/-- A hexadecimal digit, where so many are to come behind it. -/
def nextDigit (more n : Nat) (c : Char) : LiteralStep :=
  match hexValue? c, more with
  | none, _ => .stop
  | some v, 0 => .go [n * 16 + v] .text
  | some v, more + 1 => .go [] (.digits more (n * 16 + v))

/-- A character in braces. -/
def nextBraces (n : Option Nat) (c : Char) : LiteralStep :=
  if c == '\x7d' then
    match n with
    | some n => if n < 0x110000 then .go (pointUnits n) .text else .stop
    | none => .stop
  else
    match hexValue? c with
    | some v => .go [] (.braces (some (n.getD 0 * 16 + v)))
    | none => .stop

/-- A character of a literal. -/
def next : LiteralState → Char → LiteralStep
  | text, c => nextText c
  | escape, c => nextEscape c
  | zero, c => if c.isDigit then .stop else nextText c
  | lineEnd, c => if c == '\n' then .go [] .text else nextText c
  | unit, c => if c == '\x7b' then .go [] (.braces none) else nextDigit 3 0 c
  | digits more n, c => nextDigit more n c
  | braces n, c => nextBraces n c

/-- What the rest of a literal denotes, and what follows the literal. -/
def read : LiteralState → List Char → Option (List Nat × List Char)
  | _, [] => none
  | s, c :: cs =>
    match s.next c with
    | .close => some ([], cs)
    | .stop => none
    | .go us s' => (s'.read cs).map fun r ↦ (us ++ r.1, r.2)

/-- How many units may still be denoted that have been gone through already. -/
def credit : LiteralState → Nat
  | text | escape | zero | lineEnd | digits .. => 0
  | unit => 1
  | braces _ => 2

end LiteralState

/-- Reads a string literal: what it denotes, and what follows it. -/
def readLiteral? : List Char → Option (List Nat × List Char)
  | '\'' :: cs => LiteralState.text.read cs
  | _ => none

/-! ## What reading yields -/

section Lengths

variable {c : Char} {cs rest : List Char} {us : List Nat} {s s' : LiteralState}

/-- The units of a character are those of its code point. -/
theorem units16_eq (c : Char) : units16 c = pointUnits c.toNat :=
  rfl

theorem length_pointUnits (n : Nat) : 0 < (pointUnits n).length ∧ (pointUnits n).length ≤ 2 := by
  rw [pointUnits]
  split
  · exact ⟨Nat.one_pos, Nat.le_succ 1⟩
  · exact ⟨Nat.two_pos, Nat.le_refl 2⟩

theorem length_units16_pos (c : Char) : 0 < (units16 c).length :=
  units16_eq c ▸ (length_pointUnits c.toNat).1

theorem length_escapedUnits_le (c : Char) : (escapedUnits c).length ≤ (units16 c).length := by
  unfold escapedUnits
  split
  case h_7 => exact Nat.le_refl _
  all_goals exact Nat.le_refl 1

namespace LiteralState

theorem credit_of_nextText (h : nextText c = .go us s') :
    us.length + s'.credit ≤ (units16 c).length := by
  have hpos := length_units16_pos c
  unfold nextText at h
  split at h
  · cases h
  split at h
  · cases h
    exact Nat.le_of_lt hpos
  split at h
  · cases h
  · cases h
    exact Nat.le_refl _

theorem credit_of_nextEscape (h : nextEscape c = .go us s') :
    us.length + s'.credit ≤ (units16 c).length := by
  have hpos := length_units16_pos c
  unfold nextEscape at h
  split at h
  · cases h
    exact Nat.le_of_lt hpos
  split at h
  · cases h
    exact hpos
  split at h
  · cases h
    exact hpos
  split at h
  · cases h
  split at h
  · cases h
    exact Nat.le_of_lt hpos
  split at h
  · cases h
    exact Nat.le_of_lt hpos
  · cases h
    exact length_escapedUnits_le c

theorem credit_of_nextDigit {more n : Nat} (h : nextDigit more n c = .go us s') :
    us.length + s'.credit ≤ (units16 c).length := by
  have hpos := length_units16_pos c
  unfold nextDigit at h
  split at h
  · cases h
  · cases h
    exact hpos
  · cases h
    exact Nat.le_of_lt hpos

theorem credit_of_nextBraces {n : Option Nat} (h : nextBraces n c = .go us s') :
    us.length + s'.credit ≤ 2 + (units16 c).length := by
  unfold nextBraces at h
  split at h
  · split at h
    · split at h
      · cases h
        exact Nat.le_trans (length_pointUnits _).2 (Nat.le_add_right _ _)
      · cases h
    · cases h
  · split at h
    · cases h
      exact Nat.le_add_right _ _
    · cases h

/-- A step yields no more than it goes through. -/
theorem credit_of_next (h : s.next c = .go us s') :
    us.length + s'.credit ≤ s.credit + (units16 c).length := by
  have hpos := length_units16_pos c
  cases s with
  | text =>
    rw [credit, Nat.zero_add]
    exact credit_of_nextText h
  | escape =>
    rw [credit, Nat.zero_add]
    exact credit_of_nextEscape h
  | zero =>
    rw [next] at h
    split at h
    · cases h
    · rw [credit, Nat.zero_add]
      exact credit_of_nextText h
  | lineEnd =>
    rw [next] at h
    split at h
    · cases h
      exact Nat.zero_le _
    · rw [credit, Nat.zero_add]
      exact credit_of_nextText h
  | unit =>
    rw [next] at h
    split at h
    · cases h
      exact Nat.add_le_add_left hpos 1
    · exact Nat.le_trans (credit_of_nextDigit h) (Nat.le_add_left _ _)
  | digits more n =>
    rw [credit, Nat.zero_add]
    exact credit_of_nextDigit h
  | braces n => exact credit_of_nextBraces h

/-- Reading a literal yields fewer units than there are up to the quote. -/
theorem length_le_of_read (h : s.read cs = some (us, rest)) :
    us.length + 1 + (codeUnits rest).length ≤ s.credit + (codeUnits cs).length := by
  induction cs generalizing s us with
  | nil => cases h
  | cons c cs ih =>
    have hpos := length_units16_pos c
    rw [codeUnits_cons, List.length_append]
    rw [read] at h
    split at h
    · cases h
      rw [List.length_nil]
      omega
    · cases h
    next vs s' hnext =>
      obtain ⟨⟨ws, after⟩, hread, hresult⟩ := Option.map_eq_some_iff.mp h
      cases hresult
      have hcredit := credit_of_next hnext
      have hrest := ih hread
      dsimp only at hrest ⊢
      rw [List.length_append]
      omega

end LiteralState

end Lengths

/-! ## Texts between quotes -/

/-- The characters that do not stand for themselves. -/
theorem eq_of_not_verbatim {c : Char} (h : ¬ isVerbatim c = true) :
    c = '\'' ∨ c = '\\' ∨ c = '\n' ∨ c = '\r' := by
  simpa [isVerbatim_iff, Decidable.or_iff_not_imp_left] using h

theorem nextText_of_verbatim {c : Char} (h : isVerbatim c = true) :
    LiteralState.nextText c = .go (units16 c) .text := by
  simp only [isVerbatim, bne_iff_ne, Bool.and_eq_true] at h
  obtain ⟨⟨⟨hquote, hslash⟩, hfeed⟩, hreturn⟩ := h
  simp [LiteralState.nextText, hquote, hslash, hfeed, hreturn]

/-- **What can stand between quotes as it is.** A text that is put between single quotes is read
back as itself, up to the quote behind it, exactly if each of its characters stands for itself. -/
theorem read_quoted_iff (cs rest : List Char) :
    LiteralState.text.read (cs ++ '\'' :: rest) = some (codeUnits cs, rest) ↔
      ∀ c ∈ cs, isVerbatim c = true := by
  induction cs with
  | nil => exact iff_of_true rfl (List.forall_mem_nil _)
  | cons c cs ih =>
    rw [List.forall_mem_cons, List.cons_append, codeUnits_cons]
    by_cases hverbatim : isVerbatim c = true
    · rw [LiteralState.read, LiteralState.next, nextText_of_verbatim hverbatim]
      simp only [hverbatim, true_and, ← ih, Option.map_eq_some_iff, Prod.mk.injEq,
        List.append_cancel_left_eq]
      constructor
      · rintro ⟨⟨us, after⟩, hread, rfl, rfl⟩
        exact hread
      · exact fun hread ↦ ⟨_, hread, rfl, rfl⟩
    · refine iff_of_false (fun h ↦ ?_) fun h ↦ hverbatim h.1
      rcases eq_of_not_verbatim hverbatim with rfl | rfl | rfl | rfl
      · -- the literal ends too early
        cases h
      · -- with an escape, less is denoted than there is
        obtain ⟨⟨us, after⟩, hread, hresult⟩ := Option.map_eq_some_iff.mp h
        have hlength := LiteralState.length_le_of_read hread
        obtain ⟨hus, rfl⟩ := Prod.mk.inj hresult
        have hunits : us.length = 1 + (codeUnits cs).length :=
          (congrArg List.length hus).trans (List.length_append)
        have hquote : (codeUnits ('\'' :: after)).length = 1 + (codeUnits after).length :=
          List.length_append
        rw [codeUnits_append, List.length_append, hquote, hunits, LiteralState.credit] at hlength
        omega
      · cases h
      · cases h

/-- Escapes denote other characters, and a quote in the text ends it. -/
example : readLiteral? "'\\u0041\\x42\\n\\'\\0'; 'it's".toList =
    some ([65, 66, 10, 39, 0], "; 'it's".toList) := by
  decide

end DiagramForge.Text
