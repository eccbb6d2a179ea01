import DiagramForge.Data.Json
import DiagramForge.Proofs.Entries
import Mathlib.Data.List.Basic
import Mathlib.Data.List.TakeWhile

/-!
# Documents that are put together

A document that is put together from texts, integers, lists and objects is read as what its parts
are read as, however many blanks stand between them: `read_of_denotes`.

`Denotes` says what a part of a document is read as, whatever comes after it as long as that ends
the part. There is a rule for each way to put a part together. The rules of lists and objects go by
induction on the items and entries, which are read with those before them set aside.
-/

namespace DiagramForge.Data.Json

open Text

variable {cs cs' rest before after : List Char} {d : Data} {ds : List Data}

/-! ## Blanks between parts -/

theorem skipSpace_append (h : ∀ c ∈ before, isSpace c = true) (cs : List Char) :
    skipSpace (before ++ cs) = skipSpace cs :=
  List.dropWhile_append_of_pos h

/-- A text begins with something that can follow a part of a document. -/
def Follows (cs : List Char) : Prop :=
  ∀ c ∈ cs.head?, isSpace c = true ∨ c ∈ [',', ']', '\x7d']

theorem follows_cons {c : Char} (h : c ∈ [',', ']', '\x7d']) (cs : List Char) :
    Follows (c :: cs) := by
  rintro _ ⟨⟩
  exact .inr h

theorem Follows.blank (hafter : ∀ c ∈ after, isSpace c = true) (h : Follows rest) :
    Follows (after ++ rest) := by
  cases after with
  | nil => exact h
  | cons c cs =>
    rintro _ ⟨⟩
    exact .inl (hafter c List.mem_cons_self)

/-- What follows a part goes on no number. -/
theorem Follows.not_number (h : Follows rest) :
    ∀ c ∈ rest.head?, c.isDigit = false ∧ (c == '.' || c == 'e' || c == 'E') = false := by
  intro c hc
  rcases h c hc with hspace | hmark
  · simp only [isSpace, Bool.or_eq_true, beq_iff_eq] at hspace
    rcases hspace with ((rfl | rfl) | rfl) | rfl <;> decide
  · simp only [List.mem_cons, List.not_mem_nil, or_false] at hmark
    rcases hmark with rfl | rfl | rfl <;> decide

/-- A part of a document is read as a value, with any blanks around it. -/
def Denotes (cs : List Char) (d : Data) : Prop :=
  ∀ fuel rest, cs.length < fuel → Follows rest →
    ∃ left, value fuel (skipSpace (cs ++ rest)) = .ok (d, left) ∧ skipSpace left = skipSpace rest

/-- Blanks in front of a part are of no account. -/
theorem Denotes.blanks_append (h : Denotes cs d) (hbefore : ∀ c ∈ before, isSpace c = true) :
    Denotes (before ++ cs) d := by
  intro fuel rest hfuel hrest
  rw [List.length_append] at hfuel
  rw [List.append_assoc, skipSpace_append hbefore]
  exact h fuel rest (by omega) hrest

theorem Denotes.space_cons (h : Denotes cs d) : Denotes (' ' :: cs) d :=
  h.blanks_append (List.forall_mem_singleton.mpr rfl)

/-- Blanks behind a part are of no account. -/
theorem Denotes.append_blanks (h : Denotes cs d) (hafter : ∀ c ∈ after, isSpace c = true) :
    Denotes (cs ++ after) d := by
  intro fuel rest hfuel hrest
  rw [List.length_append] at hfuel
  obtain ⟨left, hvalue, hleft⟩ := h fuel (after ++ rest) (by omega) (hrest.blank hafter)
  rw [List.append_assoc]
  exact ⟨left, hvalue, hleft.trans (skipSpace_append hafter rest)⟩

/-! ## Texts -/

/-- A character stands for itself inside a text. -/
def IsPlain (c : Char) : Prop :=
  c ≠ '"' ∧ c ≠ '\\' ∧ 32 ≤ c.toNat

instance (c : Char) : Decidable (IsPlain c) :=
  inferInstanceAs (Decidable (_ ∧ _))

/-- A text between its quotes. -/
def quotation (s : String) : List Char :=
  '"' :: (s.toList ++ ['"'])

theorem textRest?_plain (h : ∀ c ∈ cs, IsPlain c) (rest : List Char) {fuel : Nat}
    (hfuel : cs.length < fuel) (read : List Char) :
    textRest? fuel read (cs ++ '"' :: rest) = some (String.ofList (read.reverse ++ cs), rest) := by
  induction cs generalizing fuel read with
  | nil =>
    obtain ⟨fuel, rfl⟩ := Nat.exists_eq_add_one_of_ne_zero (Nat.ne_zero_of_lt hfuel)
    rw [List.nil_append, textRest?, List.append_nil]
  | cons c cs ih =>
    obtain ⟨fuel, rfl⟩ := Nat.exists_eq_add_one_of_ne_zero (Nat.ne_zero_of_lt hfuel)
    obtain ⟨⟨hquote, hslash, hcontrol⟩, hcs⟩ := List.forall_mem_cons.mp h
    have hrest := ih hcs (Nat.lt_of_succ_lt_succ hfuel) (c :: read)
    rw [List.cons_append, textRest?, if_neg (Nat.not_lt.mpr hcontrol), hrest, List.reverse_cons,
      List.append_assoc, List.singleton_append]
    · exact hquote
    · exact fun _ heq ↦ absurd heq hslash
    · exact fun _ _ heq ↦ absurd heq hslash

theorem textRest?_quotation {s : String} (h : ∀ c ∈ s.toList, IsPlain c) (rest : List Char) :
    textRest? ((s.toList ++ '"' :: rest).length + 1) [] (s.toList ++ '"' :: rest) =
      some (s, rest) := by
  rw [textRest?_plain h rest (by simp only [List.length_append]; omega), List.reverse_nil,
    List.nil_append, String.ofList_toList]

theorem denotes_quotation {s : String} (h : ∀ c ∈ s.toList, IsPlain c) :
    Denotes (quotation s) (.text s) := by
  intro fuel rest hfuel _
  obtain ⟨fuel, rfl⟩ := Nat.exists_eq_add_one_of_ne_zero (Nat.ne_zero_of_lt hfuel)
  refine ⟨rest, ?_, rfl⟩
  have hshape : skipSpace (quotation s ++ rest) = '"' :: (s.toList ++ '"' :: rest) := by
    rw [quotation, List.cons_append, List.append_assoc]
    rfl
  rw [hshape, value, textRest?_quotation h]
  rfl

/-! ## Integers -/

/-- The digits of a number other than zero do not begin with a zero. -/
theorem head?_toDigits_ne_zero {n : Nat} (hn : n ≠ 0) :
    (Nat.toDigits 10 n).head? ≠ some '0' := by
  induction n using Nat.strongRecOn with
  | ind n ih =>
    by_cases hlt : n < 10
    · rw [Nat.toDigits_of_lt_base hlt, List.head?_cons, Ne, Option.some.injEq,
        Nat.digitChar_eq_zero]
      exact hn
    · have hle : 10 ≤ n := Nat.le_of_not_lt hlt
      have hquotient : n / 10 ≠ 0 := by omega
      rw [Nat.toDigits_of_base_le (by decide) hle,
        List.head?_append_of_ne_nil _ Nat.toDigits_ne_nil]
      exact ih (n / 10) (by omega) hquotient

theorem isPlainNumber_toDigits (n : Nat) : isPlainNumber (Nat.toDigits 10 n) = true := by
  by_cases hn : n = 0
  · rw [hn]
    decide
  · have hhead := head?_toDigits_ne_zero hn
    revert hhead
    cases hdigits : Nat.toDigits 10 n with
    | nil => exact absurd hdigits Nat.toDigits_ne_nil
    | cons c cs =>
      intro hhead
      have hc : c ≠ '0' := fun heq ↦ hhead (by rw [heq, List.head?_cons])
      rw [isPlainNumber]
      · exact List.cons_ne_nil c cs
      · exact fun heq ↦ hc (List.cons.inj heq).1
      · exact fun _ heq ↦ hc (List.cons.inj heq).1

/-- The digits of a number are read as the number, unless there are too many. -/
theorem decimal_toDigits {n : Nat} (hlimit : (Nat.toDigits 10 n).length ≤ digitLimit)
    (negative : Bool) : Read.decimal negative (Nat.toDigits 10 n) =
      .ok (if negative then -(n : Int) else n) := by
  have hfold :
      ((Nat.toDigits 10 n).map fun c ↦ c.toNat - 48).foldl (fun n d ↦ n * 10 + d) 0 = n := by
    rw [List.foldl_map]
    have h := @Nat.ofDigitChars_ten_toDigits n
    simp only [Nat.ofDigitChars_eq_foldl, Nat.mul_comm 10] at h
    exact h
  rw [Read.decimal, integerOfDigits, List.length_map, if_neg (Nat.not_lt.mpr hlimit)]
  simp only [hfold]

/-- The characters that an integer is shown with. -/
def numeral (n : Int) : List Char :=
  (ToString.toString n).toList

theorem numeral_ofNat (m : Nat) : numeral m = Nat.toDigits 10 m :=
  Nat.toList_repr

theorem numeral_negSucc (m : Nat) : numeral (.negSucc m) = '-' :: Nat.toDigits 10 (m + 1) := by
  have hshown : numeral (.negSucc m) = ("-" ++ (m + 1).repr).toList := rfl
  rw [hshown, String.toList_append, Nat.toList_repr]
  rfl

theorem isDigit_of_mem_toDigits {n : Nat} {c : Char} (hc : c ∈ Nat.toDigits 10 n) :
    c.isDigit = true :=
  Nat.isDigit_of_mem_toDigits (by decide) (by decide) hc

/-- The numeral of an integer begins with a digit or a sign. -/
theorem exists_numeral_eq_cons (n : Int) :
    ∃ c cs, numeral n = c :: cs ∧ (c.isDigit = true ∨ c = '-') := by
  cases n with
  | ofNat m =>
    obtain ⟨c, cs, hdigits⟩ := List.exists_cons_of_ne_nil (@Nat.toDigits_ne_nil m 10)
    refine ⟨c, cs, (numeral_ofNat m).trans hdigits, .inl ?_⟩
    exact isDigit_of_mem_toDigits (n := m) (hdigits ▸ List.mem_cons_self)
  | negSucc m => exact ⟨_, _, numeral_negSucc m, .inr rfl⟩

/-- The digits before something that follows a part are all of them. -/
theorem takeWhile_toDigits (n : Nat) (hrest : Follows rest) :
    (Nat.toDigits 10 n ++ rest).takeWhile Char.isDigit = Nat.toDigits 10 n ∧
      (Nat.toDigits 10 n ++ rest).dropWhile Char.isDigit = rest := by
  have hall : ∀ c ∈ Nat.toDigits 10 n, c.isDigit = true := fun c hc ↦ isDigit_of_mem_toDigits hc
  rw [List.takeWhile_append_of_pos hall, List.dropWhile_append_of_pos hall]
  cases rest with
  | nil => exact ⟨List.append_nil _, rfl⟩
  | cons c cs =>
    have hc : ¬ c.isDigit = true := Bool.eq_false_iff.mp (hrest.not_number c rfl).1
    rw [List.takeWhile_cons_of_neg hc, List.dropWhile_cons_of_neg hc]
    exact ⟨List.append_nil _, rfl⟩

/-- An integer that does not have too many digits is read as what it was shown for. -/
theorem number_numeral {n : Int} (hlimit : (Nat.toDigits 10 n.natAbs).length ≤ digitLimit)
    (hrest : Follows rest) : number (numeral n ++ rest) = .ok (n, rest) := by
  have hpoint : rest.head?.any (fun c ↦ c == '.' || c == 'e' || c == 'E') = false := by
    cases hhead : rest.head? with
    | none => rfl
    | some c => exact (hrest.not_number c hhead).2
  obtain ⟨htaken, hleft⟩ := takeWhile_toDigits n.natAbs hrest
  have hread (negative : Bool) := decimal_toDigits hlimit negative
  cases n with
  | ofNat m =>
    obtain ⟨c, cs, hdigits⟩ := List.exists_cons_of_ne_nil (@Nat.toDigits_ne_nil m 10)
    have hc : c ≠ '-' := by
      rintro rfl
      exact absurd (isDigit_of_mem_toDigits (n := m) (hdigits ▸ List.mem_cons_self)) (by decide)
    have hunsigned : ∀ cs, numeral (.ofNat m) ++ rest = '-' :: cs → False := by
      intro cs' heq
      rw [Int.ofNat_eq_natCast, numeral_ofNat, hdigits, List.cons_append] at heq
      exact hc (List.cons.inj heq).1
    rw [number.eq_2 _ hunsigned, Int.ofNat_eq_natCast, numeral_ofNat]
    rw [Int.ofNat_eq_natCast, Int.natAbs_natCast] at htaken hleft hread
    rw [htaken, hleft, isPlainNumber_toDigits, hpoint, hread]
    rfl
  | negSucc m =>
    rw [numeral_negSucc, List.cons_append, number.eq_1]
    rw [Int.natAbs_negSucc] at htaken hleft hread
    rw [htaken, hleft, isPlainNumber_toDigits, hpoint, hread]
    rfl

/-- What begins with a digit or a sign is read as a number. -/
theorem value_eq_number {c : Char} (hc : c.isDigit = true ∨ c = '-') (fuel : Nat)
    (cs : List Char) :
    value (fuel + 1) (c :: cs) = (number (c :: cs)).map fun r ↦ (.int r.1, r.2) := by
  have hne (mark : Char) (hdigit : mark.isDigit = false) (hsign : mark ≠ '-') : c ≠ mark := by
    rintro rfl
    rcases hc with hc | hc
    · rw [hdigit] at hc
      cases hc
    · exact hsign hc
  have hnone (word : Char) (letters : List Char) (hword : c ≠ word) :
      after? (word :: letters) (c :: cs) = none := by
    rw [after?, if_neg]
    rw [beq_iff_eq]
    exact hword.symm
  have hnull : after? "null".toList (c :: cs) = none :=
    hnone 'n' ['u', 'l', 'l'] (hne 'n' (by decide) (by decide))
  have htrue : after? "true".toList (c :: cs) = none :=
    hnone 't' ['r', 'u', 'e'] (hne 't' (by decide) (by decide))
  have hfalse : after? "false".toList (c :: cs) = none :=
    hnone 'f' ['a', 'l', 's', 'e'] (hne 'f' (by decide) (by decide))
  rw [value, hnull, htrue, hfalse]
  · cases number (c :: cs) <;> rfl
  · exact fun _ heq ↦ hne '"' (by decide) (by decide) (List.cons.inj heq).1
  · exact fun _ heq ↦ hne '[' (by decide) (by decide) (List.cons.inj heq).1
  · exact fun _ heq ↦ hne '\x7b' (by decide) (by decide) (List.cons.inj heq).1

theorem denotes_numeral {n : Int} (hlimit : (Nat.toDigits 10 n.natAbs).length ≤ digitLimit) :
    Denotes (numeral n) (.int n) := by
  intro fuel rest hfuel hrest
  obtain ⟨fuel, rfl⟩ := Nat.exists_eq_add_one_of_ne_zero (Nat.ne_zero_of_lt hfuel)
  obtain ⟨c, cs, hnumeral, hc⟩ := exists_numeral_eq_cons n
  have hnumber := number_numeral hlimit hrest
  rw [hnumeral, List.cons_append] at hnumber ⊢
  have hspace : isSpace c = false := by
    rcases hc with hc | rfl
    · by_contra hspace
      rw [Bool.not_eq_false] at hspace
      simp only [isSpace, Bool.or_eq_true, beq_iff_eq] at hspace
      rcases hspace with ((rfl | rfl) | rfl) | rfl <;> cases hc
    · rfl
  refine ⟨rest, ?_, rfl⟩
  rw [skipSpace, List.dropWhile_cons_of_neg (Bool.eq_false_iff.mp hspace), value_eq_number hc,
    hnumber]
  rfl

/-! ## Lists -/

/-- Parts with commas between them are read as values, one after another. -/
inductive Items : List Char → List Data → Prop where
  /-- The last item. -/
  | last {cs : List Char} {d : Data} (h : Denotes cs d) : Items cs [d]
  /-- An item before others. -/
  | cons {cs cs' : List Char} {d : Data} {ds : List Data} (h : Denotes cs d) (hs : Items cs' ds) :
    Items (cs ++ ',' :: cs') (d :: ds)

theorem value_bracket (fuel : Nat) (cs : List Char) :
    value fuel (']' :: cs) = .error .malformed := by
  cases fuel <;> rfl

/-- Blanks in front of the first item are of no account. -/
theorem Items.blanks_append (h : Items cs ds) (hbefore : ∀ c ∈ before, isSpace c = true) :
    Items (before ++ cs) ds := by
  cases h with
  | last h => exact .last (h.blanks_append hbefore)
  | cons h hs =>
    rw [← List.append_assoc]
    exact .cons (h.blanks_append hbefore) hs

/-- Blanks behind the last item are of no account. -/
theorem Items.append_blanks (h : Items cs ds) (hafter : ∀ c ∈ after, isSpace c = true) :
    Items (cs ++ after) ds := by
  induction h with
  | last h => exact .last (h.append_blanks hafter)
  | cons h _ ih =>
    rw [List.append_assoc, List.cons_append]
    exact .cons h ih

theorem Items.read (h : Items cs ds) (rest : List Char) {fuel : Nat} (hfuel : cs.length + 1 < fuel)
    (read : List Data) : items fuel read (skipSpace (cs ++ ']' :: rest)) =
      .ok (.list (read.reverse ++ ds), rest) := by
  induction h generalizing fuel read with
  | @last cs d h =>
    obtain ⟨fuel, rfl⟩ := Nat.exists_eq_add_one_of_ne_zero (Nat.ne_zero_of_lt hfuel)
    obtain ⟨left, hvalue, hleft⟩ := h fuel (']' :: rest) (by omega)
      (follows_cons (by decide) rest)
    have hmark : skipSpace left = ']' :: rest := hleft
    rw [items, hvalue]
    simp only [Except.bind, bind, hmark, List.reverse_cons]
    rfl
  | @cons cs cs' d ds h hs ih =>
    obtain ⟨fuel, rfl⟩ := Nat.exists_eq_add_one_of_ne_zero (Nat.ne_zero_of_lt hfuel)
    simp only [List.length_append, List.length_cons] at hfuel
    obtain ⟨left, hvalue, hleft⟩ := h fuel (',' :: (cs' ++ ']' :: rest)) (by omega)
      (follows_cons (by decide) _)
    have hmark : skipSpace left = ',' :: (cs' ++ ']' :: rest) := hleft
    rw [List.append_assoc, List.cons_append, items, hvalue]
    simp only [Except.bind, bind, hmark]
    rw [ih (by omega), List.reverse_cons, List.append_assoc, List.singleton_append]

/-- Items between brackets are read as a list. -/
theorem denotes_items (h : Items cs ds) : Denotes ('[' :: (cs ++ [']'])) (.list ds) := by
  intro fuel rest hfuel _
  obtain ⟨fuel, rfl⟩ := Nat.exists_eq_add_one_of_ne_zero (Nat.ne_zero_of_lt hfuel)
  simp only [List.length_cons, List.length_append, List.length_nil] at hfuel
  have hread := h.read rest (show cs.length + 1 < fuel by omega) []
  have hshape : skipSpace ('[' :: (cs ++ [']']) ++ rest) = '[' :: (cs ++ ']' :: rest) := by
    rw [List.cons_append, List.append_assoc]
    rfl
  refine ⟨rest, ?_, rfl⟩
  rw [hshape, value]
  split
  · next cs' heq =>
    -- no item begins with the bracket that ends the list
    rw [heq] at hread
    obtain ⟨fuel, rfl⟩ := Nat.exists_eq_add_one_of_ne_zero (show fuel ≠ 0 by omega)
    rw [items, value_bracket] at hread
    cases hread
  · exact hread

/-- A list may have no items. -/
theorem denotes_nil (h : ∀ c ∈ cs, isSpace c = true) :
    Denotes ('[' :: (cs ++ [']'])) (.list []) := by
  intro fuel rest hfuel _
  obtain ⟨fuel, rfl⟩ := Nat.exists_eq_add_one_of_ne_zero (Nat.ne_zero_of_lt hfuel)
  have hshape : skipSpace ('[' :: (cs ++ [']']) ++ rest) = '[' :: (cs ++ ']' :: rest) := by
    rw [List.cons_append, List.append_assoc]
    rfl
  have hinside : skipSpace (cs ++ ']' :: rest) = ']' :: rest := skipSpace_append h _
  refine ⟨rest, ?_, rfl⟩
  rw [hshape, value, hinside]
  rfl

/-! ## Objects -/

/-- A key with a colon after it and then a part are read as an entry, with blanks before them. -/
inductive Entry : List Char → String × Data → Prop where
  /-- The characters of the key stand for themselves. -/
  | intro {before cs : List Char} {key : String} {d : Data}
    (hbefore : ∀ c ∈ before, isSpace c = true) (hkey : ∀ c ∈ key.toList, IsPlain c)
    (h : Denotes cs d) : Entry (before ++ (quotation key ++ ':' :: cs)) (key, d)

/-- Entries with commas between them are read one after another. -/
inductive Members : List Char → List (String × Data) → Prop where
  /-- The last entry. -/
  | last {cs : List Char} {e : String × Data} (h : Entry cs e) : Members cs [e]
  /-- An entry before others. -/
  | cons {cs cs' : List Char} {e : String × Data} {es : List (String × Data)} (h : Entry cs e)
    (hs : Members cs' es) : Members (cs ++ ',' :: cs') (e :: es)

/-- Reading an entry comes to what follows it. -/
theorem Entry.exists_entries {e : String × Data} (h : Entry cs e) {fuel : Nat}
    (hfuel : cs.length < fuel) (hrest : Follows rest) (read : List (String × Data)) :
    ∃ left, skipSpace left = skipSpace rest ∧
      entries (fuel + 1) read (skipSpace (cs ++ rest)) =
        match skipSpace left with
        | ',' :: cs => entries fuel (e :: read) (skipSpace cs)
        | '\x7d' :: cs => .ok (.object (Entries.ofList (e :: read).reverse), cs)
        | _ => .error .malformed := by
  obtain @⟨before, cs, key, d, hbefore, hkey, h⟩ := h
  simp only [List.length_append, List.length_cons] at hfuel
  obtain ⟨left, hvalue, hleft⟩ := h fuel rest (by omega) hrest
  have hshape : skipSpace (before ++ (quotation key ++ ':' :: cs) ++ rest) =
      '"' :: (key.toList ++ '"' :: (':' :: (cs ++ rest))) := by
    rw [List.append_assoc, skipSpace_append hbefore, quotation, List.cons_append, List.append_assoc,
      List.cons_append, List.append_assoc]
    rfl
  have hcolon : skipSpace (':' :: (cs ++ rest)) = ':' :: (cs ++ rest) := rfl
  refine ⟨left, hleft, ?_⟩
  rw [hshape, entries, textRest?_quotation hkey]
  simp only [Read.of, bind, Except.bind, hcolon, hvalue]
  rfl

theorem Members.read {es : List (String × Data)} (h : Members cs es) (rest : List Char)
    {fuel : Nat} (hfuel : cs.length + 1 < fuel) (read : List (String × Data)) :
    entries fuel read (skipSpace (cs ++ '\x7d' :: rest)) =
      .ok (.object (Entries.ofList (read.reverse ++ es)), rest) := by
  induction h generalizing fuel read with
  | @last cs e h =>
    obtain ⟨fuel, rfl⟩ := Nat.exists_eq_add_one_of_ne_zero (Nat.ne_zero_of_lt hfuel)
    have hfollows : Follows ('\x7d' :: rest) := follows_cons (by decide) rest
    obtain ⟨left, hleft, hread⟩ := h.exists_entries (show cs.length < fuel by omega) hfollows read
    have hmark : skipSpace left = '\x7d' :: rest := hleft
    rw [hread, hmark, List.reverse_cons]
    rfl
  | @cons cs cs' e es h hs ih =>
    obtain ⟨fuel, rfl⟩ := Nat.exists_eq_add_one_of_ne_zero (Nat.ne_zero_of_lt hfuel)
    simp only [List.length_append, List.length_cons] at hfuel
    have hfollows : Follows (',' :: (cs' ++ '\x7d' :: rest)) := follows_cons (by decide) _
    obtain ⟨left, hleft, hread⟩ := h.exists_entries (show cs.length < fuel by omega) hfollows read
    have hmark : skipSpace left = ',' :: (cs' ++ '\x7d' :: rest) := hleft
    have hothers := ih (show cs'.length + 1 < fuel by omega) (e :: read)
    rw [List.append_assoc, List.cons_append, hread, hmark]
    rw [List.reverse_cons, List.append_assoc, List.singleton_append] at hothers
    exact hothers

/-- Entries between braces are read as an object. -/
theorem denotes_members {es : List (String × Data)} (h : Members cs es) :
    Denotes ('\x7b' :: (cs ++ ['\x7d'])) (.object (Entries.ofList es)) := by
  intro fuel rest hfuel _
  obtain ⟨fuel, rfl⟩ := Nat.exists_eq_add_one_of_ne_zero (Nat.ne_zero_of_lt hfuel)
  simp only [List.length_cons, List.length_append, List.length_nil] at hfuel
  have hread := h.read rest (show cs.length + 1 < fuel by omega) []
  have hshape : skipSpace ('\x7b' :: (cs ++ ['\x7d']) ++ rest) =
      '\x7b' :: (cs ++ '\x7d' :: rest) := by
    rw [List.cons_append, List.append_assoc]
    rfl
  refine ⟨rest, ?_, rfl⟩
  rw [hshape, value]
  split
  · next cs' heq =>
    -- no entry begins with the brace that ends the object
    rw [heq] at hread
    obtain ⟨fuel, rfl⟩ := Nat.exists_eq_add_one_of_ne_zero (show fuel ≠ 0 by omega)
    cases hread
  · exact hread

/-- Entries of distinct keys are kept as they are. -/
theorem denotes_object {es : List (String × Data)} (h : Members cs es)
    (hkeys : (es.map Prod.fst).Nodup) : Denotes ('\x7b' :: (cs ++ ['\x7d'])) (.object es) := by
  have hdenotes := denotes_members h
  rwa [Entries.ofList_of_nodup hkeys] at hdenotes

/-! ## Whole documents -/

/-- **A document that is put together by the rules is read as what the rules say.** -/
theorem read_of_denotes (h : Denotes cs d) : read cs = .ok d := by
  obtain ⟨left, hvalue, hleft⟩ := h (cs.length + 1) [] (Nat.lt_succ_self _) nofun
  rw [List.append_nil] at hvalue
  have hend : skipSpace left = [] := hleft
  rw [read, hvalue]
  simp only [bind, Except.bind, hend]
  rfl

end DiagramForge.Data.Json
