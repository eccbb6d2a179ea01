import DiagramForge.Text.Quoted

/-!
# Lexemes of a grammar

The smallest pieces the scanner recognises at the start of a text: identifiers, keywords, quoted
literals, blanks. Each recogniser yields what it read and the rest of the text, and for each there
is a lemma that the rest is no longer, or shorter, than the text; these lemmas are what the loops
over a grammar terminate by.
-/

namespace DiagramForge.Grammar

open Text

/-! ## Identifiers -/

/-- Whether a character can begin an identifier. -/
def isIdentStart (c : Char) : Bool :=
  c.isAlpha || c == '_'

/-- Whether a character can continue an identifier. -/
def isIdentRest (c : Char) : Bool :=
  c.isAlphanum || c == '_'

/-- Whether a text is an identifier. -/
def isIdent : List Char → Bool
  | [] => false
  | c :: cs => isIdentStart c && cs.all isIdentRest

/-- The identifier a text begins with. -/
def ident? : List Char → Option (List Char × List Char)
  | [] => none
  | c :: cs =>
    if isIdentStart c then some (c :: cs.takeWhile isIdentRest, cs.dropWhile isIdentRest) else none

theorem length_dropWhile_le (p : Char → Bool) (cs : List Char) :
    (cs.dropWhile p).length ≤ cs.length := by
  induction cs with
  | nil => simp
  | cons c cs ih => rw [List.dropWhile_cons]; split <;> simp <;> omega

theorem length_lt_of_ident? {cs name rest : List Char} (h : ident? cs = some (name, rest)) :
    rest.length < cs.length := by
  cases cs with
  | nil => simp [ident?] at h
  | cons c cs =>
    simp only [ident?] at h
    split at h
    · simp only [Option.some.injEq, Prod.mk.injEq] at h
      have := length_dropWhile_le isIdentRest cs
      simp [← h.2]; omega
    · cases h

theorem isIdent_of_ident? {cs name rest : List Char} (h : ident? cs = some (name, rest)) :
    isIdent name = true := by
  cases cs with
  | nil => simp [ident?] at h
  | cons c cs =>
    simp only [ident?] at h
    split at h
    · next hc =>
      simp only [Option.some.injEq, Prod.mk.injEq] at h
      simp only [← h.1, isIdent, hc, Bool.true_and, List.all_eq_true]
      intro x hx
      exact List.all_eq_true.1 List.all_takeWhile x hx
    · cases h

/-! ## Blanks and keywords -/

/-- What follows one or more blanks. -/
def blanks? : List Char → Option (List Char)
  | [] => none
  | c :: cs => if isBlank c then some (trimLeft cs) else none

/-- What follows a keyword and the blanks after it, of which there is at least one. -/
def keyword? (word : String) (cs : List Char) : Option (List Char) :=
  (after? word.toList cs).bind blanks?

/-- What follows a mark that blanks may precede. -/
def mark? (mark : Char) (cs : List Char) : Option (List Char) :=
  after? [mark] (trimLeft cs)

theorem length_trimLeft_le (cs : List Char) : (trimLeft cs).length ≤ cs.length :=
  length_dropWhile_le isBlank cs

theorem length_eq_of_after? {start cs rest : List Char} (h : after? start cs = some rest) :
    cs.length = start.length + rest.length := by
  rw [eq_append_of_after? h, List.length_append]

theorem length_lt_of_blanks? {cs rest : List Char} (h : blanks? cs = some rest) :
    rest.length < cs.length := by
  cases cs with
  | nil => simp [blanks?] at h
  | cons c cs =>
    simp only [blanks?] at h
    split at h
    · have := length_trimLeft_le cs
      simp only [Option.some.injEq] at h
      simp [← h]; omega
    · cases h

theorem length_lt_of_keyword? {word : String} {cs rest : List Char}
    (h : keyword? word cs = some rest) : rest.length < cs.length := by
  obtain ⟨mid, hmid, hrest⟩ := Option.bind_eq_some_iff.1 h
  have h₁ := length_eq_of_after? hmid
  have h₂ := length_lt_of_blanks? hrest
  omega

theorem length_lt_of_mark? {mark : Char} {cs rest : List Char} (h : mark? mark cs = some rest) :
    rest.length < cs.length := by
  have h₁ := length_eq_of_after? h
  have h₂ := length_trimLeft_le cs
  simp at h₁
  omega

/-! ## Optional parts -/

/-- The readings of an optional part: with it, if it is there, and without it. A later part that
cannot follow the first reading is tried after the second. -/
def optionally (part : List Char → Option (List Char)) (cs : List Char) :
    List (Bool × List Char) :=
  match part cs with
  | some rest => [(true, rest), (false, cs)]
  | none => [(false, cs)]

/-- The readings of an optional name. -/
def optionalName (part : List Char → Option (List Char × List Char)) (cs : List Char) :
    List (Option (List Char) × List Char) :=
  match part cs with
  | some (name, rest) => [(some name, rest), (none, cs)]
  | none => [(none, cs)]

/-- The name after a keyword that blanks precede. -/
def clause? (word : String) (cs : List Char) : Option (List Char × List Char) :=
  ((blanks? cs).bind (keyword? word)).bind ident?

theorem length_le_of_mem_optionally {part : List Char → Option (List Char)}
    (hpart : ∀ cs rest, part cs = some rest → rest.length < cs.length)
    {cs : List Char} {r : Bool × List Char} (h : r ∈ optionally part cs) :
    r.2.length ≤ cs.length := by
  simp only [optionally] at h
  split at h
  · next hp =>
    have := hpart _ _ hp
    simp only [List.mem_cons, List.not_mem_nil, or_false] at h
    rcases h with rfl | rfl <;> simp <;> omega
  · simp only [List.mem_cons, List.not_mem_nil, or_false] at h
    simp [h]

theorem length_lt_of_clause? {word : String} {cs name rest : List Char}
    (h : clause? word cs = some (name, rest)) : rest.length < cs.length := by
  obtain ⟨mid, hmid, hident⟩ := Option.bind_eq_some_iff.1 h
  obtain ⟨mid', hblank, hword⟩ := Option.bind_eq_some_iff.1 hmid
  have h₁ := length_lt_of_ident? hident
  have h₂ := length_lt_of_keyword? hword
  have h₃ := length_lt_of_blanks? hblank
  omega

theorem length_le_of_mem_optionalName {part : List Char → Option (List Char × List Char)}
    (hpart : ∀ cs name rest, part cs = some (name, rest) → rest.length < cs.length)
    {cs : List Char} {r : Option (List Char) × List Char} (h : r ∈ optionalName part cs) :
    r.2.length ≤ cs.length := by
  simp only [optionalName] at h
  split at h
  · next hp =>
    have := hpart _ _ _ hp
    simp only [List.mem_cons, List.not_mem_nil, or_false] at h
    rcases h with rfl | rfl <;> simp <;> omega
  · simp only [List.mem_cons, List.not_mem_nil, or_false] at h
    simp [h]

/-! ## Quoted literals -/

/-- Whether a character quotes a literal. -/
def isQuote (c : Char) : Bool :=
  c == '\'' || c == '"'

/-- The literal a text begins with: its contents and what follows it. -/
def literal? : List Char → Option (List Char × List Char)
  | [] => none
  | q :: cs => if isQuote q then splitFirst? [q] cs else none

/-- The contents of a text that is a literal and nothing else. -/
def literalContents? (cs : List Char) : Option (List Char) :=
  match literal? cs with
  | some (contents, []) => some contents
  | _ => none

theorem length_le_of_splitFirst? {mark cs before rest : List Char}
    (h : splitFirst? mark cs = some (before, rest)) : rest.length ≤ cs.length := by
  induction cs generalizing before with
  | nil => simp only [splitFirst?] at h; split at h <;> simp_all
  | cons c cs ih =>
    simp only [splitFirst?] at h
    split at h
    · next hafter =>
      have := length_eq_of_after? hafter
      simp only [Option.some.injEq, Prod.mk.injEq] at h
      rw [← h.2]; omega
    · obtain ⟨r, hr, heq⟩ := Option.map_eq_some_iff.1 h
      simp only [Prod.mk.injEq] at heq
      have : splitFirst? mark cs = some (r.1, rest) := by rw [hr, ← heq.2]
      have := ih this
      simp; omega

theorem length_lt_of_literal? {cs contents rest : List Char}
    (h : literal? cs = some (contents, rest)) : rest.length < cs.length := by
  cases cs with
  | nil => simp [literal?] at h
  | cons q cs =>
    simp only [literal?] at h
    split at h
    · have := length_le_of_splitFirst? h
      simp; omega
    · cases h

end DiagramForge.Grammar
