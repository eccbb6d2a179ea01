import DiagramForge.Grammar.Inference
import DiagramForge.Proofs.Grammar.Interfaces
import DiagramForge.Proofs.Grammar.Lexing

/-!
# Texts that agree up to a place

On two texts that agree up to a place a recogniser does the same as long as it stays before the
place: it is `Alike` there. What it leaves of the texts is related as the texts are, or in another
way if it may come to the place.

Likeness is closed under the ways in which recognisers are put together, so for each recogniser it is
shown from the recognisers that it is made of. Where a recogniser ends with a mark, what is left
behind the mark depends on the place, so the likeness of the mark is an assumption there.
-/

namespace DiagramForge.Grammar

open Text

/-! ## Likeness -/

/-- Two texts agree up to a place, with `e` and `e'` behind it. -/
def Agree (e e' cs cs' : List Char) : Prop :=
  ∃ u, cs = u ++ e ∧ cs' = u ++ e'

/-- On related texts a recogniser yields nothing, or related things. -/
def Alike {γ : Type} (T : List Char → List Char → Prop) (R : γ → γ → Prop)
    (f : List Char → Option γ) : Prop :=
  ∀ cs cs', T cs cs' → Option.Rel R (f cs) (f cs')

/-- The same is read, and what comes with it is related. -/
def SameRead {α β : Type} (R : β → β → Prop) (r r' : α × β) : Prop :=
  r.1 = r'.1 ∧ R r.2 r'.2

section

variable {α β γ : Type} {S T : List Char → List Char → Prop} {R : γ → γ → Prop}
  {skip : List Char → Option (List Char)} {f : List Char → Option γ}

theorem Alike.afterSkip (hf : Alike T R f) (h : Alike S T skip) :
    Alike S R fun cs ↦ (skip cs).bind f := by
  intro cs cs' hcs
  dsimp only
  generalize skip cs = o, skip cs' = o', h cs cs' hcs = ho
  cases ho with
  | none => exact .none
  | some hrest => exact hf _ _ hrest

theorem Alike.bind {read : List Char → Option (α × List Char)} {g : α × List Char → Option γ}
    (h : Alike S (SameRead T) read) (hg : ∀ a, Alike T R fun cs ↦ g (a, cs)) :
    Alike S R fun cs ↦ (read cs).bind g := by
  intro cs cs' hcs
  dsimp only
  generalize read cs = o, read cs' = o', h cs cs' hcs = ho
  cases ho with
  | none => exact .none
  | @some r r' hrest =>
    obtain ⟨a, rest⟩ := r
    obtain ⟨a', rest'⟩ := r'
    obtain ⟨rfl, hrest⟩ := hrest
    exact hg a rest rest' hrest

theorem Alike.map {Q : β → β → Prop} {b : γ → β} (h : Alike T R f)
    (hb : ∀ r r', R r r' → Q (b r) (b r')) : Alike T Q fun cs ↦ (f cs).map b := by
  intro cs cs' hcs
  dsimp only
  generalize f cs = o, f cs' = o', h cs cs' hcs = ho
  cases ho with
  | none => exact .none
  | some hr => exact .some (hb _ _ hr)

/-- A recogniser behind something that may be there. -/
theorem Alike.getD (hf : Alike T R f) (h : Alike T T skip) :
    Alike T R fun cs ↦ f ((skip cs).getD cs) := by
  intro cs cs' hcs
  dsimp only
  generalize skip cs = o, skip cs' = o', h cs cs' hcs = ho
  cases ho with
  | none => exact hf cs cs' hcs
  | some hrest => exact hf _ _ hrest

theorem findSome?_pair {δ : Type} (h : δ → Option γ) (a b : δ) :
    [a, b].findSome? h = (h a).or (h b) := by
  rw [List.findSome?_cons, List.findSome?_singleton]
  cases h a <;> rfl

theorem rel_or {o o' p p' : Option γ} (ho : Option.Rel R o o') (hp : Option.Rel R p p') :
    Option.Rel R (o.or p) (o'.or p') := by
  cases ho with
  | none => exact hp
  | some hr => exact .some hr

/-- The first reading of an optional part that something can follow. -/
theorem Alike.optionally {g : Bool × List Char → Option γ} (h : Alike T T skip)
    (hg : ∀ b, Alike T R fun cs ↦ g (b, cs)) :
    Alike T R fun cs ↦ (optionally skip cs).findSome? g := by
  intro cs cs' hcs
  dsimp only [Grammar.optionally]
  generalize skip cs = o, skip cs' = o', h cs cs' hcs = ho
  cases ho with
  | none =>
    dsimp only
    rw [List.findSome?_singleton, List.findSome?_singleton]
    exact hg false cs cs' hcs
  | some hrest =>
    dsimp only
    rw [findSome?_pair, findSome?_pair]
    exact rel_or (hg true _ _ hrest) (hg false cs cs' hcs)

/-- The first reading of an optional name that something can follow. -/
theorem Alike.optionalName {part : List Char → Option (List Char × List Char)}
    {g : Option (List Char) × List Char → Option γ} (h : Alike T (SameRead T) part)
    (hg : ∀ name, Alike T R fun cs ↦ g (name, cs)) :
    Alike T R fun cs ↦ (optionalName part cs).findSome? g := by
  intro cs cs' hcs
  dsimp only [Grammar.optionalName]
  generalize part cs = o, part cs' = o', h cs cs' hcs = ho
  cases ho with
  | none =>
    dsimp only
    rw [List.findSome?_singleton, List.findSome?_singleton]
    exact hg none cs cs' hcs
  | @some r r' hrest =>
    obtain ⟨name, rest⟩ := r
    obtain ⟨name', rest'⟩ := r'
    obtain ⟨rfl, hrest⟩ := hrest
    dsimp only
    rw [findSome?_pair, findSome?_pair]
    exact rel_or (hg (some name) rest rest' hrest) (hg none cs cs' hcs)

/-- Nothing is read of one text if and only if nothing is read of a related one. -/
theorem Alike.eq_none_iff (h : Alike T R f) {cs cs' : List Char} (hcs : T cs cs') :
    f cs = none ↔ f cs' = none := by
  generalize f cs = o, f cs' = o', h cs cs' hcs = ho
  cases ho <;> simp

theorem Alike.map_eq_none {δ : Type} (h : Alike T R f) {cs cs' : List Char} (hcs : T cs cs')
    {b b' : γ → δ} (hnone : (f cs).map b = none) : (f cs').map b' = none := by
  rw [Option.map_eq_none_iff] at hnone ⊢
  exact (h.eq_none_iff hcs).mp hnone

/-- What is read of one text is read of a related one. -/
theorem Alike.exists_of_eq_some (h : Alike T R f) {cs cs' : List Char} (hcs : T cs cs') {r : γ}
    (hr : f cs = some r) : ∃ r', f cs' = some r' ∧ R r r' := by
  have hrel := h cs cs' hcs
  rw [hr] at hrel
  generalize f cs' = o at hrel
  cases hrel with
  | some hr' => exact ⟨_, rfl, hr'⟩

end

/-! ## Lexemes -/

/-- A text that continues neither blanks nor a name: it is empty, or it begins with a mark. -/
def StartsMark (cs : List Char) : Prop :=
  ∀ c rest, cs = c :: rest → isBlank c = false ∧ isIdentRest c = false

theorem startsMark_cons {c : Char} (hblank : isBlank c = false) (hrest : isIdentRest c = false)
    (cs : List Char) : StartsMark (c :: cs) := by
  rintro d rest heq
  obtain ⟨rfl, -⟩ := List.cons.inj heq
  exact ⟨hblank, hrest⟩

theorem startsMark_nil : StartsMark [] :=
  fun _ _ h ↦ nomatch h

theorem StartsMark.head?_ne {cs : List Char} (h : StartsMark cs) {c : Char}
    (hc : isIdentRest c = true) : cs.head? ≠ some c := by
  rcases cs with _ | ⟨d, cs⟩
  · simp
  · rintro heq
    obtain rfl := Option.some.inj heq
    rw [(h d cs rfl).2] at hc
    cases hc

/-- What a test takes from a text ends at a character that fails it. -/
theorem takeWhile_append_of_head {p : Char → Bool} {e : List Char}
    (he : ∀ c rest, e = c :: rest → p c = false) (u : List Char) :
    (u ++ e).takeWhile p = u.takeWhile p ∧ (u ++ e).dropWhile p = u.dropWhile p ++ e := by
  induction u with
  | nil =>
    rcases e with _ | ⟨c, rest⟩
    · simp
    · simp [he c rest rfl]
  | cons d u ih =>
    by_cases hd : p d = true
    · simp [hd, ih.1, ih.2]
    · simp [hd]

theorem trimLeft_append_mark {e : List Char} (he : StartsMark e) (u : List Char) :
    trimLeft (u ++ e) = trimLeft u ++ e :=
  (takeWhile_append_of_head (fun c rest h ↦ (he c rest h).1) u).2

theorem after?_append_of_head {start e : List Char} (he : ∀ c ∈ start, e.head? ≠ some c)
    (u : List Char) : after? start (u ++ e) = (after? start u).map (· ++ e) := by
  induction start generalizing u with
  | nil => rfl
  | cons c start ih =>
    rw [List.forall_mem_cons] at he
    rcases u with _ | ⟨d, u⟩
    · rcases e with _ | ⟨d, e⟩
      · rfl
      · refine if_neg ?_
        rw [beq_iff_eq]
        rintro rfl
        exact he.1 rfl
    · rw [List.cons_append, after?, after?]
      split
      · exact ih he.2 u
      · rfl

/-- Before a mark a name is read as at the end of a text. -/
theorem ident?_append_mark {e : List Char} (he : StartsMark e) (u : List Char) :
    ident? (u ++ e) = (ident? u).map fun r ↦ (r.1, r.2 ++ e) := by
  rcases u with _ | ⟨c, u⟩
  · rcases e with _ | ⟨c, e⟩
    · rfl
    · refine if_neg fun hstart ↦ ?_
      have hrest := isIdentRest_of_isIdentStart hstart
      rw [(he c e rfl).2] at hrest
      cases hrest
  · obtain ⟨htake, hdrop⟩ := takeWhile_append_of_head (fun c rest h ↦ (he c rest h).2) u
    rw [List.cons_append, ident?, ident?, htake, hdrop]
    split <;> rfl

section

variable {γ : Type} {e e' : List Char} {R : γ → γ → Prop}
  {Q : List Char → List Char → Prop} {f : List Char → Option γ}

theorem agree_append (e e' u : List Char) : Agree e e' (u ++ e) (u ++ e') :=
  ⟨u, rfl, rfl⟩

/-- A recogniser does before each of two ends what it does at the end of a text. -/
theorem alike_of_eq (add : List Char → γ → γ) (h : ∀ u, f (u ++ e) = (f u).map (add e))
    (h' : ∀ u, f (u ++ e') = (f u).map (add e')) (hadd : ∀ r, R (add e r) (add e' r)) :
    Alike (Agree e e') R f := by
  rintro _ _ ⟨u, rfl, rfl⟩
  rw [h, h']
  cases f u with
  | none => exact .none
  | some r => exact .some (hadd r)

theorem Alike.afterBlanks (hf : Alike (Agree e e') R f) (he : StartsMark e)
    (he' : StartsMark e') : Alike (Agree e e') R fun cs ↦ f (trimLeft cs) := by
  rintro _ _ ⟨u, rfl, rfl⟩
  dsimp only
  rw [trimLeft_append_mark he, trimLeft_append_mark he']
  exact hf _ _ (agree_append e e' _)

theorem alike_after? {start : List Char} (h : ∀ c ∈ start, e.head? ≠ some c)
    (h' : ∀ c ∈ start, e'.head? ≠ some c) :
    Alike (Agree e e') (Agree e e') (after? start) :=
  alike_of_eq (fun more r ↦ r ++ more) (after?_append_of_head h) (after?_append_of_head h')
    (agree_append e e')

variable (he : StartsMark e) (he' : StartsMark e')

include he he'

theorem alike_ident? : Alike (Agree e e') (SameRead (Agree e e')) ident? :=
  alike_of_eq (fun more r ↦ (r.1, r.2 ++ more)) (ident?_append_mark he)
    (ident?_append_mark he') fun r ↦ ⟨rfl, agree_append e e' r.2⟩

theorem alike_blanks? : Alike (Agree e e') (Agree e e') blanks? := by
  have hread : ∀ {e}, StartsMark e → ∀ u, blanks? (u ++ e) = (blanks? u).map (· ++ e) := by
    rintro e he (_ | ⟨c, u⟩)
    · rcases e with _ | ⟨c, e⟩
      · rfl
      · simp [blanks?, (he c e rfl).1]
    · rw [List.cons_append, blanks?, blanks?, trimLeft_append_mark he]
      split <;> rfl
  exact alike_of_eq (fun more r ↦ r ++ more) (hread he) (hread he') (agree_append e e')

/-- The characters of a word continue names, so neither end has a part in it. -/
theorem alike_word? {word : List Char} (hword : word.all isIdentRest = true) :
    Alike (Agree e e') (Agree e e') (after? word) := by
  rw [List.all_eq_true] at hword
  exact alike_after? (fun c hc ↦ he.head?_ne (hword c hc)) fun c hc ↦ he'.head?_ne (hword c hc)

theorem alike_keyword? {word : String} (hword : word.toList.all isIdentRest = true) :
    Alike (Agree e e') (Agree e e') (keyword? word) :=
  (alike_blanks? he he').afterSkip (alike_word? he he' hword)

theorem alike_clause? {word : String} (hword : word.toList.all isIdentRest = true) :
    Alike (Agree e e') (SameRead (Agree e e')) (clause? word) :=
  (alike_ident? he he').afterSkip ((alike_keyword? he he' hword).afterSkip (alike_blanks? he he'))

/-- A mark that neither end begins with. -/
theorem alike_mark? {mark : Char} (h : e.head? ≠ some mark) (h' : e'.head? ≠ some mark) :
    Alike (Agree e e') (Agree e e') (mark? mark) :=
  (alike_after? (List.forall_mem_singleton.mpr h) (List.forall_mem_singleton.mpr h')).afterBlanks
    he he'

end

/-! ## Heads of declarations -/

section

variable {e e' : List Char} {R : List Char → List Char → Prop} (he : StartsMark e)
  (he' : StartsMark e')

include he he'

theorem alike_headerHead? : Alike (Agree e e') (SameRead (Agree e e'))
    fun cs ↦ (keyword? "grammar" cs).bind ident? :=
  (alike_ident? he he').afterSkip (alike_keyword? he he' (by decide))

theorem alike_ruleHead? (hmark : Alike (Agree e e') R (mark? ':')) :
    Alike (Agree e e') (SameRead R) ruleHead? := by
  refine Alike.optionally (alike_keyword? he he' (by decide)) fun _ ↦ ?_
  refine Alike.optionally (alike_keyword? he he' (by decide)) fun fragment ↦ ?_
  refine Alike.bind (alike_ident? he he') fun name ↦ ?_
  refine Alike.optionalName (alike_clause? he he' (by decide)) fun returns ↦ ?_
  refine Alike.optionalName (alike_clause? he he' (by decide)) fun _ ↦ ?_
  exact hmark.map fun r r' h ↦ ⟨rfl, h⟩

theorem alike_terminalHead? (hmark : Alike (Agree e e') R (mark? ':')) :
    Alike (Agree e e') (SameRead (SameRead R)) terminalHead? := by
  refine Alike.getD (Alike.afterSkip ?_ (alike_keyword? he he' (by decide)))
    (alike_keyword? he he' (by decide))
  refine Alike.optionally (alike_keyword? he he' (by decide)) fun _ ↦ ?_
  refine Alike.bind (alike_ident? he he') fun name ↦ ?_
  refine Alike.optionalName (alike_clause? he he' (by decide)) fun returns ↦ ?_
  exact hmark.map fun r r' h ↦ ⟨rfl, rfl, h⟩

variable (hcomma : e.head? ≠ some ',') (hcomma' : e'.head? ≠ some ',')

include hcomma hcomma'

theorem alike_names? : Alike (Agree e e') (SameRead (Agree e e')) names? := by
  have hnext : ∀ {e}, StartsMark e → e.head? ≠ some ',' → ∀ u,
      ((mark? ',' (u ++ e)).bind fun rest ↦ ident? (trimLeft rest)) =
        ((mark? ',' u).bind fun rest ↦ ident? (trimLeft rest)).map fun r ↦ (r.1, r.2 ++ e) := by
    intro e he hcomma u
    have hmark : mark? ',' (u ++ e) = (mark? ',' u).map (· ++ e) := by
      rw [mark?, trimLeft_append_mark he,
        after?_append_of_head (List.forall_mem_singleton.mpr hcomma), mark?]
    rw [hmark]
    rcases mark? ',' u with _ | rest
    · rfl
    · rw [Option.map_some, Option.bind_some, trimLeft_append_mark he, ident?_append_mark he]
      rfl
  have hmore : ∀ {e}, StartsMark e → e.head? ≠ some ',' → ∀ u,
      moreNames (u ++ e) = ((moreNames u).1, (moreNames u).2 ++ e) := by
    intro e he hcomma u
    have hnext := hnext he hcomma
    fun_induction moreNames u with
    | case1 u name rest h names rest' heq ih =>
      have hread := hnext u
      rw [h] at hread
      rw [Written.moreNames_of_some hread, ih, heq]
    | case2 u h =>
      have hread := hnext u
      rw [h] at hread
      exact Written.moreNames_of_none hread
  have hread : ∀ {e}, StartsMark e → e.head? ≠ some ',' → ∀ u,
      names? (u ++ e) = (names? u).map fun r ↦ (r.1, r.2 ++ e) := by
    intro e he hcomma u
    rw [names?, names?, ident?_append_mark he]
    rcases ident? u with _ | r
    · rfl
    · simp only [Option.map_some, hmore he hcomma]
  exact alike_of_eq (fun more r ↦ (r.1, r.2 ++ more)) (hread he hcomma)
    (hread he' hcomma') fun r ↦ ⟨rfl, agree_append e e' r.2⟩

theorem alike_extends? : Alike (Agree e e') (SameRead (Agree e e')) extends? :=
  (alike_names? he he' hcomma hcomma').afterSkip
    ((alike_keyword? he he' (by decide)).afterSkip (alike_blanks? he he'))

theorem alike_interfaceHead? (hmark : Alike (Agree e e') R (mark? '{')) :
    Alike (Agree e e') (SameRead (SameRead R)) interfaceHead? := by
  refine Alike.bind ((alike_ident? he he').afterSkip (alike_keyword? he he' (by decide)))
    fun name ↦ ?_
  have hsupers : Alike (Agree e e') (SameRead (SameRead R)) fun cs ↦
      (extends? cs).bind fun r ↦
        (mark? '{' r.2).map fun rest ↦ (String.ofList name, r.1, rest) := by
    refine Alike.bind (alike_extends? he he' hcomma hcomma') fun names ↦ ?_
    dsimp only
    exact hmark.map fun r r' h ↦ ⟨rfl, rfl, h⟩
  have hplain : Alike (Agree e e') (SameRead (SameRead R)) fun cs ↦
      (mark? '{' cs).map fun rest ↦ (String.ofList name, ([] : List String), rest) :=
    hmark.map fun r r' h ↦ ⟨rfl, rfl, h⟩
  intro cs cs' hcs
  have hfirst := hsupers cs cs' hcs
  dsimp only at hfirst ⊢
  generalize (extends? cs).bind _ = o, (extends? cs').bind _ = o' at hfirst ⊢
  cases hfirst with
  | none => exact hplain cs cs' hcs
  | some h => exact .some h

end

/-! ## Actions -/

section

variable {e e' : List Char} {R : List Char → List Char → Prop} (he : StartsMark e)
  (he' : StartsMark e') (hmarks : ∀ c ∈ ['{', '.', '+', '='], e.head? ≠ some c)
  (hmarks' : ∀ c ∈ ['{', '.', '+', '='], e'.head? ≠ some c)

include he he' hmarks hmarks'

theorem alike_currentFeature? : Alike (Agree e e') (SameRead (Agree e e')) currentFeature? := by
  have hafter : ∀ start : List Char, start ⊆ ['{', '.', '+', '='] →
      Alike (Agree e e') (Agree e e') (after? start) := fun start h ↦
    alike_after? (fun c hc ↦ hmarks c (h hc)) fun c hc ↦ hmarks' c (h hc)
  have hoperator : Alike (Agree e e') (SameRead (Agree e e')) actionOperator? := by
    have hset : Alike (Agree e e') (SameRead (Agree e e')) fun cs ↦
        (after? ['='] cs).map (false, ·) :=
      (hafter ['='] (by simp)).map fun r r' h ↦ ⟨rfl, h⟩
    intro cs cs' hcs
    have hfirst := hafter ['+', '='] (by simp) cs cs' hcs
    rw [actionOperator?, actionOperator?]
    generalize after? ['+', '='] cs = o, after? ['+', '='] cs' = o' at hfirst ⊢
    cases hfirst with
    | none => exact hset cs cs' hcs
    | some h => exact .some ⟨rfl, h⟩
  have hname : Alike (Agree e e') (SameRead (Agree e e')) fun cs ↦
      (mark? '.' cs).bind fun cs ↦ ident? (trimLeft cs) :=
    ((alike_ident? he he').afterBlanks he he').afterSkip
      ((hafter ['.'] (by simp)).afterBlanks he he')
  refine Alike.bind hname fun name ↦ ?_
  have hvalue : Alike (Agree e e') (SameRead (Agree e e')) fun cs ↦
      (actionOperator? cs).bind fun r ↦
        (after? "current".toList (trimLeft r.2)).map fun rest ↦
          ((String.ofList name, r.1), rest) := by
    refine Alike.bind hoperator fun appends ↦ ?_
    dsimp only
    exact ((alike_word? he he' (by decide)).afterBlanks he he').map fun r r' h ↦ ⟨rfl, h⟩
  exact hvalue.afterBlanks he he'

theorem alike_actionBody? (hmark : Alike (Agree e e') R (mark? '}')) :
    Alike (Agree e e') (SameRead R) actionBody? := by
  refine Alike.bind (alike_ident? he he') fun type ↦ ?_
  have hfeature : Alike (Agree e e') (SameRead R) fun cs ↦
      (currentFeature? cs).bind fun r ↦
        (mark? '}' r.2).map fun rest ↦ ((⟨String.ofList type, some r.1⟩ : Action), rest) := by
    refine Alike.bind (alike_currentFeature? he he' hmarks hmarks') fun feature ↦ ?_
    dsimp only
    exact hmark.map fun r r' h ↦ ⟨rfl, h⟩
  have hplain : Alike (Agree e e') (SameRead R) fun cs ↦
      (mark? '}' cs).map fun rest ↦ ((⟨String.ofList type, none⟩ : Action), rest) :=
    hmark.map fun r r' h ↦ ⟨rfl, h⟩
  intro cs cs' hcs
  have hfirst := hfeature cs cs' hcs
  dsimp only at hfirst ⊢
  generalize (currentFeature? cs).bind _ = o, (currentFeature? cs').bind _ = o' at hfirst ⊢
  cases hfirst with
  | none => exact hplain cs cs' hcs
  | some h => exact .some h

theorem alike_action? (hmark : Alike (Agree e e') R (mark? '}')) :
    Alike (Agree e e') (SameRead R) action? := by
  have hinferred : Alike (Agree e e') (SameRead R) fun cs ↦
      (optionally (keyword? "infer") cs).findSome? fun r ↦ actionBody? r.2 := by
    refine Alike.optionally (alike_keyword? he he' (by decide)) fun _ ↦ ?_
    exact alike_actionBody? he he' hmarks hmarks' hmark
  refine (hinferred.afterBlanks he he').afterSkip (alike_after? ?_ ?_)
  · exact List.forall_mem_singleton.mpr (hmarks '{' (by simp))
  · exact List.forall_mem_singleton.mpr (hmarks' _ (by simp))

end

end DiagramForge.Grammar
