import DiagramForge.Proofs.Grammar.Assignments

/-!
# What is left of a text

A recogniser takes something from the front of a text, so what it leaves is an end of the text. As
with `Alike`, this is shown for each recogniser from the recognisers that it is made of. If a
recogniser takes a mark last, what it leaves stands behind the mark.
-/

namespace DiagramForge.Grammar

open Text

/-! ## Recognisers -/

/-- What a recogniser leaves, `left` of what it yields, is an end of the text. -/
def Leaves {γ : Type} (left : γ → List Char) (f : List Char → Option γ) : Prop :=
  ∀ cs r, f cs = some r → left r <:+ cs

section

variable {α γ : Type} {left : γ → List Char} {skip : List Char → Option (List Char)}
  {f : List Char → Option γ} {read : List Char → Option (α × List Char)}

theorem Leaves.afterSkip (hf : Leaves left f) (h : Leaves id skip) :
    Leaves left fun cs ↦ (skip cs).bind f := by
  intro cs r hr
  obtain ⟨rest, hrest, hr⟩ := Option.bind_eq_some_iff.mp hr
  exact (hf rest r hr).trans (h cs rest hrest)

theorem Leaves.bind {g : α × List Char → Option γ} (h : Leaves Prod.snd read)
    (hg : ∀ a, Leaves left fun cs ↦ g (a, cs)) : Leaves left fun cs ↦ (read cs).bind g := by
  intro cs r hr
  obtain ⟨⟨a, rest⟩, hrest, hr⟩ := Option.bind_eq_some_iff.mp hr
  exact (hg a rest r hr).trans (h cs (a, rest) hrest)

theorem Leaves.map {l : List Char → List Char} {b : List Char → γ} (h : Leaves l skip)
    (hb : ∀ rest, left (b rest) = l rest) : Leaves left fun cs ↦ (skip cs).map b := by
  intro cs r hr
  obtain ⟨rest, hrest, rfl⟩ := Option.map_eq_some_iff.mp hr
  rw [hb]
  exact h cs rest hrest

/-- A recogniser that takes a mark last leaves what follows the mark. -/
theorem Leaves.of_cons {mark : Char} (h : Leaves (fun r ↦ mark :: left r) f) : Leaves left f :=
  fun cs r hr ↦ (List.suffix_cons _ _).trans (h cs r hr)

theorem Leaves.afterBlanks (hf : Leaves left f) : Leaves left fun cs ↦ f (trimLeft cs) :=
  fun _ r hr ↦ (hf _ r hr).trans (List.dropWhile_suffix isBlank)

theorem Leaves.getD (hf : Leaves left f) (h : Leaves id skip) :
    Leaves left fun cs ↦ f ((skip cs).getD cs) := by
  intro cs r hr
  dsimp only at hr
  rcases hskip : skip cs with _ | rest
  · rw [hskip] at hr
    exact hf cs r hr
  · rw [hskip] at hr
    exact (hf rest r hr).trans (h cs rest hskip)

theorem Leaves.optionally {g : Bool × List Char → Option γ} (h : Leaves id skip)
    (hg : ∀ b, Leaves left fun cs ↦ g (b, cs)) :
    Leaves left fun cs ↦ (optionally skip cs).findSome? g := by
  intro cs r hr
  obtain ⟨⟨b, cs'⟩, hmem, hr⟩ := List.exists_of_findSome?_eq_some hr
  have hsuffix : cs' <:+ cs := by
    rw [Grammar.optionally] at hmem
    rcases hskip : skip cs with _ | rest
    · simp only [hskip, List.mem_singleton, Prod.mk.injEq] at hmem
      exact hmem.2 ▸ List.suffix_rfl
    · simp only [hskip, List.mem_cons, List.not_mem_nil, or_false, Prod.mk.injEq] at hmem
      rcases hmem with ⟨-, rfl⟩ | ⟨-, rfl⟩
      · exact h cs _ hskip
      · exact List.suffix_rfl
  exact (hg b cs' r hr).trans hsuffix

theorem Leaves.optionalName {part : List Char → Option (List Char × List Char)}
    {g : Option (List Char) × List Char → Option γ} (h : Leaves Prod.snd part)
    (hg : ∀ name, Leaves left fun cs ↦ g (name, cs)) :
    Leaves left fun cs ↦ (optionalName part cs).findSome? g := by
  intro cs r hr
  obtain ⟨⟨name, cs'⟩, hmem, hr⟩ := List.exists_of_findSome?_eq_some hr
  have hsuffix : cs' <:+ cs := by
    rw [Grammar.optionalName] at hmem
    rcases hpart : part cs with _ | ⟨name', rest⟩
    · simp only [hpart, List.mem_singleton, Prod.mk.injEq] at hmem
      exact hmem.2 ▸ List.suffix_rfl
    · simp only [hpart, List.mem_cons, List.not_mem_nil, or_false, Prod.mk.injEq] at hmem
      rcases hmem with ⟨-, rfl⟩ | ⟨-, rfl⟩
      · exact h cs (name', _) hpart
      · exact List.suffix_rfl
  exact (hg name cs' r hr).trans hsuffix

end

/-! ## Lexemes -/

theorem leaves_after? (start : List Char) : Leaves id (after? start) :=
  fun _ _ h ↦ suffix_of_after? h

theorem leaves_ident? : Leaves Prod.snd ident? :=
  fun _ _ h ↦ suffix_of_ident? h

theorem leaves_mark? (mark : Char) : Leaves (mark :: ·) (mark? mark) :=
  fun _ _ h ↦ suffix_of_mark? h

theorem leaves_blanks? : Leaves id blanks? := by
  intro cs rest h
  rcases cs with _ | ⟨c, cs⟩
  · cases h
  · rw [blanks?] at h
    split at h
    · cases h
      exact (List.dropWhile_suffix isBlank).trans (List.suffix_cons c cs)
    · cases h

theorem leaves_keyword? (word : String) : Leaves id (keyword? word) :=
  leaves_blanks?.afterSkip (leaves_after? word.toList)

theorem leaves_clause? (word : String) : Leaves Prod.snd (clause? word) :=
  leaves_ident?.afterSkip ((leaves_keyword? word).afterSkip leaves_blanks?)

theorem leaves_literal? : Leaves Prod.snd literal? := by
  intro cs r h
  rcases cs with _ | ⟨c, cs⟩
  · cases h
  · rw [literal?] at h
    split at h
    · exact (suffix_of_splitFirst? h).trans (List.suffix_cons c cs)
    · cases h

/-! ## Heads of declarations -/

theorem leaves_aliasHead? : Leaves (fun r ↦ '=' :: r.2) aliasHead? :=
  Leaves.bind (leaves_ident?.afterSkip (leaves_keyword? "type")) fun _ ↦
    (leaves_mark? '=').map fun _ ↦ rfl

theorem leaves_ruleHead? : Leaves (fun r ↦ ':' :: r.2) ruleHead? := by
  refine Leaves.optionally (leaves_keyword? "entry") fun _ ↦ ?_
  refine Leaves.optionally (leaves_keyword? "fragment") fun fragment ↦ ?_
  refine Leaves.bind leaves_ident? fun name ↦ ?_
  refine Leaves.optionalName (leaves_clause? "returns") fun returns ↦ ?_
  refine Leaves.optionalName (leaves_clause? "infers") fun _ ↦ ?_
  exact (leaves_mark? ':').map fun _ ↦ rfl

theorem leaves_terminalHead? : Leaves (fun r ↦ ':' :: r.2.2) terminalHead? := by
  refine Leaves.getD (Leaves.afterSkip ?_ (leaves_keyword? "terminal")) (leaves_keyword? "hidden")
  refine Leaves.optionally (leaves_keyword? "fragment") fun _ ↦ ?_
  refine Leaves.bind leaves_ident? fun name ↦ ?_
  refine Leaves.optionalName (leaves_clause? "returns") fun returns ↦ ?_
  exact (leaves_mark? ':').map fun _ ↦ rfl

theorem suffix_moreNames (cs : List Char) : (moreNames cs).2 <:+ cs := by
  fun_induction moreNames cs with
  | case1 cs name rest h names rest' heq ih =>
    have hname : Leaves Prod.snd fun cs ↦ (mark? ',' cs).bind fun rest ↦ ident? (trimLeft rest) :=
      leaves_ident?.afterBlanks.afterSkip (leaves_mark? ',').of_cons
    rw [heq] at ih
    exact ih.trans (hname cs (name, rest) h)
  | case2 => exact List.suffix_rfl

theorem leaves_names? : Leaves Prod.snd names? := by
  intro cs r h
  obtain ⟨⟨name, rest⟩, hident, rfl⟩ := Option.map_eq_some_iff.mp h
  exact (suffix_moreNames rest).trans (leaves_ident? cs _ hident)

theorem leaves_extends? : Leaves Prod.snd extends? :=
  leaves_names?.afterSkip ((leaves_keyword? "extends").afterSkip leaves_blanks?)

theorem leaves_interfaceHead? : Leaves (fun r ↦ '{' :: r.2.2) interfaceHead? := by
  refine Leaves.bind (leaves_ident?.afterSkip (leaves_keyword? "interface")) fun name ↦ ?_
  intro cs r h
  dsimp only at h
  split at h
  · next hextends =>
    obtain ⟨⟨names, rest⟩, hnames, hbrace⟩ := Option.bind_eq_some_iff.mp hextends
    obtain ⟨rest', hmark, rfl⟩ := Option.map_eq_some_iff.mp hbrace
    cases h
    exact (leaves_mark? '{' _ _ hmark).trans (leaves_extends? _ _ hnames)
  · obtain ⟨rest, hmark, rfl⟩ := Option.map_eq_some_iff.mp h
    exact leaves_mark? '{' _ _ hmark

/-! ## Assignments -/

theorem suffix_of_value? {cs rest : List Char} {v : AssignedValue}
    (h : value? cs = some (v, rest)) : rest <:+ cs := by
  unfold value? at h
  split at h
  · exact (List.suffix_cons _ _).trans ((suffix_of_reference? h).trans (List.suffix_cons _ _))
  · cases h
    exact List.suffix_cons _ _
  · split at h
    · next hliteral =>
      cases h
      exact leaves_literal? _ _ hliteral
    · obtain ⟨⟨name, rest'⟩, hident, heq⟩ := Option.map_eq_some_iff.mp h
      cases heq
      exact suffix_of_ident? hident

theorem suffix_and_length_of_assignment? {cs rest : List Char} {a : Assignment}
    (h : assignment? cs = some (a, rest)) : rest <:+ cs ∧ rest.length < cs.length := by
  rw [assignment?_eq] at h
  obtain ⟨⟨head, mid⟩, hhead, h⟩ := Option.bind_eq_some_iff.mp h
  obtain ⟨⟨value, rest'⟩, hvalue, heq⟩ := Option.map_eq_some_iff.mp h
  cases heq
  have hrest := suffix_of_value? hvalue
  obtain ⟨hmid, hlt⟩ := suffix_of_assignmentHead? hhead
  exact ⟨hrest.trans hmid, Nat.lt_of_le_of_lt hrest.length_le hlt⟩

theorem suffix_of_assignment? {cs rest : List Char} {a : Assignment}
    (h : assignment? cs = some (a, rest)) : rest <:+ cs :=
  (suffix_and_length_of_assignment? h).1

theorem length_lt_of_assignment? {cs rest : List Char} {a : Assignment}
    (h : assignment? cs = some (a, rest)) : rest.length < cs.length :=
  (suffix_and_length_of_assignment? h).2

/-! ## Actions -/

theorem leaves_actionBody? : Leaves (fun r ↦ '}' :: r.2) actionBody? := by
  refine Leaves.bind leaves_ident? fun type ↦ ?_
  have hcurrent : Leaves Prod.snd currentFeature? := by
    refine Leaves.bind (leaves_ident?.afterBlanks.afterSkip (leaves_mark? '.').of_cons) fun name ↦ ?_
    refine Leaves.afterBlanks (f := fun cs ↦ (actionOperator? cs).bind fun r ↦
      (after? "current".toList (trimLeft r.2)).map fun rest ↦
        ((String.ofList name, r.1), rest)) ?_
    refine Leaves.bind ?_ fun appends ↦ ?_
    case refine_2 =>
      dsimp only
      exact (leaves_after? _).afterBlanks.map fun _ ↦ rfl
    intro cs r h
    rw [actionOperator?] at h
    split at h
    next hafter =>
      cases h
      exact suffix_of_after? hafter
    next =>
      obtain ⟨rest, hafter, rfl⟩ := Option.map_eq_some_iff.mp h
      exact suffix_of_after? hafter
  intro cs r h
  dsimp only at h
  split at h
  · next hfeature =>
    obtain ⟨⟨feature, rest⟩, hcurrent', hbrace⟩ := Option.bind_eq_some_iff.mp hfeature
    obtain ⟨rest', hmark, rfl⟩ := Option.map_eq_some_iff.mp hbrace
    cases h
    exact (leaves_mark? '}' _ _ hmark).trans (hcurrent _ _ hcurrent')
  · obtain ⟨rest, hmark, rfl⟩ := Option.map_eq_some_iff.mp h
    exact leaves_mark? '}' _ _ hmark

/-- An action stands between its braces. -/
theorem exists_of_action? {cs rest : List Char} {a : Action} (h : action? cs = some (a, rest)) :
    ∃ inside, cs = '{' :: (inside ++ '}' :: rest) := by
  have hinfer : Leaves (fun r : Action × List Char ↦ '}' :: r.2) fun cs ↦
      (optionally (keyword? "infer") (trimLeft cs)).findSome? fun r ↦ actionBody? r.2 :=
    (Leaves.optionally (leaves_keyword? "infer") fun _ ↦ leaves_actionBody?).afterBlanks
  obtain ⟨mid, hmid, h⟩ := Option.bind_eq_some_iff.mp h
  obtain ⟨inside, hinside⟩ := hinfer mid _ h
  refine ⟨inside, ?_⟩
  rw [eq_append_of_after? hmid, ← hinside]
  rfl

theorem length_lt_of_action? {cs after : List Char} {a : Action}
    (h : action? cs = some (a, after)) : after.length < cs.length := by
  obtain ⟨inside, rfl⟩ := exists_of_action? h
  simp
  omega

/-! ## Searches -/

/-- A search for what a recogniser reads goes on behind what is read, and by one character where
nothing is. -/
theorem search_cases {α : Type} {read : List Char → Option (α × List Char)}
    (hlt : ∀ {cs a after}, read cs = some (a, after) → after.length < cs.length)
    {p : List Char → Prop} (nil : p [])
    (some : ∀ cs a after, read cs = .some (a, after) → p after → p cs)
    (none : ∀ d cs, read (d :: cs) = .none → p cs → p (d :: cs)) (cs : List Char) : p cs := by
  induction hlen : cs.length using Nat.strongRecOn generalizing cs with
  | ind len ih =>
    rcases hread : read cs with _ | ⟨a, after⟩
    · rcases cs with _ | ⟨d, cs⟩
      · exact nil
      · exact none d cs hread (ih cs.length (by simp [← hlen]) cs rfl)
    · exact some cs a after hread (ih after.length (hlen ▸ hlt hread) after rfl)

/-- The parts of a body are read from the front: an action that the body begins with, or a character.
-/
theorem bodyParts_cases {p : List Char → Prop} (nil : p [])
    (action : ∀ cs a after, action? cs = some (a, after) → p after → p cs)
    (char : ∀ d cs, action? (d :: cs) = none → p cs → p (d :: cs)) (cs : List Char) : p cs :=
  search_cases length_lt_of_action? nil action char cs

/-- Assignments are looked for behind an assignment that is read, and behind a character where none
is. -/
theorem occurrences_cases {p : List Char → Prop} (nil : p [])
    (some : ∀ cs a after, assignment? cs = .some (a, after) → p after → p cs)
    (none : ∀ d cs, assignment? (d :: cs) = .none → p cs → p (d :: cs)) (cs : List Char) : p cs :=
  search_cases length_lt_of_assignment? nil some none cs

end DiagramForge.Grammar
