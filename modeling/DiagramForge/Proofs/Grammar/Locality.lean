import DiagramForge.Proofs.Grammar.Agreement

/-!
# What stands before a quote

Most recognisers never read a quote. Such a recogniser does to a text that a quote follows what it
does to the text alone: it is `Local`. So whatever stands behind the quote, be it the contents of a
literal, cannot change what it reads. The only recognisers that are not local are those that read
literals.

At the end of a text and before a quote there, two texts agree up to a place. So a recogniser is local
if it does alike on such texts.
-/

namespace DiagramForge.Grammar

open Text

/-! ## Characters before a quote -/

/-- There is no quote in a text. -/
def QuoteFree (cs : List Char) : Prop :=
  ∀ d ∈ cs, isQuote d = false

instance (cs : List Char) : Decidable (QuoteFree cs) :=
  List.decidableBAll (fun d ↦ isQuote d = false) cs

theorem QuoteFree.not_mem {cs : List Char} (h : QuoteFree cs) {d : Char} (hd : isQuote d = true) :
    d ∉ cs :=
  fun hmem ↦ ne_of_class hd (h d hmem) rfl

section Quote

variable {q : Char}

theorem eq_of_isQuote (h : isQuote q = true) : q = '\'' ∨ q = '"' := by
  rwa [isQuote, Bool.or_eq_true, beq_iff_eq, beq_iff_eq] at h

theorem isBlank_of_isQuote (h : isQuote q = true) : isBlank q = false := by
  rcases eq_of_isQuote h with rfl | rfl <;> decide

theorem isIdentRest_of_isQuote (h : isQuote q = true) : isIdentRest q = false := by
  rcases eq_of_isQuote h with rfl | rfl <;> decide

theorem isIdentStart_of_isQuote (h : isQuote q = true) : isIdentStart q = false := by
  rcases eq_of_isQuote h with rfl | rfl <;> decide

theorem startsMark_of_isQuote (h : isQuote q = true) (z : List Char) : StartsMark (q :: z) :=
  startsMark_cons (isBlank_of_isQuote h) (isIdentRest_of_isQuote h) z

theorem head?_ne_of_isQuote (hq : isQuote q = true) {d : Char} (hd : isQuote d = false)
    (z : List Char) : (q :: z).head? ≠ some d :=
  fun heq ↦ ne_of_class hq hd (Option.some.inj heq)

theorem trimLeft_append_quote (hq : isQuote q = true) (u z : List Char) :
    trimLeft (u ++ q :: z) = trimLeft u ++ q :: z :=
  trimLeft_append_mark (startsMark_of_isQuote hq z) u

end Quote

/-! ## Local recognisers -/

/-- Before a quote a recogniser yields what it yields at the end of a text, and what follows there is
added to the rest of the text. -/
def LocalBy {γ : Type} (add : List Char → γ → γ) (f : List Char → Option γ) : Prop :=
  ∀ u q z, isQuote q = true → f (u ++ q :: z) = (f u).map (add (q :: z))

/-- Before a quote a recogniser passes over what it passes over at the end of a text. -/
abbrev LocalSkip (f : List Char → Option (List Char)) : Prop :=
  LocalBy (fun more rest ↦ rest ++ more) f

/-- Before a quote a recogniser reads what it reads at the end of a text. -/
abbrev Local {α : Type} (f : List Char → Option (α × List Char)) : Prop :=
  LocalBy (fun more r ↦ (r.1, r.2 ++ more)) f

section Local

variable {α β γ : Type}

/-- A recogniser that does alike at the end of a text and with `e` there adds `e` to what is left. -/
theorem eq_map_of_alike {e : List Char} {add : γ → γ} {f : List Char → Option γ}
    {R : γ → γ → Prop} (h : Alike (Agree [] e) R f) (hadd : ∀ r r', R r r' → r' = add r)
    (u : List Char) : f (u ++ e) = (f u).map add := by
  have hrel := h u (u ++ e) ⟨u, (List.append_nil u).symm, rfl⟩
  generalize f u = o, f (u ++ e) = o' at hrel
  cases hrel with
  | none => rfl
  | some hr => rw [hadd _ _ hr, Option.map_some]

/-- A recogniser is local if it does alike at the end of a text and before a quote there. -/
theorem LocalBy.of_alike {add : List Char → γ → γ} {f : List Char → Option γ}
    {R : List Char → γ → γ → Prop} (h : ∀ e, StartsMark e →
      (∀ d, isQuote d = false → e.head? ≠ some d) → Alike (Agree [] e) (R e) f)
    (hadd : ∀ e r r', R e r r' → r' = add e r) : LocalBy add f :=
  fun u q z hq ↦ eq_map_of_alike (h (q :: z) (startsMark_of_isQuote hq z)
    fun _ hd ↦ head?_ne_of_isQuote hq hd z) (hadd (q :: z)) u

theorem eq_append_of_agree {e rest rest' : List Char} (h : Agree [] e rest rest') :
    rest' = rest ++ e := by
  obtain ⟨u, rfl, rfl⟩ := h
  rw [List.append_nil]

/-- A recogniser that reads alike at the end of a text and with `e` there leaves `e` as well. -/
theorem read_append_of_alike {e : List Char} {read : List Char → Option (α × List Char)}
    (h : Alike (Agree [] e) (SameRead (Agree [] e)) read) (u : List Char) :
    read (u ++ e) = (read u).map fun r ↦ (r.1, r.2 ++ e) := by
  refine eq_map_of_alike h (fun r r' hr ↦ ?_) u
  exact Prod.ext hr.1.symm (eq_append_of_agree hr.2)

theorem LocalSkip.of_alike {skip : List Char → Option (List Char)}
    (h : ∀ e, StartsMark e → (∀ d, isQuote d = false → e.head? ≠ some d) →
      Alike (Agree [] e) (Agree [] e) skip) : LocalSkip skip :=
  LocalBy.of_alike h fun _ _ _ ↦ eq_append_of_agree

theorem Local.of_alike {read : List Char → Option (α × List Char)}
    (h : ∀ e, StartsMark e → (∀ d, isQuote d = false → e.head? ≠ some d) →
      Alike (Agree [] e) (SameRead (Agree [] e)) read) : Local read :=
  LocalBy.of_alike h fun _ _ _ hr ↦ Prod.ext hr.1.symm (eq_append_of_agree hr.2)

theorem LocalBy.of_alike_pair {read : List Char → Option (α × β × List Char)}
    (h : ∀ e, StartsMark e → (∀ d, isQuote d = false → e.head? ≠ some d) →
      Alike (Agree [] e) (SameRead (SameRead (Agree [] e))) read) :
    LocalBy (fun more r ↦ (r.1, r.2.1, r.2.2 ++ more)) read :=
  LocalBy.of_alike h fun _ _ _ hr ↦
    Prod.ext hr.1.symm (Prod.ext hr.2.1.symm (eq_append_of_agree hr.2.2))

end Local

/-! ## Lexemes -/

theorem local_ident? : Local ident? :=
  Local.of_alike fun _ he _ ↦ alike_ident? startsMark_nil he

theorem localSkip_keyword? (word : String) (h : word.toList.all isIdentRest = true) :
    LocalSkip (keyword? word) :=
  LocalSkip.of_alike fun _ he _ ↦ alike_keyword? startsMark_nil he h

/-! ## Heads of declarations -/

/-- Reads the head of an alias, up to its equals sign. -/
def aliasHead? (cs : List Char) : Option (String × List Char) :=
  ((keyword? "type" cs).bind ident?).bind fun (name, cs) ↦
    (mark? '=' cs).map fun rest ↦ (String.ofList name, rest)

theorem alike_aliasHead? {e e' : List Char} {R : List Char → List Char → Prop}
    (he : StartsMark e) (he' : StartsMark e') (hmark : Alike (Agree e e') R (mark? '=')) :
    Alike (Agree e e') (SameRead R) aliasHead? := by
  refine Alike.bind ((alike_ident? he he').afterSkip (alike_keyword? he he' (by decide)))
    fun name ↦ ?_
  exact hmark.map fun r r' h ↦ ⟨rfl, h⟩

theorem local_aliasHead? : Local aliasHead? :=
  Local.of_alike fun _ he hhead ↦ alike_aliasHead? startsMark_nil he
    (alike_mark? startsMark_nil he nofun (hhead '=' rfl))

theorem local_ruleHead? : Local ruleHead? :=
  Local.of_alike fun _ he hhead ↦ alike_ruleHead? startsMark_nil he
    (alike_mark? startsMark_nil he nofun (hhead ':' rfl))

theorem local_terminalHead? :
    LocalBy (fun more r ↦ (r.1, r.2.1, r.2.2 ++ more)) terminalHead? :=
  LocalBy.of_alike_pair fun _ he hhead ↦ alike_terminalHead? startsMark_nil he
    (alike_mark? startsMark_nil he nofun (hhead ':' rfl))

theorem local_interfaceHead? :
    LocalBy (fun more r ↦ (r.1, r.2.1, r.2.2 ++ more)) interfaceHead? :=
  LocalBy.of_alike_pair fun _ he hhead ↦
    alike_interfaceHead? startsMark_nil he nofun (hhead ',' rfl)
      (alike_mark? startsMark_nil he nofun (hhead '{' rfl))

/-! ## Actions -/

theorem local_action? : Local action? := by
  have hmarks : QuoteFree ['{', '.', '+', '='] := by decide
  exact Local.of_alike fun _ he hhead ↦
    alike_action? startsMark_nil he (fun _ _ ↦ nofun) (fun c hc ↦ hhead c (hmarks c hc))
      (alike_mark? startsMark_nil he nofun (hhead '}' rfl))

end DiagramForge.Grammar
