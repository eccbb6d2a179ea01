import DiagramForge.Proofs.Grammar.Mentions

/-!
# Terminals are skipped

A grammar keeps of a terminal what it returns; its regular expression is skipped. So a terminal that
is put in front of a grammar changes nothing, if the grammar does not mention its name:
`parse_behind_terminal`.

The end of a terminal is looked for as if it were a rule, so the regular expression must leave the
reader of statements outside literals and comments, and it must open no block comment:
`Terminal.Skippable`. Regular expressions need not do so. The one for comments in
`declaration_swallowed` ends with two slashes, which hide the semicolon.
-/

namespace DiagramForge.Grammar

open Text

/-! ## Tables of terminals -/

/-- Two tables of terminals agree, but one name may return a primitive in one of them and another
primitive, or nothing, in the other. -/
structure AgreeBut (name : String) (ts ts' : List (String × String)) : Prop where
  /-- The names of the one table differ. -/
  nodup : (ts.map Prod.fst).Nodup
  /-- The names of the other table differ. -/
  nodup' : (ts'.map Prod.fst).Nodup
  /-- All other names return the same. -/
  others : ∀ n, n ≠ name → Entries.get? ts n = Entries.get? ts' n
  /-- The name returns the same, or only primitives. -/
  primitive : Entries.get? ts name = Entries.get? ts' name ∨
    ∀ type, Entries.get? ts name = some type ∨ Entries.get? ts' name = some type →
      isPrimitive type = true

section

variable {name : String} {ts ts' : List (String × String)}

theorem AgreeBut.set (h : AgreeBut name ts ts') (n type : String) :
    AgreeBut name (Entries.set ts n type) (Entries.set ts' n type) := by
  have hget : ∀ m, Entries.get? ts m = Entries.get? ts' m →
      Entries.get? (Entries.set ts n type) m = Entries.get? (Entries.set ts' n type) m := by
    intro m hm
    rw [Entries.get?_set, Entries.get?_set, hm]
  refine ⟨Entries.nodup_set h.nodup n type, Entries.nodup_set h.nodup' n type,
    fun m hm ↦ hget m (h.others m hm), ?_⟩
  by_cases hn : n = name
  · left
    rw [Entries.get?_set, Entries.get?_set, hn, if_pos (beq_self_eq_true name),
      if_pos (beq_self_eq_true name)]
  · rcases h.primitive with heq | hprimitive
    · exact .inl (hget name heq)
    · right
      intro t ht
      rw [Entries.get?_set, Entries.get?_set, if_neg (by simpa using hn),
        if_neg (by simpa using hn)] at ht
      exact hprimitive t ht

/-- A type that is no primitive is returned by a terminal of the one table if it is by one of the
other. -/
theorem AgreeBut.any_of_any (h : AgreeBut name ts ts') {type : String}
    (hprimitive : isPrimitive type = false) (hany : (ts.any fun e ↦ e.2 == type) = true) :
    (ts'.any fun e ↦ e.2 == type) = true := by
  obtain ⟨e, he, htype⟩ := List.any_eq_true.mp hany
  rw [beq_iff_eq] at htype
  have hget := Entries.get?_of_mem h.nodup he
  rw [htype] at hget
  have hget' : Entries.get? ts' e.1 = some type := by
    by_cases hname : e.1 = name
    · rw [hname] at hget ⊢
      rcases h.primitive with heq | hall
      · rw [← heq, hget]
      · rw [hall type (.inl hget)] at hprimitive
        cases hprimitive
    · rw [← h.others e.1 hname, hget]
  rw [List.any_eq_true]
  exact ⟨_, Entries.mem_of_get? hget', by simp⟩

theorem AgreeBut.symm (h : AgreeBut name ts ts') : AgreeBut name ts' ts :=
  ⟨h.nodup', h.nodup, fun n hn ↦ (h.others n hn).symm,
    h.primitive.imp Eq.symm fun hall type htype ↦ hall type htype.symm⟩

/-- The same rules are taken for data types. -/
theorem AgreeBut.isDataType_eq (h : AgreeBut name ts ts') : isDataType ts = isDataType ts' := by
  funext type
  rw [isDataType, isDataType]
  rcases hprimitive : isPrimitive type with _ | _
  · rw [Bool.false_or, Bool.false_or, Bool.eq_iff_iff]
    exact ⟨h.any_of_any hprimitive, h.symm.any_of_any hprimitive⟩
  · rw [Bool.true_or, Bool.true_or]

/-- A terminal that returns a primitive changes the table at its name only. -/
theorem agreeBut_terminalTypes (ds : List Declaration) (name : String) {returns : Option String}
    (hreturns : isPrimitive (returns.getD "string") = true) :
    AgreeBut name (terminalTypes (.terminal name returns :: ds)) (terminalTypes ds) := by
  have hcommon : ∀ e ∈ commonTerminals, isPrimitive e.2 = true := by decide
  have hstart : AgreeBut name (Entries.set commonTerminals name (returns.getD "string"))
      commonTerminals := by
    have hnodup : (commonTerminals.map Prod.fst).Nodup := by decide
    refine ⟨Entries.nodup_set hnodup _ _, hnodup, ?_, .inr ?_⟩
    · intro n hn
      rw [Entries.get?_set, if_neg (by simpa using hn.symm)]
    · rintro type (htype | htype)
      · rw [Entries.get?_set_self, Option.some.injEq] at htype
        exact htype ▸ hreturns
      · exact hcommon _ (Entries.mem_of_get? htype)
  rw [terminalTypes, List.foldl_cons, terminalTypes]
  -- the terminals of the grammar itself are set over either table
  generalize commonTerminals = common at hstart
  dsimp only
  generalize Entries.set common name (returns.getD "string") = first at hstart
  induction ds generalizing first common with
  | nil => exact hstart
  | cons d ds ih =>
    rw [List.foldl_cons, List.foldl_cons]
    rcases d with _ | _ | ⟨n, type⟩ | _ | _ | _ | _
    case terminal => exact ih _ _ (hstart.set n _)
    all_goals exact ih _ _ hstart

end

/-! ## Rules that do not call the terminal -/

section

variable {types types' : RuleTypes} {r : Rule}

theorem Assignment.type_congr {a : Assignment} (hrules : types.rules = types'.rules)
    (h : ∀ name, a.called? = some name →
      Entries.get? types.terminals name = Entries.get? types'.terminals name) :
    a.type types = a.type types' := by
  rcases a with ⟨feature, operator, value⟩
  rcases value with _ | _ | name
  · rfl
  · rfl
  · simp only [Assignment.type, hrules, h name rfl]

/-- What a rule produces depends on the terminals that it calls. -/
theorem Rule.produced_congr (hrules : types.rules = types'.rules)
    (h : ∀ name ∈ r.calls,
      Entries.get? types.terminals name = Entries.get? types'.terminals name) :
    r.produced types = r.produced types' := by
  rw [produced, produced]
  apply List.map_congr_left
  intro s hs
  have hproperties : ∀ body, segmentProperties types body s = segmentProperties types' body s := by
    intro body
    rw [segmentProperties_eq, segmentProperties_eq]
    congr 1
    apply List.map_congr_left
    intro o ho
    have htype : o.assignment.type types = o.assignment.type types' := by
      apply Assignment.type_congr hrules
      intro name hcall
      exact h name (List.mem_flatMap.mpr ⟨s, hs, List.mem_filterMap.mpr ⟨o, ho, hcall⟩⟩)
    rw [Occurrence.property, Occurrence.property, htype]
  rw [Segment.produced, Segment.produced, hproperties]

theorem Contribution.addRule_congr (explicit : List String) (k : Contribution)
    (hrules : types.rules = types'.rules)
    (hdata : isDataType types.terminals = isDataType types'.terminals)
    (h : ∀ name ∈ r.calls,
      Entries.get? types.terminals name = Entries.get? types'.terminals name) :
    k.addRule explicit types r = k.addRule explicit types' r := by
  rw [addRule, addRule, hdata, r.produced_congr hrules h]

end

/-- A terminal that returns a primitive contributes nothing to a grammar whose rules do not call
it. -/
theorem assemble_terminal {ds : List Declaration} {name : String} {returns : Option String}
    (hreturns : isPrimitive (returns.getD "string") = true)
    (hcalls : ∀ r ∈ ruleDeclarations ds, name ∉ r.calls) (projectName : String)
    (file : Option Path) : assemble projectName file (.terminal name returns :: ds) =
      assemble projectName file ds := by
  have hagree := agreeBut_terminalTypes ds name hreturns
  have hrules : (ruleTypes (.terminal name returns :: ds)).rules = (ruleTypes ds).rules := by
    rw [ruleTypes, ruleTypes, hagree.isDataType_eq]
    rfl
  have hread : ∀ k, (ruleDeclarations ds).foldl (Contribution.addRule
        ((explicitInterfaces ds).map (·.name)) (ruleTypes (.terminal name returns :: ds))) k =
      (ruleDeclarations ds).foldl (Contribution.addRule
        ((explicitInterfaces ds).map (·.name)) (ruleTypes ds)) k := by
    intro k
    apply List.foldl_ext
    intro k r hr
    apply Contribution.addRule_congr _ _ hrules hagree.isDataType_eq
    intro n hn
    apply hagree.others
    rintro rfl
    exact hcalls r hr hn
  have hexplicit : explicitInterfaces (.terminal name returns :: ds) = explicitInterfaces ds := rfl
  have haliases : explicitAliases (.terminal name returns :: ds) = explicitAliases ds := rfl
  have hdeclarations : ruleDeclarations (.terminal name returns :: ds) = ruleDeclarations ds := rfl
  have hname : declaredName (.terminal name returns :: ds) = declaredName ds := rfl
  rw [assemble, assemble, hexplicit, haliases, hdeclarations, hname, hread, undeclaredReturns,
    undeclaredReturns, hrules]

/-! ## Written terminals -/

namespace Written

/-- A word with a blank behind it, if it is there. -/
def wordText (present : Bool) (word : String) : List Char :=
  if present then word.toList ++ [' '] else []

/-- A terminal that is written on one line. -/
structure Terminal where
  /-- Whether what it matches is left out of the document. -/
  hidden : Bool
  /-- Whether only other terminals use it. -/
  fragment : Bool
  /-- Its name. -/
  name : Name
  /-- The type that it returns, if that is declared. -/
  returns : Option String
  /-- That type is a primitive. -/
  primitive : ∀ type ∈ returns, isPrimitive type = true
  /-- Its regular expression, without the slashes around it. -/
  pattern : List Char

variable (t : Terminal)

/-- The declaration of what a terminal returns. -/
def returnsText : Option String → List Char
  | none => []
  | some type => ' ' :: ("returns".toList ++ ' ' :: type.toList)

/-- The definition of a terminal, between its colon and its semicolon. -/
def Terminal.definition : List Char :=
  ' ' :: '/' :: (t.pattern ++ ['/'])

/-- The text of a terminal up to its colon. -/
def Terminal.head : List Char :=
  wordText t.hidden "hidden" ++ ("terminal".toList ++ ' ' :: (wordText t.fragment "fragment" ++
    (t.name.chars ++ (returnsText t.returns ++ [':']))))

/-- The text of a terminal. -/
def Terminal.text : List Char :=
  t.head ++ (t.definition ++ [';'])

/-- The regular expression does not mislead the reader of statements: behind it the reader is outside
literals and line comments, and no block comment begins in it. -/
structure Terminal.Skippable : Prop where
  /-- The semicolon behind it ends the statement. -/
  outside : EndsOutside t.definition
  /-- It opens no block comment. -/
  comment : ¬ ['/', '*'] <:+: t.definition

end Written

open Written

/-! ## Reading a terminal -/

/-- A word is read where a name stands if and only if it is the name. -/
theorem keyword?_name {word : String} (hword : isIdent word.toList = true) {name tail : List Char}
    (hname : isIdent name = true) (htail : Breaks tail) :
    keyword? word (name ++ tail) = if name = word.toList then blanks? tail else none := by
  by_cases heq : name = word.toList
  · rw [if_pos heq, heq, keyword?, after?_append]
    rfl
  · rw [if_neg heq, Option.eq_none_iff_forall_not_mem]
    intro rest hrest
    obtain ⟨mid, hmid, hblanks⟩ := Option.bind_eq_some_iff.mp hrest
    have hbreaks : Breaks mid := by
      rcases mid with _ | ⟨c, mid⟩
      · cases hblanks
      · rw [blanks?] at hblanks
        split at hblanks
        next hc => exact breaks_cons (isIdentRest_of_isBlank hc)
        next => cases hblanks
    have hread := ident?_append hword hbreaks
    rw [← eq_append_of_after? hmid, ident?_append hname htail, Option.some.injEq,
      Prod.mk.injEq] at hread
    exact heq hread.1

/-- Reads the head of a terminal behind the words, up to its colon. -/
def terminalName? (cs : List Char) : Option (String × Option String × List Char) :=
  (ident? cs).bind fun (name, cs) ↦
    (optionalName (clause? "returns") cs).findSome? fun (returns, cs) ↦
      (mark? ':' cs).map fun rest ↦ (String.ofList name, returns.map String.ofList, rest)

theorem isIdent_of_isPrimitive {type : String} (h : isPrimitive type = true) :
    isIdent type.toList = true ∧ type.toList ≠ "returns".toList := by
  have hall : ∀ type ∈ primitiveTypes,
      isIdent type.toList = true ∧ type.toList ≠ "returns".toList := by decide
  exact hall type (List.contains_iff_mem.mp h)

theorem breaks_returnsText (returns : Option String) (rest : List Char) :
    Breaks (returnsText returns ++ ':' :: rest) := by
  rcases returns with _ | type
  · exact breaks_cons (by decide)
  · exact breaks_cons (by decide)

theorem clause?_returnsText {returns : Option String}
    (h : ∀ type ∈ returns, isPrimitive type = true) (rest : List Char) :
    clause? "returns" (returnsText returns ++ ':' :: rest) =
      returns.map fun type ↦ (type.toList, ':' :: rest) := by
  rcases returns with _ | type
  · rfl
  · have htype := (isIdent_of_isPrimitive (h type rfl)).1
    have hfirm : StartsFirm (type.toList ++ ':' :: rest) := (firm_of_isIdent htype).start.append _
    have hwords : StartsFirm ("returns".toList ++ ' ' :: (type.toList ++ ':' :: rest)) :=
      ⟨'r', _, rfl, by decide⟩
    have hblanks : blanks? (' ' :: ("returns".toList ++ ' ' :: (type.toList ++ ':' :: rest))) =
        some ("returns".toList ++ ' ' :: (type.toList ++ ':' :: rest)) := by
      rw [blanks?, if_pos (by decide), trimLeft_of_startsFirm hwords]
    rw [returnsText, List.cons_append, List.append_assoc, List.cons_append, clause?, hblanks,
      Option.bind_some, keyword?_append hfirm, Option.bind_some,
      ident?_append htype (breaks_cons (by decide))]
    rfl

theorem terminalName?_text {name : List Char} (hname : isIdent name = true)
    {returns : Option String} (h : ∀ type ∈ returns, isPrimitive type = true) (rest : List Char) :
    terminalName? (name ++ (returnsText returns ++ ':' :: rest)) =
      some (String.ofList name, returns, rest) := by
  have hmark : mark? ':' (':' :: rest) = some rest := mark?_cons [] rfl (by decide)
  rw [terminalName?, ident?_append hname (breaks_returnsText returns rest), Option.bind_some]
  dsimp only
  rw [optionalName, clause?_returnsText h]
  rcases returns with _ | type
  · dsimp only [Option.map_none]
    rw [List.findSome?_singleton]
    dsimp only [returnsText, List.nil_append]
    rw [hmark]
    rfl
  · dsimp only [Option.map_some]
    rw [List.findSome?_cons, hmark]
    simp

/-- A terminal has no name if the word for what it returns is taken for the name. -/
theorem terminalName?_returns {type : String} (h : isPrimitive type = true) (rest : List Char) :
    terminalName? ("returns".toList ++ ' ' :: (type.toList ++ ':' :: rest)) = none := by
  obtain ⟨htype, hne⟩ := isIdent_of_isPrimitive h
  have hfirm := (firm_of_isIdent htype).start
  have hcolon : Breaks (':' :: rest) := breaks_cons (by decide)
  have hblanks : blanks? (' ' :: (type.toList ++ ':' :: rest)) =
      some (type.toList ++ ':' :: rest) := by
    rw [blanks?, if_pos (by decide), trimLeft_of_startsFirm (hfirm.append _)]
  have hclause : clause? "returns" (' ' :: (type.toList ++ ':' :: rest)) = none := by
    rw [clause?, hblanks, Option.bind_some, keyword?_name (by decide) htype hcolon, if_neg hne]
    rfl
  have hmark : mark? ':' (' ' :: (type.toList ++ ':' :: rest)) = none := by
    obtain ⟨c, cs, hcs, hblank⟩ := hfirm
    have hc : ':' ≠ c := by
      rintro rfl
      rw [hcs] at htype
      cases htype
    rw [hcs]
    exact mark?_eq_none [' '] (by decide) hblank hc
  rw [terminalName?, ident?_append (by decide) (breaks_cons (by decide)), Option.bind_some]
  dsimp only
  rw [optionalName, hclause, List.findSome?_singleton]
  dsimp only
  rw [hmark]
  rfl

/-- A terminal may be called as the word for fragments is. -/
theorem optionally_fragment_text {name : List Char} (hname : isIdent name = true)
    {returns : Option String} (h : ∀ type ∈ returns, isPrimitive type = true) (fragment : Bool)
    (rest : List Char) :
    (optionally (keyword? "fragment") (wordText fragment "fragment" ++
        (name ++ (returnsText returns ++ ':' :: rest)))).findSome? (fun r ↦ terminalName? r.2) =
      some (String.ofList name, returns, rest) := by
  have hread := terminalName?_text hname h rest
  rcases fragment with _ | _
  · have hfragment : isIdent "fragment".toList = true := by decide
    have hword := keyword?_name hfragment hname (breaks_returnsText returns rest)
    rw [wordText, if_neg Bool.false_ne_true, List.nil_append, optionally]
    rcases hkeyword : keyword? "fragment" (name ++ (returnsText returns ++ ':' :: rest)) with _ | rest'
    · exact (List.findSome?_singleton).trans hread
    · -- the name is the word, and what is declared to be returned is taken for the name
      rw [hkeyword] at hword
      have hmisread : terminalName? rest' = none := by
        split at hword
        · rcases returns with _ | type
          · cases hword
          · have hwords : StartsFirm ("returns".toList ++ ' ' :: (type.toList ++ ':' :: rest)) :=
              ⟨'r', _, rfl, by decide⟩
            rw [returnsText, List.cons_append, List.append_assoc, List.cons_append, blanks?,
              if_pos (by decide), trimLeft_of_startsFirm hwords, Option.some.injEq] at hword
            rw [hword]
            exact terminalName?_returns (h type rfl) rest
        · cases hword
      rw [List.findSome?_cons, hmisread]
      exact (List.findSome?_singleton).trans hread
  · have hfirm : StartsFirm (name ++ (returnsText returns ++ ':' :: rest)) :=
      (firm_of_isIdent hname).start.append _
    rw [wordText, if_pos rfl, List.append_assoc, List.singleton_append, optionally,
      keyword?_append hfirm]
    exact List.findSome?_cons.trans (by rw [hread])

theorem terminalHead?_head (t : Terminal) (rest : List Char) :
    terminalHead? (t.head ++ rest) = some (t.name.string, t.returns, rest) := by
  have htext : t.head ++ rest = wordText t.hidden "hidden" ++ ("terminal".toList ++ ' ' ::
      (wordText t.fragment "fragment" ++
        (t.name.chars ++ (returnsText t.returns ++ ':' :: rest)))) := by
    unfold Terminal.head
    generalize "terminal".toList = word
    simp
  have hfirm : StartsFirm (wordText t.fragment "fragment" ++
      (t.name.chars ++ (returnsText t.returns ++ ':' :: rest))) := by
    rcases t.fragment with _ | _
    · exact (firm_of_isIdent t.name.ident).start.append _
    · exact ⟨'f', _, rfl, by decide⟩
  have hterminal : StartsFirm ("terminal".toList ++ ' ' :: (wordText t.fragment "fragment" ++
      (t.name.chars ++ (returnsText t.returns ++ ':' :: rest)))) := ⟨'t', _, rfl, by decide⟩
  have hhidden : (keyword? "hidden" (t.head ++ rest)).getD (t.head ++ rest) =
      "terminal".toList ++ ' ' :: (wordText t.fragment "fragment" ++
        (t.name.chars ++ (returnsText t.returns ++ ':' :: rest))) := by
    rw [htext]
    rcases t.hidden with _ | _
    · rw [wordText, if_neg Bool.false_ne_true, List.nil_append]
      rfl
    · rw [wordText, if_pos rfl, List.append_assoc, List.singleton_append,
        keyword?_append hterminal]
      rfl
  rw [terminalHead?, hhidden, keyword?_append hfirm, Option.bind_some]
  exact optionally_fragment_text t.name.ident t.primitive t.fragment rest

/-- A terminal is read up to its own semicolon. -/
theorem terminalAt?_text {t : Terminal} (h : t.Skippable) (rest : List Char) :
    terminalAt? (t.text ++ rest) = some (.ok (.terminal t.name.string t.returns, rest)) := by
  have hend : statement? .plain (';' :: rest) = some ([], rest) := by
    rw [statement?, if_pos (beq_self_eq_true _)]
  have hbody : body (t.definition ++ ';' :: rest) = .ok (t.definition, rest) := by
    have hslash : (';' :: rest).head? ≠ some '/' := by simp
    rw [body, statement?_append h.outside (.inr hslash), hend, Option.map_some, List.append_nil]
  have htext : t.text ++ rest = t.head ++ (t.definition ++ ';' :: rest) := by
    simp [Terminal.text]
  rw [terminalAt?, htext, terminalHead?_head, Option.map_some]
  dsimp only
  rw [hbody]
  rfl

theorem exists_text (t : Terminal) : ∃ c d more, t.text = c :: d :: more ∧
    ((c = 't' ∧ d = 'e') ∨ (c = 'h' ∧ d = 'i')) := by
  rw [Terminal.text, Terminal.head, wordText]
  rcases t.hidden with _ | _
  · exact ⟨'t', 'e', _, rfl, .inl ⟨rfl, rfl⟩⟩
  · exact ⟨'h', 'i', _, rfl, .inr ⟨rfl, rfl⟩⟩

theorem scan_terminal {t : Terminal} (h : t.Skippable) (notes : Annotations) (rest : List Char) :
    scan notes (t.text ++ rest) =
      (scan [] rest).map (.terminal t.name.string t.returns :: ·) := by
  have hread := terminalAt?_text h rest
  obtain ⟨c, d, more, htext, hbegins⟩ := exists_text t
  have hdeclaration : declaration notes (t.text ++ rest) =
      .ok (.terminal t.name.string t.returns, rest) := by
    have hheader : headerAt? (t.text ++ rest) = none := by
      rw [htext]
      rcases hbegins with ⟨rfl, rfl⟩ | ⟨rfl, rfl⟩ <;> rfl
    have hreference : referenceAt? (t.text ++ rest) = none := by
      rw [htext]
      rcases hbegins with ⟨rfl, rfl⟩ | ⟨rfl, rfl⟩ <;> rfl
    rw [declaration, hheader, hreference, hread]
    rfl
  refine scan_declaration ⟨c, _, by rw [htext]; rfl, ?_⟩ hdeclaration
  rcases hbegins with ⟨rfl, -⟩ | ⟨rfl, -⟩ <;> exact ⟨by decide, by decide⟩

/-- No block comment begins in the text of a terminal that can be skipped. -/
theorem not_infix_text {t : Terminal} (h : t.Skippable) : ¬ ['/', '*'] <:+: t.text := by
  have hwords : '*' ∉ t.head := by
    have hname : '*' ∉ t.name.chars := fun hmem ↦
      ne_of_class (isIdentRest_of_isIdent t.name.ident '*' hmem) (by decide) rfl
    have hreturns : '*' ∉ returnsText t.returns := by
      rcases hreturns : t.returns with _ | type
      · exact List.not_mem_nil
      · have htype := isIdentRest_of_isIdent (isIdent_of_isPrimitive (t.primitive type hreturns)).1
        have hnot : '*' ∉ type.toList := fun hmem ↦
          ne_of_class (htype '*' hmem) (by decide) rfl
        have hword : '*' ∉ "returns".toList := by decide
        rw [returnsText, List.mem_cons, List.mem_append, List.mem_cons]
        rintro (heq | hin | heq | hin)
        · cases heq
        · exact hword hin
        · cases heq
        · exact hnot hin
    have hword : ∀ present word, '*' ∉ word.toList → '*' ∉ wordText present word := by
      intro present word hnot
      rcases present with _ | _
      · exact List.not_mem_nil
      · simpa [wordText] using hnot
    have hterminal : '*' ∉ "terminal".toList := by decide
    have hhidden := hword t.hidden "hidden" (by decide)
    have hfragment := hword t.fragment "fragment" (by decide)
    rw [Terminal.head]
    generalize "terminal".toList = word at hterminal ⊢
    simp [hhidden, hterminal, hfragment, hname, hreturns]
  have hdefinition : Plain (t.definition ++ [';']) := by
    have hsemicolon : Plain [';'] := plain_of_not_mem (by decide)
    exact ⟨not_infix_append h.comment hsemicolon, by simp [Terminal.definition]⟩
  exact not_infix_append (plain_of_not_mem hwords).inside hdefinition

theorem declarations_terminal {t : Terminal} (h : t.Skippable) {text : List Char}
    {ds : List Declaration} (hds : declarations text = .ok ds) :
    declarations (t.text ++ '\n' :: text) = .ok (.terminal t.name.string t.returns :: ds) := by
  rw [declarations] at hds
  split at hds
  · cases hds
  next blanked hblanked =>
    split at hds
    · cases hds
    next hscan =>
      obtain rfl := Except.ok.inj hds
      have hline : blankComments (t.text ++ '\n' :: text) = .ok (t.text ++ '\n' :: blanked) :=
        blankCommentsFrom_append_cons (by decide)
          (blankCommentsFrom_of_plain (not_infix_text h) 0) hblanked
      have hrest : scan [] ('\n' :: blanked) = scan [] blanked := by
        rw [scan_blank (by decide)]
        split <;> rfl
      rw [declarations, hline]
      dsimp only
      rw [scan_terminal h, hrest, hscan]
      rfl

/-- **A terminal in front of a grammar changes nothing.** If a text is read as a grammar, and it does
not mention the name of a terminal whose regular expression can be skipped, then it is read as the
same grammar behind the terminal. -/
theorem parse_behind_terminal {t : Terminal} (hskip : t.Skippable) {text : List Char}
    (hmentions : ¬ Mentions text t.name.chars) {projectName : String} {file : Option Path}
    {g : Grammar} (h : parse (String.ofList text) projectName file = .ok g) :
    parse (String.ofList (t.text ++ '\n' :: text)) projectName file = .ok g := by
  rw [parse, String.toList_ofList] at h
  rcases hds : declarations text with fault | ds
  · simp [hds] at h
  · simp only [hds, Except.ok.injEq] at h
    have hreturns : isPrimitive (t.returns.getD "string") = true := by
      rcases hreturns : t.returns with _ | type
      · decide
      · exact t.primitive type hreturns
    have hcalls : ∀ r ∈ ruleDeclarations ds, t.name.string ∉ r.calls := by
      intro r hr hname
      have hmentioned := mentions_of_mem_calls hds hr hname
      rw [Name.string, String.toList_ofList] at hmentioned
      exact hmentions hmentioned
    rw [parse, String.toList_ofList, declarations_terminal hskip hds]
    dsimp only
    rw [assemble_terminal hreturns hcalls, h]

theorem parse_behind_terminal_int :
    ∃ g, parse "A: x=ID y=Size;" "" none = .ok g ∧
      parse ("hidden terminal fragment INT returns bigint: /(\"[;]*\"|'\\/')+/;\n" ++
        "A: x=ID y=Size;") "" none = .ok g := by
  obtain ⟨t, htext, hskip, hname⟩ : ∃ t : Terminal,
      String.ofList (t.text ++ '\n' :: "A: x=ID y=Size;".toList) =
        "hidden terminal fragment INT returns bigint: /(\"[;]*\"|'\\/')+/;\n" ++
          "A: x=ID y=Size;" ∧ t.Skippable ∧ t.name.chars = "INT".toList :=
    ⟨⟨true, true, ⟨"INT".toList, by decide⟩, some "bigint", by decide, "(\"[;]*\"|'\\/')+".toList⟩,
      by decide +kernel, ⟨by decide +kernel, by decide +kernel⟩, rfl⟩
  have hmentions : ¬ Mentions "A: x=ID y=Size;".toList t.name.chars := by
    rw [hname]
    exact not_mentions_of_not_infix (by decide +kernel)
  have hread : (parse "A: x=ID y=Size;" "" none).toOption.isSome = true := by decide +kernel
  rcases hg : parse "A: x=ID y=Size;" "" none with fault | g
  · simp [hg, Except.toOption] at hread
  · rw [← String.ofList_toList (s := "A: x=ID y=Size;")] at hg
    refine ⟨g, rfl, ?_⟩
    rw [← htext]
    exact parse_behind_terminal hskip hmentions hg

/-- The regular expression of block comments ends with two slashes, which are taken for a line comment:
the semicolon of the terminal is not found, and the rule behind it is skipped with it. -/
theorem declaration_swallowed :
    ∃ g g', parse "A: x=ID;" "" none = .ok g ∧
      parse "hidden terminal ML_COMMENT: /\\/\\*[\\s\\S]*?\\*\\//;\nA: x=ID;" "" none = .ok g' ∧
      g.interfaceNames = ["A"] ∧ g'.interfaceNames = [] := by
  have hread : (parse "A: x=ID;" "" none).toOption.map interfaceNames = some ["A"] := by
    decide +kernel
  have hread' : (parse "hidden terminal ML_COMMENT: /\\/\\*[\\s\\S]*?\\*\\//;\nA: x=ID;" ""
      none).toOption.map interfaceNames = some [] := by
    decide +kernel
  rcases hg : parse "A: x=ID;" "" none with fault | g
  · simp [hg, Except.toOption] at hread
  rcases hg' : parse "hidden terminal ML_COMMENT: /\\/\\*[\\s\\S]*?\\*\\//;\nA: x=ID;" "" none with
    fault | g'
  · simp [hg', Except.toOption] at hread'
  · refine ⟨g, g', rfl, rfl, ?_, ?_⟩
    · simpa [hg, Except.toOption] using hread
    · simpa [hg', Except.toOption] using hread'

end DiagramForge.Grammar
