import DiagramForge.Proofs.Grammar.RuleLiterals
import DiagramForge.Proofs.Grammar.Scanning

/-!
# Literals are opaque

Replacing the contents of a literal in a grammar that can be read gives a grammar that can be read,
and the two grammars agree in all but the alias that the declaration with the literal makes, if it
makes one: `parse_refilled`.

A literal is found where the reading of a statement has it: outside comments, and outside other
literals. The searches that are made afterwards do not all respect literals. What the contents must
not hold for that, `Shielded` says of a rule, and the constructors of `Sheltered` of the other
declarations.

## The argument

The text before the literal is scanned as before, `ScansTo.enclosed`, and so is the text behind the
declaration that the literal stands in, since that declaration ends where it ended. So the lists of
declarations differ in one declaration at most, and `assemble` carries the one difference through.
-/

namespace DiagramForge.Grammar

open Text

variable {q : Char} {c c' : List Char}

/-! ## Lists that differ in one element -/

namespace OneReplaced

variable {α β : Type} {R : α → α → Prop} {as as' : List α}

theorem append_right (h : OneReplaced R as as') (bs : List α) :
    OneReplaced R (as ++ bs) (as' ++ bs) := by
  cases h with
  | same => exact .same _
  | replaced before after h =>
    rw [List.append_assoc, List.append_assoc, List.cons_append, List.cons_append]
    exact .replaced _ _ h

/-- If no element can be replaced, the lists are equal. -/
theorem eq_of_forall (h : OneReplaced R as as') (hR : ∀ a a', ¬ R a a') : as' = as := by
  cases h with
  | same => rfl
  | replaced before after h => exact absurd h (hR _ _)

/-- A test that does not tell the two elements apart does not tell the lists apart. -/
theorem any_eq (h : OneReplaced R as as') {f : α → Bool} (hf : ∀ a a', R a a' → f a = f a') :
    as.any f = as'.any f := by
  cases h with
  | same => rfl
  | replaced before after h => rw [List.any_append, List.any_append, List.any_cons, List.any_cons,
      hf _ _ h]

theorem filterMap_eq (h : OneReplaced R as as') {f : α → Option β}
    (hf : ∀ a a', R a a' → f a = f a') : as.filterMap f = as'.filterMap f := by
  cases h with
  | same => rfl
  | replaced before after h =>
    rw [List.filterMap_append, List.filterMap_append, List.filterMap_cons, List.filterMap_cons,
      hf _ _ h]

theorem foldl_eq (h : OneReplaced R as as') {f : β → α → β}
    (hf : ∀ a a', R a a' → ∀ b, f b a = f b a') (b : β) : as.foldl f b = as'.foldl f b := by
  cases h with
  | same => rfl
  | replaced before after h =>
    rw [List.foldl_append, List.foldl_append, List.foldl_cons, List.foldl_cons, hf _ _ h]

end OneReplaced

/-! ## Grammars that differ in a literal -/

/-- A rule is another one but for a literal in its body that makes no difference: it produces the
same, and if it lists alternatives, its alias is the other one but for the literal. -/
structure RuleRefilled (q : Char) (c c' : List Char) (r r' : Rule) : Prop where
  /-- The names agree. -/
  name : r'.name = r.name
  /-- The declared types agree. -/
  returns : r'.returns = r.returns
  /-- The notes agree. -/
  annotations : r'.annotations = r.annotations
  /-- The rules produce the same. -/
  produced : ∀ types, r'.produced types = r.produced types
  /-- One lists alternatives if and only if the other one does. -/
  alternatives : isAlternatives r'.body = isAlternatives r.body
  /-- The alternatives agree but for the literal. -/
  members : isAlternatives r.body = true → ∀ name notes,
    AliasRefilled q c c' (aliasOf name r.body notes) (aliasOf name r'.body notes)

/-- The alias that a declaration may make: an alias, or what a rule lists the alternatives of. -/
def Declaration.alias? : Declaration → Option TypeAlias
  | .alias t => some t
  | .rule r =>
    if isAlternatives r.body then some (aliasOf r.target r.body r.annotations) else none
  | _ => none

/-- A declaration that may make the alias `made` is another one but for a literal. -/
inductive DeclarationRefilled (q : Char) (c c' : List Char) (made : Option TypeAlias) :
    Declaration → Declaration → Prop where
  /-- The literal stands in an alias. -/
  | ofAlias {t t' : TypeAlias} (hmade : made = (Declaration.alias t).alias?)
    (h : AliasRefilled q c c' t t') : DeclarationRefilled q c c' made (.alias t) (.alias t')
  /-- The literal stands in a rule. -/
  | ofRule {r r' : Rule} (hmade : made = (Declaration.rule r).alias?)
    (h : RuleRefilled q c c' r r') : DeclarationRefilled q c c' made (.rule r) (.rule r')

/-- The alias `made` is replaced by one that differs in a literal. -/
def AliasReplaced (q : Char) (c c' : List Char) (made : Option TypeAlias) (t t' : TypeAlias) :
    Prop :=
  made = some t ∧ AliasRefilled q c c' t t'

/-- A grammar is another one but for the alias `made`, which differs in a literal, if at all. -/
structure GrammarRefilled (q : Char) (c c' : List Char) (made : Option TypeAlias)
    (g g' : Grammar) : Prop where
  /-- The projects agree. -/
  projectName : g'.projectName = g.projectName
  /-- The declared names agree. -/
  grammarName : g'.grammarName = g.grammarName
  /-- The interfaces agree. -/
  interfaces : g'.interfaces = g.interfaces
  /-- The aliases agree but for that one. -/
  types : OneReplaced (AliasReplaced q c c' made) g.types g'.types
  /-- The rules agree. -/
  rules : g'.rules = g.rules
  /-- The files agree. -/
  sourcePath : g'.sourcePath = g.sourcePath

/-- A grammar that is another one but for an alias that is not made is the other one. -/
theorem GrammarRefilled.eq_of_none {g g' : Grammar} (h : GrammarRefilled q c c' none g g') :
    g' = g := by
  have htypes : g'.types = g.types := h.types.eq_of_forall fun t t' ht ↦ nomatch ht.1
  cases g
  cases g'
  rw [Grammar.mk.injEq]
  exact ⟨h.projectName, h.grammarName, h.interfaces, htypes, h.rules, h.sourcePath⟩

/-- What rules contribute is the same but for the alias `made`. -/
structure ContributionRefilled (q : Char) (c c' : List Char) (made : Option TypeAlias)
    (k k' : Contribution) : Prop where
  /-- The interfaces agree. -/
  interfaces : k'.interfaces = k.interfaces
  /-- The aliases agree but for that one. -/
  aliases : OneReplaced (AliasReplaced q c c' made) k.aliases k'.aliases

variable {made : Option TypeAlias}

namespace ContributionRefilled

variable {k k' : Contribution}

theorem hasAlias (h : ContributionRefilled q c c' made k k') (name : String) :
    k'.hasAlias name = k.hasAlias name :=
  (h.aliases.any_eq fun t t' ht ↦ by rw [ht.2.name]).symm

theorem hasInterface (h : ContributionRefilled q c c' made k k') (name : String) :
    k'.hasInterface name = k.hasInterface name := by
  rw [Contribution.hasInterface, Contribution.hasInterface, h.interfaces]

theorem addAlias (h : ContributionRefilled q c c' made k k') (t : TypeAlias) :
    ContributionRefilled q c c' made { k with aliases := k.aliases ++ [t] }
      { k' with aliases := k'.aliases ++ [t] } :=
  ⟨h.interfaces, h.aliases.append_right [t]⟩

theorem addProduced (h : ContributionRefilled q c c' made k k') (explicit : List String)
    (notes : Annotations) (p : Produced) :
    ContributionRefilled q c c' made (k.addProduced explicit notes p)
      (k'.addProduced explicit notes p) := by
  rw [Contribution.addProduced, Contribution.addProduced, h.hasAlias, h.interfaces]
  split
  · exact h
  split
  · exact h
  · exact ⟨rfl, h.aliases⟩

theorem foldl_addProduced (h : ContributionRefilled q c c' made k k') (explicit : List String)
    (notes : Annotations) (ps : List Produced) :
    ContributionRefilled q c c' made (ps.foldl (Contribution.addProduced explicit notes) k)
      (ps.foldl (Contribution.addProduced explicit notes) k') := by
  induction ps generalizing k k' with
  | nil => exact h
  | cons p ps ih => exact ih (h.addProduced explicit notes p)

/-- A rule adds the same to both. -/
theorem addRule (h : ContributionRefilled q c c' made k k') (explicit : List String)
    (types : RuleTypes) (r : Rule) : ContributionRefilled q c c' made (k.addRule explicit types r)
      (k'.addRule explicit types r) := by
  have hproduced := h.foldl_addProduced explicit r.annotations (r.produced types)
  rw [Contribution.addRule, Contribution.addRule, h.hasAlias]
  split
  · exact h
  split
  · exact h.addAlias _
  · dsimp only
    rw [hproduced.hasInterface]
    split
    · exact hproduced.addAlias _
    · exact hproduced

theorem foldl_addRule (h : ContributionRefilled q c c' made k k') (explicit : List String)
    (types : RuleTypes) (rs : List Rule) :
    ContributionRefilled q c c' made (rs.foldl (Contribution.addRule explicit types) k)
      (rs.foldl (Contribution.addRule explicit types) k') := by
  induction rs generalizing k k' with
  | nil => exact h
  | cons r rs ih => exact ih (h.addRule explicit types r)

end ContributionRefilled

/-- Two rules that differ in a literal contribute the same but for an alias. -/
theorem RuleRefilled.addRule {r r' : Rule} (h : RuleRefilled q c c' r r')
    (hmade : made = (Declaration.rule r).alias?) (k : Contribution) (explicit : List String)
    (types : RuleTypes) :
    ContributionRefilled q c c' made (k.addRule explicit types r) (k.addRule explicit types r') := by
  have htarget : r'.target = r.target := by rw [Rule.target, Rule.target, h.returns, h.name]
  rw [Contribution.addRule, Contribution.addRule, htarget, h.returns, h.name, h.annotations,
    h.produced, h.alternatives]
  split
  · exact ⟨rfl, .same _⟩
  split
  · exact ⟨rfl, .same _⟩
  · dsimp only
    split
    · next hlists =>
      rw [Bool.and_eq_true] at hlists
      have halias : made = some (aliasOf r.target r.body r.annotations) := by
        rw [hmade, Declaration.alias?, if_pos hlists.2]
      exact ⟨rfl, .replaced _ [] ⟨halias, h.members hlists.2 _ _⟩⟩
    · exact ⟨rfl, .same _⟩

/-! ## Assembling -/

section Assemble

variable {ds ds' : List Declaration}

theorem explicitInterfaces_refilled (h : OneReplaced (DeclarationRefilled q c c' made) ds ds') :
    explicitInterfaces ds' = explicitInterfaces ds :=
  (h.filterMap_eq fun _ _ hd ↦ by cases hd <;> rfl).symm

theorem declaredName_refilled (h : OneReplaced (DeclarationRefilled q c c' made) ds ds') :
    declaredName ds' = declaredName ds := by
  rw [declaredName, declaredName, h.filterMap_eq fun _ _ hd ↦ by cases hd <;> rfl]

theorem terminalTypes_refilled (h : OneReplaced (DeclarationRefilled q c c' made) ds ds') :
    terminalTypes ds' = terminalTypes ds :=
  (h.foldl_eq (fun _ _ hd _ ↦ by cases hd <;> rfl) _).symm

/-- Either the aliases differ in one, or the rules. -/
theorem aliases_or_rules_refilled (h : OneReplaced (DeclarationRefilled q c c' made) ds ds') :
    (OneReplaced (AliasReplaced q c c' made) (explicitAliases ds) (explicitAliases ds') ∧
        ruleDeclarations ds' = ruleDeclarations ds) ∨
      (explicitAliases ds' = explicitAliases ds ∧
        OneReplaced (fun r r' ↦ made = (Declaration.rule r).alias? ∧ RuleRefilled q c c' r r')
          (ruleDeclarations ds) (ruleDeclarations ds')) := by
  cases h with
  | same => exact .inl ⟨.same _, rfl⟩
  | replaced before after h =>
    simp only [explicitAliases, ruleDeclarations, List.filterMap_append, List.filterMap_cons]
    cases h with
    | ofAlias hmade h => exact .inl ⟨.replaced _ _ ⟨hmade, h⟩, rfl⟩
    | ofRule hmade h => exact .inr ⟨rfl, .replaced _ _ ⟨hmade, h⟩⟩

theorem ruleTypes_refilled (h : OneReplaced (DeclarationRefilled q c c' made) ds ds') :
    ruleTypes ds' = ruleTypes ds := by
  rw [ruleTypes, ruleTypes, terminalTypes_refilled h]
  rcases aliases_or_rules_refilled h with ⟨-, hrules⟩ | ⟨-, hrules⟩
  · rw [hrules]
  · rw [hrules.filterMap_eq fun r r' hr ↦ by rw [hr.2.returns, hr.2.name]]

theorem ruleNames_refilled (h : OneReplaced (DeclarationRefilled q c c' made) ds ds') :
    (ruleDeclarations ds').map (·.name) = (ruleDeclarations ds).map (·.name) := by
  rcases aliases_or_rules_refilled h with ⟨-, hrules⟩ | ⟨-, hrules⟩
  · rw [hrules]
  · rw [← List.filterMap_eq_map, hrules.filterMap_eq fun r r' hr ↦ by
      rw [Function.comp_apply, Function.comp_apply, hr.2.name]]

theorem contribution_refilled (h : OneReplaced (DeclarationRefilled q c c' made) ds ds')
    (explicit : List String) (types : RuleTypes) : ContributionRefilled q c c' made
      ((ruleDeclarations ds).foldl (Contribution.addRule explicit types) ⟨[], explicitAliases ds⟩)
      ((ruleDeclarations ds').foldl (Contribution.addRule explicit types)
        ⟨[], explicitAliases ds'⟩) := by
  rcases aliases_or_rules_refilled h with ⟨haliases, hrules⟩ | ⟨haliases, hrules⟩
  · have hstart : ContributionRefilled q c c' made ⟨[], explicitAliases ds⟩
      ⟨[], explicitAliases ds'⟩ := ⟨rfl, haliases⟩
    rw [hrules]
    exact hstart.foldl_addRule explicit types _
  · rw [haliases]
    generalize ruleDeclarations ds = rs, ruleDeclarations ds' = rs' at hrules ⊢
    cases hrules with
    | same => exact ⟨rfl, .same _⟩
    | replaced before after h =>
      rw [List.foldl_append, List.foldl_append, List.foldl_cons, List.foldl_cons]
      exact (h.2.addRule h.1 _ explicit types).foldl_addRule explicit types after

theorem ContributionRefilled.undeclaredReturns {k k' : Contribution}
    (h : ContributionRefilled q c c' made k k') (explicit : List Interface) (types : RuleTypes) :
    undeclaredReturns explicit types k' = undeclaredReturns explicit types k := by
  simp only [Grammar.undeclaredReturns, h.interfaces, h.hasAlias, h.hasInterface]

/-- Declarations that differ in a literal make up grammars that differ in an alias. -/
theorem assemble_refilled (h : OneReplaced (DeclarationRefilled q c c' made) ds ds')
    (projectName : String) (file : Option Path) :
    GrammarRefilled q c c' made (assemble projectName file ds)
      (assemble projectName file ds') := by
  have hcontribution := contribution_refilled h ((explicitInterfaces ds).map (·.name)) (ruleTypes ds)
  have hreturns := hcontribution.undeclaredReturns (explicitInterfaces ds) (ruleTypes ds)
  refine ⟨?_, ?_, ?_, ?_, ruleNames_refilled h, rfl⟩
  · simp only [assemble, declaredName_refilled h]
  · simp only [assemble, declaredName_refilled h]
  · simp only [assemble, explicitInterfaces_refilled h, ruleTypes_refilled h,
      hcontribution.interfaces, hreturns]
  · simp only [assemble, explicitInterfaces_refilled h, ruleTypes_refilled h]
    exact hcontribution.aliases

end Assemble

/-! ## The declaration with the literal -/

theorem exists_of_headerAt? {cs after : List Char} {d : Declaration}
    (h : headerAt? cs = some (.ok (d, after))) : ∃ name, d = .header name := by
  obtain ⟨r, -, heq⟩ := Option.map_eq_some_iff.mp h
  cases heq
  exact ⟨_, rfl⟩

theorem eq_of_referenceAt? {cs after : List Char} {d : Declaration}
    (h : referenceAt? cs = some (.ok (d, after))) : d = .reference := by
  obtain ⟨r, -, heq⟩ := Option.map_eq_some_iff.mp h
  cases heq
  rfl

theorem exists_of_terminalAt? {cs after : List Char} {d : Declaration}
    (h : terminalAt? cs = some (.ok (d, after))) : ∃ name returns, d = .terminal name returns := by
  obtain ⟨r, -, heq⟩ := Option.map_eq_some_iff.mp h
  obtain ⟨s, -, heq⟩ := exists_of_map_eq_ok heq
  cases heq
  exact ⟨_, _, rfl⟩

theorem exists_of_interfaceAt? {notes : Annotations} {cs after : List Char} {d : Declaration}
    (h : interfaceAt? notes cs = some (.ok (d, after))) : ∃ i, d = .interface i := by
  obtain ⟨r, -, heq⟩ := Option.map_eq_some_iff.mp h
  dsimp only at heq
  split at heq
  · cases heq
  split at heq
  · cases heq
  · obtain ⟨ps, -, heq⟩ := exists_of_map_eq_ok heq
    cases heq
    exact ⟨_, rfl⟩

theorem exists_of_aliasAt? {notes : Annotations} {cs after : List Char} {d : Declaration}
    (h : aliasAt? notes cs = some (.ok (d, after))) : ∃ t, d = .alias t := by
  rw [aliasAt?_eq] at h
  obtain ⟨r, -, heq⟩ := Option.map_eq_some_iff.mp h
  dsimp only at heq
  cases hbody : body r.2 with
  | error fault =>
    rw [hbody] at heq
    cases heq
  | ok s =>
    simp only [hbody, Except.bind] at heq
    split at heq
    · cases heq
    · cases heq
      exact ⟨_, rfl⟩

theorem exists_of_ruleAt? {notes : Annotations} {cs after : List Char} {d : Declaration}
    (h : ruleAt? notes cs = some (.ok (d, after))) : d = .fragment ∨ ∃ r, d = .rule r := by
  obtain ⟨r, -, heq⟩ := Option.map_eq_some_iff.mp h
  obtain ⟨s, -, heq⟩ := exists_of_map_eq_ok heq
  dsimp only at heq
  split at heq
  · cases heq
    exact .inl rfl
  · cases heq
    exact .inr ⟨_, rfl⟩

section Kinds

variable {notes : Annotations} {cs after : List Char}

/-- References are read by one kind. -/
theorem kind_of_reference : ∀ kind ∈ kinds notes,
    kind cs = some (.ok (.reference, after)) → kind = referenceAt? := by
  refine forall_kinds.mpr ⟨fun h ↦ ?_, fun _ ↦ rfl, fun h ↦ ?_, fun h ↦ ?_, fun h ↦ ?_, fun h ↦ ?_⟩
  · exact nomatch exists_of_headerAt? h
  · exact nomatch exists_of_terminalAt? h
  · exact nomatch exists_of_interfaceAt? h
  · exact nomatch exists_of_aliasAt? h
  · exact nomatch exists_of_ruleAt? h

/-- Terminals are read by one kind. -/
theorem kind_of_terminal {name : String} {returns : Option String} : ∀ kind ∈ kinds notes,
    kind cs = some (.ok (.terminal name returns, after)) → kind = terminalAt? := by
  refine forall_kinds.mpr ⟨fun h ↦ ?_, fun h ↦ ?_, fun _ ↦ rfl, fun h ↦ ?_, fun h ↦ ?_, fun h ↦ ?_⟩
  · exact nomatch exists_of_headerAt? h
  · exact nomatch eq_of_referenceAt? h
  · exact nomatch exists_of_interfaceAt? h
  · exact nomatch exists_of_aliasAt? h
  · exact nomatch exists_of_ruleAt? h

/-- Interfaces are read by one kind. -/
theorem kind_of_interface {i : Interface} : ∀ kind ∈ kinds notes,
    kind cs = some (.ok (.interface i, after)) → kind = interfaceAt? notes := by
  refine forall_kinds.mpr ⟨fun h ↦ ?_, fun h ↦ ?_, fun h ↦ ?_, fun _ ↦ rfl, fun h ↦ ?_, fun h ↦ ?_⟩
  · exact nomatch exists_of_headerAt? h
  · exact nomatch eq_of_referenceAt? h
  · exact nomatch exists_of_terminalAt? h
  · exact nomatch exists_of_aliasAt? h
  · exact nomatch exists_of_ruleAt? h

/-- Aliases are read by one kind. -/
theorem kind_of_alias {t : TypeAlias} : ∀ kind ∈ kinds notes,
    kind cs = some (.ok (.alias t, after)) → kind = aliasAt? notes := by
  refine forall_kinds.mpr ⟨fun h ↦ ?_, fun h ↦ ?_, fun h ↦ ?_, fun h ↦ ?_, fun _ ↦ rfl, fun h ↦ ?_⟩
  · exact nomatch exists_of_headerAt? h
  · exact nomatch eq_of_referenceAt? h
  · exact nomatch exists_of_terminalAt? h
  · exact nomatch exists_of_interfaceAt? h
  · exact nomatch exists_of_ruleAt? h

/-- Rules and fragments are read by one kind. -/
theorem kind_of_rule {d : Declaration} (hd : d = .fragment ∨ ∃ r, d = .rule r) :
    ∀ kind ∈ kinds notes, kind cs = some (.ok (d, after)) → kind = ruleAt? notes := by
  refine forall_kinds.mpr ⟨fun h ↦ ?_, fun h ↦ ?_, fun h ↦ ?_, fun h ↦ ?_, fun h ↦ ?_, fun _ ↦ rfl⟩
  · obtain ⟨name, rfl⟩ := exists_of_headerAt? h
    exact nomatch hd
  · obtain rfl := eq_of_referenceAt? h
    exact nomatch hd
  · obtain ⟨name, returns, rfl⟩ := exists_of_terminalAt? h
    exact nomatch hd
  · obtain ⟨i, rfl⟩ := exists_of_interfaceAt? h
    exact nomatch hd
  · obtain ⟨t, rfl⟩ := exists_of_aliasAt? h
    exact nomatch hd

end Kinds

/-- A literal stands in a declaration, between `start` and `post`, and nothing in its contents, be
they `c` or `c'`, is taken for a part of the declaration. -/
inductive Sheltered (q : Char) (c c' start post : List Char) : Declaration → Prop where
  /-- The literal is that of a reference to a grammar. -/
  | inReference (head : keyword? "import" start = some []) : Sheltered q c c' start post .reference
  /-- The literal stands in a terminal. -/
  | inTerminal {name : String} {returns : Option String} {b y after : List Char}
    (head : terminalHead? start = some (name, returns, b)) (outside : EndsOutside b)
    (statement : statement? .plain post = some (y, after)) :
    Sheltered q c c' start post (.terminal name returns)
  /-- The literal stands in the body of an interface, and its contents hold nothing that the body is
  cut at. -/
  | inInterface {i : Interface} {name : String} {superTypes : List String} {b : List Char}
    (head : interfaceHead? start = some (name, superTypes, b)) (inside : '}' ∉ b)
    (cuts : ∀ d ∈ c, cutsInterface d = false) (cuts' : ∀ d ∈ c', cutsInterface d = false) :
    Sheltered q c c' start post (.interface i)
  /-- The literal stands in an alias, and its contents hold no bars; it begins a member, or there are
  no quotes in it. -/
  | inAlias {t : TypeAlias} {name : String} {b y after : List Char}
    (head : aliasHead? start = some (name, b)) (outside : EndsOutside b)
    (statement : statement? .plain post = some (y, after)) (bar : '|' ∉ c) (bar' : '|' ∉ c')
    (member : BeginsMember (trimLeft b) ∨ QuoteFree c) : Sheltered q c c' start post (.alias t)
  /-- The literal stands in a fragment. -/
  | inFragment {head : RuleHead} {b y after : List Char} (head_eq : ruleHead? start = some (head, b))
    (outside : EndsOutside b) (statement : statement? .plain post = some (y, after)) :
    Sheltered q c c' start post .fragment
  /-- The literal stands in a rule, where it is shielded. -/
  | inRule {r : Rule} {head : RuleHead} {b y after : List Char}
    (head_eq : ruleHead? start = some (head, b)) (outside : EndsOutside b)
    (statement : statement? .plain post = some (y, after))
    (shielded : Shielded q c c' (trimLeft b) (trimRight y)) :
    Sheltered q c c' start post (.rule r)

/-- The rules with one literal and with another. -/
theorem ruleRefilled_enclosed (hq : isQuote q = true) (hc : Contents q c)
    (hc' : PlainContents c') {x y : List Char} (hshield : Shielded q c c' x y) (name : String)
    (returns : Option String) (notes : Annotations) : RuleRefilled q c c' ⟨name, returns, x ++ enclosed q c y, notes⟩
      ⟨name, returns, x ++ enclosed q c' y, notes⟩ where
  name := rfl
  returns := rfl
  annotations := rfl
  produced types := (Rule.produced_enclosed hq hc hc' hshield name returns notes types).symm
  alternatives := (isAlternatives_enclosed hq hc hc' hshield).symm
  members hlists name notes := by
    rcases hshield.alternatives with ⟨hbar, hbar', hmember⟩ | ⟨hnone, -⟩
    · exact aliasOf_enclosed hq hc hc' hbar hbar' hmember name y notes
    · dsimp only at hlists
      rw [hnone] at hlists
      cases hlists

/-- The declaration that a literal stands in ends where it ended, and differs in the literal at
most. -/
theorem declaration_refilled (hq : isQuote q = true) (hc : Contents q c)
    (hc' : PlainContents c') {notes : Annotations} {start post after : List Char} {d : Declaration}
    (hshelter : Sheltered q c c' start post d)
    (h : declaration notes (start ++ enclosed q c post) = .ok (d, after)) :
    ∃ d', declaration notes (start ++ enclosed q c' post) = .ok (d', after) ∧
      (d' = d ∨ DeclarationRefilled q c c' d.alias? d d') := by
  obtain ⟨kind, hkind, hread, hothers⟩ := exists_kind_of_enclosed hq hc hc' h
  cases hshelter with
  | inReference head =>
    obtain rfl := kind_of_reference kind hkind hread
    rw [referenceAt?_enclosed hq hc head] at hread
    cases hread
    exact ⟨_, hothers _ (referenceAt?_enclosed hq (hc'.contents hq) head _), .inl rfl⟩
  | inTerminal head outside statement =>
    obtain rfl := kind_of_terminal kind hkind hread
    rw [terminalAt?_enclosed hq hc head outside statement] at hread
    cases hread
    exact ⟨_, hothers _ (terminalAt?_enclosed hq (hc'.contents hq) head outside statement), .inl rfl⟩
  | inInterface head inside cuts cuts' =>
    -- the type of a property does not tell which members its union has
    obtain rfl := kind_of_interface kind hkind hread
    exact ⟨_, hothers _ (interfaceAt?_enclosed hq hc hc' cuts cuts' head inside hread), .inl rfl⟩
  | inAlias head outside statement bar bar' member =>
    -- the definition keeps the literal, and so does a member
    obtain rfl := kind_of_alias kind hkind hread
    rw [aliasAt?_enclosed hq hc head outside statement] at hread
    cases hread
    exact ⟨_, hothers _ (aliasAt?_enclosed hq (hc'.contents hq) head outside statement),
      .inr (.ofAlias rfl (aliasOf_enclosed hq hc hc' bar bar' member _ _ _))⟩
  | @inFragment head b y after' head_eq outside statement =>
    obtain rfl := kind_of_rule (.inl rfl) kind hkind hread
    have hread' : ruleAt? notes (start ++ enclosed q c' post) = _ :=
      ruleAt?_enclosed hq (hc'.contents hq) head_eq outside statement
    rw [ruleAt?_enclosed hq hc head_eq outside statement] at hread
    cases hfragment : head.fragment with
    | true =>
      rw [hfragment] at hread hread'
      cases hread
      exact ⟨_, hothers _ hread', .inl rfl⟩
    | false =>
      rw [hfragment] at hread
      cases hread
  | @inRule r head b y after' head_eq outside statement shielded =>
    obtain rfl := kind_of_rule (.inr ⟨r, rfl⟩) kind hkind hread
    have hread' : ruleAt? notes (start ++ enclosed q c' post) = _ :=
      ruleAt?_enclosed hq (hc'.contents hq) head_eq outside statement
    rw [ruleAt?_enclosed hq hc head_eq outside statement] at hread
    cases hfragment : head.fragment with
    | true =>
      rw [hfragment] at hread
      cases hread
    | false =>
      rw [hfragment] at hread hread'
      cases hread
      exact ⟨_, hothers _ hread', .inr (.ofRule rfl (ruleRefilled_enclosed hq hc hc' shielded _ _ _))⟩

/-! ## The grammar -/

/-- A literal in a source, outside comments, between `pre` and `post`: the scanner comes to the
declaration that it stands in. -/
structure LiteralAt (q : Char) (c pre post : List Char) where
  /-- The text before the literal without comments. -/
  before : List Char
  /-- The text behind the literal without comments. -/
  behind : List Char
  /-- Comments before the literal are closed before it. -/
  before_eq : blankComments pre = .ok before
  /-- Comments behind the literal are closed. -/
  behind_eq : blankComments post = .ok behind
  /-- The declarations before the one that the literal stands in. -/
  declared : List Declaration
  /-- The notes that have collected before that one. -/
  notes : Annotations
  /-- The text of that one up to the literal. -/
  start : List Char
  /-- The declaration that the literal stands in. -/
  declaration : Declaration
  /-- What follows that one. -/
  after : List Char
  /-- The scanner comes there. -/
  scans : ScansTo [] (before ++ enclosed q c behind) declared notes (start ++ enclosed q c behind)
  /-- No blank and no comment is there. -/
  starts : ∃ d rest, start = d :: rest ∧ isBlank d = false ∧ d ≠ '/'
  /-- The declaration is read there. -/
  reads : Grammar.declaration notes (start ++ enclosed q c behind) = .ok (declaration, after)

theorem scan_of_literalAt {notes : Annotations} {text start rest after : List Char}
    {ds : List Declaration} {d : Declaration} (hscans : ScansTo [] text ds notes (start ++ rest))
    (hstarts : ∃ e more, start = e :: more ∧ isBlank e = false ∧ e ≠ '/')
    (hreads : declaration notes (start ++ rest) = .ok (d, after)) :
    scan [] text = (scan [] after).map fun more ↦ ds ++ d :: more := by
  obtain ⟨e, more, rfl, hblank, hslash⟩ := hstarts
  rw [List.cons_append] at hscans hreads
  rw [hscans.scan_eq, scan_declaration ⟨e, more ++ rest, rfl, hblank, hslash⟩ hreads]
  cases scan [] after <;> rfl

/-- **The contents of a literal are opaque.** If a grammar is read with one literal, it is read with
another in its place, and the two grammars agree but for the alias that the declaration with the
literal makes. -/
theorem parse_refilled (hq : isQuote q = true) (hc : Contents q c) (hc' : PlainContents c')
    {pre post : List Char} (place : LiteralAt q c pre post)
    (hsheltered : Sheltered q c c' place.start place.behind place.declaration)
    {projectName : String} {file : Option Path} {g : Grammar}
    (h : parse (String.ofList (pre ++ enclosed q c post)) projectName file = .ok g) :
    ∃ g', parse (String.ofList (pre ++ enclosed q c' post)) projectName file = .ok g' ∧
      GrammarRefilled q c c' place.declaration.alias? g g' := by
  obtain ⟨d', hread', hd'⟩ := declaration_refilled hq hc hc' hsheltered place.reads
  have hscan := scan_of_literalAt place.scans place.starts place.reads
  have hscan' := scan_of_literalAt (place.scans.enclosed hq hc hc') place.starts hread'
  have htext := blankComments_enclosed hq hc place.before_eq place.behind_eq
  have htext' := blankComments_enclosed hq (hc'.contents hq) place.before_eq place.behind_eq
  cases hafter : scan [] place.after with
  | error fault =>
    rw [parse, String.toList_ofList, declarations, htext] at h
    dsimp only at h
    rw [hscan, hafter] at h
    cases h
  | ok more =>
    have hparse : ∀ {text : List Char} {blanked : List Char} {d : Declaration},
        blankComments text = .ok blanked →
        scan [] blanked = (scan [] place.after).map (fun more ↦ place.declared ++ d :: more) →
        parse (String.ofList text) projectName file =
          .ok (assemble projectName file (place.declared ++ d :: more)) := by
      intro text blanked d hblanked hscan
      rw [parse, String.toList_ofList, declarations, hblanked]
      dsimp only
      rw [hscan, hafter]
      rfl
    rw [hparse htext hscan, Except.ok.injEq] at h
    refine ⟨_, hparse htext' hscan', ?_⟩
    rw [← h]
    rcases hd' with rfl | hd'
    · exact assemble_refilled (.same _) projectName file
    · exact assemble_refilled (.replaced _ _ hd') projectName file

theorem parse_refilled_operator :
    ∃ g g', parse "type T = 'a' | 'b';\nR: op='+' left=ID;" "" none = .ok g ∧
      parse "type T = 'a' | 'b';\nR: op='||' left=ID;" "" none = .ok g' ∧
      GrammarRefilled '\'' ['+'] ['|', '|'] none g g' := by
  let place : LiteralAt '\'' ['+'] "type T = 'a' | 'b';\nR: op=".toList " left=ID;".toList :=
    { before := "type T = 'a' | 'b';\nR: op=".toList
      behind := " left=ID;".toList
      before_eq := rfl
      behind_eq := rfl
      declared := [.alias ⟨"T", "'a' | 'b'", ["a", "b"], []⟩]
      notes := []
      start := "R: op=".toList
      declaration := .rule ⟨"R", none, "op='+' left=ID".toList, []⟩
      after := []
      scans := .declaration rfl (by decide) rfl (.blank rfl (.refl _ _))
      starts := ⟨'R', _, rfl, rfl, by decide⟩
      reads := rfl }
  have hcontents : Contents '\'' ['+'] := ⟨by decide, rfl, by decide⟩
  have hplain : PlainContents ['|', '|'] := ⟨by decide, by decide, by decide, by decide⟩
  have hquote : quoteAfter none (blankActions "op=".toList) = none := by decide +kernel
  have hshield : Shielded '\'' ['+'] ['|', '|'] "op=".toList " left=ID".toList :=
    { inert := inert_of_not_mem (by decide) (by decide)
      inert' := inert_of_not_mem (by decide) (by decide)
      groups := fun e he ↦ nomatch hquote.symm.trans he
      values := fun _ _ _ ↦ ⟨by decide, by decide⟩
      alternatives := .inr ⟨by decide +kernel, by decide +kernel⟩ }
  have hsheltered : Sheltered '\'' ['+'] ['|', '|'] place.start place.behind place.declaration :=
    .inRule (b := " op=".toList) (y := " left=ID".toList) rfl rfl rfl hshield
  have hread : (parse "type T = 'a' | 'b';\nR: op='+' left=ID;" "" none).toOption.isSome = true :=
    by decide +kernel
  cases hg : parse "type T = 'a' | 'b';\nR: op='+' left=ID;" "" none with
  | error e =>
    rw [hg] at hread
    cases hread
  | ok g =>
    obtain ⟨g', hg', hrefilled⟩ := parse_refilled rfl hcontents hplain place hsheltered hg
    exact ⟨g, g', rfl, hg', hrefilled⟩

/-- Comments are looked for in literals too: with the opening of a comment as its contents, a literal
takes all that follows it out of the grammar. -/
theorem comment_opened_in_literal :
    (parse "type T = 'a' | 'b';" "" none).toOption.isSome = true ∧
      ∀ g, parse "type T = '/*' | 'b';" "" none ≠ .ok g := by
  refine ⟨by decide +kernel, fun g h ↦ ?_⟩
  have hnone : (parse "type T = '/*' | 'b';" "" none).toOption.isSome = false := by decide +kernel
  rw [h] at hnone
  cases hnone

end DiagramForge.Grammar
