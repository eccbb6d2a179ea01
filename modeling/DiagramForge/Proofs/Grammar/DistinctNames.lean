import DiagramForge.Grammar.Validation
import DiagramForge.Proofs.Distinct
import DiagramForge.Proofs.Grammar.Contributions

/-!
# Distinct names

If the explicit declarations of a grammar have distinct names, so have all interfaces and aliases that
are made of it, unless a data type rule clashes with something: `parse_names_nodup_iff`.

Inferred interfaces and aliases for alternatives are added under names that are free, and so are the
interfaces for returned types that nothing declares. Only an alias for a data type is added without a
look at the names that are taken: `declared_twice` shows what comes of it.
-/

namespace DiagramForge.Grammar

/-! ## Repeated names -/

theorem repeats_eq_nil_iff {seen names : List String} :
    repeats seen names = [] ↔ names.Nodup ∧ ∀ name ∈ names, name ∉ seen := by
  induction names generalizing seen with
  | nil => simp [repeats]
  | cons name names ih =>
    rw [repeats]
    by_cases hseen : name ∈ seen
    · simp [hseen]
    · simp only [List.contains_eq_mem, hseen, decide_false, Bool.false_eq_true, if_false, ih,
        List.nodup_cons, List.mem_cons, not_or]
      constructor
      · rintro ⟨hnodup, hnot⟩
        refine ⟨⟨fun hmem ↦ (hnot name hmem).1 rfl, hnodup⟩, ?_⟩
        rintro n (rfl | hn)
        · exact hseen
        · exact (hnot n hn).2
      · rintro ⟨⟨hmem, hnodup⟩, hnot⟩
        refine ⟨hnodup, fun n hn ↦ ⟨?_, hnot n (.inr hn)⟩⟩
        rintro rfl
        exact hmem hn

/-- Faults of references and of inheritance declare nothing twice. -/
theorem duplicate_mem_faults_iff {g : Grammar} {name : String} :
    .duplicate name ∈ g.faults ↔ name ∈ repeats [] (g.interfaceNames ++ g.typeNames) := by
  have hreferences : .duplicate name ∉ g.interfaces.flatMap g.referenceFaults := by
    simp [referenceFaults]
  simp [faults, hreferences]

/-- No name is reported to be declared twice if and only if the names are distinct. -/
theorem duplicate_not_mem_faults_iff {g : Grammar} :
    (∀ name, .duplicate name ∉ g.faults) ↔ (g.interfaceNames ++ g.typeNames).Nodup := by
  have hrepeats := @repeats_eq_nil_iff [] (g.interfaceNames ++ g.typeNames)
  simp only [List.not_mem_nil, not_false_eq_true, implies_true, and_true] at hrepeats
  simp only [duplicate_mem_faults_iff, ← List.eq_nil_iff_forall_not_mem]
  exact hrepeats

/-! ## Assembled grammars -/

/-- The names of the explicit declarations. -/
def explicitNames (ds : List Declaration) : List String :=
  (explicitInterfaces ds).map (·.name) ++ (explicitAliases ds).map (·.name)

/-- What rules contribute to a grammar with the declarations `ds`. -/
def contributed (ds : List Declaration) (rs : List Rule) : Contribution :=
  rs.foldl (Contribution.addRule ((explicitInterfaces ds).map (·.name)) (ruleTypes ds))
    ⟨[], explicitAliases ds⟩

/-- No rule that is taken for a data type has a name that is taken: neither that of an explicit
declaration, nor that of a type that a rule before it produces, lists the alternatives of, or is. -/
def DataTypesFree (ds : List Declaration) : Prop :=
  ∀ before r after, ruleDeclarations ds = before ++ r :: after →
    ¬ (contributed ds before).Clashes ((explicitInterfaces ds).map (·.name)) (ruleTypes ds) r

/-- The interfaces for returned types have names of their own. -/
theorem nodup_names_undeclaredReturns {explicit : List Interface} {types : RuleTypes}
    {k : Contribution} :
    ((explicit ++ k.interfaces).map (·.name) ++ undeclaredReturns explicit types k ++
        k.aliases.map (·.name)).Nodup ↔ (k.names (explicit.map (·.name))).Nodup := by
  have hfree : ∀ name ∈ undeclaredReturns explicit types k,
      name ∉ k.names (explicit.map (·.name)) := by
    intro name hname
    simp only [undeclaredReturns, List.mem_filter, Bool.and_eq_true, Bool.not_eq_true',
      ← Bool.not_eq_true, any_name_eq_true_iff] at hname
    rw [Contribution.mem_names_iff]
    simp [hname]
  have hnodup : (undeclaredReturns explicit types k).Nodup := (nodup_eraseDups _).filter _
  have hperm : ((explicit ++ k.interfaces).map (·.name) ++ undeclaredReturns explicit types k ++
      k.aliases.map (·.name)).Perm
        (undeclaredReturns explicit types k ++ k.names (explicit.map (·.name))) := by
    rw [Contribution.names, List.map_append, ← List.append_assoc]
    exact List.perm_append_comm.append_right _
  rw [hperm.nodup_iff, List.nodup_append]
  constructor
  · rintro ⟨-, h, -⟩
    exact h
  · intro h
    exact ⟨hnodup, h, fun a ha b hb heq ↦ hfree a ha (heq ▸ hb)⟩

theorem nodup_names_assemble {ds : List Declaration} (hexplicit : (explicitNames ds).Nodup)
    (projectName : String) (file : Option Path) :
    ((assemble projectName file ds).interfaceNames ++
        (assemble projectName file ds).typeNames).Nodup ↔ DataTypesFree ds := by
  have hnames : (assemble projectName file ds).interfaceNames ++
      (assemble projectName file ds).typeNames =
        (explicitInterfaces ds ++ (contributed ds (ruleDeclarations ds)).interfaces).map (·.name) ++
          undeclaredReturns (explicitInterfaces ds) (ruleTypes ds)
            (contributed ds (ruleDeclarations ds)) ++
          (contributed ds (ruleDeclarations ds)).aliases.map (·.name) := by
    simp [interfaceNames, typeNames, assemble, contributed, Function.comp_def]
  have hstart : (Contribution.names ((explicitInterfaces ds).map (·.name))
      ⟨[], explicitAliases ds⟩).Nodup := by
    simpa [Contribution.names, explicitNames] using hexplicit
  rw [hnames, nodup_names_undeclaredReturns, contributed, Contribution.nodup_names_foldl_addRule,
    and_iff_right hstart]
  rfl

/-! ## Parsed grammars -/

theorem parse_eq_ok {text projectName : String} {file : Option Path} {g : Grammar}
    {ds : List Declaration} (hds : declarations text.toList = .ok ds)
    (hg : parse text projectName file = .ok g) : g = assemble projectName file ds := by
  rw [parse, hds] at hg
  exact (Except.ok.inj hg).symm

/-- **Names are distinct unless a data type rule takes one that is taken.** If the explicit
declarations of a text have distinct names, the interfaces and aliases of the grammar have distinct
names exactly if the names of its data types are free, and then no name is reported to be declared
twice. -/
theorem parse_names_nodup_iff {text projectName : String} {file : Option Path} {g : Grammar}
    {ds : List Declaration} (hds : declarations text.toList = .ok ds)
    (hexplicit : (explicitNames ds).Nodup) (hg : parse text projectName file = .ok g) :
    ((g.interfaceNames ++ g.typeNames).Nodup ↔ DataTypesFree ds) ∧
      ((∀ name, .duplicate name ∉ g.faults) ↔ DataTypesFree ds) := by
  obtain rfl := parse_eq_ok hds hg
  exact ⟨nodup_names_assemble hexplicit projectName file,
    duplicate_not_mem_faults_iff.trans (nodup_names_assemble hexplicit projectName file)⟩

theorem parse_names_nodup_sum :
    let text := "interface Node \x7b id: ID \x7d\n" ++
      "Sum: Num {infer Plus.left=current} right=Num;\nUnit returns string: 'm';\nPart: Num | Sum;"
    ∃ ds g, declarations text.toList = .ok ds ∧ (explicitNames ds).Nodup ∧
      parse text "" none = .ok g ∧ DataTypesFree ds ∧
      g.interfaceNames ++ g.typeNames = ["Node", "Plus", "Unit", "Part"] ∧
      ∀ name, .duplicate name ∉ g.faults := by
  intro text
  have hread : (declarations text.toList).toOption.map (fun ds ↦ (explicitNames ds,
      (assemble "" none ds).interfaceNames ++ (assemble "" none ds).typeNames)) =
        some (["Node"], ["Node", "Plus", "Unit", "Part"]) := by
    decide +kernel
  rcases hds : declarations text.toList with fault | ds
  · simp [hds, Except.toOption] at hread
  · simp only [hds, Except.toOption, Option.map_some, Option.some.injEq, Prod.mk.injEq] at hread
    have hg : parse text "" none = .ok (assemble "" none ds) := by
      rw [parse, hds]
    have hexplicit : (explicitNames ds).Nodup := by
      rw [hread.1]
      decide
    obtain ⟨hfree, hreport⟩ := parse_names_nodup_iff hds hexplicit hg
    have hdata : DataTypesFree ds := by
      rw [← hfree, hread.2]
      decide
    exact ⟨ds, _, rfl, hexplicit, hg, hdata, hread.2, hreport.mpr hdata⟩

/-- The alias for a data type is added although the name is that of a declared alias: the explicit
declarations have distinct names and the rules have, but the grammar has a name twice. -/
theorem declared_twice :
    let text := "type Kind = 'a' | 'b';\nKind returns string: 'a' | 'b';"
    ∃ ds g, declarations text.toList = .ok ds ∧ (explicitNames ds).Nodup ∧
      ((ruleDeclarations ds).map (·.name)).Nodup ∧ parse text "" none = .ok g ∧
      ¬ (g.interfaceNames ++ g.typeNames).Nodup ∧ .duplicate "Kind" ∈ g.faults := by
  intro text
  have hread : (declarations text.toList).toOption.map (fun ds ↦ (explicitNames ds,
      (ruleDeclarations ds).map (·.name), (assemble "" none ds).interfaceNames ++
        (assemble "" none ds).typeNames)) = some (["Kind"], ["Kind"], ["Kind", "Kind"]) := by
    decide +kernel
  rcases hds : declarations text.toList with fault | ds
  · simp [hds, Except.toOption] at hread
  · simp only [hds, Except.toOption, Option.map_some, Option.some.injEq, Prod.mk.injEq] at hread
    have hg : parse text "" none = .ok (assemble "" none ds) := by
      rw [parse, hds]
    refine ⟨ds, _, rfl, ?_, ?_, hg, ?_, ?_⟩
    · simp [hread.1]
    · simp [hread.2.1]
    · simp [hread.2.2]
    · rw [duplicate_mem_faults_iff, hread.2.2]
      decide

end DiagramForge.Grammar
