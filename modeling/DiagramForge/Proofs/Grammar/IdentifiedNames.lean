import DiagramForge.Proofs.Entries
import DiagramForge.Proofs.Grammar.Contributions
import DiagramForge.Proofs.Grammar.DistinctNames
import DiagramForge.Proofs.Grammar.Identifiers
import DiagramForge.Grammar.Decode

/-!
# Identifiers in grammars

Every name in a grammar that is read from a text is an identifier: `identified_assemble`. Names come
from declarations, which have identifiers only, or from the bodies of rules: from their assignments
and actions, which are read with identifiers at their places, and from the tables of types. What
rules contribute is identified after each of them (`Contribution.Identified.addRule`), so it is in
the end.

A property can be refused for a blank name or type. No property that is made while a text is read is
blank, whether it gets into the grammar or not: `Constructed.identified` and `IsName.solid`.
-/

namespace DiagramForge

open Text Grammar

namespace Grammar

/-! ## What the names in rules stand for -/

/-- The types that names in rules stand for are identifiers. -/
structure RuleTypes.Identified (types : RuleTypes) : Prop where
  /-- The types of terminals. -/
  terminals : ∀ e ∈ types.terminals, IsName e.2
  /-- The types of rules. -/
  rules : ∀ e ∈ types.rules, IsName e.2

theorem isName_of_mem_terminalTypes {ds : List Declaration} (h : ∀ d ∈ ds, d.Identified) :
    ∀ e ∈ terminalTypes ds, IsName e.2 := by
  have hcommon : ∀ e ∈ commonTerminals, IsName e.2 := by decide
  rw [terminalTypes]
  generalize commonTerminals = types at hcommon
  induction ds generalizing types with
  | nil => exact hcommon
  | cons d ds ih =>
    obtain ⟨hd, hds⟩ := List.forall_mem_cons.mp h
    rw [List.foldl_cons]
    refine ih hds _ ?_
    cases d with
    | terminal name returns =>
      intro e he
      rcases Entries.mem_of_mem_set he with he | rfl
      · exact hcommon e he
      · cases returns with
        | none =>
          have hstring : IsName "string" := by decide
          exact hstring
        | some type => exact hd.2 type rfl
    | _ => exact hcommon

theorem identified_of_mem_ruleDeclarations {ds : List Declaration} (h : ∀ d ∈ ds, d.Identified) :
    ∀ r ∈ ruleDeclarations ds, r.Identified := by
  intro r hr
  obtain ⟨d, hd, heq⟩ := List.mem_filterMap.mp hr
  split at heq
  · cases heq
    exact h _ hd
  · cases heq

theorem identified_ruleTypes {ds : List Declaration} (h : ∀ d ∈ ds, d.Identified) :
    (ruleTypes ds).Identified where
  terminals := isName_of_mem_terminalTypes h
  rules := by
    intro e he
    obtain ⟨r, hr, heq⟩ := List.mem_filterMap.mp (Entries.mem_of_mem_ofList he)
    split at heq
    next type hreturns =>
      split at heq
      · cases heq
      · cases heq
        exact (identified_of_mem_ruleDeclarations h r hr).returns type hreturns
    next => cases heq

/-- The type of a rule is an identifier. -/
theorem Rule.Identified.target {r : Rule} (h : r.Identified) : IsName r.target := by
  rw [Rule.target]
  cases hreturns : r.returns with
  | none => exact h.name
  | some type => exact h.returns type hreturns

/-! ## Assignments -/

/-- The names in what is assigned are identifiers. -/
def AssignedValue.Identified : AssignedValue → Prop
  | reference type => IsName type
  | keyword => True
  | call name => IsName name

theorem identified_of_reference? {cs rest : List Char} {v : AssignedValue}
    (h : reference? cs = some (v, rest)) : v.Identified := by
  obtain ⟨⟨type, cs⟩, hident, h⟩ := Option.bind_eq_some_iff.mp h
  have htype := isName_of_ident? hident
  dsimp only at h
  split at h
  · cases h
    exact htype
  · obtain ⟨_, -, heq⟩ := Option.map_eq_some_iff.mp h
    cases heq
    exact htype

theorem identified_of_value? {cs rest : List Char} {v : AssignedValue}
    (h : value? cs = some (v, rest)) : v.Identified := by
  rw [value?.eq_def] at h
  split at h
  · exact identified_of_reference? h
  · cases h
    trivial
  · split at h
    · cases h
      trivial
    · obtain ⟨⟨name, _⟩, hident, heq⟩ := Option.map_eq_some_iff.mp h
      cases heq
      exact isName_of_ident? hident

/-- The names in an assignment are identifiers. -/
structure Assignment.Identified (a : Assignment) : Prop where
  /-- The feature. -/
  feature : IsName a.feature
  /-- The names in what is assigned. -/
  value : a.value.Identified

theorem identified_of_assignment? {cs rest : List Char} {a : Assignment}
    (h : assignment? cs = some (a, rest)) : a.Identified := by
  obtain ⟨⟨feature, _⟩, hident, h⟩ := Option.bind_eq_some_iff.mp h
  obtain ⟨⟨operator, _⟩, -, h⟩ := Option.bind_eq_some_iff.mp h
  obtain ⟨⟨value, _⟩, hvalue, heq⟩ := Option.map_eq_some_iff.mp h
  cases heq
  exact ⟨isName_of_ident? hident, identified_of_value? hvalue⟩

theorem identified_of_mem_occurrences {offset : Nat} {cs : List Char} :
    ∀ o ∈ occurrences offset cs, o.assignment.Identified := by
  fun_induction occurrences offset cs with
  | case1 => exact List.forall_mem_nil _
  | case2 _ _ _ _ _ hread _ _ ih =>
    exact List.forall_mem_cons.mpr ⟨identified_of_assignment? hread, ih⟩
  | case3 _ _ _ _ _ _ _ ih | case4 _ _ _ _ ih => exact ih

/-- The type of an assignment is that of a reference or a primitive, or a table has it, or it is the
name that is called. -/
theorem Assignment.Identified.type {a : Assignment} {types : RuleTypes} (ha : a.Identified)
    (htypes : types.Identified) : IsName (a.type types) := by
  have hboolean : IsName "boolean" := by decide
  have hstring : IsName "string" := by decide
  have hvalue := ha.value
  rw [Assignment.type]
  cases ha : a.value with
  | reference type =>
    rw [ha] at hvalue
    exact hvalue
  | keyword =>
    dsimp only
    split
    · exact hboolean
    · exact hstring
  | call name =>
    rw [ha] at hvalue
    dsimp only
    split
    · exact hboolean
    split
    next type hterminal => exact htypes.terminals _ (Entries.mem_of_get? hterminal)
    next =>
      cases hrule : Entries.get? types.rules name with
      | none => exact hvalue
      | some type => exact htypes.rules _ (Entries.mem_of_get? hrule)

/-- The property of an assignment has identifiers for names. -/
theorem identified_property {o : Occurrence} {types : RuleTypes} (ho : o.assignment.Identified)
    (htypes : types.Identified) (body : List Char) : (o.property types body).Identified :=
  ⟨ho.feature, ho.type htypes⟩

/-! ## Actions -/

/-- The names in an action are identifiers. -/
structure Action.Identified (a : Action) : Prop where
  /-- The type. -/
  type : IsName a.type
  /-- The feature. -/
  feature : ∀ f ∈ a.feature, IsName f.1

theorem isName_of_currentFeature? {cs rest : List Char} {f : String × Bool}
    (h : currentFeature? cs = some (f, rest)) : IsName f.1 := by
  obtain ⟨⟨name, _⟩, hident, h⟩ := Option.bind_eq_some_iff.mp h
  obtain ⟨_, -, hident⟩ := Option.bind_eq_some_iff.mp hident
  obtain ⟨_, -, h⟩ := Option.bind_eq_some_iff.mp h
  obtain ⟨_, -, heq⟩ := Option.map_eq_some_iff.mp h
  cases heq
  exact isName_of_ident? hident

theorem identified_of_actionBody? {cs rest : List Char} {a : Action}
    (h : actionBody? cs = some (a, rest)) : a.Identified := by
  obtain ⟨⟨type, cs⟩, hident, h⟩ := Option.bind_eq_some_iff.mp h
  have htype := isName_of_ident? hident
  dsimp only at h
  split at h
  next hfeature =>
    obtain ⟨⟨feature, _⟩, hcurrent, hmark⟩ := Option.bind_eq_some_iff.mp hfeature
    obtain ⟨_, -, heq⟩ := Option.map_eq_some_iff.mp hmark
    cases heq
    cases h
    refine ⟨htype, ?_⟩
    rintro _ ⟨⟩
    exact isName_of_currentFeature? hcurrent
  next =>
    obtain ⟨_, -, heq⟩ := Option.map_eq_some_iff.mp h
    cases heq
    exact ⟨htype, fun _ h ↦ absurd h (Option.not_mem_none _)⟩

theorem identified_of_action? {cs rest : List Char} {a : Action}
    (h : action? cs = some (a, rest)) : a.Identified := by
  obtain ⟨_, -, h⟩ := Option.bind_eq_some_iff.mp h
  obtain ⟨_, -, h⟩ := List.exists_of_findSome?_eq_some h
  exact identified_of_actionBody? h

theorem identified_of_mem_bodyParts {cs : List Char} {a : Action} {width : Nat}
    (h : .action a width ∈ bodyParts cs) : a.Identified := by
  fun_induction bodyParts cs with
  | case1 => cases h
  | case2 _ _ a' _ _ hread ih =>
    rcases List.mem_cons.mp h with heq | h
    · cases heq
      obtain ⟨⟨_, _⟩, haction, hshorter⟩ := Option.bind_eq_some_iff.mp hread
      dsimp only at hshorter
      split at hshorter
      · cases hshorter
        exact identified_of_action? haction
      · cases hshorter
    · exact ih h
  | case3 _ _ _ ih =>
    rcases List.mem_cons.mp h with heq | h
    · cases heq
    · exact ih h

/-- A segment follows an action of the body, if it is not the first one. -/
theorem exists_mem_of_mem_segmentsFrom {current : Segment} {offset : Nat} {parts : List BodyPart}
    {s : Segment} (hs : s ∈ segmentsFrom current offset parts) {a : Action}
    (ha : s.action = some a) :
    current.action = some a ∨ ∃ width, BodyPart.action a width ∈ parts := by
  induction parts generalizing current offset with
  | nil =>
    rw [List.mem_singleton.mp hs] at ha
    exact .inl ha
  | cons part parts ih =>
    cases part with
    | char c =>
      rcases ih hs with h | ⟨width, h⟩
      · exact .inl h
      · exact .inr ⟨width, List.mem_cons_of_mem _ h⟩
    | action a' width' =>
      rcases List.mem_cons.mp hs with rfl | hs
      · exact .inl ha
      · rcases ih hs with h | ⟨width, h⟩
        · cases h
          exact .inr ⟨width', List.mem_cons_self⟩
        · exact .inr ⟨width, List.mem_cons_of_mem _ h⟩

theorem identified_of_mem_segments {cs : List Char} {s : Segment}
    (hs : s ∈ segments (bodyParts cs)) {a : Action} (ha : s.action = some a) : a.Identified := by
  rcases exists_mem_of_mem_segmentsFrom hs ha with h | ⟨width, h⟩
  · cases h
  · exact identified_of_mem_bodyParts h

/-- The property of what an action takes has identifiers for names. -/
theorem Action.Identified.property? {a : Action} {target : String} (ha : a.Identified)
    (htarget : IsName target) : ∀ p ∈ a.property? target, p.Identified := by
  intro p hp
  obtain ⟨⟨name, appends⟩, hfeature, rfl⟩ := Option.map_eq_some_iff.mp hp
  exact ⟨ha.feature _ hfeature, htarget⟩

/-! ## What rules produce -/

/-- A type that a rule produces has identifiers for names. -/
structure Produced.Identified (p : Produced) : Prop where
  /-- Its name. -/
  type : IsName p.type
  /-- Those of its properties. -/
  properties : ∀ q ∈ p.properties, q.Identified

theorem identified_of_mem_addProperty {ps : List Property} {p : Property}
    (hps : ∀ q ∈ ps, q.Identified) (hp : p.Identified) : ∀ q ∈ addProperty ps p, q.Identified := by
  rw [addProperty]
  split
  · rw [List.forall_mem_map]
    intro q hq
    split
    · exact ⟨(hps q hq).name, (hps q hq).type⟩
    · exact hps q hq
  · rw [List.forall_mem_append, List.forall_mem_singleton]
    exact ⟨hps, hp⟩

theorem identified_of_mem_segmentProperties {types : RuleTypes} (htypes : types.Identified)
    (body : List Char) (s : Segment) : ∀ p ∈ segmentProperties types body s, p.Identified := by
  have hfold : ∀ (os : List Occurrence) (ps : List Property),
      (∀ o ∈ os, o.assignment.Identified) → (∀ p ∈ ps, p.Identified) →
      ∀ p ∈ os.foldl (fun ps o ↦ addProperty ps (o.property types body)) ps, p.Identified := by
    intro os
    induction os with
    | nil => exact fun _ _ hps ↦ hps
    | cons o os ih =>
      intro ps hos hps
      obtain ⟨ho, hos⟩ := List.forall_mem_cons.mp hos
      exact ih _ hos (identified_of_mem_addProperty hps (identified_property ho htypes body))
  exact hfold _ [] identified_of_mem_occurrences (List.forall_mem_nil _)

theorem identified_of_mem_produced {r : Rule} {types : RuleTypes} (hr : r.Identified)
    (htypes : types.Identified) : ∀ p ∈ r.produced types, p.Identified := by
  rw [Rule.produced, List.forall_mem_map]
  intro s hs
  have hassigned := identified_of_mem_segmentProperties htypes
    ((bodyParts r.body).flatMap BodyPart.blank) s
  rw [Segment.produced]
  cases haction : s.action with
  | none => exact ⟨hr.target, hassigned⟩
  | some a =>
    have ha := identified_of_mem_segments hs haction
    dsimp only
    split
    next => exact ⟨ha.type, hassigned⟩
    next p hp =>
      refine ⟨ha.type, List.forall_mem_cons.mpr ⟨ha.property? hr.target p hp, ?_⟩⟩
      exact fun q hq ↦ hassigned q (List.mem_of_mem_filter hq)

/-! ## What rules contribute -/

theorem identified_of_mem_mergeInferred {is : List Interface} {i : Interface}
    (his : ∀ j ∈ is, j.Identified) (hi : i.Identified) :
    ∀ j ∈ mergeInferred is i, j.Identified := by
  rw [mergeInferred]
  split
  · rw [List.forall_mem_map]
    intro j hj
    split
    · refine ⟨(his j hj).name, ?_, (his j hj).superTypes⟩
      rw [List.forall_mem_append]
      exact ⟨(his j hj).properties, fun p hp ↦ hi.properties p (List.mem_of_mem_filter hp)⟩
    · exact his j hj
  · rw [List.forall_mem_append, List.forall_mem_singleton]
    exact ⟨his, hi⟩

namespace Contribution

variable {explicit : List String} {types : RuleTypes} {k : Contribution}

/-- What has been contributed has identifiers for names. -/
structure Identified (k : Contribution) : Prop where
  /-- The names of interfaces and in them. -/
  interfaces : ∀ i ∈ k.interfaces, i.Identified
  /-- The names of aliases. -/
  aliases : ∀ t ∈ k.aliases, IsName t.name

theorem Identified.addAlias (hk : k.Identified) {t : TypeAlias} (ht : IsName t.name) :
    ({ k with aliases := k.aliases ++ [t] } : Contribution).Identified where
  interfaces := hk.interfaces
  aliases := by
    rw [List.forall_mem_append, List.forall_mem_singleton]
    exact ⟨hk.aliases, ht⟩

theorem Identified.addProduced (hk : k.Identified) (notes : Annotations) {p : Produced}
    (hp : p.Identified) : (k.addProduced explicit notes p).Identified := by
  rw [Contribution.addProduced]
  split
  · exact hk
  split
  · exact hk
  · have hinferred : ∀ name ∈ ([] : List String), IsName name := List.forall_mem_nil _
    exact ⟨identified_of_mem_mergeInferred hk.interfaces ⟨hp.type, hp.properties, hinferred⟩,
      hk.aliases⟩

theorem Identified.addAllProduced (hk : k.Identified) (notes : Annotations) {ps : List Produced}
    (hps : ∀ p ∈ ps, p.Identified) :
    (ps.foldl (Contribution.addProduced explicit notes) k).Identified := by
  induction ps generalizing k with
  | nil => exact hk
  | cons p ps ih =>
    obtain ⟨hp, hps⟩ := List.forall_mem_cons.mp hps
    exact ih (hk.addProduced notes hp) hps

/-- A rule that is passed over contributes nothing, a data type an alias, and any other rule what it
produces and perhaps an alias for its alternatives. -/
theorem Identified.addRule (hk : k.Identified) (htypes : types.Identified) {r : Rule}
    (hr : r.Identified) : (k.addRule explicit types r).Identified := by
  rcases hpass : k.passesOver explicit r with _ | _
  case true =>
    rw [addRule_of_passesOver hpass]
    exact hk
  rcases hdata : r.isDataType types with _ | _
  case true =>
    obtain ⟨type, hadd⟩ := exists_addRule_of_isDataType hpass hdata
    rw [hadd]
    exact hk.addAlias hr.name
  case false =>
    rw [addRule_of_reads (reads_eq_true_iff.mpr ⟨hpass, hdata⟩)]
    have hadded : ((r.produced types).foldl
        (Contribution.addProduced explicit r.annotations) k).Identified :=
      hk.addAllProduced r.annotations (identified_of_mem_produced hr htypes)
    dsimp only
    split
    · exact hadded.addAlias hr.target
    · exact hadded

theorem Identified.addRules (hk : k.Identified) (htypes : types.Identified) {rs : List Rule}
    (hrs : ∀ r ∈ rs, r.Identified) :
    (rs.foldl (Contribution.addRule explicit types) k).Identified := by
  induction rs generalizing k with
  | nil => exact hk
  | cons r rs ih =>
    obtain ⟨hr, hrs⟩ := List.forall_mem_cons.mp hrs
    exact ih (hk.addRule htypes hr) hrs

end Contribution

/-! ## Grammars -/

/-- The names in a grammar are identifiers. -/
structure Identified (g : Grammar) : Prop where
  /-- The name that the grammar declares. -/
  grammarName : ∀ name ∈ g.grammarName, IsName name
  /-- The names of interfaces and in them. -/
  interfaces : ∀ i ∈ g.interfaces, i.Identified
  /-- The names of aliases. -/
  types : ∀ t ∈ g.types, IsName t.name
  /-- The names of rules. -/
  rules : ∀ name ∈ g.rules, IsName name

theorem identified_assemble {ds : List Declaration} (h : ∀ d ∈ ds, d.Identified)
    (projectName : String) (file : Option Path) : (assemble projectName file ds).Identified := by
  have hexplicit : ∀ i ∈ explicitInterfaces ds, i.Identified := by
    intro i hi
    obtain ⟨d, hd, heq⟩ := List.mem_filterMap.mp hi
    split at heq
    · cases heq
      exact h _ hd
    · cases heq
  have haliases : ∀ t ∈ explicitAliases ds, IsName t.name := by
    intro t ht
    obtain ⟨d, hd, heq⟩ := List.mem_filterMap.mp ht
    split at heq
    · cases heq
      exact h _ hd
    · cases heq
  have htypes := identified_ruleTypes h
  have hrules := identified_of_mem_ruleDeclarations h
  have hstart : Contribution.Identified ⟨[], explicitAliases ds⟩ :=
    ⟨List.forall_mem_nil _, haliases⟩
  have hcontributed : ((ruleDeclarations ds).foldl (Contribution.addRule
      ((explicitInterfaces ds).map (·.name)) (ruleTypes ds))
      ⟨[], explicitAliases ds⟩).Identified := hstart.addRules htypes hrules
  refine ⟨?_, ?_, hcontributed.aliases, ?_⟩
  · intro name hname
    obtain ⟨d, hd, heq⟩ := List.mem_filterMap.mp (List.mem_of_getLast? hname)
    split at heq
    · cases heq
      exact h _ hd
    · cases heq
  · intro i hi
    rcases List.mem_append.mp hi with hi | hi
    · rcases List.mem_append.mp hi with hi | hi
      · exact hexplicit i hi
      · exact hcontributed.interfaces i hi
    · -- a returned type has no properties, and its name is in the table of rules
      obtain ⟨type, htype, rfl⟩ := List.mem_map.mp hi
      have hreturned := List.mem_eraseDups.mp (List.mem_of_mem_filter htype)
      obtain ⟨e, he, rfl⟩ := List.mem_map.mp hreturned
      exact ⟨htypes.rules e he, List.forall_mem_nil _, List.forall_mem_nil _⟩
  · intro name hname
    obtain ⟨r, hr, rfl⟩ := List.mem_map.mp hname
    exact (hrules r hr).name

/-! ## Properties that are made on the way -/

/-- The properties that are made while a text is read: those that lines of interfaces declare, those
of the assignments in a rule, and those of what an action takes. -/
inductive Constructed (source : List Char) : Property → Prop where
  /-- A line declares the property. -/
  | declared {interface : String} {line : List Char} {p : Property}
    (h : property interface line = .ok p) : Constructed source p
  /-- A rule assigns to the property. -/
  | assigned {ds : List Declaration} {r : Rule} {s : Segment} {o : Occurrence}
    (hds : declarations source = .ok ds) (hr : r ∈ ruleDeclarations ds)
    (hs : s ∈ segments (bodyParts r.body)) (ho : o ∈ occurrences s.start s.text) :
    Constructed source
      (o.property (ruleTypes ds) ((bodyParts r.body).flatMap BodyPart.blank))
  /-- An action takes what has been produced. -/
  | current {ds : List Declaration} {r : Rule} {s : Segment} {a : Action} {p : Property}
    (hds : declarations source = .ok ds) (hr : r ∈ ruleDeclarations ds)
    (hs : s ∈ segments (bodyParts r.body)) (ha : s.action = some a)
    (hp : a.property? r.target = some p) : Constructed source p

theorem Constructed.identified {source : List Char} {p : Property} (h : Constructed source p) :
    p.Identified := by
  cases h with
  | declared h => exact identified_of_property h
  | assigned hds _ _ ho =>
    exact identified_property (identified_of_mem_occurrences _ ho)
      (identified_ruleTypes (identified_of_declarations hds)) _
  | @current _ r _ _ _ hds hr hs ha hp =>
    have hrule := identified_of_mem_ruleDeclarations (identified_of_declarations hds) r hr
    exact (identified_of_mem_segments hs ha).property? hrule.target p hp

/-- An identifier is not refused for being blank. -/
theorem IsName.solid {name : String} (h : IsName name) (steps : List DataStep) :
    DataReader.solidText steps (.text name) = .ok name := by
  have hvisible : Text.blankString name = false :=
    (firm_of_isIdent h).1.not_allBlank
  have hcheck : DataReader.solidText steps (.text name) =
      if Text.blankString name = true then DataReader.refuse steps .blank else .ok name := rfl
  rw [hcheck, hvisible, if_neg Bool.false_ne_true]

end Grammar

end DiagramForge
