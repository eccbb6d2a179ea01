import DiagramForge.Proofs.Entries
import DiagramForge.Proofs.Grammar.InferredProperties

/-!
# Types of inferred properties

Which properties of inferred interfaces have a type that the grammar declares.

A rule that is read leaves types behind: those of its segments that use a feature or follow an action,
and its own if it lists alternatives. A rule that is taken for a data type leaves an alias of its name,
and a rule that is passed over leaves nothing. Beyond the types left behind, the grammar declares what
is declared explicitly and the types that rules return, as soon as some property has them. This is
`GivesType`, and `parse_property_types` says that a property is reported to have an unknown type
exactly if its type is not among these.

So even if every name that is assigned or referenced stands for something, a type may be unknown: a
rule can be named that leaves no type of its name, a terminal can be referenced or return a type that
nothing declares, and a returned type gets lost if a later rule of the same name returns another one.
These are the only ways, see `Gap`. In `target_undeclared` a rule without properties of its own
is the type of what its action takes.
-/

namespace DiagramForge.Grammar

variable {explicit : List String} {types : RuleTypes}

/-! ## The types that rules leave behind -/

theorem Segment.properties_produced_eq_nil (s : Segment) (target : String) (types : RuleTypes)
    (body : List Char) : (s.produced target types body).properties = [] ↔ s.features = [] := by
  rw [← List.map_eq_nil_iff, s.names_produced]
  rcases s.features with _ | ⟨feature, features⟩
  · simp
  · simp [List.eraseDups_cons]

/-- The types that a rule yields if it is read. -/
inductive Rule.Yields (r : Rule) : String → Prop where
  /-- A segment yields the type that it produces, if it follows an action or uses a feature. -/
  | segment {s : Segment} (hs : s ∈ segments (bodyParts r.body))
      (h : s.action.isSome = true ∨ s.features ≠ []) : r.Yields (s.type r.target)
  /-- A list of alternatives yields the type of the rule. -/
  | alternatives (hlength : (segments (bodyParts r.body)).length ≤ 1)
      (h : isAlternatives r.body = true) : r.Yields r.target

namespace Contribution

variable {k : Contribution} {name : String}

/-- A rule leaves a type behind, after what has been contributed before it. -/
def Leaves (explicit : List String) (types : RuleTypes) (k : Contribution) (r : Rule)
    (name : String) : Prop :=
  k.passesOver explicit r = false ∧ if r.isDataType types then name = r.name else r.Yields name

theorem mem_names_addProduced (notes : Annotations) (p : Produced) :
    name ∈ (k.addProduced explicit notes p).names explicit ↔
      name ∈ k.names explicit ∨ p.type = name ∧ (p.fromAction = true ∨ p.properties ≠ []) := by
  rw [addProduced]
  split
  next htaken =>
    -- the type has a name already
    have hmem : p.type ∈ k.names explicit := by
      rw [Bool.or_eq_true, List.contains_iff_mem] at htaken
      rw [mem_names_iff]
      exact htaken.imp_left .inl
    refine ⟨.inl, ?_⟩
    rintro (h | ⟨rfl, -⟩)
    · exact h
    · exact hmem
  split
  next hvoid =>
    rw [Bool.and_eq_true, List.isEmpty_iff, Bool.not_eq_true'] at hvoid
    simp [hvoid]
  next hnew =>
    have hyields : p.fromAction = true ∨ p.properties ≠ [] := by
      rw [Bool.and_eq_true, List.isEmpty_iff, Bool.not_eq_true', not_and_or,
        Bool.not_eq_false] at hnew
      exact hnew.symm
    rw [names, names, names_mergeInferred]
    split
    next hin =>
      refine ⟨.inl, ?_⟩
      rintro (h | ⟨rfl, -⟩)
      · exact h
      · simp only [List.mem_append]
        exact .inl (.inr hin)
    next =>
      simp only [List.mem_append, List.mem_singleton, and_iff_left hyields]
      rw [@eq_comm _ p.type]
      tauto

theorem mem_names_foldl_addProduced (notes : Annotations) (ps : List Produced) :
    name ∈ (ps.foldl (addProduced explicit notes) k).names explicit ↔ name ∈ k.names explicit ∨
      ∃ p ∈ ps, p.type = name ∧ (p.fromAction = true ∨ p.properties ≠ []) := by
  induction ps generalizing k with
  | nil => simp
  | cons p ps ih =>
    rw [List.foldl_cons, ih, mem_names_addProduced, List.exists_mem_cons_iff, or_assoc]

/-- A segment makes a type arise if it follows an action or uses a feature. -/
theorem exists_mem_produced_iff {r : Rule} : (∃ p ∈ r.produced types, p.type = name ∧
      (p.fromAction = true ∨ p.properties ≠ [])) ↔
    ∃ s ∈ segments (bodyParts r.body), s.type r.target = name ∧
      (s.action.isSome = true ∨ s.features ≠ []) := by
  simp only [Rule.produced, List.mem_map, exists_exists_and_eq_and, Segment.type_produced,
    Segment.fromAction_produced, ne_eq, Segment.properties_produced_eq_nil]

/-- **A rule adds the names of the types that it leaves behind.** -/
theorem mem_names_addRule (r : Rule) : name ∈ (k.addRule explicit types r).names explicit ↔
    name ∈ k.names explicit ∨ k.Leaves explicit types r name := by
  rw [Leaves]
  rcases hpass : k.passesOver explicit r with _ | _
  case true => simp [addRule_of_passesOver hpass]
  rw [and_iff_right rfl]
  rcases hdata : r.isDataType types with _ | _
  case true =>
    obtain ⟨type, hadd⟩ := exists_addRule_of_isDataType hpass hdata
    simp [hadd, names, or_assoc]
  case false =>
    have hsegments : (∃ s ∈ segments (bodyParts r.body), s.type r.target = name ∧
        (s.action.isSome = true ∨ s.features ≠ [])) → r.Yields name := by
      rintro ⟨s, hs, rfl, h⟩
      exact .segment hs h
    have hlength : (r.produced types).length = (segments (bodyParts r.body)).length := by
      simp [Rule.produced]
    rw [addRule_of_reads (reads_eq_true_iff.mpr ⟨hpass, hdata⟩), if_neg Bool.false_ne_true]
    dsimp only
    have hadded := @mem_names_foldl_addProduced explicit k name r.annotations (r.produced types)
    rw [exists_mem_produced_iff] at hadded
    generalize (r.produced types).foldl (addProduced explicit r.annotations) k = added at *
    split
    next hlists =>
      simp only [Bool.and_eq_true, Bool.not_eq_true', decide_eq_true_eq, hlength] at hlists
      have hnames : name ∈ names explicit { added with
          aliases := added.aliases ++ [aliasOf r.target r.body r.annotations] } ↔
            name ∈ added.names explicit ∨ name = r.target := by
        simp [names, aliasOf, or_assoc]
      rw [hnames, hadded, or_assoc]
      refine or_congr_right ⟨?_, ?_⟩
      · rintro (h | rfl)
        · exact hsegments h
        · exact .alternatives hlists.1.2 hlists.2
      · rintro (⟨hs, h⟩ | -)
        · exact .inl ⟨_, hs, rfl, h⟩
        · exact .inr rfl
    next hlists =>
      rw [hadded]
      constructor
      · exact Or.imp_right hsegments
      · rintro (h | h)
        · exact .inl h
        obtain ⟨hs, h⟩ | ⟨hone, h⟩ := h
        · exact .inr ⟨_, hs, rfl, h⟩
        · -- the type of the rule has arisen already
          rw [← hadded, mem_names_iff]
          simp only [Bool.and_eq_true, Bool.not_eq_true', decide_eq_true_eq, hlength, hone, h,
            and_true, Bool.not_eq_false] at hlists
          exact .inl (.inr hlists)

theorem mem_names_foldl_addRule (rs : List Rule) :
    name ∈ (rs.foldl (addRule explicit types) k).names explicit ↔ name ∈ k.names explicit ∨
      ∃ before r after, rs = before ++ r :: after ∧
        (before.foldl (addRule explicit types) k).Leaves explicit types r name := by
  induction rs generalizing k with
  | nil => simp
  | cons r rs ih =>
    rw [List.foldl_cons, ih, mem_names_addRule, or_assoc]
    refine or_congr_right ⟨?_, ?_⟩
    · rintro (h | ⟨before, r', after, rfl, h⟩)
      · exact ⟨[], r, rs, rfl, h⟩
      · exact ⟨r :: before, r', after, rfl, h⟩
    · rintro ⟨_ | ⟨r'', before⟩, r', after, heq, h⟩
      · obtain ⟨rfl, rfl⟩ := List.cons.inj heq
        exact .inl h
      · obtain ⟨rfl, rfl⟩ := List.cons.inj heq
        exact .inr ⟨before, r', after, rfl, h⟩

end Contribution

/-! ## The types that a grammar declares -/

/-- Declarations give a type to a name: it is a primitive, it is declared explicitly, a rule leaves it
behind, or a rule is taken to return it. -/
inductive GivesType (ds : List Declaration) (name : String) : Prop where
  /-- The name is that of a primitive. -/
  | primitive (h : isPrimitive name = true)
  /-- An interface or an alias of the name is declared. -/
  | explicit (h : name ∈ explicitNames ds)
  /-- A rule leaves a type of the name behind. -/
  | left {before : List Rule} {r : Rule} {after : List Rule}
      (hrules : ruleDeclarations ds = before ++ r :: after)
      (h : (contributed ds before).Leaves ((explicitInterfaces ds).map (·.name)) (ruleTypes ds) r name)
  /-- A rule is taken to return the type. -/
  | returned {rule : String} (h : (rule, name) ∈ (ruleTypes ds).rules)

/-- The names of the explicit declarations and of what rules contribute. -/
theorem mem_names_contributed_iff {ds : List Declaration} {name : String} :
    name ∈ (contributed ds (ruleDeclarations ds)).names ((explicitInterfaces ds).map (·.name)) ↔
      name ∈ explicitNames ds ∨ ∃ before r after, ruleDeclarations ds = before ++ r :: after ∧
        (contributed ds before).Leaves ((explicitInterfaces ds).map (·.name)) (ruleTypes ds) r
          name := by
  rw [contributed, Contribution.mem_names_foldl_addRule]
  simp [Contribution.names, explicitNames, contributed]

/-- A name that some property has for its type denotes a type exactly if it is declared. -/
theorem hasType_assemble_iff {ds : List Declaration} {projectName : String} {file : Option Path}
    {name : String} {i : Interface} (hi : i ∈ (assemble projectName file ds).interfaces)
    {p : Property} (hp : p ∈ i.properties) (hname : p.type = name) :
    (assemble projectName file ds).hasType name = true ↔ GivesType ds name := by
  set k := contributed ds (ruleDeclarations ds) with hk
  set returned := undeclaredReturns (explicitInterfaces ds) (ruleTypes ds) k with hreturned
  have hnames : (assemble projectName file ds).hasType name = true ↔
      (name ∈ k.names ((explicitInterfaces ds).map (·.name)) ∨ name ∈ returned) ∨
        isPrimitive name = true := by
    simp only [hasType, hasInterface, interfaceNames, typeNames, assemble, Bool.or_eq_true,
      List.contains_iff_mem, List.map_append, List.mem_append, List.map_map, Contribution.names,
      Function.comp_def, List.map_id', hk, hreturned, contributed]
    tauto
  -- interfaces of returned types have no properties, so another one has the type
  have hreferenced : name ∈ (explicitInterfaces ds ++ k.interfaces).flatMap fun i ↦
      i.properties.map (·.type) := by
    refine List.mem_flatMap.mpr ⟨i, ?_, List.mem_map.mpr ⟨p, hp, hname⟩⟩
    have hi' : i ∈ explicitInterfaces ds ++ k.interfaces ++
        returned.map fun type ↦ (⟨type, [], [], []⟩ : Interface) := hi
    rcases List.mem_append.mp hi' with hi' | hi'
    · exact hi'
    · obtain ⟨type, -, rfl⟩ := List.mem_map.mp hi'
      cases hp
  have hreturns : name ∈ returned ↔ (∃ rule, (rule, name) ∈ (ruleTypes ds).rules) ∧
      name ∉ k.names ((explicitInterfaces ds).map (·.name)) := by
    rw [Contribution.mem_names_iff, ← any_name_eq_true_iff]
    simp only [hreturned, undeclaredReturns, List.mem_filter, List.mem_eraseDups, List.mem_map,
      Prod.exists, exists_eq_right, Bool.and_eq_true, List.contains_iff_mem, hreferenced, true_and,
      Bool.not_eq_true', not_or, Bool.not_eq_true]
    tauto
  rw [hnames, hreturns]
  constructor
  · rintro ((h | ⟨⟨rule, h⟩, -⟩) | h)
    · rcases mem_names_contributed_iff.mp h with h | ⟨before, r, after, hrules, h⟩
      · exact .explicit h
      · exact .left hrules h
    · exact .returned h
    · exact .primitive h
  · rintro (h | h | ⟨hrules, h⟩ | h)
    · exact .inr h
    · exact .inl (.inl (mem_names_contributed_iff.mpr (.inl h)))
    · exact .inl (.inl (mem_names_contributed_iff.mpr (.inr ⟨_, _, _, hrules, h⟩)))
    · left
      rw [and_iff_right ⟨_, h⟩]
      exact em _

/-- An unknown type is reported for the properties whose type denotes none. -/
theorem unknownType_mem_faults_iff {g : Grammar} {interface property type : String} :
    .unknownType interface property type ∈ g.faults ↔ g.hasType type = false ∧
      ∃ i ∈ g.interfaces, i.name = interface ∧ ∃ p ∈ i.properties, p.name = property ∧
        p.type = type := by
  simp only [faults, referenceFaults, List.mem_append, List.mem_flatMap, List.mem_map,
    List.mem_filter, reduceCtorEq, and_false, exists_false, false_or, or_false,
    StructuralFault.unknownType.injEq, Bool.not_eq_true']
  constructor
  · rintro ⟨i, hi, p, ⟨hp, htype⟩, rfl, rfl, rfl⟩
    exact ⟨htype, i, hi, rfl, p, hp, rfl, rfl⟩
  · rintro ⟨htype, i, hi, rfl, p, hp, rfl, rfl⟩
    exact ⟨i, hi, p, ⟨hp, htype⟩, rfl, rfl, rfl⟩

/-! ## The types that properties refer to -/

/-- A rule refers to a type, either as that of an element or as that of a part. -/
inductive Rule.Refers (types : RuleTypes) (r : Rule) : String → Bool → Prop where
  /-- An assignment refers to the type of its value. -/
  | assigned {s : Segment} {o : Occurrence} (hs : s ∈ segments (bodyParts r.body))
      (ho : o ∈ occurrences s.start s.text) :
      r.Refers types (o.assignment.type types) o.assignment.isReference
  /-- An action refers to the type of the rule, if it takes what has been produced. -/
  | current {s : Segment} {f : String × Bool} (hs : s ∈ segments (bodyParts r.body))
      (hf : s.current? = some f) : r.Refers types r.target false

/-- Adding a property does not change what those before it refer to. -/
theorem forall_addProperty {refers : String → Bool → Prop} {ps : List Property} {p : Property}
    (hps : ∀ q ∈ ps, refers q.type q.crossReference) (hp : refers p.type p.crossReference) :
    ∀ q ∈ addProperty ps p, refers q.type q.crossReference := by
  rw [addProperty]
  split
  · simp only [List.forall_mem_map]
    intro q hq
    split <;> exact hps q hq
  · rw [List.forall_mem_append, List.forall_mem_singleton]
    exact ⟨hps, hp⟩

theorem forall_segmentProperties {refers : String → Bool → Prop} {s : Segment}
    (h : ∀ o ∈ occurrences s.start s.text,
      refers (o.assignment.type types) o.assignment.isReference) (body : List Char) :
    ∀ p ∈ segmentProperties types body s, refers p.type p.crossReference := by
  have hstep : ∀ (os : List Occurrence) {ps : List Property},
      (∀ o ∈ os, refers (o.assignment.type types) o.assignment.isReference) →
      (∀ p ∈ ps, refers p.type p.crossReference) →
      ∀ p ∈ os.foldl (fun ps o ↦ addProperty ps (o.property types body)) ps,
        refers p.type p.crossReference := by
    intro os
    induction os with
    | nil => exact fun _ hps ↦ hps
    | cons o os ih =>
      intro ps hos hps
      rw [List.forall_mem_cons] at hos
      exact ih hos.2 (forall_addProperty hps hos.1)
  exact hstep _ h (by simp)

theorem refers_of_mem_produced {r : Rule} : ∀ p ∈ r.produced types, ∀ q ∈ p.properties,
    r.Refers types q.type q.crossReference := by
  simp only [Rule.produced, List.forall_mem_map]
  intro s hs
  have hrefers : ∀ o ∈ occurrences s.start s.text,
      r.Refers types (o.assignment.type types) o.assignment.isReference :=
    fun o ho ↦ .assigned hs ho
  have hassigned := forall_segmentProperties hrefers ((bodyParts r.body).flatMap BodyPart.blank)
  rw [Segment.produced]
  rcases haction : s.action with _ | ⟨type, _ | ⟨feature, appends⟩⟩
  · exact hassigned
  · exact hassigned
  · have hcurrent : s.current? = some (feature, appends) := by
      rw [Segment.current?, haction]
      rfl
    simp only [Action.property?, Option.map_some, List.forall_mem_cons]
    exact ⟨.current hs hcurrent, fun q hq ↦ hassigned q (List.mem_of_mem_filter hq)⟩

theorem forall_mergeInferred {holds : Property → Prop} {is : List Interface} {i : Interface}
    (his : ∀ j ∈ is, ∀ p ∈ j.properties, holds p) (hi : ∀ p ∈ i.properties, holds p) :
    ∀ j ∈ mergeInferred is i, ∀ p ∈ j.properties, holds p := by
  rw [mergeInferred]
  split
  · simp only [List.forall_mem_map]
    intro j hj
    split
    · rw [List.forall_mem_append]
      exact ⟨his j hj, fun p hp ↦ hi p (List.mem_of_mem_filter hp)⟩
    · exact his j hj
  · rw [List.forall_mem_append, List.forall_mem_singleton]
    exact ⟨his, hi⟩

namespace Contribution

theorem forall_foldl_addProduced {holds : Property → Prop} (notes : Annotations)
    {ps : List Produced} (hps : ∀ p ∈ ps, ∀ q ∈ p.properties, holds q) {k : Contribution}
    (hk : ∀ i ∈ k.interfaces, ∀ q ∈ i.properties, holds q) :
    ∀ i ∈ (ps.foldl (addProduced explicit notes) k).interfaces, ∀ q ∈ i.properties, holds q := by
  induction ps generalizing k with
  | nil => exact hk
  | cons p ps ih =>
    rw [List.forall_mem_cons] at hps
    apply ih hps.2
    rw [addProduced]
    split
    · exact hk
    split
    · exact hk
    · exact forall_mergeInferred hk hps.1

/-- A property that rules contribute comes from a rule that is no data type and refers to its
type. -/
theorem refers_of_mem_foldl_addRule {done rs : List Rule} {k : Contribution}
    (hk : ∀ i ∈ k.interfaces, ∀ p ∈ i.properties, ∃ r ∈ done, r.isDataType types = false ∧
      r.Refers types p.type p.crossReference) :
    ∀ i ∈ (rs.foldl (addRule explicit types) k).interfaces, ∀ p ∈ i.properties,
      ∃ r ∈ done ++ rs, r.isDataType types = false ∧ r.Refers types p.type p.crossReference := by
  induction rs generalizing k done with
  | nil => simpa using hk
  | cons r rs ih =>
    have hlast : r ∈ done ++ [r] := by simp
    have hstep : ∀ i ∈ (k.addRule explicit types r).interfaces, ∀ p ∈ i.properties,
        ∃ r' ∈ done ++ [r], r'.isDataType types = false ∧
          r'.Refers types p.type p.crossReference := by
      have hbefore : ∀ i ∈ k.interfaces, ∀ p ∈ i.properties, ∃ r' ∈ done ++ [r],
          r'.isDataType types = false ∧ r'.Refers types p.type p.crossReference := by
        intro i hi p hp
        obtain ⟨r', hr', h⟩ := hk i hi p hp
        exact ⟨r', List.mem_append_left _ hr', h⟩
      rw [interfaces_addRule]
      split
      next hreads =>
        apply forall_foldl_addProduced r.annotations _ hbefore
        intro p hp q hq
        exact ⟨r, hlast, (reads_eq_true_iff.mp hreads).2, refers_of_mem_produced p hp q hq⟩
      next => exact hbefore
    have hrest := ih hstep
    rw [List.append_assoc] at hrest
    exact hrest

end Contribution

/-- A property of an inferred interface comes from a rule that is no data type and refers to its
type. -/
theorem exists_refers {ds : List Declaration} {projectName : String} {file : Option Path}
    {i : Interface} (hi : i ∈ (assemble projectName file ds).interfaces)
    (hinferred : i.name ∉ (explicitInterfaces ds).map (·.name)) {p : Property}
    (hp : p ∈ i.properties) : ∃ r ∈ ruleDeclarations ds, r.isDataType (ruleTypes ds) = false ∧
      r.Refers (ruleTypes ds) p.type p.crossReference := by
  have hi' : i ∈ explicitInterfaces ds ++ (contributed ds (ruleDeclarations ds)).interfaces ++
      (undeclaredReturns (explicitInterfaces ds) (ruleTypes ds)
        (contributed ds (ruleDeclarations ds))).map fun type ↦ (⟨type, [], [], []⟩ : Interface) := hi
  simp only [List.mem_append] at hi'
  rcases hi' with (hi' | hi') | hi'
  · exact absurd (List.mem_map_of_mem hi') hinferred
  · have hnone : ∀ i ∈ (⟨[], explicitAliases ds⟩ : Contribution).interfaces, ∀ p ∈ i.properties,
        ∃ r ∈ ([] : List Rule), r.isDataType (ruleTypes ds) = false ∧
          r.Refers (ruleTypes ds) p.type p.crossReference := by
      simp
    exact Contribution.refers_of_mem_foldl_addRule hnone i hi' p hp
  · obtain ⟨type, -, rfl⟩ := List.mem_map.mp hi'
    cases hp

/-! ## Gaps -/

/-- The name that stands for the value of an assignment: that of an element's type, or that of a rule
or terminal whose result is assigned. -/
def Assignment.name? (a : Assignment) : Option String :=
  match a.value with
  | .reference type => some type
  | .keyword => none
  | .call name => if a.operator = .present then none else some name

/-- The names that a rule assigns or references. -/
def Rule.names (r : Rule) : List String :=
  (segments (bodyParts r.body)).flatMap fun s ↦
    (occurrences s.start s.text).filterMap fun o ↦ o.assignment.name?

/-- A name is that of a terminal, of a parser rule, or of something declared explicitly. -/
def Known (ds : List Declaration) (name : String) : Prop :=
  name ∈ (terminalTypes ds).map (·.1) ∨ name ∈ (ruleDeclarations ds).map (·.name) ∨
    name ∈ explicitNames ds

/-- Every name that a rule assigns or references is known. -/
def NamesKnown (ds : List Declaration) : Prop :=
  ∀ r ∈ ruleDeclarations ds, ∀ name ∈ r.names, Known ds name

instance (ds : List Declaration) (name : String) : Decidable (Known ds name) :=
  inferInstanceAs (Decidable (_ ∨ _ ∨ _))

instance (ds : List Declaration) : Decidable (NamesKnown ds) :=
  inferInstanceAs (Decidable (∀ r ∈ ruleDeclarations ds, ∀ name ∈ r.names, Known ds name))

/-- The ways in which a property can come to a type that nothing declares, where the names in rules
are known. -/
inductive Gap (ds : List Declaration) (p : Property) : Prop where
  /-- The type is a rule that is referenced, that returns no other type, or that is a data type. -/
  | rule {r : Rule} (hr : r ∈ ruleDeclarations ds) (hname : r.name = p.type)
      (h : p.crossReference = true ∨ r.returns = none ∨ r.isDataType (ruleTypes ds) = true)
  /-- The type is a terminal that is referenced. -/
  | terminal (hcross : p.crossReference = true) (h : p.type ∈ (terminalTypes ds).map (·.1))
  /-- A terminal returns the type. -/
  | ofTerminal {name : String} (hcross : p.crossReference = false)
      (h : (name, p.type) ∈ terminalTypes ds)
  /-- A rule returns the type, but a later rule of its name returns another one. -/
  | shadowed {r : Rule} (hr : r ∈ ruleDeclarations ds) (hcross : p.crossReference = false)
      (hreturns : r.returns = some p.type)
      (hother : ∃ type, type ≠ p.type ∧ (r.name, type) ∈ (ruleTypes ds).rules)

/-- A rule that returns another type than a data type is in the table of returned types, or a later
rule of its name is. -/
theorem exists_returned {ds : List Declaration} {r : Rule} (hr : r ∈ ruleDeclarations ds)
    {type : String} (hreturns : r.returns = some type)
    (hdata : r.isDataType (ruleTypes ds) = false) :
    ∃ last, Entries.get? (ruleTypes ds).rules r.name = some last := by
  have hnot : isDataType (terminalTypes ds) type = false := by
    simpa [Rule.isDataType, hreturns, ruleTypes, Option.filter_some] using hdata
  rw [← Option.isSome_iff_exists, ruleTypes, Entries.get?_ofList, Entries.get?, Option.isSome_map,
    List.find?_isSome]
  refine ⟨(r.name, type), ?_, beq_self_eq_true _⟩
  rw [List.mem_reverse, List.mem_filterMap]
  exact ⟨r, hr, by simp [hreturns, hnot]⟩

/-- The type of a rule is declared, or there is a gap. -/
theorem givesType_or_gap_of_target {ds : List Declaration} {r : Rule} (hr : r ∈ ruleDeclarations ds)
    (hdata : r.isDataType (ruleTypes ds) = false) {p : Property} (htype : p.type = r.target)
    (hcross : p.crossReference = false) : GivesType ds p.type ∨ Gap ds p := by
  rw [Rule.target] at htype
  rcases hreturns : r.returns with _ | returned
  · rw [hreturns] at htype
    exact .inr (.rule hr htype.symm (.inr (.inl hreturns)))
  · rw [hreturns, Option.getD_some] at htype
    obtain ⟨last, hlast⟩ := exists_returned hr hreturns hdata
    have hmem := Entries.mem_of_get? hlast
    rw [← htype] at hreturns
    by_cases heq : last = p.type
    · rw [heq] at hmem
      exact .inl (.returned hmem)
    · exact .inr (.shadowed hr hcross hreturns ⟨last, heq, hmem⟩)

/-- A name that is assigned, and stands for itself, is declared, or there is a gap. -/
theorem givesType_or_gap_of_name {ds : List Declaration} {name : String} {p : Property}
    (hname : name = p.type) (hterminal : Entries.get? (ruleTypes ds).terminals name = none)
    (hreturned : Entries.get? (ruleTypes ds).rules name = none) (hknown : Known ds name) :
    GivesType ds p.type ∨ Gap ds p := by
  rcases hknown with h | hrule | hexplicit
  · obtain ⟨e, he, rfl⟩ := List.mem_map.mp h
    rw [Entries.get?, Option.map_eq_none_iff, List.find?_eq_none] at hterminal
    exact absurd (beq_self_eq_true e.1) (hterminal e he)
  · obtain ⟨r, hr, rfl⟩ := List.mem_map.mp hrule
    right
    refine .rule hr hname (.inr ?_)
    rcases hreturns : r.returns with _ | type
    · exact .inl rfl
    right
    by_contra hdata
    obtain ⟨last, hlast⟩ := exists_returned hr hreturns (Bool.not_eq_true _ ▸ hdata)
    rw [hreturned] at hlast
    cases hlast
  · rw [hname] at hexplicit
    exact .inl (.explicit hexplicit)

/-- The type of what is assigned is declared, or there is a gap. -/
theorem givesType_or_gap_of_assignment {ds : List Declaration} {a : Assignment}
    (hknown : ∀ name, a.name? = some name → Known ds name) {p : Property}
    (htype : p.type = a.type (ruleTypes ds)) (hcross : p.crossReference = a.isReference) :
    GivesType ds p.type ∨ Gap ds p := by
  obtain ⟨feature, operator, element | _ | name⟩ := a
  · have helement : p.type = element := htype
    rcases hknown p.type (congrArg some helement.symm) with hterminal | hrule | hexplicit
    · exact .inr (.terminal hcross hterminal)
    · obtain ⟨r, hr, hname⟩ := List.mem_map.mp hrule
      exact .inr (.rule hr hname (.inl hcross))
    · exact .inl (.explicit hexplicit)
  · refine .inl (.primitive ?_)
    rw [htype, Assignment.type]
    dsimp only
    split <;> decide
  · simp only [Assignment.name?] at hknown
    simp only [Assignment.type] at htype
    split at htype
    · rw [htype]
      exact .inl (.primitive (by decide))
    next hpresent =>
      rcases hterminal : Entries.get? (ruleTypes ds).terminals name with _ | returned
      · rcases hreturned : Entries.get? (ruleTypes ds).rules name with _ | returned
        · have hname : name = p.type := by
            rw [htype, hterminal, hreturned]
            rfl
          exact givesType_or_gap_of_name hname hterminal hreturned (hknown name (if_neg hpresent))
        · have hmem := Entries.mem_of_get? hreturned
          have hreturns : returned = p.type := by
            rw [htype, hterminal, hreturned]
            rfl
          rw [hreturns] at hmem
          exact .inl (.returned hmem)
      · have hmem := Entries.mem_of_get? hterminal
        have hreturns : returned = p.type := by
          rw [htype, hterminal]
        rw [hreturns] at hmem
        exact .inr (.ofTerminal hcross hmem)

/-- The type that a rule refers to is declared, or there is a gap. -/
theorem givesType_or_gap {ds : List Declaration} (hknown : NamesKnown ds) {r : Rule}
    (hr : r ∈ ruleDeclarations ds) (hdata : r.isDataType (ruleTypes ds) = false) {p : Property}
    (hp : r.Refers (ruleTypes ds) p.type p.crossReference) : GivesType ds p.type ∨ Gap ds p := by
  generalize htype : p.type = type at hp
  generalize hcross : p.crossReference = cross at hp
  rw [← htype]
  cases hp with
  | current hs hf => exact givesType_or_gap_of_target hr hdata htype hcross
  | @assigned s o hs ho =>
    apply givesType_or_gap_of_assignment _ htype hcross
    intro name hname
    exact hknown r hr name (List.mem_flatMap.mpr ⟨s, hs, List.mem_filterMap.mpr ⟨o, ho, hname⟩⟩)

/-- **An inferred property has an unknown type exactly if its type is not declared.** Let every name
that is assigned or referenced in a rule be that of a terminal, of a parser rule, or of something
declared explicitly. A property of an inferred interface is reported to have an unknown type exactly
if its type is none that the declarations give, and this happens only where there is a gap. -/
theorem parse_property_types {text projectName : String} {file : Option Path} {g : Grammar}
    {ds : List Declaration} (hds : declarations text.toList = .ok ds)
    (hg : parse text projectName file = .ok g) (hknown : NamesKnown ds) {i : Interface}
    (hi : i ∈ g.interfaces) (hinferred : i.name ∉ (explicitInterfaces ds).map (·.name))
    {p : Property} (hp : p ∈ i.properties) :
    (.unknownType i.name p.name p.type ∈ g.faults ↔ ¬ GivesType ds p.type) ∧
      (¬ GivesType ds p.type → Gap ds p) := by
  obtain rfl := parse_eq_ok hds hg
  constructor
  · rw [unknownType_mem_faults_iff, ← hasType_assemble_iff hi hp rfl, Bool.not_eq_true]
    exact and_iff_left ⟨i, hi, rfl, p, hp, rfl, rfl⟩
  · intro hnot
    obtain ⟨r, hr, hdata, hrefers⟩ := exists_refers hi hinferred hp
    exact (givesType_or_gap hknown hr hdata hrefers).resolve_left hnot

theorem parse_property_types_expression :
    let text := "Sum returns Expression: Num {infer Plus.left=current} right=Num;\nNum: value=INT;"
    ∃ ds g i p, declarations text.toList = .ok ds ∧ parse text "" none = .ok g ∧ NamesKnown ds ∧
      i ∈ g.interfaces ∧ i.name ∉ (explicitInterfaces ds).map (·.name) ∧ p ∈ i.properties ∧
      (i.name, p.name, p.type) = ("Plus", "left", "Expression") ∧
      .unknownType i.name p.name p.type ∉ g.faults ∧ GivesType ds p.type := by
  intro text
  have hread : (declarations text.toList).toOption.map (fun ds ↦
      ((explicitInterfaces ds).map (·.name), decide (NamesKnown ds),
        (assemble "" none ds).interfaces.head?, (assemble "" none ds).faults)) =
      some ([], true, some ⟨"Plus", [⟨"left", "Expression", false, false, false⟩,
        ⟨"right", "Num", false, false, false⟩], [], []⟩, []) := by
    decide +kernel
  rcases hds : declarations text.toList with fault | ds
  · simp [hds, Except.toOption] at hread
  · simp only [hds, Except.toOption, Option.map_some, Option.some.injEq, Prod.mk.injEq,
      decide_eq_true_eq] at hread
    obtain ⟨hexplicit, hknown, hfirst, hfaults⟩ := hread
    have hg : parse text "" none = .ok (assemble "" none ds) := by
      rw [parse, hds]
    have hi := List.mem_of_mem_head? hfirst
    have hinferred : "Plus" ∉ (explicitInterfaces ds).map (·.name) := by simp [hexplicit]
    have hp : (⟨"left", "Expression", false, false, false⟩ : Property) ∈
        [⟨"left", "Expression", false, false, false⟩, ⟨"right", "Num", false, false, false⟩] := by
      simp
    have hreport := (parse_property_types hds hg hknown hi hinferred hp).1
    have hnone : .unknownType "Plus" "left" "Expression" ∉ (assemble "" none ds).faults := by
      simp [hfaults]
    exact ⟨ds, _, _, _, rfl, hg, hknown, hi, hinferred, hp, rfl, hnone,
      not_not.mp (hnone ∘ hreport.mpr)⟩

/-- A rule that has no properties of its own, and whose action takes what it has produced: the names in
rules are known, but the rule is the type of a property, and it leaves no type. -/
theorem target_undeclared :
    let text := "Sum: Num {infer Plus.left=current} right=Num;\nNum: value=INT;"
    ∃ ds g, declarations text.toList = .ok ds ∧ parse text "" none = .ok g ∧ NamesKnown ds ∧
      explicitInterfaces ds = [] ∧ g.faults = [.unknownType "Plus" "left" "Sum"] := by
  intro text
  have hread : (declarations text.toList).toOption.map (fun ds ↦
      (explicitInterfaces ds, decide (NamesKnown ds), (assemble "" none ds).faults)) =
      some ([], true, [.unknownType "Plus" "left" "Sum"]) := by
    decide +kernel
  rcases hds : declarations text.toList with fault | ds
  · simp [hds, Except.toOption] at hread
  · simp only [hds, Except.toOption, Option.map_some, Option.some.injEq, Prod.mk.injEq,
      decide_eq_true_eq] at hread
    have hg : parse text "" none = .ok (assemble "" none ds) := by
      rw [parse, hds]
    exact ⟨ds, _, rfl, hg, hread.2.1, hread.1, hread.2.2⟩

end DiagramForge.Grammar
