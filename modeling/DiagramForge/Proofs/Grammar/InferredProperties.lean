import DiagramForge.Proofs.Grammar.DistinctNames

/-!
# Properties of inferred interfaces

Which properties an interface has that rules contribute. The rules that are read are cut into segments,
and the interface takes its properties from the segments that produce it: each feature that one of
them uses becomes a property once, in the order of first use.

What a property says is settled by the first segment that uses its feature. If the action before that
segment takes the feature, then the action settles it; otherwise the assignments of the segment do,
all of them together. Nothing behind the segment counts. This is `parse_inferred_properties`; in
`appended_late` a later rule appends to a feature, and the property holds no sequence.
-/

namespace DiagramForge.Grammar

/-! ## What a segment says -/

namespace Segment

/-- The type that a segment produces, in a rule that produces `target` before any action. -/
def type (s : Segment) (target : String) : String :=
  (s.action.map (·.type)).getD target

/-- The feature that takes what the rule has produced before the segment, and whether it is
appended there. -/
def current? (s : Segment) : Option (String × Bool) :=
  s.action.bind (·.feature)

/-- The features that a segment assigns, with whether the assignment appends to them. -/
def assigned (s : Segment) : List (String × Bool) :=
  (occurrences s.start s.text).map fun o ↦
    (o.assignment.feature, decide (o.assignment.operator = .append))

/-- The features that a segment uses. -/
def features (s : Segment) : List String :=
  (s.current?.toList ++ s.assigned).map (·.1)

/-- Whether a segment appends to a feature: if its action takes the feature, whether the action
does, and otherwise whether some assignment does. -/
def Appends (s : Segment) (feature : String) : Prop :=
  match s.current? with
  | some (name, appends) =>
    if name = feature then appends = true else (feature, true) ∈ s.assigned
  | none => (feature, true) ∈ s.assigned

end Segment

/-- The segments of a rule that produce a type. -/
def Rule.producing (r : Rule) (type : String) : List Segment :=
  (segments (bodyParts r.body)).filter fun s ↦ s.type r.target == type

/-! ## The properties of a segment -/

/-- Properties record assignments: there is one for each feature, in the order of first assignment,
which holds a sequence if some assignment appends to the feature. -/
structure Records (ps : List Property) (assigned : List (String × Bool)) : Prop where
  /-- Each feature becomes a property once. -/
  names : ps.map (·.name) = (assigned.map (·.1)).eraseDups
  /-- One assignment that appends is enough. -/
  array : ∀ p ∈ ps, p.array = true ↔ (p.name, true) ∈ assigned

theorem Records.addProperty {ps : List Property} {assigned : List (String × Bool)}
    (h : Records ps assigned) (p : Property) :
    Records (addProperty ps p) (assigned ++ [(p.name, p.array)]) := by
  have hmem : p.name ∈ ps.map (·.name) ↔ p.name ∈ assigned.map (·.1) := by
    rw [h.names, List.mem_eraseDups]
  have hknown : (ps.any fun q ↦ q.name == p.name) = (assigned.map (·.1)).contains p.name := by
    rw [Bool.eq_iff_iff, List.contains_iff_mem, ← hmem]
    simp
  rw [Grammar.addProperty, hknown]
  by_cases hin : (assigned.map (·.1)).contains p.name = true
  · rw [if_pos hin]
    constructor
    · rw [List.map_append, List.map_singleton, eraseDups_snoc, if_pos hin, ← h.names, List.map_map]
      apply List.map_congr_left
      intro q _
      dsimp only [Function.comp_apply]
      split <;> rfl
    · simp only [List.forall_mem_map]
      intro q hq
      have harray := h.array q hq
      by_cases hname : q.name = p.name
      · rw [hname] at harray
        simp only [hname, beq_self_eq_true, if_true, Bool.or_eq_true, harray, List.mem_append,
          List.mem_singleton, Prod.mk.injEq, true_and]
        exact or_congr_right eq_comm
      · simp [hname, harray]
  · rw [if_neg hin]
    rw [List.contains_iff_mem] at hin
    constructor
    · rw [List.map_append, List.map_append, List.map_singleton, List.map_singleton, eraseDups_snoc,
        if_neg (by simpa using hin), ← h.names]
    · rw [List.forall_mem_append, List.forall_mem_singleton]
      constructor
      · intro q hq
        have hne : q.name ≠ p.name := by
          rintro heq
          exact hin (hmem.mp (heq ▸ List.mem_map_of_mem hq))
        simp [h.array q hq, hne]
      · have hnot : (p.name, true) ∉ assigned := fun h ↦ hin (List.mem_map_of_mem h)
        rw [List.mem_append, or_iff_right hnot, List.mem_singleton, Prod.mk.injEq]
        exact ⟨fun h ↦ ⟨rfl, h.symm⟩, fun h ↦ h.2.symm⟩

theorem records_segmentProperties (types : RuleTypes) (body : List Char) (s : Segment) :
    Records (segmentProperties types body s) s.assigned := by
  have hstep : ∀ (os : List Occurrence) {ps : List Property} {assigned : List (String × Bool)},
      Records ps assigned →
        Records (os.foldl (fun ps o ↦ addProperty ps (o.property types body)) ps)
          (assigned ++ os.map fun o ↦
            (o.assignment.feature, decide (o.assignment.operator = .append))) := by
    intro os
    induction os with
    | nil =>
      intro ps assigned h
      simpa using h
    | cons o os ih =>
      intro ps assigned h
      have := ih (h.addProperty (o.property types body))
      rw [List.append_assoc] at this
      exact this
  have hnone : Records [] [] := ⟨rfl, by simp⟩
  exact hstep (occurrences s.start s.text) hnone

theorem Segment.type_produced (s : Segment) (target : String) (types : RuleTypes)
    (body : List Char) : (s.produced target types body).type = s.type target := by
  rw [produced, type]
  rcases s.action with _ | a
  · rfl
  · dsimp only
    rcases a.property? target with _ | p <;> rfl

theorem Segment.fromAction_produced (s : Segment) (target : String) (types : RuleTypes)
    (body : List Char) : (s.produced target types body).fromAction = s.action.isSome := by
  rw [produced]
  rcases s.action with _ | a
  · rfl
  · dsimp only
    rcases a.property? target with _ | p <;> rfl

/-- A type that a segment produces has each feature of the segment once. -/
theorem Segment.names_produced (s : Segment) (target : String) (types : RuleTypes)
    (body : List Char) :
    (s.produced target types body).properties.map (·.name) = s.features.eraseDups := by
  have hrecords := records_segmentProperties types body s
  rw [produced, features, current?]
  rcases s.action with _ | ⟨type, _ | ⟨name, appends⟩⟩
  · exact hrecords.names
  · exact hrecords.names
  · have hrest := eraseDups_filter (fun n ↦ !n == name) (s.assigned.map (·.1))
    rw [← hrecords.names] at hrest
    simp only [Action.property?, Option.map_some, List.map_cons, Option.bind_some, Option.toList_some,
      List.singleton_append, List.eraseDups_cons]
    rw [hrest, List.filter_map]
    rfl

theorem Segment.array_produced (s : Segment) (target : String) (types : RuleTypes)
    (body : List Char) : ∀ p ∈ (s.produced target types body).properties,
      p.array = true ↔ s.Appends p.name := by
  have hrecords := records_segmentProperties types body s
  rw [produced]
  simp only [Appends, current?]
  rcases s.action with _ | ⟨type, _ | ⟨name, appends⟩⟩
  · exact hrecords.array
  · exact hrecords.array
  · simp only [Action.property?, Option.map_some, Option.bind_some, List.forall_mem_cons, if_true,
      true_and]
    intro p hp
    obtain ⟨hp, hne⟩ := List.mem_filter.mp hp
    have hname : p.name ≠ name := by simpa using hne
    rw [if_neg hname.symm]
    exact hrecords.array p hp

/-! ## The properties of several segments -/

/-- Properties are those of segments: each feature that one of the segments uses is one of them, in
the order of first use, and the first segment that uses it says what it holds. -/
structure TakenFrom (ps : List Property) (ss : List Segment) : Prop where
  /-- Each feature becomes a property once. -/
  names : ps.map (·.name) = (ss.flatMap Segment.features).eraseDups
  /-- The first segment that uses a feature settles whether it holds a sequence. -/
  array : ∀ p ∈ ps, ∃ before s after, ss = before ++ s :: after ∧
    (∀ s' ∈ before, p.name ∉ s'.features) ∧ p.name ∈ s.features ∧
      (p.array = true ↔ s.Appends p.name)

/-- The properties with those of others that have new names. -/
def extendProperties (ps qs : List Property) : List Property :=
  ps ++ qs.filter fun q ↦ !ps.any fun p ↦ p.name == q.name

theorem TakenFrom.extend {ps : List Property} {ss : List Segment} (h : TakenFrom ps ss)
    (s : Segment) (target : String) (types : RuleTypes) (body : List Char) :
    TakenFrom (extendProperties ps (s.produced target types body).properties) (ss ++ [s]) := by
  have hnew : ∀ name, (ps.any fun p ↦ p.name == name) =
      (ss.flatMap Segment.features).eraseDups.contains name := by
    intro name
    rw [← h.names, Bool.eq_iff_iff]
    simp
  constructor
  · rw [extendProperties, List.map_append, h.names, List.flatMap_append, List.flatMap_singleton,
      eraseDups_append_eq, ← s.names_produced target types body, List.filter_map]
    simp only [hnew]
    rfl
  · intro p hp
    rw [extendProperties, List.mem_append, List.mem_filter] at hp
    rcases hp with hp | ⟨hp, hfirst⟩
    · obtain ⟨before, s', after, rfl, hs'⟩ := h.array p hp
      exact ⟨before, s', after ++ [s], by simp, hs'⟩
    · refine ⟨ss, s, [], rfl, ?_, ?_, s.array_produced target types body p hp⟩
      · intro s' hs' hmem
        rw [hnew] at hfirst
        simp only [Bool.not_eq_true', List.contains_eq_mem, decide_eq_false_iff_not,
          List.mem_eraseDups, List.mem_flatMap] at hfirst
        exact hfirst ⟨s', hs', hmem⟩
      · rw [← List.mem_eraseDups, ← s.names_produced target types body]
        exact List.mem_map_of_mem hp

/-! ## The properties of an interface -/

namespace Contribution

variable {explicit : List String} {types : RuleTypes} {k : Contribution} {name : String}

/-- The properties that the first inferred interface of a name has so far. -/
def properties (k : Contribution) (name : String) : List Property :=
  ((k.interfaces.find? fun i ↦ i.name == name).map (·.properties)).getD []

/-- Merging an interface extends the properties of its name only. -/
theorem properties_mergeInferred (is : List Interface) (as : List TypeAlias) (i : Interface) :
    properties ⟨mergeInferred is i, as⟩ name =
      if i.name = name then extendProperties (properties ⟨is, as⟩ name) i.properties
      else properties ⟨is, as⟩ name := by
  rw [properties, properties, mergeInferred]
  by_cases hin : (is.any fun j ↦ j.name == i.name) = true
  · rw [if_pos hin]
    dsimp only
    rw [List.find?_map]
    have hsame : ((fun j : Interface ↦ j.name == name) ∘ fun j : Interface ↦
        if j.name == i.name then
          { j with properties :=
              j.properties ++ i.properties.filter fun p ↦
                !j.properties.any fun q ↦ q.name == p.name }
        else j) = fun j ↦ j.name == name := by
      funext j
      dsimp only [Function.comp_apply]
      split <;> rfl
    rw [hsame]
    rcases hfind : is.find? fun j ↦ j.name == name with _ | j
    · have hne : i.name ≠ name := by
        rintro rfl
        obtain ⟨j, hj, hname⟩ := List.any_eq_true.mp hin
        exact List.find?_eq_none.mp hfind j hj hname
      rw [if_neg hne, hfind]
      rfl
    · have hj : j.name = name := by simpa using List.find?_some hfind
      rw [hfind]
      simp only [Option.map_some, Option.getD_some, hj, beq_iff_eq]
      by_cases hname : i.name = name
      · rw [if_pos hname, if_pos hname.symm]
        rfl
      · rw [if_neg hname, if_neg (Ne.symm hname)]
  · rw [if_neg hin]
    dsimp only
    rw [List.find?_append]
    by_cases hname : i.name = name
    · have hfind : (is.find? fun j ↦ j.name == name) = none := by
        rw [← hname, List.find?_eq_none]
        intro j hj hj'
        exact hin (List.any_eq_true.mpr ⟨j, hj, hj'⟩)
      simp [hfind, hname, extendProperties]
    · simp [hname]

/-- A type that a rule produces extends the properties of its name, if the name is free of explicit
interfaces and of aliases. -/
theorem properties_addProduced (hexplicit : name ∉ explicit) (halias : k.hasAlias name = false)
    (notes : Annotations) (p : Produced) :
    (k.addProduced explicit notes p).properties name =
      if p.type = name then extendProperties (k.properties name) p.properties
      else k.properties name := by
  rw [addProduced]
  by_cases hname : p.type = name
  · have hfree : (explicit.contains p.type || k.hasAlias p.type) = false := by
      simp [hname, hexplicit, halias]
    rw [hfree, if_neg Bool.false_ne_true, if_pos hname]
    split
    next hvoid =>
      have hnil : p.properties = [] := by
        simp only [Bool.and_eq_true, List.isEmpty_iff] at hvoid
        exact hvoid.1
      simp [extendProperties, hnil]
    next =>
      rw [properties_mergeInferred, if_pos hname]
  · rw [if_neg hname]
    split
    · rfl
    split
    · rfl
    · rw [properties_mergeInferred, if_neg hname]

theorem takenFrom_foldl_addProduced (hexplicit : name ∉ explicit)
    (halias : k.hasAlias name = false) (notes : Annotations) {done : List Segment}
    (h : TakenFrom (k.properties name) done) (ss : List Segment) (target : String)
    (body : List Char) :
    TakenFrom (((ss.map fun s ↦ s.produced target types body).foldl
        (addProduced explicit notes) k).properties name)
      (done ++ ss.filter fun s ↦ s.type target == name) := by
  induction ss generalizing k done with
  | nil => simpa using h
  | cons s ss ih =>
    rw [List.map_cons, List.foldl_cons]
    have halias' : (k.addProduced explicit notes (s.produced target types body)).hasAlias name =
        false := by
      rw [hasAlias, aliases_addProduced]
      exact halias
    have hstep := properties_addProduced hexplicit halias notes (s.produced target types body)
    rw [s.type_produced] at hstep
    by_cases htype : s.type target = name
    · rw [if_pos htype] at hstep
      have hextended := h.extend s target types body
      rw [← hstep] at hextended
      have := ih halias' hextended
      rw [List.append_assoc] at this
      rw [List.filter_cons_of_pos (by simp [htype])]
      exact this
    · rw [if_neg htype] at hstep
      rw [← hstep] at h
      rw [List.filter_cons_of_neg (by simp [htype])]
      exact ih halias' h

/-! ## Rules -/

theorem aliases_subset_addRule (r : Rule) :
    k.aliases ⊆ (k.addRule explicit types r).aliases := by
  rcases hpass : k.passesOver explicit r with _ | _
  case true =>
    rw [addRule_of_passesOver hpass]
    exact List.Subset.refl _
  rcases hdata : r.isDataType types with _ | _
  case true =>
    obtain ⟨type, hadd⟩ := exists_addRule_of_isDataType hpass hdata
    rw [hadd]
    exact List.subset_append_left _ _
  case false =>
    rw [addRule_of_reads (reads_eq_true_iff.mpr ⟨hpass, hdata⟩)]
    dsimp only
    split
    · simp
    · simp

/-- A name that no alias has in the end has none before. -/
theorem hasAlias_of_addRule {r : Rule} (h : (k.addRule explicit types r).hasAlias name = false) :
    k.hasAlias name = false := by
  rw [← Bool.not_eq_true, hasAlias_iff] at h ⊢
  exact fun hmem ↦ h (List.map_subset _ (aliases_subset_addRule r) hmem)

theorem hasAlias_of_foldl_addRule {rs : List Rule}
    (h : (rs.foldl (addRule explicit types) k).hasAlias name = false) :
    k.hasAlias name = false := by
  induction rs generalizing k with
  | nil => exact h
  | cons r rs ih => exact hasAlias_of_addRule (ih h)

/-- Only a rule that is read contributes interfaces. -/
theorem interfaces_addRule (r : Rule) : (k.addRule explicit types r).interfaces =
    if k.reads explicit types r = true then
      ((r.produced types).foldl (addProduced explicit r.annotations) k).interfaces
    else k.interfaces := by
  by_cases hreads : k.reads explicit types r = true
  · rw [if_pos hreads, addRule_of_reads hreads]
    dsimp only
    split <;> rfl
  · rw [if_neg hreads]
    rw [reads_eq_true_iff] at hreads
    rcases hpass : k.passesOver explicit r with _ | _
    case true => rw [addRule_of_passesOver hpass]
    case false =>
      have hdata : r.isDataType types = true := by
        rw [← Bool.not_eq_false]
        exact fun h ↦ hreads ⟨hpass, h⟩
      obtain ⟨type, hadd⟩ := exists_addRule_of_isDataType hpass hdata
      rw [hadd]

/-- The rules that are read, among rules that follow what has been contributed. -/
def readRules (explicit : List String) (types : RuleTypes) : Contribution → List Rule → List Rule
  | _, [] => []
  | k, r :: rs =>
    let rest := readRules explicit types (k.addRule explicit types r) rs
    if k.reads explicit types r then r :: rest else rest

theorem takenFrom_addRule (hexplicit : name ∉ explicit) (halias : k.hasAlias name = false)
    {done : List Segment} (h : TakenFrom (k.properties name) done) {r : Rule}
    (hreads : k.reads explicit types r = true) :
    TakenFrom ((k.addRule explicit types r).properties name) (done ++ r.producing name) := by
  rw [properties, interfaces_addRule, if_pos hreads]
  exact takenFrom_foldl_addProduced hexplicit halias r.annotations h _ _ _

/-- What a list of rules contributes to an interface comes from the segments of those that are
read. -/
theorem takenFrom_foldl_addRule (hexplicit : name ∉ explicit) {done : List Segment}
    (h : TakenFrom (k.properties name) done) (rs : List Rule)
    (halias : (rs.foldl (addRule explicit types) k).hasAlias name = false) :
    TakenFrom ((rs.foldl (addRule explicit types) k).properties name)
      (done ++ (readRules explicit types k rs).flatMap fun r ↦ r.producing name) := by
  induction rs generalizing k done with
  | nil => simpa [readRules] using h
  | cons r rs ih =>
    rw [readRules]
    by_cases hreads : k.reads explicit types r = true
    · have hk : k.hasAlias name = false := hasAlias_of_addRule (hasAlias_of_foldl_addRule halias)
      have := ih (takenFrom_addRule hexplicit hk h hreads) halias
      rw [List.append_assoc] at this
      rw [if_pos hreads, List.flatMap_cons]
      exact this
    · rw [if_neg hreads]
      apply ih _ halias
      rw [properties, interfaces_addRule, if_neg hreads]
      exact h

/-- Inferred interfaces have distinct names. -/
theorem nodup_interfaces_foldl_addProduced (notes : Annotations) (ps : List Produced)
    (h : (k.interfaces.map (·.name)).Nodup) :
    ((ps.foldl (addProduced explicit notes) k).interfaces.map (·.name)).Nodup := by
  induction ps generalizing k with
  | nil => exact h
  | cons p ps ih =>
    apply ih
    rw [addProduced]
    split
    · exact h
    split
    · exact h
    · rw [names_mergeInferred]
      split
      · exact h
      next hnew => exact List.Nodup.append h (by simp) (by simpa using hnew)

theorem nodup_interfaces_foldl_addRule (rs : List Rule) (h : (k.interfaces.map (·.name)).Nodup) :
    ((rs.foldl (addRule explicit types) k).interfaces.map (·.name)).Nodup := by
  induction rs generalizing k with
  | nil => exact h
  | cons r rs ih =>
    apply ih
    rw [interfaces_addRule]
    split
    · exact nodup_interfaces_foldl_addProduced _ _ h
    · exact h

theorem properties_of_mem (hnodup : (k.interfaces.map (·.name)).Nodup) {i : Interface}
    (hi : i ∈ k.interfaces) : k.properties i.name = i.properties := by
  have hfind : (k.interfaces.find? fun j ↦ j.name == i.name) = some i := by
    rw [List.find?_eq_some_iff_append]
    obtain ⟨before, after, hsplit⟩ := List.append_of_mem hi
    refine ⟨by simp, before, after, hsplit, ?_⟩
    intro j hj
    rw [hsplit, List.map_append, List.map_cons, List.nodup_append] at hnodup
    have hne := hnodup.2.2 j.name (List.mem_map_of_mem hj) i.name List.mem_cons_self
    simpa using hne
  rw [properties, hfind]
  rfl

end Contribution

/-! ## Grammars -/

/-- The segments that produce a type, in the rules of a text that are read. -/
def producing (ds : List Declaration) (name : String) : List Segment :=
  (Contribution.readRules ((explicitInterfaces ds).map (·.name)) (ruleTypes ds)
    ⟨[], explicitAliases ds⟩ (ruleDeclarations ds)).flatMap fun r ↦ r.producing name

/-- An interface that is not declared has the properties that rules have contributed to its name. -/
theorem properties_of_mem_assemble {ds : List Declaration} {projectName : String}
    {file : Option Path} {i : Interface} (hi : i ∈ (assemble projectName file ds).interfaces)
    (hinferred : i.name ∉ (explicitInterfaces ds).map (·.name)) :
    (contributed ds (ruleDeclarations ds)).properties i.name = i.properties := by
  rw [assemble] at hi
  simp only [List.mem_append] at hi
  rcases hi with (hi | hi) | hi
  · exact absurd (List.mem_map_of_mem hi) hinferred
  · exact Contribution.properties_of_mem (Contribution.nodup_interfaces_foldl_addRule _ (by simp)) hi
  · -- nothing has contributed to a type that is only returned
    obtain ⟨type, htype, rfl⟩ := List.mem_map.mp hi
    have hnone : (contributed ds (ruleDeclarations ds)).hasInterface type = false := by
      simp only [undeclaredReturns, List.mem_filter, Bool.and_eq_true, Bool.not_eq_true'] at htype
      exact htype.2.2
    have hfind : ((contributed ds (ruleDeclarations ds)).interfaces.find?
        fun i ↦ i.name == type) = none := by
      rw [List.find?_eq_none]
      intro j hj hname
      rw [Contribution.hasInterface, List.any_eq_false] at hnone
      exact hnone j hj hname
    rw [Contribution.properties, hfind]
    rfl

/-- **The properties of an inferred interface are the features that are used where it is produced.**
Let an interface of a grammar be declared by none of the explicit declarations. It has one property
for each feature that the segments producing it use, in the order of first use, and a property holds
a sequence exactly if the first segment that uses its feature appends to it. -/
theorem parse_inferred_properties {text projectName : String} {file : Option Path} {g : Grammar}
    {ds : List Declaration} (hds : declarations text.toList = .ok ds)
    (hg : parse text projectName file = .ok g) {i : Interface} (hi : i ∈ g.interfaces)
    (hinferred : i.name ∉ (explicitInterfaces ds).map (·.name)) (hfree : i.name ∉ g.typeNames) :
    i.properties.map (·.name) = ((producing ds i.name).flatMap Segment.features).eraseDups ∧
      ∀ p ∈ i.properties, ∃ before s after, producing ds i.name = before ++ s :: after ∧
        (∀ s' ∈ before, p.name ∉ s'.features) ∧ p.name ∈ s.features ∧
          (p.array = true ↔ s.Appends p.name) := by
  obtain rfl := parse_eq_ok hds hg
  have halias : (contributed ds (ruleDeclarations ds)).hasAlias i.name = false := by
    rw [← Bool.not_eq_true, Contribution.hasAlias_iff]
    exact hfree
  have hnone : TakenFrom (Contribution.properties ⟨[], explicitAliases ds⟩ i.name) [] :=
    ⟨rfl, by simp [Contribution.properties]⟩
  have htaken := Contribution.takenFrom_foldl_addRule hinferred hnone (ruleDeclarations ds) halias
  have hproperties := properties_of_mem_assemble hi hinferred
  rw [contributed] at hproperties
  rw [hproperties] at htaken
  exact ⟨htaken.names, htaken.array⟩

theorem parse_inferred_properties_plus :
    let text := "Sum: Num {infer Plus.left=current} right+=Num;\nPlus: right=Num sign=ID;"
    ∃ ds g i, declarations text.toList = .ok ds ∧ parse text "" none = .ok g ∧ i ∈ g.interfaces ∧
      i.name ∉ (explicitInterfaces ds).map (·.name) ∧ i.name ∉ g.typeNames ∧
      i.properties = [⟨"left", "Sum", false, false, false⟩, ⟨"right", "Num", false, true, false⟩,
        ⟨"sign", "string", false, false, false⟩] ∧
      i.properties.map (·.name) = ((producing ds i.name).flatMap Segment.features).eraseDups ∧
      ∀ p ∈ i.properties, ∃ before s after, producing ds i.name = before ++ s :: after ∧
        (∀ s' ∈ before, p.name ∉ s'.features) ∧ p.name ∈ s.features ∧
          (p.array = true ↔ s.Appends p.name) := by
  intro text
  have hread : (declarations text.toList).toOption.map (fun ds ↦
      ((explicitInterfaces ds).map (·.name), (assemble "" none ds).interfaces,
        (assemble "" none ds).typeNames)) =
      some ([], [⟨"Plus", [⟨"left", "Sum", false, false, false⟩,
        ⟨"right", "Num", false, true, false⟩, ⟨"sign", "string", false, false, false⟩], [], []⟩],
        []) := by
    decide +kernel
  rcases hds : declarations text.toList with fault | ds
  · simp [hds, Except.toOption] at hread
  · simp only [hds, Except.toOption, Option.map_some, Option.some.injEq, Prod.mk.injEq] at hread
    obtain ⟨hexplicit, hinterfaces, htypes⟩ := hread
    have hg : parse text "" none = .ok (assemble "" none ds) := by
      rw [parse, hds]
    have hi := List.mem_singleton_self (⟨"Plus", [⟨"left", "Sum", false, false, false⟩,
      ⟨"right", "Num", false, true, false⟩, ⟨"sign", "string", false, false, false⟩], [], []⟩ :
        Interface)
    rw [← hinterfaces] at hi
    refine ⟨ds, _, _, rfl, hg, hi, by simp [hexplicit], by simp [htypes], rfl, ?_⟩
    exact parse_inferred_properties hds hg hi (by simp [hexplicit]) (by simp [htypes])

/-- A feature that is set first and appended to in a later rule: the property holds no sequence,
although one of the segments that produce the interface appends to it. -/
theorem appended_late :
    let text := "A: x=ID;\nB returns A: x+=ID;"
    ∃ ds g, declarations text.toList = .ok ds ∧ parse text "" none = .ok g ∧
      g.interfaces = [⟨"A", [⟨"x", "string", false, false, false⟩], [], []⟩] ∧
      explicitInterfaces ds = [] ∧ ∃ s ∈ producing ds "A", ("x", true) ∈ s.assigned := by
  intro text
  have hread : (declarations text.toList).toOption.map (fun ds ↦
      ((assemble "" none ds).interfaces, explicitInterfaces ds,
        (producing ds "A").map Segment.assigned)) =
      some ([⟨"A", [⟨"x", "string", false, false, false⟩], [], []⟩], [],
        [[("x", false)], [("x", true)]]) := by
    decide +kernel
  rcases hds : declarations text.toList with fault | ds
  · simp [hds, Except.toOption] at hread
  · simp only [hds, Except.toOption, Option.map_some, Option.some.injEq, Prod.mk.injEq] at hread
    have hg : parse text "" none = .ok (assemble "" none ds) := by
      rw [parse, hds]
    have happends : [("x", true)] ∈ (producing ds "A").map Segment.assigned := by
      simp [hread.2.2]
    obtain ⟨s, hs, hassigned⟩ := List.mem_map.mp happends
    exact ⟨ds, _, rfl, hg, hread.1, hread.2.1, s, hs, by simp [hassigned]⟩

end DiagramForge.Grammar
