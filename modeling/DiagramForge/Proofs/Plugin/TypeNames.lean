import DiagramForge.Plugin.TypeSafety
import DiagramForge.Proofs.Diagram.AllProperties

/-!
# What the names of types mean to a plugin

The type safety plugin settles what the name of a type means on its own, and not as a diagram does.
To the plugin the name of a primitive type always means that type; in a diagram it means an interface
or an alias if one is declared with it. Validation accepts such a declaration.

`TypeSafety.typeNames_agree` says how far the two agree. Of the references in a diagram the plugin
misses exactly those whose type is an interface named like a primitive type, and a value is checked
against a primitive type although the type is a declared one exactly if that is named like it.
`TypeSafety.string_mistaken` is a valid grammar where both happen.
-/

namespace DiagramForge

open Outcome

/-! ## The meaning of a name -/

namespace Grammar

variable {g : Grammar}

/-- The type of a property is an interface named like a primitive type. -/
def mistaken (g : Grammar) (p : Property) : Bool :=
  isPrimitive p.type && g.hasInterface p.type

/-- The properties that the interfaces declare. -/
def declaredProperties (g : Grammar) : List Property :=
  g.interfaces.flatMap (·.properties)

theorem target?_of_resolve {i : Interface} {p : Property} {q : ResolvedProperty}
    (h : g.resolve i p = .ok q) : q.toProperty = p ∧ g.target? q.type = some q.target := by
  rw [resolve] at h
  split at h
  · cases h
    exact ⟨rfl, ‹_›⟩
  · cases h

theorem target?_eq_interface_iff {type : String} :
    g.target? type = some .interface ↔ g.hasInterface type = true := by
  rw [target?]
  split
  next h => exact ⟨fun _ ↦ h, fun _ ↦ rfl⟩
  next h =>
    refine ⟨fun htarget ↦ ?_, fun hinterface ↦ absurd hinterface h⟩
    split at htarget
    · cases htarget
    · split at htarget <;> cases htarget

/-- A primitive type is hidden by every declaration of its name. -/
theorem target?_eq_primitive_iff {type : String} (hprimitive : isPrimitive type = true) :
    g.target? type = some .primitive ↔ type ∉ g.interfaceNames ++ g.typeNames := by
  have halias : g.typeNames.contains type ↔ type ∈ g.typeNames := List.contains_iff_mem
  rw [List.mem_append, ← hasInterface_iff, ← halias, target?]
  cases g.hasInterface type <;> cases g.typeNames.contains type <;> simp [hprimitive]

theorem type?_eq_none_iff {name : String} : g.type? name = none ↔ name ∉ g.typeNames := by
  rw [type?, List.find?_eq_none, typeNames, List.mem_map, not_exists]
  simp

theorem nodup_names_of_valid (hvalid : g.validate.ok = true) :
    (g.interfaceNames ++ g.typeNames).Nodup :=
  (repeats_eq_nil_iff.mp (validate_ok hvalid).2.2).1

/-- In a valid grammar the plugin counts a property as a reference if its type is an interface that is
not named like a primitive type. -/
theorem countsAsReference_eq (hvalid : g.validate.ok = true) {p : Property}
    (hp : p ∈ g.declaredProperties) :
    g.countsAsReference p = (g.hasInterface p.type && !isPrimitive p.type) := by
  obtain ⟨hreferences, -, -⟩ := validate_ok hvalid
  obtain ⟨i, hi, hp⟩ := List.mem_flatMap.mp hp
  have hdistinct := nodup_names_of_valid hvalid
  rw [countsAsReference]
  cases hprimitive : isPrimitive p.type with
  | true => simp
  | false =>
    have hdeclared : p.type ∈ g.interfaceNames ∨ p.type ∈ g.typeNames := by
      rcases (closed_iff.mpr hreferences).types i hi p hp with h | h | h
      · exact .inl h
      · exact .inr h
      · rw [isPrimitive, List.contains_iff_mem.mpr h] at hprimitive
        cases hprimitive
    -- no name is declared as an interface and as an alias
    have hnone : g.type? p.type = none ↔ g.hasInterface p.type = true := by
      rw [type?_eq_none_iff, hasInterface_iff]
      refine ⟨fun h ↦ hdeclared.resolve_right h, fun hinterface halias ↦ ?_⟩
      exact (List.nodup_append.mp hdistinct).2.2 _ hinterface _ halias rfl
    rw [Bool.not_false, Bool.true_and, Bool.and_true, Bool.eq_iff_iff, Option.isNone_iff_eq_none,
      hnone]

/-- The interfaces among the types of properties are those that the plugin takes for interfaces and
those that it mistakes. -/
theorem countP_hasInterface (hvalid : g.validate.ok = true) :
    g.declaredProperties.countP (fun p ↦ g.hasInterface p.type) =
      g.declaredProperties.countP g.countsAsReference + g.declaredProperties.countP g.mistaken := by
  have hcounted : g.declaredProperties.countP g.countsAsReference =
      g.declaredProperties.countP fun p ↦ g.hasInterface p.type && !isPrimitive p.type :=
    List.countP_congr fun p hp ↦ by rw [countsAsReference_eq hvalid hp]
  rw [hcounted]
  induction g.declaredProperties with
  | nil => rfl
  | cons p ps ih =>
    rw [List.countP_cons, List.countP_cons, List.countP_cons, ih, mistaken]
    cases g.hasInterface p.type <;> cases isPrimitive p.type <;> simp <;> omega

end Grammar

/-! ## The references of a diagram -/

namespace Diagram

variable {options : BuildOptions} {g : Grammar} {s : Setting} {d : Diagram}

/-- The elements have the properties that the interfaces declare, each with what its type denotes. -/
theorem properties_of_elements (hnames : g.interfaceNames.Nodup)
    (hbuild : build options g s = .ok d) :
    (d.elements.flatMap (·.properties)).map (·.toProperty) = g.declaredProperties ∧
      ∀ q ∈ d.elements.flatMap (·.properties), g.target? q.type = some q.target := by
  obtain ⟨own, hown, hproperties⟩ := exists_own hbuild
  have hlists : d.elements.map (·.properties) = g.interfaces.map fun i ↦ own.of i.name := by
    have hnamed := congrArg (List.map own.of) (elements_map_name hbuild)
    rw [List.map_map, Grammar.interfaceNames, List.map_map] at hnamed
    exact (List.map_congr_left fun e he ↦ (hproperties e he).1).trans hnamed
  have hresolved : ∀ i ∈ g.interfaces, (own.of i.name).map (·.toProperty) = i.properties ∧
      ∀ q ∈ own.of i.name, g.target? q.type = some q.target := by
    intro i hi
    have hforall := Grammar.forall₂_resolve hown hnames hi
    refine ⟨?_, fun q hq ↦ ?_⟩
    · rw [map_eq_of_forall₂ hforall fun p q h ↦ (Grammar.target?_of_resolve h).1, List.map_id']
    · obtain ⟨p, -, hpq⟩ := exists_of_mem_mapM (mapM_eq_ok.mpr hforall) hq
      exact (Grammar.target?_of_resolve hpq).2
  rw [List.flatMap_def, hlists, ← List.flatMap_def]
  refine ⟨?_, fun q hq ↦ ?_⟩
  · rw [List.map_flatMap, Grammar.declaredProperties, List.flatMap_def, List.flatMap_def]
    exact congrArg List.flatten (List.map_congr_left fun i hi ↦ (hresolved i hi).1)
  · obtain ⟨i, hi, hq⟩ := List.mem_flatMap.mp hq
    exact (hresolved i hi).2 q hq

theorem isReference_iff {q : ResolvedProperty} (h : g.target? q.type = some q.target) :
    q.isReference = g.hasInterface q.type := by
  rw [Bool.eq_iff_iff, ← Grammar.target?_eq_interface_iff, h, Option.some.injEq,
    ResolvedProperty.isReference, beq_iff_eq]

/-- The references among the properties of the elements are those that the plugin counts and those
that it mistakes. -/
theorem countP_isReference (hvalid : g.validate.ok = true) (hbuild : build options g s = .ok d) :
    (d.elements.flatMap (·.properties)).countP (·.isReference) =
      g.declaredProperties.countP g.countsAsReference + g.declaredProperties.countP g.mistaken := by
  have hdistinct := Grammar.nodup_names_of_valid hvalid
  obtain ⟨hproperties, htargets⟩ :=
    properties_of_elements (List.nodup_append.mp hdistinct).1 hbuild
  rw [← Grammar.countP_hasInterface hvalid, ← hproperties, List.countP_map]
  refine List.countP_congr fun q hq ↦ ?_
  rw [isReference_iff (htargets q hq)]
  rfl

end Diagram

/-! ## Generated checks -/

namespace TypeSafety

/-- The condition that the value of a property is of a primitive type. -/
def typeofCheck (p : ResolvedProperty) : String :=
  "typeof (value as any)." ++ p.name ++ " === '" ++ p.type ++ "'"

/-- The condition that a property is there. -/
def presenceCheck (p : ResolvedProperty) : String :=
  "'" ++ p.name ++ "' in value"

theorem propertyChecks_eq (strict : Bool) (p : ResolvedProperty) : propertyChecks strict p =
    if p.optional then []
    else presenceCheck p ::
      if strict && !p.array && checkedTypes.contains p.type then [typeofCheck p] else [] :=
  rfl

/-- The two conditions differ in their first character. -/
theorem typeofCheck_ne_presenceCheck (p : ResolvedProperty) : typeofCheck p ≠ presenceCheck p := by
  intro h
  have hfirst := congrArg (·.toList.head?) h
  unfold typeofCheck presenceCheck at hfirst
  simp only [String.toList_append] at hfirst
  cases hfirst

/-- The value of a property is checked against its type if the name is that of a type whose values can
be told apart, and the property has a single value that is required. -/
theorem typeofCheck_mem_iff {strict : Bool} {p : ResolvedProperty} :
    typeofCheck p ∈ propertyChecks strict p ↔
      strict = true ∧ p.optional = false ∧ p.array = false ∧ p.type ∈ checkedTypes := by
  have hpresence := typeofCheck_ne_presenceCheck p
  have hchecked : checkedTypes.contains p.type ↔ p.type ∈ checkedTypes := List.contains_iff_mem
  rw [propertyChecks_eq, ← hchecked]
  generalize typeofCheck p = check, presenceCheck p = presence at hpresence
  cases strict <;> cases p.optional <;> cases p.array <;> cases checkedTypes.contains p.type <;>
    simp [hpresence]

theorem isPrimitive_of_mem_checkedTypes {type : String} (h : type ∈ checkedTypes) :
    Grammar.isPrimitive type = true := by
  have hall : ∀ type ∈ checkedTypes, Grammar.isPrimitive type = true := by decide
  exact hall type h

variable {options : BuildOptions} {g : Grammar} {s : Setting} {d : Diagram}

/-- **How far the plugin and a diagram agree on the names of types.** In the diagram of a valid
grammar the references are those in the summary of the plugin and those whose type is an interface
named like a primitive type; so the numbers agree exactly if there is no such type. The value of a
property is checked against a primitive type exactly if the name of its type is that of one, and then
the type is primitive in the diagram exactly if nothing is declared with that name. -/
theorem typeNames_agree (hvalid : g.validate.ok = true)
    (hbuild : Diagram.build options g s = .ok d) :
    (∃ counted : Nat,
      Entries.get? g.typeSummary "reference_properties" = some (.int counted) ∧
      (d.elements.flatMap (·.properties)).countP (·.isReference) =
        counted + g.declaredProperties.countP g.mistaken ∧
      (counted = (d.elements.flatMap (·.properties)).countP (·.isReference) ↔
        ∀ i ∈ g.interfaces, ∀ p ∈ i.properties,
          ¬ (p.type ∈ Grammar.primitiveTypes ∧ p.type ∈ g.interfaceNames))) ∧
    ∀ e ∈ d.elements, ∀ p ∈ e.allProperties, ∀ strict,
      (typeofCheck p ∈ propertyChecks strict p ↔
        strict = true ∧ p.optional = false ∧ p.array = false ∧ p.type ∈ checkedTypes) ∧
      (typeofCheck p ∈ propertyChecks strict p →
        (p.isPrimitive = true ↔ p.type ∉ g.interfaceNames ++ g.typeNames)) := by
  have hcount := Diagram.countP_isReference hvalid hbuild
  constructor
  · refine ⟨g.declaredProperties.countP g.countsAsReference, rfl, hcount, ?_⟩
    have hnone : g.declaredProperties.countP g.mistaken = 0 ↔
        ∀ i ∈ g.interfaces, ∀ p ∈ i.properties,
          ¬ (p.type ∈ Grammar.primitiveTypes ∧ p.type ∈ g.interfaceNames) := by
      rw [List.countP_eq_zero, Grammar.declaredProperties, List.forall_mem_flatMap]
      simp only [Grammar.mistaken, Bool.and_eq_true, Grammar.hasInterface_iff, Grammar.isPrimitive,
        List.contains_iff_mem]
    rw [← hnone, hcount]
    omega
  · intro e he p hp strict
    refine ⟨typeofCheck_mem_iff, fun hcheck ↦ ?_⟩
    have hdistinct := Grammar.nodup_names_of_valid hvalid
    obtain ⟨-, i, -, -, -, hresolve, -⟩ := Diagram.exists_of_mem_allProperties hbuild
      (List.nodup_append.mp hdistinct).1 he hp
    have hprimitive := isPrimitive_of_mem_checkedTypes (typeofCheck_mem_iff.mp hcheck).2.2.2
    rw [← Grammar.target?_eq_primitive_iff hprimitive, (Grammar.target?_of_resolve hresolve).2,
      Option.some.injEq, ResolvedProperty.isPrimitive, beq_iff_eq]

/-! ## An interface named like a primitive type -/

/-- A grammar with an interface that is named like a primitive type, and a property of that type. -/
def stringGrammar : Grammar where
  interfaces :=
    [{ name := "string", properties := [{ name := "size", type := "number" }] },
      { name := "Label", properties := [{ name := "text", type := "string" }] }]

theorem validate_stringGrammar : stringGrammar.validate.ok = true := by
  decide +kernel

/-- One reference is missed. -/
theorem typeNames_agree_string :
    stringGrammar.validate.ok = true ∧
      ∃ d, Diagram.build {} stringGrammar (Config.settings {}) = .ok d ∧
        (∃ counted : Nat,
          Entries.get? stringGrammar.typeSummary "reference_properties" = some (.int counted) ∧
          (d.elements.flatMap (·.properties)).countP (·.isReference) = counted + 1) ∧
        ∀ e ∈ d.elements, ∀ p ∈ e.allProperties, typeofCheck p ∈ propertyChecks true p →
          (p.isPrimitive = true ↔ p.type ∉ ["string", "Label"]) := by
  obtain ⟨d, hd⟩ := Diagram.exists_build_of_valid validate_stringGrammar (by decide) {}
  obtain ⟨⟨counted, hsummary, hcount, -⟩, hchecks⟩ := typeNames_agree validate_stringGrammar hd
  refine ⟨validate_stringGrammar, d, hd, ⟨counted, hsummary, hcount⟩, fun e he p hp ↦ ?_⟩
  exact (hchecks e he p hp true).2

/-- In the diagram the text is a reference, which the summary does not count, and the guard checks it
against the primitive type. -/
theorem string_mistaken :
    stringGrammar.validate.ok = true ∧
      Entries.get? stringGrammar.typeSummary "reference_properties" = some (.int 0) ∧
      ∃ d, Diagram.build {} stringGrammar (Config.settings {}) = .ok d ∧
        (d.elements.flatMap (·.properties)).countP (·.isReference) = 1 ∧
        ∃ e ∈ d.elements, ∃ p ∈ e.allProperties,
          typeofCheck p ∈ propertyChecks true p ∧ p.isPrimitive = false := by
  obtain ⟨d, hd⟩ := Diagram.exists_build_of_valid validate_stringGrammar (by decide) {}
  refine ⟨validate_stringGrammar, rfl, d, hd, ?_, ?_⟩
  · rw [Diagram.countP_isReference validate_stringGrammar hd]
    decide +kernel
  · have hnames : stringGrammar.interfaceNames.Nodup := by decide
    have hlabel : "Label" ∈ stringGrammar.interfaceNames := by decide
    obtain ⟨e, he, hname⟩ := Diagram.exists_element hd hlabel
    have htext : "text" ∈ e.allProperties.map (·.name) := by
      rw [Diagram.mem_map_name_allProperties hd hnames he, hname]
      exact ⟨_, List.mem_cons_of_mem _ List.mem_cons_self, List.mem_cons_self, by decide⟩
    obtain ⟨p, hp, htext⟩ := List.mem_map.mp htext
    obtain ⟨-, i, hi, -, hlast, hresolve, -⟩ :=
      Diagram.exists_of_mem_allProperties hd hnames he hp
    have hproperty : ∀ i ∈ stringGrammar.interfaces, ∀ q, i.lastProperty? "text" = some q →
        q = { name := "text", type := "string" } := by
      decide
    have hdeclared := hproperty i hi p.toProperty (htext ▸ hlast)
    have htype : p.type = "string" := congrArg (·.type) hdeclared
    refine ⟨e, he, p, hp, typeofCheck_mem_iff.mpr ⟨rfl, ?_, ?_, ?_⟩, ?_⟩
    · exact congrArg (·.optional) hdeclared
    · exact congrArg (·.array) hdeclared
    · rw [htype]
      decide
    · have htarget := (Grammar.target?_of_resolve hresolve).2
      have hinterface : stringGrammar.target? "string" = some .interface := by decide
      rw [htype, hinterface] at htarget
      rw [ResolvedProperty.isPrimitive, ← Option.some.inj htarget]
      rfl

end TypeSafety

end DiagramForge
