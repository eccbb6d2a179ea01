import DiagramForge.Proofs.Grammar.Inheritance
import DiagramForge.Proofs.Outcome

/-!
# Which grammars have a diagram

`Diagram.build` and `Grammar.validate` look for faults independently of each other: they have
tables, orders and messages of their own. They agree: `Diagram.build` yields a diagram exactly if
validation finds no fault of references and no cycle and no interface is requested as a node and
as an edge, and otherwise it yields a structural fault (`Diagram.build_agrees`).

## What both checks mean

Each check is first brought to a statement that mentions no table: `Grammar.Closed` for references,
`Interface.Disputed` for requests. The search for cycles is the same function in both; that it
misses none is `Grammar.acyclic_of_inheritanceCycles_eq_nil`.
-/

namespace DiagramForge

open Grammar (StructuralFault)
open Outcome

/-! ## References -/

namespace Grammar

/-- Every name that an interface refers to is declared. -/
structure Closed (g : Grammar) : Prop where
  /-- A supertype is an interface. -/
  superTypes : ∀ i ∈ g.interfaces, ∀ s ∈ i.superTypes, s ∈ g.interfaceNames
  /-- The type of a property is an interface, an alias or a primitive type. -/
  types : ∀ i ∈ g.interfaces, ∀ p ∈ i.properties,
    p.type ∈ g.interfaceNames ∨ p.type ∈ g.typeNames ∨ p.type ∈ primitiveTypes

variable {g : Grammar}

theorem hasInterface_iff {name : String} : g.hasInterface name = true ↔ name ∈ g.interfaceNames :=
  List.contains_iff_mem

theorem hasType_iff {name : String} : g.hasType name = true ↔
    name ∈ g.interfaceNames ∨ name ∈ g.typeNames ∨ name ∈ primitiveTypes := by
  rw [hasType, Bool.or_eq_true, Bool.or_eq_true, hasInterface_iff, or_assoc, isPrimitive,
    List.contains_iff_mem, List.contains_iff_mem]

/-- What is not `p` is nowhere if everything is `p`. -/
theorem filter_not_eq_nil {α : Type} {l : List α} {p : α → Bool} :
    (l.filter fun a ↦ !p a) = [] ↔ ∀ a ∈ l, p a = true := by
  rw [List.filter_eq_nil_iff]
  refine forall₂_congr fun a _ ↦ ?_
  rw [Bool.not_eq_true, Bool.not_eq_false']

theorem referenceFaults_eq_nil {i : Interface} : g.referenceFaults i = [] ↔
    (∀ s ∈ i.superTypes, s ∈ g.interfaceNames) ∧ ∀ p ∈ i.properties,
      p.type ∈ g.interfaceNames ∨ p.type ∈ g.typeNames ∨ p.type ∈ primitiveTypes := by
  rw [referenceFaults, List.append_eq_nil_iff, List.map_eq_nil_iff, List.map_eq_nil_iff,
    filter_not_eq_nil, filter_not_eq_nil]
  simp only [hasInterface_iff, hasType_iff]

/-- Validation finds all dangling references. -/
theorem closed_iff : g.Closed ↔ g.interfaces.flatMap g.referenceFaults = [] := by
  rw [List.flatMap_eq_nil_iff]
  simp only [referenceFaults_eq_nil]
  exact ⟨fun h i hi ↦ ⟨h.superTypes i hi, h.types i hi⟩,
    fun h ↦ ⟨fun i hi ↦ (h i hi).1, fun i hi ↦ (h i hi).2⟩⟩

/-- Building a diagram looks at the supertypes before it looks for cycles. -/
theorem checkInheritance_eq_ok : g.checkInheritance = .ok () ↔
    (∀ i ∈ g.interfaces, ∀ s ∈ i.superTypes, s ∈ g.interfaceNames) ∧
      g.inheritanceCycles = [] := by
  have hdangling : (g.interfaces.flatMap fun i ↦
      (i.superTypes.filter fun s ↦ !g.hasInterface s).map fun s ↦ (i.name, s)) = [] ↔
      ∀ i ∈ g.interfaces, ∀ s ∈ i.superTypes, s ∈ g.interfaceNames := by
    rw [List.flatMap_eq_nil_iff]
    simp only [List.map_eq_nil_iff, filter_not_eq_nil, hasInterface_iff]
  rw [← hdangling, checkInheritance]
  split
  next hd => exact ⟨nofun, fun h ↦ by rw [h.1] at hd; cases hd⟩
  next hc => exact ⟨nofun, fun h ↦ by rw [h.2] at hc; cases hc⟩
  next hd hc => exact ⟨fun _ ↦ ⟨hd, hc⟩, fun _ ↦ rfl⟩

theorem target?_isSome {type : String} : (g.target? type).isSome = g.hasType type := by
  rw [target?, hasType]
  cases g.hasInterface type <;> cases g.typeNames.contains type <;> cases isPrimitive type <;> rfl

theorem exists_resolve {i : Interface} {p : Property} :
    (∃ q, g.resolve i p = .ok q) ↔ g.hasType p.type = true := by
  rw [← target?_isSome, resolve]
  cases g.target? p.type with
  | none => exact ⟨nofun, nofun⟩
  | some target => exact ⟨fun _ ↦ rfl, fun _ ↦ ⟨_, rfl⟩⟩

/-- The table of resolved properties has one entry for each declaration before repeated names are
taken together. -/
theorem ownProperties_eq_ok {own : OwnProperties} : g.ownProperties = .ok own ↔
    ∃ es, List.Forall₂ (fun i e ↦ e.1 = i.name ∧ i.properties.mapM (g.resolve i) = .ok e.2)
      g.interfaces es ∧ own = Entries.ofList es := by
  have hentry : ∀ (i : Interface) (e : String × List ResolvedProperty),
      (do return (i.name, ← i.properties.mapM (g.resolve i)) : Except StructuralFault _) = .ok e ↔
        e.1 = i.name ∧ i.properties.mapM (g.resolve i) = .ok e.2 := by
    intro i e
    rw [bind_eq_ok]
    constructor
    · rintro ⟨ps, hps, h⟩
      cases h
      exact ⟨rfl, hps⟩
    · rintro ⟨hname, hps⟩
      exact ⟨e.2, hps, by rw [← hname]; rfl⟩
  rw [ownProperties, bind_eq_ok]
  simp only [mapM_eq_ok, hentry]
  refine exists_congr fun es ↦ and_congr_right fun _ ↦ ?_
  exact ⟨fun h ↦ by cases h; rfl, fun h ↦ by rw [h]; rfl⟩

/-- The properties of a grammar are resolved if their types are declared. -/
theorem exists_ownProperties : (∃ own, g.ownProperties = .ok own) ↔
    ∀ i ∈ g.interfaces, ∀ p ∈ i.properties,
      p.type ∈ g.interfaceNames ∨ p.type ∈ g.typeNames ∨ p.type ∈ primitiveTypes := by
  have hinterface : ∀ i : Interface,
      (∃ e : String × List ResolvedProperty,
        e.1 = i.name ∧ i.properties.mapM (g.resolve i) = .ok e.2) ↔
      ∀ p ∈ i.properties,
        p.type ∈ g.interfaceNames ∨ p.type ∈ g.typeNames ∨ p.type ∈ primitiveTypes := by
    intro i
    simp only [← hasType_iff, ← exists_resolve (i := i), ← exists_mapM_eq_ok]
    exact ⟨fun ⟨e, _, h⟩ ↦ ⟨e.2, h⟩, fun ⟨ps, h⟩ ↦ ⟨(i.name, ps), rfl, h⟩⟩
  simp only [ownProperties_eq_ok, ← hinterface, ← exists_forall₂]
  exact ⟨fun ⟨_, es, h, _⟩ ↦ ⟨es, h⟩, fun ⟨es, h⟩ ↦ ⟨_, es, h, rfl⟩⟩

end Grammar

/-! ## Requests -/

/-- The interfaces that a configuration requests as elements of a kind. -/
def DiagramSettings.requested (s : DiagramSettings) : ElementKind → List String
  | .node => s.nodeTypes
  | .edge => s.edgeTypes

/-- An interface is requested as an element of a kind, by its note or by a configuration. -/
def Interface.Requested (i : Interface) (c : Config) (kind : ElementKind) : Prop :=
  (Entries.get? i.annotations kindNote).bind ElementKind.ofText? = some kind ∨
    i.name ∈ c.diagram.requested kind

/-- An interface is requested as a node and as an edge. -/
def Interface.Disputed (i : Interface) (c : Config) : Prop :=
  i.Requested c .node ∧ i.Requested c .edge

/-- The requests of a configuration. -/
def Requests.ofConfig (c : Config) : Requests :=
  ⟨.texts c.diagram.nodeTypes, .texts c.diagram.edgeTypes⟩

theorem Requests.checkNames_texts (names names' : List String) :
    checkNames (names.map .text ++ names'.map .text) = .ok () := by
  rw [← List.map_append]
  induction names ++ names' with
  | nil => rfl
  | cons name more ih => exact ih

theorem Requests.ofSettings_config (c : Config) :
    Requests.ofSettings c.settings = .ok (.ofConfig c) := by
  have hcheck : (Requests.ofConfig c).check = .ok () := checkNames_texts _ _
  change (do (Requests.ofConfig c).check; return Requests.ofConfig c) = _
  rw [hcheck]
  rfl

theorem Data.mentions_texts {names : List String} {name : String} :
    (Data.texts names).mentions name = true ↔ name ∈ names := by
  rw [Data.texts, Data.mentions, List.contains_iff_mem, List.mem_map]
  exact ⟨fun ⟨_, h, heq⟩ ↦ by cases heq; exact h, fun h ↦ ⟨name, h, rfl⟩⟩

theorem Requests.include_iff {c : Config} {i : Interface} {kind : ElementKind} :
    (Requests.ofConfig c).include i kind = true ↔ i.Requested c kind := by
  rw [Requests.include.eq_def, Bool.or_eq_true, beq_iff_eq, Interface.Requested]
  refine or_congr_right ?_
  cases kind <;> exact Data.mentions_texts

/-- The kind of an interface is not settled exactly if it is disputed. -/
theorem Requests.kindOf_eq_error {c : Config} {i : Interface} {fault : StructuralFault} :
    (Requests.ofConfig c).kindOf i = .error fault ↔ i.Disputed c ∧ fault = .dualKind i.name := by
  rw [Interface.Disputed, ← include_iff, ← include_iff, kindOf]
  split
  next hnode hedge =>
    exact ⟨fun h ↦ by cases h; exact ⟨⟨hnode, hedge⟩, rfl⟩, fun h ↦ by rw [h.2]⟩
  next _ hedge => exact ⟨nofun, fun h ↦ by rw [h.1.2] at hedge; cases hedge⟩
  next hnode _ => exact ⟨nofun, fun h ↦ by rw [h.1.1] at hnode; cases hnode⟩
  next hnode _ => exact ⟨nofun, fun h ↦ by rw [h.1.1] at hnode; cases hnode⟩

theorem classify_eq_error {c : Config} {a : Ancestry} {i : Interface}
    {properties : List ResolvedProperty} {fault : StructuralFault} :
    classify (.ofConfig c) a i properties = .error fault ↔
      i.Disputed c ∧ fault = .dualKind i.name := by
  rw [← Requests.kindOf_eq_error, classify]
  split
  next h => rw [h]; exact ⟨fun h ↦ by cases h; rfl, fun h ↦ by cases h; rfl⟩
  next h => rw [h]; exact ⟨nofun, nofun⟩
  next h => rw [h]; exact ⟨nofun, nofun⟩

/-- An element is made from every interface that is not disputed. -/
theorem Element.ofInterface_eq_error {c : Config} {a : Ancestry} {own : OwnProperties}
    {i : Interface} {fault : StructuralFault} :
    ofInterface (.ofConfig c) a own i = .error fault ↔
      i.Disputed c ∧ fault = .dualKind i.name := by
  rw [ofInterface, bind_eq_error, classify_eq_error]
  exact or_iff_left fun ⟨_, _, h⟩ ↦ nomatch h

theorem Element.exists_ofInterface {c : Config} {a : Ancestry} {own : OwnProperties}
    {i : Interface} : (∃ e, ofInterface (.ofConfig c) a own i = .ok e) ↔ ¬ i.Disputed c := by
  cases h : ofInterface (.ofConfig c) a own i with
  | error fault =>
    have hdisputed := (ofInterface_eq_error.mp h).1
    exact ⟨nofun, fun hnot ↦ absurd hdisputed hnot⟩
  | ok e =>
    refine ⟨fun _ hdisputed ↦ ?_, fun _ ↦ ⟨e, rfl⟩⟩
    rw [ofInterface_eq_error.mpr ⟨hdisputed, rfl⟩] at h
    cases h

/-! ## Settings -/

theorem NodeType.exists_ofElement (c : Config) (e : Element) :
    ∃ n, NodeType.ofElement c.settings e = .ok n := ⟨_, rfl⟩

theorem EdgeType.exists_ofElement (c : Config) (a : Ancestry) (e : Element) :
    ∃ n, EdgeType.ofElement c.settings a e = .ok n := ⟨_, rfl⟩

theorem exists_features (c : Config) :
    ∃ names, (do (← c.settings.partAt ["diagram", "features"]).enabled) = .ok names := ⟨_, rfl⟩

/-! ## Building -/

namespace Diagram

/-- A diagram is built exactly if each of its parts is. -/
theorem build_eq_ok_iff {options : BuildOptions} {g : Grammar} {s : Setting} {d : Diagram} :
    build options g s = .ok d ↔
    g.checkInheritance = .ok () ∧ ∃ own requests elements nodes edges features,
      g.ownProperties = .ok own ∧ Requests.ofSettings s = .ok requests ∧
      g.interfaces.mapM (Element.ofInterface requests g.ancestry own) = .ok elements ∧
      (elements.filter (·.isNode)).mapM (NodeType.ofElement s) = .ok nodes ∧
      (elements.filter (·.isEdge)).mapM (EdgeType.ofElement s g.ancestry) = .ok edges ∧
      (do (← s.partAt ["diagram", "features"]).enabled) = .ok features ∧
      d = { projectName := g.project, grammar := g, elements, nodeTypes := nodes,
            edgeTypes := edges, ancestry := g.ancestry, features, config := s.entries,
            generatedAt := options.now,
            helpers := Entries.merge Template.builtinHelpers options.helpers,
            partials := Entries.merge builtinPartials options.partials } := by
  constructor
  · intro h
    obtain ⟨_, hinheritance, h⟩ := bind_eq_ok.mp h
    obtain ⟨own, hown, h⟩ := bind_eq_ok.mp h
    obtain ⟨requests, hrequests, h⟩ := bind_eq_ok.mp h
    obtain ⟨elements, helements, h⟩ := bind_eq_ok.mp h
    obtain ⟨nodes, hnodes, h⟩ := bind_eq_ok.mp h
    obtain ⟨edges, hedges, h⟩ := bind_eq_ok.mp h
    obtain ⟨features, hfeatures, h⟩ := bind_eq_ok.mp h
    cases h
    exact ⟨mapError_eq_ok.mp hinheritance, own, requests, elements, nodes, edges, features,
      mapError_eq_ok.mp hown, mapError_eq_ok.mp hrequests, mapError_eq_ok.mp helements,
      mapError_eq_ok.mp hnodes, mapError_eq_ok.mp hedges, mapError_eq_ok.mp hfeatures, rfl⟩
  · rintro ⟨hinheritance, own, requests, elements, nodes, edges, features, hown, hrequests,
      helements, hnodes, hedges, hfeatures, rfl⟩
    refine bind_eq_ok.mpr ⟨(), mapError_eq_ok.mpr hinheritance, ?_⟩
    refine bind_eq_ok.mpr ⟨own, mapError_eq_ok.mpr hown, ?_⟩
    refine bind_eq_ok.mpr ⟨requests, mapError_eq_ok.mpr hrequests, ?_⟩
    refine bind_eq_ok.mpr ⟨elements, mapError_eq_ok.mpr helements, ?_⟩
    refine bind_eq_ok.mpr ⟨nodes, mapError_eq_ok.mpr hnodes, ?_⟩
    refine bind_eq_ok.mpr ⟨edges, mapError_eq_ok.mpr hedges, ?_⟩
    exact bind_eq_ok.mpr ⟨features, mapError_eq_ok.mpr hfeatures, rfl⟩

/-- What a diagram is made from. -/
theorem build_eq_ok {options : BuildOptions} {g : Grammar} {s : Setting} {d : Diagram}
    (h : build options g s = .ok d) :
    g.checkInheritance = .ok () ∧ ∃ own requests, g.ownProperties = .ok own ∧
      Requests.ofSettings s = .ok requests ∧
      g.interfaces.mapM (Element.ofInterface requests g.ancestry own) = .ok d.elements := by
  obtain ⟨hinheritance, own, requests, elements, _, _, _, hown, hrequests, helements, -, -, -,
    rfl⟩ := build_eq_ok_iff.mp h
  exact ⟨hinheritance, own, requests, hown, hrequests, helements⟩

/-- Why there is no diagram. With the settings of a configuration nothing crashes. -/
theorem build_eq_error {options : BuildOptions} {g : Grammar} {c : Config} {f : BuildFault}
    (h : build options g c.settings = .error f) :
    ∃ fault, f = .structural fault ∧
      (g.checkInheritance = .error fault ∨ g.ownProperties = .error fault ∨
        ∃ i ∈ g.interfaces, i.Disputed c ∧ fault = .dualKind i.name) := by
  have hcrash : ∀ {α : Type} {x : Except Crash α} {c : Crash}, (∃ a, x = .ok a) → x ≠ .error c := by
    rintro α x c ⟨a, rfl⟩
    exact nofun
  rcases bind_eq_error.mp h with h | ⟨_, -, h⟩
  · obtain ⟨fault, hfault, rfl⟩ := mapError_eq_error.mp h
    exact ⟨fault, rfl, .inl hfault⟩
  rcases bind_eq_error.mp h with h | ⟨own, -, h⟩
  · obtain ⟨fault, hfault, rfl⟩ := mapError_eq_error.mp h
    exact ⟨fault, rfl, .inr (.inl hfault)⟩
  rcases bind_eq_error.mp h with h | ⟨requests, hrequests, h⟩
  · obtain ⟨crash, hfault, -⟩ := mapError_eq_error.mp h
    exact absurd hfault (hcrash ⟨_, Requests.ofSettings_config c⟩)
  rw [mapError_eq_ok, Requests.ofSettings_config] at hrequests
  cases hrequests
  rcases bind_eq_error.mp h with h | ⟨elements, -, h⟩
  · obtain ⟨fault, hfault, rfl⟩ := mapError_eq_error.mp h
    obtain ⟨i, hi, hfault⟩ := exists_of_mapM_eq_error hfault
    exact ⟨fault, rfl, .inr (.inr ⟨i, hi, Element.ofInterface_eq_error.mp hfault⟩)⟩
  rcases bind_eq_error.mp h with h | ⟨nodes, -, h⟩
  · obtain ⟨crash, hfault, -⟩ := mapError_eq_error.mp h
    refine absurd hfault (hcrash (exists_mapM_eq_ok.mpr fun e _ ↦ ?_))
    exact NodeType.exists_ofElement c e
  rcases bind_eq_error.mp h with h | ⟨edges, -, h⟩
  · obtain ⟨crash, hfault, -⟩ := mapError_eq_error.mp h
    refine absurd hfault (hcrash (exists_mapM_eq_ok.mpr fun e _ ↦ ?_))
    exact EdgeType.exists_ofElement c _ e
  rcases bind_eq_error.mp h with h | ⟨features, -, h⟩
  · obtain ⟨crash, hfault, -⟩ := mapError_eq_error.mp h
    exact absurd hfault (hcrash (exists_features c))
  · cases h

end Diagram

/-- What keeps a grammar from having a diagram: what validation finds about references and
inheritance, or a disputed interface. -/
def Grammar.Faulty (g : Grammar) (c : Config) : Prop :=
  g.interfaces.flatMap g.referenceFaults ≠ [] ∨ g.inheritanceCycles ≠ [] ∨
    ∃ i ∈ g.interfaces, i.Disputed c

theorem Grammar.not_faulty_iff {g : Grammar} {c : Config} : ¬ g.Faulty c ↔
    g.Closed ∧ g.inheritanceCycles = [] ∧ ∀ i ∈ g.interfaces, ¬ i.Disputed c := by
  rw [Faulty, not_or, not_or, not_not, not_not, ← closed_iff]
  simp only [not_exists, not_and]

namespace Diagram

variable {options : BuildOptions} {g : Grammar} {c : Config}

/-- Without faults of references and without cycles only a dispute is in the way. -/
theorem build_eq_error_of_closed {f : BuildFault} (hclosed : g.Closed)
    (hcycles : g.inheritanceCycles = []) (h : build options g c.settings = .error f) :
    ∃ i ∈ g.interfaces, i.Disputed c ∧ f = .structural (.dualKind i.name) := by
  obtain ⟨fault, rfl, hinheritance | hown | ⟨i, hi, hdisputed, rfl⟩⟩ := build_eq_error h
  · rw [Grammar.checkInheritance_eq_ok.mpr ⟨hclosed.superTypes, hcycles⟩] at hinheritance
    cases hinheritance
  · obtain ⟨own, hresolved⟩ := Grammar.exists_ownProperties.mpr hclosed.types
    rw [hresolved] at hown
    cases hown
  · exact ⟨i, hi, hdisputed, rfl⟩

theorem exists_build_iff : (∃ d, build options g c.settings = .ok d) ↔ ¬ g.Faulty c := by
  rw [Grammar.not_faulty_iff]
  constructor
  · rintro ⟨d, hd⟩
    obtain ⟨hinheritance, own, requests, hown, hrequests, helements⟩ := build_eq_ok hd
    obtain ⟨hsuperTypes, hcycles⟩ := Grammar.checkInheritance_eq_ok.mp hinheritance
    have htypes := Grammar.exists_ownProperties.mp ⟨own, hown⟩
    rw [Requests.ofSettings_config] at hrequests
    cases hrequests
    refine ⟨⟨hsuperTypes, htypes⟩, hcycles, fun i hi ↦ ?_⟩
    exact Element.exists_ofInterface.mp (exists_mapM_eq_ok.mp ⟨_, helements⟩ i hi)
  · rintro ⟨hclosed, hcycles, hdisputed⟩
    cases hbuild : build options g c.settings with
    | ok d => exact ⟨d, rfl⟩
    | error f =>
      obtain ⟨i, hi, h, -⟩ := build_eq_error_of_closed hclosed hcycles hbuild
      exact absurd h (hdisputed i hi)

end Diagram

/-- What validation accepts has no fault of references and no cycle. -/
theorem Grammar.validate_ok {g : Grammar} (h : g.validate.ok = true) :
    g.interfaces.flatMap g.referenceFaults = [] ∧ g.inheritanceCycles = [] ∧
      repeats [] (g.interfaceNames ++ g.typeNames) = [] := by
  rw [validate, ValidationReport.ok, List.isEmpty_iff, List.map_eq_nil_iff, faults,
    List.append_eq_nil_iff, List.append_eq_nil_iff, List.map_eq_nil_iff, List.map_eq_nil_iff] at h
  exact ⟨h.1.1, h.1.2, h.2⟩

/-- A valid grammar without notes has a diagram if nothing is configured. -/
theorem Diagram.exists_build_of_valid {g : Grammar} (hvalid : g.validate.ok = true)
    (hnotes : ∀ i ∈ g.interfaces, i.annotations = []) (options : BuildOptions) :
    ∃ d, build options g (Config.settings {}) = .ok d := by
  obtain ⟨hreferences, hcycles, -⟩ := Grammar.validate_ok hvalid
  rw [exists_build_iff, Grammar.not_faulty_iff, Grammar.closed_iff]
  refine ⟨hreferences, hcycles, ?_⟩
  rintro i hi ⟨hnode | hnode, -⟩
  · rw [hnotes i hi] at hnode
    cases hnode
  · exact List.not_mem_nil hnode

end DiagramForge
