import DiagramForge.Diagram.Build
import DiagramForge.Proofs.Template.Builtin
import DiagramForge.Proofs.Template.Reach

/-!
# The time of a diagram

Every template has the time that its diagram was made at, as an attribute of `metadata`. None of the
built-in templates and fragments shows it: they do not read `metadata` but for the name and the
version of the generator, as is found out by compiling them. So two diagrams that differ in that
time render alike: `Block.textFor_dated`.

Which templates a store has kept, and which disk the project is on, makes no difference either. So a
rendering for the second diagram may find everything in the store that a rendering for the first one
has left.
-/

namespace DiagramForge

open Text Outcome Template

/-- A diagram as it is made at another time. -/
def Diagram.dated (d : Diagram) (time : String) : Diagram :=
  { d with generatedAt := time }

namespace Template

/-! ## Templates that do not read the time -/

/-- Everything but the time that the diagram was made at. -/
def timeless : Reach where
  names n := n != "metadata"
  attributes n a := n == "metadata" && ["generator", "version"].contains a

/-- The characters of a plain text compile to a template that does not read the time. -/
def readsNoTime (cs : List Char) : Bool :=
  cs.all isPlain && (compileChars cs).toOption.any (Block.within timeless)

/-- A text that is loaded as it is written, and compiles to a template that does not read the time.
-/
structure Timeless (source : String) : Prop where
  /-- It is loaded as it is written. -/
  loaded : TemplateLibrary.decodeSource (encodeUtf8 source.toList) = .ok source
  /-- It compiles. -/
  compiled : ∃ b, compile source = .ok b ∧ b.within timeless = true

theorem timeless_of_written {lines : List String} {css : List (List Char)} (h : Written lines css)
    (hcss : readsNoTime (['\n'].intercalate css) = true) : Timeless (joinStrings "\n" lines) := by
  rw [readsNoTime, Bool.and_eq_true, Option.any_eq_true] at hcss
  obtain ⟨hplain, b, hcompile, hb⟩ := hcss
  rw [joinStrings_of_written h]
  constructor
  · rw [String.toList_ofList]
    exact decodeSource_plain hplain
  · rw [compile_ofList]
    exact ⟨b, toOption_eq_some.mp hcompile, hb⟩

theorem timeless_common : ∀ e ∈ Builtin.Common.templates, Timeless (joinStrings "\n" e.2) := by
  simp only [Builtin.Common.templates, Builtin.Common.actions, Builtin.Common.modelTypes,
    Builtin.Common.protocol, Builtin.Common.readme, Builtin.Common.utils, List.forall_mem_cons,
    List.not_mem_nil, false_imp_iff, implies_true, and_true]
  repeat' apply And.intro
  all_goals
    apply timeless_of_written
    case h => repeat' constructor
    case hcss => decide +kernel

theorem timeless_server : ∀ e ∈ Builtin.Server.templates, Timeless (joinStrings "\n" e.2) := by
  simp only [Builtin.Server.templates, Builtin.Server.diConfig, Builtin.Server.edgeHandler,
    Builtin.Server.layoutEngine, Builtin.Server.modelFactory, Builtin.Server.modelFactorySpec,
    Builtin.Server.modelIndex, Builtin.Server.modelValidator, Builtin.Server.nodeHandler,
    Builtin.Server.serverModule, List.forall_mem_cons, List.not_mem_nil, false_imp_iff,
    implies_true, and_true]
  repeat' apply And.intro
  all_goals
    apply timeless_of_written
    case h => repeat' constructor
    case hcss => decide +kernel

theorem timeless_browser : ∀ e ∈ Builtin.Browser.templates, Timeless (joinStrings "\n" e.2) := by
  simp only [Builtin.Browser.templates, Builtin.Browser.commandContribution,
    Builtin.Browser.diConfig, Builtin.Browser.diagramConfiguration, Builtin.Browser.frontendModule,
    Builtin.Browser.nodeView, Builtin.Browser.sampleModel, Builtin.Browser.toolPaletteContribution,
    Builtin.Browser.views, List.forall_mem_cons, List.not_mem_nil, false_imp_iff, implies_true,
    and_true]
  repeat' apply And.intro
  all_goals
    apply timeless_of_written
    case h => repeat' constructor
    case hcss => decide +kernel

/-- None of the built-in templates reads the time. -/
theorem timeless_of_mem {e : String × List String} (he : e ∈ builtinTemplates) :
    Timeless (joinStrings "\n" e.2) := by
  simp only [builtinTemplates, List.mem_append, List.mem_map] at he
  obtain (⟨e, he, rfl⟩ | ⟨e, he, rfl⟩) | ⟨e, he, rfl⟩ := he
  · exact timeless_browser e he
  · exact timeless_common e he
  · exact timeless_server e he

/-- Nothing that the library of the built-in templates loads reads the time. -/
theorem timeless_of_load {disk : Disk} {name source : String}
    (h : builtinLibrary.load disk name = .ok source) : Timeless source := by
  obtain ⟨e, he, hsource⟩ := exists_lines_of_load h
  have htimeless := timeless_of_mem he
  cases htimeless.loaded.symm.trans hsource
  exact htimeless

/-- The library of the built-in templates loads each of them as it is written. -/
theorem load_builtin (disk : Disk) {e : String × List String} (he : e ∈ builtinTemplates) :
    builtinLibrary.load disk e.1 = .ok (joinStrings "\n" e.2) :=
  (load_of_mem_builtinTemplates disk he).trans (timeless_of_mem he).loaded

/-- Neither of the built-in fragments reads the time. -/
theorem timeless_partials : ∀ e ∈ builtinPartials, Timeless e.2 := by
  have hlines : r"# {{ config.extension.display_name }}" ++ "\n" =
      joinStrings "\n" [r"# {{ config.extension.display_name }}", ""] := by
    rw [← String.toList_inj, joinStrings, String.toList_intercalate, String.toList_append]
    rfl
  simp only [builtinPartials, hlines, List.forall_mem_cons, List.not_mem_nil, false_imp_iff,
    implies_true, and_true]
  apply And.intro
  all_goals
    apply timeless_of_written
    case h => repeat' constructor
    case hcss => decide +kernel

/-! ## Diagrams that differ in their time -/

theorem Value.sameKey_text (a b : String) : (Value.text a).sameKey (.text b) = (a == b) := by
  rw [Value.sameKey, Value.equal]
  all_goals simp [Value.text?, Except.toOption]

theorem Value.keyed?_ofEntries (es : List (String × Data)) (name : String) :
    Value.keyed? (Value.ofEntries es) (.text name) = (Entries.get? es name).map Value.ofData := by
  rw [Value.keyed?, Entries.get?]
  induction es with
  | nil => rw [Value.ofEntries]; rfl
  | cons e es ih =>
    rw [Value.ofEntries, List.find?_cons, List.find?_cons, Value.sameKey_text]
    cases e.1 == name with
    | true => rfl
    | false => exact ih

/-- Entries that can only be read are found by their names, unless a method has the name. -/
theorem field_fixedEntries {es : List (String × Data)} {name : String} {x : Data}
    (hmethod : (Value.methods (.mapping .fixed [])).contains name = false)
    (hentry : Entries.get? es name = some x) :
    (fixedEntries es).field takeItem name = pure (Value.ofData x) := by
  have hattribute : (fixedEntries es).attribute? name = none := by
    simp [fixedEntries, Value.attribute?, Value.methods] at hmethod ⊢
    exact hmethod
  have hpart : (fixedEntries es).part? (.text name) = .ok (some (Value.ofData x)) := by
    rw [fixedEntries, Value.part?]
    · rw [Value.keyed?_ofEntries, hentry]
      rfl
    · simp
  rw [fixedEntries, Value.field]
  · rw [Value.attributeNow]
    · rw [← fixedEntries, hattribute, hpart]
      rfl
    · simp
  · simp
  · simp

/-- The metadata of two diagrams that differ in their time. -/
theorem agree_metadata (d : Diagram) (time : String) (scope : Scope) :
    timeless.Agree (("metadata", fixedEntries d.metadata) :: scope)
      (("metadata", fixedEntries (d.dated time).metadata) :: scope) := by
  constructor
  · intro n hn
    have hname : "metadata" ≠ n := by
      rintro rfl
      exact absurd hn (by decide)
    rw [Scope.value_cons, Scope.value_cons, if_neg hname, if_neg hname]
  · intro n a ha
    obtain ⟨hn, ha⟩ := Bool.and_eq_true_iff.mp ha
    rw [Scope.value_cons, Scope.value_cons, if_pos (eq_of_beq hn).symm, if_pos (eq_of_beq hn).symm]
    simp only [List.contains_cons, List.contains_nil, Bool.or_false, Bool.or_eq_true,
      beq_iff_eq] at ha
    rcases ha with rfl | rfl
    · rw [field_fixedEntries rfl rfl, field_fixedEntries rfl rfl]
    · rw [field_fixedEntries rfl rfl, field_fixedEntries rfl rfl]

/-- The names bound in the templates of a diagram do not show its time otherwise. -/
theorem agree_dated (d : Diagram) (vars : List (String × Value)) (time : String) :
    timeless.Agree (bindings d vars) (bindings (d.dated time) vars) := by
  have hvars : d.vars = d.vars.take 11 ++ ("metadata", fixedEntries d.metadata) :: d.vars.drop 12 :=
    rfl
  have hdated : (d.dated time).vars =
      d.vars.take 11 ++ ("metadata", fixedEntries (d.dated time).metadata) :: d.vars.drop 12 :=
    rfl
  rw [bindings, bindings, hdated, hvars, List.append_assoc, List.append_assoc, List.append_assoc,
    List.append_assoc]
  exact ((agree_metadata d time _).append _).append _

/-! ## Rendering -/

/-- The fragment that a call asks for is one of those there are. -/
theorem fragmentAsked_inStep (partials : List (String × String)) (args : List Value)
    (named : NamedValues) :
    InStep Eq (fun asked asked' ↦ asked = asked' ∧
        ∀ source, asked.2.1 = some source → ∃ name, (name, source) ∈ partials)
      (fragmentAsked partials args named) (fragmentAsked partials args named) := by
  refine (InStep.refl _).bind_eq fun bound ↦ ?_
  refine (InStep.refl _).bind_eq fun _ ↦ ?_
  refine (InStep.refl _).bind_eq fun shown ↦ .pure ⟨rfl, fun source hsource ↦ ?_⟩
  obtain ⟨name, -, hname⟩ := Option.bind_eq_some_iff.mp hsource
  obtain ⟨e, he, rfl⟩ := Option.map_eq_some_iff.mp hname
  exact ⟨e.1, List.mem_of_find?_eq_some he⟩

/-- Both of two stores are sound. -/
abbrev BothSound (reads : TemplateKey → String → Prop) (s t : TemplateStore) : Prop :=
  s.Sound reads ∧ t.Sound reads

variable {library : TemplateLibrary} {disk disk' : Disk} {reads : TemplateKey → String → Prop}
  {d : Diagram} {scope scope' : Scope}

/-- A fragment that does not read the time is there in both stores. -/
theorem getFragment_inStep (hlibrary : library.KeyedBy disk reads)
    (hlibrary' : library.KeyedBy disk' reads) {source : String} (h : Timeless source)
    (name : String) : InStep (BothSound reads) (fun b b' ↦ b = b' ∧ b.within timeless = true)
      (getFragment disk name source) (getFragment disk' name source) := by
  obtain ⟨b, hb, hwithin⟩ := h.compiled
  have hfragment := (comesTo_getFragment hlibrary name source).inStep
    (comesTo_getFragment hlibrary' name source)
  apply hfragment.mono
  rintro b' _ ⟨rfl, hfound⟩
  obtain rfl : b = b' := Except.ok.inj ((compileNamed_eq_ok.mpr hb).symm.trans hfound)
  exact ⟨rfl, hwithin⟩

theorem helpers_hostOf (disk : Disk) (d : Diagram) (scope : Scope) (depth : Nat) :
    (hostOf disk d scope depth).helpers = d.helpers := by
  cases depth with
  | zero => rw [hostOf]
  | succ depth => rw [hostOf]

/-- However deep fragments lie in each other, they do not show the time. -/
theorem hostOf_dated (hlibrary : library.KeyedBy disk reads)
    (hlibrary' : library.KeyedBy disk' reads) (hpartials : ∀ e ∈ d.partials, Timeless e.2)
    (hscope : timeless.Agree scope scope') (time : String) (depth : Nat) :
    (hostOf disk d scope depth).InStep (BothSound reads)
      (hostOf disk' (d.dated time) scope' depth) := by
  have hhelpers : (d.dated time).helpers = d.helpers := rfl
  induction depth with
  | zero =>
    constructor
    · rw [helpers_hostOf, helpers_hostOf, hhelpers]
    · exact fun _ _ ↦ inStep_lift _
  | succ depth ih =>
    constructor
    · rw [helpers_hostOf, helpers_hostOf, hhelpers]
    intro args named
    refine (inStep_evaluate (fragmentAsked_inStep d.partials args named)).bind ?_
    rintro ⟨name, source, vars⟩ _ ⟨rfl, hsource⟩
    cases source with
    | none => exact inStep_lift _
    | some source =>
      obtain ⟨key, hmem⟩ := hsource source rfl
      refine (inStep_keep (getFragment_inStep hlibrary hlibrary' (hpartials _ hmem) name)).bind ?_
      rintro b _ ⟨rfl, hwithin⟩
      exact (b.text_inStep ih (hscope.append vars) hwithin).bind_eq fun _ ↦ .pure rfl

/-- **Diagrams that differ in their time render alike.** -/
theorem Block.textFor_dated (hlibrary : library.KeyedBy disk reads)
    (hlibrary' : library.KeyedBy disk' reads) (hpartials : ∀ e ∈ d.partials, Timeless e.2)
    {b : Block} (hb : b.within timeless = true) (vars : List (String × Value)) (time : String) :
    b.textFor disk' (d.dated time) vars = b.textFor disk d vars := by
  have hscope := agree_dated d vars time
  have hhost := hostOf_dated hlibrary hlibrary' hpartials hscope time fragmentDepth
  have htext := inStep_alone (b.text_inStep hhost hscope hb)
  obtain ⟨hresult, -⟩ := htext {} {} ⟨TemplateStore.sound_empty, TemplateStore.sound_empty⟩
  exact (sameOutcome_eq_iff.mp hresult).symm

end Template

end DiagramForge
