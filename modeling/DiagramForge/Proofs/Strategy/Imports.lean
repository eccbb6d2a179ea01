import DiagramForge.Proofs.Diagram.Elements
import DiagramForge.Proofs.Strategy.DistinctPaths
import DiagramForge.Proofs.Strategy.Emitted
import DiagramForge.Proofs.Strategy.Foreseen
import DiagramForge.Proofs.Template.Helpers

/-!
# Imports between generated files

Two generated files import a module for each of some elements: the module of the server, which
imports the handlers of all elements, and the list of views, which imports those of the nodes. The
paths of the imported files are spelt by the strategy, and the imports by the templates.

The two spellings are independent. A strategy fills a pattern, in which a name is spelt as
`Naming.toKebab` spells it. A template calls the helper `toKebabCase`, which is that function unless
whoever builds the diagram supplies another one. `ImportList.resolves` says what follows: in a run
without errors there is an import for each element, and a file for each element, and an import is
that of the file exactly if the helper has printed the spelling of the strategy.
-/

namespace DiagramForge

open Template Outcome

/-! ## Lists of imports -/

/-- The helper that templates spell names with in imports. -/
def kebabHelper : String := "toKebabCase"

/-- A helper of a diagram may print a text for another one. -/
def Diagram.Prints (d : Diagram) (helper s t : String) : Prop :=
  ∃ h, Entries.get? d.helpers helper = some h ∧ h.Prints s t

/-- The file at a path is the module with a name, as a file in a directory imports it. -/
def ModuleAt (directory name path : String) : Prop :=
  ∃ rest, name = "./" ++ rest ∧ (path = directory ++ rest ++ ".ts" ∨
    path = directory ++ rest ++ ".tsx")

/-- A list of imports in a file that a strategy renders once: one for each of some elements. -/
structure ImportList where
  /-- The strategy. -/
  strategy : TemplateStrategy
  /-- The template that the imports are written in. -/
  file : FixedTemplate
  /-- The text in front of the imports in the template. -/
  lead : String
  /-- The line of the template that the imports begin in. -/
  line : Nat
  /-- The name that an element is bound to. -/
  item : String
  /-- The variable with the elements. -/
  items : String
  /-- The elements, each with the record that is bound. -/
  entries : Diagram → List (Element × Value)
  /-- What the imported names begin and end with. -/
  symbol : String × String
  /-- What the paths of the modules begin and end with. -/
  stem : String × String
  /-- How the files of the modules end. -/
  extension : String

namespace ImportList

variable (i : ImportList)

/-- The module of an element, as it is imported; the name of the element is given as it is spelt. -/
def moduleOf (spelt : String) : String :=
  "./" ++ (i.stem.1 ++ spelt ++ i.stem.2)

/-- The import of an element. -/
def importOf (name spelt : String) : String :=
  "import \x7b " ++ i.symbol.1 ++ name ++ i.symbol.2 ++ " \x7d from '" ++ i.moduleOf spelt ++ "';\n"

/-- The parts of the template that write an import. -/
def body : Block :=
  let name := Expr.field (.name i.item (i.line + 1)) "name"
  let spelt := Expr.call (.name kebabHelper (i.line + 1)) (.positional name .nil)
  .ofList [.text ("import \x7b " ++ i.symbol.1), .print name,
    .text (i.symbol.2 ++ " \x7d from './" ++ i.stem.1), .print spelt,
    .text (i.stem.2 ++ "';\n")]

/-- The parts of the template that write the imports. -/
def passage : Block :=
  .ofList [.text i.lead, .loop (.name i.item i.line) (.name i.items i.line) none i.body .nil]

end ImportList

/-- The imports of handlers in the module of the server. -/
def handlerImports : ImportList where
  strategy := serverStrategy
  file := { template := "server-module", output := "server-module.ts", required := true }
  lead := "ModelIndex \x7d from './model-index';\n"
  line := 7
  item := "iface"
  items := "interfaces"
  entries d := d.elements.map fun e ↦ (e, e.view)
  symbol := ("Create", "Handler")
  stem := ("handlers/create-", "-handler")
  extension := ".ts"

/-- The imports of views in the list of views. -/
def viewImports : ImportList where
  strategy := browserStrategy
  file := { template := "views", output := "views.ts" }
  lead := "Types \x7d from '../common/protocol';\n"
  line := 5
  item := "node"
  items := "node_types"
  entries d := d.nodeTypes.map fun n ↦ (n.element, n.view)
  symbol := ("", "View")
  stem := ("views/", "-view")
  extension := ".tsx"

/-! ## The names that the templates use -/

/-- A helper of a diagram is the last one that has been supplied under its name, or else the one
that is built in. -/
theorem Diagram.get?_helpers {options : BuildOptions} {g : Grammar} {setting : Setting}
    {d : Diagram} (hbuild : Diagram.build options g setting = .ok d) (n : String) :
    Entries.get? d.helpers n =
      (Entries.get? options.helpers.reverse n).or (Entries.get? builtinHelpers n) := by
  obtain ⟨-, _, _, _, _, _, _, -, -, -, -, -, -, rfl⟩ := Diagram.build_eq_ok_iff.mp hbuild
  exact Entries.get?_merge _ _ _

/-- There is a helper for imports. -/
theorem Diagram.exists_kebabHelper {options : BuildOptions} {g : Grammar} {setting : Setting}
    {d : Diagram} (hbuild : Diagram.build options g setting = .ok d) :
    ∃ h, Entries.get? d.helpers kebabHelper = some h := by
  rw [← Option.isSome_iff_exists, Diagram.get?_helpers hbuild, Option.isSome_or]
  exact Bool.or_eq_true_iff.mpr (.inr rfl)

/-- Unless somebody supplies another helper, it spells names as files are spelt. -/
theorem Diagram.run_printed_kebabHelper {options : BuildOptions} {g : Grammar} {setting : Setting}
    {d : Diagram} (hbuild : Diagram.build options g setting = .ok d)
    (hown : kebabHelper ∉ options.helpers.map Prod.fst) {h : Helper}
    (hget : Entries.get? d.helpers kebabHelper = some h) (s : String) (m : Memory) :
    (h.printed s).run m = (.ok (Naming.toKebab s), m) := by
  have hnone : kebabHelper ∉ options.helpers.reverse.map Prod.fst := by
    rwa [List.map_reverse, List.mem_reverse]
  rw [Diagram.get?_helpers hbuild, Entries.get?_eq_none hnone] at hget
  cases hget
  exact Helper.run_printed_conversion _ _ _ rfl s m

theorem elementTemplates_builtin : ∀ s ∈ builtinStrategies, ∀ t ∈ s.perElement,
    s.qualified t.template ∈ builtinTemplates.map (·.1) := by
  decide +kernel

theorem serverVariables_keys {d : Diagram} {own : List (String × Value)}
    (h : serverVariables d = .ok own) : own.map Prod.fst = ["operations", "handler_defaults"] := by
  obtain ⟨defaults, -, h⟩ := bind_eq_ok.mp h
  cases h
  rfl

theorem browserVariables_keys {d : Diagram} {own : List (String × Value)}
    (h : browserVariables d = .ok own) : own.map Prod.fst = ["commands", "palette_groups"] := by
  obtain ⟨commands, -, h⟩ := bind_eq_ok.mp h
  obtain ⟨groups, -, h⟩ := bind_eq_ok.mp h
  cases h
  rfl

namespace ImportList

/-- What makes a list of imports one of a built-in strategy. -/
structure Fits (i : ImportList) : Prop where
  /-- The strategy is built in. -/
  strategy : i.strategy ∈ builtinStrategies
  /-- The template is one of those that are rendered once. -/
  file : i.file ∈ i.strategy.fixed
  /-- It is rendered whatever the settings are. -/
  active : ∀ disk d, i.strategy.isActive builtinLibrary disk d i.file = .ok true
  /-- It has the parts that write the imports. -/
  passage : BuiltinHas (i.strategy.qualified i.file.template) [i.passage]
  /-- The strategy adds no variables that hide the elements or the helper. -/
  names : ∀ d own, i.strategy.vars d = .ok own →
    ∀ n ∈ [i.items, kebabHelper], n ∉ own.map Prod.fst ++ ["strategy"]
  /-- The elements are a variable of the diagram. -/
  items : "partial" ≠ i.items ∧ ∀ d : Diagram,
    Entries.get? d.vars i.items = some (.tuple ((i.entries d).map Prod.snd))
  /-- An element hides neither the loop nor the helper. -/
  item : "loop" ≠ i.item ∧ i.item ≠ kebabHelper
  /-- The records have the names of the elements. -/
  name : ∀ d, ∀ x ∈ i.entries d, x.2.field takeItem "name" = pure (.text x.1.name)
  /-- Each of the elements is one that the strategy has a template for. -/
  elements : ∀ options g s d, Diagram.build options g s = .ok d → ∀ x ∈ i.entries d,
    x.1 ∈ d.elements ∧ ∃ t ∈ i.strategy.perElement, t.kind = x.1.kind
  /-- The modules are source files. -/
  source : i.extension = ".ts" ∨ i.extension = ".tsx"
  /-- The files for elements lie where the modules are imported from. -/
  framing : i.strategy.Framing i.stem.1 (i.stem.2 ++ i.extension)

end ImportList

theorem fits_handlerImports : handlerImports.Fits where
  strategy := by simp [builtinStrategies, handlerImports]
  file := List.mem_cons_self
  active _ _ := rfl
  passage := by
    have hmem : ("server-module", Builtin.Server.serverModule) ∈ Builtin.Server.templates := by
      simp [Builtin.Server.templates]
    apply builtinHas_of_written (mem_builtinTemplates_server hmem)
    case hlines =>
      simp only [Builtin.Server.serverModule]
      repeat' constructor
    case hcss => decide +kernel
  names d own hown := by
    rw [serverVariables_keys hown]
    decide
  items := ⟨by decide, fun d ↦ by
    simp [handlerImports]
    rfl⟩
  item := by decide
  name d x hx := by
    obtain ⟨e, -, rfl⟩ := List.mem_map.mp hx
    rfl
  elements _ _ _ d _ x hx := by
    obtain ⟨e, he, rfl⟩ := List.mem_map.mp hx
    refine ⟨he, ?_⟩
    cases e.kind with
    | node => exact ⟨_, List.mem_cons_self, rfl⟩
    | edge => exact ⟨_, List.mem_cons_of_mem _ List.mem_cons_self, rfl⟩
  source := .inl rfl
  framing := framing_server

theorem fits_viewImports : viewImports.Fits where
  strategy := by simp [builtinStrategies, viewImports]
  file := by simp [viewImports, browserStrategy]
  active _ _ := has_of_mem_builtinTemplates _ (by decide)
  passage := by
    have hmem : ("views", Builtin.Browser.views) ∈ Builtin.Browser.templates := by
      simp [Builtin.Browser.templates]
    apply builtinHas_of_written (mem_builtinTemplates_browser hmem)
    case hlines =>
      simp only [Builtin.Browser.views]
      repeat' constructor
    case hcss => decide +kernel
  names d own hown := by
    rw [browserVariables_keys hown]
    decide
  items := ⟨by decide, fun d ↦ by
    simp [viewImports]
    rfl⟩
  item := by decide
  name d x hx := by
    obtain ⟨e, -, rfl⟩ := List.mem_map.mp hx
    rfl
  elements _ _ _ d hbuild x hx := by
    obtain ⟨n, hn, rfl⟩ := List.mem_map.mp hx
    have hnode : n.element ∈ d.elements.filter (·.isNode) :=
      Diagram.nodeTypes_map_element hbuild ▸ List.mem_map_of_mem hn
    obtain ⟨he, hkind⟩ := List.mem_filter.mp hnode
    exact ⟨he, _, List.mem_cons_self, (beq_iff_eq.mp hkind).symm⟩
  source := .inr rfl
  framing := framing_browser

/-! ## What is written -/

namespace ImportList

variable {i : ImportList} {d : Diagram} {own : List (String × Value)}

/-- The variables of the templates that are rendered once. -/
theorem Fits.get?_vars (h : i.Fits) (hown : i.strategy.vars d = .ok own) {n : String}
    (hn : n ∈ [i.items, kebabHelper]) :
    Entries.get? (own ++ [("strategy", .text i.strategy.name)]) n = none := by
  refine Entries.get?_eq_none ?_
  rw [List.map_append]
  exact h.names d own hown n hn

theorem Fits.value_items (h : i.Fits) (hown : i.strategy.vars d = .ok own) :
    (bindings d (own ++ [("strategy", .text i.strategy.name)])).value i.items =
      .tuple ((i.entries d).map Prod.snd) := by
  apply Scope.value_of_get?
  rw [get?_bindings h.items.1, h.get?_vars hown List.mem_cons_self, h.items.2 d]
  rfl

theorem Fits.value_helper (h : i.Fits) (hown : i.strategy.vars d = .ok own)
    (hhelper : ∃ h, Entries.get? d.helpers kebabHelper = some h) :
    (bindings d (own ++ [("strategy", .text i.strategy.name)])).value kebabHelper =
      .helper kebabHelper := by
  obtain ⟨helper, hhelper⟩ := hhelper
  apply Scope.value_of_get?
  rw [get?_bindings (by decide), h.get?_vars hown (List.mem_cons_of_mem _ List.mem_cons_self),
    hhelper]
  rfl

/-- What the template writes for an element is an import. -/
theorem writes_body {σ : Type} {host : Host σ} {known : Memory} {scope : Scope}
    {x : Element × Value} (hitem : scope.value i.item = x.2)
    (hhelper : scope.value kebabHelper = .helper kebabHelper)
    (hname : x.2.field takeItem "name" = pure (.text x.1.name)) (hhost : host.helpers = d.helpers)
    (hleaves : ∀ helper, Entries.get? d.helpers kebabHelper = some helper → helper.LeavesLoops) :
    i.body.Writes host known scope fun t ↦
      ∃ spelt, d.Prints kebabHelper x.1.name spelt ∧ t = i.importOf x.1.name spelt := by
  rw [← hhost] at hleaves
  have hname : (Expr.field (.name i.item (i.line + 1)) "name").Denotes host known scope
      (.text x.1.name) := Expr.denotes_field (Expr.denotes_name hitem) hname
  have hhelper : (Expr.name kebabHelper (i.line + 1)).Denotes host known scope
      (.helper kebabHelper) := Expr.denotes_name hhelper
  have hspelt := Node.writes_call hhelper hname hleaves
  have hall := Block.writes_cons (Node.writes_text ("import \x7b " ++ i.symbol.1))
    (Block.writes_cons (Node.writes_print hname) (Block.writes_cons
      (Node.writes_text (i.symbol.2 ++ " \x7d from './" ++ i.stem.1)) (Block.writes_cons hspelt
        (Block.writes_cons (Node.writes_text (i.stem.2 ++ "';\n")) Block.writes_nil))))
  refine hall.imp ?_
  rintro t ⟨_, rfl, _, ⟨_, rfl, _, ⟨_, rfl, _, ⟨spelt, hprints, _, ⟨_, rfl, _, rfl, rfl⟩, rfl⟩,
    rfl⟩, rfl⟩, rfl⟩
  rw [hhost] at hprints
  have hquote : " \x7d from './" = " \x7d from '" ++ "./" := by decide
  refine ⟨spelt, hprints, ?_⟩
  simp only [importOf, moduleOf, hquote, String.append_assoc, String.append_empty]

/-- The passage writes an import for each element. -/
theorem Fits.writes_passage (h : i.Fits) (hown : i.strategy.vars d = .ok own) {disk : Disk}
    (hhelper : ∃ h, Entries.get? d.helpers kebabHelper = some h)
    (hleaves : ∀ helper, Entries.get? d.helpers kebabHelper = some helper → helper.LeavesLoops) :
    let vars := own ++ [("strategy", Value.text i.strategy.name)]
    i.passage.Writes (hostOf disk d (bindings d vars) fragmentDepth) {} (bindings d vars) fun t ↦
      ∃ u, Each (fun x _ t ↦ ∃ spelt, d.Prints kebabHelper x.1.name spelt ∧
        t = i.importOf x.1.name spelt) (i.entries d) u ∧ t = i.lead ++ u := by
  intro vars
  have hhost := helpers_hostOf disk d (bindings d vars) fragmentDepth
  have hitems : (Expr.name i.items i.line).Denotes (hostOf disk d (bindings d vars) fragmentDepth)
      {} (bindings d vars) (.tuple ((i.entries d).map Prod.snd)) :=
    Expr.denotes_name (h.value_items hown)
  have hloop : (Node.loop (.name i.item i.line) (.name i.items i.line) none i.body .nil).Writes
      (hostOf disk d (bindings d vars) fragmentDepth) {} (bindings d vars)
      (Each (fun x _ t ↦ ∃ spelt, d.Prints kebabHelper x.1.name spelt ∧
        t = i.importOf x.1.name spelt) (i.entries d)) := by
    refine Node.writes_loop hitems fun x hx after id known' _ _ ↦
      writes_body ?_ ?_ (h.name d x hx) hhost hleaves
    · rw [Scope.value_cons, if_neg h.item.1, Scope.value_cons, if_pos rfl]
    · rw [Scope.value_cons, if_neg (by decide), Scope.value_cons, if_neg h.item.2]
      exact h.value_helper hown hhelper
  refine (Block.writes_cons (Node.writes_text i.lead)
    (Block.writes_cons hloop Block.writes_nil)).imp ?_
  rintro t ⟨_, rfl, _, ⟨u, hu, _, rfl, rfl⟩, rfl⟩
  exact ⟨u, hu, by rw [String.append_empty]⟩

/-! ## What the imports mean -/

variable (i) in
/-- The elements that there are imports for. -/
def elements (d : Diagram) : List Element :=
  (i.entries d).map Prod.fst

/-- An import is that of the file whose path has been spelt in the same way. -/
theorem moduleAt_iff (hsource : i.extension = ".ts" ∨ i.extension = ".tsx")
    (directory spelt name : String) :
    ModuleAt directory (i.moduleOf spelt)
      (directory ++ framed i.stem.1 (i.stem.2 ++ i.extension) name) ↔
      spelt = Naming.toKebab name := by
  constructor
  · rintro ⟨rest, hmodule, hpath⟩
    obtain rfl := (String.append_right_inj _).mp hmodule
    have hends : ∀ {a b : String}, a ++ ".ts" ≠ b ++ ".tsx" := by
      intro a b heq
      have hlast := congrArg (fun s ↦ s.toList.getLast?) heq
      simp at hlast
    have hrest : ∀ {extension : String}, directory ++ framed i.stem.1 (i.stem.2 ++ i.extension)
        name = directory ++ (i.stem.1 ++ spelt ++ i.stem.2) ++ extension →
        Naming.toKebab name ++ i.stem.2 ++ i.extension =
          spelt ++ i.stem.2 ++ extension := by
      intro extension heq
      simp only [framed, String.append_assoc, String.append_right_inj] at heq ⊢
      exact heq
    rcases hsource with hsource | hsource <;> rcases hpath with hpath | hpath
    · have heq := hrest hpath
      rw [hsource, String.append_left_inj, String.append_left_inj] at heq
      exact heq.symm
    · exact absurd (hsource ▸ hrest hpath) hends
    · exact absurd (hsource ▸ hrest hpath).symm hends
    · have heq := hrest hpath
      rw [hsource, String.append_left_inj, String.append_left_inj] at heq
      exact heq.symm
  · rintro rfl
    refine ⟨_, rfl, ?_⟩
    rcases hsource with hsource | hsource
    · exact .inl (by rw [hsource, framed]; simp only [String.append_assoc])
    · exact .inr (by rw [hsource, framed]; simp only [String.append_assoc])

/-- In a run without errors, the imports are written for all elements, and there is a file for each
of them. -/
theorem Fits.exists_imports (h : i.Fits) {options : BuildOptions} {g : Grammar} {setting : Setting}
    (hbuild : Diagram.build options g setting = .ok d)
    (hleaves : ∀ helper, Entries.get? d.helpers kebabHelper = some helper → helper.LeavesLoops)
    {disk : Disk} {store : TemplateStore} {r : StrategyResult}
    (hstore : store.Sound (builtinLibrary.Reads disk))
    (hr : ((i.strategy.render builtinLibrary disk d).run store).1 = .ok r)
    (herrors : r.errors = []) :
    ∃ f ∈ r.files, ∃ spelt : List (Element × String),
      f.path.text = i.strategy.directory ++ i.file.output ∧
      spelt.map Prod.fst = i.elements d ∧
      (∃ before after, f.content =
        before ++ String.join (spelt.map fun x ↦ i.importOf x.1.name x.2) ++ after) ∧
      ∀ x ∈ spelt, d.Prints kebabHelper x.1.name x.2 ∧
        ∃ g ∈ r.files, i.strategy.EmittedFor builtinLibrary disk d x.1 g ∧
          g.path.text = i.strategy.directory ++
            framed i.stem.1 (i.stem.2 ++ i.extension) x.1.name := by
  obtain ⟨own, fixed, _, hown, hfixed, -, hall⟩ :=
    TemplateStrategy.exists_jobs_of_unfailing hstore hr herrors
  obtain ⟨job, hjob, htemplate, houtput, hvars⟩ :=
    TemplateStrategy.exists_mem_fixedJobs hfixed h.file (h.active disk d)
  obtain ⟨f, hf, hcomes⟩ := hall job (List.mem_append_left _ hjob)
  have hwrites := @Fits.writes_passage i d own h hown disk (Diagram.exists_kebabHelper hbuild)
    hleaves
  rw [← hvars] at hwrites
  obtain ⟨before, _, after, ⟨u, hu, rfl⟩, hcontent⟩ :=
    TemplateStrategy.exists_written_of_outcome hcomes (htemplate ▸ h.passage) List.mem_cons_self
      hwrites
  obtain ⟨choices, hchoices, hprints, rfl⟩ := hu.exists_join
  refine ⟨f, hf, choices.map fun x ↦ (x.1.1, x.2), ?_, ?_, ⟨before ++ i.lead, after, ?_⟩, ?_⟩
  · rw [(TemplateStrategy.outcome_eq_ok hcomes).1, houtput]
  · rw [ImportList.elements, ← hchoices, List.map_map, List.map_map]
    rfl
  · rw [hcontent, List.map_map, ← String.append_assoc]
    rfl
  · intro x hx
    obtain ⟨⟨entry, spelt⟩, hmem, rfl⟩ := List.mem_map.mp hx
    refine ⟨hprints _ hmem, ?_⟩
    have hentry : entry ∈ i.entries d := hchoices ▸ List.mem_map_of_mem hmem
    obtain ⟨he, t, ht, hkind⟩ := h.elements options g setting d hbuild entry hentry
    have hhas := has_of_mem_builtinTemplates disk (elementTemplates_builtin _ h.strategy t ht)
    obtain ⟨g, hg, hemitted, output, hfill, hpath⟩ :=
      TemplateStrategy.exists_emittedFor hstore hr herrors he ht hkind hhas
    refine ⟨g, hg, hemitted, ?_⟩
    rw [fillPattern_of_framesKebab (h.framing.frames t ht)] at hfill
    rw [hpath, Except.ok.inj hfill]

/-- Unless somebody supplies another helper, the helper prints the spelling of files. -/
theorem eq_toKebab_of_prints {options : BuildOptions} {g : Grammar} {setting : Setting}
    (hbuild : Diagram.build options g setting = .ok d)
    (hown : kebabHelper ∉ options.helpers.map Prod.fst) {name spelt : String}
    (h : d.Prints kebabHelper name spelt) : spelt = Naming.toKebab name := by
  obtain ⟨helper, hhelper, m, hprints⟩ := h
  rw [Diagram.run_printed_kebabHelper hbuild hown hhelper] at hprints
  exact (Except.ok.inj hprints).symm

end ImportList

/-- The lists of imports in the files of the server and of the browser. -/
def importLists : List ImportList :=
  [handlerImports, viewImports]

/-- **Which imports resolve.** Take any run without errors of the server or the browser strategy,
with any helpers. The file with the imports has one for each element, in their order, and there is a
file for each element. The imported module is that file exactly if the helper for imports has
printed the name as files are spelt; and it does so unless somebody supplies another helper. -/
theorem ImportList.resolves {i : ImportList} (hi : i ∈ importLists) {options : BuildOptions}
    {g : Grammar} {setting : Setting} {d : Diagram}
    (hbuild : Diagram.build options g setting = .ok d)
    (hleaves : ∀ helper, Entries.get? d.helpers kebabHelper = some helper → helper.LeavesLoops)
    {disk : Disk} {store : TemplateStore} {r : StrategyResult}
    (hstore : store.Sound (builtinLibrary.Reads disk))
    (hr : ((i.strategy.render builtinLibrary disk d).run store).1 = .ok r)
    (herrors : r.errors = []) :
    ∃ f ∈ r.files, ∃ spelt : List (Element × String),
      f.path.text = i.strategy.directory ++ i.file.output ∧
      spelt.map Prod.fst = i.elements d ∧
      (∃ before after, f.content =
        before ++ String.join (spelt.map fun x ↦ i.importOf x.1.name x.2) ++ after) ∧
      ∀ x ∈ spelt, d.Prints kebabHelper x.1.name x.2 ∧
        (kebabHelper ∉ options.helpers.map Prod.fst → x.2 = Naming.toKebab x.1.name) ∧
        ∃ file ∈ r.files, i.strategy.EmittedFor builtinLibrary disk d x.1 file ∧
          (ModuleAt i.strategy.directory (i.moduleOf x.2) file.path.text ↔
            x.2 = Naming.toKebab x.1.name) := by
  have hfits : i.Fits := by
    rcases List.mem_pair.mp hi with rfl | rfl
    · exact fits_handlerImports
    · exact fits_viewImports
  obtain ⟨f, hf, spelt, hpath, helements, hcontent, hall⟩ :=
    hfits.exists_imports hbuild hleaves hstore hr herrors
  refine ⟨f, hf, spelt, hpath, helements, hcontent, fun x hx ↦ ?_⟩
  obtain ⟨hprints, file, hfile, hemitted, hfilePath⟩ := hall x hx
  refine ⟨hprints, fun hown ↦ eq_toKebab_of_prints hbuild hown hprints, file, hfile, hemitted, ?_⟩
  rw [hfilePath]
  exact moduleAt_iff hfits.source _ _ _

/-! ### A helper that puts a text in front -/

namespace Imported

/-- One interface. -/
def grammar : Grammar := { interfaces := [{ name := "A" }] }

/-- A configuration that switches off what does not matter. -/
def config : Config where
  diagram := { features := { grid := false, snapToGrid := false, animation := false } }

/-- A helper that puts a text in front of names. -/
def options : BuildOptions := { helpers := [(kebabHelper, Helper.before "x-")] }

/-- The only element. -/
def element : Element where
  name := "A"
  kind := .node
  properties := []
  allProperties := []
  superTypes := []
  ancestors := []
  annotations := []

/-- The diagram of the grammar. -/
def diagram : Diagram where
  projectName := "unknown"
  grammar := grammar
  elements := [element]
  nodeTypes := ([element].mapM (NodeType.ofElement config.settings)).toOption.getD []
  edgeTypes := []
  ancestry := [("A", [])]
  features := []
  config := config.settings.entries
  generatedAt := ""
  helpers := Entries.merge builtinHelpers options.helpers
  partials := Entries.merge builtinPartials []

theorem build_grammar : Diagram.build options grammar config.settings = .ok diagram := by
  have hancestry : grammar.ancestry = [("A", [])] := by
    simp [Grammar.ancestry, Grammar.ancestors, Grammar.ancestorsFrom, Grammar.supers,
      Grammar.superTypesOf?, Grammar.lastInterface?, Grammar.interfaceNames, grammar,
      Entries.ofList, Entries.merge, Entries.set]
  have hnodes : ([element].mapM (NodeType.ofElement config.settings)).toOption.isSome = true := by
    decide +kernel
  obtain ⟨nodes, hnodes⟩ := Option.isSome_iff_exists.mp hnodes
  have helements : grammar.interfaces.mapM (Element.ofInterface (.ofConfig config) [("A", [])]
      [("A", [])]) = .ok [element] := toOption_eq_some.mp (by decide +kernel)
  have hfeatures : (do (← config.settings.partAt ["diagram", "features"]).enabled) = .ok [] :=
    toOption_eq_some.mp (by decide +kernel)
  rw [Diagram.build_eq_ok_iff, hancestry]
  refine ⟨toOption_eq_some.mp (by decide +kernel), [("A", [])], .ofConfig config, [element], nodes,
    [], [], toOption_eq_some.mp (by decide +kernel), Requests.ofSettings_config config, helements,
    toOption_eq_some.mp hnodes, rfl, hfeatures, ?_⟩
  rw [diagram, hnodes]
  rfl

/-- The variables of the strategy. -/
def own : List (String × Value) := (serverVariables diagram).toOption.getD []

/-- The variables of the templates that are rendered once. -/
def vars : List (String × Value) := own ++ [("strategy", .text "server")]

/-- The variables of the template of a handler. -/
def elementVars : List (String × Value) :=
  let view := TemplateStrategy.elementView diagram element
  ("node", view) :: ("element", view) :: vars

theorem serverVariables_diagram : serverVariables diagram = .ok own := by
  have hvars : (serverVariables diagram).toOption.isSome = true := by decide +kernel
  obtain ⟨found, hfound⟩ := Option.isSome_iff_exists.mp hvars
  rw [own, hfound]
  exact toOption_eq_some.mp hfound

/-- The templates that are rendered once. -/
def renderedOnce : List (String × List String) :=
  [("di-config", Builtin.Server.diConfig), ("layout-engine", Builtin.Server.layoutEngine),
    ("model-factory", Builtin.Server.modelFactory),
    ("model-factory-spec", Builtin.Server.modelFactorySpec),
    ("model-index", Builtin.Server.modelIndex), ("model-validator", Builtin.Server.modelValidator),
    ("server-module", Builtin.Server.serverModule)]

open TemplateStrategy (Renders renders_of_written)

theorem renders_once : ∀ lines ∈ renderedOnce.map Prod.snd,
    Renders (.empty []) diagram vars lines := by
  simp only [renderedOnce, List.map_cons, List.map_nil, Builtin.Server.diConfig,
    Builtin.Server.layoutEngine, Builtin.Server.modelFactory, Builtin.Server.modelFactorySpec,
    Builtin.Server.modelIndex, Builtin.Server.modelValidator, Builtin.Server.serverModule]
  apply renders_of_written
  case hlines => repeat' constructor
  case hcss => decide +kernel

theorem renders_handler : ∀ lines ∈ [Builtin.Server.nodeHandler],
    Renders (.empty []) diagram elementVars lines := by
  simp only [Builtin.Server.nodeHandler]
  apply renders_of_written
  case hlines => repeat' constructor
  case hcss => decide +kernel

/-- The other templates are missing. -/
theorem renderedOnce_or : ∀ t ∈ serverStrategy.fixed, t.template ∈ renderedOnce.map Prod.fst ∨
    (builtinLibrary.has (.empty []) (serverStrategy.qualified t.template)).toOption =
      some false := by
  decide +kernel

/-- There is a run of the strategy without errors. -/
theorem exists_run : ∃ r,
    ((serverStrategy.render builtinLibrary (.empty []) diagram).run {}).1 = .ok r ∧
      r.errors = [] := by
  have hbuiltin : serverStrategy ∈ builtinStrategies := by simp [builtinStrategies]
  have hmissing := TemplateStrategy.missing_builtin hbuiltin (.empty [])
  have hmem : ∀ e ∈ renderedOnce, ("server/" ++ e.1, e.2) ∈ builtinTemplates := fun e he ↦
    mem_builtinTemplates_server
      ((by simp [renderedOnce, Builtin.Server.templates] : renderedOnce ⊆ _) he)
  have hhandler : ("node-handler", Builtin.Server.nodeHandler) ∈ Builtin.Server.templates := by
    simp [Builtin.Server.templates]
  have hinside : ∀ t ∈ serverStrategy.fixed,
      leadsInside (serverStrategy.directory ++ t.output) = true := by
    decide
  refine TemplateStrategy.exists_run_of_renders TemplateStore.sound_empty rfl hmissing rfl
    serverVariables_diagram (fun t ht ↦ ?_) (fun t ht hactive ↦ ⟨hinside t ht, ?_⟩)
    fun t ht ↦ ⟨?_, ?_, ?_⟩
  · rcases renderedOnce_or t ht with hlisted | habsent
    · obtain ⟨e, he, hname⟩ := List.mem_map.mp hlisted
      exact ⟨true, has_of_mem_builtinTemplates _ (hname ▸ List.mem_map_of_mem (hmem e he))⟩
    · exact ⟨false, toOption_eq_some.mp habsent⟩
  · rcases renderedOnce_or t ht with hlisted | habsent
    · obtain ⟨e, he, hname⟩ := List.mem_map.mp hlisted
      exact hname ▸ ⟨e.2, hmem e he, renders_once _ (List.mem_map_of_mem he)⟩
    · have hhas := TemplateStrategy.has_of_isActive hmissing ht hactive
      cases hhas.symm.trans (toOption_eq_some.mp habsent)
  · exact ⟨true, has_of_mem_builtinTemplates _ (elementTemplates_builtin _ hbuiltin t ht)⟩
  · exact fun name ↦ ⟨_, fillPattern_of_framesKebab (framing_server.frames t ht) name⟩
  · intro e he hkind output hfill
    obtain rfl := List.mem_singleton.mp he
    rw [fillPattern_of_framesKebab (framing_server.frames t ht)] at hfill
    cases hfill
    simp only [serverStrategy, List.mem_cons, List.not_mem_nil, or_false] at ht
    rcases ht with rfl | rfl
    · exact ⟨by decide +kernel, _, mem_builtinTemplates_server hhandler,
        renders_handler _ List.mem_cons_self⟩
    · cases hkind

/-- The helper prints a name with the text in front. -/
theorem eq_of_prints {name spelt : String} (h : diagram.Prints kebabHelper name spelt) :
    spelt = "x-" ++ name := by
  obtain ⟨helper, hhelper, hprints⟩ := h
  have hbefore : Entries.get? diagram.helpers kebabHelper = some (.before "x-") := rfl
  cases hbefore.symm.trans hhelper
  exact Helper.prints_before.mp hprints

theorem leavesLoops (helper : Helper)
    (h : Entries.get? diagram.helpers kebabHelper = some helper) : helper.LeavesLoops := by
  have hbefore : Entries.get? diagram.helpers kebabHelper = some (.before "x-") := rfl
  cases hbefore.symm.trans h
  exact Helper.leavesLoops_before "x-"

end Imported

open Imported in
/-- The only import of the server's module is astray with the helper that puts a text in front. -/
theorem ImportList.resolves_prefixed :
    handlerImports ∈ importLists ∧ Diagram.build options grammar config.settings = .ok diagram ∧
      ∃ r, ((serverStrategy.render builtinLibrary (.empty []) diagram).run {}).1 = .ok r ∧
        r.errors = [] ∧ ∃ f ∈ r.files, ∃ spelt : List (Element × String),
          f.path.text = "server/server-module.ts" ∧ spelt.map Prod.fst = [element] ∧
          ∀ x ∈ spelt, x.2 = "x-" ++ x.1.name ∧ ∃ file ∈ r.files,
            serverStrategy.EmittedFor builtinLibrary (.empty []) diagram x.1 file ∧
            (ModuleAt "server/" (handlerImports.moduleOf x.2) file.path.text ↔
              x.2 = Naming.toKebab x.1.name) := by
  obtain ⟨r, hr, herrors⟩ := exists_run
  obtain ⟨f, hf, spelt, hpath, helements, -, hall⟩ := ImportList.resolves (i := handlerImports)
    List.mem_cons_self build_grammar leavesLoops TemplateStore.sound_empty hr herrors
  refine ⟨List.mem_cons_self, build_grammar, r, hr, herrors, f, hf, spelt, hpath, helements,
    fun x hx ↦ ?_⟩
  obtain ⟨hprints, -, file, hfile, hemitted, hiff⟩ := hall x hx
  exact ⟨eq_of_prints hprints, file, hfile, hemitted, hiff⟩

open Imported in
/-- **An import that leads nowhere.** The grammar is valid and its run has no errors. The module of
the server imports the handler of the only interface from a module that no file of the run is. -/
theorem handler_unresolved :
    grammar.validate.ok = true ∧ grammar.interfaceNames = ["A"] ∧
      ∃ d r f, Diagram.build options grammar config.settings = .ok d ∧
        ((serverStrategy.render builtinLibrary (.empty []) d).run {}).1 = .ok r ∧ r.errors = [] ∧
        f ∈ r.files ∧ f.path.text = "server/server-module.ts" ∧
        (∃ before after, f.content = before ++
          "import \x7b CreateAHandler \x7d from './handlers/create-x-A-handler';\n" ++ after) ∧
        ∀ file ∈ r.files, ¬ ModuleAt "server/" "./handlers/create-x-A-handler" file.path.text := by
  obtain ⟨r, hr, herrors⟩ := exists_run
  obtain ⟨f, hf, spelt, hpath, helements, ⟨before, after, hcontent⟩, hall⟩ :=
    fits_handlerImports.exists_imports build_grammar leavesLoops TemplateStore.sound_empty hr
      herrors
  refine ⟨by decide +kernel, rfl, diagram, r, f, build_grammar, hr, herrors, hf, hpath,
    ⟨before, after, ?_⟩, fun file hfile ↦ ?_⟩
  · obtain ⟨x, rfl, hx⟩ := List.map_eq_singleton_iff.mp helements
    have hspelt := eq_of_prints (hall x List.mem_cons_self).1
    rw [hx] at hspelt
    rw [hcontent, List.map_singleton, hx, hspelt]
    exact congrArg (before ++ · ++ after) (by decide +kernel)
  · rintro ⟨rest, hmodule, hpath⟩
    obtain rfl : "handlers/create-x-A-handler" = rest :=
      (String.append_right_inj "./").mp ((by decide +kernel : _ = _).trans hmodule)
    have hpaths : (pathTexts r.files).Subperm (serverStrategy.paths diagram) :=
      TemplateStrategy.yields_render {} r hr
    have hmem := hpaths.subset (List.mem_map_of_mem hfile)
    have hother : ∀ path ∈ serverStrategy.paths diagram,
        path ≠ "server/" ++ "handlers/create-x-A-handler" ++ ".ts" ∧
          path ≠ "server/" ++ "handlers/create-x-A-handler" ++ ".tsx" := by
      decide +kernel
    rcases hpath with hpath | hpath
    · exact (hother _ hmem).1 hpath
    · exact (hother _ hmem).2 hpath

end DiagramForge
