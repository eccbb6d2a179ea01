import DiagramForge.Grammar.Parse
import DiagramForge.Proofs.Strategy.Declarations
import DiagramForge.Proofs.Strategy.Foreseen
import DiagramForge.Proofs.Text.StringLiteral

/-!
# Texts between quotes in generated code

Three kinds of texts of a grammar are put between single quotes: the labels of elements in their
handlers, the members of unions of literals in the types of the model, and the first of these
members where a handler sets a property to it. A `Quotation` is such a text with what stands around
it, and `QuotingFile` says which file has which quotations.

Texts are put between the quotes as they are. A label is whatever stands behind `@label` in a
comment, and a member may come from a literal between double quotes, so both can have quotes and
backslashes. `QuotingFile.survives_iff` says which of them survive: those without a quote, a
backslash or a line break, and no others. `apostrophe_ends_literal` is a grammar with one that
does not.
-/

namespace DiagramForge

open Template Outcome Text

/-! ## Quotations -/

/-- A text of the grammar that a generated file has between single quotes. -/
structure Quotation where
  /-- What stands in front of the quotes. -/
  lead : String
  /-- The text. -/
  text : String
  /-- What stands behind the quotes. -/
  trail : String

namespace Quotation

variable (q : Quotation)

/-- The text between quotes. -/
def quoted : String :=
  "'" ++ q.text ++ "'"

/-- The quotation with what stands around it. -/
def passage : String :=
  q.lead ++ q.quoted ++ q.trail

/-- What begins at the first quote is a string literal that ends at the second one and denotes the
text. -/
def Denotes (after : String) : Prop :=
  readLiteral? (q.quoted ++ q.trail ++ after).toList =
    some (codeUnits q.text.toList, (q.trail ++ after).toList)

theorem denotes_iff (after : String) :
    q.Denotes after ↔ ∀ c ∈ q.text.toList, c ∉ ['\'', '\\', '\n', '\r'] := by
  simp only [← isVerbatim_iff]
  rw [← read_quoted_iff q.text.toList (q.trail ++ after).toList, Denotes, quoted]
  simp [readLiteral?]

end Quotation

/-- The quotations in a union of literals, whose declaration begins with a text. -/
def unionQuotations (lead : String) : List String → List Quotation
  | [] => []
  | m :: ms =>
    if ms.isEmpty then [⟨lead, m, ";\n"⟩]
    else ⟨lead, m, " | "⟩ :: unionQuotations (lead ++ "'" ++ m ++ "' | ") ms

/-- The quotations in the declaration of an alias. -/
def TypeAlias.quotations (t : TypeAlias) : List Quotation :=
  unionQuotations ("export type " ++ t.name ++ " = ") t.unionTypes

/-- The quotation in the line with the label of an element. -/
def Element.labelQuotation (e : Element) : Quotation :=
  ⟨"    readonly label = ", e.label, ";\n"⟩

namespace Diagram

variable (d : Diagram)

/-- The literal that a property is set to: the first one of the union that it is of. -/
def defaultLiteral? (p : ResolvedProperty) : Option String :=
  if !p.array && p.target == .typeAlias then
    (d.grammar.type? p.type).bind fun t ↦ t.unionTypes.head?
  else none

/-- The quotation in the line that sets a property. -/
def defaultQuotation? (p : ResolvedProperty) : Option Quotation :=
  (d.defaultLiteral? p).map fun literal ↦ ⟨"            " ++ p.name ++ ": ", literal, ",\n"⟩

end Diagram

/-! ## Quotations are written -/

theorem partOf_unionText {ms : List String} {lead : String} {q : Quotation}
    (hq : q ∈ unionQuotations lead ms) : PartOf q.passage (lead ++ unionText ms ++ ";\n") := by
  induction ms generalizing lead with
  | nil => cases hq
  | cons m ms ih =>
    rw [unionQuotations] at hq
    rw [unionText]
    split at hq
    next hlast =>
      obtain rfl := List.mem_singleton.mp hq
      obtain rfl := List.isEmpty_iff.mp hlast
      refine ⟨"", "", ?_⟩
      simp only [Quotation.passage, Quotation.quoted, unionText, String.append_assoc,
        String.append_empty, String.empty_append, List.isEmpty_nil, if_true]
    next hmore =>
      rw [if_neg hmore]
      rcases List.mem_cons.mp hq with rfl | hq
      · refine ⟨"", unionText ms ++ ";\n", ?_⟩
        simp only [Quotation.passage, Quotation.quoted, String.append_assoc, String.empty_append]
      · have hrest := ih hq
        have hjoin : "' | " = "'" ++ " | " := by decide
        rw [hjoin] at hrest
        simpa only [String.append_assoc] using hrest

theorem partOf_declaration {t : TypeAlias} {q : Quotation} (hq : q ∈ t.quotations) :
    PartOf q.passage t.declaration := by
  have hliteral : t.isLiteralUnion = true := by
    rw [TypeAlias.isLiteralUnion, Bool.not_eq_true', List.isEmpty_eq_false_iff]
    intro hnil
    rw [TypeAlias.quotations, hnil] at hq
    cases hq
  rw [TypeAlias.declaration, if_pos hliteral]
  exact partOf_unionText hq

theorem initialValue_of_literal {d : Diagram} {p : ResolvedProperty} {literal : String}
    (h : d.defaultLiteral? p = some literal) :
    initialValue d p = .ok ("'" ++ literal ++ "'") ∧ p.isReference = false := by
  constructor
  · rw [Diagram.defaultLiteral?] at h
    simp only [initialValue, h]
    rfl
  · rw [Diagram.defaultLiteral?] at h
    split at h
    next halias =>
      have htarget := (Bool.and_eq_true_iff.mp halias).2
      rw [ResolvedProperty.isReference, eq_of_beq htarget]
      rfl
    next => cases h

/-! ## The files -/

/-- The generated files that have texts of the grammar between quotes. -/
inductive QuotingFile where
  /-- The types of the model. -/
  | modelTypes
  /-- The handler of an element. -/
  | handler (e : Element)

namespace QuotingFile

/-- The strategy that renders the file. -/
def strategy : QuotingFile → TemplateStrategy
  | modelTypes => commonStrategy
  | handler _ => serverStrategy

/-- Whether the file is one of those for a diagram. -/
def BelongsTo (d : Diagram) : QuotingFile → Prop
  | modelTypes => True
  | handler e => e ∈ d.elements

/-- Whether a file of the strategy is the one that is meant. -/
def IsFile (disk : Disk) (d : Diagram) (f : OutputFile) : QuotingFile → Prop
  | modelTypes => f.path.text = "common/model-types.ts"
  | handler e => serverStrategy.EmittedFor builtinLibrary disk d e f

/-- The quotations in the file. -/
def quotations (d : Diagram) : QuotingFile → List Quotation
  | modelTypes => d.grammar.types.flatMap TypeAlias.quotations
  | handler e => e.labelQuotation :: e.allProperties.filterMap d.defaultQuotation?

variable {options : BuildOptions} {g : Grammar} {setting : Setting} {d : Diagram} {disk : Disk}
  {store : TemplateStore} {r : StrategyResult} {f : OutputFile} {w : QuotingFile}

/-- The quotations are in the file. -/
theorem partOf_content (hvalid : g.validate.ok = true)
    (hbuild : Diagram.build options g setting = .ok d) (hw : w.BelongsTo d)
    (hstore : store.Sound (builtinLibrary.Reads disk))
    (hr : ((w.strategy.render builtinLibrary disk d).run store).1 = .ok r) (hf : f ∈ r.files)
    (hfile : w.IsFile disk d f) {q : Quotation} (hq : q ∈ w.quotations d) :
    PartOf q.passage f.content := by
  cases w with
  | modelTypes =>
    obtain ⟨t, ht, hq⟩ := List.mem_flatMap.mp hq
    exact (partOf_declaration hq).trans (exists_declaration hstore hr hf hfile ht)
  | handler e =>
    rcases List.mem_cons.mp hq with rfl | hq
    · have hlabel := exists_label hvalid hbuild hw hfile
      have hlead : "    readonly label = '" = "    readonly label = " ++ "'" := by decide
      have htrail : "';\n" = "'" ++ ";\n" := by decide
      rw [hlead, htrail] at hlabel
      simpa only [Quotation.passage, Quotation.quoted, Element.labelQuotation,
        String.append_assoc] using hlabel
    · obtain ⟨p, hp, hq⟩ := List.mem_filterMap.mp hq
      obtain ⟨literal, hliteral, rfl⟩ := Option.map_eq_some_iff.mp hq
      obtain ⟨hvalue, hreference⟩ := initialValue_of_literal hliteral
      obtain ⟨value, hvalue', hline⟩ := exists_defaultLine hvalid hbuild hw hfile hp hreference
      cases hvalue.symm.trans hvalue'
      exact hline

/-- In a run without errors there is the file. -/
theorem exists_isFile (hw : w.BelongsTo d) (hstore : store.Sound (builtinLibrary.Reads disk))
    (hr : ((w.strategy.render builtinLibrary disk d).run store).1 = .ok r)
    (herrors : r.errors = []) : ∃ f ∈ r.files, w.IsFile disk d f := by
  cases w with
  | modelTypes =>
    obtain ⟨f, hf, hpath⟩ :=
      TemplateStrategy.exists_fixedFile hstore hr herrors List.mem_cons_self rfl
    exact ⟨f, hf, hpath⟩
  | handler e =>
    have hkinds : ∀ kind, ∃ t ∈ serverStrategy.perElement, t.kind = kind ∧
        builtinLibrary.has disk (serverStrategy.qualified t.template) = .ok true := by
      intro kind
      cases kind with
      | node => exact ⟨_, List.mem_cons_self, rfl, has_of_mem_builtinTemplates _ (by decide)⟩
      | edge => exact ⟨_, List.mem_cons_of_mem _ List.mem_cons_self, rfl,
          has_of_mem_builtinTemplates _ (by decide)⟩
    obtain ⟨t, ht, hkind, hhas⟩ := hkinds e.kind
    obtain ⟨f, hf, hemitted, -⟩ :=
      TemplateStrategy.exists_emittedFor hstore hr herrors hw ht hkind hhas
    exact ⟨f, hf, hemitted⟩

end QuotingFile

/-- **Which texts survive their quotes.** Take a diagram of any valid grammar, and any run of the
strategy for the types of the model or for the handlers. In a file with quotations each of them is
there, between single quotes; and what begins at its first quote is a string literal that ends at
its second one and denotes the text exactly if the text has no single quote, no backslash and no
line break. In a run without errors no such file is missing. -/
theorem QuotingFile.survives_iff (w : QuotingFile) {options : BuildOptions} {g : Grammar}
    {setting : Setting} {d : Diagram} (hvalid : g.validate.ok = true)
    (hbuild : Diagram.build options g setting = .ok d) (hw : w.BelongsTo d) {disk : Disk}
    {store : TemplateStore} {r : StrategyResult}
    (hstore : store.Sound (builtinLibrary.Reads disk))
    (hr : ((w.strategy.render builtinLibrary disk d).run store).1 = .ok r) :
    (∀ f ∈ r.files, w.IsFile disk d f → ∀ q ∈ w.quotations d, ∃ before after,
      f.content = before ++ q.lead ++ ("'" ++ q.text ++ "'") ++ q.trail ++ after ∧
      (q.Denotes after ↔ ∀ c ∈ q.text.toList, c ∉ ['\'', '\\', '\n', '\r'])) ∧
    (r.errors = [] → ∃ f ∈ r.files, w.IsFile disk d f) := by
  refine ⟨fun f hf hfile q hq ↦ ?_, exists_isFile hw hstore hr⟩
  obtain ⟨before, after, hcontent⟩ := partOf_content hvalid hbuild hw hstore hr hf hfile hq
  refine ⟨before, after, ?_, q.denotes_iff after⟩
  rw [hcontent, Quotation.passage, Quotation.quoted]
  simp only [String.append_assoc]

/-! ### A literal with an apostrophe -/

namespace Apostrophe

/-- A union of two literals, the first one of which has a single quote. -/
def text : String := "type T = \"it's\" | 'b';"

/-- The alias that is read of it. -/
def union : TypeAlias where
  name := "T"
  definition := "\"it's\" | 'b'"
  unionTypes := ["it's", "b"]

/-- The grammar that is read of it. -/
def grammar : Grammar := { types := [union] }

/-- The diagram of the grammar, which has no elements. -/
def diagram : Diagram where
  projectName := "unknown"
  grammar := grammar
  elements := []
  nodeTypes := []
  edgeTypes := []
  ancestry := []
  features :=
    ((Config.settings {}).partAt ["diagram", "features"] >>= Setting.enabled).toOption.getD []
  config := (Config.settings {}).entries
  generatedAt := ""
  helpers := Entries.merge builtinHelpers []
  partials := Entries.merge builtinPartials []

theorem parse_union : Grammar.parse text "" none = .ok grammar :=
  toOption_eq_some.mp (by decide +kernel)

theorem valid_grammar : grammar.validate.ok = true := by decide +kernel

theorem build_grammar : Diagram.build {} grammar (Config.settings {}) = .ok diagram := by
  have hfeatures : ((Config.settings {}).partAt ["diagram", "features"] >>= Setting.enabled) =
      .ok diagram.features := by
    have hsome : ((Config.settings {}).partAt ["diagram", "features"] >>=
        Setting.enabled).toOption.isSome = true := by decide +kernel
    obtain ⟨features, h⟩ := Option.isSome_iff_exists.mp hsome
    rw [diagram, h]
    exact toOption_eq_some.mp h
  exact Diagram.build_eq_ok_iff.mpr ⟨rfl, [], .ofConfig {}, [], [], [], diagram.features, rfl,
    Requests.ofSettings_config {}, rfl, rfl, rfl, hfeatures, rfl⟩

/-- The variables of the strategy. -/
def vars : List (String × Value) := sharedVariables diagram ++ [("strategy", .text "common")]

theorem renders_modelTypes : ∀ lines ∈ [Builtin.Common.modelTypes],
    TemplateStrategy.Renders (.empty []) diagram vars lines := by
  simp only [Builtin.Common.modelTypes]
  apply TemplateStrategy.renders_of_written
  case hlines => repeat' constructor
  case hcss => decide +kernel

/-- There is a run of the strategy with the types of the model. -/
theorem exists_run : ∃ r,
    ((commonStrategy.render builtinLibrary (.empty []) diagram).run {}).1 = .ok r ∧
      ∃ f ∈ r.files, QuotingFile.modelTypes.IsFile (.empty []) diagram f := by
  have hbuiltin : commonStrategy ∈ builtinStrategies := List.mem_cons_self
  have hmissing := TemplateStrategy.missing_builtin hbuiltin (.empty [])
  have hhas : ∀ t ∈ commonStrategy.fixed, ∃ b,
      builtinLibrary.has (.empty []) (commonStrategy.qualified t.template) = .ok b := by
    have hsome : ∀ t ∈ commonStrategy.fixed, (builtinLibrary.has (.empty [])
        (commonStrategy.qualified t.template)).toOption.isSome = true := by
      decide +kernel
    intro t ht
    obtain ⟨b, hb⟩ := Option.isSome_iff_exists.mp (hsome t ht)
    exact ⟨b, toOption_eq_some.mp hb⟩
  obtain ⟨fixed, hfixed⟩ := TemplateStrategy.exists_fixedJobs (d := diagram) vars hhas
  have hjobs : commonStrategy.jobs builtinLibrary (.empty []) diagram = .ok (fixed ++ []) :=
    bind_eq_ok.mpr ⟨_, rfl, bind_eq_ok.mpr ⟨fixed, hfixed, rfl⟩⟩
  have houtputs : ∀ t ∈ commonStrategy.fixed,
      leadsInside (commonStrategy.directory ++ t.output) = true := by
    decide
  have hinside : ∀ job ∈ fixed ++ [],
      leadsInside (commonStrategy.directory ++ job.output) = true := by
    intro job hjob
    rw [List.append_nil] at hjob
    obtain ⟨t, ht, -, -, houtput, -⟩ := TemplateStrategy.exists_of_mem_fixedJobs hfixed hjob
    exact houtput ▸ houtputs t ht
  obtain ⟨r, hcomes, hfiles, -⟩ := TemplateStrategy.comesTo_render_builtin rfl hmissing hjobs rfl
    hinside
  obtain ⟨job, hjob, htemplate, houtput, hvars⟩ :=
    TemplateStrategy.exists_mem_fixedJobs hfixed List.mem_cons_self rfl
  have hmem : ("model-types", Builtin.Common.modelTypes) ∈ Builtin.Common.templates := by
    simp [Builtin.Common.templates]
  have hlines : (job.template, Builtin.Common.modelTypes) ∈ builtinTemplates := by
    rw [htemplate]
    exact mem_builtinTemplates_common hmem
  have hrenders := renders_modelTypes _ List.mem_cons_self
  rw [← hvars] at hrenders
  obtain ⟨f, hf⟩ := TemplateStrategy.exists_outcome_of_renders hlines hrenders
    (hinside job (List.mem_append_left _ hjob))
  refine ⟨r, (hcomes {} TemplateStore.sound_empty).1, f, ?_, ?_⟩
  · rw [hfiles]
    refine List.mem_filterMap.mpr ⟨job, List.mem_append_left _ hjob, ?_⟩
    rw [TemplateStrategy.file?_eq, hf]
    rfl
  · rw [QuotingFile.IsFile, (TemplateStrategy.outcome_eq_ok hf).1, houtput]
    rfl

end Apostrophe

open Apostrophe in
/-- Of the two members, only the one without an apostrophe survives. -/
theorem QuotingFile.survives_iff_apostrophe :
    grammar.validate.ok = true ∧ Diagram.build {} grammar (Config.settings {}) = .ok diagram ∧
      modelTypes.BelongsTo diagram ∧
      ∃ r, ((commonStrategy.render builtinLibrary (.empty []) diagram).run {}).1 = .ok r ∧
        ∃ f ∈ r.files, modelTypes.IsFile (.empty []) diagram f ∧
          (modelTypes.quotations diagram).map (·.text) = ["it's", "b"] ∧
          ∀ q ∈ modelTypes.quotations diagram, ∃ before after,
            f.content = before ++ q.lead ++ ("'" ++ q.text ++ "'") ++ q.trail ++ after ∧
            (q.Denotes after ↔ q.text = "b") := by
  obtain ⟨r, hr, f, hf, hfile⟩ := exists_run
  refine ⟨valid_grammar, build_grammar, trivial, r, hr, f, hf, hfile, rfl, fun q hq ↦ ?_⟩
  obtain ⟨before, after, hcontent, hiff⟩ := (QuotingFile.survives_iff modelTypes valid_grammar
    build_grammar trivial TemplateStore.sound_empty hr).1 f hf hfile q hq
  refine ⟨before, after, hcontent, hiff.trans ?_⟩
  have hverbatim : ∀ text ∈ ["it's", "b"],
      (∀ c ∈ text.toList, c ∉ ['\'', '\\', '\n', '\r']) ↔ text = "b" := by
    simp only [← isVerbatim_iff, ← List.all_eq_true]
    decide
  exact hverbatim q.text (List.mem_map_of_mem (f := (·.text)) hq)

open Apostrophe in
/-- **A quote that ends the literal.** The grammar is read and valid. The file of the types of the
model has the declaration of the union, and what begins at its first quote is a literal that ends
at the apostrophe and denotes only what is in front of it. -/
theorem apostrophe_ends_literal :
    ∃ g d r f, Grammar.parse text "" none = .ok g ∧ g.validate.ok = true ∧
      Diagram.build {} g (Config.settings {}) = .ok d ∧
      ((commonStrategy.render builtinLibrary (.empty []) d).run {}).1 = .ok r ∧ f ∈ r.files ∧
      f.path.text = "common/model-types.ts" ∧ g.types.map (·.unionTypes) = [["it's", "b"]] ∧
      ∃ before after, f.content = before ++ "export type T = " ++ "'it's' | 'b';\n" ++ after ∧
        readLiteral? ("'it's' | 'b';\n" ++ after).toList =
          some (codeUnits "it".toList, ("s' | 'b';\n" ++ after).toList) := by
  obtain ⟨r, hr, f, hf, hfile⟩ := exists_run
  have hunion : union ∈ diagram.grammar.types := List.mem_cons_self
  obtain ⟨before, after, hcontent⟩ :=
    exists_declaration TemplateStore.sound_empty hr hf hfile hunion
  have hdeclaration : union.declaration = "export type T = " ++ "'it's' | 'b';\n" := by
    decide +kernel
  refine ⟨grammar, diagram, r, f, parse_union, valid_grammar, build_grammar, hr, hf, hfile, rfl,
    before, after, ?_, ?_⟩
  · rw [hcontent, hdeclaration]
    simp only [String.append_assoc]
  · have hchars : ("'it's' | 'b';\n" ++ after).toList =
        '\'' :: ("it".toList ++ '\'' :: ("s' | 'b';\n" ++ after).toList) := by
      rw [String.toList_append, String.toList_append]
      rfl
    rw [hchars]
    exact (read_quoted_iff _ _).mpr (List.all_eq_true.mp (by decide))

end DiagramForge
