import DiagramForge.Proofs.Naming
import DiagramForge.Proofs.Strategy.Paths
import DiagramForge.Strategy.Builtin

/-!
# Distinct paths

No path is listed twice for the built-in strategies, if the elements have distinct names that are
spelled as those of types: `nodup_builtinPaths`. Then every path is that of one file at most.

## What keeps paths apart

* The paths of two strategies begin with their names.
* The path of a file for an element is the element's name, in the spelling of files, between two
  texts that are the same for all elements of the strategy: `TemplateStrategy.Framing`. An element
  has one such file at most, because there is one template at most for each kind of element.
* No template that is rendered once has a path that begins like those of the elements.
-/

namespace DiagramForge

open Template Outcome

/-! ## Patterns that frame a name -/

/-- A pattern is the spelling of files between two texts. -/
def FramesKebab (before after : String) (pattern : String) : Prop :=
  readPattern (pattern.toList.length + 1) pattern.toList =
    before.toList.map .literal ++
      .field { subject := "kebab".toList } :: after.toList.map .literal

instance (before after pattern : String) : Decidable (FramesKebab before after pattern) :=
  inferInstanceAs (Decidable (_ = _))

/-- The path that such a pattern denotes for a name. -/
def framed (before after name : String) : String :=
  before ++ Naming.toKebab name ++ after

theorem framed_inj {before after a b : String} (ha : Grammar.isTypeName a = true)
    (hb : Grammar.isTypeName b = true) : framed before after a = framed before after b ↔ a = b := by
  rw [framed, framed, String.append_left_inj, String.append_right_inj, Naming.toKebab_inj ha hb]

theorem join_map_singleton (cs : List Char) :
    String.join (cs.map String.singleton) = String.ofList cs := by
  rw [← String.toList_inj, String.toList_join, List.flatMap_map, String.toList_ofList]
  induction cs with
  | nil => rfl
  | cons c cs ih => rw [List.flatMap_cons, ih, String.toList_singleton, List.singleton_append]

theorem fillPattern_of_framesKebab {before after pattern : String}
    (h : FramesKebab before after pattern) (name : String) :
    fillPattern pattern name = .ok (framed before after name) := by
  -- a literal is its own text, and the field is the spelling of files
  have hliterals : ∀ {f : PatternPart → Except Crash String},
      (∀ c, f (.literal c) = .ok (String.singleton c)) → ∀ cs : List Char,
      List.Forall₂ (fun part text ↦ f part = .ok text) (cs.map .literal)
        (cs.map String.singleton) := fun hf cs ↦ by
    rw [List.forall₂_map_left_iff, List.forall₂_map_right_iff, List.forall₂_same]
    exact fun c _ ↦ hf c
  rw [fillPattern, fillWith, h, mapM_eq_ok.mpr
    (List.rel_append (hliterals (fun _ ↦ rfl) _) (.cons rfl (hliterals (fun _ ↦ rfl) _)))]
  refine congrArg Except.ok ?_
  dsimp only
  rw [String.join_append, String.join_cons, join_map_singleton, join_map_singleton,
    String.ofList_toList, String.ofList_toList, framed, String.append_assoc]

/-! ## The paths of a strategy -/

namespace TemplateStrategy

/-- What keeps the paths of a strategy apart. -/
structure Framing (s : TemplateStrategy) (before after : String) : Prop where
  /-- The templates that are rendered once have different paths. -/
  nodup_fixed : (s.fixed.map (·.output)).Nodup
  /-- None of these paths begins like those of files for elements. -/
  not_prefix : ∀ t ∈ s.fixed, ¬ before.toList <+: t.output.toList
  /-- The path of a file for an element is the element's name between two texts. -/
  frames : ∀ t ∈ s.perElement, FramesKebab before after t.output
  /-- For each kind of element there is one template at most. -/
  nodup_kinds : (s.perElement.map (·.kind)).Nodup

variable {s s' : TemplateStrategy} {d : Diagram} {before after : String}

namespace Framing

theorem elementOutputs_eq (h : s.Framing before after) :
    s.elementOutputs d = (s.elementFiles d).map fun e ↦ framed before after e.1.name := by
  rw [elementOutputs, ← List.filterMap_eq_map]
  refine List.filterMap_congr fun e he ↦ ?_
  obtain ⟨element, -, he⟩ := List.mem_flatMap.mp he
  obtain ⟨t, ht, rfl⟩ := List.mem_map.mp he
  have hpath := fillPattern_of_framesKebab (h.frames t (List.mem_filter.mp ht).1) element.name
  exact congrArg Except.toOption hpath

/-- An element has one file at most. -/
theorem elementFiles_map_fst (h : s.Framing before after) :
    ((s.elementFiles d).map Prod.fst).Sublist d.elements := by
  have hone : ∀ kind, (s.perElement.filter fun t ↦ t.kind == kind).length ≤ 1 := by
    intro kind
    have hcount := List.nodup_iff_count_le_one.mp h.nodup_kinds kind
    rw [List.count, List.countP_map, List.countP_eq_length_filter] at hcount
    exact hcount
  rw [elementFiles]
  induction d.elements with
  | nil => exact .slnil
  | cons e es ih =>
    rw [List.flatMap_cons, List.map_append, List.map_map]
    have hfiles : ((s.perElement.filter fun t ↦ t.kind == e.kind).map fun _ ↦ e).Sublist [e] := by
      rw [List.map_const', ← List.replicate_one]
      exact (List.replicate_sublist_replicate _).mpr (hone e.kind)
    exact hfiles.append ih

theorem nodup_elementOutputs (h : s.Framing before after)
    (hnames : (d.elements.map (·.name)).Nodup)
    (htypes : ∀ e ∈ d.elements, Grammar.isTypeName e.name = true) :
    (s.elementOutputs d).Nodup := by
  have hfiles := h.elementFiles_map_fst (d := d)
  have helements : ((s.elementFiles d).map Prod.fst).Nodup := (hnames.of_map _).sublist hfiles
  have hframed : s.elementOutputs d =
      ((s.elementFiles d).map Prod.fst).map fun e ↦ framed before after e.name := by
    rw [h.elementOutputs_eq, List.map_map]
    rfl
  rw [hframed]
  refine helements.map_on fun e he e' he' heq ↦ ?_
  have he := hfiles.subset he
  have he' := hfiles.subset he'
  rw [framed_inj (htypes e he) (htypes e' he')] at heq
  exact List.inj_on_of_nodup_map hnames he he' heq

theorem nodup_paths (h : s.Framing before after) (hnames : (d.elements.map (·.name)).Nodup)
    (htypes : ∀ e ∈ d.elements, Grammar.isTypeName e.name = true) : (s.paths d).Nodup := by
  rw [paths, List.nodup_map_iff fun _ _ ↦ (String.append_right_inj _).mp]
  refine List.nodup_append'.mpr ⟨h.nodup_fixed, h.nodup_elementOutputs hnames htypes, ?_⟩
  rw [h.elementOutputs_eq]
  rintro path hfixed helement
  obtain ⟨t, ht, rfl⟩ := List.mem_map.mp hfixed
  obtain ⟨e, -, hpath⟩ := List.mem_map.mp helement
  refine h.not_prefix t ht ⟨(Naming.toKebab e.1.name ++ after).toList, ?_⟩
  rw [← String.toList_append, ← String.append_assoc]
  exact congrArg String.toList hpath

end Framing

/-! ## The paths of several strategies -/

/-- The names of strategies are told from one another by the paths. -/
theorem takeWhile_of_mem_paths (hname : '/' ∉ s.name.toList) {path : String}
    (hpath : path ∈ s.paths d) : path.toList.takeWhile (· != '/') = s.name.toList := by
  obtain ⟨output, -, rfl⟩ := List.mem_map.mp hpath
  have hother : ∀ c ∈ s.name.toList, (c != '/') = true := fun c hc ↦
    bne_iff_ne.mpr fun heq ↦ hname (heq ▸ hc)
  rw [directory, String.append_assoc, String.toList_append, String.toList_append,
    List.takeWhile_append_of_pos hother]
  exact List.append_nil _

theorem disjoint_paths (hname : '/' ∉ s.name.toList) (hname' : '/' ∉ s'.name.toList)
    (hne : s.name ≠ s'.name) : (s.paths d).Disjoint (s'.paths d) := by
  intro path hpath hpath'
  rw [ne_eq, ← String.toList_inj, ← takeWhile_of_mem_paths hname hpath,
    ← takeWhile_of_mem_paths hname' hpath'] at hne
  exact hne rfl

theorem nodup_flatMap_paths {ss : List TemplateStrategy} (hnames : (ss.map (·.name)).Nodup)
    (hslash : ∀ s ∈ ss, '/' ∉ s.name.toList) (hpaths : ∀ s ∈ ss, (s.paths d).Nodup) :
    (ss.flatMap (·.paths d)).Nodup := by
  rw [List.nodup_flatMap]
  refine ⟨hpaths, ?_⟩
  rw [List.Nodup, List.pairwise_map] at hnames
  exact hnames.imp_of_mem fun hs hs' hne ↦ disjoint_paths (hslash _ hs) (hslash _ hs') hne

end TemplateStrategy

/-! ## The built-in strategies -/

theorem framing_common : commonStrategy.Framing "/" "" where
  nodup_fixed := by decide
  not_prefix := by decide
  frames := nofun
  nodup_kinds := by decide

theorem framing_server : serverStrategy.Framing "handlers/create-" "-handler.ts" where
  nodup_fixed := by decide
  not_prefix := by decide
  frames := by decide +kernel
  nodup_kinds := by decide

theorem framing_browser : browserStrategy.Framing "views/" "-view.tsx" where
  nodup_fixed := by decide
  not_prefix := by decide
  frames := by decide +kernel
  nodup_kinds := by decide

/-- **The paths of the built-in strategies are distinct**, provided that the elements have distinct
names that are spelled as those of types. -/
theorem nodup_builtinPaths {d : Diagram} (hnames : (d.elements.map (·.name)).Nodup)
    (htypes : ∀ e ∈ d.elements, Grammar.isTypeName e.name = true) :
    (builtinStrategies.flatMap (·.paths d)).Nodup := by
  refine TemplateStrategy.nodup_flatMap_paths (by decide) (by decide) fun s hs ↦ ?_
  simp only [builtinStrategies, List.mem_cons, List.not_mem_nil, or_false] at hs
  rcases hs with rfl | rfl | rfl
  · exact framing_common.nodup_paths hnames htypes
  · exact framing_server.nodup_paths hnames htypes
  · exact framing_browser.nodup_paths hnames htypes

end DiagramForge
