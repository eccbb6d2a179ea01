import DiagramForge.Proofs.Diagram.Elements
import DiagramForge.Proofs.Strategy.Emitted
import DiagramForge.Strategy.Builtin

/-!
# Declarations and handlers

What two kinds of generated files have in them. The file of the types of the model declares each
alias, a union of literals by its members and any other alias by its definition as it is written.
The handler of an element has a line with the label of the element, and a line for each property
that it sets.

Both are read off the templates: a passage of each is written down here, and what it writes follows
from the rules for its parts. A handler is told which element it is for by a record that is found by
the name of the element, so what is in it is known if names are distinct, as they are in a valid
grammar.
-/

namespace DiagramForge

open Template Outcome

/-! ## Declared aliases -/

/-- The members of a union of literals, as the union is declared. -/
def unionText : List String → String
  | [] => ""
  | m :: ms => "'" ++ m ++ "'" ++ (if ms.isEmpty then "" else " | ") ++ unionText ms

/-- The declaration of an alias in generated code. -/
def TypeAlias.declaration (t : TypeAlias) : String :=
  "export type " ++ t.name ++ " = "
    ++ (if t.isLiteralUnion then unionText t.unionTypes else t.definition) ++ ";\n"

/-- The parts of the template that write a member of a union. -/
def memberBody : Block :=
  .ofList [.text "'", .print (.name "member" 9), .text "'",
    .print (.cond (.unary .not (.field (.name "loop" 9) "last")) (.literal (.text " | "))
      (.literal (.text "")))]

/-- The parts of the template that write the members of a union. -/
def unionPart : Node :=
  .loop (.name "member" 9) (.field (.name "t" 9) "union_types") none memberBody .nil

/-- The parts of the template that declare an alias; one of them writes what it stands for. -/
def declarationBody (line : Nat) (part : Node) : Block :=
  .ofList [.text "export type ", .print (.field (.name "t" line) "name"), .text " = ", part,
    .text ";\n"]

/-- The parts of the template that go through for an alias. -/
def aliasBody : Block :=
  .ofList [.text "\n", .cond (.field (.name "t" 8) "is_literal_union")
    (declarationBody 9 unionPart)
    (declarationBody 11 (.print (.field (.name "t" 11) "definition")))]

/-- The parts of the template that declare the aliases. -/
def aliasPassage : Block :=
  .ofList [.loop (.name "t" 6) (.name "types" 6) none aliasBody .nil]

theorem builtinHas_aliasPassage : BuiltinHas "common/model-types" [aliasPassage] := by
  have hmem : ("model-types", Builtin.Common.modelTypes) ∈ Builtin.Common.templates := by
    simp [Builtin.Common.templates]
  apply builtinHas_of_written (mem_builtinTemplates_common hmem)
  case hlines =>
    simp only [Builtin.Common.modelTypes]
    repeat' constructor
  case hcss => decide +kernel

section Writing

variable {σ : Type} {host : Host σ} {known : Memory} {scope : Scope}

/-- What may be written for a member that others follow. -/
theorem writes_memberBody {m : String} {after : List String} {id : Nat}
    (hahead : known.Ahead id (after.map .text)) :
    memberBody.Writes host known (("loop", .loop id) :: ("member", .text m) :: scope)
      (· = "'" ++ m ++ "'" ++ if after.isEmpty then "" else " | ") := by
  have hloop : (Expr.name "loop" 9).Denotes host known
      (("loop", .loop id) :: ("member", .text m) :: scope) (.loop id) :=
    Expr.denotes_name (by rw [Scope.value_cons, if_pos rfl])
  have hmember : (Expr.name "member" 9).Denotes host known
      (("loop", .loop id) :: ("member", .text m) :: scope) (.text m) :=
    Expr.denotes_name (by
      rw [Scope.value_cons, if_neg (by decide), Scope.value_cons, if_pos rfl])
  have hlast := Expr.denotes_last hloop hahead
  have hempty : (after.map Value.text).isEmpty = after.isEmpty := List.isEmpty_map
  rw [hempty] at hlast
  have hnot : (Expr.unary .not (.field (.name "loop" 9) "last")).Denotes host known
      (("loop", .loop id) :: ("member", .text m) :: scope) (.bool !after.isEmpty) :=
    Expr.denotes_unary hlast rfl
  have hseparator : (Expr.cond (.unary .not (.field (.name "loop" 9) "last"))
      (.literal (.text " | ")) (.literal (.text ""))).Denotes host known
        (("loop", .loop id) :: ("member", .text m) :: scope)
        (.text (if after.isEmpty then "" else " | ")) := by
    refine Expr.denotes_cond hnot rfl ?_
    cases after.isEmpty with
    | true => exact Expr.denotes_literal _
    | false => exact Expr.denotes_literal _
  refine (Block.writes_cons (Node.writes_text "'") (Block.writes_cons (Node.writes_print hmember)
    (Block.writes_cons (Node.writes_text "'") (Block.writes_cons (Node.writes_print hseparator)
      Block.writes_nil)))).imp ?_
  rintro t ⟨_, rfl, _, ⟨_, rfl, _, ⟨_, rfl, _, ⟨_, rfl, _, rfl, rfl⟩, rfl⟩, rfl⟩, rfl⟩
  simp only [String.append_assoc, String.append_empty]

theorem unionText_of_each {ms : List String} {u : String}
    (h : Each (fun m after t ↦ t = "'" ++ m ++ "'" ++ if after.isEmpty then "" else " | ") ms u) :
    u = unionText ms := by
  induction h with
  | nil => rfl
  | cons hs _ ih => rw [unionText, hs, ih]

theorem denotes_field_alias {t : TypeAlias} (ht : scope.value "t" = t.info) (line : Nat)
    {n : String} {w : Value} (h : t.info.field takeItem n = pure w) :
    (Expr.field (.name "t" line) n).Denotes host known scope w :=
  Expr.denotes_field (Expr.denotes_name ht) h

theorem writes_unionPart {t : TypeAlias} (ht : scope.value "t" = t.info) :
    unionPart.Writes host known scope (· = unionText t.unionTypes) := by
  have hmembers : t.info.field takeItem "union_types" = pure (.textTuple t.unionTypes) := rfl
  have hloop : unionPart.Writes host known scope (Each (fun m after t ↦
      t = "'" ++ m ++ "'" ++ if after.isEmpty then "" else " | ") t.unionTypes) :=
    Node.writes_loop (denotes_field_alias ht 9 hmembers) fun m _ after id known' _ hahead ↦
      writes_memberBody hahead
  exact Gives.imp hloop fun r hr ↦ ⟨unionText_of_each hr.1, hr.2⟩

theorem writes_declarationBody {t : TypeAlias} (ht : scope.value "t" = t.info) (line : Nat)
    {part : Node} {u : String} (hpart : part.Writes host known scope (· = u)) :
    (declarationBody line part).Writes host known scope
      (· = "export type " ++ t.name ++ " = " ++ u ++ ";\n") := by
  have hname : t.info.field takeItem "name" = pure (.text t.name) := rfl
  refine (Block.writes_cons (Node.writes_text "export type ") (Block.writes_cons
    (Node.writes_print (denotes_field_alias ht line hname)) (Block.writes_cons
      (Node.writes_text " = ") (Block.writes_cons hpart (Block.writes_cons (Node.writes_text ";\n")
        Block.writes_nil))))).imp ?_
  rintro s ⟨_, rfl, _, ⟨_, rfl, _, ⟨_, rfl, _, ⟨_, rfl, _, ⟨_, rfl, _, rfl, rfl⟩, rfl⟩, rfl⟩, rfl⟩,
    rfl⟩
  simp only [String.append_assoc, String.append_empty]

/-- The declaration of an alias is written for it. -/
theorem writes_aliasBody {t : TypeAlias} (ht : scope.value "t" = t.info) :
    aliasBody.Writes host known scope (· = "\n" ++ t.declaration) := by
  have hliteral : t.info.field takeItem "is_literal_union" = pure (.bool t.isLiteralUnion) := rfl
  have hdefinition : t.info.field takeItem "definition" = pure (.text t.definition) := rfl
  have hcond : (Node.cond (.field (.name "t" 8) "is_literal_union") (declarationBody 9 unionPart)
      (declarationBody 11 (.print (.field (.name "t" 11) "definition")))).Writes host known scope
        (· = t.declaration) := by
    refine Node.writes_cond (denotes_field_alias ht 8 hliteral) rfl ?_
    rw [TypeAlias.declaration]
    cases t.isLiteralUnion with
    | true => exact writes_declarationBody ht 9 (writes_unionPart ht)
    | false =>
      exact writes_declarationBody ht 11 (Node.writes_print (denotes_field_alias ht 11 hdefinition))
  refine (Block.writes_cons (Node.writes_text "\n") (Block.writes_cons hcond
    Block.writes_nil)).imp ?_
  rintro s ⟨_, rfl, _, ⟨_, rfl, _, rfl, rfl⟩, rfl⟩
  rw [String.append_empty]

/-- All aliases are declared. -/
theorem writes_aliasPassage {ts : List TypeAlias}
    (hts : scope.value "types" = .tuple (ts.map TypeAlias.info)) :
    aliasPassage.Writes host known scope fun s ↦
      Each (fun (t : TypeAlias) _ s ↦ s = "\n" ++ t.declaration) ts s := by
  have hloop : (Node.loop (.name "t" 6) (.name "types" 6) none aliasBody .nil).Writes host known
      scope (Each (fun (t : TypeAlias) _ s ↦ s = "\n" ++ t.declaration) ts) := by
    refine Node.writes_loop (Expr.denotes_name hts) fun t _ after id known' _ _ ↦
      writes_aliasBody ?_
    rw [Scope.value_cons, if_neg (by decide), Scope.value_cons, if_pos rfl]
  refine (Block.writes_cons hloop Block.writes_nil).imp ?_
  rintro s ⟨s, hs, _, rfl, rfl⟩
  rwa [String.append_empty]

end Writing

/-! ## Handlers -/

/-- The line of a handler that sets a property. -/
def defaultLine (name value : String) : String :=
  "            " ++ name ++ ": " ++ value ++ ",\n"

/-- The template of the handlers of a kind of elements. -/
def handlerTemplate : ElementKind → String
  | .node => "node-handler"
  | .edge => "edge-handler"

/-- What follows the line with the label in a handler, up to the next part of the template. -/
def behindLabel : ElementKind → String
  | .node => "\n    createNode(operation: CreateNodeOperation): GNode \x7b\n        return "
  | .edge => ""

/-- The parts of the template of a handler that write the label. -/
def labelPassage (kind : ElementKind) : Block :=
  .ofList [.text "];\n    readonly label = '", .print (.field (.name kind.label 10) "label"),
    .text ("';\n" ++ behindLabel kind)]

/-- The parts of the template of a handler that set a property. -/
def defaultBody (line : Nat) : Block :=
  .ofList [.text "            ", .print (.field (.name "default" line) "name"), .text ": ",
    .print (.field (.name "default" line) "value"), .text ",\n"]

/-- The line of the template of a handler from which on properties are set. -/
def defaultsFrom : ElementKind → Nat
  | .node => 15
  | .edge => 20

/-- The parts of the template of a handler that set the properties. -/
def defaultsPassage (kind : ElementKind) : Block :=
  let line := defaultsFrom kind
  .ofList [.loop (.name "default" line) (.item (.name "handler_defaults" line)
    (.field (.name kind.label line) "name")) none (defaultBody (line + 1)) .nil]

theorem builtinHas_handler (kind : ElementKind) :
    BuiltinHas ("server/" ++ handlerTemplate kind) [labelPassage kind, defaultsPassage kind] := by
  have hnode : ("node-handler", Builtin.Server.nodeHandler) ∈ Builtin.Server.templates := by
    simp [Builtin.Server.templates]
  have hedge : ("edge-handler", Builtin.Server.edgeHandler) ∈ Builtin.Server.templates := by
    simp [Builtin.Server.templates]
  cases kind with
  | node =>
    apply builtinHas_of_written (mem_builtinTemplates_server hnode)
    case hlines =>
      simp only [Builtin.Server.nodeHandler]
      repeat' constructor
    case hcss => decide +kernel
  | edge =>
    apply builtinHas_of_written (mem_builtinTemplates_server hedge)
    case hlines =>
      simp only [Builtin.Server.edgeHandler]
      repeat' constructor
    case hcss => decide +kernel

/-- The record of a property and the value that it is set to. -/
def defaultView (x : ResolvedProperty × String) : Value :=
  .record (serverClass "PropertyDefault") [("name", .text x.1.name), ("value", .text x.2)] []

/-- The properties that a handler sets, with the values that it sets them to. -/
theorem handlerDefaults_eq_ok {d : Diagram} {e : Element} {v : Value}
    (h : handlerDefaults d e = .ok v) : ∃ xs : List (ResolvedProperty × String),
      xs.map Prod.fst = e.allProperties.filter (fun p ↦ !p.isReference) ∧
      (∀ x ∈ xs, initialValue d x.1 = .ok x.2) ∧ v = .list (xs.map defaultView) := by
  replace h := bind_eq_ok.mp h
  obtain ⟨views, hviews, h⟩ := h
  cases h
  generalize e.allProperties.filter (fun p ↦ !p.isReference) = ps at hviews ⊢
  rw [mapM_eq_ok] at hviews
  induction hviews with
  | nil => exact ⟨[], rfl, List.forall_mem_nil _, rfl⟩
  | @cons p _ _ _ hview _ ih =>
    obtain ⟨xs, rfl, hxs, hrest⟩ := ih
    obtain ⟨text, htext, hview⟩ := bind_eq_ok.mp hview
    cases hview
    refine ⟨(p, text) :: xs, rfl, List.forall_mem_cons.mpr ⟨htext, hxs⟩, ?_⟩
    rw [List.map_cons, ← Value.sequence.inj hrest |>.2]
    rfl

section Writing

variable {σ : Type} {host : Host σ} {known : Memory} {scope : Scope}

theorem writes_labelPassage {kind : ElementKind} {v : Value} {label : String}
    (hitem : scope.value kind.label = v) (hlabel : v.field takeItem "label" = pure (.text label)) :
    (labelPassage kind).Writes host known scope
      (· = "];\n    readonly label = '" ++ label ++ ("';\n" ++ behindLabel kind)) := by
  have hprint : (Node.print (.field (.name kind.label 10) "label")).Writes host known scope
      (· = label) := Node.writes_print (Expr.denotes_field (Expr.denotes_name hitem) hlabel)
  refine (Block.writes_cons (Node.writes_text "];\n    readonly label = '") (Block.writes_cons
    hprint (Block.writes_cons (Node.writes_text ("';\n" ++ behindLabel kind))
      Block.writes_nil))).imp ?_
  rintro s ⟨_, rfl, _, ⟨_, rfl, _, ⟨_, rfl, _, rfl, rfl⟩, rfl⟩, rfl⟩
  simp only [String.append_assoc, String.append_empty]

/-- The line that sets a property is written for it. -/
theorem writes_defaultBody {x : ResolvedProperty × String}
    (hx : scope.value "default" = defaultView x) (line : Nat) :
    (defaultBody line).Writes host known scope (· = defaultLine x.1.name x.2) := by
  have hfield {n s : String} (h : (defaultView x).field takeItem n = pure (.text s)) :
      (Node.print (.field (.name "default" line) n)).Writes host known scope (· = s) :=
    Node.writes_print (Expr.denotes_field (Expr.denotes_name hx) h)
  have hname : (defaultView x).field takeItem "name" = pure (.text x.1.name) := rfl
  have hvalue : (defaultView x).field takeItem "value" = pure (.text x.2) := rfl
  refine (Block.writes_cons (Node.writes_text "            ") (Block.writes_cons (hfield hname)
    (Block.writes_cons (Node.writes_text ": ") (Block.writes_cons (hfield hvalue)
      (Block.writes_cons (Node.writes_text ",\n") Block.writes_nil))))).imp ?_
  rintro s ⟨_, rfl, _, ⟨_, rfl, _, ⟨_, rfl, _, ⟨_, rfl, _, ⟨_, rfl, _, rfl, rfl⟩, rfl⟩, rfl⟩, rfl⟩,
    rfl⟩
  simp only [defaultLine, String.append_assoc, String.append_empty]

/-- An entry of a dictionary that is found by its name. -/
theorem item_object {shape : DictShape} {es : List (String × Value)} {n : String} {v : Value}
    (h : Entries.get? es n = some v) :
    (Value.object shape es).item takeItem (.text n) = pure v := by
  have hkeyed : Value.keyed? (es.map fun e ↦ (Value.text e.1, e.2)) (.text n) = some v := by
    rw [Value.keyed?, List.find?_map, Option.map_map, ← h, Entries.get?]
    simp only [Function.comp_def, Value.sameKey_text]
  have hpart : (Value.object shape es).part? (.text n) = .ok (some v) := by
    rw [Value.object, Value.part?]
    · rw [hkeyed]
      rfl
    · simp
  rw [Value.item, hpart]
  rfl

theorem writes_defaultsPassage {kind : ElementKind} {v : Value} {name : String}
    {table : List (String × Value)} {xs : List (ResolvedProperty × String)}
    (hitem : scope.value kind.label = v) (hname : v.field takeItem "name" = pure (.text name))
    (htable : scope.value "handler_defaults" = .object .plain table)
    (hentry : Entries.get? table name = some (.list (xs.map defaultView))) :
    (defaultsPassage kind).Writes host known scope
      (Each (fun x _ s ↦ s = defaultLine x.1.name x.2) xs) := by
  have hitems : (Expr.item (.name "handler_defaults" (defaultsFrom kind))
      (.field (.name kind.label (defaultsFrom kind)) "name")).Denotes host known scope
        (.list (xs.map defaultView)) :=
    Expr.denotes_item (Expr.denotes_name htable)
      (Expr.denotes_field (Expr.denotes_name hitem) hname) (item_object hentry)
  have hloop : (Node.loop (.name "default" (defaultsFrom kind)) (.item (.name "handler_defaults"
      (defaultsFrom kind)) (.field (.name kind.label (defaultsFrom kind)) "name")) none
        (defaultBody (defaultsFrom kind + 1)) .nil).Writes host known scope
          (Each (fun x _ s ↦ s = defaultLine x.1.name x.2) xs) := by
    refine Node.writes_loop hitems fun x _ after id known' _ _ ↦ writes_defaultBody ?_ _
    rw [Scope.value_cons, if_neg (by decide), Scope.value_cons, if_pos rfl]
  refine (Block.writes_cons hloop Block.writes_nil).imp ?_
  rintro s ⟨s, hs, _, rfl, rfl⟩
  rwa [String.append_empty]

end Writing

/-! ## What a handler is rendered with -/

/-- The last of some things that has an element with a certain name. -/
theorem findRev?_element {α : Type} {ts : List α} {element : α → Element} {e : Element}
    (he : e ∈ ts.map element) (hunique : ∀ e' ∈ ts.map element, e'.name = e.name → e' = e) :
    ∃ t, ts.findRev? (fun t ↦ (element t).name == e.name) = some t ∧ element t = e := by
  rw [List.findRev?_eq_find?_reverse]
  obtain ⟨t, ht, rfl⟩ := List.mem_map.mp he
  have hsome : (ts.reverse.find? fun u ↦ (element u).name == (element t).name).isSome = true :=
    List.find?_isSome.mpr ⟨t, List.mem_reverse.mpr ht, beq_self_eq_true _⟩
  obtain ⟨u, hu⟩ := Option.isSome_iff_exists.mp hsome
  have hmem := List.mem_reverse.mp (List.mem_of_find?_eq_some hu)
  have hname := List.find?_some hu
  exact ⟨u, hu, hunique _ (List.mem_map_of_mem hmem) (eq_of_beq hname)⟩

namespace Diagram

variable {options : BuildOptions} {g : Grammar} {setting : Setting} {d : Diagram} {e : Element}

theorem eq_of_name_eq (hvalid : g.validate.ok = true) (hbuild : build options g setting = .ok d)
    {e' : Element} (he : e ∈ d.elements) (he' : e' ∈ d.elements) (h : e'.name = e.name) : e' = e :=
  List.inj_on_of_nodup_map (nodup_elements_map_name hvalid hbuild) he' he h

/-- The record of an element is that of its node or edge type. -/
theorem elementView_eq (hvalid : g.validate.ok = true) (hbuild : build options g setting = .ok d)
    (he : e ∈ d.elements) :
    (∃ n : NodeType, n.element = e ∧ TemplateStrategy.elementView d e = n.view) ∨
      ∃ t : EdgeType, t.element = e ∧ TemplateStrategy.elementView d e = t.view := by
  have hunique {e' : Element} (he' : e' ∈ d.elements) := eq_of_name_eq hvalid hbuild he he'
  have hnodes := nodeTypes_map_element hbuild
  have hedges := edgeTypes_map_element hbuild
  rw [TemplateStrategy.elementView]
  cases hkind : e.kind with
  | node =>
    have hmem : e ∈ d.nodeTypes.map (·.element) :=
      hnodes ▸ List.mem_filter.mpr ⟨he, beq_iff_eq.mpr hkind⟩
    obtain ⟨n, hn, hne⟩ := findRev?_element hmem fun e' he' ↦
      hunique (List.mem_of_mem_filter (hnodes ▸ he'))
    rw [hn]
    exact .inl ⟨n, hne, rfl⟩
  | edge =>
    have hnone : d.nodeTypes.findRev? (fun n ↦ n.element.name == e.name) = none := by
      rw [List.findRev?_eq_find?_reverse, List.find?_eq_none]
      intro n hn hname
      have hmem : n.element ∈ d.elements.filter (·.isNode) :=
        hnodes ▸ List.mem_map_of_mem (List.mem_reverse.mp hn)
      obtain ⟨hmem, hnode⟩ := List.mem_filter.mp hmem
      rw [hunique hmem (eq_of_beq hname), Element.isNode, hkind] at hnode
      cases hnode
    have hmem : e ∈ d.edgeTypes.map (·.element) :=
      hedges ▸ List.mem_filter.mpr ⟨he, beq_iff_eq.mpr hkind⟩
    obtain ⟨t, ht, hte⟩ := findRev?_element hmem fun e' he' ↦
      hunique (List.mem_of_mem_filter (hedges ▸ he'))
    rw [hnone, ht]
    exact .inr ⟨t, hte, rfl⟩

/-- The record of an element has its name and its label. -/
theorem field_elementView (hvalid : g.validate.ok = true)
    (hbuild : build options g setting = .ok d) (he : e ∈ d.elements) :
    (TemplateStrategy.elementView d e).field takeItem "name" = pure (.text e.name) ∧
      (TemplateStrategy.elementView d e).field takeItem "label" = pure (.text e.label) := by
  rcases elementView_eq hvalid hbuild he with ⟨n, rfl, hview⟩ | ⟨t, rfl, hview⟩
  · rw [hview]
    exact ⟨rfl, rfl⟩
  · rw [hview]
    exact ⟨rfl, rfl⟩

/-- Among the variables of the server are the properties that the handler of an element sets. -/
theorem exists_handlerDefaults (hvalid : g.validate.ok = true)
    (hbuild : build options g setting = .ok d) (he : e ∈ d.elements) {own : List (String × Value)}
    (hown : serverVariables d = .ok own) : ∃ table v,
      Entries.get? own "handler_defaults" = some (.object .plain table) ∧
      Entries.get? table e.name = some v ∧ handlerDefaults d e = .ok v := by
  obtain ⟨defaults, hdefaults, hown⟩ := bind_eq_ok.mp hown
  cases hown
  have helements : ∀ e', e' ∈ d.nodeTypes.map (·.element) ++ d.edgeTypes.map (·.element) ↔
      e' ∈ d.elements := by
    intro e'
    rw [nodeTypes_map_element hbuild, edgeTypes_map_element hbuild, List.mem_append,
      List.mem_filter, List.mem_filter, ← and_or_left, Element.isNode, Element.isEdge]
    cases e'.kind <;> simp
  obtain ⟨entry, hentry, hcomes⟩ := exists_mem_of_mapM hdefaults ((helements e).mpr he)
  obtain ⟨v, -, hcomes⟩ := bind_eq_ok.mp hcomes
  cases hcomes
  have hsome : (Entries.get? defaults.reverse e.name).isSome = true := by
    rw [Entries.get?, Option.isSome_map, List.find?_isSome]
    exact ⟨_, List.mem_reverse.mpr hentry, beq_self_eq_true _⟩
  obtain ⟨v, hv⟩ := Option.isSome_iff_exists.mp hsome
  refine ⟨_, v, rfl, (Entries.get?_ofList _ _).trans hv, ?_⟩
  obtain ⟨e', he', hcomes⟩ :=
    exists_of_mem_mapM hdefaults (List.mem_reverse.mp (Entries.mem_of_get? hv))
  obtain ⟨v', hv', hcomes⟩ := bind_eq_ok.mp hcomes
  obtain ⟨hname, rfl⟩ := Prod.mk.inj (Except.ok.inj hcomes)
  rwa [eq_of_name_eq hvalid hbuild he ((helements e').mp he') hname] at hv'

end Diagram

/-! ## What is in the files -/

/-- A text is part of another one. -/
def PartOf (t s : String) : Prop :=
  ∃ before after, s = before ++ t ++ after

theorem PartOf.trans {s t u : String} (h : PartOf s t) (h' : PartOf t u) : PartOf s u := by
  obtain ⟨before, after, rfl⟩ := h
  obtain ⟨before', after', rfl⟩ := h'
  exact ⟨before' ++ before, after ++ after', by simp only [String.append_assoc]⟩

theorem partOf_append_left (s t : String) : PartOf t (s ++ t) :=
  ⟨s, "", String.append_empty.symm⟩

theorem partOf_append_right (s t : String) : PartOf s (s ++ t) :=
  ⟨"", t, by rw [String.empty_append]⟩

/-- What is written for an item is part of what is written for all of them. -/
theorem Template.Each.exists_of_mem {α : Type} {p : α → List α → String → Prop} {as : List α}
    {t : String} (h : Each p as t) {a : α} (ha : a ∈ as) : ∃ rest s, p a rest s ∧ PartOf s t := by
  induction h with
  | nil => exact absurd ha List.not_mem_nil
  | @cons b bs s t hs _ ih =>
    rcases List.mem_cons.mp ha with rfl | ha
    · exact ⟨bs, s, hs, partOf_append_right s t⟩
    · obtain ⟨rest, u, hu, hpart⟩ := ih ha
      exact ⟨rest, u, hu, hpart.trans (partOf_append_left s t)⟩

variable {options : BuildOptions} {g : Grammar} {setting : Setting} {d : Diagram} {disk : Disk}
  {store : TemplateStore} {r : StrategyResult} {f : OutputFile}

/-- The file of the types of the model has the declaration of each alias. -/
theorem exists_declaration (hstore : store.Sound (builtinLibrary.Reads disk))
    (hr : ((commonStrategy.render builtinLibrary disk d).run store).1 = .ok r) (hf : f ∈ r.files)
    (hpath : f.path.text = "common/model-types.ts") {t : TypeAlias} (ht : t ∈ d.grammar.types) :
    PartOf t.declaration f.content := by
  obtain ⟨own, jobs, job, hown, hjobs, hjob, hcomes⟩ :=
    TemplateStrategy.exists_job_of_mem_files hstore hr hf
  cases hown
  rcases hjobs with hjobs | hjobs
  · obtain ⟨t', ht', -, htemplate, houtput, hvars⟩ :=
      TemplateStrategy.exists_of_mem_fixedJobs hjobs hjob
    have hfile : t'.output = "model-types.ts" := by
      have hplace : "common/" ++ "model-types.ts" = commonStrategy.directory ++ job.output :=
        hpath.symm.trans (TemplateStrategy.outcome_eq_ok hcomes).1
      rw [← houtput]
      exact ((String.append_right_inj "common/").mp hplace).symm
    have hname : t'.template = "model-types" := by
      simp only [commonStrategy, List.mem_cons, List.not_mem_nil, or_false] at ht'
      rcases ht' with rfl | rfl | rfl | rfl | rfl | rfl
      · rfl
      all_goals exact absurd hfile (by decide)
    have htypes : (bindings d job.vars).value "types" =
        .tuple (d.grammar.types.map TypeAlias.info) := by
      apply Scope.value_of_get?
      rw [get?_bindings (by decide), hvars]
      rfl
    have hhas : BuiltinHas job.template [aliasPassage] := by
      rw [htemplate, hname]
      exact builtinHas_aliasPassage
    obtain ⟨before, s, after, hs, hcontent⟩ := TemplateStrategy.exists_written_of_outcome hcomes
      hhas List.mem_cons_self (writes_aliasPassage htypes)
    obtain ⟨-, _, rfl, hpart⟩ := hs.exists_of_mem ht
    exact (partOf_append_left _ _).trans (hpart.trans ⟨before, after, hcontent⟩)
  · obtain ⟨e, -, t', ht', -⟩ := TemplateStrategy.exists_of_mem_elementJobs hjobs hjob
    exact absurd ht' List.not_mem_nil

/-- The handler of an element comes from the template for its kind, in which the kind names the
element, and its properties with the values they are set to are known. -/
theorem exists_job_of_emittedFor (hvalid : g.validate.ok = true)
    (hbuild : Diagram.build options g setting = .ok d) {e : Element} (he : e ∈ d.elements)
    (h : serverStrategy.EmittedFor builtinLibrary disk d e f) : ∃ job table v,
      serverStrategy.outcome builtinLibrary disk d job = .ok f ∧
      BuiltinHas job.template [labelPassage e.kind, defaultsPassage e.kind] ∧
      (bindings d job.vars).value e.kind.label = TemplateStrategy.elementView d e ∧
      (bindings d job.vars).value "handler_defaults" = .object .plain table ∧
      Entries.get? table e.name = some v ∧ handlerDefaults d e = .ok v := by
  obtain ⟨job, ⟨own, jobs, hown, hjobs, hjob⟩, hview, hcomes⟩ := h
  obtain ⟨e', he', t, ht, hkind, htemplate, -, hvars⟩ :=
    TemplateStrategy.exists_of_mem_elementJobs hjobs hjob
  -- the record tells which element the job is for
  obtain rfl : e = e' := by
    have hsame : TemplateStrategy.elementView d e' = TemplateStrategy.elementView d e := by
      rw [hvars, Entries.get?_cons] at hview
      split at hview
      · exact Option.some.inj hview
      · exact Option.some.inj hview
    have hname := (Diagram.field_elementView hvalid hbuild he').1
    rw [hsame, (Diagram.field_elementView hvalid hbuild he).1] at hname
    have hrun : (Except.ok (Value.text e.name) : Except RenderFault Value) = .ok (.text e'.name) :=
      congrArg (fun x : Evaluation Value ↦ (x.run {}).1) hname
    exact Diagram.eq_of_name_eq hvalid hbuild he' he (Value.text.inj (Except.ok.inj hrun))
  have htemplate : job.template = "server/" ++ handlerTemplate e.kind := by
    rw [htemplate, ← hkind]
    simp only [serverStrategy, List.mem_cons, List.not_mem_nil, or_false] at ht
    rcases ht with rfl | rfl
    · rfl
    · rfl
  obtain ⟨table, v, htable, hentry, hv⟩ := Diagram.exists_handlerDefaults hvalid hbuild he hown
  refine ⟨job, table, v, hcomes, htemplate ▸ builtinHas_handler e.kind, ?_, ?_, hentry, hv⟩
  · apply Scope.value_of_get?
    rw [get?_bindings (by cases e.kind <;> decide), hvars, Entries.get?_cons,
      if_pos (beq_self_eq_true _)]
    rfl
  · have hkind : ¬ (e.kind.label == "handler_defaults") = true := by
      cases e.kind <;> decide
    have helement : ¬ ("element" == "handler_defaults") = true := by decide
    apply Scope.value_of_get?
    rw [get?_bindings (by decide), hvars, Entries.get?_cons, if_neg hkind, Entries.get?_cons,
      if_neg helement, Entries.get?_append, htable]
    rfl

/-- A handler has a line with the label of its element. -/
theorem exists_label (hvalid : g.validate.ok = true)
    (hbuild : Diagram.build options g setting = .ok d) {e : Element} (he : e ∈ d.elements)
    (h : serverStrategy.EmittedFor builtinLibrary disk d e f) :
    PartOf ("    readonly label = '" ++ e.label ++ "';\n") f.content := by
  obtain ⟨job, -, -, hcomes, hhas, hitem, -⟩ := exists_job_of_emittedFor hvalid hbuild he h
  obtain ⟨before, _, after, rfl, hcontent⟩ := TemplateStrategy.exists_written_of_outcome hcomes
    hhas List.mem_cons_self (writes_labelPassage hitem
      (Diagram.field_elementView hvalid hbuild he).2)
  refine ⟨before ++ "];\n", behindLabel e.kind ++ after, ?_⟩
  have hlead : "];\n    readonly label = '" = "];\n" ++ "    readonly label = '" := by decide
  rw [hcontent, hlead]
  simp only [String.append_assoc]

/-- A handler has a line for each property that it sets. -/
theorem exists_defaultLine (hvalid : g.validate.ok = true)
    (hbuild : Diagram.build options g setting = .ok d) {e : Element} (he : e ∈ d.elements)
    (h : serverStrategy.EmittedFor builtinLibrary disk d e f) {p : ResolvedProperty}
    (hp : p ∈ e.allProperties) (hreference : p.isReference = false) :
    ∃ value, initialValue d p = .ok value ∧ PartOf (defaultLine p.name value) f.content := by
  obtain ⟨job, table, v, hcomes, hhas, hitem, htable, hentry, hv⟩ :=
    exists_job_of_emittedFor hvalid hbuild he h
  obtain ⟨xs, hxs, hvalues, rfl⟩ := handlerDefaults_eq_ok hv
  obtain ⟨before, s, after, hs, hcontent⟩ := TemplateStrategy.exists_written_of_outcome hcomes
    hhas (List.mem_cons_of_mem _ List.mem_cons_self)
    (writes_defaultsPassage hitem (Diagram.field_elementView hvalid hbuild he).1 htable hentry)
  have hset : p ∈ xs.map Prod.fst := by
    rw [hxs, List.mem_filter, hreference]
    exact ⟨hp, rfl⟩
  obtain ⟨x, hx, rfl⟩ := List.mem_map.mp hset
  obtain ⟨-, _, rfl, hpart⟩ := hs.exists_of_mem hx
  exact ⟨x.2, hvalues x hx, hpart.trans ⟨before, after, hcontent⟩⟩

end DiagramForge
