import DiagramForge.Proofs.Data.Documents
import DiagramForge.Proofs.Diagram.TypeIds
import DiagramForge.Proofs.Strategy.IdentifiedPaths
import DiagramForge.Proofs.Strategy.Imports

/-!
# The sample model

The browser strategy renders a model with a node of each node type. The template puts it together
from texts, so it is not plain from the outset that the file is well-formed.
`SampleModel.read_content` says what is read of it.

There are two halves. `SampleModel.puts_template` says what the template writes. This takes knowing
how far its loop has come: the index places a node, and a comma follows unless it is the last one.
`SampleModel.read_modelText` says what that text is read as, if the names in it stand for themselves
in a document, which identifiers and names of projects do. An integer that is printed is read as it
was, since one that has too many digits is not printed.
-/

namespace DiagramForge

open Text Template Outcome
open Data.Json (Denotes Items Members Entry IsPlain quotation read_of_denotes)

/-- The node of a node type in the sample model. -/
def NodeType.sample (n : NodeType) (x : Int) : Data :=
  .object [("id", .text (Naming.toKebab n.element.name ++ "-1")), ("type", .text n.element.typeId),
    ("position", .object [("x", .int x), ("y", .int 0)]),
    ("size", .object [("width", n.size.width), ("height", n.size.height)])]

namespace SampleModel

/-! ## The template -/

/-- The distance between two nodes. -/
def gap : Int := 40

/-- The field of a node type, as the template asks for it in a line. -/
def part (line : Nat) (name : String) : Expr :=
  .field (.name "node" line) name

/-- The parts of the template that end a node: a comma follows unless it is the last one. -/
def endBody : Block :=
  .ofList [.text " \x7d\n    \x7d",
    .print (.cond (.unary .not (.field (.name "loop" 11) "last")) (.literal (.text ","))
      (.literal (.text ""))),
    .text "\n"]

/-- The parts of the template that write the size of a node and what follows. -/
def sizeBody : Block :=
  .cons (.text ", \"y\": 0 \x7d,\n      \"size\": \x7b \"width\": ") <|
    .cons (.print (part 10 "width")) <| .cons (.text ", \"height\": ") <|
    .cons (.print (part 10 "height")) endBody

/-- Where the template puts a node. -/
def place : Expr :=
  .binary .mul (.field (.name "loop" 9) "index0")
    (.binary .add (part 9 "width") (.literal (.int gap)))

/-- The parts of the template that write a node. -/
def nodeBody : Block :=
  .cons (.text "    \x7b\n      \"id\": \"") <|
    .cons (.print (.call (.name kebabHelper 7) (.positional (part 7 "name") .nil))) <|
    .cons (.text "-1\",\n      \"type\": \"") <| .cons (.print (part 8 "type_id")) <|
    .cons (.text "\",\n      \"position\": \x7b \"x\": ") <| .cons (.print place) sizeBody

/-- The parts of the template. -/
def template : Block :=
  .ofList [.text "\x7b\n  \"id\": \"", .print (.name "project_name" 2),
    .text "-root\",\n  \"type\": \"graph\",\n  \"children\": [\n",
    .loop (.name "node" 5) (.name "node_types" 5) none nodeBody .nil, .text "  ]\n\x7d\n"]

theorem compile_sampleModel :
    compile (joinStrings "\n" Builtin.Browser.sampleModel) = .ok template := by
  obtain ⟨css, hwritten, hcss⟩ : ∃ css, Written Builtin.Browser.sampleModel css ∧
      ((compileChars (['\n'].intercalate css)).toOption.any template.is) = true := by
    constructor
    constructor
    case left =>
      simp only [Builtin.Browser.sampleModel]
      repeat' constructor
    case right => decide +kernel
  rw [joinStrings_of_written hwritten, compile_ofList]
  obtain ⟨b, hb, his⟩ := (Option.any_eq_true _ _).mp hcss
  rw [toOption_eq_some.mp hb, Block.eq_of_is his]

/-! ## What the template writes -/

/-- A value is printed as a text. -/
def Prints (v : Value) (t : String) : Prop :=
  v.display = .ok t

/-- What is written at the end of a node. -/
def endText (isLast : Bool) : String :=
  " \x7d\n    \x7d" ++ (if isLast then "" else ",") ++ "\n"

/-- What is written from the size of a node on. -/
def sizeText (width height : String) (isLast : Bool) : String :=
  ", \"y\": 0 \x7d,\n      \"size\": \x7b \"width\": " ++ width ++ ", \"height\": " ++ height ++
    endText isLast

/-- What is written for a node. -/
def nodeText (e : Element) (x width height : String) (isLast : Bool) : String :=
  "    \x7b\n      \"id\": \"" ++ Naming.toKebab e.name ++ "-1\",\n      \"type\": \"" ++
    e.typeId ++ "\",\n      \"position\": \x7b \"x\": " ++ x ++ sizeText width height isLast

/-- What is written for a node type at an index, when others follow. -/
def Wrote (width height : Int) (x : NodeType × Nat) (after : List (NodeType × Nat)) (t : String) :
    Prop :=
  ∃ place w h, Prints (.int (x.2 * (width + gap))) place ∧ Prints (.int width) w ∧
    Prints (.int height) h ∧ t = nodeText x.1.element place w h after.isEmpty

/-- What is written for the whole model. -/
def modelText (project t : String) : String :=
  "\x7b\n  \"id\": \"" ++ project ++ "-root\",\n  \"type\": \"graph\",\n  \"children\": [\n" ++ t ++
    "  ]\n\x7d\n"

section Writing

variable {σ : Type} {host : Host σ} {scope : Scope} {id index : Nat} {n : NodeType}
  {width height : Int} {vs : List Value}

theorem puts_endBody (hloop : scope.value "loop" = .loop id) :
    endBody.Puts host (Memory.Stands id (index + 1) vs) scope (· = endText vs.isEmpty) := by
  have hlast : (Expr.field (.name "loop" 11) "last").Has host (Memory.Stands id (index + 1) vs)
      scope (.bool vs.isEmpty) := Expr.has_last (Expr.has_name hloop)
  have hmore : (Expr.unary .not (.field (.name "loop" 11) "last")).Has host
      (Memory.Stands id (index + 1) vs) scope (.bool !vs.isEmpty) := Expr.has_unary hlast rfl
  have hcomma : (Expr.cond (.unary .not (.field (.name "loop" 11) "last")) (.literal (.text ","))
      (.literal (.text ""))).Has host (Memory.Stands id (index + 1) vs) scope
        (.text (if vs.isEmpty then "" else ",")) := by
    refine Expr.has_cond hmore rfl ?_
    cases vs.isEmpty with
    | true => exact Expr.has_literal _
    | false => exact Expr.has_literal _
  refine Block.Puts.imp (Block.puts_cons (Node.puts_text _) <| Block.puts_cons
    (Node.puts_print_text hcomma) <| Block.puts_cons (Node.puts_text _) Block.puts_nil) ?_
  rintro t ⟨_, rfl, _, ⟨_, rfl, _, ⟨_, rfl, _, rfl, rfl⟩, rfl⟩, rfl⟩
  rw [endText, String.append_assoc, String.append_empty]

theorem has_part {inv : Memory → Prop} (hnode : scope.value "node" = n.view) (line : Nat)
    {name : String} {v : Value} (h : n.view.field takeItem name = pure v) :
    (part line name).Has host inv scope v :=
  Expr.has_field (Expr.has_name hnode) h

/-- A field that shows an integer of a record is that integer. -/
theorem field_int {name : String} {entry : Data} {k : Int} (hentry : entry = .int k)
    (hfield : n.view.field takeItem name = pure (.ofData entry)) :
    n.view.field takeItem name = pure (.int k) := by
  rw [hfield, hentry]
  rfl

theorem puts_sizeBody (hloop : scope.value "loop" = .loop id)
    (hnode : scope.value "node" = n.view) (hwidth : n.size.width = .int width)
    (hheight : n.size.height = .int height) :
    sizeBody.Puts host (Memory.Stands id (index + 1) vs) scope fun t ↦
      ∃ w h, Prints (.int width) w ∧ Prints (.int height) h ∧ t = sizeText w h vs.isEmpty := by
  have hwide : (Node.print (part 10 "width")).Puts host (Memory.Stands id (index + 1) vs) scope
      (Prints (.int width)) := Node.puts_print (has_part hnode 10 (field_int hwidth rfl)) rfl
  have hhigh : (Node.print (part 10 "height")).Puts host (Memory.Stands id (index + 1) vs) scope
      (Prints (.int height)) := Node.puts_print (has_part hnode 10 (field_int hheight rfl)) rfl
  refine Block.Puts.imp (Block.puts_cons (Node.puts_text _) <| Block.puts_cons hwide <|
    Block.puts_cons (Node.puts_text _) <| Block.puts_cons hhigh (puts_endBody hloop)) ?_
  rintro t ⟨_, rfl, _, ⟨w, hw, _, ⟨_, rfl, _, ⟨h, hh, _, rfl, rfl⟩, rfl⟩, rfl⟩, rfl⟩
  refine ⟨w, h, hw, hh, ?_⟩
  unfold sizeText
  rw [String.append_assoc, String.append_assoc, String.append_assoc]

/-- What the template writes for a node type. -/
theorem puts_nodeBody (hloop : scope.value "loop" = .loop id)
    (hnode : scope.value "node" = n.view)
    (hhelper : scope.value kebabHelper = .helper kebabHelper)
    (hspells : ∀ h, Entries.get? host.helpers kebabHelper = some h → ∀ s m,
      (h.printed s).run m = (.ok (Naming.toKebab s), m))
    (hwidth : n.size.width = .int width) (hheight : n.size.height = .int height) :
    nodeBody.Puts host (Memory.Stands id (index + 1) vs) scope fun t ↦
      ∃ x w h, Prints (.int (index * (width + gap))) x ∧ Prints (.int width) w ∧
        Prints (.int height) h ∧ t = nodeText n.element x w h vs.isEmpty := by
  have hname : n.view.field takeItem "name" = pure (.text n.element.name) := rfl
  have htype : n.view.field takeItem "type_id" = pure (.text n.element.typeId) := rfl
  have hspelt : (Node.print (.call (.name kebabHelper 7) (.positional (part 7 "name") .nil))).Puts
      host (Memory.Stands id (index + 1) vs) scope (· = Naming.toKebab n.element.name) := by
    refine Maintains.imp (Node.puts_call (Expr.has_name hhelper) (has_part hnode 7 hname)
      fun h hget m hm ↦ ?_) ?_
    · rw [hspells h hget]
      exact hm
    · rintro r ⟨⟨h, hget, m, hprinted⟩, hscope⟩
      rw [hspells h hget] at hprinted
      exact ⟨(Except.ok.inj hprinted).symm, hscope⟩
  have hindex : (Expr.field (.name "loop" 9) "index0").Has host (Memory.Stands id (index + 1) vs)
      scope (.int index) := Expr.has_index0 (Expr.has_name hloop)
  have hstep : (Expr.binary .add (part 9 "width") (.literal (.int gap))).Has host
      (Memory.Stands id (index + 1) vs) scope (.int (width + gap)) :=
    Expr.has_binary (has_part hnode 9 (field_int hwidth rfl)) (Expr.has_literal _) rfl
  have hplace : place.Has host (Memory.Stands id (index + 1) vs) scope
      (.int (index * (width + gap))) := Expr.has_binary hindex hstep rfl
  refine Block.Puts.imp (Block.puts_cons (Node.puts_text _) <| Block.puts_cons hspelt <|
    Block.puts_cons (Node.puts_text _) <|
    Block.puts_cons (Node.puts_print_text (has_part hnode 8 htype)) <|
    Block.puts_cons (Node.puts_text _) <| Block.puts_cons (Node.puts_print hplace rfl) <|
    puts_sizeBody hloop hnode hwidth hheight) ?_
  rintro t ⟨_, rfl, _, ⟨_, rfl, _, ⟨_, rfl, _, ⟨_, rfl, _, ⟨_, rfl, _, ⟨x, hx, _, ⟨w, h, hw, hh,
    rfl⟩, rfl⟩, rfl⟩, rfl⟩, rfl⟩, rfl⟩, rfl⟩
  refine ⟨x, w, h, hx, hw, hh, ?_⟩
  unfold nodeText
  rw [String.append_assoc, String.append_assoc, String.append_assoc, String.append_assoc,
    String.append_assoc]

/-- What the template writes for all node types, wherever nothing is known of the memory. -/
theorem puts_template {ns : List NodeType} {project : String} {width height : Int}
    (hproject : scope.value "project_name" = .text project)
    (hitems : scope.value "node_types" = .tuple (ns.map NodeType.view))
    (hhelper : scope.value kebabHelper = .helper kebabHelper)
    (hspells : ∀ h, Entries.get? host.helpers kebabHelper = some h → ∀ s m,
      (h.printed s).run m = (.ok (Naming.toKebab s), m))
    (hwidth : ∀ n ∈ ns, n.size.width = .int width)
    (hheight : ∀ n ∈ ns, n.size.height = .int height) :
    template.Puts host (fun _ ↦ True) scope fun t ↦
      ∃ u, Each (Wrote width height) ns.zipIdx u ∧ t = modelText project u := by
  have hviews : ns.zipIdx.map (fun x ↦ x.1.view) = ns.map NodeType.view := by
    conv_rhs => rw [← List.zipIdx_map_fst 0 ns, List.map_map]
    rfl
  have hnodes : (Expr.name "node_types" 5).Has host (fun _ ↦ True) scope
      (.tuple (ns.zipIdx.map fun x ↦ x.1.view)) := by
    rw [hviews]
    exact Expr.has_name hitems
  have hloop : (Node.loop (.name "node" 5) (.name "node_types" 5) none nodeBody .nil).Puts host
      (fun _ ↦ True) scope (Each (Wrote width height) ns.zipIdx) := by
    refine tracks_stands.puts_loop hnodes fun id before x after hsplit ↦ ?_
    have hmem : x ∈ ns.zipIdx := hsplit ▸ List.mem_append_right _ List.mem_cons_self
    have hn := List.fst_mem_of_mem_zipIdx hmem
    -- the index is the number of nodes before
    have hindex : x.2 = before.length := by
      have hget : ns.zipIdx[before.length]? = some x := by
        rw [hsplit, List.getElem?_append_right (Nat.le_refl _), Nat.sub_self]
        rfl
      rw [List.getElem?_zipIdx] at hget
      obtain ⟨n, -, rfl⟩ := Option.map_eq_some_iff.mp hget
      exact Nat.zero_add _
    refine Block.Puts.imp (puts_nodeBody rfl rfl hhelper hspells (hwidth _ hn) (hheight _ hn)) ?_
    rintro t ⟨place, w, h, hplace, hw, hh, rfl⟩
    rw [List.isEmpty_map]
    exact ⟨place, w, h, hindex ▸ hplace, hw, hh, rfl⟩
  refine Block.Puts.imp (Block.puts_cons (Node.puts_text _) <| Block.puts_cons
    (Node.puts_print_text (Expr.has_name hproject)) <| Block.puts_cons (Node.puts_text _) <|
    Block.puts_cons hloop <| Block.puts_cons (Node.puts_text _) Block.puts_nil) ?_
  rintro t ⟨_, rfl, _, ⟨_, rfl, _, ⟨_, rfl, _, ⟨u, hu, _, ⟨_, rfl, _, rfl, rfl⟩, rfl⟩, rfl⟩, rfl⟩,
    rfl⟩
  refine ⟨u, hu, ?_⟩
  unfold modelText
  rw [String.append_empty, String.append_assoc, String.append_assoc, String.append_assoc]

end Writing

/-! ## How it is read -/

/-- An integer that is printed is read as it was. -/
theorem Prints.denotes {k : Int} {s : String} (h : Prints (.int k) s) :
    Denotes s.toList (.int k) := by
  have hdisplay : (Value.int k).display =
      if [k].any Value.isOversized then .error (.crash Crash.unshowable) else .ok (toString k) :=
    rfl
  rw [Prints, hdisplay] at h
  split at h
  · cases h
  · next hsmall =>
    cases h
    refine Data.Json.denotes_numeral ?_
    simpa [Value.isOversized] using hsmall

theorem isPlain_toLower {c : Char} (h : Grammar.isIdentRest c = true ∨ c = '-') :
    IsPlain c.toLower := by
  rcases h with h | rfl
  · exact forall_isAscii (p := fun c ↦ Grammar.isIdentRest c = true → IsPlain c.toLower) (by decide)
      (isAscii_of_isIdentRest h) h
  · decide

/-- The characters of a text stand for themselves in a document. -/
def PlainText (s : String) : Prop :=
  ∀ c ∈ s.toList, IsPlain c

instance (s : String) : Decidable (PlainText s) :=
  List.decidableBAll _ s.toList

theorem PlainText.append {s t : String} (hs : PlainText s) (ht : PlainText t) :
    PlainText (s ++ t) := by
  intro c hc
  rw [String.toList_append] at hc
  rcases List.mem_append.mp hc with hc | hc
  · exact hs c hc
  · exact ht c hc

theorem plainText_toKebab {name : String} (h : Grammar.IsName name) :
    PlainText (Naming.toKebab name) := by
  intro c hc
  obtain ⟨b, hb, rfl⟩ := exists_of_mem_toKebab h hc
  exact isPlain_toLower hb

theorem plainText_typeId {e : Element} (h : Grammar.IsName e.name) : PlainText e.typeId := by
  have hkind : PlainText (e.kind.label ++ ":") := by
    cases e.kind <;> decide
  refine hkind.append fun c hc ↦ ?_
  have hrest := Grammar.isIdentRest_of_isIdent h
  rw [lowerString, String.toList_ofList,
    lower_of_isAscii fun c hc ↦ isAscii_of_isIdentRest (hrest c hc)] at hc
  obtain ⟨b, hb, rfl⟩ := List.mem_map.mp hc
  exact isPlain_toLower (.inl (hrest b hb))

theorem blank (s : String) (h : s.toList.all Data.Json.isSpace = true) :
    ∀ c ∈ s.toList, Data.Json.isSpace c = true :=
  List.all_eq_true.mp h

/-- An entry whose key stands behind a line break or a blank, and whose value stands behind a
blank. -/
theorem entry (before key : String) {cs : List Char} {d : Data} (h : Denotes cs d)
    (hbefore : before.toList.all Data.Json.isSpace = true) (hkey : PlainText key) :
    Entry (before.toList ++ (quotation key ++ ':' :: ' ' :: cs)) (key, d) :=
  .intro (blank before hbefore) hkey h.space_cons

/-- What is written for a node is read as the node; a comma may follow, and then a line break
does. -/
theorem exists_denotes_nodeText {n : NodeType} {i width height : Int} {x w h : String}
    (hname : Grammar.IsName n.element.name) (hwidth : n.size.width = .int width)
    (hheight : n.size.height = .int height) (hx : Prints (.int i) x) (hw : Prints (.int width) w)
    (hh : Prints (.int height) h) :
    ∃ cs, Denotes cs (n.sample i) ∧ ∀ isLast, (nodeText n.element x w h isLast).toList =
      cs ++ ((if isLast then [] else [',']) ++ ['\n']) := by
  have hkebab : PlainText (Naming.toKebab n.element.name ++ "-1") :=
    (plainText_toKebab hname).append (by decide)
  have hzero : Denotes (Data.Json.numeral 0) (.int 0) := Data.Json.denotes_numeral (by decide)
  have hspace := blank " " (by decide)
  have hplace := entry " " "x" hx.denotes (by decide) (by decide)
  have hheld := entry " " "y" (hzero.append_blanks hspace) (by decide) (by decide)
  have hwide := entry " " "width" hw.denotes (by decide) (by decide)
  have hhigh := entry " " "height" (hh.denotes.append_blanks hspace) (by decide) (by decide)
  have hposition := Data.Json.denotes_object (.cons hplace (.last hheld)) (by simp)
  have hsize := Data.Json.denotes_object (.cons hwide (.last hhigh)) (by simp)
  have hid := entry "\n      " "id" (Data.Json.denotes_quotation hkebab) (by decide) (by decide)
  have htype := entry "\n      " "type" (Data.Json.denotes_quotation (plainText_typeId hname))
    (by decide) (by decide)
  have hplaced := entry "\n      " "position" hposition (by decide) (by decide)
  have hsized := entry "\n      " "size" (hsize.append_blanks (blank "\n    " (by decide)))
    (by decide) (by decide)
  have hnode := Data.Json.denotes_object (.cons hid (.cons htype (.cons hplaced (.last hsized))))
    (by simp)
  rw [← hwidth, ← hheight] at hnode
  refine ⟨_, hnode.blanks_append (blank "    " (by decide)), fun isLast ↦ ?_⟩
  unfold nodeText sizeText endText
  have hnumeral : Data.Json.numeral 0 = ['0'] := rfl
  cases isLast with
  | true => simp [quotation, hnumeral]
  | false => simp [quotation, hnumeral]

/-- The nodes of the sample model. -/
def nodes (width : Int) (xs : List (NodeType × Nat)) : List Data :=
  xs.map fun x ↦ x.1.sample (x.2 * (width + gap))

section Reading

variable {width height : Int} {xs : List (NodeType × Nat)} {t : String}

/-- Each node ends where the next one begins, with a comma between them. The induction is on the
nodes. -/
theorem items_of_each (hne : xs ≠ []) (hnames : ∀ x ∈ xs, Grammar.IsName x.1.element.name)
    (hwidth : ∀ x ∈ xs, x.1.size.width = .int width)
    (hheight : ∀ x ∈ xs, x.1.size.height = .int height) (h : Each (Wrote width height) xs t) :
    Items t.toList (nodes width xs) := by
  induction h with
  | nil => exact absurd rfl hne
  | @cons x after s t hs ht ih =>
    obtain ⟨place, w, h, hplace, hw, hh, rfl⟩ := hs
    obtain ⟨hname, hnames⟩ := List.forall_mem_cons.mp hnames
    obtain ⟨hwide, hwidth⟩ := List.forall_mem_cons.mp hwidth
    obtain ⟨hhigh, hheight⟩ := List.forall_mem_cons.mp hheight
    obtain ⟨cs, hcs, htext⟩ := exists_denotes_nodeText hname hwide hhigh hplace hw hh
    have hbreak : ∀ c ∈ ['\n'], Data.Json.isSpace c = true := List.forall_mem_singleton.mpr rfl
    rw [String.toList_append, htext]
    by_cases hafter : after = []
    · subst hafter
      cases ht
      rw [String.toList_empty, List.append_nil]
      exact .last (hcs.append_blanks hbreak)
    · have hmore : after.isEmpty = false := List.isEmpty_eq_false_iff.mpr hafter
      rw [hmore, List.append_assoc]
      exact .cons hcs ((ih hafter hnames hwidth hheight).blanks_append hbreak)

/-- The nodes are read as a list, which may be empty. -/
theorem denotes_nodes (hnames : ∀ x ∈ xs, Grammar.IsName x.1.element.name)
    (hwidth : ∀ x ∈ xs, x.1.size.width = .int width)
    (hheight : ∀ x ∈ xs, x.1.size.height = .int height) (h : Each (Wrote width height) xs t) :
    Denotes ('[' :: (("\n" ++ t ++ "  ").toList ++ [']'])) (.list (nodes width xs)) := by
  rw [String.toList_append, String.toList_append]
  by_cases hne : xs = []
  · subst hne
    cases h
    exact Data.Json.denotes_nil (blank "\n  " (by decide))
  · have hitems := (items_of_each hne hnames hwidth hheight h).blanks_append
      (blank "\n" (by decide))
    exact Data.Json.denotes_items (hitems.append_blanks (blank "  " (by decide)))

/-- The sample model. -/
def model (project : String) (ds : List Data) : Data :=
  .object [("id", .text (project ++ "-root")), ("type", .text "graph"), ("children", .list ds)]

theorem read_modelText {project : String} (hproject : PlainText project)
    (hnames : ∀ x ∈ xs, Grammar.IsName x.1.element.name)
    (hwidth : ∀ x ∈ xs, x.1.size.width = .int width)
    (hheight : ∀ x ∈ xs, x.1.size.height = .int height) (h : Each (Wrote width height) xs t) :
    Data.Json.read (modelText project t).toList = .ok (model project (nodes width xs)) := by
  have hroot : PlainText (project ++ "-root") := hproject.append (by decide)
  have hgraph : PlainText "graph" := by decide
  have hchildren := denotes_nodes hnames hwidth hheight h
  have hid := entry "\n  " "id" (Data.Json.denotes_quotation hroot) (by decide) (by decide)
  have htype := entry "\n  " "type" (Data.Json.denotes_quotation hgraph) (by decide) (by decide)
  have hlist := entry "\n  " "children" (hchildren.append_blanks (blank "\n" (by decide)))
    (by decide) (by decide)
  have hmodel := Data.Json.denotes_object (.cons hid (.cons htype (.last hlist))) (by simp)
  refine (congrArg Data.Json.read ?_).trans
    (read_of_denotes (hmodel.append_blanks (blank "\n" (by decide))))
  unfold modelText
  simp [quotation]

end Reading

/-! ## Names of projects -/

theorem plainText_toProjectName (s : String) : PlainText (Naming.toProjectName s) := by
  have hchars : ∀ c ∈ s.toList.map fun c ↦ if c.isAlphanum then c else '-',
      Grammar.isIdentRest c = true ∨ c = '-' := by
    intro c hc
    obtain ⟨b, -, rfl⟩ := List.mem_map.mp hc
    by_cases hb : b.isAlphanum = true
    · rw [if_pos hb]
      exact .inl (Bool.or_eq_true_iff.mpr (.inl hb))
    · rw [if_neg hb]
      exact .inr rfl
  have hascii : ∀ c ∈ s.toList.map fun c ↦ if c.isAlphanum then c else '-',
      isAscii c = true := by
    intro c hc
    rcases hchars c hc with hident | rfl
    · exact isAscii_of_isIdentRest hident
    · rfl
  intro c hc
  rw [Naming.toProjectName, Naming.onString, String.toList_ofList, Naming.projectName,
    lower_of_isAscii hascii] at hc
  obtain ⟨b, hb, rfl⟩ := List.mem_map.mp hc
  exact isPlain_toLower (hchars b hb)

/-- A project is named after the file of its grammar or after the grammar. -/
theorem plainText_project {file : Path} {bytes : List UInt8} {g : Grammar}
    (h : Grammar.parseBytes file bytes = .ok g) : g.Identified ∧ PlainText g.project := by
  rw [Grammar.parseBytes] at h
  split at h
  · cases h
  · have hidentified := Grammar.identified_of_parse h
    obtain ⟨ds, -, rfl⟩ := Grammar.exists_declarations_of_parse h
    refine ⟨hidentified, ?_⟩
    rw [Grammar.project]
    split
    · rw [Grammar.assemble]
      dsimp only
      split
      · exact plainText_toProjectName _
      · exact plainText_toProjectName _
    · split
      · decide
      · next name hname =>
        split
        · decide
        · intro c hc
          have hrest := Grammar.isIdentRest_of_isIdent (hidentified.grammarName name hname) c hc
          exact forall_isAscii (p := fun c ↦ Grammar.isIdentRest c = true → IsPlain c) (by decide)
            (isAscii_of_isIdentRest hrest) hrest

/-! ## The file -/

section File

variable {options : BuildOptions} {g : Grammar} {config : Config} {d : Diagram}

/-- All nodes have the dimensions of the configuration. -/
theorem size_of_build (hbuild : Diagram.build options g config.settings = .ok d) {n : NodeType}
    (hn : n ∈ d.nodeTypes) : n.size.width = .int config.styling.nodeDefaults.width ∧
      n.size.height = .int config.styling.nodeDefaults.height := by
  obtain ⟨-, _, _, elements, nodes, _, _, -, -, -, hnodes, -, -, rfl⟩ :=
    Diagram.build_eq_ok_iff.mp hbuild
  obtain ⟨e, -, h⟩ := exists_of_mem_mapM hnodes hn
  obtain ⟨defaults, hdefaults, h⟩ := bind_eq_ok.mp h
  obtain ⟨ports, -, h⟩ := bind_eq_ok.mp h
  obtain ⟨size, hsize, h⟩ := bind_eq_ok.mp h
  cases h
  cases hdefaults
  cases hsize
  exact ⟨rfl, rfl⟩

/-- What the template writes for a diagram. -/
theorem exists_each_of_textFor (hbuild : Diagram.build options g config.settings = .ok d)
    (hown : kebabHelper ∉ options.helpers.map Prod.fst) {own : List (String × Value)}
    (hvars : browserVariables d = .ok own) {disk : Disk} {content : String}
    (h : template.textFor disk d (own ++ [("strategy", .text "browser")]) = .ok content) :
    ∃ t, Each (Wrote config.styling.nodeDefaults.width config.styling.nodeDefaults.height)
      d.nodeTypes.zipIdx t ∧ content = modelText d.projectName t := by
  have hfree : ∀ n ∈ ["project_name", "node_types", kebabHelper],
      Entries.get? (own ++ [("strategy", Value.text "browser")]) n = none := by
    intro n hn
    refine Entries.get?_eq_none ?_
    rw [List.map_append, browserVariables_keys hvars]
    revert n
    decide
  generalize own ++ [("strategy", Value.text "browser")] = vars at h hfree
  obtain ⟨hproject, hnodes, hhelper⟩ :
      (bindings d vars).value "project_name" = .text d.projectName ∧
      (bindings d vars).value "node_types" = .tuple (d.nodeTypes.map NodeType.view) ∧
      (bindings d vars).value kebabHelper = .helper kebabHelper := by
    refine ⟨Scope.value_of_get? ?_, Scope.value_of_get? ?_, Scope.value_of_get? ?_⟩
    · rw [get?_bindings (by decide), hfree _ (by decide)]
      rfl
    · rw [get?_bindings (by decide), hfree _ (by decide)]
      rfl
    · rw [get?_bindings (by decide), hfree _ (by decide)]
      obtain ⟨h, hget⟩ := Diagram.exists_kebabHelper hbuild
      rw [hget]
      rfl
  refine (puts_template hproject hnodes hhelper (fun h hget ↦ ?_)
    (fun n hn ↦ (size_of_build hbuild hn).1) fun n hn ↦ (size_of_build hbuild hn).2).textFor h
  rw [helpers_hostOf] at hget
  exact Diagram.run_printed_kebabHelper hbuild hown hget

/-- The file of the sample model is what a job of its template has come to. -/
theorem exists_content {library : TemplateLibrary} {disk : Disk} {store : TemplateStore}
    {r : StrategyResult} {f : OutputFile} (hload : library.load disk "browser/sample-model" =
      .ok (joinStrings "\n" Builtin.Browser.sampleModel))
    (hstore : store.Sound (library.Reads disk))
    (hr : ((browserStrategy.render library disk d).run store).1 = .ok r) (hf : f ∈ r.files)
    (hpath : f.path.text = "browser/examples/sample-model.json") :
    ∃ own, browserVariables d = .ok own ∧
      template.textFor disk d (own ++ [("strategy", .text "browser")]) = .ok f.content := by
  obtain ⟨own, jobs, job, hown, hjobs, hjob, houtcome⟩ :=
    TemplateStrategy.exists_job_of_mem_files hstore hr hf
  obtain ⟨hjobPath, -, b, hb, hcontent⟩ := TemplateStrategy.outcome_eq_ok houtcome
  have houtput : job.output = "examples/sample-model.json" :=
    (String.append_right_inj "browser/").mp (hjobPath.symm.trans hpath)
  rcases hjobs with hfixed | helements
  · obtain ⟨t, ht, -, htemplate, hsame, hvars⟩ :=
      TemplateStrategy.exists_of_mem_fixedJobs hfixed hjob
    have hname : ∀ t ∈ browserStrategy.fixed, t.output = "examples/sample-model.json" →
        browserStrategy.qualified t.template = "browser/sample-model" := by decide
    rw [htemplate, hname t ht (hsame.symm.trans houtput)] at hb
    obtain ⟨source, hsource, hcompile⟩ := compileTemplate_eq_ok.mp hb
    cases hload.symm.trans hsource
    cases compile_sampleModel.symm.trans hcompile
    rw [hvars] at hcontent
    exact ⟨own, hown, hcontent⟩
  · -- the files for elements lie in another directory
    obtain ⟨e, -, t, ht, -, -, hfill, -⟩ :=
      TemplateStrategy.exists_of_mem_elementJobs helements hjob
    rw [fillPattern_of_framesKebab (framing_browser.frames t ht), houtput] at hfill
    have hfirst := congrArg (fun s ↦ s.toList.head?) (Except.ok.inj hfill)
    rw [framed, String.append_assoc] at hfirst
    simp at hfirst

/-- **The sample model is read as a node for each node type.** Take any grammar that is read from a
file, any configuration, and any helpers that leave the one for imports as it is. If a run of the
browser strategy renders the built-in template of the sample model, then the file is well-formed.
What is read of it has the node types as its children, in the order in which they are declared: each
with its type, with the dimensions that the configuration gives to nodes, and as far to the right as
the nodes before it and the gaps behind them take. -/
theorem read_content {file : Path} {bytes : List UInt8} {library : TemplateLibrary} {disk : Disk}
    {store : TemplateStore} {r : StrategyResult} {f : OutputFile}
    (hparse : Grammar.parseBytes file bytes = .ok g)
    (hbuild : Diagram.build options g config.settings = .ok d)
    (hown : kebabHelper ∉ options.helpers.map Prod.fst)
    (hload : library.load disk "browser/sample-model" =
      .ok (joinStrings "\n" Builtin.Browser.sampleModel))
    (hstore : store.Sound (library.Reads disk))
    (hr : ((browserStrategy.render library disk d).run store).1 = .ok r) (hf : f ∈ r.files)
    (hpath : f.path.text = "browser/examples/sample-model.json") :
    let defaults := config.styling.nodeDefaults
    Data.Json.read f.content.toList = .ok (.object [("id", .text (g.project ++ "-root")),
        ("type", .text "graph"), ("children", .list (d.nodeTypes.zipIdx.map fun x ↦
          x.1.sample (x.2 * (defaults.width + 40))))]) ∧
      (∀ n ∈ d.nodeTypes,
        n.size.width = .int defaults.width ∧ n.size.height = .int defaults.height) ∧
      d.nodeTypes.map (·.element) = d.elements.filter (·.isNode) ∧
      d.elements.map (·.name) = g.interfaceNames := by
  obtain ⟨own, hvars, hcontent⟩ := exists_content hload hstore hr hf hpath
  obtain ⟨t, hwritten, hcontent⟩ := exists_each_of_textFor hbuild hown hvars hcontent
  obtain ⟨hidentified, hproject⟩ := plainText_project hparse
  have hname : d.projectName = g.project := by
    obtain ⟨-, _, _, _, _, _, _, -, -, -, -, -, -, rfl⟩ := Diagram.build_eq_ok_iff.mp hbuild
    rfl
  have hnames : ∀ n ∈ d.nodeTypes, Grammar.IsName n.element.name := by
    intro n hn
    have hnode : n.element ∈ d.elements.filter (·.isNode) :=
      Diagram.nodeTypes_map_element hbuild ▸ List.mem_map_of_mem hn
    have hmem : n.element.name ∈ g.interfaceNames := by
      rw [← Diagram.elements_map_name hbuild]
      exact List.mem_map_of_mem (List.mem_of_mem_filter hnode)
    obtain ⟨i, hi, heq⟩ := List.mem_map.mp hmem
    exact heq ▸ (hidentified.interfaces i hi).name
  refine ⟨?_, fun n hn ↦ size_of_build hbuild hn, Diagram.nodeTypes_map_element hbuild,
    Diagram.elements_map_name hbuild⟩
  rw [hcontent, hname]
  exact read_modelText hproject (fun x hx ↦ hnames _ (List.fst_mem_of_mem_zipIdx hx))
    (fun x hx ↦ (size_of_build hbuild (List.fst_mem_of_mem_zipIdx hx)).1)
    (fun x hx ↦ (size_of_build hbuild (List.fst_mem_of_mem_zipIdx hx)).2) hwritten

end File

/-! ### A model of two nodes -/

/-- A file that declares two interfaces. -/
def shop : List UInt8 :=
  encodeUtf8 "interface Task\x7b\x7d interface Note\x7b\x7d".toList

/-- The grammar that is read of it. -/
def shopGrammar : Grammar where
  projectName := "shop"
  interfaces := [{ name := "Task" }, { name := "Note" }]
  sourcePath := some "shop.langium"

/-- The diagram of the grammar. -/
def shopDiagram : Diagram where
  projectName := "shop"
  grammar := shopGrammar
  elements := [.plain "Task", .plain "Note"]
  nodeTypes := [.plain "Task", .plain "Note"].map fun e ↦
    { element := e, shape := defaultShape e.name, size := ⟨.int 100, .int 60, .int 5⟩, ports := [] }
  edgeTypes := []
  ancestry := [("Task", []), ("Note", [])]
  features := []
  config := Imported.config.settings.entries
  generatedAt := ""
  helpers := Entries.merge builtinHelpers []
  partials := Entries.merge builtinPartials []

/-- A library of the template that is required and of the sample model. -/
def shopLibrary : TemplateLibrary :=
  .memory (.ofList [("browser/frontend-module", ""),
    ("browser/sample-model", joinStrings "\n" Builtin.Browser.sampleModel)])

theorem parse_shop : Grammar.parseBytes (.ofString "shop.langium") shop = .ok shopGrammar :=
  toOption_eq_some.mp (by decide +kernel)

theorem ancestry_shop : shopGrammar.ancestry = [("Task", []), ("Note", [])] := by
  simp [Grammar.ancestry, Grammar.ancestors, Grammar.ancestorsFrom, Grammar.supers,
    Grammar.superTypesOf?, Grammar.lastInterface?, Grammar.interfaceNames, shopGrammar,
    Entries.ofList, Entries.merge, Entries.set]

theorem build_shop :
    Diagram.build {} shopGrammar Imported.config.settings = .ok shopDiagram := by
  have hfeatures : (do (← Imported.config.settings.partAt ["diagram", "features"]).enabled) =
      .ok [] := toOption_eq_some.mp (by decide +kernel)
  refine Diagram.build_eq_ok_iff.mpr ⟨rfl, _, _, [.plain "Task", .plain "Note"], _, _, _, rfl,
    Requests.ofSettings_config _, ?_, rfl, rfl, hfeatures, ?_⟩
  · rw [ancestry_shop]
    rfl
  · rw [ancestry_shop]
    rfl

/-- The variables of the strategy. -/
def shopOwn : List (String × Value) := (browserVariables shopDiagram).toOption.getD []

/-- The jobs of the strategy. -/
def shopJobs : List Job :=
  let vars := shopOwn ++ [("strategy", .text "browser")]
  [⟨0, "browser/frontend-module", "frontend-module.ts", vars⟩,
    ⟨9, "browser/sample-model", "examples/sample-model.json", vars⟩]

theorem browserVariables_shop : browserVariables shopDiagram = .ok shopOwn := by
  have hvars : (browserVariables shopDiagram).toOption.isSome = true := by decide +kernel
  obtain ⟨own, hown⟩ := Option.isSome_iff_exists.mp hvars
  rw [shopOwn, hown]
  exact toOption_eq_some.mp hown

theorem outcomes_shop : ∀ job ∈ shopJobs,
    ∃ f, browserStrategy.outcome shopLibrary (.empty []) shopDiagram job = .ok f := by
  intro job hjob
  rcases List.mem_pair.mp hjob with rfl | rfl
  · exact ⟨_, rfl⟩
  · have hcompile : compileTemplate shopLibrary (.empty []) "browser/sample-model" = .ok template :=
      compileTemplate_eq_ok.mpr ⟨_, rfl, compile_sampleModel⟩
    have hsome : (template.textFor (.empty []) shopDiagram
        (shopOwn ++ [("strategy", .text "browser")])).toOption.isSome = true := by
      decide +kernel
    obtain ⟨content, hcontent⟩ := Option.isSome_iff_exists.mp hsome
    exact ⟨_, bind_eq_ok.mpr ⟨template, hcompile, bind_eq_ok.mpr
      ⟨content, mapError_eq_ok.mpr (toOption_eq_some.mp hcontent), rfl⟩⟩⟩

/-- There is a run with the sample model. -/
theorem exists_run_shop : ∃ r, ∃ f ∈ r.files,
    ((browserStrategy.render shopLibrary (.empty []) shopDiagram).run {}).1 = .ok r ∧
      f.path.text = "browser/examples/sample-model.json" := by
  have hjobs : browserStrategy.jobs shopLibrary (.empty []) shopDiagram = .ok shopJobs :=
    bind_eq_ok.mpr ⟨shopOwn, browserVariables_shop, rfl⟩
  obtain ⟨r, hr, herrors⟩ := TemplateStrategy.exists_render_unfailing
    TemplateStore.sound_empty rfl rfl hjobs rfl outcomes_shop
  obtain ⟨f, hf, hpath⟩ := TemplateStrategy.exists_fixedFile (t := ⟨"sample-model",
    "examples/sample-model.json", false, some "include_examples"⟩) TemplateStore.sound_empty hr
    herrors (by simp [browserStrategy]) rfl
  exact ⟨r, f, hf, hr, hpath⟩

/-- The two nodes are side by side. -/
theorem read_content_shop : Grammar.parseBytes (.ofString "shop.langium") shop = .ok shopGrammar ∧
    ∃ d r, Diagram.build {} shopGrammar Imported.config.settings = .ok d ∧
      ((browserStrategy.render shopLibrary (.empty []) d).run {}).1 = .ok r ∧
      ∃ f ∈ r.files, f.path.text = "browser/examples/sample-model.json" ∧
        Data.Json.read f.content.toList = .ok (.object [("id", .text "shop-root"),
          ("type", .text "graph"), ("children", .list [
            .object [("id", .text "task-1"), ("type", .text "node:task"),
              ("position", .object [("x", .int 0), ("y", .int 0)]),
              ("size", .object [("width", .int 100), ("height", .int 60)])],
            .object [("id", .text "note-1"), ("type", .text "node:note"),
              ("position", .object [("x", .int 140), ("y", .int 0)]),
              ("size", .object [("width", .int 100), ("height", .int 60)])]])]) := by
  obtain ⟨r, f, hf, hr, hpath⟩ := exists_run_shop
  have hread := read_content parse_shop build_shop List.not_mem_nil rfl TemplateStore.sound_empty hr
    hf hpath
  refine ⟨parse_shop, shopDiagram, r, build_shop, hr, f, hf, hpath, hread.1.trans ?_⟩
  rfl

end SampleModel

end DiagramForge
