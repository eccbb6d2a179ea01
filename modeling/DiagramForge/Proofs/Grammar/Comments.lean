import DiagramForge.Proofs.Grammar.CommentedInterfaces
import DiagramForge.Proofs.Grammar.DistinctNames
import Mathlib.Data.List.Infix

/-!
# Line comments in bodies

What a line comment does at the end of a line in the body of an interface or of a rule:
`parse_commented`. An interface is not read any more, and the grammar with it. A rule is read, and the
grammar is the same, if the comment is passed over: the rule is a fragment, or it is not read for the
types that it produces, or nothing of the comment is read with its body.

A rule of which something is read that stands in a comment is `assigned_in_comment`.
-/

namespace DiagramForge.Grammar

open Text

/-! ## Places -/

/-- The end of a line in a source, outside block comments, between `pre` and `post`: the scanner comes
to the declaration that it stands in. -/
structure LineEnd (pre post : List Char) where
  /-- The text up to the end of the line without block comments. -/
  before : List Char
  /-- The text behind the end of the line without block comments. -/
  behind : List Char
  /-- Block comments before the end of the line are closed before it. -/
  before_eq : blankComments pre = .ok before
  /-- Block comments behind it are closed. -/
  behind_eq : blankComments post = .ok behind
  /-- The declarations before the one that the line ends in. -/
  declared : List Declaration
  /-- The notes that have collected before that one. -/
  notes : Annotations
  /-- The text of that one up to the end of the line. -/
  start : List Char
  /-- The declaration that the line ends in. -/
  declaration : Declaration
  /-- What follows that one. -/
  after : List Char
  /-- The scanner comes there. -/
  scans : ScansTo [] (before ++ '\n' :: behind) declared notes (start ++ '\n' :: behind)
  /-- No blank and no comment is there. -/
  starts : ∃ d rest, start = d :: rest ∧ isBlank d = false ∧ d ≠ '/'
  /-- The declaration is read there. -/
  reads : Grammar.declaration notes (start ++ '\n' :: behind) = .ok (declaration, after)

namespace LineEnd

variable {pre post : List Char}

/-- The line ends in the body of an interface. -/
def InInterface (place : LineEnd pre post) : Prop :=
  (∃ i, place.declaration = .interface i) ∧
    ∃ name supers b, interfaceHead? place.start = some (name, supers, b) ∧ '}' ∉ b

/-- The line ends in the body of a rule, outside literals, with `b` before it and `y` behind. -/
structure InRule (place : LineEnd pre post) (b y : List Char) : Prop where
  /-- The body begins with `b`. -/
  head : ∃ head, ruleHead? place.start = some (head, b)
  /-- The line ends outside literals. -/
  outside : EndsOutside (b ++ ['\n'])
  /-- The body ends with `y`. -/
  statement : ∃ after, statement? .plain place.behind = some (y, after)

/-- A comment at the end of a line in a rule is passed over, in a text with the declarations `ds`. -/
inductive Passes (ds : List Declaration) (place : LineEnd pre post) (c : LineComment)
    (b y : List Char) : Prop where
  /-- The rule is a fragment. -/
  | fragment (h : place.declaration = .fragment) : Passes ds place c b y
  /-- The rule is not read for the types that it produces. -/
  | unread (r : Rule) (h : place.declaration = .rule r)
    (hreads : (contributed ds (ruleDeclarations place.declared)).reads
      ((explicitInterfaces ds).map (·.name)) (ruleTypes ds) r = false) : Passes ds place c b y
  /-- Nothing of the comment is read with the body. -/
  | ignored (r : Rule) (h : place.declaration = .rule r) (hignored : c.Ignored b ('\n' :: y)) :
    Passes ds place c b y

/-- The scanner comes to the declaration whatever follows the line. -/
theorem scans_commented (place : LineEnd pre post) {k : Char} (hk : Bar k)
    (hquote : isQuote k = false) {s b : List Char} (hstart : place.start = s ++ k :: b)
    (m : List Char) :
    ScansTo [] (place.before ++ m) place.declared place.notes (place.start ++ m) := by
  have hscans := place.scans
  rw [hstart] at hscans ⊢
  exact hscans.behind_bar hk hquote m

end LineEnd

/-! ## Grammars -/

theorem declarations_eq_ok_iff {cs text : List Char} {ds : List Declaration}
    (htext : blankComments cs = .ok text) : declarations cs = .ok ds ↔ scan [] text = .ok ds := by
  rw [declarations, htext]
  dsimp only
  cases scan [] text with
  | error fault => simp
  | ok ds' => exact ⟨fun h ↦ congrArg _ (Except.ok.inj h), fun h ↦ congrArg _ (Except.ok.inj h)⟩

theorem exists_of_toOption {ε α β : Type} {e : Except ε α} {f : α → β} {b : β}
    (h : e.toOption.map f = some b) : ∃ a, e = .ok a ∧ f a = b := by
  rcases e with fault | a
  · cases h
  · exact ⟨a, rfl, Option.some.inj h⟩

theorem parse_of_declarations {cs : List Char} {ds : List Declaration}
    (h : declarations cs = .ok ds) (projectName : String) (file : Option Path) :
    parse (String.ofList cs) projectName file = .ok (assemble projectName file ds) := by
  rw [parse, String.toList_ofList, h]

/-- If a rule adds the same with another body, the grammar is the same. -/
theorem assemble_body {before after ds ds' : List Declaration} {r : Rule} {body : List Char}
    (hds : ds = before ++ .rule r :: after)
    (hds' : ds' = before ++ .rule { r with body := body } :: after)
    (hadd : (contributed ds (ruleDeclarations before)).addRule ((explicitInterfaces ds).map (·.name))
        (ruleTypes ds) { r with body := body } =
      (contributed ds (ruleDeclarations before)).addRule ((explicitInterfaces ds).map (·.name))
        (ruleTypes ds) r) (projectName : String) (file : Option Path) :
    assemble projectName file ds' = assemble projectName file ds := by
  have hreplaced : OneReplaced (BodyReplaced r.body body) ds ds' := by
    rw [hds, hds']
    exact .replaced before after (.rule r rfl)
  have hinterfaces : explicitInterfaces ds = explicitInterfaces ds' :=
    hreplaced.filterMap_eq fun _ _ hd ↦ by cases hd <;> rfl
  have haliases : explicitAliases ds = explicitAliases ds' :=
    hreplaced.filterMap_eq fun _ _ hd ↦ by cases hd <;> rfl
  have hname : declaredName ds = declaredName ds' := by
    rw [declaredName, declaredName, hreplaced.filterMap_eq fun _ _ hd ↦ by cases hd <;> rfl]
  have hterminals : terminalTypes ds = terminalTypes ds' :=
    hreplaced.foldl_eq (fun _ _ hd _ ↦ by cases hd <;> rfl) _
  -- the rules differ in the body of one
  have hsplit : ∀ r, ruleDeclarations (before ++ .rule r :: after) =
      ruleDeclarations before ++ r :: ruleDeclarations after := by
    simp [ruleDeclarations]
  have hrules : OneReplaced (fun s s' ↦ s' = { s with body := body }) (ruleDeclarations ds)
      (ruleDeclarations ds') := by
    rw [hds, hds', hsplit, hsplit]
    exact .replaced _ _ rfl
  have htypes : ruleTypes ds = ruleTypes ds' := by
    rw [ruleTypes, ruleTypes, hterminals, hrules.filterMap_eq fun _ _ hr ↦ by rw [hr]]
  have hnames : (ruleDeclarations ds).map (·.name) = (ruleDeclarations ds').map (·.name) := by
    rw [← List.filterMap_eq_map, hrules.filterMap_eq fun _ _ hr ↦ by rw [hr]; rfl]
  have hcontributed : contributed ds (ruleDeclarations ds') =
      contributed ds (ruleDeclarations ds) := by
    rw [contributed] at hadd
    rw [contributed, contributed, hds', congrArg ruleDeclarations hds, hsplit, hsplit,
      List.foldl_append, List.foldl_append, List.foldl_cons, List.foldl_cons, hadd]
  rw [contributed, contributed] at hcontributed
  simp only [assemble, ← hinterfaces, ← haliases, ← hname, ← htypes, ← hnames, hcontributed]

/-! ## Texts -/

namespace LineEnd

variable {pre post : List Char} (place : LineEnd pre post) (c : LineComment)

include place in
/-- The text without block comments. -/
theorem blankComments_text :
    blankComments (pre ++ '\n' :: post) = .ok (place.before ++ '\n' :: place.behind) := by
  have hline : blankComments ('\n' :: post) = .ok ('\n' :: place.behind) :=
    blankCommentsFrom_cons (by decide) place.behind_eq 0
  exact blankCommentsFrom_append (by simp) hline place.before_eq

/-- The declarations before the one with the comment are read as before. -/
theorem scan_commented {k : Char} (hk : Bar k) (hquote : isQuote k = false) {s b : List Char}
    (hstart : place.start = s ++ k :: b) (m : List Char) :
    scan [] (place.before ++ m) =
      (scan place.notes (place.start ++ m)).map (place.declared ++ ·) :=
  (place.scans_commented hk hquote hstart m).scan_eq

/-- The declaration in which the line ends starts with what it started with. -/
theorem starts_commented (m : List Char) :
    ∃ d rest, place.start ++ m = d :: rest ∧ isBlank d = false ∧ d ≠ '/' := by
  obtain ⟨d, rest, hstart, hblank, hslash⟩ := place.starts
  exact ⟨d, rest ++ m, by rw [hstart, List.cons_append], hblank, hslash⟩

/-- The declarations of the text are those before the line, the one that the line ends in, and those
that follow. -/
theorem exists_declarations {k : Char} (hk : Bar k) (hquote : isQuote k = false) {s b : List Char}
    (hstart : place.start = s ++ k :: b) {ds : List Declaration}
    (hds : declarations (pre ++ '\n' :: post) = .ok ds) :
    ∃ more, scan [] place.after = .ok more ∧ ds = place.declared ++ place.declaration :: more := by
  rw [declarations_eq_ok_iff place.blankComments_text, place.scan_commented hk hquote hstart,
    scan_declaration (place.starts_commented _) place.reads] at hds
  obtain ⟨ds', hds', rfl⟩ := exists_of_map_eq_ok hds
  obtain ⟨more, hmore, rfl⟩ := exists_of_map_eq_ok hds'
  exact ⟨more, hmore, rfl⟩

/-- **An interface with a comment in its body is not read.** -/
theorem InInterface.not_parsed {place : LineEnd pre post} (h : place.InInterface)
    (projectName : String) (file : Option Path) (g : Grammar) :
    parse (String.ofList (pre ++ (c.chars ++ '\n' :: post))) projectName file ≠ .ok g := by
  obtain ⟨⟨i, hi⟩, name, supers, b, hhead, hopen⟩ := h
  obtain ⟨s, hs, -⟩ := endsWith_interfaceHead? _ _ _ (congrArg (Option.map _) hhead)
  have htext : ∀ m, place.start ++ m = s ++ '{' :: (b ++ m) := by simp [hs]
  have hread := place.reads
  rw [hi, htext] at hread
  -- with the comment the declaration is still taken for an interface
  obtain ⟨kind, hkind, hkinds, hothers⟩ := exists_kind_of_declaration bar_brace
    (referenceAt?_eq_none_of_declaration bar_brace rfl hread) hread
  obtain rfl := kind_of_interface kind hkind hkinds
  rw [← htext] at hkinds
  obtain ⟨fault, hfault⟩ := interfaceAt?_commented c hhead hopen hkinds
  have hdeclaration : Grammar.declaration place.notes
      (place.start ++ (c.chars ++ '\n' :: place.behind)) = .error fault := by
    rw [htext] at hfault ⊢
    exact hothers _ hfault
  have hscan := place.scan_commented bar_brace rfl hs (c.chars ++ '\n' :: place.behind)
  rw [scan_error (place.starts_commented _) hdeclaration] at hscan
  rw [parse, String.toList_ofList, declarations,
    c.blankComments_commented place.before_eq place.behind_eq]
  dsimp only
  rw [hscan]
  intro hg
  cases hg

/-- **A rule with a comment in its body that is passed over makes up the same grammar.** -/
theorem Passes.parsed {place : LineEnd pre post} {ds : List Declaration} {b y : List Char}
    (h : place.Passes ds c b y) (hplace : place.InRule b y)
    (hds : declarations (pre ++ '\n' :: post) = .ok ds) (projectName : String)
    (file : Option Path) :
    parse (String.ofList (pre ++ (c.chars ++ '\n' :: post))) projectName file =
      .ok (assemble projectName file ds) := by
  obtain ⟨⟨head, hhead⟩, houtside, after, hpost⟩ := hplace
  obtain ⟨s, hs, -⟩ := endsWith_ruleHead? _ _ _ hhead
  obtain ⟨more, hmore, hsplit⟩ := place.exists_declarations bar_colon rfl hs hds
  have hkind : place.declaration = .fragment ∨ ∃ r, place.declaration = .rule r := by
    rcases h with h | ⟨r, h, -⟩ | ⟨r, h, -⟩
    · exact .inl h
    · exact .inr ⟨r, h⟩
    · exact .inr ⟨r, h⟩
  obtain ⟨d, hread, hd⟩ := declaration_commented_rule c hhead houtside hpost hkind place.reads
  have hcommented : declarations (pre ++ (c.chars ++ '\n' :: post)) =
      .ok (place.declared ++ d :: more) := by
    rw [declarations_eq_ok_iff (c.blankComments_commented place.before_eq place.behind_eq),
      place.scan_commented bar_colon rfl hs, scan_declaration (place.starts_commented _) hread, hmore]
    rfl
  rw [parse_of_declarations hcommented, Except.ok.injEq]
  generalize hdeclaration : place.declaration = declaration at hd hsplit
  cases hd with
  | fragment => rw [hsplit]
  | rule r hbody =>
    refine assemble_body hsplit rfl (Contribution.addRule_body fun hreads ↦ ?_) projectName file
    cases h with
    | fragment h =>
      rw [h] at hdeclaration
      cases hdeclaration
    | unread r' h hunread =>
      rw [h, Declaration.rule.injEq] at hdeclaration
      rw [hdeclaration, hreads] at hunread
      cases hunread
    | ignored r' h hignored =>
      have hbreaks : Breaks ('\n' :: y) := breaks_cons (by decide)
      have hproduced := hignored.produced hbreaks r.name r.returns r.annotations (ruleTypes ds)
      rw [← hbody] at hproduced
      rw [hbody]
      exact ⟨hproduced, hignored.isAlternatives_commented⟩

end LineEnd

/-! ## Grammars with comments -/

/-- **What a line comment in a body does.** If a text is read as a grammar, then with a line comment at
the end of a line in the body of an interface it is not read, and with one at the end of a line in the
body of a rule it is read as the same grammar, if the comment is passed over. -/
theorem parse_commented (c : LineComment) {pre post : List Char} (place : LineEnd pre post)
    {projectName : String} {file : Option Path} {g : Grammar} {ds : List Declaration}
    (hds : declarations (pre ++ '\n' :: post) = .ok ds)
    (hg : parse (String.ofList (pre ++ '\n' :: post)) projectName file = .ok g) :
    (place.InInterface →
      ∀ g', parse (String.ofList (pre ++ (c.chars ++ '\n' :: post))) projectName file ≠ .ok g') ∧
    ∀ b y, place.InRule b y → place.Passes ds c b y →
      parse (String.ofList (pre ++ (c.chars ++ '\n' :: post))) projectName file = .ok g := by
  refine ⟨fun h ↦ h.not_parsed c projectName file, fun b y hplace hpasses ↦ ?_⟩
  rw [hpasses.parsed c hplace hds, parse_eq_ok (by rw [String.toList_ofList, hds]) hg]

theorem parse_commented_members :
    (∃ g, parse "interface S \x7b\n  a: ID\n\x7d" "" none = .ok g ∧
      ∀ g', parse "interface S \x7b\n  a: ID // the name\n\x7d" "" none ≠ .ok g') ∧
    ∃ g, parse "R: a=ID\n  b=INT;" "" none = .ok g ∧
      parse "R: a=ID\n  // the size\n  b=INT;" "" none = .ok g := by
  constructor
  · let c : LineComment := ⟨[' '], " the name".toList, rfl, by decide +kernel, by decide +kernel⟩
    have hread : (declaration [] ("interface S \x7b\n  a: ID".toList ++ '\n' :: "\x7d".toList)).toOption.map
        (fun r ↦ ((explicitInterfaces [r.1]).isEmpty, r.2)) = some (false, []) := by
      decide +kernel
    obtain ⟨⟨d, rest⟩, hread, hd⟩ := exists_of_toOption hread
    obtain ⟨hd, rfl⟩ := Prod.mk.inj hd
    have hds : (declarations ("interface S \x7b\n  a: ID".toList ++ '\n' :: "\x7d".toList)).toOption.map
        (fun _ ↦ ()) = some () := by
      decide +kernel
    obtain ⟨ds, hds, -⟩ := exists_of_toOption hds
    let place : LineEnd "interface S \x7b\n  a: ID".toList "\x7d".toList :=
      { before := "interface S \x7b\n  a: ID".toList
        behind := "\x7d".toList
        before_eq := by decide +kernel
        behind_eq := rfl
        declared := []
        notes := []
        start := "interface S \x7b\n  a: ID".toList
        declaration := d
        after := []
        scans := .refl _ _
        starts := ⟨'i', _, rfl, rfl, by decide⟩
        reads := hread }
    have hplace : place.InInterface := by
      have hhead : interfaceHead? "interface S \x7b\n  a: ID".toList =
          some ("S", [], "\n  a: ID".toList) := by
        decide +kernel
      refine ⟨?_, "S", [], _, hhead, by decide +kernel⟩
      change ∃ i, d = .interface i
      rcases d with _ | _ | _ | i | _ | _ | _
      case interface => exact ⟨i, rfl⟩
      all_goals cases hd
    have hg := parse_of_declarations hds "" none
    exact ⟨_, hg, (parse_commented c place hds hg).1 hplace⟩
  · let c : LineComment :=
      ⟨"\n  ".toList, " the size".toList, by decide +kernel, by decide +kernel, by decide +kernel⟩
    have hread : (declaration [] ("R: a=ID".toList ++ '\n' :: "  b=INT;".toList)).toOption.map
        (fun r ↦ ((ruleDeclarations [r.1]).isEmpty, r.2)) = some (false, []) := by
      decide +kernel
    obtain ⟨⟨d, rest⟩, hread, hd⟩ := exists_of_toOption hread
    obtain ⟨hd, rfl⟩ := Prod.mk.inj hd
    have hds : (declarations ("R: a=ID".toList ++ '\n' :: "  b=INT;".toList)).toOption.map
        (fun _ ↦ ()) = some () := by
      decide +kernel
    obtain ⟨ds, hds, -⟩ := exists_of_toOption hds
    let place : LineEnd "R: a=ID".toList "  b=INT;".toList :=
      { before := "R: a=ID".toList
        behind := "  b=INT;".toList
        before_eq := by decide +kernel
        behind_eq := by decide +kernel
        declared := []
        notes := []
        start := "R: a=ID".toList
        declaration := d
        after := []
        scans := .refl _ _
        starts := ⟨'R', _, rfl, rfl, by decide⟩
        reads := hread }
    have hplace : place.InRule " a=ID".toList "  b=INT".toList := by
      have hhead : (ruleHead? "R: a=ID".toList).map (·.2) = some " a=ID".toList := by decide +kernel
      obtain ⟨⟨head, b⟩, hhead, rfl⟩ := Option.map_eq_some_iff.mp hhead
      have hend : statement? .plain "  b=INT;".toList = some ("  b=INT".toList, []) := by
        decide +kernel
      exact ⟨⟨head, hhead⟩, by decide +kernel, [], hend⟩
    have hends : ∀ u ∈ " a=ID".toList.tails, u ≠ [] → ∀ r ∈ assignment? (u ++ "\n  b=INT".toList),
        "\n  b=INT".toList <:+ r.2 := by
      decide +kernel
    have hnone : ∀ u ∈ " the size".toList.tails, u ≠ [] →
        (assignment? (u ++ "\n  b=INT".toList)).isNone = true := by
      decide +kernel
    have hignored : c.Ignored " a=ID".toList ('\n' :: "  b=INT".toList) :=
      { actions := fun u hu hne r hr ↦ by
          have hunread : Unread action? " a=ID".toList "\n  b=INT".toList :=
            unread_action? (by decide +kernel) _
          exact absurd ((hunread u hu hne).symm.trans hr) (by simp)
        assignments := fun u hu hne ↦ hends u ((List.mem_tails u _).mpr hu) hne
        noAction := unread_action? (by decide +kernel) _
        noAssignment := fun u hu hne ↦
          Option.isNone_iff_eq_none.mp (hnone u ((List.mem_tails u _).mpr hu) hne)
        quotes := by decide +kernel
        opening := by decide +kernel
        closing := by decide +kernel
        cardinality := by decide +kernel
        alternatives := by decide +kernel }
    have hg := parse_of_declarations hds "" none
    refine ⟨_, hg, (parse_commented c place hds hg).2 _ _ hplace ?_⟩
    rcases d with _ | _ | _ | _ | _ | r | _
    case rule => exact .ignored r rfl hignored
    all_goals cases hd

/-- What a comment in a rule assigns is a property of the rule. -/
theorem assigned_in_comment :
    ∃ g g', parse "R: a=ID\n;" "" none = .ok g ∧ parse "R: a=ID // b=INT\n;" "" none = .ok g' ∧
      (g.interfaces.flatMap (·.properties)).map (·.name) = ["a"] ∧
      (g'.interfaces.flatMap (·.properties)).map (·.name) = ["a", "b"] := by
  have hread : (parse "R: a=ID\n;" "" none).toOption.map
      (fun g ↦ (g.interfaces.flatMap (·.properties)).map (·.name)) = some ["a"] := by
    decide +kernel
  have hread' : (parse "R: a=ID // b=INT\n;" "" none).toOption.map
      (fun g ↦ (g.interfaces.flatMap (·.properties)).map (·.name)) = some ["a", "b"] := by
    decide +kernel
  obtain ⟨g, hg, hnames⟩ := exists_of_toOption hread
  obtain ⟨g', hg', hnames'⟩ := exists_of_toOption hread'
  exact ⟨g, g', hg, hg', hnames, hnames'⟩

end DiagramForge.Grammar
