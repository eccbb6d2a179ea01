import DiagramForge.Proofs.Grammar.InferredProperties
import DiagramForge.Proofs.Grammar.OptionalProperties
import DiagramForge.Proofs.Grammar.Insertion

/-!
# Rules that actions cut

A rule body is a text, then an action and a text, and so on to its end. The rule produces one type
for each of these texts, and a type has what is assigned in its text, as if this was a rule of its
own: `Rule.produced_stretches`.

Only whether a property is optional depends on more than its text, as the groups around an
assignment may begin in one text and end in another. The properties are therefore compared by what
else they say (`Property.required`).
-/

namespace DiagramForge

/-- A property as it is where it may not be absent. -/
def Property.required (p : Property) : Property :=
  { p with optional := false }

namespace Grammar

open Text

/-! ## What assignments say by themselves -/

/-- The property of an assignment, as it is where it may not be absent. -/
def Assignment.property (a : Assignment) (types : RuleTypes) : Property where
  name := a.feature
  type := a.type types
  optional := false
  array := a.operator = .append
  crossReference := a.isReference

theorem map_required_addProperty (ps : List Property) (p : Property) :
    (addProperty ps p).map (·.required) = addProperty (ps.map (·.required)) p.required := by
  have hknown : ((ps.map (·.required)).any fun q ↦ q.name == p.required.name) =
      ps.any fun q ↦ q.name == p.name := List.any_map
  rw [addProperty, addProperty, hknown]
  split
  · rw [List.map_map, List.map_map]
    refine List.map_congr_left ?_
    intro q _
    by_cases hname : q.name = p.name
    · simp [Property.required, hname]
    · simp [Property.required, hname]
  · rw [List.map_append, List.map_singleton]

/-- Apart from what may be absent, the properties of a segment are those of its assignments,
wherever these stand. -/
theorem map_required_segmentProperties (types : RuleTypes) (body : List Char) (s : Segment) :
    (segmentProperties types body s).map (·.required) =
      (((occurrences s.start s.text).map (·.assignment)).map (·.property types)).foldl
        addProperty [] := by
  have hstep : ∀ (os : List Occurrence) (ps : List Property),
      ((os.map fun o ↦ o.property types body).foldl addProperty ps).map (·.required) =
        ((os.map (·.assignment)).map (·.property types)).foldl addProperty
          (ps.map (·.required)) := by
    intro os
    induction os with
    | nil =>
      intro ps
      rfl
    | cons o os ih =>
      intro ps
      simp only [List.map_cons, List.foldl_cons]
      rw [ih, map_required_addProperty]
      rfl
  rw [segmentProperties_eq]
  exact hstep _ []

/-- The same assignments are read wherever the text begins. -/
theorem map_assignment_occurrences (i j : Nat) (cs : List Char) :
    (occurrences i cs).map (·.assignment) = (occurrences j cs).map (·.assignment) := by
  induction cs using occurrences_cases generalizing i j with
  | nil => rw [occurrences, occurrences]
  | some cs a after hread ih =>
    have hlt := length_lt_of_assignment? hread
    rw [occurrences_of_some hread hlt, occurrences_of_some hread hlt, List.map_cons, List.map_cons,
      ih]
  | none d cs hread ih =>
    rw [occurrences_of_none hread, occurrences_of_none hread, ih]

/-- The properties of a segment and those of its text alone. -/
theorem map_required_segmentProperties_eq (types : RuleTypes) (body body' : List Char)
    {s s' : Segment} (htext : s.text = s'.text) :
    (segmentProperties types body s).map (·.required) =
      (segmentProperties types body' s').map (·.required) := by
  rw [map_required_segmentProperties, map_required_segmentProperties, htext,
    map_assignment_occurrences s.start s'.start]

/-! ## Bodies that actions cut -/

/-- An action, and a text without further ones. -/
structure Stretch where
  /-- The text of the action. -/
  opening : List Char
  /-- The action. -/
  action : Action
  /-- The text is that of the action. -/
  reads : action? opening = some (action, [])
  /-- The text behind the action. -/
  text : List Char
  /-- No action begins in it. -/
  brace : '{' ∉ text

/-- The characters of a stretch. -/
def Stretch.chars (s : Stretch) : List Char :=
  s.opening ++ s.text

/-- The segments of a body, of which the first one begins at an offset: each of the others begins
behind its action. -/
def placed (action : Option Action) (start : Nat) (text : List Char) : List Stretch → List Segment
  | [] => [⟨action, start, text⟩]
  | s :: more =>
    ⟨action, start, text⟩ ::
      placed (some s.action) (start + text.length + s.opening.length) s.text more

section placed

variable {action : Option Action} {start : Nat} {text : List Char} {stretches : List Stretch}
  {s : Segment}

/-- The parts of a body are put together to its texts. -/
theorem segmentsFrom_stretches (action : Option Action) (start : Nat) (hbrace : '{' ∉ text)
    (stretches : List Stretch) :
    segmentsFrom ⟨action, start, []⟩ start (bodyParts (text ++ stretches.flatMap Stretch.chars)) =
      placed action start text stretches := by
  induction stretches generalizing action start text with
  | nil =>
    rw [List.flatMap_nil, bodyParts_append_of_unread (unread_action? hbrace _), bodyParts_nil,
      segmentsFrom_chars, segmentsFrom, List.append_nil, List.reverse_reverse, placed]
  | cons s more ih =>
    have hread : action? (s.opening ++ (s.text ++ more.flatMap Stretch.chars)) =
        some (s.action, s.text ++ more.flatMap Stretch.chars) :=
      endsWith_action?.append s.reads _
    rw [bodyParts_append_of_unread (unread_action? hbrace _), List.flatMap_cons, Stretch.chars,
      List.append_assoc, bodyParts_of_some hread, segmentsFrom_chars, segmentsFrom,
      List.length_append, Nat.add_sub_cancel, ih _ _ s.brace, List.append_nil,
      List.reverse_reverse, placed]

theorem map_placed (action : Option Action) (start : Nat) (text : List Char)
    (stretches : List Stretch) :
    (placed action start text stretches).map (fun s ↦ (s.action, s.text)) =
      (action, text) :: stretches.map fun s ↦ (some s.action, s.text) := by
  induction stretches generalizing action start text with
  | nil => rfl
  | cons s more ih => rw [placed, List.map_cons, ih, List.map_cons]

/-- A segment begins where its text does. -/
theorem exists_of_mem_placed (hs : s ∈ placed action start text stretches) :
    ∃ pre post, text ++ stretches.flatMap Stretch.chars = pre ++ (s.text ++ post) ∧
      s.start = start + pre.length := by
  induction stretches generalizing action start text with
  | nil =>
    obtain rfl := List.mem_singleton.mp hs
    exact ⟨[], [], rfl, rfl⟩
  | cons c more ih =>
    rw [placed, List.mem_cons] at hs
    rcases hs with rfl | hs
    · exact ⟨[], _, rfl, rfl⟩
    · obtain ⟨pre, post, hsplit, hstart⟩ := ih hs
      refine ⟨text ++ (c.opening ++ pre), post, ?_, ?_⟩
      · rw [List.flatMap_cons, Stretch.chars, List.append_assoc, hsplit]
        simp only [List.append_assoc]
      · rw [hstart, List.length_append, List.length_append]
        omega

/-- A segment ends before the next one begins. -/
theorem pairwise_placed (action : Option Action) (start : Nat) (text : List Char)
    (stretches : List Stretch) :
    (placed action start text stretches).Pairwise fun s s' ↦
      s.start + s.text.length ≤ s'.start := by
  induction stretches generalizing action start text with
  | nil => exact List.pairwise_singleton _ _
  | cons c more ih =>
    rw [placed, List.pairwise_cons]
    refine ⟨?_, ih _ _ _⟩
    intro s hs
    obtain ⟨pre, post, -, hstart⟩ := exists_of_mem_placed hs
    dsimp only
    omega

/-- A segment ends before an action or begins behind it. -/
theorem le_or_le_of_mem_placed {done more : List Stretch} {c : Stretch}
    (hsplit : stretches = done ++ c :: more) (hs : s ∈ placed action start text stretches) :
    s.start + s.text.length ≤ start + (text ++ done.flatMap Stretch.chars).length ∨
      start + (text ++ done.flatMap Stretch.chars).length + c.opening.length ≤ s.start := by
  subst hsplit
  induction done generalizing action start text with
  | nil =>
    rw [List.nil_append, placed, List.mem_cons] at hs
    rw [List.flatMap_nil, List.append_nil]
    rcases hs with rfl | hs
    · exact .inl le_rfl
    · obtain ⟨pre, post, -, hstart⟩ := exists_of_mem_placed hs
      rw [hstart]
      exact .inr (Nat.le_add_right _ _)
  | cons d done ih =>
    rw [List.cons_append, placed, List.mem_cons] at hs
    rw [List.flatMap_cons, Stretch.chars, List.length_append, List.length_append,
      List.length_append]
    rcases hs with rfl | hs
    · left
      dsimp only
      omega
    · have hplace := ih hs
      rw [List.length_append] at hplace
      omega

end placed

theorem brace_not_mem_of_mem_placed {action : Option Action} {start : Nat} {text : List Char}
    {stretches : List Stretch} {s : Segment} (hbrace : '{' ∉ text)
    (hs : s ∈ placed action start text stretches) : '{' ∉ s.text := by
  have htext : (s.action, s.text) ∈
      (action, text) :: stretches.map fun c ↦ (some c.action, c.text) := by
    rw [← map_placed action start text stretches]
    exact List.mem_map_of_mem hs
  rw [List.mem_cons, List.mem_map] at htext
  rcases htext with heq | ⟨c, -, heq⟩
  · rw [(Prod.mk.inj heq).2]
    exact hbrace
  · rw [← (Prod.mk.inj heq).2]
    exact c.brace

/-! ## What the texts produce -/

/-- The property that takes what a rule has produced before a segment. -/
def Segment.taking? (s : Segment) (target : String) : Option Property :=
  s.action.bind (·.property? target)

theorem Segment.properties_produced (s : Segment) (target : String) (types : RuleTypes)
    (body : List Char) : (s.produced target types body).properties =
      (s.taking? target).toList ++
        (segmentProperties types body s).filter fun q ↦
          (s.taking? target).all fun p ↦ q.name != p.name := by
  rw [produced, taking?]
  rcases s.action with _ | a
  · simp
  · rcases hcurrent : a.property? target with _ | p
    · simp [hcurrent]
    · simp [hcurrent]

/-- A type is what a segment produces. -/
structure Attributed (r : Rule) (types : RuleTypes) (s : Segment) (p : Produced) : Prop where
  /-- It is the type that the action before the segment names, or that of the rule. -/
  type : p.type = s.type r.target
  /-- It is known whether an action names it. -/
  fromAction : p.fromAction = s.action.isSome
  /-- Its properties are the one that takes what has been produced before, and those that a rule
  produces that has the text of the segment for its body, other than one of that name. -/
  properties : ∃ alone, { r with body := s.text }.produced types = [⟨r.target, alone, false⟩] ∧
    p.properties.map (·.required) =
      ((s.taking? r.target).toList ++
        alone.filter fun q ↦ (s.taking? r.target).all fun p ↦ q.name != p.name).map (·.required)
  /-- Each of the others is made by an assignment in the segment. -/
  assigned : ∀ q ∈ p.properties, s.taking? r.target = some q ∨
    ∃ o ∈ occurrences s.start s.text, o.assignment.feature = q.name

/-- A property of a segment is made by an assignment in it. -/
theorem exists_of_mem_segmentProperties {types : RuleTypes} {body : List Char} {s : Segment}
    {q : Property} (hq : q ∈ segmentProperties types body s) :
    ∃ o ∈ occurrences s.start s.text, o.assignment.feature = q.name := by
  have hname : q.name ∈ (segmentProperties types body s).map (·.name) := List.mem_map_of_mem hq
  rw [(records_segmentProperties types body s).names, List.mem_eraseDups, Segment.assigned,
    List.map_map, List.mem_map] at hname
  exact hname

/-- A choice by names does not ask what may be absent. -/
theorem map_required_filter (ps : List Property) (keeps : String → Bool) :
    (ps.filter fun q ↦ keeps q.name).map (·.required) =
      (ps.map (·.required)).filter fun q ↦ keeps q.name := by
  rw [List.filter_map]
  rfl

theorem attributed_produced {r : Rule} (types : RuleTypes) (body : List Char) {s : Segment}
    (hbrace : '{' ∉ s.text) : Attributed r types s (s.produced r.target types body) := by
  have halone : { r with body := s.text }.produced types =
      [⟨r.target, segmentProperties types s.text ⟨none, 0, s.text⟩, false⟩] := by
    refine Rule.produced_of_no_action types ?_
    intro u hu
    by_cases hne : u = []
    · rw [hne]
      rfl
    · have hnone := unread_action? hbrace [] u hu hne
      rwa [List.append_nil] at hnone
  have hsame : (segmentProperties types body s).map (·.required) =
      (segmentProperties types s.text ⟨none, 0, s.text⟩).map (·.required) :=
    map_required_segmentProperties_eq types body s.text rfl
  constructor
  · exact s.type_produced r.target types body
  · exact s.fromAction_produced r.target types body
  · refine ⟨_, halone, ?_⟩
    have hkept (ps : List Property) := map_required_filter ps fun name ↦
      (s.taking? r.target).all fun p ↦ name != p.name
    rw [s.properties_produced, List.map_append, List.map_append, hkept, hkept, hsame]
  · intro q hq
    rw [s.properties_produced, List.mem_append, Option.mem_toList] at hq
    rcases hq with htaking | hq
    · exact .inl htaking
    · exact .inr (exists_of_mem_segmentProperties (List.mem_of_mem_filter hq))

/-- **A rule produces a type for each text between its actions.** The body is a first text without
braces, and stretches of an action and a text without braces. Then the rule produces one type more
than it has actions, in their order: first its own, and for each action the one that the action
names. A type has the feature of its action, which is of the type of the rule, and the properties
that its text makes as a rule of its own, other than one of that name.

An assignment is read from one text only. It stands in the text, so it does not reach over an action
or into one, and the assignments of a type end before those of the next one begin. -/
theorem Rule.produced_stretches {r : Rule} (types : RuleTypes) {first : List Char}
    {stretches : List Stretch} (hbrace : '{' ∉ first)
    (hbody : r.body = first ++ stretches.flatMap Stretch.chars) :
    (r.produced types).length = stretches.length + 1 ∧
    ∃ ss, segments (bodyParts r.body) = ss ∧
      ss.map (fun s ↦ (s.action, s.text)) =
        (none, first) :: stretches.map (fun c ↦ (some c.action, c.text)) ∧
      List.Forall₂ (Attributed r types) ss (r.produced types) ∧
      (∀ s ∈ ss, ∀ o ∈ occurrences s.start s.text, ∃ pre taken post,
        r.body = pre ++ (taken ++ post) ∧ o.start = pre.length ∧ o.stop = o.start + taken.length ∧
          taken ≠ [] ∧ taken <:+: s.text) ∧
      (∀ done c more, stretches = done ++ c :: more → ∀ s ∈ ss, ∀ o ∈ occurrences s.start s.text,
        o.stop ≤ (first ++ done.flatMap Stretch.chars).length ∨
          (first ++ done.flatMap Stretch.chars).length + c.opening.length ≤ o.start) ∧
      ss.Pairwise fun s s' ↦ ∀ o ∈ occurrences s.start s.text,
        ∀ o' ∈ occurrences s'.start s'.text, o.stop ≤ o'.start := by
  have hsegments : segments (bodyParts r.body) = placed none 0 first stretches := by
    rw [hbody]
    exact segmentsFrom_stretches none 0 hbrace stretches
  have hmap := map_placed none 0 first stretches
  have hplace : ∀ s : Segment, ∀ o ∈ occurrences s.start s.text,
      s.start ≤ o.start ∧ o.stop ≤ s.start + s.text.length := by
    intro s o ho
    obtain ⟨pre, taken, post, htext, hstart, hstop, -⟩ := exists_of_mem_occurrences ho
    rw [htext, List.length_append, List.length_append]
    omega
  refine ⟨?_, placed none 0 first stretches, hsegments, hmap, ?_, ?_, ?_, ?_⟩
  · have hlength := congrArg List.length hmap
    rw [List.length_map, List.length_cons, List.length_map] at hlength
    rw [produced, List.length_map, hsegments, hlength]
  · rw [produced, hsegments, List.forall₂_map_right_iff, List.forall₂_same]
    intro s hs
    exact attributed_produced types _ (brace_not_mem_of_mem_placed hbrace hs)
  · intro s hs o ho
    obtain ⟨before, behind, hsplit, hstart⟩ := exists_of_mem_placed hs
    obtain ⟨pre, taken, post, htext, hstart', hstop, hread⟩ := exists_of_mem_occurrences ho
    refine ⟨before ++ pre, taken, post ++ behind, ?_, ?_, hstop, ?_, pre, post, ?_⟩
    · rw [hbody, hsplit, htext]
      simp only [List.append_assoc]
    · rw [hstart', hstart, List.length_append, Nat.zero_add]
    · rintro rfl
      exact absurd (length_lt_of_assignment? hread) (lt_irrefl _)
    · rw [htext, List.append_assoc]
  · intro done c more hstretches s hs o ho
    obtain ⟨hstart, hstop⟩ := hplace s o ho
    have hapart := le_or_le_of_mem_placed hstretches hs
    omega
  · refine (pairwise_placed none 0 first stretches).imp ?_
    intro s s' hle o ho o' ho'
    exact (hplace s o ho).2.trans (hle.trans (hplace s' o' ho').1)

/-- A rule with two actions, of which the first one takes what has been produced before and the
second one does not. A group reaches over the second one. -/
def chained : Rule where
  name := "Sum"
  returns := none
  annotations := []
  body := "left=ID (\x7binfer Plus.left=current\x7d left=[Term] op+='+' \x7bTwice\x7d op=ID)?".toList

/-- What stands behind the actions of that rule. -/
def chainedStretches : List Stretch :=
  [{ opening := "\x7binfer Plus.left=current\x7d".toList
     action := ⟨"Plus", some ("left", false)⟩
     reads := rfl
     text := " left=[Term] op+='+' ".toList
     brace := by decide },
    { opening := "\x7bTwice\x7d".toList
      action := ⟨"Twice", none⟩
      reads := rfl
      text := " op=ID)?".toList
      brace := by decide }]

/-- The feature of the action replaces what its text assigns under the same name. -/
theorem Rule.produced_stretches_chained :
    '{' ∉ "left=ID (".toList ∧
    chained.body = "left=ID (".toList ++ chainedStretches.flatMap Stretch.chars ∧
    (chained.produced ⟨[("ID", "string")], []⟩).length = 3 ∧
    List.Forall₂ (Attributed chained ⟨[("ID", "string")], []⟩) (segments (bodyParts chained.body))
      (chained.produced ⟨[("ID", "string")], []⟩) ∧
    (chained.produced ⟨[("ID", "string")], []⟩).map (fun p ↦ (p.type, p.properties)) =
      [("Sum", [⟨"left", "string", false, false, false⟩]),
        ("Plus", [⟨"left", "Sum", false, false, false⟩, ⟨"op", "string", false, true, false⟩]),
        ("Twice", [⟨"op", "string", true, false, false⟩])] := by
  have hbrace : '{' ∉ "left=ID (".toList := by decide
  have hbody : chained.body = "left=ID (".toList ++ chainedStretches.flatMap Stretch.chars := by
    decide +kernel
  obtain ⟨hlength, ss, rfl, -, hattributed, -⟩ :=
    Rule.produced_stretches (r := chained) ⟨[("ID", "string")], []⟩ hbrace hbody
  refine ⟨hbrace, hbody, hlength, hattributed, ?_⟩
  decide +kernel

end Grammar

end DiagramForge
