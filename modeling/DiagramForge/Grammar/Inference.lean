import DiagramForge.Grammar.Declaration

/-!
# Types inferred from parser rules

A parser rule without an explicit interface produces one: every assignment `feature=value` in the
rule is a property. An action such as `{infer Sum.left=current}` switches the type that the rest
of the rule produces, so a rule is first cut into the segments between its actions, each with the
type it produces, and the assignments of a segment belong to that type alone.

Whether a property is optional depends on the groups around its assignment, which may begin in one
segment and end in another. Actions are therefore blanked instead of cut out, and segments keep
their offsets in the body.
-/

namespace DiagramForge.Grammar

open Text

/-! ## Actions -/

/-- An action in a rule body. -/
structure Action where
  /-- The type that the rest of the rule produces. -/
  type : String
  /-- The feature that takes what the rule has produced so far, and whether it holds a sequence. -/
  feature : Option (String × Bool)

/-- Reads the assignment `.feature=current` of an action. -/
def currentFeature? (cs : List Char) : Option ((String × Bool) × List Char) :=
  ((mark? '.' cs).bind fun cs ↦ ident? (trimLeft cs)).bind fun (name, cs) ↦
    let cs := trimLeft cs
    let operator := match after? ['+', '='] cs with
      | some rest => some (true, rest)
      | none => (after? ['='] cs).map (false, ·)
    operator.bind fun (appends, cs) ↦
      (after? "current".toList (trimLeft cs)).map fun rest ↦ ((String.ofList name, appends), rest)

/-- Reads the part of an action after the word `infer`, up to its closing brace. -/
def actionBody? (cs : List Char) : Option (Action × List Char) :=
  (ident? cs).bind fun (type, cs) ↦
    let type := String.ofList type
    match (currentFeature? cs).bind fun (feature, cs) ↦
        (mark? '}' cs).map fun rest ↦ (⟨type, some feature⟩, rest) with
    | some r => some r
    | none => (mark? '}' cs).map fun rest ↦ (⟨type, none⟩, rest)

/-- Reads an action. -/
def action? (cs : List Char) : Option (Action × List Char) :=
  (after? ['{'] cs).bind fun cs ↦
    (optionally (keyword? "infer") (trimLeft cs)).findSome? fun (_, cs) ↦ actionBody? cs

/-- An action takes something from the text; a reading that did not would be none. -/
def actionIn? (cs : List Char) : Option (Action × { rest : List Char // rest.length < cs.length }) :=
  (action? cs).bind fun (a, rest) ↦
    if h : rest.length < cs.length then some (a, ⟨rest, h⟩) else none

/-- A part of a rule body: a character outside actions, or an action with its width. -/
inductive BodyPart where
  /-- A character outside actions. -/
  | char (c : Char)
  /-- An action and the number of characters it takes. -/
  | action (a : Action) (width : Nat)

/-- The parts of a rule body. -/
def bodyParts (cs : List Char) : List BodyPart :=
  match cs with
  | [] => []
  | c :: rest =>
    match actionIn? (c :: rest) with
    | some (a, ⟨after, _⟩) => .action a ((c :: rest).length - after.length) :: bodyParts after
    | none => .char c :: bodyParts rest
termination_by cs.length
decreasing_by
  · assumption
  · simp

/-- The number of characters a part takes. -/
def BodyPart.width : BodyPart → Nat
  | char _ => 1
  | action _ width => width

/-- A part with its action blanked. -/
def BodyPart.blank : BodyPart → List Char
  | char c => [c]
  | action _ width => List.replicate width ' '

/-- A stretch of a rule body without actions. -/
structure Segment where
  /-- The action that the segment follows, if any. -/
  action : Option Action
  /-- The offset of the segment in the body. -/
  start : Nat
  /-- The text of the segment. -/
  text : List Char

/-- The segments of a body, the current one being given with its text so far, last character
first. -/
def segmentsFrom (current : Segment) (offset : Nat) : List BodyPart → List Segment
  | [] => [{ current with text := current.text.reverse }]
  | .char c :: parts =>
    segmentsFrom { current with text := c :: current.text } (offset + 1) parts
  | .action a width :: parts =>
    { current with text := current.text.reverse }
      :: segmentsFrom ⟨some a, offset + width, []⟩ (offset + width) parts

/-- The segments between the actions of a body. -/
def segments (parts : List BodyPart) : List Segment :=
  segmentsFrom ⟨none, 0, []⟩ 0 parts

/-! ## Assignments -/

/-- How a value is assigned to a feature. -/
inductive Operator where
  /-- The feature is set. -/
  | set
  /-- The value is appended to the feature. -/
  | append
  /-- The feature records whether the value is there. -/
  | present
deriving DecidableEq

/-- What is assigned to a feature. -/
inductive AssignedValue where
  /-- A reference to an element of a type. -/
  | reference (type : String)
  /-- A keyword, or a group of alternatives. -/
  | keyword
  /-- The result of a rule or terminal. -/
  | call (name : String)

/-- An assignment in a rule body. -/
structure Assignment where
  /-- The feature assigned to. -/
  feature : String
  /-- How it is assigned. -/
  operator : Operator
  /-- What is assigned. -/
  value : AssignedValue

/-- Reads the operator of an assignment. -/
def operator? (cs : List Char) : Option (Operator × List Char) :=
  match after? ['+', '='] cs with
  | some rest => some (.append, rest)
  | none =>
    match after? ['?', '='] cs with
    | some rest => some (.present, rest)
    | none => (after? ['='] cs).map (.set, ·)

/-- Reads a reference `[Type]` or `[Type:Terminal]` behind its opening bracket. -/
def reference? (cs : List Char) : Option (AssignedValue × List Char) :=
  let cs := trimLeft cs
  (ident? ((after? ['@'] cs).getD cs)).bind fun (type, cs) ↦
    let terminal := (mark? ':' cs).bind fun cs ↦ ident? (trimLeft cs)
    match terminal.bind fun (_, cs) ↦ mark? ']' cs with
    | some rest => some (.reference (String.ofList type), rest)
    | none => (mark? ']' cs).map fun rest ↦ (.reference (String.ofList type), rest)

/-- Reads what is assigned. -/
def value? (cs : List Char) : Option (AssignedValue × List Char) :=
  match cs with
  | '[' :: rest => reference? rest
  | '(' :: rest => some (.keyword, rest)
  | _ =>
    match literal? cs with
    | some (_, rest) => some (.keyword, rest)
    | none => (ident? cs).map fun (name, rest) ↦ (.call (String.ofList name), rest)

/-- Reads an assignment. -/
def assignment? (cs : List Char) : Option (Assignment × List Char) :=
  (ident? cs).bind fun (feature, cs) ↦
    (operator? (trimLeft cs)).bind fun (operator, cs) ↦
      (value? (trimLeft cs)).map fun (value, rest) ↦
        (⟨String.ofList feature, operator, value⟩, rest)

/-- An assignment with the offsets of its first character and of the character after it. -/
structure Occurrence where
  /-- The assignment. -/
  assignment : Assignment
  /-- The offset of its first character. -/
  start : Nat
  /-- The offset of the character after it. -/
  stop : Nat

/-- The assignments of a text that begins at an offset: at each place the first that can be read,
the next one being looked for behind it. -/
def occurrences (offset : Nat) (cs : List Char) : List Occurrence :=
  match cs with
  | [] => []
  | c :: rest =>
    match assignment? (c :: rest) with
    | some (a, after) =>
      if _h : after.length < (c :: rest).length then
        let stop := offset + ((c :: rest).length - after.length)
        ⟨a, offset, stop⟩ :: occurrences stop after
      else occurrences (offset + 1) rest
    | none => occurrences (offset + 1) rest
termination_by cs.length
decreasing_by
  · exact _h
  · exact Nat.lt_succ_self _
  · exact Nat.lt_succ_self _

/-! ## Optional assignments -/

/-- Whether a text begins, after blanks, with a cardinality that allows none. -/
def allowsNone (cs : List Char) : Bool :=
  match trimLeft cs with
  | c :: _ => c == '?' || c == '*'
  | [] => false

/-- The texts behind the groups that enclose the stretch from `start` to `stop`. `opened` holds the
offsets of the groups that are open, the innermost first. -/
def behindGroups (start stop : Nat) (quote : Option Char) (opened : List Nat) (offset : Nat) :
    List Char → List (List Char)
  | [] => []
  | c :: cs =>
    match quote with
    | some q => behindGroups start stop (if c == q then none else some q) opened (offset + 1) cs
    | none =>
      if isQuote c then behindGroups start stop (some c) opened (offset + 1) cs
      else if c == '(' then behindGroups start stop none (offset :: opened) (offset + 1) cs
      else if c == ')' then
        match opened with
        | [] => behindGroups start stop none [] (offset + 1) cs
        | open' :: opened =>
          let behind := behindGroups start stop none opened (offset + 1) cs
          if open' < start && stop ≤ offset then cs :: behind else behind
      else behindGroups start stop none opened (offset + 1) cs

/-- Whether an assignment may be left out: it, or a group around it, allows none. -/
def isOptionalAt (body : List Char) (start stop : Nat) : Bool :=
  allowsNone (body.drop stop) || (behindGroups start stop none [] 0 body).any allowsNone

/-! ## Properties -/

/-- What the names in a rule body stand for. -/
structure RuleTypes where
  /-- The types that terminals return. -/
  terminals : List (String × String)
  /-- The types that rules return, where a rule is declared to return another type than a
  primitive. -/
  rules : List (String × String)

/-- The type of the property that an assignment makes. -/
def Assignment.type (a : Assignment) (types : RuleTypes) : String :=
  match a.value with
  | .reference type => type
  | .keyword => if a.operator = .present then "boolean" else "string"
  | .call name =>
    if a.operator = .present then "boolean"
    else
      match Entries.get? types.terminals name with
      | some type => type
      | none => (Entries.get? types.rules name).getD name

/-- Whether an assignment refers to an element. -/
def Assignment.isReference (a : Assignment) : Bool :=
  match a.value with
  | .reference _ => true
  | _ => false

/-- The property that an assignment makes by itself. -/
def Occurrence.property (o : Occurrence) (types : RuleTypes) (body : List Char) : Property :=
  let array := o.assignment.operator = .append
  { name := o.assignment.feature
    type := o.assignment.type types
    optional :=
      o.assignment.operator = .present || (!array && isOptionalAt body o.start o.stop)
    array := array
    crossReference := o.assignment.isReference }

/-- Adds a property of an assignment: a feature assigned before keeps its first property, which
holds a sequence as soon as one assignment appends to it. -/
def addProperty (ps : List Property) (p : Property) : List Property :=
  if ps.any fun q ↦ q.name == p.name then
    ps.map fun q ↦ if q.name == p.name then { q with array := q.array || p.array } else q
  else ps ++ [p]

/-- The properties that the assignments of a segment make. -/
def segmentProperties (types : RuleTypes) (body : List Char) (s : Segment) : List Property :=
  (occurrences s.start s.text).foldl (fun ps o ↦ addProperty ps (o.property types body)) []

/-- The property that takes what a rule has produced so far. -/
def Action.property? (a : Action) (target : String) : Option Property :=
  a.feature.map fun (name, appends) ↦ ⟨name, target, false, appends, false⟩

/-- A type that a segment of a rule produces. -/
structure Produced where
  /-- The name of the type. -/
  type : String
  /-- Its properties. -/
  properties : List Property
  /-- Whether an action names the type. -/
  fromAction : Bool

/-- The type that a segment produces, in a rule that produces `target` before any action. -/
def Segment.produced (s : Segment) (target : String) (types : RuleTypes) (body : List Char) :
    Produced :=
  let assigned := segmentProperties types body s
  match s.action with
  | none => ⟨target, assigned, false⟩
  | some a =>
    match a.property? target with
    | none => ⟨a.type, assigned, true⟩
    | some p => ⟨a.type, p :: assigned.filter fun q ↦ q.name != p.name, true⟩

/-- The types that a rule produces, in the order of its segments. -/
def Rule.produced (r : Rule) (types : RuleTypes) : List Produced :=
  let parts := bodyParts r.body
  let body := parts.flatMap BodyPart.blank
  (segments parts).map fun s ↦ s.produced r.target types body

/-- Whether a rule body is a list of alternatives, each of them a name or a literal. -/
def isAlternatives (body : List Char) : Bool :=
  let members := (fields (· == '|') body).map trim
  members.length > 1 && members.all fun m ↦ isIdent m || (literalContents? m).isSome

end DiagramForge.Grammar
