import DiagramForge.Grammar.Basic
import DiagramForge.Grammar.Lexeme

/-!
# Declarations of a grammar

A grammar text is a sequence of declarations between blanks and line comments. `scan` cuts the
text into them; what they mean together is settled by `Grammar.assemble`.

A declaration is recognised by how it begins, the kinds being tried in a fixed order, so that
`grammar`, `interface` or `terminal` may still name a parser rule. Once its beginning is
recognised, a declaration that turns out to be malformed is a fault at a definite place of the
text.

## Notes

A line comment `// @key value` is a note. Notes collect until the next declaration, which they are
attached to, or until a blank line, which discards them.
-/

namespace DiagramForge.Grammar

open Text

/-! ## What is declared -/

/-- A parser rule. -/
structure Rule where
  /-- The name of the rule. -/
  name : String
  /-- The type it is declared to return. -/
  returns : Option String
  /-- The definition between the colon and the semicolon. -/
  body : List Char
  /-- The notes attached to it. -/
  annotations : Annotations

/-- The type that a rule produces before any action. -/
def Rule.target (r : Rule) : String :=
  r.returns.getD r.name

/-- A declaration of a grammar text. -/
inductive Declaration where
  /-- The name of the grammar. -/
  | header (name : String)
  /-- Another grammar that is referred to; it is not read. -/
  | reference
  /-- A terminal with the type it is declared to return. -/
  | terminal (name : String) (returns : Option String)
  /-- An interface. -/
  | interface (i : Interface)
  /-- A type alias. -/
  | alias (t : TypeAlias)
  /-- A parser rule. -/
  | rule (r : Rule)
  /-- A parser rule that only other rules use and that produces no type. -/
  | fragment

/-! ## What can be wrong -/

/-- Why a grammar text cannot be read. -/
inductive ScanFault where
  /-- A block comment without an end. -/
  | unterminatedComment
  /-- Text that begins no declaration. -/
  | unexpectedInput (start : List Char)
  /-- An interface whose body has no end, or a brace inside. -/
  | unbalancedBraces (interface : String)
  /-- A line of an interface that declares no property. -/
  | invalidProperty (interface : String) (line : List Char)
  /-- A property whose type is a union that does not consist of literals. -/
  | inlineUnion (interface property : String) (type : List Char)
  /-- A property whose type is not a name. -/
  | invalidType (interface property : String) (type : List Char)
  /-- An alias that stands for nothing. -/
  | emptyAlias (name : String)
  /-- A statement without an end. -/
  | missingSemicolon

/-- The wording of a fault. -/
def ScanFault.message : ScanFault → String
  | unterminatedComment => "Unterminated block comment"
  | unexpectedInput start => "Unexpected input: " ++ quoted (String.ofList start)
  | unbalancedBraces interface => "Unbalanced braces in interface '" ++ interface ++ "'"
  | invalidProperty interface line =>
    "Invalid property declaration in interface '" ++ interface ++ "': "
      ++ quoted (String.ofList line)
  | inlineUnion interface property type =>
    "Inline union '" ++ String.ofList type ++ "' on " ++ interface ++ "." ++ property
      ++ " is not supported; declare a type alias"
  | invalidType interface property type =>
    "Invalid type '" ++ String.ofList type ++ "' for property " ++ interface ++ "." ++ property
  | emptyAlias name => "Type '" ++ name ++ "' has an empty definition"
  | missingSemicolon => "Missing ';' at end of statement"

/-- A fault with its place, given as the number of characters from there to the end of the text:
while a text is read from the front, the rest of it knows its own length, but not its offset. -/
structure Located where
  /-- What is wrong. -/
  fault : ScanFault
  /-- The number of characters from the place of the fault to the end of the text. -/
  remaining : Nat

/-- The result of reading a declaration: what was read, or a fault; nothing if the text does not
begin with a declaration of the kind. -/
abbrev Reading (α : Type) := Option (Except Located (α × List Char))

/-! ## Notes -/

/-- The note in a line comment, if the comment is one. -/
def note? (comment : List Char) : Option (String × String) :=
  match trim comment with
  | '@' :: cs =>
    let key := cs.takeWhile isWordChar
    match blanks? (cs.dropWhile isWordChar) with
    | some (c :: value) =>
      if key.isEmpty then none
      else some (String.ofList key, String.ofList (c :: value))
    | _ => none
  | _ => none

/-- The notes after a line comment. -/
def addNote (notes : Annotations) (comment : List Char) : Annotations :=
  match note? comment with
  | some (key, value) => Entries.set notes key value
  | none => notes

/-- Whether the line that a text begins with is blank and ended by a line feed. -/
def startsWithBlankLine (cs : List Char) : Bool :=
  match splitFirst? ['\n'] cs with
  | some (line, _) => allBlank line
  | none => false

/-! ## Statements -/

/-- Where in a statement a character stands. -/
inductive StatementMode where
  /-- Outside literals and comments. -/
  | plain
  /-- Inside a literal. -/
  | quoted (quote : Char)
  /-- Inside a line comment. -/
  | comment

/-- Where the character after `c` stands, if `c` stands outside literals and comments and `cs`
follows it. -/
def modeAfter (c : Char) (cs : List Char) : StatementMode :=
  if isQuote c then .quoted c
  else if c == '/' && cs.head? == some '/' then .comment
  else .plain

/-- What a statement holds up to its semicolon, and what follows it. Semicolons in literals and
line comments do not end it, and in a literal a backslash takes the next character's meaning
away. -/
def statement? : StatementMode → List Char → Option (List Char × List Char)
  | _, [] => none
  | .comment, c :: cs =>
    (statement? (if c == '\n' then .plain else .comment) cs).map fun (s, rest) ↦ (c :: s, rest)
  | .quoted q, '\\' :: c :: cs =>
    (statement? (.quoted q) cs).map fun (s, rest) ↦ ('\\' :: c :: s, rest)
  | .quoted q, c :: cs =>
    (statement? (if c == q then .plain else .quoted q) cs).map fun (s, rest) ↦ (c :: s, rest)
  | .plain, c :: cs =>
    if c == ';' then some ([], cs)
    else (statement? (modeAfter c cs) cs).map fun (s, rest) ↦ (c :: s, rest)

theorem length_lt_of_statement? {mode : StatementMode} {cs s rest : List Char}
    (h : statement? mode cs = some (s, rest)) : rest.length < cs.length := by
  fun_induction statement? mode cs generalizing s with
  | case1 => cases h
  | case5 =>
    simp only [Option.some.injEq, Prod.mk.injEq] at h
    simp [← h.2]
  | case2 _ _ ih | case3 _ _ _ ih | case4 _ _ _ _ ih | case6 _ _ _ ih =>
    obtain ⟨r, hr, heq⟩ := Option.map_eq_some_iff.1 h
    simp only [Prod.mk.injEq] at heq
    have := ih (s := r.1) (by rw [hr, ← heq.2])
    simp only [List.length_cons]
    omega

/-! ## The kinds of declaration -/

/-- Reads `grammar Name`, up to the end of the line. -/
def headerAt? (cs : List Char) : Reading Declaration :=
  ((keyword? "grammar" cs).bind ident?).map fun (name, rest) ↦
    .ok (.header (String.ofList name), rest.dropWhile (· != '\n'))

/-- Reads a reference to another grammar; its semicolon may be missing. -/
def referenceAt? (cs : List Char) : Reading Declaration :=
  ((keyword? "import" cs).bind literal?).map fun (_, rest) ↦
    .ok (.reference, (mark? ';' rest).getD rest)

/-- Reads the head of a terminal, up to its colon. -/
def terminalHead? (cs : List Char) : Option (String × Option String × List Char) :=
  (keyword? "terminal" ((keyword? "hidden" cs).getD cs)).bind fun cs ↦
    (optionally (keyword? "fragment") cs).findSome? fun (_, cs) ↦
      (ident? cs).bind fun (name, cs) ↦
        (optionalName (clause? "returns") cs).findSome? fun (returns, cs) ↦
          (mark? ':' cs).map fun rest ↦ (String.ofList name, returns.map String.ofList, rest)

/-- Reads a statement that a head was read of. -/
def body (cs : List Char) : Except Located (List Char × List Char) :=
  match statement? .plain cs with
  | some r => .ok r
  | none => .error ⟨.missingSemicolon, cs.length⟩

/-- Reads a terminal; its regular expression is skipped. -/
def terminalAt? (cs : List Char) : Reading Declaration :=
  (terminalHead? cs).map fun (name, returns, rest) ↦
    (body rest).map fun (_, rest) ↦ (.terminal name returns, rest)

/-- Reads further names after commas. -/
def moreNames (cs : List Char) : List String × List Char :=
  match _h : (mark? ',' cs).bind (fun rest ↦ ident? (trimLeft rest)) with
  | some (name, rest) =>
    let (names, rest') := moreNames rest
    (String.ofList name :: names, rest')
  | none => ([], cs)
termination_by cs.length
decreasing_by
  obtain ⟨mid, hmid, hident⟩ := Option.bind_eq_some_iff.1 _h
  have h₁ := length_lt_of_mark? hmid
  have h₂ := length_lt_of_ident? hident
  have h₃ := length_trimLeft_le mid
  omega

/-- Reads one or more names between commas. -/
def names? (cs : List Char) : Option (List String × List Char) :=
  (ident? cs).map fun (name, rest) ↦
    let (names, rest) := moreNames rest
    (String.ofList name :: names, rest)

/-- Reads `extends A, B`. -/
def extends? (cs : List Char) : Option (List String × List Char) :=
  ((blanks? cs).bind (keyword? "extends")).bind names?

/-- Reads the head of an interface, up to its opening brace. -/
def interfaceHead? (cs : List Char) : Option (String × List String × List Char) :=
  ((keyword? "interface" cs).bind ident?).bind fun (name, cs) ↦
    let name := String.ofList name
    match (extends? cs).bind fun (names, cs) ↦ (mark? '{' cs).map fun rest ↦ (name, names, rest) with
    | some r => some r
    | none => (mark? '{' cs).map fun rest ↦ (name, [], rest)

/-! ## Interface bodies -/

/-- Whether a character ends the declaration of a property. -/
def endsProperty (c : Char) : Bool :=
  c == ';' || c == ',' || c == '\n'

/-- Reads the type of a property and completes the property with it. -/
def propertyOfType (interface name : String) (optional : Bool) (type : List Char) :
    Except ScanFault Property :=
  let array := ['[', ']'].isSuffixOf type
  let type := if array then trim (type.take (type.length - 2)) else type
  let type :=
    if type.head? == some '(' && type.getLast? == some ')' then trim type.tail.dropLast else type
  if type.contains '|' then
    if (fields (· == '|') type).all fun member ↦ (literalContents? (trim member)).isSome then
      .ok ⟨name, "string", optional, array, false⟩
    else .error (.inlineUnion interface name type)
  else
    let crossReference := type.head? == some '@'
    let type := if crossReference then trim type.tail else type
    if isIdent type then .ok ⟨name, String.ofList type, optional, array, crossReference⟩
    else .error (.invalidType interface name type)

/-- Reads the declaration of a property. -/
def property (interface : String) (line : List Char) : Except ScanFault Property :=
  let parts := do
    let (name, cs) ← ident? line
    let marked := mark? '?' cs
    let cs ← mark? ':' (marked.getD cs)
    if cs.isEmpty then none else some (String.ofList name, marked.isSome, trim cs)
  match parts with
  | none => .error (.invalidProperty interface line)
  | some (name, optional, type) => propertyOfType interface name optional type

/-- Reads the properties of an interface from the lines of its body; `remaining` is the number of
characters from the start of the first line to the end of the text. -/
def properties (interface : String) :
    (remaining : Nat) → List (List Char) → Except Located (List Property)
  | _, [] => .ok []
  | remaining, line :: more =>
    let next := remaining - line.length - 1
    if allBlank line then properties interface next more
    else
      match property interface (trim line) with
      | .error fault => .error ⟨fault, remaining⟩
      | .ok p => (properties interface next more).map (p :: ·)

/-- Reads an interface. A body ends at its first closing brace and holds no opening one. -/
def interfaceAt? (notes : Annotations) (cs : List Char) : Reading Declaration :=
  (interfaceHead? cs).map fun (name, superTypes, rest) ↦
    match splitFirst? ['}'] rest with
    | none => .error ⟨.unbalancedBraces name, cs.length⟩
    | some (inside, after) =>
      if inside.contains '{' then .error ⟨.unbalancedBraces name, cs.length⟩
      else
        (properties name rest.length (fields endsProperty inside)).map fun ps ↦
          (.interface ⟨name, ps, superTypes, notes⟩, after)

/-! ## Aliases and rules -/

/-- The alias for a type expression: its members are kept if all of them are literals. -/
def aliasOf (name : String) (definition : List Char) (notes : Annotations) : TypeAlias :=
  let members := (fields (· == '|') definition).map fun member ↦ literalContents? (trim member)
  { name
    definition := String.ofList definition
    unionTypes :=
      if members.all Option.isSome then members.filterMap fun m ↦ m.map String.ofList else []
    annotations := notes }

/-- Reads a type alias. -/
def aliasAt? (notes : Annotations) (cs : List Char) : Reading Declaration :=
  (((keyword? "type" cs).bind ident?).bind fun (name, cs) ↦
    (mark? '=' cs).map fun rest ↦ (String.ofList name, rest)).map fun (name, rest) ↦
      (body rest).bind fun (definition, after) ↦
        if allBlank definition then .error ⟨.emptyAlias name, cs.length⟩
        else .ok (.alias (aliasOf name (trim definition) notes), after)

/-- The head of a parser rule. -/
structure RuleHead where
  /-- Whether the rule is a fragment. -/
  fragment : Bool
  /-- The name of the rule. -/
  name : String
  /-- The type it is declared to return. -/
  returns : Option String

/-- Reads the head of a rule, up to its colon. -/
def ruleHead? (cs : List Char) : Option (RuleHead × List Char) :=
  (optionally (keyword? "entry") cs).findSome? fun (_, cs) ↦
    (optionally (keyword? "fragment") cs).findSome? fun (fragment, cs) ↦
      (ident? cs).bind fun (name, cs) ↦
        (optionalName (clause? "returns") cs).findSome? fun (returns, cs) ↦
          (optionalName (clause? "infers") cs).findSome? fun (_, cs) ↦
            (mark? ':' cs).map fun rest ↦
              (⟨fragment, String.ofList name, returns.map String.ofList⟩, rest)

/-- Reads a parser rule. -/
def ruleAt? (notes : Annotations) (cs : List Char) : Reading Declaration :=
  (ruleHead? cs).map fun (head, rest) ↦
    (body rest).map fun (definition, after) ↦
      if head.fragment then (.fragment, after)
      else (.rule ⟨head.name, head.returns, trim definition, notes⟩, after)

/-- How much of a text that begins no declaration a fault shows. -/
def shownInput : Nat := 20

/-- Reads the declaration that a text begins with. -/
def declaration (notes : Annotations) (cs : List Char) :
    Except Located (Declaration × List Char) :=
  (headerAt? cs <|> referenceAt? cs <|> terminalAt? cs <|> interfaceAt? notes cs <|> aliasAt? notes cs
    <|> ruleAt? notes cs).getD (.error ⟨.unexpectedInput (cs.take shownInput), cs.length⟩)

/-! ## Every declaration takes something from the text -/

theorem length_lt_of_body {cs s rest : List Char} (h : body cs = .ok (s, rest)) :
    rest.length < cs.length := by
  simp only [body] at h
  split at h
  · next hs =>
    simp only [Except.ok.injEq] at h
    exact length_lt_of_statement? (h ▸ hs)
  · cases h

theorem length_le_moreNames (cs : List Char) : (moreNames cs).2.length ≤ cs.length := by
  fun_induction moreNames cs with
  | case1 cs name rest h names rest' heq ih =>
    obtain ⟨mid, hmid, hident⟩ := Option.bind_eq_some_iff.1 h
    have h₁ := length_lt_of_mark? hmid
    have h₂ := length_lt_of_ident? hident
    have h₃ := length_trimLeft_le mid
    rw [heq] at ih
    simp only at ih ⊢
    omega
  | case2 => simp

theorem length_lt_of_names? {cs rest : List Char} {names : List String}
    (h : names? cs = some (names, rest)) : rest.length < cs.length := by
  obtain ⟨⟨name, mid⟩, hident, heq⟩ := Option.map_eq_some_iff.1 h
  simp only [Prod.mk.injEq] at heq
  have h₁ := length_lt_of_ident? hident
  have h₂ := length_le_moreNames mid
  rw [heq.2] at h₂
  omega

theorem length_lt_of_extends? {cs rest : List Char} {names : List String}
    (h : extends? cs = some (names, rest)) : rest.length < cs.length := by
  obtain ⟨mid, hmid, hnames⟩ := Option.bind_eq_some_iff.1 h
  obtain ⟨mid', hblank, hword⟩ := Option.bind_eq_some_iff.1 hmid
  have h₁ := length_lt_of_names? hnames
  have h₂ := length_lt_of_keyword? hword
  have h₃ := length_lt_of_blanks? hblank
  omega

/-- A keyword and an identifier take something from the text. -/
theorem length_lt_of_keyword?_ident? {word : String} {cs name rest : List Char}
    (h : (keyword? word cs).bind ident? = some (name, rest)) : rest.length < cs.length := by
  obtain ⟨mid, hmid, hident⟩ := Option.bind_eq_some_iff.1 h
  have h₁ := length_lt_of_keyword? hmid
  have h₂ := length_lt_of_ident? hident
  omega

theorem length_lt_of_interfaceHead? {cs rest : List Char} {name : String} {names : List String}
    (h : interfaceHead? cs = some (name, names, rest)) : rest.length < cs.length := by
  obtain ⟨⟨ident, mid⟩, hmid, hrest⟩ := Option.bind_eq_some_iff.1 h
  have h₁ := length_lt_of_keyword?_ident? hmid
  simp only at hrest
  split at hrest
  · next hextends =>
    obtain ⟨⟨supers, mid'⟩, hsupers, hmark⟩ := Option.bind_eq_some_iff.1 hextends
    obtain ⟨r, hr, heq⟩ := Option.map_eq_some_iff.1 hmark
    have h₂ := length_lt_of_extends? hsupers
    have h₃ := length_lt_of_mark? hr
    simp only [Option.some.injEq] at hrest
    simp only [← heq, Prod.mk.injEq] at hrest
    rw [← hrest.2.2]
    simp only at h₁ h₂ h₃ ⊢
    omega
  · obtain ⟨r, hr, heq⟩ := Option.map_eq_some_iff.1 hrest
    have h₂ := length_lt_of_mark? hr
    simp only [Prod.mk.injEq] at heq
    rw [← heq.2.2]
    omega

theorem length_lt_of_terminalHead? {cs rest : List Char} {name : String} {returns : Option String}
    (h : terminalHead? cs = some (name, returns, rest)) : rest.length < cs.length := by
  obtain ⟨mid, hmid, h⟩ := Option.bind_eq_some_iff.1 h
  obtain ⟨⟨_, cs₁⟩, hmem₁, h⟩ := List.exists_of_findSome?_eq_some h
  obtain ⟨⟨_, cs₂⟩, hident, h⟩ := Option.bind_eq_some_iff.1 h
  obtain ⟨⟨_, cs₃⟩, hmem₂, h⟩ := List.exists_of_findSome?_eq_some h
  obtain ⟨r, hr, heq⟩ := Option.map_eq_some_iff.1 h
  have h₀ : ((keyword? "hidden" cs).getD cs).length ≤ cs.length := by
    cases hk : keyword? "hidden" cs with
    | none => simp
    | some r' => have := length_lt_of_keyword? hk; simp; omega
  have h₁ := length_lt_of_keyword? hmid
  have h₂ := length_le_of_mem_optionally (fun _ _ ↦ length_lt_of_keyword?) hmem₁
  have h₃ := length_lt_of_ident? hident
  have h₄ := length_le_of_mem_optionalName (fun _ _ _ ↦ length_lt_of_clause?) hmem₂
  have h₅ := length_lt_of_mark? hr
  simp only [Prod.mk.injEq] at heq
  rw [heq.2.2] at h₅
  simp only at h₂ h₃ h₄ h₅
  omega

theorem length_lt_of_ruleHead? {cs rest : List Char} {head : RuleHead}
    (h : ruleHead? cs = some (head, rest)) : rest.length < cs.length := by
  obtain ⟨⟨_, cs₁⟩, hmem₁, h⟩ := List.exists_of_findSome?_eq_some h
  obtain ⟨⟨_, cs₂⟩, hmem₂, h⟩ := List.exists_of_findSome?_eq_some h
  obtain ⟨⟨_, cs₃⟩, hident, h⟩ := Option.bind_eq_some_iff.1 h
  obtain ⟨⟨_, cs₄⟩, hmem₃, h⟩ := List.exists_of_findSome?_eq_some h
  obtain ⟨⟨_, cs₅⟩, hmem₄, h⟩ := List.exists_of_findSome?_eq_some h
  obtain ⟨r, hr, heq⟩ := Option.map_eq_some_iff.1 h
  have h₁ := length_le_of_mem_optionally (fun _ _ ↦ length_lt_of_keyword?) hmem₁
  have h₂ := length_le_of_mem_optionally (fun _ _ ↦ length_lt_of_keyword?) hmem₂
  have h₃ := length_lt_of_ident? hident
  have h₄ := length_le_of_mem_optionalName (fun _ _ _ ↦ length_lt_of_clause?) hmem₃
  have h₅ := length_le_of_mem_optionalName (fun _ _ _ ↦ length_lt_of_clause?) hmem₄
  have h₆ := length_lt_of_mark? hr
  simp only [Prod.mk.injEq] at heq
  rw [heq.2] at h₆
  simp only at h₁ h₂ h₃ h₄ h₅ h₆
  omega

/-- Whatever a reading yields, it takes something from the text. -/
def Reading.Shortens {α : Type} (cs : List Char) (r : Reading α) : Prop :=
  ∀ a rest, r = some (.ok (a, rest)) → rest.length < cs.length

theorem shortens_headerAt? (cs : List Char) : (headerAt? cs).Shortens cs := by
  intro d rest h
  obtain ⟨⟨name, mid⟩, hmid, heq⟩ := Option.map_eq_some_iff.1 h
  have h₁ := length_lt_of_keyword?_ident? hmid
  have h₂ := length_dropWhile_le (· != '\n') mid
  simp only [Except.ok.injEq, Prod.mk.injEq] at heq
  rw [← heq.2]
  omega

theorem shortens_referenceAt? (cs : List Char) : (referenceAt? cs).Shortens cs := by
  intro d rest h
  obtain ⟨⟨s, mid⟩, hmid, heq⟩ := Option.map_eq_some_iff.1 h
  obtain ⟨mid', hword, hliteral⟩ := Option.bind_eq_some_iff.1 hmid
  have h₁ := length_lt_of_keyword? hword
  have h₂ := length_lt_of_literal? hliteral
  have h₃ : ((mark? ';' mid).getD mid).length ≤ mid.length := by
    cases hm : mark? ';' mid with
    | none => simp
    | some r => have := length_lt_of_mark? hm; simp; omega
  simp only [Except.ok.injEq, Prod.mk.injEq] at heq
  rw [← heq.2]
  omega

theorem shortens_terminalAt? (cs : List Char) : (terminalAt? cs).Shortens cs := by
  intro d rest h
  obtain ⟨⟨name, returns, mid⟩, hmid, heq⟩ := Option.map_eq_some_iff.1 h
  have h₁ := length_lt_of_terminalHead? hmid
  cases hb : body mid with
  | error e => simp [hb, Except.map] at heq
  | ok r =>
    have h₂ := length_lt_of_body hb
    simp only [hb, Except.map, Except.ok.injEq, Prod.mk.injEq] at heq
    rw [← heq.2]
    omega

theorem shortens_interfaceAt? (notes : Annotations) (cs : List Char) :
    (interfaceAt? notes cs).Shortens cs := by
  intro d rest h
  obtain ⟨⟨name, names, mid⟩, hmid, heq⟩ := Option.map_eq_some_iff.1 h
  have h₁ := length_lt_of_interfaceHead? hmid
  simp only at heq
  split at heq
  · cases heq
  · next inside after hsplit =>
    have h₂ := length_le_of_splitFirst? hsplit
    split at heq
    · cases heq
    · cases hp : properties name mid.length (fields endsProperty inside) with
      | error e => simp [hp, Except.map] at heq
      | ok ps =>
        simp only [hp, Except.map, Except.ok.injEq, Prod.mk.injEq] at heq
        rw [← heq.2]
        omega

theorem shortens_aliasAt? (notes : Annotations) (cs : List Char) :
    (aliasAt? notes cs).Shortens cs := by
  intro d rest h
  obtain ⟨⟨name, mid⟩, hmid, heq⟩ := Option.map_eq_some_iff.1 h
  obtain ⟨⟨ident, mid'⟩, hident, hmark⟩ := Option.bind_eq_some_iff.1 hmid
  obtain ⟨r, hr, hname⟩ := Option.map_eq_some_iff.1 hmark
  have h₁ := length_lt_of_keyword?_ident? hident
  have h₂ := length_lt_of_mark? hr
  simp only [Prod.mk.injEq] at hname
  rw [hname.2] at h₂
  cases hb : body mid with
  | error e => simp [hb, Except.bind] at heq
  | ok r' =>
    have h₃ := length_lt_of_body hb
    simp only [hb, Except.bind] at heq
    split at heq
    · cases heq
    · simp only [Except.ok.injEq, Prod.mk.injEq] at heq
      rw [← heq.2]
      omega

theorem shortens_ruleAt? (notes : Annotations) (cs : List Char) :
    (ruleAt? notes cs).Shortens cs := by
  intro d rest h
  obtain ⟨⟨head, mid⟩, hmid, heq⟩ := Option.map_eq_some_iff.1 h
  have h₁ := length_lt_of_ruleHead? hmid
  cases hb : body mid with
  | error e => simp [hb, Except.map] at heq
  | ok r =>
    have h₂ := length_lt_of_body hb
    simp only [hb, Except.map] at heq
    split at heq <;>
    · simp only [Except.ok.injEq, Prod.mk.injEq] at heq
      rw [← heq.2]
      omega

theorem Reading.Shortens.orElse {α : Type} {cs : List Char} {r s : Reading α}
    (hr : r.Shortens cs) (hs : s.Shortens cs) : Reading.Shortens cs (r <|> s) := by
  intro a rest h
  cases hcase : r with
  | none => exact hs a rest (by simpa [hcase] using h)
  | some x => exact hr a rest (by simpa [hcase] using h)

theorem length_lt_of_declaration {notes : Annotations} {cs rest : List Char} {d : Declaration}
    (h : declaration notes cs = .ok (d, rest)) : rest.length < cs.length := by
  have hall := (shortens_headerAt? cs).orElse <| (shortens_referenceAt? cs).orElse <|
    (shortens_terminalAt? cs).orElse <| (shortens_interfaceAt? notes cs).orElse <|
    (shortens_aliasAt? notes cs).orElse (shortens_ruleAt? notes cs)
  simp only [declaration] at h
  cases hcase : (headerAt? cs <|> referenceAt? cs <|> terminalAt? cs <|> interfaceAt? notes cs
      <|> aliasAt? notes cs <|> ruleAt? notes cs) with
  | none => rw [hcase] at h; cases h
  | some x =>
    rw [hcase] at h
    exact hall d rest (by rw [hcase]; simpa using h)

/-! ## Scanning -/

/-- The declarations of a text in which block comments are blanked; `notes` are the notes that
have collected before it. -/
def scan (notes : Annotations) (cs : List Char) : Except Located (List Declaration) :=
  match cs with
  | [] => .ok []
  | c :: rest =>
    if isBlank c then
      scan (if c == '\n' && startsWithBlankLine rest then [] else notes) rest
    else if c == '/' && rest.head? == some '/' then
      scan (addNote notes (rest.tail.takeWhile (· != '\n'))) (rest.tail.dropWhile (· != '\n'))
    else
      match _h : declaration notes (c :: rest) with
      | .error fault => .error fault
      | .ok (d, after) => (scan [] after).map (d :: ·)
termination_by cs.length
decreasing_by
  · simp
  · have h₁ := length_dropWhile_le (· != '\n') rest.tail
    have h₂ : rest.tail.length ≤ rest.length := by simp
    simp only [List.length_cons]
    omega
  · exact length_lt_of_declaration _h

end DiagramForge.Grammar
