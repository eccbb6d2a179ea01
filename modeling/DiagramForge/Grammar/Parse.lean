import DiagramForge.Diagnostic
import DiagramForge.Grammar.Comment
import DiagramForge.Grammar.Inference
import DiagramForge.Naming
import DiagramForge.Text.Utf8

/-!
# From text to grammar

`Grammar.assemble` gives the declarations of a text their joint meaning: explicit interfaces and
aliases stand as declared, and each parser rule that neither of them covers contributes inferred
interfaces, or an alias if it only lists alternatives. `Grammar.parse` scans a text and assembles
what it declares.
-/

namespace DiagramForge.Grammar

open Text

/-! ## Assembling declarations -/

/-- The types returned by the terminals that grammars customarily share. -/
def commonTerminals : List (String × String) :=
  [("ID", "string"), ("STRING", "string"), ("INT", "number"), ("NUMBER", "number"),
    ("FLOAT", "number"), ("BOOLEAN", "boolean"), ("DATE", "Date")]

/-- The interfaces declared explicitly. -/
def explicitInterfaces (ds : List Declaration) : List Interface :=
  ds.filterMap fun
    | .interface i => some i
    | _ => none

/-- The aliases declared explicitly. -/
def explicitAliases (ds : List Declaration) : List TypeAlias :=
  ds.filterMap fun
    | .alias t => some t
    | _ => none

/-- The parser rules that produce types. -/
def ruleDeclarations (ds : List Declaration) : List Rule :=
  ds.filterMap fun
    | .rule r => some r
    | _ => none

/-- The last name declared for the grammar. -/
def declaredName (ds : List Declaration) : Option String :=
  (ds.filterMap fun
    | .header name => some name
    | _ => none).getLast?

/-- The types that terminals return, the declared terminals set over the customary ones. A
terminal returns a string unless it is declared otherwise. -/
def terminalTypes (ds : List Declaration) : List (String × String) :=
  ds.foldl (fun types d ↦
    match d with
    | .terminal name returns => Entries.set types name (returns.getD "string")
    | _ => types) commonTerminals

/-- Whether a rule that returns a type is a data type rule: the type is a primitive, or one that
some terminal returns. -/
def isDataType (terminals : List (String × String)) (type : String) : Bool :=
  isPrimitive type || terminals.any fun e ↦ e.2 == type

/-- What the names in rule bodies stand for. -/
def ruleTypes (ds : List Declaration) : RuleTypes :=
  let terminals := terminalTypes ds
  { terminals
    rules := Entries.ofList <| (ruleDeclarations ds).filterMap fun r ↦
      match r.returns with
      | some type => if isDataType terminals type then none else some (r.name, type)
      | none => none }

/-- Adds an inferred interface; if there is one of its name, that one takes the properties it does
not have yet. -/
def mergeInferred (inferred : List Interface) (i : Interface) : List Interface :=
  if inferred.any fun j ↦ j.name == i.name then
    inferred.map fun j ↦
      if j.name == i.name then
        { j with properties :=
            j.properties ++ i.properties.filter fun p ↦ !j.properties.any fun q ↦ q.name == p.name }
      else j
  else inferred ++ [i]

/-- What the rules read so far contribute. -/
structure Contribution where
  /-- The inferred interfaces, in the order they first arose. -/
  interfaces : List Interface
  /-- The aliases, the explicit ones first. -/
  aliases : List TypeAlias

/-- Whether an alias has a name. -/
def Contribution.hasAlias (c : Contribution) (name : String) : Bool :=
  c.aliases.any fun t ↦ t.name == name

/-- Whether an inferred interface has a name. -/
def Contribution.hasInterface (c : Contribution) (name : String) : Bool :=
  c.interfaces.any fun i ↦ i.name == name

/-- Adds a type that a rule produces, unless an explicit interface or an alias has its name. A
type without properties arises only if an action names it. -/
def Contribution.addProduced (explicit : List String) (notes : Annotations) (c : Contribution)
    (p : Produced) : Contribution :=
  if explicit.contains p.type || c.hasAlias p.type then c
  else if p.properties.isEmpty && !p.fromAction then c
  else { c with interfaces := mergeInferred c.interfaces ⟨p.type, p.properties, [], notes⟩ }

/-- Adds what a rule contributes. -/
def Contribution.addRule (explicit : List String) (types : RuleTypes) (c : Contribution)
    (r : Rule) : Contribution :=
  if explicit.contains r.target || c.hasAlias r.target then c
  else
    match r.returns.filter (isDataType types.terminals) with
    | some type => { c with aliases := c.aliases ++ [⟨r.name, type, [], []⟩] }
    | none =>
      let produced := r.produced types
      let c := produced.foldl (addProduced explicit r.annotations) c
      if !c.hasInterface r.target && produced.length ≤ 1 && isAlternatives r.body then
        { c with aliases := c.aliases ++ [aliasOf r.target r.body r.annotations] }
      else c

/-- The returned types that some property has although nothing declares them. -/
def undeclaredReturns (explicit : List Interface) (types : RuleTypes) (c : Contribution) :
    List String :=
  let referenced := (explicit ++ c.interfaces).flatMap fun i ↦ i.properties.map (·.type)
  (types.rules.map (·.2)).eraseDups.filter fun type ↦
    referenced.contains type && !(explicit.any fun i ↦ i.name == type) && !c.hasAlias type
      && !c.hasInterface type

/-- The grammar that declarations make up. -/
def assemble (projectName : String) (file : Option Path) (ds : List Declaration) : Grammar :=
  let explicit := explicitInterfaces ds
  let types := ruleTypes ds
  let rules := ruleDeclarations ds
  let c := rules.foldl (Contribution.addRule (explicit.map (·.name)) types)
    ⟨[], explicitAliases ds⟩
  let returned := (undeclaredReturns explicit types c).map fun type ↦ (⟨type, [], [], []⟩ : Interface)
  { projectName :=
      if projectName == "" then Naming.toProjectName ((declaredName ds).getD "") else projectName
    grammarName := declaredName ds
    interfaces := explicit ++ c.interfaces ++ returned
    types := c.aliases
    rules := rules.map (·.name)
    sourcePath := file.map Path.toString }

/-! ## Parsing -/

/-- The diagnostic for a fault at an offset of a source. -/
def faultAt (source : List Char) (file : Option Path) (fault : ScanFault) (offset : Nat) :
    Diagnostic :=
  let line := lineAt source offset
  { kind := .parse
    message := fault.message
    place :=
      { phase := some "parsing"
        file
        line := some line
        column := some (columnAt source offset)
        snippet := some <| joinStrings "\n" <|
          (linesAround Place.linesBefore Place.linesAfter source line).map String.ofList } }

/-- The declarations of a source, or the first fault with its offset. -/
def declarations (source : List Char) : Except (ScanFault × Nat) (List Declaration) :=
  match blankComments source with
  | .error offset => .error (.unterminatedComment, offset)
  | .ok text =>
    match scan [] text with
    | .error located => .error (located.fault, text.length - located.remaining)
    | .ok ds => .ok ds

/-- Reads a grammar. -/
def parse (text : String) (projectName : String := "") (file : Option Path := none) :
    Except Diagnostic Grammar :=
  match declarations text.toList with
  | .error (fault, offset) => .error (faultAt text.toList file fault offset)
  | .ok ds => .ok (assemble projectName file ds)

/-- The diagnostic for bytes that are not UTF-8. -/
def notUtf8 (file : Path) (fault : Utf8Fault) : Diagnostic :=
  let length := fault.before.length
  { kind := .parse
    message := "Grammar is not valid UTF-8 (" ++ fault.reason.message ++ " at byte "
      ++ ToString.toString fault.offset ++ ")"
    place :=
      { phase := some "parsing"
        file := some file
        line := some (lineAt fault.before length)
        column := some (columnAt fault.before length) } }

/-- Reads a grammar from the bytes of a file; its name without the suffix names the project. -/
def parseBytes (file : Path) (bytes : List UInt8) : Except Diagnostic Grammar :=
  match decodeUtf8 bytes with
  | .error fault => .error (notUtf8 file fault)
  | .ok cs => parse (String.ofList (unifyNewlines cs)) (Naming.toProjectName file.stem) (some file)

end DiagramForge.Grammar
