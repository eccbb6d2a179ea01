import DiagramForge.Path
import DiagramForge.Text.Digit

/-!
# Diagnostics

Every failure the generator reports is a `Diagnostic`: what kind of failure it is, a message, and
the place where it arose. The text of a diagnostic is a function of these three, so that recording
the phase later cannot leave a stale text behind.

A failure outside the generator's own rules (a callback that breaks, a file that cannot be read) is
a `Crash`. Both are the two cases of a `Failure`.
-/

namespace DiagramForge

/-! ## Places -/

/-- Where a failure arose. Each field is recorded only if it is known. -/
structure Place where
  /-- The phase of the run. -/
  phase : Option String := none
  /-- The interface concerned. -/
  interface : Option String := none
  /-- The property concerned. -/
  property : Option String := none
  /-- The template concerned. -/
  template : Option String := none
  /-- The plugin concerned. -/
  plugin : Option String := none
  /-- The output path concerned. -/
  path : Option String := none
  /-- The source file. -/
  file : Option Path := none
  /-- The line in the source file, counted from one. -/
  line : Option Nat := none
  /-- The column in the line, counted from one. -/
  column : Option Nat := none
  /-- The lines of the source around the place. -/
  snippet : Option String := none
deriving DecidableEq, Inhabited

namespace Place

/-- How many lines of the source a snippet shows before the line it is about, if there are as
many. -/
def linesBefore : Nat := 2

/-- How many lines of the source a snippet shows after the line it is about, if there are as
many. -/
def linesAfter : Nat := 2

/-- The number at the right end of four columns; a longer number takes the room it needs. -/
def lineLabel (n : Nat) : String :=
  let digits := ToString.toString n
  String.ofList (List.replicate (4 - digits.length) ' ') ++ digits ++ " | "

/-- The row that marks a column under a labelled row. -/
def markerRow (labelWidth column : Nat) : String :=
  String.ofList (List.replicate (labelWidth + column - 1) ' ') ++ "^^^"

/-- The rows of a snippet whose first row shows line `n`; the marker follows row `line`. -/
def snippetRows (line : Nat) (column : Option Nat) : (n : Nat) → List String → List String
  | _, [] => []
  | n, row :: rows =>
    let label := lineLabel n
    let marker := match column with
      | some c => if n == line then [markerRow label.length c] else []
      | none => []
    (label ++ row) :: marker ++ snippetRows line column (n + 1) rows

/-- A snippet as it is shown: with line numbers and a marker if the line is known. -/
def showSnippet (p : Place) (snippet : String) : String :=
  match p.line with
  | none => snippet
  | some line =>
    Text.joinStrings "\n" <|
      snippetRows line p.column (max 1 (line - linesBefore))
        (Text.fieldStrings (· == '\n') snippet)

/-- The file with the line and column, as far as they are known. -/
def fileLabel (p : Place) : List String :=
  match p.file with
  | none => []
  | some file =>
    let line := match p.line with
      | none => ""
      | some line =>
        let column := match p.column with
          | none => ""
          | some column => ":" ++ ToString.toString column
        ":" ++ ToString.toString line ++ column
    [file.toString ++ line]

/-- A named detail, left out if it is unknown or empty. -/
def detail (label : String) : Option String → List String
  | none => []
  | some value => if value == "" then [] else [label ++ "=" ++ value]

/-- The phase in brackets, left out if it is unknown or empty. -/
def phaseLabel : Option String → List String
  | none => []
  | some phase => if phase == "" then [] else ["[" ++ phase ++ "]"]

/-- The place on one line, the snippet left out. -/
def headline (p : Place) : String :=
  Text.joinStrings " " <|
    p.fileLabel ++ phaseLabel p.phase ++ detail "interface" p.interface
      ++ detail "property" p.property ++ detail "template" p.template
      ++ detail "plugin" p.plugin ++ detail "path" p.path

/-- The place as it is shown: one line, and the snippet below it if there is one. -/
def format (p : Place) : String :=
  match p.snippet with
  | none => p.headline
  | some snippet =>
    if snippet == "" then p.headline else p.headline ++ "\n" ++ p.showSnippet snippet

end Place

/-! ## Diagnostics -/

/-- The kinds of failure the generator reports. -/
inductive DiagnosticKind where
  /-- Grammar text that cannot be parsed. -/
  | parse
  /-- A parsed grammar that is unusable as it is structured. -/
  | structural
  /-- A template that does not exist. -/
  | templateNotFound
  /-- A template that does not compile or render. -/
  | templateRender
  /-- A plugin that fails. -/
  | plugin
  /-- Two output files with one path. -/
  | outputConflict
  /-- An output file that cannot be written. -/
  | outputWrite
  /-- A configuration that cannot be loaded. -/
  | config
  /-- Any other failure. -/
  | general
deriving DecidableEq, Inhabited

namespace DiagnosticKind

/-- The name of a kind in reports. -/
def label : DiagnosticKind → String
  | parse => "parse"
  | structural => "structural"
  | templateNotFound => "template-not-found"
  | templateRender => "template-render"
  | plugin => "plugin"
  | outputConflict => "output-conflict"
  | outputWrite => "output-write"
  | config => "config"
  | general => "error"

/-- The class of failure that messages name for a kind. -/
def className : DiagnosticKind → String
  | parse => "ParseError"
  | structural => "StructuralGrammarError"
  | templateNotFound => "TemplateNotFoundError"
  | templateRender => "TemplateRenderError"
  | plugin => "PluginError"
  | outputConflict => "OutputConflictError"
  | outputWrite => "OutputWriteError"
  | config => "ConfigError"
  | general => "GlspGenError"

/-- All kinds. -/
def all : List DiagnosticKind :=
  [parse, structural, templateNotFound, templateRender, plugin, outputConflict, outputWrite,
    config, general]

/-- The kind with a name. -/
def ofLabel? (s : String) : Option DiagnosticKind :=
  all.find? fun k ↦ k.label == s

end DiagnosticKind

/-- A failure the generator reports. -/
structure Diagnostic where
  /-- The kind of failure. -/
  kind : DiagnosticKind
  /-- What went wrong. -/
  message : String
  /-- Where it went wrong. -/
  place : Place := {}
deriving DecidableEq, Inhabited

namespace Diagnostic

/-- The diagnostic as one text: the place before the message, on lines of its own if it takes more
than one. -/
def text (d : Diagnostic) : String :=
  let place := d.place.format
  if place == "" then d.message
  else if place.toList.contains '\n' then place ++ "\n" ++ d.message
  else place ++ ": " ++ d.message

instance : ToString Diagnostic := ⟨text⟩

/-- Records the phase, unless one is recorded already. -/
def withPhase (d : Diagnostic) (phase : String) : Diagnostic :=
  match d.place.phase with
  | some _ => d
  | none => { d with place := { d.place with phase := some phase } }

end Diagnostic

/-! ## Failures of any origin -/

/-- A failure outside the generator's own rules: its class and its message. -/
structure Crash where
  /-- The class of failure, as reports name it. -/
  label : String
  /-- What went wrong. -/
  message : String
deriving DecidableEq, Inhabited

namespace Crash

/-- A value that a rule does not admit. -/
def badValue (message : String) : Crash :=
  ⟨"ValueError", message⟩

/-- A value of a type that an operation does not admit. -/
def badType (message : String) : Crash :=
  ⟨"TypeError", message⟩

/-- A key that is not there; the message quotes the key. -/
def missingKey (key : String) : Crash :=
  ⟨"KeyError", Text.quoted key⟩

/-- A part that a value of some type does not have. -/
def noAttribute (type name : String) : Crash :=
  ⟨"AttributeError", "'" ++ type ++ "' object has no attribute '" ++ name ++ "'"⟩

/-- A value of a type that has no items. -/
def notIterable (type : String) : Crash :=
  badType ("'" ++ type ++ "' object is not iterable")

/-- Values of two types that have no sum. -/
def notAdded (first second : String) : Crash :=
  badType <|
    if first == "str" || first == "list" then
      "can only concatenate " ++ first ++ " (not \"" ++ second ++ "\") to " ++ first
    else "unsupported operand type(s) for +: '" ++ first ++ "' and '" ++ second ++ "'"

/-- A text of more decimal digits than an integer is read from. -/
def oversized (digits : Nat) : Crash :=
  badValue ("Exceeds the limit (4300 digits) for integer string conversion: value has "
    ++ ToString.toString digits
    ++ " digits; use sys.set_int_max_str_digits() to increase the limit")

/-- An integer of more decimal digits than are shown. -/
def unshowable : Crash :=
  badValue ("Exceeds the limit (4300 digits) for integer string conversion; "
    ++ "use sys.set_int_max_str_digits() to increase the limit")

/-- How much of a text a message quotes when the text is no integer. -/
def quotedWidth : Nat := 200

/-- A text that an integer cannot be read from. -/
def ofRead (s : String) : Text.ReadFault → Crash
  | .malformed =>
    badValue ("invalid literal for int() with base 10: "
      ++ String.ofList ((Text.quoted s).toList.take quotedWidth))
  | .oversized digits => oversized digits

/-- A crash of a class with a message. A missing key has the key for its message, which is
quoted. -/
def ofClass (label message : String) : Crash :=
  if label == "KeyError" then missingKey message else ⟨label, message⟩

/-- The crash as one text. -/
def text (c : Crash) : String :=
  c.label ++ ": " ++ c.message

end Crash

/-- What can stop an operation. -/
inductive Failure where
  /-- A failure that the generator's rules foresee. -/
  | diagnostic (d : Diagnostic)
  /-- A failure outside them. -/
  | crash (c : Crash)
deriving DecidableEq, Inhabited

namespace Failure

/-- A failure as it is shown in the message of another one. -/
def reason : Failure → String
  | diagnostic d => d.text
  | crash c => c.message

/-- The class of a failure in the message of another one. -/
def className : Failure → String
  | diagnostic d => d.kind.className
  | crash c => c.label

end Failure

end DiagramForge
