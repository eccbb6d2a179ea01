import DiagramForge.Config.Check
import DiagramForge.Path

/-!
# Arguments of the command line

A command line names a command and gives it options and positional arguments, in any order. An
option has a long name and perhaps a short one; short options may be written together, the value of
an option may follow it in the same argument, and after `--` everything is positional. Whatever
does not fit these rules is a usage fault.
-/

namespace DiagramForge.Cli

/-- How a command line departs from the rules. -/
inductive UsageFault where
  /-- It names no command. -/
  | noCommand
  /-- There is no command of the name. -/
  | unknownCommand (name : String)
  /-- There is no such option. -/
  | unknownOption (name : String)
  /-- An option lacks its value. -/
  | missingValue (option : String)
  /-- An option has a value and takes none. -/
  | needlessValue (option : String)
  /-- The value of an option is no number that it can have. -/
  | badNumber (text : String)
  /-- There are too few or too many positional arguments. -/
  | wrongCount (given : Nat)
deriving DecidableEq

/-- What is said about a fault. -/
def UsageFault.message : UsageFault → String
  | noCommand => "A command is missing"
  | unknownCommand name => "No such command: " ++ name
  | unknownOption name => "No such option: " ++ name
  | missingValue option => "Option " ++ option ++ " needs a value"
  | needlessValue option => "Option " ++ option ++ " takes no value"
  | badNumber text => "Not a number of workers: " ++ text
  | wrongCount given => "Wrong number of arguments: " ++ toString given

/-! ## Options -/

/-- An option. -/
structure OptionRule where
  /-- Its long name, with its dashes. -/
  long : String
  /-- Its short name, if it has one. -/
  short : Option Char := none
  /-- Whether a value belongs to it. -/
  takesValue : Bool := false

/-- The arguments of a command. -/
structure Arguments where
  /-- The options that are given, by long name, with their values. -/
  options : List (String × String) := []
  /-- The other arguments. -/
  positionals : List String := []

namespace Arguments

/-- Adds an option. -/
def addOption (a : Arguments) (rule : OptionRule) (value : String) : Arguments :=
  { a with options := a.options ++ [(rule.long, value)] }

/-- Adds positional arguments. -/
def addPositionals (a : Arguments) (more : List String) : Arguments :=
  { a with positionals := a.positionals ++ more }

/-- Whether an option is given. -/
def has (a : Arguments) (long : String) : Bool :=
  a.options.any fun o ↦ o.1 == long

/-- The values of an option. -/
def values (a : Arguments) (long : String) : List String :=
  (a.options.filter fun o ↦ o.1 == long).map (·.2)

/-- The last value of an option. -/
def value? (a : Arguments) (long : String) : Option String :=
  (a.values long).getLast?

end Arguments

/-- A long option with the value written in the same argument, if there is one. -/
def splitLong (arg : String) : String × Option String :=
  match Text.splitFirst? ['='] arg.toList with
  | some (name, value) => (String.ofList name, some (String.ofList value))
  | none => (arg, none)

/-- Reads short options written together. Yields the rule of a last one whose value is still to
come. -/
def readShort (rules : List OptionRule) (a : Arguments) :
    List Char → Except UsageFault (Arguments × Option OptionRule)
  | [] => .ok (a, none)
  | c :: cs =>
    match rules.find? fun r ↦ r.short == some c with
    | none => .error (.unknownOption (String.ofList ['-', c]))
    | some rule =>
      if !rule.takesValue then readShort rules (a.addOption rule "") cs
      else if cs.isEmpty then .ok (a, some rule)
      else .ok (a.addOption rule (String.ofList cs), none)

/-- Reads one argument that begins with a dash. -/
def readOption (rules : List OptionRule) (a : Arguments) (arg : String) :
    Except UsageFault (Arguments × Option OptionRule) :=
  let (name, value) := splitLong arg
  match rules.find? fun r ↦ r.long == name with
  | some rule =>
    match rule.takesValue, value with
    | true, some value => .ok (a.addOption rule value, none)
    | true, none => .ok (a, some rule)
    | false, some _ => .error (.needlessValue name)
    | false, none => .ok (a.addOption rule "", none)
  | none =>
    match arg.toList with
    | '-' :: '-' :: _ => .error (.unknownOption name)
    | '-' :: cs => readShort rules a cs
    | _ => .error (.unknownOption name)

/-- Whether an argument begins as options do. -/
def beginsOption (arg : String) : Bool :=
  arg.toList.head? == some '-' && arg != "-"

/-- Reads arguments; `pending` is the option that the next one is the value of. -/
def readArguments (rules : List OptionRule) (a : Arguments) (pending : Option OptionRule) :
    List String → Except UsageFault Arguments
  | [] =>
    match pending with
    | some rule => .error (.missingValue rule.long)
    | none => .ok a
  | arg :: args =>
    match pending with
    | some rule => readArguments rules (a.addOption rule arg) none args
    | none =>
      if arg == "--" then .ok (a.addPositionals args)
      else if beginsOption arg then
        match readOption rules a arg with
        | .ok (a, pending) => readArguments rules a pending args
        | .error fault => .error fault
      else readArguments rules (a.addPositionals [arg]) none args

/-! ## Requests -/

/-- What `generate` is asked for. -/
structure GenerateRequest where
  /-- The grammar file. -/
  grammar : Path
  /-- The output directory. -/
  output : Path := ⟨"", []⟩
  /-- The configuration file. -/
  config : Option Path := none
  /-- The categories of output. -/
  targets : List String := []
  /-- The plugins. -/
  plugins : List String := []
  /-- The directory of templates. -/
  templates : Option Path := none
  /-- Whether the first template that fails ends its strategy. -/
  failFast : Bool := false
  /-- How many files are rendered at a time. -/
  workers : Int := 1
  /-- Whether the files are left unwritten. -/
  dryRun : Bool := false
  /-- Whether the report is put out as data. -/
  asJson : Bool := false

/-- What a command line asks for. -/
inductive Request where
  /-- To generate an extension. -/
  | generate (r : GenerateRequest)
  /-- To check a grammar. -/
  | validate (grammar : Path) (config : Option Path)
  /-- To list templates. -/
  | templates (category : Option String) (directory : Option Path)
  /-- To be told how to use a command, or which version this is. -/
  | information

/-- The option that asks how to use a command. -/
def helpRule : OptionRule := { long := "--help" }

/-- The option that names the configuration file. -/
def configRule : OptionRule := { long := "--config", short := some 'c', takesValue := true }

/-- The option that names the directory of templates. -/
def templatesRule : OptionRule := { long := "--templates", takesValue := true }

/-- The option that asks for messages about progress. -/
def verboseRule : OptionRule := { long := "--verbose", short := some 'v' }

/-- The options of `generate`. -/
def generateRules : List OptionRule :=
  [helpRule, configRule, templatesRule, verboseRule,
    { long := "--output", short := some 'o', takesValue := true },
    { long := "--target", short := some 't', takesValue := true },
    { long := "--plugin", short := some 'p', takesValue := true },
    { long := "--fail-fast" }, { long := "--workers", takesValue := true },
    { long := "--dry-run" }, { long := "--json" }]

/-- How commands are used. -/
def usageLines : List String :=
  ["generate GRAMMAR [-o OUTPUT] [-c CONFIG] [-t TARGET]... [-p PLUGIN]... [--templates DIRECTORY]",
    "  [--fail-fast] [--workers NUMBER] [--dry-run] [--json] [-v]",
    "validate GRAMMAR [-c CONFIG] [-v]",
    "templates [CATEGORY] [--templates DIRECTORY]"]

/-- The value of an option that names a path. -/
def Arguments.path? (a : Arguments) (rule : OptionRule) : Option Path :=
  (a.value? rule.long).map Path.ofString

/-- The number of workers that is asked for. -/
def Arguments.workers (a : Arguments) : Except UsageFault Int :=
  match a.value? "--workers" with
  | none => .ok 1
  | some s =>
    match Text.readInteger s with
    | .ok n => if n < 1 then .error (.badNumber s) else .ok n
    | .error _ => .error (.badNumber s)

/-- Reads the arguments of a command, which may be the request for information; `build` makes the
request of the others. -/
def readCommand (rules : List OptionRule) (args : List String)
    (build : Arguments → Except UsageFault Request) : Except UsageFault Request := do
  let a ← readArguments rules {} none args
  if a.has helpRule.long then return .information else build a

/-- Reads the arguments of `generate`. -/
def readGenerate (a : Arguments) : Except UsageFault Request := do
  let workers ← a.workers
  match a.positionals with
  | [grammar] =>
    return .generate
      { grammar := Path.ofString grammar
        output := Path.ofString ((a.value? "--output").getD ".")
        config := a.path? configRule
        targets := a.values "--target"
        plugins := a.values "--plugin"
        templates := a.path? templatesRule
        failFast := a.has "--fail-fast"
        workers
        dryRun := a.has "--dry-run"
        asJson := a.has "--json" }
  | others => .error (.wrongCount others.length)

/-- Reads the arguments of `validate`. -/
def readValidate (a : Arguments) : Except UsageFault Request :=
  match a.positionals with
  | [grammar] => .ok (.validate (Path.ofString grammar) (a.path? configRule))
  | others => .error (.wrongCount others.length)

/-- Reads the arguments of `templates`. -/
def readTemplates (a : Arguments) : Except UsageFault Request :=
  match a.positionals with
  | [] => .ok (.templates none (a.path? templatesRule))
  | [category] => .ok (.templates (some category) (a.path? templatesRule))
  | others => .error (.wrongCount others.length)

/-- Reads the name of a command and its arguments. -/
def readNamed : List String → Except UsageFault Request
  | "generate" :: args => readCommand generateRules args readGenerate
  | "validate" :: args => readCommand [helpRule, configRule, verboseRule] args readValidate
  | "templates" :: args => readCommand [helpRule, templatesRule] args readTemplates
  | [] => .error .noCommand
  | name :: _ => .error (.unknownCommand name)

/-- Reads a command line once it has asked for information, which it does if no argument before the
name of the command is wrong. -/
def readInformation : List String → Except UsageFault Request
  | "--help" :: args | "--version" :: args => readInformation args
  | "--" :: _ | [] => .ok .information
  | arg :: _ => if beginsOption arg then .error (.unknownOption arg) else .ok .information

/-- Reads a command line. -/
def readRequest : List String → Except UsageFault Request
  | "--help" :: args | "--version" :: args => readInformation args
  | "--" :: args => readNamed args
  | [] => .error .noCommand
  | arg :: args =>
    if beginsOption arg then .error (.unknownOption arg) else readNamed (arg :: args)

end DiagramForge.Cli
