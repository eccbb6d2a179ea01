import DiagramForge.Naming
import DiagramForge.Template.Filter

/-!
# Helper functions

The functions that every template can call, and ways to make further ones. The conversions of
names are those of `DiagramForge.Naming`; a helper adds what a template may pass to it: the absent
value and other empty values convert to the empty text.
-/

namespace DiagramForge.Template

/-- A value that should have been a text. -/
def notText {α : Type} (v : Value) : Except RenderFault α :=
  Value.badType ("expected string or bytes-like object, got '" ++ v.typeName ++ "'")

/-- A helper of one parameter. -/
def unaryHelper (label parameter : String) (f : Value → Evaluation Value) : Helper :=
  fun args named ↦ do
    match ← (Signature.mk label [⟨parameter, none⟩] 0 false).values args named with
    | [v] => f v
    | _ => return .none

/-- A helper that converts a text; `refuse` is the fault for anything else that is not empty. -/
def conversion (label parameter : String) (refuse : Value → Except RenderFault Value)
    (f : String → String) : Helper :=
  unaryHelper label parameter fun v ↦ do
    if !(← v.truth) then return .text ""
    match v.text? with
    | some s => return .text (f s)
    | none => refuse v

/-- Joins the items of a value. -/
def joinHelper : Helper := fun args named ↦ do
  let signature : Signature := ⟨"join", [⟨"seq", none⟩, ⟨"sep", some (.text ", ")⟩], 0, false⟩
  match ← signature.values args named with
  | [seq, sep] =>
    if !(← seq.truth) then return .text ""
    match sep, sep.text? with
    | _, some sep => joinItems takeItem sep pure (← Source.of seq)
    | .undefined reason, none | .omitted reason, none => throw (.undefined reason)
    | sep, none => sep.noAttribute "join"
  | _ => return .none

/-- Whether a value has items. -/
def hasElements : Helper :=
  unaryHelper "has_elements" "seq" fun v ↦ do
    match v with
    | .none => return .bool false
    | v => return .bool (0 < (← v.length takeItem))

/-- The value that a property of a type has by default in generated code. -/
def defaultOf (type : String) : String :=
  match type with
  | "string" => "''"
  | "number" => "0"
  | "boolean" => "false"
  | "array" => "[]"
  | _ => "undefined"

/-- The default value for a type. -/
def defaultValue : Helper :=
  unaryHelper "default_value" "type_name" fun v ↦ do
    if !(← v.truth) then return .text (defaultOf "")
    v.checkKey
    return .text (defaultOf (v.text?.getD ""))

/-- The helpers that every template can call. -/
def builtinHelpers : List (String × Helper) :=
  [("toLowerCase", conversion "to_lower_case" "value" (·.noAttribute "lower") Text.lowerString),
    ("toUpperCase", conversion "to_upper_case" "value" (·.noAttribute "upper") Text.upperString),
    ("toPascalCase", conversion "to_pascal_case" "value" notText Naming.toPascal),
    ("toCamelCase", conversion "to_camel_case" "value" notText Naming.toCamel),
    ("toKebabCase", conversion "to_kebab_case" "value" notText Naming.toKebab),
    ("join", joinHelper),
    ("hasElements", hasElements),
    ("defaultValue", defaultValue),
    ("pluralize", conversion "pluralize" "word" (·.noAttribute "lower") Naming.toPlural),
    ("humanize", conversion "humanize" "value" notText Naming.toLabel)]

/-! ## Further helpers -/

namespace Helper

/-- A helper with a constant value. -/
def const (v : Value) : Helper := fun _ _ ↦ return v

/-- The argument of a helper that takes one. -/
def onlyArgument (args : List Value) (named : NamedValues) : Value :=
  args.head?.getD ((named.head?.map (·.2)).getD .none)

/-- A helper that puts a text before its argument. -/
def before (start : String) : Helper := fun args named ↦ do
  return .text (start ++ (← (onlyArgument args named).shown takeItem))

/-- A helper that puts its argument in capitals and adds an exclamation mark. -/
def shout : Helper := fun args named ↦ do
  match onlyArgument args named with
  | .undefined reason | .omitted reason => throw (.undefined reason)
  | v =>
    match v.text? with
    | some s => return .text (Text.upperString s ++ "!")
    | none => v.noAttribute "upper"

/-- A helper that always breaks. -/
def breaking (c : Crash) : Helper := fun _ _ ↦ throw (.crash c)

end Helper

end DiagramForge.Template
