import DiagramForge.Text.Case

/-!
# Names and their spellings

Generated code spells one name in several ways: `StateMachine` names a class, `state-machine` its
file, `stateMachine` a variable and `State Machine` its label. This module holds the conversions
between the spellings, the words a name consists of, and English plurals.

All conversions are defined on lists of characters; the versions on strings only wrap them.
-/

namespace DiagramForge.Naming

open Text

/-! ## Words of a name -/

/-- Whether a character separates the words of a name. -/
def isSeparator (c : Char) : Bool :=
  c == '-' || c == '_' || isBlank c

/-- Whether a character can end a word inside a name written without separators. -/
def endsHump (c : Char) : Bool :=
  c.isLower || c.isDigit

/-- The name with a separator put wherever a capital follows a small letter or a digit. -/
def breakHumps (sep : Char) : List Char → List Char
  | [] => []
  | [c] => [c]
  | c :: d :: cs =>
    if endsHump c && d.isUpper then c :: sep :: breakHumps sep (d :: cs)
    else c :: breakHumps sep (d :: cs)

/-- The words of a name in lower case, whichever spelling it has. -/
def tokens (name : List Char) : List (List Char) :=
  (words isSeparator (breakHumps '_' name)).map lower

/-! ## Spellings -/

/-- A word with a capital first letter and the others small. -/
def pascalWord : List Char → List Char
  | [] => []
  | c :: cs => upperImage c ++ lower cs

/-- The spelling of classes: `state-machine` becomes `StateMachine`. -/
def pascal (name : List Char) : List Char :=
  (words isSeparator name).flatMap pascalWord

/-- The spelling of variables: `pascal` with a small first letter. -/
def camel (name : List Char) : List Char :=
  lowerFirst (pascal name)

/-- A capital with a dash in front, any other character as it is. -/
def dashed (c : Char) : List Char :=
  if c.isUpper then ['-', c] else [c]

/-- The spelling of files: `StateMachine` becomes `state-machine`. -/
def kebab (name : List Char) : List Char :=
  (lower (name.flatMap dashed)).dropWhile (· == '-')

/-- The spelling of labels: `snapToGrid` becomes `Snap To Grid`. -/
def label (name : List Char) : List Char :=
  [' '].intercalate ((words isSeparator (breakHumps ' ' name)).map upperFirst)

/-- The spelling of project identifiers: lower case, with a dash for everything that is not a
letter or a digit. -/
def projectName (name : List Char) : List Char :=
  lower (name.map fun c ↦ if c.isAlphanum then c else '-')

/-! ## Plurals -/

/-- Nouns whose plural follows no rule. -/
def irregularPlurals : List (String × String) :=
  [("person", "people"), ("child", "children"), ("datum", "data"), ("index", "indices"),
    ("vertex", "vertices"), ("status", "statuses"), ("process", "processes")]

/-- The plural of a noun that follows no rule, with the capital the noun has. -/
def irregularPlural? (word : List Char) : Option (List Char) :=
  (irregularPlurals.find? fun e ↦ e.1.toList == lower word).map fun e ↦
    if (word.take 1).all Char.isUpper then capitalize e.2.toList else e.2.toList

/-- Whether a noun takes `es` in the plural. -/
def takesEs (lowered : List Char) : Bool :=
  ["s", "x", "z", "ch", "sh"].any fun ending ↦ ending.toList.isSuffixOf lowered

/-- Whether a noun in lower case ends in a `y` that no vowel precedes. -/
def endsInConsonantY (lowered : List Char) : Bool :=
  match lowered.reverse with
  | ['y'] => true
  | 'y' :: c :: _ => !"aeiou".toList.contains c
  | _ => false

/-- The plural of a noun by the rules. -/
def regularPlural (word : List Char) : List Char :=
  let lowered := lower word
  if takesEs lowered then word ++ ['e', 's']
  else if endsInConsonantY lowered then word.dropLast ++ ['i', 'e', 's']
  else word ++ ['s']

/-- The last word of a name written without separators, with what precedes it: a capital and at
least one small letter up to the end of the line, after at least one character of that line. -/
def lastHump? (name : List Char) : Option (List Char × List Char) :=
  let name := if name.getLast? == some '\n' then name.dropLast else name
  let small := (name.reverse.takeWhile Char.isLower).reverse
  match name.reverse.dropWhile Char.isLower with
  | c :: d :: before =>
    let before := (d :: before).reverse
    if c.isUpper && !small.isEmpty && !before.contains '\n' then some (before, c :: small)
    else none
  | _ => none

/-- The plural of a name: that of its last word. -/
def plural (name : List Char) : List Char :=
  match name with
  | [] => []
  | _ =>
    match irregularPlural? name with
    | some word => word
    | none =>
      match lastHump? name with
      | some (before, word) => before ++ (irregularPlural? word).getD (regularPlural word)
      | none => regularPlural name

/-! ## The same conversions on strings -/

/-- Applies a conversion to a string. -/
def onString (f : List Char → List Char) (s : String) : String :=
  String.ofList (f s.toList)

/-- The words of a string, each once. -/
def tokenStrings (s : String) : List String :=
  ((tokens s.toList).map String.ofList).eraseDups

/-- The `pascal` spelling of a string. -/
def toPascal (s : String) : String := onString pascal s

/-- The `camel` spelling of a string. -/
def toCamel (s : String) : String := onString camel s

/-- The `kebab` spelling of a string. -/
def toKebab (s : String) : String := onString kebab s

/-- The `label` spelling of a string. -/
def toLabel (s : String) : String := onString label s

/-- The plural of a string. -/
def toPlural (s : String) : String := onString plural s

/-- The `projectName` spelling of a string. -/
def toProjectName (s : String) : String := onString projectName s

end DiagramForge.Naming
