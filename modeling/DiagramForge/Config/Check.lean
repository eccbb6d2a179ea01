import DiagramForge.Data
import DiagramForge.Naming

/-!
# Checking data against types

Readers that turn data into typed values and report everything that is wrong with it, in the order
the types declare their fields. Unlike a computation that stops at its first error, a `Checked`
value combines the issues of independent parts.

Readers are lenient where a user's intent is plain: a truth value may be written as a word or as
zero and one, a number as a text.
-/

namespace DiagramForge

open Text

/-! ## Issues -/

/-- A step into data: a key or an index. -/
inductive DataStep where
  /-- The value of a key. -/
  | key (name : String)
  /-- The item at an index. -/
  | index (n : Nat)
deriving DecidableEq

/-- What is wrong with a value. -/
inductive IssueKind where
  /-- It is no text. -/
  | notText
  /-- It is a word or number that is no truth value. -/
  | unclearTruth
  /-- It is nothing that could be a truth value. -/
  | notTruth
  /-- It is a text that is no integer. -/
  | unclearInteger
  /-- It is a text for an integer with too many digits. -/
  | oversizedInteger
  /-- It is nothing that could be an integer. -/
  | notInteger
  /-- It is less than one. -/
  | belowOne
  /-- It is none of a fixed choice. -/
  | notAChoice (choices : List String)
  /-- It is no list. -/
  | notList
  /-- It is no object. -/
  | notObject
  /-- It is no sequence. -/
  | notSequence
  /-- It is no group of settings. -/
  | notGroup (name : String)
  /-- It is missing. -/
  | missing
  /-- It is empty or blank. -/
  | blank
deriving DecidableEq

/-- The choices in a sentence. -/
def choiceList : List String → String
  | [] => ""
  | [a] => quoted a
  | [a, b] => quoted a ++ " or " ++ quoted b
  | a :: more => quoted a ++ ", " ++ choiceList more

namespace IssueKind

/-- The name of an issue in reports. -/
def label : IssueKind → String
  | notText => "string_type"
  | unclearTruth => "bool_parsing"
  | notTruth => "bool_type"
  | unclearInteger => "int_parsing"
  | oversizedInteger => "int_parsing_size"
  | notInteger => "int_type"
  | belowOne => "greater_than_equal"
  | notAChoice _ => "enum"
  | notList => "list_type"
  | notObject => "dict_type"
  | notSequence => "tuple_type"
  | notGroup _ => "model_type"
  | missing => "missing"
  | blank => "value_error"

/-- The wording of an issue. -/
def message : IssueKind → String
  | notText => "Input should be a valid string"
  | unclearTruth => "Input should be a valid boolean, unable to interpret input"
  | notTruth => "Input should be a valid boolean"
  | unclearInteger => "Input should be a valid integer, unable to parse string as an integer"
  | oversizedInteger =>
    "Unable to parse input string as an integer, exceeded maximum size"
  | notInteger => "Input should be a valid integer"
  | belowOne => "Input should be greater than or equal to 1"
  | notAChoice choices => "Input should be " ++ choiceList choices
  | notList => "Input should be a valid list"
  | notObject => "Input should be a valid dictionary"
  | notSequence => "Input should be a valid tuple"
  | notGroup name => "Input should be a valid dictionary or instance of " ++ name
  | missing => "Field required"
  | blank => "Value error, must not be empty"

end IssueKind

/-- What is wrong with data, and where. -/
structure Issue where
  /-- The way to the value. -/
  steps : List DataStep
  /-- What is wrong with it. -/
  kind : IssueKind
deriving DecidableEq

/-! ## Checked values -/

/-- A value, or everything that keeps it from being one. -/
inductive Checked (α : Type) where
  /-- A value. -/
  | ok (a : α)
  /-- The issues, of which there is at least one. -/
  | bad (issues : List Issue)

namespace Checked

variable {α β : Type}

/-- Applies a function to a checked value. -/
def map (f : α → β) : Checked α → Checked β
  | ok a => ok (f a)
  | bad issues => bad issues

/-- Applies a checked function to a checked value; the issues of both are kept, in this order. -/
def apply (f : Checked (α → β)) (a : Checked α) : Checked β :=
  match f, a with
  | ok f, ok a => ok (f a)
  | ok _, bad issues => bad issues
  | bad issues, ok _ => bad issues
  | bad issues, bad more => bad (issues ++ more)

/-- Checks a value further. -/
def also (c : Checked α) (check : α → Checked β) : Checked β :=
  match c with
  | ok a => check a
  | bad issues => bad issues

instance : Functor Checked := ⟨map, fun a c ↦ map (fun _ ↦ a) c⟩

instance : Pure Checked := ⟨ok⟩

instance : Seq Checked := ⟨fun f a ↦ apply f (a ())⟩

/-- Checks the items of a list, each with its index. -/
def each (check : Nat → α → Checked β) : (index : Nat) → List α → Checked (List β)
  | _, [] => ok []
  | index, a :: as => List.cons <$> check index a <*> each check (index + 1) as

/-- The value, or the issues. -/
def toExcept : Checked α → Except (List Issue) α
  | ok a => .ok a
  | bad issues => .error issues

end Checked

/-- A reader of data, told the way to it. -/
abbrev DataReader (α : Type) := List DataStep → Data → Checked α

namespace DataReader

variable {α β : Type}

/-- One issue. -/
def refuse (steps : List DataStep) (kind : IssueKind) : Checked α :=
  .bad [⟨steps, kind⟩]

/-! ## Readers of plain values -/

/-- Reads a text. -/
def text : DataReader String := fun steps d ↦
  match d with
  | .text s => .ok s
  | _ => refuse steps .notText

/-- Reads a text that may be absent. -/
def optionalText : DataReader (Option String) := fun steps d ↦
  match d with
  | .null => .ok none
  | d => some <$> text steps d

/-- Reads a text that is not blank. -/
def solidText : DataReader String := fun steps d ↦
  (text steps d).also fun s ↦ if blankString s then refuse steps .blank else .ok s

/-- The words for truth values. -/
def truthWords : List (String × Bool) :=
  [("0", false), ("off", false), ("f", false), ("false", false), ("n", false), ("no", false),
    ("1", true), ("on", true), ("t", true), ("true", true), ("y", true), ("yes", true)]

/-- Whether a number fits into 64 bits. -/
def isSmall (n : Int) : Bool :=
  -0x8000000000000000 ≤ n && n < 0x8000000000000000

/-- Reads a truth value. -/
def truth : DataReader Bool := fun steps d ↦
  match d with
  | .bool b => .ok b
  | .int n =>
    if n == 0 then .ok false
    else if n == 1 then .ok true
    else refuse steps (if isSmall n then .unclearTruth else .notTruth)
  | .text s =>
    match Entries.get? truthWords (lowerString s) with
    | some b => .ok b
    | none => refuse steps .unclearTruth
  | _ => refuse steps .notTruth

/-! ## Integers in texts

A text for an integer may have blanks around it, a plus sign, zeros in front, single underscores
between digits, and a decimal point with zeros after it. -/

/-- Whether a character has the property `White_Space`. -/
def isSpace (c : Char) : Bool :=
  isBlank c && !(0x1C ≤ c.toNat && c.toNat ≤ 0x1F)

/-- A text without the spaces at either end. -/
def trimSpace (cs : List Char) : List Char :=
  ((cs.dropWhile isSpace).reverse.dropWhile isSpace).reverse

/-- What follows the zeros at the start of a number, the last of which is `zero`; underscores may
stand among them. Of a number that is all zeros, the last character is left. -/
def afterZeros? (zero : Char) : List Char → Option (List Char)
  | [] => some [zero]
  | '.' :: cs => some (zero :: '.' :: cs)
  | c :: cs =>
    if c == '0' || c == '_' then afterZeros? c cs
    else if c.isDigit || c == '-' then some (c :: cs)
    else none

/-- A number without the zeros at its start. -/
def withoutZeros? : List Char → Option (List Char)
  | '0' :: cs => afterZeros? '0' cs
  | c :: cs => if c.isDigit || c == '-' then some (c :: cs) else none
  | [] => none

/-- A number without a decimal point that only zeros follow, of which there is one at least. -/
def withoutFraction (cs : List Char) : List Char :=
  let decimals := (cs.dropWhile (· != '.')).drop 1
  if !decimals.isEmpty && decimals.all (· == '0') then cs.takeWhile (· != '.') else cs

/-- A number without underscores, if they all stand singly and inside of it. -/
def withoutUnderscores (cs : List Char) : List Char :=
  if (fields (· == '_') cs).any (·.isEmpty) then cs else cs.filter (· != '_')

/-- The digits of a text for an integer, with a sign if it is negative; none if the text cannot be
one. -/
def integerDigits? (s : String) : Option (List Char) :=
  let digits := match trimSpace s.toList with
    | '+' :: '-' :: _ => none
    | '+' :: cs => withoutZeros? cs
    | cs => withoutZeros? cs
  digits.map (withoutUnderscores ∘ withoutFraction)

/-- How many characters the digits of an integer and its sign may take. -/
def integerWidth : Nat := 4300

/-- The integer that a text denotes, or what is wrong with it. -/
def integer? (s : String) : Except IssueKind Int :=
  match integerDigits? s with
  | none => .error .unclearInteger
  | some cs =>
    let (negative, body) := match cs with
      | '-' :: body => (true, body)
      | body => (false, body)
    let digits := body.takeWhile Char.isDigit
    let plain := digits.length == 1 || (digits.head?.any (· != '0'))
    if !plain then .error .unclearInteger
    else if integerWidth < (if negative then 1 else 0) + digits.length then
      .error .oversizedInteger
    else if digits.length < body.length then .error .unclearInteger
    else
      let n : Nat := digits.foldl (fun n c ↦ n * 10 + (c.toNat - 48)) 0
      .ok (if negative then -n else n)

/-- Reads an integer. -/
def integer : DataReader Int := fun steps d ↦
  match d with
  | .bool b => .ok (if b then 1 else 0)
  | .int n => .ok n
  | .text s =>
    match integer? s with
    | .ok n => .ok n
    | .error kind => refuse steps kind
  | _ => refuse steps .notInteger

/-- Reads an integer that is at least one. -/
def positive : DataReader Int := fun steps d ↦
  (integer steps d).also fun n ↦ if n < 1 then refuse steps .belowOne else .ok n

/-- Reads one of a fixed choice by its name. -/
def choice (all : List α) (label : α → String) : DataReader α := fun steps d ↦
  match d with
  | .text s =>
    match all.find? fun a ↦ label a == s with
    | some a => .ok a
    | none => refuse steps (.notAChoice (all.map label))
  | _ => refuse steps (.notAChoice (all.map label))

/-! ## Readers of compound values -/

/-- Reads the items of a list; `kind` is the issue with anything else. -/
def items (kind : IssueKind) (item : DataReader α) : DataReader (List α) := fun steps d ↦
  match d with
  | .list ds => Checked.each (fun n d ↦ item (steps ++ [.index n]) d) 0 ds
  | _ => refuse steps kind

/-- Reads a list. -/
def list (item : DataReader α) : DataReader (List α) :=
  items .notList item

/-- Reads an object all of whose values are texts. -/
def textEntries : DataReader (List (String × String)) := fun steps d ↦
  match d with
  | .object entries =>
    Checked.each (fun _ e ↦ (fun s ↦ (e.1, s)) <$> text (steps ++ [.key e.1]) e.2) 0 entries
  | _ => refuse steps .notObject

/-- The entry of a field: under its second spelling, or else under its name. -/
def spelled? (entries : List (String × Data)) (name : String) : Option (String × Data) :=
  let alternative := Naming.toCamel name
  match Entries.get? entries alternative with
  | some d => some (alternative, d)
  | none => (Entries.get? entries name).map fun d ↦ (name, d)

/-- Reads a field that has a default. -/
def field (entries : List (String × Data)) (steps : List DataStep) (name : String)
    (reader : DataReader α) (default : α) : Checked α :=
  match spelled? entries name with
  | some (key, d) => reader (steps ++ [.key key]) d
  | none => .ok default

/-- The entries that no field is read from. -/
def unread (entries : List (String × Data)) (names : List String) : List (String × Data) :=
  let read := names.filterMap fun name ↦ (spelled? entries name).map (·.1)
  entries.filter fun e ↦ !read.contains e.1

/-- Reads a group of settings from the entries of an object. -/
def group (name : String) (reader : List DataStep → List (String × Data) → Checked α) :
    DataReader α := fun steps d ↦
  match d with
  | .object entries => reader steps entries
  | _ => refuse steps (.notGroup name)

end DataReader

end DiagramForge
