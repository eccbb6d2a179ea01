import DiagramForge.Diagnostic
import DiagramForge.Naming
import DiagramForge.Text.Fitting

/-!
# Patterns of output paths

The path of a file that is rendered for each element is given by a pattern, in which fields in
braces stand for the spellings of the element's name. A brace that is meant as such is doubled.

A field names a spelling and perhaps one of its characters, `name[0]`; after an exclamation mark
follows a letter for how the text is shown, after a colon its fitting, which may have fields of its
own.
-/

namespace DiagramForge

open Text

/-! ## Reading a pattern -/

/-- A field of a pattern. -/
structure PatternField where
  /-- The spelling, with the way to a part of it. -/
  subject : List Char
  /-- The letter for how the text is shown. -/
  conversion : Option Char := none
  /-- The fitting of the text, in which there may be fields. -/
  fitting : List Char := []
deriving DecidableEq

/-- A part of a pattern. -/
inductive PatternPart where
  /-- A character that stands for itself. -/
  | literal (c : Char)
  /-- A field. -/
  | field (f : PatternField)
  /-- Something that cannot be read, with what is wrong with it. -/
  | fault (message : String)
deriving DecidableEq

/-- The subject of a field and what follows it, which begins with the character that ends it; a
brace in brackets is part of the subject. -/
def subjectAt : (bracketed : Bool) → List Char → List Char × List Char
  | _, [] => ([], [])
  | bracketed, c :: cs =>
    let ends := !bracketed && ['\x7b', '\x7d', ':', '!'].contains c
    if ends then ([], c :: cs)
    else
      let inside := if bracketed then c != ']' else c == '['
      let (subject, rest) := subjectAt inside cs
      (c :: subject, rest)

/-- The fitting of a field and what follows the brace that ends it, if there is one; the depth is the
number of braces that are open. -/
def fittingAt? : (depth : Nat) → List Char → Option (List Char × List Char)
  | _, [] => none
  | depth, c :: cs =>
    match c, depth with
    | '\x7d', 0 => some ([], cs)
    | '\x7d', depth + 1 => (fittingAt? depth cs).map fun (fitting, rest) ↦ (c :: fitting, rest)
    | '\x7b', depth => (fittingAt? (depth + 1) cs).map fun (fitting, rest) ↦ (c :: fitting, rest)
    | _, depth => (fittingAt? depth cs).map fun (fitting, rest) ↦ (c :: fitting, rest)

/-- Reads the fitting that ends a field. -/
def readFitting (f : PatternField) (cs : List Char) : Except String (PatternField × List Char) :=
  match fittingAt? 0 cs with
  | some (fitting, rest) => .ok ({ f with fitting }, rest)
  | none => .error "unmatched '\x7b' in format spec"

/-- Reads what follows the brace that begins a field. -/
def readField (cs : List Char) : Except String (PatternField × List Char) :=
  let (subject, rest) := subjectAt false cs
  match rest with
  | '\x7d' :: rest => .ok ({ subject }, rest)
  | ':' :: rest => readFitting { subject } rest
  | ['!'] => .error "end of string while looking for conversion specifier"
  | '!' :: c :: rest =>
    let f : PatternField := { subject, conversion := some c }
    match rest with
    | '\x7d' :: rest => .ok (f, rest)
    | ':' :: rest => readFitting f rest
    | [] => readFitting f []
    | _ => .error "expected ':' after conversion specifier"
  | '\x7b' :: _ => .error "unexpected '\x7b' in field name"
  | _ => .error "expected '\x7d' before end of string"

/-- Reads a pattern up to the first thing that cannot be read. -/
def readPattern (fuel : Nat) (cs : List Char) : List PatternPart :=
  match fuel, cs with
  | 0, _ | _, [] => []
  | fuel + 1, '\x7b' :: '\x7b' :: cs => .literal '\x7b' :: readPattern fuel cs
  | fuel + 1, '\x7d' :: '\x7d' :: cs => .literal '\x7d' :: readPattern fuel cs
  | _, ['\x7b'] => [.fault "Single '\x7b' encountered in format string"]
  | fuel + 1, '\x7b' :: cs =>
    match readField cs with
    | .ok (f, rest) => .field f :: readPattern fuel rest
    | .error message => [.fault message]
  | _, '\x7d' :: _ => [.fault "Single '\x7d' encountered in format string"]
  | fuel + 1, c :: cs => .literal c :: readPattern fuel cs

/-! ## Filling a pattern -/

/-- The number that a text of digits denotes. -/
def readIndex? (cs : List Char) : Except String (Option Nat) :=
  match digitsAt cs with
  | (digits@(_ :: _), []) => some <$> sizeOfDigits digits
  | _ => .ok none

/-- Whether a character begins a step to a part of a text. -/
def beginsStep (c : Char) : Bool :=
  c == '.' || c == '['

/-- The part of a text that steps lead to. A text has characters but no parts with names. -/
def follow (fuel : Nat) (steps : List Char) (s : String) : Except Crash String :=
  match fuel, steps with
  | 0, _ | _, [] => .ok s
  | _, '.' :: cs =>
    match cs.takeWhile (!beginsStep ·) with
    | [] => .error (Crash.badValue "Empty attribute in format string")
    | name => .error ⟨"AttributeError",
        "'str' object has no attribute " ++ "'" ++ String.ofList name ++ "'"⟩
  | fuel + 1, '[' :: cs => do
    let key := cs.takeWhile (· != ']')
    let index ← (readIndex? key).mapError Crash.badValue
    if key.isEmpty then throw (Crash.badValue "Empty attribute in format string")
    match index with
    | none => throw (Crash.badType "string indices must be integers, not 'str'")
    | some n =>
      match s.toList[n]? with
      | some c => follow fuel ((cs.dropWhile (· != ']')).drop 1) (String.singleton c)
      | none => throw ⟨"IndexError", "string index out of range"⟩
  | _, _ =>
    .error (Crash.badValue "Only '.' or '[' may follow ']' in format field specifier")

/-- The text that the subject of a field stands for. There are no texts with numbers. -/
def resolve (spellings : List (String × String)) (subject : List Char) : Except Crash String := do
  let name := subject.takeWhile (!beginsStep ·)
  let index ← (readIndex? name).mapError Crash.badValue
  if name.isEmpty || index.isSome then
    throw ⟨"IndexError", "Replacement index " ++ toString (index.getD 0)
      ++ " out of range for positional args tuple"⟩
  match spellings.find? fun e ↦ e.1 == String.ofList name with
  | some (_, s) => follow (subject.length + 1) (subject.dropWhile (!beginsStep ·)) s
  | none => throw (Crash.missingKey (String.ofList name))

/-- A text as the letter of a field shows it. -/
def convert (s : String) : Option Char → Except Crash String
  | none | some 's' => .ok s
  | some 'r' => .ok (quoted s)
  | some 'a' => .ok (asciiQuoted s)
  | some c => .error (Crash.badValue ("Unknown conversion specifier "
      ++ if 32 < c.toNat && c.toNat < 127 then String.singleton c
        else "\\x" ++ String.ofList (Nat.toDigits 16 c.toNat)))

/-- The text of a pattern. The fittings of its fields are patterns as well, but they have no fields
with fields in their fittings: the depth bounds how far patterns nest. -/
def fillWith (spellings : List (String × String)) :
    (depth : Nat) → (pattern : List Char) → Except Crash String
  | 0, _ => .error (Crash.badValue "Max string recursion exceeded")
  | depth + 1, pattern => do
    let texts ← (readPattern (pattern.length + 1) pattern).mapM fun part ↦
      match part with
      | .literal c => Except.ok (String.singleton c)
      | .fault message => .error (Crash.badValue message)
      | .field f => do
        let s ← resolve spellings f.subject
        let s ← convert s f.conversion
        let fitting ← if f.fitting.contains '\x7b' then fillWith spellings depth f.fitting
          else pure (String.ofList f.fitting)
        (fit fitting s).mapError Crash.badValue
    return String.join texts

/-- The path that a pattern denotes for a name. -/
def fillPattern (pattern name : String) : Except Crash String :=
  fillWith [("name", name), ("kebab", Naming.toKebab name)] 2 pattern.toList

end DiagramForge
