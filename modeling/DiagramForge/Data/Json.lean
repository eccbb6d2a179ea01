import DiagramForge.Data
import DiagramForge.Text.Blank

/-!
# JSON

A reader and a writer for data as JSON. The reader is strict: one value with blanks around it and
nothing else, no comments, no comma that no value follows, no control character inside a text. Of
a key that is repeated in an object the last value counts. Numbers are integers; a text with a
fraction is refused like any other that is not understood.
-/

namespace DiagramForge.Data.Json

open Text

/-! ## Reading -/

/-- Whether a character may stand between the parts of a document. -/
def isSpace (c : Char) : Bool :=
  c == ' ' || c == '\t' || c == '\n' || c == '\r'

/-- What is left after blanks. -/
def skipSpace (cs : List Char) : List Char :=
  cs.dropWhile isSpace

/-- The number that the first `width` characters denote in hexadecimal, and what is left. -/
def hexNumber? (value : Nat) : (width : Nat) → List Char → Option (Nat × List Char)
  | 0, cs => some (value, cs)
  | width + 1, c :: cs =>
    match hexValue? c with
    | some digit => hexNumber? (value * 16 + digit) width cs
    | none => none
  | _ + 1, [] => none

/-- The character with a number; half a surrogate pair is none. -/
def scalar? (n : Nat) : Option Char :=
  if n.isValidChar then some (Char.ofNat n) else none

/-- The character that the digits after an escape denote, and what is left; two escapes that make
up a surrogate pair denote one character. -/
def escapedScalar? (cs : List Char) : Option (Char × List Char) := do
  let (n, cs) ← hexNumber? 0 4 cs
  match scalar? n, cs with
  | some c, cs => return (c, cs)
  | none, '\\' :: 'u' :: cs =>
    let (low, cs) ← hexNumber? 0 4 cs
    if 0xD800 ≤ n && n < 0xDC00 && 0xDC00 ≤ low && low < 0xE000 then
      return (← scalar? (0x10000 + (n - 0xD800) * 0x400 + (low - 0xDC00)), cs)
    else none
  | none, _ => none

/-- The characters that a letter after a backslash denotes. -/
def simpleEscapes : List (Char × Char) :=
  [('"', '"'), ('\\', '\\'), ('/', '/'), ('b', '\x08'), ('f', '\x0c'), ('n', '\n'), ('r', '\r'),
    ('t', '\t')]

/-- Reads a text whose opening quote has been read. -/
def textRest? (fuel : Nat) (read : List Char) (cs : List Char) : Option (String × List Char) :=
  match fuel, cs with
  | _ + 1, '"' :: cs => some (String.ofList read.reverse, cs)
  | fuel + 1, '\\' :: 'u' :: cs => do
    let (c, cs) ← escapedScalar? cs
    textRest? fuel (c :: read) cs
  | fuel + 1, '\\' :: e :: cs => do
    let (_, c) ← simpleEscapes.find? fun p ↦ p.1 == e
    textRest? fuel (c :: read) cs
  | fuel + 1, c :: cs => if c.toNat < 32 then none else textRest? fuel (c :: read) cs
  | _, _ => none

/-- Whether digits are written without needless zeros. -/
def isPlainNumber : List Char → Bool
  | [] => false
  | ['0'] => true
  | '0' :: _ => false
  | _ => true

/-- Reads an integer. -/
def number (cs : List Char) : Read (Int × List Char) :=
  let (negative, cs) := match cs with
    | '-' :: cs => (true, cs)
    | cs => (false, cs)
  let digits := cs.takeWhile Char.isDigit
  let rest := cs.dropWhile Char.isDigit
  if !isPlainNumber digits then .error .malformed
  else if rest.head?.any fun c ↦ c == '.' || c == 'e' || c == 'E' then .error .malformed
  else (Read.decimal negative digits).map (·, rest)

mutual

/-- Reads a value. Each step takes at least one character, so `fuel` need not exceed their
number. -/
def value (fuel : Nat) (cs : List Char) : Read (Data × List Char) :=
  match fuel with
  | 0 => .error .malformed
  | fuel + 1 =>
    match cs with
    | '"' :: cs => do
      let (s, cs) ← Read.of (textRest? (cs.length + 1) [] cs)
      return (.text s, cs)
    | '[' :: cs =>
      match skipSpace cs with
      | ']' :: cs => .ok (.list [], cs)
      | cs => items fuel [] cs
    | '\x7b' :: cs =>
      match skipSpace cs with
      | '\x7d' :: cs => .ok (.object [], cs)
      | cs => entries fuel [] cs
    | cs =>
      match after? "null".toList cs, after? "true".toList cs, after? "false".toList cs with
      | some cs, _, _ => .ok (.null, cs)
      | _, some cs, _ => .ok (.bool true, cs)
      | _, _, some cs => .ok (.bool false, cs)
      | _, _, _ => do
        let (n, cs) ← number cs
        return (.int n, cs)

/-- Reads the items of a list up to its end; `read` holds those before, the last one first. -/
def items (fuel : Nat) (read : List Data) (cs : List Char) : Read (Data × List Char) :=
  match fuel with
  | 0 => .error .malformed
  | fuel + 1 => do
    let (d, cs) ← value fuel cs
    match skipSpace cs with
    | ',' :: cs => items fuel (d :: read) (skipSpace cs)
    | ']' :: cs => return (.list (d :: read).reverse, cs)
    | _ => .error .malformed

/-- Reads the entries of an object up to its end; `read` holds those before, the last one first. -/
def entries (fuel : Nat) (read : List (String × Data)) (cs : List Char) :
    Read (Data × List Char) :=
  match fuel, cs with
  | fuel + 1, '"' :: cs => do
    let (key, cs) ← Read.of (textRest? (cs.length + 1) [] cs)
    match skipSpace cs with
    | ':' :: cs =>
      let (d, cs) ← value fuel (skipSpace cs)
      match skipSpace cs with
      | ',' :: cs => entries fuel ((key, d) :: read) (skipSpace cs)
      | '\x7d' :: cs => return (.object (Entries.ofList ((key, d) :: read).reverse), cs)
      | _ => .error .malformed
    | _ => .error .malformed
  | _, _ => .error .malformed

end

/-- The data a document denotes, or why it denotes none. -/
def read (document : List Char) : Read Data := do
  let (d, rest) ← value (document.length + 1) (skipSpace document)
  if (skipSpace rest).isEmpty then return d else .error .malformed

/-- The data a document denotes, if it denotes some. -/
def read? (document : List Char) : Option Data :=
  (read document).toOption

/-! ## Writing -/

/-- The escape of two bytes. -/
def escapeUnit (n : Nat) : List Char :=
  '\\' :: 'u' :: hexDigits 4 n

/-- A character inside a text: whatever is outside the printable range of seven bits is escaped, if
need be as two halves of a surrogate pair. -/
def escape (c : Char) : List Char :=
  match simpleEscapes.find? fun e ↦ e.2 == c && c != '/' with
  | some (letter, _) => ['\\', letter]
  | none =>
    if 32 ≤ c.toNat && c.toNat < 127 then [c]
    else if c.toNat < 0x10000 then escapeUnit c.toNat
    else
      let n := c.toNat - 0x10000
      escapeUnit (0xD800 + n / 0x400) ++ escapeUnit (0xDC00 + n % 0x400)

/-- A text with its quotes. -/
def writeText (s : String) : String :=
  String.ofList ('"' :: s.toList.flatMap escape ++ ['"'])

/-- Items between brackets, each on a line of its own; `margin` is a line break with the blanks
after it. -/
def bracketed (margin left right : String) (items : List String) : String :=
  if items.isEmpty then left ++ right
  else
    left ++ margin ++ "  " ++ joinStrings ("," ++ margin ++ "  ") items ++ margin ++ right

mutual

/-- A value, indented by two blanks at each level. -/
def write (margin : String) : Data → String
  | .null => "null"
  | .bool true => "true"
  | .bool false => "false"
  | .int n => ToString.toString n
  | .text s => writeText s
  | .list items => bracketed margin "[" "]" (writeItems (margin ++ "  ") items)
  | .object entries =>
    bracketed margin "\x7b" "\x7d" (writeEntries (margin ++ "  ") entries)

/-- The items of a list. -/
def writeItems (margin : String) : List Data → List String
  | [] => []
  | d :: ds => write margin d :: writeItems margin ds

/-- The entries of an object. -/
def writeEntries (margin : String) : List (String × Data) → List String
  | [] => []
  | (key, d) :: es => (writeText key ++ ": " ++ write margin d) :: writeEntries margin es

end

/-- The document of a value. -/
def document (d : Data) : String :=
  write "\n" d

end DiagramForge.Data.Json
