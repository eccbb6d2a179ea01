import DiagramForge.Data.Json

/-!
# Configuration tables

A reader for the table notation of configuration files: `[a.b]` opens a table, `key = value` sets
an entry of the open table, and a key may lead into further tables by dots. Values are texts in
double or single quotes, integers, truth values and lists of them.

## What may be written once only

A value is never replaced. A table may be opened once; a table that a dotted key has led into may
not be opened at all, and another section may not lead into it. Both are kept as the list of
closed tables: `closed` for those of earlier sections, `pending` for those that the keys of the
section at hand have led into.
-/

namespace DiagramForge.Data.Toml

open Text

/-- The names from the root to a table or value. -/
abbrev Key := List String

/-! ## The document so far -/

/-- What has been read of a document. -/
structure Document where
  /-- The entries of the root. -/
  root : List (String × Data) := []
  /-- The tables that no header may open again. -/
  closed : List Key := []
  /-- The tables that the keys of this section have led into. -/
  pending : List Key := []
  /-- The open table. -/
  header : Key := []

/-- Changes the entries of a table, which is made if it does not exist; a value that is no table is
not replaced. -/
def within? (f : List (String × Data) → Option (List (String × Data))) :
    Key → List (String × Data) → Option (List (String × Data))
  | [], es => f es
  | name :: key, es =>
    match Entries.get? es name with
    | some (.object inner) => (within? f key inner).map fun inner ↦ Entries.set es name (.object inner)
    | some _ => none
    | none => (within? f key []).map fun inner ↦ Entries.set es name (.object inner)

/-- Opens a table. -/
def Document.openTable? (doc : Document) (key : Key) : Option Document :=
  let closed := doc.closed ++ doc.pending
  if closed.contains key then none
  else do
    let root ← within? some key doc.root
    return { root, closed := closed ++ [key], header := key }

/-- Sets a value in the open table. -/
def Document.assign? (doc : Document) (key : Key) (value : Data) : Option Document :=
  let passed := ((List.range key.length).drop 1).map fun n ↦ doc.header ++ key.take n
  if passed.any doc.closed.contains then none
  else
    match key.reverse with
    | [] => none
    | name :: above => do
      let root ← within? (fun es ↦
        if Entries.has es name then none else some (es ++ [(name, value)]))
        (doc.header ++ above.reverse) doc.root
      return { doc with root, pending := doc.pending ++ passed }

/-! ## Texts and keys -/

/-- What is left after blanks on a line. -/
def skipSpace (cs : List Char) : List Char :=
  cs.dropWhile fun c ↦ c == ' ' || c == '\t'

/-- Whether a character is refused in texts and comments. -/
def isControl (c : Char) : Bool :=
  (c.toNat < 32 && c != '\t') || c.toNat == 127

/-- The characters that a letter after a backslash denotes. -/
def simpleEscapes : List (Char × Char) :=
  [('"', '"'), ('\\', '\\'), ('b', '\x08'), ('f', '\x0c'), ('n', '\n'), ('r', '\r'), ('t', '\t')]

/-- Reads a text in double quotes, the first of which has been read. -/
def basicText? (fuel : Nat) (read : List Char) (cs : List Char) : Option (String × List Char) :=
  match fuel, cs with
  | _ + 1, '"' :: cs => some (String.ofList read.reverse, cs)
  | fuel + 1, '\\' :: e :: cs =>
    let scalar (width : Nat) := do
      let (n, cs) ← Json.hexNumber? 0 width cs
      basicText? fuel ((← Json.scalar? n) :: read) cs
    if e == 'u' then scalar 4
    else if e == 'U' then scalar 8
    else do
      let (_, c) ← simpleEscapes.find? fun p ↦ p.1 == e
      basicText? fuel (c :: read) cs
  | fuel + 1, c :: cs => if isControl c then none else basicText? fuel (c :: read) cs
  | _, _ => none

/-- Reads a text in single quotes, the first of which has been read. -/
def literalText? (cs : List Char) : Option (String × List Char) :=
  let text := cs.takeWhile (· != '\'')
  match cs.dropWhile (· != '\'') with
  | _ :: rest => if text.any isControl then none else some (String.ofList text, rest)
  | [] => none

/-- Whether a character may stand in a key without quotes. -/
def isBareKey (c : Char) : Bool :=
  c.isAlphanum || c == '_' || c == '-'

/-- Reads one name of a key. -/
def name? (cs : List Char) : Option (String × List Char) :=
  match cs with
  | '"' :: cs => basicText? (cs.length + 1) [] cs
  | '\'' :: cs => literalText? cs
  | cs =>
    let bare := cs.takeWhile isBareKey
    if bare.isEmpty then none else some (String.ofList bare, cs.dropWhile isBareKey)

/-- Reads a key, and the blanks after it. -/
def key? (fuel : Nat) (cs : List Char) : Option (Key × List Char) :=
  match fuel with
  | 0 => none
  | fuel + 1 => do
    let (name, cs) ← name? cs
    match skipSpace cs with
    | '.' :: cs =>
      let (key, cs) ← key? fuel (skipSpace cs)
      return (name :: key, cs)
    | cs => return ([name], cs)

/-! ## Values -/

/-- What is left after blanks, comments and line ends. -/
def skipLines (fuel : Nat) (cs : List Char) : Option (List Char) :=
  match fuel with
  | 0 => none
  | fuel + 1 =>
    match cs.dropWhile fun c ↦ c == ' ' || c == '\t' || c == '\n' with
    | '#' :: cs =>
      if (cs.takeWhile (· != '\n')).any isControl then none
      else skipLines fuel (cs.dropWhile (· != '\n'))
    | cs => some cs

/-- The digits of a number whose groups may be joined by single underscores. -/
def groupedDigits (isDigit : Char → Bool) : List Char → List Char × List Char
  | '_' :: c :: cs =>
    if isDigit c then
      let (digits, rest) := groupedDigits isDigit cs
      (c :: digits, rest)
    else ([], '_' :: c :: cs)
  | c :: cs =>
    if isDigit c then
      let (digits, rest) := groupedDigits isDigit cs
      (c :: digits, rest)
    else ([], c :: cs)
  | [] => ([], [])

/-- Reads the digits of a number that names its base. -/
def based (base : Nat) (cs : List Char) : Read (Int × List Char) :=
  let isDigit (c : Char) := (hexValue? c).any (· < base)
  match cs with
  | c :: _ =>
    if isDigit c then
      let (digits, rest) := groupedDigits isDigit cs
      .ok (digits.foldl (fun n c ↦ n * base + ((hexValue? c).getD 0 : Nat)) (0 : Nat), rest)
    else .error .malformed
  | [] => .error .malformed

/-- Reads an integer. -/
def integer (cs : List Char) : Read (Int × List Char) :=
  match cs with
  | '0' :: 'x' :: cs => based 16 cs
  | '0' :: 'o' :: cs => based 8 cs
  | '0' :: 'b' :: cs => based 2 cs
  | cs =>
    let (negative, cs) := match cs with
      | '-' :: cs => (true, cs)
      | '+' :: cs => (false, cs)
      | cs => (false, cs)
    if cs.head? == some '_' then .error .malformed
    else
      let (digits, rest) := groupedDigits Char.isDigit cs
      if !Json.isPlainNumber digits then .error .malformed
      else if rest.head?.any fun c ↦ c == '.' || c == 'e' || c == 'E' then .error .malformed
      else (Read.decimal negative digits).map (·, rest)

mutual

/-- Reads a value. Each step takes at least one character, so `fuel` need not exceed their
number. -/
def value (fuel : Nat) (cs : List Char) : Read (Data × List Char) :=
  match fuel with
  | 0 => .error .malformed
  | fuel + 1 =>
    match cs with
    | '"' :: cs => do
      let (s, cs) ← Read.of (basicText? (cs.length + 1) [] cs)
      return (.text s, cs)
    | '\'' :: cs => do
      let (s, cs) ← Read.of (literalText? cs)
      return (.text s, cs)
    | '[' :: cs => items fuel [] cs
    | cs =>
      match after? "true".toList cs, after? "false".toList cs with
      | some cs, _ => .ok (.bool true, cs)
      | _, some cs => .ok (.bool false, cs)
      | _, _ => do
        let (n, cs) ← integer cs
        return (.int n, cs)

/-- Reads the items of a list up to its end; `read` holds those before, the last one first. A comma
may follow the last item. -/
def items (fuel : Nat) (read : List Data) (cs : List Char) : Read (Data × List Char) :=
  match fuel with
  | 0 => .error .malformed
  | fuel + 1 => do
    match ← Read.of (skipLines (cs.length + 1) cs) with
    | ']' :: cs => return (.list read.reverse, cs)
    | cs =>
      let (d, cs) ← value fuel cs
      match ← Read.of (skipLines (cs.length + 1) cs) with
      | ',' :: cs => items fuel (d :: read) cs
      | ']' :: cs => return (.list (d :: read).reverse, cs)
      | _ => .error .malformed

end

/-! ## Lines -/

/-- Reads a statement: a header or an entry. -/
def statement (doc : Document) (cs : List Char) : Read (Document × List Char) :=
  match cs with
  | '[' :: cs => do
    let (key, cs) ← Read.of (key? (cs.length + 1) (skipSpace cs))
    match cs with
    | ']' :: cs => return (← Read.of (doc.openTable? key), cs)
    | _ => .error .malformed
  | cs => do
    let (key, cs) ← Read.of (key? (cs.length + 1) cs)
    match cs with
    | '=' :: cs =>
      let (d, cs) ← value (cs.length + 1) (skipSpace cs)
      return (← Read.of (doc.assign? key d), cs)
    | _ => .error .malformed

/-- Reads the rest of a line after a statement: blanks, and a comment if there is one. -/
def lineEnd? (cs : List Char) : Option (List Char) :=
  let rest := match skipSpace cs with
    | '#' :: cs => if (cs.takeWhile (· != '\n')).any isControl then none
      else some (cs.dropWhile (· != '\n'))
    | cs => some cs
  match rest with
  | some ('\n' :: cs) => some cs
  | some [] => some []
  | _ => none

/-- Reads statements up to the end of the document. -/
def statements (fuel : Nat) (doc : Document) (cs : List Char) : Read Document :=
  match fuel with
  | 0 => .error .malformed
  | fuel + 1 => do
    match skipSpace cs with
    | [] => return doc
    | '\n' :: cs => statements fuel doc cs
    | '#' :: cs => statements fuel doc (← Read.of (lineEnd? ('#' :: cs)))
    | cs =>
      let (doc, cs) ← statement doc cs
      statements fuel doc (← Read.of (lineEnd? cs))

/-- Line ends written with two characters as one. -/
def unifyLineEnds : List Char → List Char
  | '\r' :: '\n' :: cs => '\n' :: unifyLineEnds cs
  | c :: cs => c :: unifyLineEnds cs
  | [] => []

/-- The data a document denotes, or why it denotes none. -/
def read (document : List Char) : Read Data :=
  let cs := unifyLineEnds document
  (statements (cs.length + 1) {} cs).map fun doc ↦ .object doc.root

end DiagramForge.Data.Toml
