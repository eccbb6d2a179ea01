import DiagramForge.Text.Digit
import DiagramForge.Text.Position

/-!
# Tokens of a template

A template is text with tags: `{{ … }}` prints a value, `{% … %}` is a statement, `{# … #}` a
comment. The lexer separates text from tags and cuts tags into tokens.

## Blanks around tags

So that tags on lines of their own leave no trace, the line feed after a statement or comment is
dropped, and so are the blanks before one that begins a line. A `-` inside a tag's delimiter drops
all blanks on its side, a `+` keeps them.

Each token carries its line, which is all that a report of a syntax error needs. Text that is no
token is a token of its own kind, the last one: whether it is the first error of the template is for
the reader of the tokens to see.
-/

namespace DiagramForge.Template

open Text

/-! ## Tokens -/

/-- What a token is. -/
inductive TokenKind where
  /-- Text outside tags. -/
  | data (s : String)
  /-- The start of a tag that prints a value. -/
  | printStart
  /-- The end of a tag that prints a value. -/
  | printEnd
  /-- The start of a statement. -/
  | statementStart
  /-- The end of a statement. -/
  | statementEnd
  /-- A name or keyword. -/
  | name (s : String)
  /-- A text literal. -/
  | text (s : String)
  /-- An integer literal. -/
  | int (n : Nat)
  /-- An operator or bracket. -/
  | operator (s : String)
  /-- The end of the template. -/
  | finish
  /-- An integer literal with too many digits. -/
  | oversized (digits : Nat)
  /-- Text that is no token. -/
  | fault
deriving DecidableEq, Inhabited

/-- A token with the line it begins on. -/
structure Token where
  /-- What the token is. -/
  kind : TokenKind
  /-- The line it begins on. -/
  line : Nat
deriving Inhabited

/-! ## Delimiters -/

/-- The kinds of tag. -/
inductive Tag where
  /-- A tag that prints a value. -/
  | print
  /-- A statement. -/
  | statement
  /-- A comment. -/
  | comment
deriving DecidableEq

/-- How a delimiter treats the blanks on its outer side. -/
inductive Sign where
  /-- All blanks are dropped. -/
  | strip
  /-- All blanks are kept. -/
  | keep
  /-- Blanks are dropped as the kind of tag has it. -/
  | default
deriving DecidableEq

/-- The tag that a text begins with, and what follows its delimiter. -/
def tagAt? : List Char → Option (Tag × List Char)
  | '{' :: '{' :: cs => some (.print, cs)
  | '{' :: '%' :: cs => some (.statement, cs)
  | '{' :: '#' :: cs => some (.comment, cs)
  | _ => none

/-- The sign at the start of a text, and what follows it. -/
def signAt : List Char → Sign × List Char
  | '-' :: cs => (.strip, cs)
  | '+' :: cs => (.keep, cs)
  | cs => (.default, cs)

/-- The text before the first tag, and that tag with what follows its delimiter. -/
def untilTag : List Char → List Char × Option (Tag × List Char)
  | [] => ([], none)
  | c :: cs =>
    match tagAt? (c :: cs) with
    | some tag => ([], some tag)
    | none =>
      let (before, tag) := untilTag cs
      (c :: before, tag)

/-- A text without a line feed at its start. -/
def dropNewline : List Char → List Char
  | '\n' :: cs => cs
  | cs => cs

/-- What follows the end of a statement or comment, whose last delimiter is `mark` and a closing
brace. -/
def afterEnd? (mark : Char) : List Char → Option (List Char)
  | '+' :: c :: '}' :: cs => if c == mark then some cs else none
  | '-' :: c :: '}' :: cs => if c == mark then some (trimLeft cs) else none
  | c :: '}' :: cs => if c == mark then some (dropNewline cs) else none
  | _ => none

/-- What follows the end of a tag that prints a value. -/
def afterPrint? : List Char → Option (List Char)
  | '-' :: '}' :: '}' :: cs => some (trimLeft cs)
  | '}' :: '}' :: cs => some cs
  | _ => none

/-- The text before a tag, less the blanks that the tag drops. `lineStart` says whether the text
begins a line of the template. -/
def cutBefore (sign : Sign) (tag : Tag) (lineStart : Bool) (text : List Char) : List Char :=
  match sign with
  | .strip => trimRight text
  | .keep => text
  | .default =>
    if tag = .print then text
    else
      let indent := (text.reverse.takeWhile (· != '\n')).reverse
      let head := text.take (text.length - indent.length)
      if (lineStart || !head.isEmpty) && !indent.isEmpty && allBlank indent then head else text

/-! ## Verbatim text -/

/-- What follows a statement of one word, `word`, behind the opening delimiter: for the word that
begins verbatim text no line feed is dropped. -/
def rawStart? (cs : List Char) : Option (Sign × List Char) :=
  let (sign, cs) := signAt cs
  (after? "raw".toList (trimLeft cs)).bind fun cs ↦
    match trimLeft cs with
    | '-' :: '%' :: '}' :: cs => some (sign, trimLeft cs)
    | '%' :: '}' :: cs => some (sign, cs)
    | _ => none

/-- The statement that ends verbatim text, if a text begins with it. -/
def rawEnd? : List Char → Option (Sign × List Char)
  | '{' :: '%' :: cs =>
    let (sign, cs) := signAt cs
    (after? "endraw".toList (trimLeft cs)).bind fun cs ↦
      (afterEnd? '%' (trimLeft cs)).map (sign, ·)
  | _ => none

/-- The verbatim text, the sign of the statement that ends it, and what follows that. -/
def untilRawEnd : List Char → Option (List Char × Sign × List Char)
  | [] => none
  | c :: cs =>
    match rawEnd? (c :: cs) with
    | some (sign, rest) => some ([], sign, rest)
    | none => (untilRawEnd cs).map fun (before, r) ↦ (c :: before, r)

/-- What follows the end of a comment, and the comment itself. -/
def untilCommentEnd : List Char → Option (List Char)
  | [] => none
  | c :: cs =>
    match afterEnd? '#' (c :: cs) with
    | some rest => some rest
    | none => untilCommentEnd cs

/-! ## Tokens inside tags -/

/-- The operators of two characters. -/
def longOperators : List String :=
  ["//", "**", "==", "!=", ">=", "<="]

/-- The operators and brackets of one character. -/
def shortOperators : List Char :=
  "+-/*%~[](){}><=.:|,;".toList

/-- The operator a text begins with. -/
def operatorAt? : List Char → Option (String × List Char)
  | [] => none
  | [c] => if shortOperators.contains c then some (String.singleton c, []) else none
  | c :: d :: cs =>
    let long := String.ofList [c, d]
    if longOperators.contains long then some (long, cs)
    else if shortOperators.contains c then some (String.singleton c, d :: cs)
    else none

/-- The bracket that closes another. -/
def closing? : String → Option String
  | "(" => some ")"
  | "[" => some "]"
  | "\x7b" => some "\x7d"
  | _ => none

/-- The brackets still open after an operator; none if it closes a bracket that is not open. -/
def brackets? (opened : List String) (operator : String) : Option (List String) :=
  match closing? operator with
  | some closer => some (closer :: opened)
  | none =>
    if operator == ")" || operator == "]" || operator == "\x7d" then
      match opened with
      | [] => none
      | closer :: opened => if closer == operator then some opened else none
    else some opened

/-- The rest of a text literal as written, up to its closing quote, and what follows. -/
def literalEnd? (quote : Char) : List Char → Option (List Char × List Char)
  | [] => none
  | '\\' :: c :: cs => (literalEnd? quote cs).map fun (s, rest) ↦ ('\\' :: c :: s, rest)
  | c :: cs =>
    if c == quote then some ([], cs)
    else (literalEnd? quote cs).map fun (s, rest) ↦ (c :: s, rest)

/-- The value of a digit in a base. Beyond eight, digits outside ASCII count as well. -/
def digit? (base : Nat) (c : Char) : Option Nat :=
  (if base ≤ 8 then hexValue? c else anyHexValue? c).filter (· < base)

/-- The number written with the digits of a base, if they are all digits. -/
def numberIn? (base : Nat) (cs : List Char) : Option Nat :=
  cs.foldl (fun n c ↦ n.bind fun n ↦ ((hexValue? c).filter (· < base)).map (n * base + ·)) (some 0)

/-- The digits at the start of a text, each perhaps with an underscore before it, and what
follows. -/
def moreDigits (base : Nat) : List Char → List Nat × List Char
  | [] => ([], [])
  | '_' :: c :: cs =>
    match digit? base c with
    | some d =>
      let (ds, rest) := moreDigits base cs
      (d :: ds, rest)
    | none => ([], '_' :: c :: cs)
  | c :: cs =>
    match digit? base c with
    | some d =>
      let (ds, rest) := moreDigits base cs
      (d :: ds, rest)
    | none => ([], c :: cs)

/-- The base that a letter after a zero stands for. -/
def baseOf? (c : Char) : Option Nat :=
  match c.toLower with
  | 'b' => some 2
  | 'o' => some 8
  | 'x' => some 16
  | _ => none

/-- The integer that digits denote in a base. -/
def integerOf (base : Nat) (digits : List Nat) : Nat :=
  digits.foldl (fun n d ↦ n * base + d) 0

/-- The token of decimal digits. -/
def decimalToken (digits : List Nat) : TokenKind :=
  if digitLimit < digits.length then .oversized digits.length else .int (integerOf 10 digits)

/-- The integer literal that a text begins with, the first character being a digit, and what
follows. A number that begins with a zero has no other decimal digits. -/
def integerAt : List Char → TokenKind × List Char
  | '0' :: c :: cs =>
    match baseOf? c with
    | none =>
      let (ds, rest) := moreDigits 1 (c :: cs)
      (decimalToken (0 :: ds), rest)
    | some base =>
      match moreDigits base cs with
      | ([], _) => (.int 0, c :: cs)
      | (ds, rest) => (.int (integerOf base ds), rest)
  | cs =>
    let (ds, rest) := moreDigits 10 cs
    (decimalToken ds, rest)

/-- The character that a backslash and a letter stand for. -/
def simpleEscape? (c : Char) : Option Char :=
  ([('\\', '\\'), ('\'', '\''), ('"', '"'), ('n', '\n'), ('r', '\r'), ('t', '\t'),
    ('a', '\x07'), ('b', '\x08'), ('f', '\x0c'), ('v', '\x0b')].find? fun e ↦ e.1 == c).map (·.2)

/-- The number of hexadecimal digits after a backslash and a letter. -/
def escapeWidth? : Char → Option Nat
  | 'x' => some 2
  | 'u' => some 4
  | 'U' => some 8
  | _ => none

/-- The digits of an octal escape: at most three, and what follows. -/
def octalDigits (cs : List Char) : List Char × List Char :=
  let digits := (cs.take 3).takeWhile fun c ↦ (digit? 8 c).isSome
  (digits, cs.drop digits.length)

/-- A text literal with its escapes resolved. A backslash before any other character stands for
itself, and a character beyond ASCII after it turns into its own escape; characters are not known
by their names. -/
def unescape (fuel : Nat) (cs : List Char) : Option (List Char) :=
  match fuel, cs with
  | _, [] => some []
  | 0, _ => none
  | _ + 1, '\\' :: 'N' :: _ => none
  | fuel + 1, '\\' :: c :: cs =>
    match simpleEscape? c, escapeWidth? c with
    | some d, _ => (unescape fuel cs).map (d :: ·)
    | none, some width =>
      if cs.length < width then none
      else
        (numberIn? 16 (cs.take width)).bind fun n ↦
          (unescape fuel (cs.drop width)).map (Char.ofNat n :: ·)
    | none, none =>
      if c == '\n' then unescape fuel cs
      else
        match octalDigits (c :: cs) with
        | ([], _) =>
          let shown := if c.toNat < 0x80 then ['\\', c] else hexEscape c
          (unescape fuel cs).map (shown ++ ·)
        | (digits, rest) =>
          (numberIn? 8 digits).bind fun n ↦ (unescape fuel rest).map (Char.ofNat n :: ·)
  | fuel + 1, c :: cs => (unescape fuel cs).map (c :: ·)

/-! ## The lexer -/

/-- The line after a stretch of text. -/
def lineAfter (line : Nat) (cs : List Char) : Nat :=
  line + cs.count '\n'

/-- The stretch of a text that a rest was left of. -/
def taken (cs rest : List Char) : List Char :=
  cs.take (cs.length - rest.length)

/-- A data token, left out if it is empty. -/
def dataToken (s : List Char) (line : Nat) : List Token :=
  if s.isEmpty then [] else [⟨.data (String.ofList s), line⟩]

mutual

/-- The tokens of a text outside tags. -/
def lexText (fuel : Nat) (line : Nat) (lineStart : Bool) (cs : List Char) : List Token :=
  match fuel with
  | 0 => [⟨.fault, line⟩]
  | fuel + 1 =>
    match untilTag cs with
    | (before, none) => dataToken before line
    | (before, some (.print, rest)) =>
      let (sign, rest) := signAt rest
      let tagLine := lineAfter line before
      dataToken (cutBefore sign .print lineStart before) line
        ++ ⟨.printStart, tagLine⟩ :: lexTag fuel .print [] tagLine rest
    | (before, some (.comment, rest)) =>
      let (sign, rest) := signAt rest
      let tagLine := lineAfter line before
      dataToken (cutBefore sign .comment lineStart before) line ++
        match untilCommentEnd rest with
        | some after => lexAfter fuel tagLine rest after
        | none => if rest.isEmpty then [] else [⟨.fault, tagLine⟩]
    | (before, some (.statement, rest)) =>
      let tagLine := lineAfter line before
      match rawStart? rest with
      | some (sign, verbatim) =>
        let opening := taken rest verbatim
        let rawLine := lineAfter tagLine opening
        dataToken (cutBefore sign .statement lineStart before) line ++
          match untilRawEnd verbatim with
          | some (text, sign, after) =>
            dataToken (cutBefore sign .statement (opening.getLast? == some '\n') text) rawLine
              ++ lexAfter fuel rawLine verbatim after
          | none => if verbatim.isEmpty then [] else [⟨.fault, rawLine⟩]
      | none =>
        let (sign, rest) := signAt rest
        dataToken (cutBefore sign .statement lineStart before) line
          ++ ⟨.statementStart, tagLine⟩ :: lexTag fuel .statement [] tagLine rest

/-- The tokens of the text `after`, which is what a stretch that began as `cs` on a line left. -/
def lexAfter (fuel : Nat) (line : Nat) (cs after : List Char) : List Token :=
  match fuel with
  | 0 => [⟨.fault, line⟩]
  | fuel + 1 =>
    let passed := taken cs after
    lexText fuel (lineAfter line passed) (passed.getLast? == some '\n') after

/-- The tokens of a text inside a tag; `opened` holds the closing brackets still expected, the
nearest first. -/
def lexTag (fuel : Nat) (tag : Tag) (opened : List String) (line : Nat) (cs : List Char) :
    List Token :=
  match fuel with
  | 0 => [⟨.fault, line⟩]
  | fuel + 1 =>
    let ended :=
      if !opened.isEmpty then none
      else if tag = .print then afterPrint? cs
      else afterEnd? '%' cs
    match ended with
    | some after =>
      ⟨if tag = .print then .printEnd else .statementEnd, line⟩ :: lexAfter fuel line cs after
    | none =>
      match cs with
      | [] => []
      | c :: rest =>
        if isBlank c then lexTag fuel tag opened (if c == '\n' then line + 1 else line) rest
        else if c.isDigit then
          let (kind, rest) := integerAt (c :: rest)
          ⟨kind, line⟩ :: lexTag fuel tag opened line rest
        else if isNameChar c then
          let name := c :: rest.takeWhile isNameChar
          ⟨if isIdentifier name then .name (String.ofList name) else .fault, line⟩
            :: lexTag fuel tag opened line (rest.dropWhile isNameChar)
        else
          match (if c == '\'' || c == '"' then literalEnd? c rest else none) with
          | some (written, after) =>
            match unescape (written.length + 1) written with
            | none => [⟨.fault, line⟩]
            | some s =>
              ⟨.text (String.ofList s), line⟩ :: lexTag fuel tag opened (lineAfter line written) after
          | none =>
            match operatorAt? (c :: rest) with
            | none => [⟨.fault, line⟩]
            | some (operator, after) =>
              match brackets? opened operator with
              | none => [⟨.fault, line⟩]
              | some opened => ⟨.operator operator, line⟩ :: lexTag fuel tag opened line after

end

/-- The tokens of a template, the last of them its end. Every second step at least takes a
character, so twice the length of the template bounds the steps. -/
def tokens (source : String) : List Token :=
  let cs := unifyNewlines source.toList
  let tokens := lexText (2 * cs.length + 4) 1 true cs
  tokens ++ [⟨.finish, (tokens.getLast?.map (·.line)).getD 1⟩]

end DiagramForge.Template
