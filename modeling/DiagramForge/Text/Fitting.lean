import DiagramForge.Text.Digit

/-!
# Fittings

A fitting says how a text is set: to which width it is filled up, with what and on which side, and
after how many characters it is cut off. It is written in one line, such as `*^9.4`: the fill and
the side, the width, and the length after a point.

The notation is one for numbers as well. What only numbers can have, such as a sign, is read and
then refused.
-/

namespace DiagramForge.Text

/-- Where a text that is narrower than its width is set. -/
inductive Side where
  /-- At the left. -/
  | left
  /-- At the right. -/
  | right
  /-- In the middle; an odd blank is on the right. -/
  | center
  /-- At the right, the sign of a number apart. -/
  | apart
deriving DecidableEq

/-- The side that a character stands for. -/
def Side.ofChar? : Char → Option Side
  | '<' => some .left
  | '>' => some .right
  | '^' => some .center
  | '=' => some .apart
  | _ => none

/-- How a text is set. -/
structure Fitting where
  /-- Where it is set. -/
  side : Side := .left
  /-- What it is filled up with. -/
  fill : Char := ' '
  /-- The sign that is asked for. -/
  sign : Option Char := none
  /-- Whether a negative zero is to lose its sign. -/
  noNegativeZero : Bool := false
  /-- Whether the alternate form is asked for. -/
  alternate : Bool := false
  /-- The width it is filled up to. -/
  width : Option Nat := none
  /-- The mark between groups of digits. -/
  grouping : Option Char := none
  /-- The length it is cut off at. -/
  length : Option Nat := none
  /-- The letter for what is set. -/
  letter : Char := 's'

/-- The largest size that can be asked for. -/
def sizeLimit : Nat := 0x7FFFFFFFFFFFFFFF

/-- The size that decimal digits denote. -/
def sizeOfDigits (digits : List Nat) : Except String Nat :=
  let n := digits.foldl (fun n d ↦ n * 10 + d) 0
  if sizeLimit < n then .error "Too many decimal digits in format string" else .ok n

/-- The values of the decimal digits at the start of a text, and what follows them. -/
def digitsAt : List Char → List Nat × List Char
  | [] => ([], [])
  | c :: cs =>
    match decimalDigit? c with
    | some d => (d :: (digitsAt cs).1, (digitsAt cs).2)
    | none => ([], c :: cs)

/-- A character as messages about fittings show it. -/
def shownChar (c : Char) : String :=
  if 32 < c.toNat && c.toNat < 128 then String.singleton c
  else "\\x" ++ String.ofList (Nat.toDigits 16 c.toNat)

namespace Fitting

/-! ## Reading -/

/-- Reads the side, with or without the fill before it. -/
def readSide (fitting : Fitting) : List Char → Fitting × Bool × List Char
  | c :: d :: cs =>
    match Side.ofChar? d, Side.ofChar? c with
    | some side, _ => ({ fitting with side, fill := c }, true, cs)
    | none, some side => ({ fitting with side }, false, d :: cs)
    | none, none => (fitting, false, c :: d :: cs)
  | [c] =>
    match Side.ofChar? c with
    | some side => ({ fitting with side }, false, [])
    | none => (fitting, false, [c])
  | [] => (fitting, false, [])

/-- Reads a sign. -/
def readSign (fitting : Fitting) : List Char → Fitting × List Char
  | c :: cs =>
    if c == ' ' || c == '+' || c == '-' then ({ fitting with sign := some c }, cs)
    else (fitting, c :: cs)
  | [] => (fitting, [])

/-- Reads the flags after the sign; a zero is the fill if there is no other. -/
def readFlags (fitting : Fitting) (filled : Bool) (cs : List Char) : Fitting × List Char :=
  let (fitting, cs) := match cs with
    | 'z' :: cs => ({ fitting with noNegativeZero := true }, cs)
    | cs => (fitting, cs)
  let (fitting, cs) := match cs with
    | '#' :: cs => ({ fitting with alternate := true }, cs)
    | cs => (fitting, cs)
  match filled, cs with
  | false, '0' :: cs => ({ fitting with fill := '0' }, cs)
  | _, cs => (fitting, cs)

/-- Reads the width. -/
def readWidth (fitting : Fitting) (cs : List Char) : Except String (Fitting × List Char) := do
  let (digits, cs) := digitsAt cs
  if digits.isEmpty then return (fitting, cs)
  return ({ fitting with width := some (← sizeOfDigits digits) }, cs)

/-- Reads the mark between groups of digits, of which there can be one. -/
def readGrouping (fitting : Fitting) : List Char → Except String (Fitting × List Char)
  | ',' :: '_' :: _ | '_' :: ',' :: _ => .error "Cannot specify both ',' and '_'."
  | ',' :: cs => .ok ({ fitting with grouping := some ',' }, cs)
  | '_' :: cs => .ok ({ fitting with grouping := some '_' }, cs)
  | cs => .ok (fitting, cs)

/-- Reads the length. -/
def readLength (fitting : Fitting) : List Char → Except String (Fitting × List Char)
  | '.' :: cs => do
    let (digits, cs) := digitsAt cs
    if digits.isEmpty then throw "Format specifier missing precision"
    return ({ fitting with length := some (← sizeOfDigits digits) }, cs)
  | cs => .ok (fitting, cs)

/-- Whether groups of digits can be marked in what a letter stands for. -/
def groups (mark letter : Char) : Bool :=
  "deEfFgG%".toList.contains letter || mark == '_' && "boxX".toList.contains letter

/-- Reads a fitting. -/
def read (spec : String) : Except String Fitting := do
  let (fitting, filled, cs) := readSide {} spec.toList
  let (fitting, cs) := fitting.readSign cs
  let (fitting, cs) := fitting.readFlags filled cs
  let (fitting, cs) ← fitting.readWidth cs
  let (fitting, cs) ← fitting.readGrouping cs
  let (fitting, cs) ← fitting.readLength cs
  let fitting ← match cs with
    | [] => .ok fitting
    | [letter] => .ok { fitting with letter }
    | _ => .error ("Invalid format specifier '" ++ spec ++ "' for object of type 'str'")
  match fitting.grouping with
  | some mark =>
    if groups mark fitting.letter then return fitting
    else throw ("Cannot specify '" ++ String.singleton mark ++ "' with '"
      ++ shownChar fitting.letter ++ "'.")
  | none => return fitting

/-! ## Setting a text -/

/-- What keeps a text from being set. -/
def refusal? (fitting : Fitting) : Option String :=
  if fitting.letter != 's' then
    some ("Unknown format code '" ++ shownChar fitting.letter ++ "' for object of type 'str'")
  else if fitting.sign == some ' ' then some "Space not allowed in string format specifier"
  else if fitting.sign.isSome then some "Sign not allowed in string format specifier"
  else if fitting.noNegativeZero then
    some "Negative zero coercion (z) not allowed in string format specifier"
  else if fitting.alternate then some "Alternate form (#) not allowed in string format specifier"
  else if fitting.side == .apart then
    some "'=' alignment not allowed in string format specifier"
  else none

/-- A text cut off at its length and filled up to its width. -/
def place (fitting : Fitting) (cs : List Char) : List Char :=
  let cs := match fitting.length with
    | some n => cs.take n
    | none => cs
  let blanks := fitting.width.getD 0 - cs.length
  let before := match fitting.side with
    | .left => 0
    | .center => blanks / 2
    | .right | .apart => blanks
  List.replicate before fitting.fill ++ cs ++ List.replicate (blanks - before) fitting.fill

end Fitting

/-- A text set as a fitting says. -/
def fit (spec s : String) : Except String String := do
  if spec.isEmpty then return s
  let fitting ← Fitting.read spec
  match fitting.refusal? with
  | some message => throw message
  | none => return String.ofList (fitting.place s.toList)

end DiagramForge.Text
