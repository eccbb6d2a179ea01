import DiagramForge.Text.Quoted

/-!
# Digits and identifiers

Numbers and names may be written with any digits and letters of Unicode, not only those of ASCII.
-/

namespace DiagramForge.Text

/-! ## Digits -/

/-- The value of a decimal digit. -/
def decimalDigit? (c : Char) : Option Nat :=
  if c.toNat < 128 then if c.isDigit then some (c.toNat - 48) else none
  else (digitClass.ranges.find? fun r ↦ r.contains c).map fun r ↦ (c.toNat - r.lo) % 10

/-- The number that a text of decimal digits denotes. -/
def decimal? (s : String) : Option Nat :=
  if s.isEmpty then none
  else s.toList.foldl (fun n c ↦ n.bind fun n ↦ (decimalDigit? c).map (n * 10 + ·)) (some 0)

/-- How many decimal digits an integer may have. -/
def digitLimit : Nat := 4300

/-- Why a text does not denote what is to be read from it. -/
inductive ReadFault where
  /-- It is not written as it should be. -/
  | malformed
  /-- It holds an integer of too many digits. -/
  | oversized (digits : Nat)
deriving DecidableEq

/-- The integer that decimal digits denote, which are values less than ten. -/
def integerOfDigits (negative : Bool) (digits : List Nat) : Except ReadFault Int :=
  if digitLimit < digits.length then .error (.oversized digits.length)
  else
    let n : Nat := digits.foldl (fun n d ↦ n * 10 + d) 0
    .ok (if negative then -(n : Int) else n)

/-- Whether a character may surround an integer. -/
def surroundsInteger (c : Char) : Bool :=
  isBlank c && !(28 ≤ c.toNat && c.toNat ≤ 31)

/-- The values of the digits at the start of a text and what follows them; single underscores may
stand between digits. -/
def leadingDigits : List Char → List Nat × List Char
  | [] => ([], [])
  | '_' :: c :: cs =>
    match decimalDigit? c with
    | some d => ((d :: (leadingDigits cs).1), (leadingDigits cs).2)
    | none => ([], '_' :: c :: cs)
  | c :: cs =>
    match decimalDigit? c with
    | some d => ((d :: (leadingDigits cs).1), (leadingDigits cs).2)
    | none => ([], c :: cs)

/-- The integer that a text denotes: digits, perhaps with a sign before them and with blanks around
it all. -/
def readInteger (s : String) : Except ReadFault Int := do
  let cs := s.toList.dropWhile surroundsInteger
  let (negative, cs) := match cs with
    | '-' :: cs => (true, cs)
    | '+' :: cs => (false, cs)
    | cs => (false, cs)
  if cs.head? == some '_' then throw .malformed
  let (digits, rest) := leadingDigits cs
  if digits.isEmpty || rest.head? == some '_' then throw .malformed
  let n ← integerOfDigits negative digits
  if rest.all surroundsInteger then return n else throw .malformed

/-- The value of a hexadecimal digit, decimal digits beyond ASCII included. -/
def anyHexValue? (c : Char) : Option Nat :=
  if c.toNat < 128 then hexValue? c else decimalDigit? c

/-! ## Identifiers -/

/-- Whether a character can stand in the spelling of a name: letters, numbers, underscores, marks
and connectors. -/
def isNameChar (c : Char) : Bool :=
  isWordChar c || 128 ≤ c.toNat && markClass.contains c

/-- The signs among the marks that can begin an identifier. -/
def startMarks : List Nat := [0x1885, 0x1886, 0x2118, 0x212E]

/-- Whether a character of a name can begin an identifier. -/
def beginsIdentifier (c : Char) : Bool :=
  if c.toNat < 128 then !c.isDigit
  else if startMarks.contains c.toNat then true
  else isWordChar c && (decimalDigit? c).isNone && !innerClass.contains c && !strayClass.contains c

/-- Whether a name, a text of name characters, is an identifier. -/
def isIdentifier : List Char → Bool
  | [] => false
  | c :: cs => beginsIdentifier c && !cs.any fun c ↦ 128 ≤ c.toNat && strayClass.contains c

end DiagramForge.Text
