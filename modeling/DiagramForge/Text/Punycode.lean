import DiagramForge.Text.Case

/-!
# Punycode

A text is written with ASCII characters alone: first those it has, then a minus if there are any,
then where the others belong. The others are taken in ascending order. What is written for one is
how many steps a walk takes that goes around the text, past every place where the character could
stand and, at the end of each round, on to the next character.

A number of steps is written with the least digit first. How large a digit has to be for another one
to follow depends on its place and on a bias, which is set anew after each number from its size.
-/

namespace DiagramForge.Text

/-- The digits, from zero on. -/
def punycodeDigits : List Char :=
  "abcdefghijklmnopqrstuvwxyz0123456789".toList

/-- The number of digits. -/
def punycodeBase : Nat := 36

/-- The least digit that another one follows, at a place whose number is a multiple of the base. -/
def threshold (bias place : Nat) : Nat :=
  max 1 (min 26 (place - bias))

/-- The digits of a number from a place on. -/
def stepDigits (bias place n : Nat) : List Char :=
  let t := threshold bias place
  if n < t then [punycodeDigits.getD n 'a']
  else
    punycodeDigits.getD (t + (n - t) % (punycodeBase - t)) 'a'
      :: stepDigits bias (place + punycodeBase) ((n - t) / (punycodeBase - t))
termination_by n
decreasing_by
  have ht : 1 ≤ threshold bias place := Nat.le_max_left ..
  exact Nat.lt_of_le_of_lt (Nat.div_le_self ..) (by omega)

/-- The bias that a number leads to, once it is scaled. -/
def biasOf (place n : Nat) : Nat :=
  if 455 < n then biasOf (place + punycodeBase) (n / 35) else place + punycodeBase * n / (n + 38)
termination_by n
decreasing_by omega

/-- The bias after a number that has been written, `points` characters of the text now being
placed. -/
def nextBias (n points : Nat) (first : Bool) : Nat :=
  let n := if first then n / 700 else n / 2
  biasOf 0 (n + n / points)

/-- A text while it is being written. -/
structure Punycode where
  /-- What is written so far. -/
  written : List Char
  /-- The number of characters of the text that have been placed. -/
  placed : Nat
  /-- The character that the walk is at. -/
  next : Nat := 128
  /-- The steps since the last number. -/
  steps : Nat := 0
  /-- The bias for the next number. -/
  bias : Nat := 72
  /-- Whether no number has been written. -/
  first : Bool := true

namespace Punycode

/-- Goes past a character of the text, or places it if it is the one the walk is at. -/
def pass (p : Punycode) (c : Char) : Punycode :=
  if c.toNat < p.next then { p with steps := p.steps + 1 }
  else if c.toNat == p.next then
    { p with
      written := p.written ++ stepDigits p.bias punycodeBase p.steps
      placed := p.placed + 1
      steps := 0
      bias := nextBias p.steps (p.placed + 1) p.first
      first := false }
  else p

/-- Goes on to a character, and then around the text once. -/
def place (cs : List Char) (p : Punycode) (n : Nat) : Punycode :=
  let p := { p with steps := p.steps + (n - p.next) * (p.placed + 1), next := n }
  let p := cs.foldl pass p
  { p with steps := p.steps + 1, next := n + 1 }

/-- Writes a text. -/
def encode (cs : List Char) : List Char :=
  let plain := cs.filter isAscii
  let others := ((cs.filter (!isAscii ·)).map Char.toNat).mergeSort.eraseReps
  let start : Punycode :=
    { written := if plain.isEmpty then [] else plain ++ ['-'], placed := plain.length }
  (others.foldl (place cs) start).written

end Punycode

/-! ## Host names

A host name consists of labels with dots between them. A label that is not ASCII is written in
Punycode, with a mark in front of it. -/

/-- Whether a character separates labels. -/
def isLabelDot (c : Char) : Bool :=
  ['.', '\u3002', '\uFF0E', '\uFF61'].contains c

/-- The mark of a label in Punycode. -/
def punycodeMark : List Char :=
  "xn--".toList

/-- A label in ASCII, or what is wrong with it. -/
def hostLabel (label : List Char) : Except String (List Char) := do
  let sized (cs : List Char) : Except String (List Char) :=
    if 0 < cs.length && cs.length < 64 then .ok cs else .error "label empty or too long"
  if label.all isAscii then sized label
  else
    let label := lower label
    if label.all isAscii then sized label
    else if punycodeMark.isPrefixOf label then throw "Label starts with ACE prefix"
    else sized (punycodeMark ++ Punycode.encode label)

/-- Labels in ASCII with dots between them. -/
def hostLabels (labels : List (List Char)) : Except String (List Char) := do
  return ['.'].intercalate (← labels.mapM hostLabel)

/-- A whole host name in ASCII. -/
def hostName (cs : List Char) : Except String (List Char) := do
  if cs.isEmpty then return []
  if cs.all isAscii then
    let labels := fields (· == '.') cs
    if labels.dropLast.any fun l ↦ l.isEmpty || 64 ≤ l.length then throw "label empty or too long"
    if 64 ≤ (labels.getLastD []).length then throw "label too long"
    return cs
  let labels := fields isLabelDot cs
  if (labels.getLastD []).isEmpty then return (← hostLabels labels.dropLast) ++ ['.']
  hostLabels labels

/-- What is known of a host name in ASCII when more of it may follow: its labels but the last. -/
def hostNameStart (cs : List Char) : Except String (List Char) := do
  match (fields isLabelDot cs).dropLast with
  | [] => return []
  | labels => return (← hostLabels labels) ++ ['.']

end DiagramForge.Text
