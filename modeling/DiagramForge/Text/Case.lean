import DiagramForge.Text.CharTable

/-!
# Letter case

Full case conversion of texts: one character may become several (`ß` in upper case is `SS`), and a
capital sigma is lowered by its place in the word. ASCII characters are converted by arithmetic
before any table is looked up, so that on ASCII text `lower` and `upper` are plain maps.
-/

namespace DiagramForge.Text

/-- Whether a character is an ASCII one. -/
def isAscii (c : Char) : Bool :=
  c.toNat < 128

/-! ## Single characters -/

/-- The lower-case image of a character, its place in the word left out of account. -/
def lowerImage (c : Char) : List Char :=
  if isAscii c then [c.toLower] else (lowerMap.image? c).getD [c]

/-- The upper-case image of a character. -/
def upperImage (c : Char) : List Char :=
  if isAscii c then [c.toUpper] else (upperMap.image? c).getD [c]

/-- The image of a character that begins a word in title case. -/
def titleImage (c : Char) : List Char :=
  if isAscii c then [c.toUpper] else (titleMap.image? c).getD (upperImage c)

/-! ## The final sigma -/

/-- Whether a search for a neighbouring letter passes over the character. -/
def isCaseIgnorable (c : Char) : Bool :=
  if isAscii c then c == '\'' || c == '.' || c == ':' || c == '^' || c.toNat == 96
  else caseIgnorableClass.contains c

/-- Whether a search for a neighbouring letter finds one in the character. -/
def isCased (c : Char) : Bool :=
  if isAscii c then c.isAlpha else casedClass.contains c

/-- Whether a search along the characters reaches a letter. -/
def reachesLetter (cs : List Char) : Bool :=
  match cs.dropWhile isCaseIgnorable with
  | [] => false
  | c :: _ => isCased c

/-- A sigma ends its word when a letter stands before it and none after it. The characters before
are given from the nearest one on. -/
def isFinalSigma (before after : List Char) : Bool :=
  reachesLetter before && !reachesLetter after

/-! ## Texts -/

/-- The lower-case form of a text that continues the characters `before`, the nearest first. -/
def lowerAfter (before : List Char) : List Char → List Char
  | [] => []
  | c :: cs =>
    (if c == 'Σ' then [if isFinalSigma before cs then 'ς' else 'σ'] else lowerImage c)
      ++ lowerAfter (c :: before) cs

/-- The lower-case form of a text. -/
def lower (cs : List Char) : List Char :=
  lowerAfter [] cs

/-- The upper-case form of a text. -/
def upper (cs : List Char) : List Char :=
  cs.flatMap upperImage

/-- The text with its first character in title case and the others in lower case. -/
def capitalize : List Char → List Char
  | [] => []
  | c :: cs => titleImage c ++ lowerAfter [c] cs

/-- The text with its first character in upper case and the others as they are. -/
def upperFirst : List Char → List Char
  | [] => []
  | c :: cs => upperImage c ++ cs

/-- The text with its first character in lower case and the others as they are. -/
def lowerFirst : List Char → List Char
  | [] => []
  | c :: cs => lower [c] ++ cs

/-- `lower` on strings. -/
def lowerString (s : String) : String :=
  String.ofList (lower s.toList)

/-- `upper` on strings. -/
def upperString (s : String) : String :=
  String.ofList (upper s.toList)

end DiagramForge.Text
