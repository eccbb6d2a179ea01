import DiagramForge.Text.CodePage
import DiagramForge.Text.Punycode
import DiagramForge.Text.Quoted
import DiagramForge.Text.Utf8

/-!
# Encodings of output files

The encodings a file can be written in. Those of Unicode encode every text; the others refuse the
characters they do not have, and a report of that names the first such character, or the whole run
of them. Of the encodings of several bytes per character only the characters below U+0100 and the
euro sign are known here.

Encodings have many names. In a name, capitals do not count, and any run of characters other than
letters, digits and points separates words.
-/

namespace DiagramForge.Text

/-! ## Faults -/

/-- What a text is encoded for. -/
inductive EncodingUse where
  /-- To be measured. -/
  | measure
  /-- To be written to a file. -/
  | file
deriving DecidableEq

/-- Why a text cannot be encoded. -/
inductive EncodeFault where
  /-- The name of the encoding holds the null character. -/
  | nullCharacter
  /-- There is no encoding of the name. -/
  | unknown (name : String)
  /-- What bears the name does not encode texts. -/
  | transform (use : EncodingUse) (name : String)
  /-- The encoding does not admit the text. -/
  | unfit (use : EncodingUse) (name reason : String)
  /-- The encoding lacks the characters from one offset up to another, the first of which is
  given. -/
  | lacks (label reason : String) (first : Char) (start stop : Nat)

namespace EncodeFault

/-- The class of a fault in reports. -/
def label : EncodeFault → String
  | nullCharacter => "ValueError"
  | unknown _ => "LookupError"
  | transform .. => "LookupError"
  | unfit .. => "UnicodeError"
  | lacks .. => "UnicodeEncodeError"

/-- The wording of a fault. -/
def message : EncodeFault → String
  | nullCharacter => "embedded null character"
  | unknown name => "unknown encoding: " ++ name
  | transform use name =>
    let means := match use with
      | .measure => "codecs.encode()"
      | .file => "codecs.open()"
    "'" ++ name ++ "' is not a text encoding; use " ++ means ++ " to handle arbitrary codecs"
  | unfit .measure name reason =>
    "encoding with '" ++ name ++ "' codec failed (UnicodeError: " ++ reason ++ ")"
  | unfit .file _ reason => reason
  | lacks label reason first start stop =>
    let place :=
      if stop == start + 1 then
        "character '" ++ String.ofList (hexEscape first) ++ "' in position "
          ++ ToString.toString start
      else
        "characters in position " ++ ToString.toString start ++ "-" ++ ToString.toString (stop - 1)
    "'" ++ label ++ "' codec can't encode " ++ place ++ ": " ++ reason

end EncodeFault

/-! ## Encodings -/

/-- The ways to encode a text. -/
inductive Encoding where
  /-- UTF-8, with a byte order mark or without. -/
  | utf8 (mark : Bool)
  /-- UTF-16, with the bytes of a unit in one order or the other, with a byte order mark or
  without. -/
  | utf16 (mark bigEndian : Bool)
  /-- UTF-32, likewise. -/
  | utf32 (mark bigEndian : Bool)
  /-- UTF-7. -/
  | utf7
  /-- One byte per character, for the characters below a limit. -/
  | narrow (label : String) (limit : Nat)
  /-- One byte per character, as a table says. -/
  | page (table : String)
  /-- One or more bytes per character. -/
  | multibyte (label : String)
  /-- Escapes for the characters that are not printable in ASCII. -/
  | escaped
  /-- Escapes for the characters that have no single byte. -/
  | wideEscaped
  /-- Punycode. -/
  | punycode
  /-- Labels with dots between them, in Punycode where they are not ASCII. -/
  | host
  /-- Nothing at all is encoded. -/
  | void
  /-- No text is encoded, but bytes are. -/
  | transform

namespace Encoding

/-- The encoding that has a name as its own. -/
def ofLabel? (label : String) : Option Encoding :=
  match label with
  | "utf_8" => some (utf8 false)
  | "utf_8_sig" => some (utf8 true)
  | "utf_16" => some (utf16 true false)
  | "utf_16_le" => some (utf16 false false)
  | "utf_16_be" => some (utf16 false true)
  | "utf_32" => some (utf32 true false)
  | "utf_32_le" => some (utf32 false false)
  | "utf_32_be" => some (utf32 false true)
  | "utf_7" => some utf7
  | "ascii" => some (narrow "ascii" 128)
  | "latin_1" | "charmap" => some (narrow "latin-1" 256)
  | "unicode_escape" => some escaped
  | "raw_unicode_escape" => some wideEscaped
  | "punycode" => some punycode
  | "idna" => some host
  | "undefined" => some void
  | label =>
    if byteTransforms.contains label then some transform
    else if multibyteEncodings.contains label then some (multibyte label)
    else (codePages.find? fun e ↦ e.1 == label).map fun e ↦ page e.2

/-- Whether a character belongs to a word in the name of an encoding. -/
def isNamePart (c : Char) : Bool :=
  c.isAlphanum || c == '.'

/-- The name of an encoding in lower case, its words separated by underscores. -/
def nameKey (name : String) : String :=
  joinStrings "_" ((words (!isNamePart ·) name.toList).map fun cs ↦
    String.ofList (cs.map Char.toLower))

/-- The own name of the encoding that has a name among its others. -/
def aliased? (key : String) : Option String :=
  (encodingNames.find? fun e ↦ e.2.contains key).map (·.1)

/-- The encoding with a name: an other name of it, perhaps with points for underscores, or its
own. -/
def ofName? (name : String) : Option Encoding :=
  let key := nameKey name
  let underscored := key.map fun c ↦ if c == '.' then '_' else c
  match (aliased? key).orElse fun _ ↦ aliased? underscored with
  | some label => ofLabel? label
  | none => ofLabel? key

end Encoding

/-! ## Encoding -/

/-- The bytes of a number, `width` of them. -/
def bytesOf (bigEndian : Bool) (width n : Nat) : List UInt8 :=
  let bytes := (List.range width).map fun i ↦ UInt8.ofNat (n >>> (8 * i))
  if bigEndian then bytes.reverse else bytes

/-- The units of a character in UTF-16. -/
def units16 (c : Char) : List Nat :=
  let n := c.toNat
  if n < 0x10000 then [n]
  else [0xD800 + (n - 0x10000) / 0x400, 0xDC00 + (n - 0x10000) % 0x400]

/-- The bytes of characters that are ASCII. -/
def asciiBytes (cs : List Char) : List UInt8 :=
  cs.map fun c ↦ UInt8.ofNat c.toNat

/-- Encodes a text character by character. `wholeRun` says that a report names all characters of a
run that have no bytes, and not only the first of them. -/
def encodeEach (label reason : String) (wholeRun : Bool) (bytes? : Char → Option (List UInt8))
    (cs : List Char) : Except EncodeFault (List UInt8) :=
  let has (c : Char) : Bool := (bytes? c).isSome
  let good := cs.takeWhile has
  match cs.dropWhile has with
  | [] => .ok (cs.flatMap fun c ↦ (bytes? c).getD [])
  | c :: rest =>
    let run := if wholeRun then (c :: rest).takeWhile (!has ·) else [c]
    .error (.lacks label reason c good.length (good.length + run.length))

/-- The byte that a table has for a character. -/
def pageByte? (table : List Char) (c : Char) : Option (List UInt8) :=
  let start := 256 - table.length
  if c.toNat < start then some [UInt8.ofNat c.toNat]
  else if c == '\uFFFF' then none
  else (table.findIdx? (· == c)).map fun n ↦ [UInt8.ofNat (start + n)]

/-- The bytes that an even number of hexadecimal digits denotes. -/
def hexBytes : List Char → List UInt8
  | a :: b :: cs => UInt8.ofNat (hexNumber [a, b]) :: hexBytes cs
  | _ => []

/-- The bytes of a character beyond ASCII in an encoding of several bytes per character, if it is
among the characters that `latinCodes` has. -/
def latinBytes? (label : String) (c : Char) : Option (List UInt8) := do
  let (_, table) ← latinCodes.find? fun e ↦ e.1.contains label
  let code ← (words isBlank table.toList).find? fun code ↦
    hexNumber (code.takeWhile (· != '=')) == c.toNat
  return hexBytes (code.dropWhile (· != '=')).tail

/-- The bytes of a character in an encoding of several bytes per character. -/
def multibyte? (label : String) (c : Char) : Option (List UInt8) :=
  if 128 ≤ c.toNat then latinBytes? label c
  else if label == "hz" && c == '~' then some (asciiBytes ['~', '~'])
  else if ["shift_jis_2004", "shift_jisx0213"].contains label && c == '\\' then some [0x81, 0x5F]
  else if ["shift_jis_2004", "shift_jisx0213"].contains label && c == '~' then some [0x81, 0xB0]
  else some (asciiBytes [c])

/-- A character as an encoding with escapes has it. -/
def escapedChar (c : Char) : List Char :=
  match c with
  | '\\' => ['\\', '\\']
  | '\t' => ['\\', 't']
  | '\n' => ['\\', 'n']
  | '\r' => ['\\', 'r']
  | c => if 32 ≤ c.toNat && c.toNat < 127 then [c] else hexEscape c

/-! ### UTF-7

Characters that are not safe everywhere are written in runs, as the digits of their units in base
64 between a plus and a minus; the minus is left out where what follows cannot be a digit. -/

/-- Whether a character is written as it is. -/
def isDirect (c : Char) : Bool :=
  if c.toNat < 32 || 127 ≤ c.toNat then ['\t', '\n', '\r'].contains c
  else c != '+' && c != '\\' && c != '~'

/-- The digits of base 64. -/
def digits64 : List Char :=
  "ABCDEFGHIJKLMNOPQRSTUVWXYZabcdefghijklmnopqrstuvwxyz0123456789+/".toList

/-- The digits of a list of bits, filled up with zeros. -/
def base64 (bits : List Bool) : List Char :=
  match bits with
  | [] => []
  | a :: bits =>
    let n := (a :: (bits.take 5 ++ List.replicate (5 - bits.length) false)).foldl
      (fun n bit ↦ 2 * n + bit.toNat) 0
    digits64.getD n 'A' :: base64 (bits.drop 5)
termination_by bits.length
decreasing_by
  rw [List.length_drop, List.length_cons]
  omega

/-- The sixteen bits of a unit. -/
def bitsOf (n : Nat) : List Bool :=
  (List.range 16).reverse.map n.testBit

/-- A text in UTF-7; `run` holds the characters of the run so far, the last one first. -/
def utf7Chars (run : List Char) (cs : List Char) : List Char :=
  let digits := base64 ((run.reverse.flatMap units16).flatMap bitsOf)
  match run, cs with
  | [], [] => []
  | _ :: _, [] => '+' :: digits ++ ['-']
  | [], c :: cs =>
    if c == '+' then '+' :: '-' :: utf7Chars [] cs
    else if isDirect c then c :: utf7Chars [] cs
    else utf7Chars [c] cs
  | run@(_ :: _), c :: cs =>
    if isDirect c then
      '+' :: digits ++ (if digits64.contains c || c == '-' then ['-', c] else [c])
        ++ utf7Chars [] cs
    else utf7Chars (c :: run) cs

/-! ### All encodings -/

/-- Encodes a text. -/
def Encoding.encode (e : Encoding) (use : EncodingUse) (name : String) (cs : List Char) :
    Except EncodeFault (List UInt8) :=
  match e with
  | utf8 mark => .ok ((if mark then [0xEF, 0xBB, 0xBF] else []) ++ encodeUtf8 cs)
  | utf16 mark bigEndian =>
    let units := (if mark then [0xFEFF] else []) ++ cs.flatMap units16
    .ok (units.flatMap (bytesOf bigEndian 2))
  | utf32 mark bigEndian =>
    let units := (if mark then [0xFEFF] else []) ++ cs.map Char.toNat
    .ok (units.flatMap (bytesOf bigEndian 4))
  | utf7 => .ok (asciiBytes (utf7Chars [] cs))
  | narrow label limit =>
    let reason := "ordinal not in range(" ++ ToString.toString limit ++ ")"
    encodeEach label reason true
      (fun c ↦ if c.toNat < limit then some [UInt8.ofNat c.toNat] else none) cs
  | page table =>
    encodeEach "charmap" "character maps to <undefined>" true (pageByte? table.toList) cs
  | multibyte label =>
    encodeEach label "illegal multibyte sequence" false (multibyte? label) cs
  | escaped => .ok (asciiBytes (cs.flatMap escapedChar))
  | wideEscaped =>
    .ok (asciiBytes (cs.flatMap fun c ↦ if c.toNat < 256 then [c] else hexEscape c))
  | punycode => .ok (asciiBytes (Punycode.encode cs))
  | host =>
    let written := match use with
      | .measure => hostName cs
      | .file => hostNameStart cs
    (written.map asciiBytes).mapError (.unfit use name)
  | void => .error (.unfit use name "undefined encoding")
  | transform => .error (.transform use name)

/-- The name that stands for the encoding of the place where a file is written. -/
def localName : String := "locale"

/-- Encodes a text in the encoding with a name. -/
def encodeAs (use : EncodingUse) (name : String) (text : String) :
    Except EncodeFault (List UInt8) :=
  if name.toList.contains '\x00' then .error .nullCharacter
  else if use == .file && name == localName then .ok (encodeUtf8 text.toList)
  else
    match Encoding.ofName? name with
    | some e => e.encode use name text.toList
    | none => .error (.unknown name)

end DiagramForge.Text
