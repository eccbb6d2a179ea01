import DiagramForge.Text.Position

/-!
# UTF-8

Reading UTF-8 with exact reports: bytes that are not UTF-8 are refused at the first sequence that
cannot be completed, with the reason it cannot.
-/

namespace DiagramForge.Text

/-- Why bytes are not UTF-8. -/
inductive Utf8Reason where
  /-- The byte begins no sequence. -/
  | invalidStart
  /-- A byte of the sequence is not one that may follow there. -/
  | invalidContinuation
  /-- The bytes end inside a sequence. -/
  | unexpectedEnd
deriving DecidableEq

/-- The wording of a reason. -/
def Utf8Reason.message : Utf8Reason → String
  | invalidStart => "invalid start byte"
  | invalidContinuation => "invalid continuation byte"
  | unexpectedEnd => "unexpected end of data"

/-- Where bytes stop being UTF-8. -/
structure Utf8Fault where
  /-- The reason. -/
  reason : Utf8Reason
  /-- The number of bytes before the sequence at fault. -/
  offset : Nat
  /-- The bytes at fault, of which there is at least one. -/
  bytes : List UInt8
  /-- The text of the bytes before it. -/
  before : List Char

namespace Utf8Fault

/-- A byte in hexadecimal. -/
def byteLabel (b : UInt8) : String :=
  let digits := Nat.toDigits 16 b.toNat
  String.ofList (List.replicate (2 - digits.length) '0' ++ digits)

/-- The wording of a fault. -/
def message (f : Utf8Fault) : String :=
  let place := match f.bytes with
    | [b] => "byte 0x" ++ byteLabel b ++ " in position " ++ toString f.offset
    | bs =>
      "bytes in position " ++ toString f.offset ++ "-" ++ toString (f.offset + bs.length - 1)
  "'utf-8' codec can't decode " ++ place ++ ": " ++ f.reason.message

end Utf8Fault

/-- Whether a byte can continue a sequence. -/
def isContinuation (b : UInt8) : Bool :=
  0x80 ≤ b && b ≤ 0xBF

/-- The number of bytes that follow a first byte, if it is one. -/
def sequenceTail? (b : UInt8) : Option Nat :=
  if b < 0x80 then some 0
  else if 0xC2 ≤ b && b ≤ 0xDF then some 1
  else if 0xE0 ≤ b && b ≤ 0xEF then some 2
  else if 0xF0 ≤ b && b ≤ 0xF4 then some 3
  else none

/-- Whether a byte can be the second one after a first byte: overlong sequences, surrogates and
numbers beyond the last code point are ruled out here. -/
def isSecond (first b : UInt8) : Bool :=
  isContinuation b
    && (first != 0xE0 || 0xA0 ≤ b) && (first != 0xED || b ≤ 0x9F)
    && (first != 0xF0 || 0x90 ≤ b) && (first != 0xF4 || b ≤ 0x8F)

/-- The number that a first byte and the bytes after it denote. -/
def sequenceValue (first : UInt8) (tail : List UInt8) : Nat :=
  let bits := match tail.length with
    | 0 => first.toNat
    | 1 => first.toNat - 0xC0
    | 2 => first.toNat - 0xE0
    | _ => first.toNat - 0xF0
  tail.foldl (fun n b ↦ n * 64 + (b.toNat - 0x80)) bits

/-- The bytes that continue a sequence, `n` of them, the next one subject to `ok`; `taken` are the
bytes of the sequence before them, which come with the reason if there is a fault. -/
def takeTail (ok : UInt8 → Bool) (taken : List UInt8) :
    (n : Nat) → List UInt8 → Except (Utf8Reason × List UInt8) (List UInt8)
  | 0, _ => .ok []
  | _ + 1, [] => .error (.unexpectedEnd, taken)
  | n + 1, b :: bs =>
    if ok b then (takeTail isContinuation (taken ++ [b]) n bs).map (b :: ·)
    else .error (.invalidContinuation, taken)

/-- The next character of UTF-8 and the number of bytes it takes. -/
def nextChar (first : UInt8) (bytes : List UInt8) :
    Except (Utf8Reason × List UInt8) (Char × Nat) :=
  match sequenceTail? first with
  | none => .error (.invalidStart, [first])
  | some n =>
    (takeTail (isSecond first) [first] n bytes).map fun tail ↦
      (Char.ofNat (sequenceValue first tail), n + 1)

/-- Reads UTF-8; `before` is the text read so far, last character first. -/
def decodeUtf8From (offset : Nat) (before : List Char) (bytes : List UInt8) :
    Except Utf8Fault (List Char) :=
  match bytes with
  | [] => .ok before.reverse
  | b :: bs =>
    match nextChar b bs with
    | .error (reason, fault) => .error ⟨reason, offset, fault, before.reverse⟩
    | .ok (c, width) => decodeUtf8From (offset + width) (c :: before) (bs.drop (width - 1))
termination_by bytes.length
decreasing_by
  rw [List.length_drop, List.length_cons]
  omega

/-- Reads UTF-8. -/
def decodeUtf8 (bytes : List UInt8) : Except Utf8Fault (List Char) :=
  decodeUtf8From 0 [] bytes

/-- Writes UTF-8. -/
def encodeUtf8 (cs : List Char) : List UInt8 :=
  cs.flatMap String.utf8EncodeChar

end DiagramForge.Text
