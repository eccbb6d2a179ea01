import DiagramForge.Text.Quoted
import DiagramForge.Text.Utf8

/-!
# Digests

The digest of a text: a number of fixed size that stands for the text where the text itself would be
too long. It is SHA-256, computed from the bytes of the text in UTF-8 and written in hexadecimal.

The bytes are filled up to whole blocks of sixteen words. Each block is spread over 64 words, and
each of these moves the eight words of the state once around.
-/

namespace DiagramForge.Text

namespace Digest

/-! ## Words -/

/-- The word with its bits moved to the right, those that fall off coming in at the left. -/
def rotate (n : UInt32) (w : UInt32) : UInt32 :=
  (w >>> n) ||| (w <<< (32 - n))

/-- The words of some bytes, the highest byte of each first. -/
def words : List UInt8 → List UInt32
  | a :: b :: c :: d :: bytes =>
    ((a.toUInt32 <<< 24) ||| (b.toUInt32 <<< 16) ||| (c.toUInt32 <<< 8) ||| d.toUInt32)
      :: words bytes
  | _ => []

/-- What the rounds add, one word for each. -/
def roundWords : List UInt32 :=
  [0x428a2f98, 0x71374491, 0xb5c0fbcf, 0xe9b5dba5, 0x3956c25b, 0x59f111f1, 0x923f82a4, 0xab1c5ed5,
    0xd807aa98, 0x12835b01, 0x243185be, 0x550c7dc3, 0x72be5d74, 0x80deb1fe, 0x9bdc06a7, 0xc19bf174,
    0xe49b69c1, 0xefbe4786, 0x0fc19dc6, 0x240ca1cc, 0x2de92c6f, 0x4a7484aa, 0x5cb0a9dc, 0x76f988da,
    0x983e5152, 0xa831c66d, 0xb00327c8, 0xbf597fc7, 0xc6e00bf3, 0xd5a79147, 0x06ca6351, 0x14292967,
    0x27b70a85, 0x2e1b2138, 0x4d2c6dfc, 0x53380d13, 0x650a7354, 0x766a0abb, 0x81c2c92e, 0x92722c85,
    0xa2bfe8a1, 0xa81a664b, 0xc24b8b70, 0xc76c51a3, 0xd192e819, 0xd6990624, 0xf40e3585, 0x106aa070,
    0x19a4c116, 0x1e376c08, 0x2748774c, 0x34b0bcb5, 0x391c0cb3, 0x4ed8aa4a, 0x5b9cca4f, 0x682e6ff3,
    0x748f82ee, 0x78a5636f, 0x84c87814, 0x8cc70208, 0x90befffa, 0xa4506ceb, 0xbef9a3f7, 0xc67178f2]

/-! ## Blocks -/

/-- The state that the blocks are worked into. -/
structure State where
  /-- The first word. -/
  a : UInt32 := 0x6a09e667
  /-- The second word. -/
  b : UInt32 := 0xbb67ae85
  /-- The third word. -/
  c : UInt32 := 0x3c6ef372
  /-- The fourth word. -/
  d : UInt32 := 0xa54ff53a
  /-- The fifth word. -/
  e : UInt32 := 0x510e527f
  /-- The sixth word. -/
  f : UInt32 := 0x9b05688c
  /-- The seventh word. -/
  g : UInt32 := 0x1f83d9ab
  /-- The eighth word. -/
  h : UInt32 := 0x5be0cd19

/-- Two states added word by word. -/
def State.add (s t : State) : State :=
  ⟨s.a + t.a, s.b + t.b, s.c + t.c, s.d + t.d, s.e + t.e, s.f + t.f, s.g + t.g, s.h + t.h⟩

/-- One round, with the word of the round and one of the block. -/
def State.round (s : State) (k w : UInt32) : State :=
  let choice := (s.e &&& s.f) ^^^ (~~~s.e &&& s.g)
  let majority := (s.a &&& s.b) ^^^ (s.a &&& s.c) ^^^ (s.b &&& s.c)
  let first := s.h + (rotate 6 s.e ^^^ rotate 11 s.e ^^^ rotate 25 s.e) + choice + k + w
  let second := (rotate 2 s.a ^^^ rotate 13 s.a ^^^ rotate 22 s.a) + majority
  ⟨first + second, s.a, s.b, s.c, s.d + first, s.e, s.f, s.g⟩

/-- Adds words to those of a block, which are held the last one first. -/
def spread : (count : Nat) → List UInt32 → List UInt32
  | 0, ws => ws
  | count + 1, ws =>
    let near := ws.getD 1 0
    let far := ws.getD 14 0
    spread count
      (((rotate 17 near ^^^ rotate 19 near ^^^ (near >>> 10)) + ws.getD 6 0
        + (rotate 7 far ^^^ rotate 18 far ^^^ (far >>> 3)) + ws.getD 15 0) :: ws)

/-- Works a block into a state. -/
def State.absorb (s : State) (block : List UInt32) : State :=
  s.add (((roundWords.zip (spread 48 block.reverse).reverse)).foldl (fun s e ↦ s.round e.1 e.2) s)

/-- Works a number of blocks into a state. -/
def State.absorbAll (s : State) : (blocks : Nat) → List UInt32 → State
  | 0, _ => s
  | blocks + 1, ws => (s.absorb (ws.take 16)).absorbAll blocks (ws.drop 16)

/-- The bytes filled up to whole blocks: a byte with one bit, zeros, and the number of bits. -/
def fill (bytes : List UInt8) : List UInt8 :=
  let zeros := (119 - bytes.length % 64) % 64
  let bits := 8 * bytes.length
  let size := (List.range 8).reverse.map fun n ↦ UInt8.ofNat (bits >>> (8 * n))
  bytes ++ 0x80 :: List.replicate zeros 0 ++ size

/-- The state that all of some bytes are worked into. -/
def ofBytes (bytes : List UInt8) : State :=
  let ws := words (fill bytes)
  State.absorbAll {} (ws.length / 16) ws

end Digest

/-- The first sixteen digits of the digest of a text. -/
def shortDigest (s : String) : String :=
  let d := Digest.ofBytes (encodeUtf8 s.toList)
  String.ofList (hexDigits 8 d.a.toNat ++ hexDigits 8 d.b.toNat)

example : shortDigest "abc" = "ba7816bf8f01cfea" := by decide +kernel

end DiagramForge.Text
