/-
  The hash function SHA-256, on lists of bytes.

  A message is padded to whole blocks of sixteen 32-bit words, most significant byte first;
  each block is expanded to sixty-four words, which stir a state of eight words.  What `sha256`
  makes of a message are the 32 bytes of the last state.
-/

namespace PlatformCore.Hash

/-! ## Words -/

def rotr (x : UInt32) (n : UInt32) : UInt32 := (x >>> n) ||| (x <<< (32 - n))

def wordBytes (x : UInt32) : List UInt8 :=
  [(x >>> 24).toUInt8, (x >>> 16).toUInt8, (x >>> 8).toUInt8, x.toUInt8]

/-- The words that bytes spell; bytes that do not fill a word are left out. -/
def wordsOfBytes : List UInt8 → List UInt32
  | a :: b :: c :: d :: rest =>
    ((a.toUInt32 <<< 24) ||| (b.toUInt32 <<< 16) ||| (c.toUInt32 <<< 8) ||| d.toUInt32) ::
      wordsOfBytes rest
  | _ => []

/-! ## The state -/

/-- The eight words that a message stirs. -/
structure State where
  a : UInt32
  b : UInt32
  c : UInt32
  d : UInt32
  e : UInt32
  f : UInt32
  g : UInt32
  h : UInt32
deriving DecidableEq, Repr

namespace State

/-- The state before the first block: the first 32 bits of the fractional parts of the square
    roots of the first eight primes. -/
def start : State :=
  ⟨0x6a09e667, 0xbb67ae85, 0x3c6ef372, 0xa54ff53a, 0x510e527f, 0x9b05688c, 0x1f83d9ab, 0x5be0cd19⟩

def add (s t : State) : State :=
  ⟨s.a + t.a, s.b + t.b, s.c + t.c, s.d + t.d, s.e + t.e, s.f + t.f, s.g + t.g, s.h + t.h⟩

def bytes (s : State) : List UInt8 :=
  wordBytes s.a ++ wordBytes s.b ++ wordBytes s.c ++ wordBytes s.d ++
    wordBytes s.e ++ wordBytes s.f ++ wordBytes s.g ++ wordBytes s.h

/-- Stirs in one word of the expanded block, with the constant of its round. -/
def stir (s : State) (kw : UInt32 × UInt32) : State :=
  let s₁ := rotr s.e 6 ^^^ rotr s.e 11 ^^^ rotr s.e 25
  let choice := (s.e &&& s.f) ^^^ (~~~s.e &&& s.g)
  let t₁ := s.h + s₁ + choice + kw.1 + kw.2
  let s₀ := rotr s.a 2 ^^^ rotr s.a 13 ^^^ rotr s.a 22
  let majority := (s.a &&& s.b) ^^^ (s.a &&& s.c) ^^^ (s.b &&& s.c)
  ⟨t₁ + (s₀ + majority), s.a, s.b, s.c, s.d + t₁, s.e, s.f, s.g⟩

end State

/-! ## Blocks -/

/-- The constants of the rounds: the first 32 bits of the fractional parts of the cube roots
    of the first sixty-four primes. -/
def roundConstants : List UInt32 := [
  0x428a2f98, 0x71374491, 0xb5c0fbcf, 0xe9b5dba5, 0x3956c25b, 0x59f111f1, 0x923f82a4, 0xab1c5ed5,
  0xd807aa98, 0x12835b01, 0x243185be, 0x550c7dc3, 0x72be5d74, 0x80deb1fe, 0x9bdc06a7, 0xc19bf174,
  0xe49b69c1, 0xefbe4786, 0x0fc19dc6, 0x240ca1cc, 0x2de92c6f, 0x4a7484aa, 0x5cb0a9dc, 0x76f988da,
  0x983e5152, 0xa831c66d, 0xb00327c8, 0xbf597fc7, 0xc6e00bf3, 0xd5a79147, 0x06ca6351, 0x14292967,
  0x27b70a85, 0x2e1b2138, 0x4d2c6dfc, 0x53380d13, 0x650a7354, 0x766a0abb, 0x81c2c92e, 0x92722c85,
  0xa2bfe8a1, 0xa81a664b, 0xc24b8b70, 0xc76c51a3, 0xd192e819, 0xd6990624, 0xf40e3585, 0x106aa070,
  0x19a4c116, 0x1e376c08, 0x2748774c, 0x34b0bcb5, 0x391c0cb3, 0x4ed8aa4a, 0x5b9cca4f, 0x682e6ff3,
  0x748f82ee, 0x78a5636f, 0x84c87814, 0x8cc70208, 0x90befffa, 0xa4506ceb, 0xbef9a3f7, 0xc67178f2]

def nextWord (w : List UInt32) : UInt32 :=
  let x := w.getD 1 0
  let y := w.getD 14 0
  let s₀ := rotr x 7 ^^^ rotr x 18 ^^^ (x >>> 3)
  let s₁ := rotr y 17 ^^^ rotr y 19 ^^^ (y >>> 10)
  w.getD 0 0 + s₀ + w.getD 9 0 + s₁

def expand : Nat → List UInt32 → List UInt32
  | 0, w => w
  | n + 1, w => w.headD 0 :: expand n (w.tail ++ [nextWord w])

def stirBlock (s : State) (block : List UInt32) : State :=
  s.add ((roundConstants.zip (expand 48 block)).foldl State.stir s)

def stirBlocks : Nat → State → List UInt32 → State
  | 0, s, _ => s
  | n + 1, s, w => stirBlocks n (stirBlock s (w.take 16)) (w.drop 16)

/-! ## Messages -/

/-- What is put after a message of `n` bytes: a one bit, zero bits up to the last eight bytes
    of a block, and there the number of bits of the message. -/
def padding (n : Nat) : List UInt8 :=
  0x80 :: List.replicate ((119 - n % 64) % 64) 0 ++
    (wordBytes (UInt32.ofNat (8 * n / 4294967296)) ++ wordBytes (UInt32.ofNat (8 * n)))

def sha256 (message : List UInt8) : List UInt8 :=
  let words := wordsOfBytes (message ++ padding message.length)
  (stirBlocks (words.length / 16) .start words).bytes

end PlatformCore.Hash
