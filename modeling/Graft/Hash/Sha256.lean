/-! # SHA-256

A message is padded to whole blocks of 64 bytes, and the blocks are folded into a state of eight
words. Words are natural numbers below 2^32, which keeps digests cheap to evaluate in proofs.
-/

namespace Graft.Sha256

/-- Eight words: the chaining state, and at the end the digest. -/
structure Words where
  a : Nat
  b : Nat
  c : Nat
  d : Nat
  e : Nat
  f : Nat
  g : Nat
  h : Nat
deriving DecidableEq, Hashable, Repr, Inhabited

def Words.toList (s : Words) : List Nat :=
  [s.a, s.b, s.c, s.d, s.e, s.f, s.g, s.h]

/-! ## Words -/

def modulus : Nat := Nat.pow 2 32

def add (x y : Nat) : Nat :=
  (x + y) % modulus

/-- Cuts a word into the digits above and below a power of two and swaps them. `high` is what
`low` lacks to the modulus, so this is a rotation to the right by the exponent of `low`. -/
def rotate (low high x : Nat) : Nat :=
  x / low ||| x % low * high

def complement (x : Nat) : Nat :=
  modulus - 1 - x

def Words.add (s t : Words) : Words :=
  ⟨Sha256.add s.a t.a, Sha256.add s.b t.b, Sha256.add s.c t.c, Sha256.add s.d t.d,
    Sha256.add s.e t.e, Sha256.add s.f t.f, Sha256.add s.g t.g, Sha256.add s.h t.h⟩

/-! ## Constants -/

/-- The first words of the fractional parts of the square roots of the first eight primes. -/
def start : Words :=
  ⟨0x6a09e667, 0xbb67ae85, 0x3c6ef372, 0xa54ff53a, 0x510e527f, 0x9b05688c, 0x1f83d9ab, 0x5be0cd19⟩

/-- The first words of the fractional parts of the cube roots of the first sixty-four primes. -/
def roundConstants : List Nat :=
  [0x428a2f98, 0x71374491, 0xb5c0fbcf, 0xe9b5dba5, 0x3956c25b, 0x59f111f1, 0x923f82a4, 0xab1c5ed5,
   0xd807aa98, 0x12835b01, 0x243185be, 0x550c7dc3, 0x72be5d74, 0x80deb1fe, 0x9bdc06a7, 0xc19bf174,
   0xe49b69c1, 0xefbe4786, 0x0fc19dc6, 0x240ca1cc, 0x2de92c6f, 0x4a7484aa, 0x5cb0a9dc, 0x76f988da,
   0x983e5152, 0xa831c66d, 0xb00327c8, 0xbf597fc7, 0xc6e00bf3, 0xd5a79147, 0x06ca6351, 0x14292967,
   0x27b70a85, 0x2e1b2138, 0x4d2c6dfc, 0x53380d13, 0x650a7354, 0x766a0abb, 0x81c2c92e, 0x92722c85,
   0xa2bfe8a1, 0xa81a664b, 0xc24b8b70, 0xc76c51a3, 0xd192e819, 0xd6990624, 0xf40e3585, 0x106aa070,
   0x19a4c116, 0x1e376c08, 0x2748774c, 0x34b0bcb5, 0x391c0cb3, 0x4ed8aa4a, 0x5b9cca4f, 0x682e6ff3,
   0x748f82ee, 0x78a5636f, 0x84c87814, 0x8cc70208, 0x90befffa, 0xa4506ceb, 0xbef9a3f7, 0xc67178f2]

/-! ## One block -/

/-- The word that follows a schedule whose words stand last first. -/
def nextWord : List Nat → Nat
  | _ :: w2 :: _ :: _ :: _ :: _ :: w7 :: _ :: _ :: _ :: _ :: _ :: _ :: _ :: w15 :: w16 :: _ =>
    let s0 := rotate 0x80 0x2000000 w15 ^^^ rotate 0x40000 0x4000 w15 ^^^ (w15 >>> 3)
    let s1 := rotate 0x20000 0x8000 w2 ^^^ rotate 0x80000 0x2000 w2 ^^^ (w2 >>> 10)
    (w16 + s0 + w7 + s1) % modulus
  | _ => 0

/-- Adds `n` words to a schedule whose words stand last first. -/
def extend : Nat → List Nat → List Nat
  | 0, words => words
  | n + 1, words => extend n (nextWord words :: words)

/-- The sixty-four words that a block of sixteen is stretched to. -/
def schedule (block : List Nat) : List Nat :=
  (extend 48 block.reverse).reverse

/-- One round, with its constant and its schedule word added up in `k`. -/
def round (s : Words) (k : Nat) : Words :=
  let s1 := rotate 0x40 0x4000000 s.e ^^^ rotate 0x800 0x200000 s.e ^^^ rotate 0x2000000 0x80 s.e
  let choice := (s.e &&& s.f) ^^^ (complement s.e &&& s.g)
  let t1 := s.h + s1 + choice + k
  let s0 := rotate 0x4 0x40000000 s.a ^^^ rotate 0x2000 0x80000 s.a ^^^ rotate 0x400000 0x400 s.a
  let majority := (s.a &&& s.b) ^^^ (s.a &&& s.c) ^^^ (s.b &&& s.c)
  ⟨(t1 + s0 + majority) % modulus, s.a, s.b, s.c, (s.d + t1) % modulus, s.e, s.f, s.g⟩

/-- Folds the sixteen words of one block into the state. -/
def compress (s : Words) (block : List Nat) : Words :=
  s.add ((List.zipWith (· + ·) roundConstants (schedule block)).foldl round s)

/-! ## Whole messages -/

/-- The bytes of a length in bits, most significant first. -/
def lengthBytes (bits : Nat) : List UInt8 :=
  [56, 48, 40, 32, 24, 16, 8, 0].map fun k => (bits >>> k).toUInt8

/-- The message, a one bit, zeros up to a whole block less eight bytes, and the length. -/
def padded (message : List UInt8) : List UInt8 :=
  let zeros := (119 - message.length % 64) % 64
  message ++ 0x80 :: List.replicate zeros 0 ++ lengthBytes (8 * message.length)

/-- The big-endian words of some bytes. -/
def wordsOf : List UInt8 → List Nat
  | a :: b :: c :: d :: rest =>
    (((a.toNat * 256 + b.toNat) * 256 + c.toNat) * 256 + d.toNat) :: wordsOf rest
  | _ => []

/-- Folds some blocks of sixteen words into the state. -/
def absorb : Nat → List Nat → Words → Words
  | 0, _, s => s
  | n + 1, words, s => absorb n (words.drop 16) (compress s (words.take 16))

def hash (message : List UInt8) : Words :=
  let words := wordsOf (padded message)
  absorb (words.length / 16) words start

/-! ## Hexadecimal -/

def hexDigit (n : Nat) : Char :=
  if n < 10 then Char.ofNat (48 + n) else Char.ofNat (87 + n)

def hexWord (w : Nat) : List Char :=
  [28, 24, 20, 16, 12, 8, 4, 0].map fun k => hexDigit ((w >>> k) % 16)

def Words.digits (s : Words) : List Char :=
  s.toList.flatMap hexWord

end Graft.Sha256
