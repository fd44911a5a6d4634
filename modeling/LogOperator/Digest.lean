/-!
# LogOperator.Digest

The SHA-256 digest of FIPS 180-4 over lists of bytes, and the bytes of numbers and texts that
go into it.

* `length_bytesLE`: a number in a fixed count of bytes, the least significant one first.
* `Sha256.digest`: the digest of a message of any length.
-/

namespace LogOperator

/-! ## Bytes of numbers and texts -/

/-- The `k` least significant bytes of a number, the least significant one first. -/
def bytesLE : Nat → Nat → List UInt8
  | 0, _ => []
  | k + 1, n => n.toUInt8 :: bytesLE k (n / 256)

theorem length_bytesLE (k n : Nat) : (bytesLE k n).length = k := by
  induction k generalizing n with
  | zero => rfl
  | succ k ih => simp [bytesLE, ih]

/-- The `k` least significant bytes of a number, the most significant one first. -/
def bytesBE (k n : Nat) : List UInt8 :=
  (bytesLE k n).reverse

def utf8 (s : String) : List UInt8 :=
  s.toUTF8.data.toList

def hexByte (b : UInt8) : List Char :=
  [Nat.digitChar (b.toNat / 16), Nat.digitChar (b.toNat % 16)]

/-- Bytes as hexadecimal text, two digits each. -/
def hexText (bs : List UInt8) : String :=
  String.ofList (bs.flatMap hexByte)

namespace Sha256

/-! ## The compression function -/

/-- The round constants: the first 32 fractional bits of the cube roots of the first 64 primes. -/
def roundConstants : List UInt32 :=
  [0x428a2f98, 0x71374491, 0xb5c0fbcf, 0xe9b5dba5, 0x3956c25b, 0x59f111f1, 0x923f82a4, 0xab1c5ed5,
   0xd807aa98, 0x12835b01, 0x243185be, 0x550c7dc3, 0x72be5d74, 0x80deb1fe, 0x9bdc06a7, 0xc19bf174,
   0xe49b69c1, 0xefbe4786, 0x0fc19dc6, 0x240ca1cc, 0x2de92c6f, 0x4a7484aa, 0x5cb0a9dc, 0x76f988da,
   0x983e5152, 0xa831c66d, 0xb00327c8, 0xbf597fc7, 0xc6e00bf3, 0xd5a79147, 0x06ca6351, 0x14292967,
   0x27b70a85, 0x2e1b2138, 0x4d2c6dfc, 0x53380d13, 0x650a7354, 0x766a0abb, 0x81c2c92e, 0x92722c85,
   0xa2bfe8a1, 0xa81a664b, 0xc24b8b70, 0xc76c51a3, 0xd192e819, 0xd6990624, 0xf40e3585, 0x106aa070,
   0x19a4c116, 0x1e376c08, 0x2748774c, 0x34b0bcb5, 0x391c0cb3, 0x4ed8aa4a, 0x5b9cca4f, 0x682e6ff3,
   0x748f82ee, 0x78a5636f, 0x84c87814, 0x8cc70208, 0x90befffa, 0xa4506ceb, 0xbef9a3f7, 0xc67178f2]

/-- The eight working words. -/
structure State where
  a : UInt32
  b : UInt32
  c : UInt32
  d : UInt32
  e : UInt32
  f : UInt32
  g : UInt32
  h : UInt32
deriving DecidableEq

/-- The first 32 fractional bits of the square roots of the first eight primes. -/
def State.initial : State :=
  ⟨0x6a09e667, 0xbb67ae85, 0x3c6ef372, 0xa54ff53a, 0x510e527f, 0x9b05688c, 0x1f83d9ab, 0x5be0cd19⟩

def State.add (s t : State) : State :=
  ⟨s.a + t.a, s.b + t.b, s.c + t.c, s.d + t.d, s.e + t.e, s.f + t.f, s.g + t.g, s.h + t.h⟩

def State.words (s : State) : List UInt32 :=
  [s.a, s.b, s.c, s.d, s.e, s.f, s.g, s.h]

/-- Rotation to the right, by an amount from 1 to 31. -/
def rotr (x n : UInt32) : UInt32 :=
  (x >>> n) ||| (x <<< (32 - n))

/-- One round with its schedule word and constant. -/
def round (s : State) (wk : UInt32 × UInt32) : State :=
  let big1 := rotr s.e 6 ^^^ rotr s.e 11 ^^^ rotr s.e 25
  let choice := (s.e &&& s.f) ^^^ ((~~~ s.e) &&& s.g)
  let t1 := s.h + big1 + choice + wk.2 + wk.1
  let big0 := rotr s.a 2 ^^^ rotr s.a 13 ^^^ rotr s.a 22
  let majority := (s.a &&& s.b) ^^^ (s.a &&& s.c) ^^^ (s.b &&& s.c)
  ⟨t1 + (big0 + majority), s.a, s.b, s.c, s.d + t1, s.e, s.f, s.g⟩

/-- Adds `k` words to a message schedule whose newest word stands first. -/
def extend : Nat → List UInt32 → List UInt32
  | 0, w => w
  | k + 1, w =>
    let small (i : Nat) (p q r : UInt32) : UInt32 :=
      let x := w.getD i 0
      rotr x p ^^^ rotr x q ^^^ (x >>> r)
    extend k ((small 1 17 19 10 + w.getD 6 0 + small 14 7 18 3 + w.getD 15 0) :: w)

/-- The word that four bytes make, the most significant one first. -/
def word (b₀ b₁ b₂ b₃ : UInt8) : UInt32 :=
  (b₀.toUInt32 <<< 24) ||| (b₁.toUInt32 <<< 16) ||| (b₂.toUInt32 <<< 8) ||| b₃.toUInt32

/-- The words of a run of bytes; up to three bytes at the end are left out. -/
def words : List UInt8 → List UInt32
  | b₀ :: b₁ :: b₂ :: b₃ :: bs => word b₀ b₁ b₂ b₃ :: words bs
  | _ => []

/-- The state after a block of 64 bytes. -/
def compress (s : State) (block : List UInt8) : State :=
  let schedule := (extend 48 (words block).reverse).reverse
  s.add ((schedule.zip roundConstants).foldl round s)

/-! ## Padding and the digest -/

/-- The message followed by a one bit, zero bits up to eight bytes short of a whole block, and the
message's length in bits. -/
def pad (m : List UInt8) : List UInt8 :=
  m ++ (0x80 :: List.replicate ((119 - m.length % 64) % 64) 0) ++ bytesBE 8 (8 * m.length)

/-- A padded message is a whole number of blocks. -/
theorem dvd_length_pad (m : List UInt8) : 64 ∣ (pad m).length := by
  simp [pad, bytesBE, length_bytesLE]
  omega

/-- The state after the given number of blocks. -/
def absorb : Nat → State → List UInt8 → State
  | 0, s, _ => s
  | k + 1, s, m => absorb k (compress s (m.take 64)) (m.drop 64)

/-- The digest of a message, as 32 bytes. -/
def digest (m : List UInt8) : List UInt8 :=
  let padded := pad m
  (absorb (padded.length / 64) State.initial padded).words.flatMap fun w => bytesBE 4 w.toNat

end Sha256

end LogOperator
