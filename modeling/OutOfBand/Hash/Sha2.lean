/-!
# The hash functions SHA-256 and SHA-512

Both cut the padded message into blocks of sixteen words, expand each block into one word a round,
and stir the words into a state of eight. They differ in the size of the words, the number of rounds
and the amounts of the rotations, which is what a `Variant` holds.
-/

namespace OutOfBand.Hash

/-- The state of a hash: eight words. -/
structure Words (α : Type) where
  a : α
  b : α
  c : α
  d : α
  e : α
  f : α
  g : α
  h : α

/-- The eight words of a state, in order. -/
def Words.toList (s : Words α) : List α := [s.a, s.b, s.c, s.d, s.e, s.f, s.g, s.h]

/-- What distinguishes one hash function of the family from another. -/
structure Variant (α : Type) where
  /-- The bytes of a word. -/
  wordBytes : Nat
  initial : Words α
  /-- The constants of the rounds. -/
  constants : Array α
  zero : α
  add : α → α → α
  xor : α → α → α
  and : α → α → α
  not : α → α
  /-- The two mixtures of rotations that expand a block. -/
  expand0 : α → α
  expand1 : α → α
  /-- The two mixtures of rotations that stir the state. -/
  stir0 : α → α
  stir1 : α → α
  ofNat : Nat → α
  toNat : α → Nat

namespace Variant

/-- The bytes of `n`, the highest first, `count` of them. -/
def bigEndian : Nat → Nat → List UInt8
  | 0, _ => []
  | count + 1, n => bigEndian count (n / 256) ++ [UInt8.ofNat n]

/-- The number that `bytes` write, the highest first. -/
def ofBigEndian (bytes : List UInt8) : Nat := bytes.foldl (fun n b => 256 * n + b.toNat) 0

def blockBytes (v : Variant α) : Nat := 16 * v.wordBytes

/-- The message filled up to whole blocks: a set bit, zeros, and its length in bits. -/
def padded (v : Variant α) (message : List UInt8) : List UInt8 :=
  let tail := 1 + 2 * v.wordBytes
  let short := (message.length + tail) % v.blockBytes
  let zeros := if short = 0 then 0 else v.blockBytes - short
  message ++ 0x80 :: List.replicate zeros 0 ++ bigEndian (2 * v.wordBytes) (8 * message.length)

/-- The first `count` words that `bytes` write. -/
def wordsOf (v : Variant α) : Nat → List UInt8 → List α
  | 0, _ => []
  | count + 1, bytes =>
    v.ofNat (ofBigEndian (bytes.take v.wordBytes)) :: v.wordsOf count (bytes.drop v.wordBytes)

/-- The words of the rounds, expanded from those of a block by `count` more. -/
def expanded (v : Variant α) : Nat → Array α → Array α
  | 0, ws => ws
  | count + 1, ws =>
    let at_ (back : Nat) : α := ws.getD (ws.size - back) v.zero
    let w := v.add (v.add (v.expand1 (at_ 2)) (at_ 7)) (v.add (v.expand0 (at_ 15)) (at_ 16))
    v.expanded count (ws.push w)

/-- One round with the sum `kw` of its constant and its word. -/
def round (v : Variant α) (s : Words α) (kw : α) : Words α :=
  let choice := v.xor (v.and s.e s.f) (v.and (v.not s.e) s.g)
  let majority := v.xor (v.xor (v.and s.a s.b) (v.and s.a s.c)) (v.and s.b s.c)
  let t1 := v.add (v.add (v.add s.h (v.stir1 s.e)) choice) kw
  let t2 := v.add (v.stir0 s.a) majority
  ⟨v.add t1 t2, s.a, s.b, s.c, v.add s.d t1, s.e, s.f, s.g⟩

def absorb (v : Variant α) (s : Words α) (block : List UInt8) : Words α :=
  let ws := v.expanded (v.constants.size - 16) (v.wordsOf 16 block).toArray
  let t := (Array.zipWith v.add v.constants ws).foldl v.round s
  ⟨v.add s.a t.a, v.add s.b t.b, v.add s.c t.c, v.add s.d t.d, v.add s.e t.e, v.add s.f t.f,
    v.add s.g t.g, v.add s.h t.h⟩

/-- The state after `count` blocks of `bytes`. -/
def absorbAll (v : Variant α) : Nat → List UInt8 → Words α → Words α
  | 0, _, s => s
  | count + 1, bytes, s =>
    v.absorbAll count (bytes.drop v.blockBytes) (v.absorb s (bytes.take v.blockBytes))

def hash (v : Variant α) (message : List UInt8) : List UInt8 :=
  let bytes := v.padded message
  let final := v.absorbAll (bytes.length / v.blockBytes) bytes v.initial
  final.toList.flatMap fun w => bigEndian v.wordBytes (v.toNat w)

end Variant

/-- A word of 32 bits turned right. -/
def rotate32 (x n : UInt32) : UInt32 := x >>> n ||| x <<< (32 - n)

/-- A word of 64 bits turned right. -/
def rotate64 (x n : UInt64) : UInt64 := x >>> n ||| x <<< (64 - n)

/-- SHA-256: words of 32 bits, 64 rounds. -/
def sha256 : Variant UInt32 where
  wordBytes := 4
  initial := ⟨0x6a09e667, 0xbb67ae85, 0x3c6ef372, 0xa54ff53a, 0x510e527f, 0x9b05688c,
    0x1f83d9ab, 0x5be0cd19⟩
  constants := #[
    0x428a2f98, 0x71374491, 0xb5c0fbcf, 0xe9b5dba5, 0x3956c25b, 0x59f111f1, 0x923f82a4, 0xab1c5ed5,
    0xd807aa98, 0x12835b01, 0x243185be, 0x550c7dc3, 0x72be5d74, 0x80deb1fe, 0x9bdc06a7, 0xc19bf174,
    0xe49b69c1, 0xefbe4786, 0x0fc19dc6, 0x240ca1cc, 0x2de92c6f, 0x4a7484aa, 0x5cb0a9dc, 0x76f988da,
    0x983e5152, 0xa831c66d, 0xb00327c8, 0xbf597fc7, 0xc6e00bf3, 0xd5a79147, 0x06ca6351, 0x14292967,
    0x27b70a85, 0x2e1b2138, 0x4d2c6dfc, 0x53380d13, 0x650a7354, 0x766a0abb, 0x81c2c92e, 0x92722c85,
    0xa2bfe8a1, 0xa81a664b, 0xc24b8b70, 0xc76c51a3, 0xd192e819, 0xd6990624, 0xf40e3585, 0x106aa070,
    0x19a4c116, 0x1e376c08, 0x2748774c, 0x34b0bcb5, 0x391c0cb3, 0x4ed8aa4a, 0x5b9cca4f, 0x682e6ff3,
    0x748f82ee, 0x78a5636f, 0x84c87814, 0x8cc70208, 0x90befffa, 0xa4506ceb, 0xbef9a3f7, 0xc67178f2]
  zero := 0
  add := (· + ·)
  xor := (· ^^^ ·)
  and := (· &&& ·)
  not := (~~~ ·)
  expand0 x := rotate32 x 7 ^^^ rotate32 x 18 ^^^ x >>> 3
  expand1 x := rotate32 x 17 ^^^ rotate32 x 19 ^^^ x >>> 10
  stir0 x := rotate32 x 2 ^^^ rotate32 x 13 ^^^ rotate32 x 22
  stir1 x := rotate32 x 6 ^^^ rotate32 x 11 ^^^ rotate32 x 25
  ofNat := UInt32.ofNat
  toNat := UInt32.toNat

/-- SHA-512: words of 64 bits, 80 rounds. -/
def sha512 : Variant UInt64 where
  wordBytes := 8
  initial := ⟨0x6a09e667f3bcc908, 0xbb67ae8584caa73b, 0x3c6ef372fe94f82b,
    0xa54ff53a5f1d36f1, 0x510e527fade682d1, 0x9b05688c2b3e6c1f,
    0x1f83d9abfb41bd6b, 0x5be0cd19137e2179⟩
  constants := #[
    0x428a2f98d728ae22, 0x7137449123ef65cd, 0xb5c0fbcfec4d3b2f, 0xe9b5dba58189dbbc,
    0x3956c25bf348b538, 0x59f111f1b605d019, 0x923f82a4af194f9b, 0xab1c5ed5da6d8118,
    0xd807aa98a3030242, 0x12835b0145706fbe, 0x243185be4ee4b28c, 0x550c7dc3d5ffb4e2,
    0x72be5d74f27b896f, 0x80deb1fe3b1696b1, 0x9bdc06a725c71235, 0xc19bf174cf692694,
    0xe49b69c19ef14ad2, 0xefbe4786384f25e3, 0x0fc19dc68b8cd5b5, 0x240ca1cc77ac9c65,
    0x2de92c6f592b0275, 0x4a7484aa6ea6e483, 0x5cb0a9dcbd41fbd4, 0x76f988da831153b5,
    0x983e5152ee66dfab, 0xa831c66d2db43210, 0xb00327c898fb213f, 0xbf597fc7beef0ee4,
    0xc6e00bf33da88fc2, 0xd5a79147930aa725, 0x06ca6351e003826f, 0x142929670a0e6e70,
    0x27b70a8546d22ffc, 0x2e1b21385c26c926, 0x4d2c6dfc5ac42aed, 0x53380d139d95b3df,
    0x650a73548baf63de, 0x766a0abb3c77b2a8, 0x81c2c92e47edaee6, 0x92722c851482353b,
    0xa2bfe8a14cf10364, 0xa81a664bbc423001, 0xc24b8b70d0f89791, 0xc76c51a30654be30,
    0xd192e819d6ef5218, 0xd69906245565a910, 0xf40e35855771202a, 0x106aa07032bbd1b8,
    0x19a4c116b8d2d0c8, 0x1e376c085141ab53, 0x2748774cdf8eeb99, 0x34b0bcb5e19b48a8,
    0x391c0cb3c5c95a63, 0x4ed8aa4ae3418acb, 0x5b9cca4f7763e373, 0x682e6ff3d6b2b8a3,
    0x748f82ee5defb2fc, 0x78a5636f43172f60, 0x84c87814a1f0ab72, 0x8cc702081a6439ec,
    0x90befffa23631e28, 0xa4506cebde82bde9, 0xbef9a3f7b2c67915, 0xc67178f2e372532b,
    0xca273eceea26619c, 0xd186b8c721c0c207, 0xeada7dd6cde0eb1e, 0xf57d4f7fee6ed178,
    0x06f067aa72176fba, 0x0a637dc5a2c898a6, 0x113f9804bef90dae, 0x1b710b35131c471b,
    0x28db77f523047d84, 0x32caab7b40c72493, 0x3c9ebe0a15c9bebc, 0x431d67c49c100d4c,
    0x4cc5d4becb3e42b6, 0x597f299cfc657e2a, 0x5fcb6fab3ad6faec, 0x6c44198c4a475817]
  zero := 0
  add := (· + ·)
  xor := (· ^^^ ·)
  and := (· &&& ·)
  not := (~~~ ·)
  expand0 x := rotate64 x 1 ^^^ rotate64 x 8 ^^^ x >>> 7
  expand1 x := rotate64 x 19 ^^^ rotate64 x 61 ^^^ x >>> 6
  stir0 x := rotate64 x 28 ^^^ rotate64 x 34 ^^^ rotate64 x 39
  stir1 x := rotate64 x 14 ^^^ rotate64 x 18 ^^^ rotate64 x 41
  ofNat := UInt64.ofNat
  toNat := UInt64.toNat

end OutOfBand.Hash
