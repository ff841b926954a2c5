import RankLedger.Text.Bytes

set_option autoImplicit false

/-! # SHA-256

The digest of FIPS 180-4: the message is padded to blocks of sixteen words, each block is extended
to a schedule of sixty-four words and mixed into eight chaining words. `Sha256.hex` is the digest as
sixty-four small base-16 digits. -/

namespace RankLedger.Sha256

/-- The eight chaining words. -/
structure Chain where
  a : UInt32
  b : UInt32
  c : UInt32
  d : UInt32
  e : UInt32
  f : UInt32
  g : UInt32
  h : UInt32
  deriving DecidableEq, Repr, Inhabited

/-- The chaining words before the first block. -/
def start : Chain :=
  ⟨0x6a09e667, 0xbb67ae85, 0x3c6ef372, 0xa54ff53a, 0x510e527f, 0x9b05688c, 0x1f83d9ab, 0x5be0cd19⟩

/-- The constants of the sixty-four rounds. -/
def roundConstants : List UInt32 :=
  [0x428a2f98, 0x71374491, 0xb5c0fbcf, 0xe9b5dba5, 0x3956c25b, 0x59f111f1, 0x923f82a4, 0xab1c5ed5,
    0xd807aa98, 0x12835b01, 0x243185be, 0x550c7dc3, 0x72be5d74, 0x80deb1fe, 0x9bdc06a7, 0xc19bf174,
    0xe49b69c1, 0xefbe4786, 0x0fc19dc6, 0x240ca1cc, 0x2de92c6f, 0x4a7484aa, 0x5cb0a9dc, 0x76f988da,
    0x983e5152, 0xa831c66d, 0xb00327c8, 0xbf597fc7, 0xc6e00bf3, 0xd5a79147, 0x06ca6351, 0x14292967,
    0x27b70a85, 0x2e1b2138, 0x4d2c6dfc, 0x53380d13, 0x650a7354, 0x766a0abb, 0x81c2c92e, 0x92722c85,
    0xa2bfe8a1, 0xa81a664b, 0xc24b8b70, 0xc76c51a3, 0xd192e819, 0xd6990624, 0xf40e3585, 0x106aa070,
    0x19a4c116, 0x1e376c08, 0x2748774c, 0x34b0bcb5, 0x391c0cb3, 0x4ed8aa4a, 0x5b9cca4f, 0x682e6ff3,
    0x748f82ee, 0x78a5636f, 0x84c87814, 0x8cc70208, 0x90befffa, 0xa4506ceb, 0xbef9a3f7, 0xc67178f2]

/-- Rotate a word to the right. -/
def rotate (x : UInt32) (n : UInt32) : UInt32 := (x >>> n) ||| (x <<< (32 - n))

/-- The word of the schedule that follows the words so far. -/
def nextWord (w : Array UInt32) : UInt32 :=
  let at_ (back : Nat) : UInt32 := w.getD (w.size - back) 0
  let s0 := rotate (at_ 15) 7 ^^^ rotate (at_ 15) 18 ^^^ (at_ 15 >>> 3)
  let s1 := rotate (at_ 2) 17 ^^^ rotate (at_ 2) 19 ^^^ (at_ 2 >>> 10)
  at_ 16 + s0 + at_ 7 + s1

/-- The sixty-four words of a block. -/
def schedule (block : Array UInt32) : Array UInt32 :=
  (List.range 48).foldl (fun w _ => w.push (nextWord w)) block

/-- One round with its constant and its word. -/
def round (s : Chain) (kw : UInt32 × UInt32) : Chain :=
  let s1 := rotate s.e 6 ^^^ rotate s.e 11 ^^^ rotate s.e 25
  let choice := (s.e &&& s.f) ^^^ (~~~s.e &&& s.g)
  let t1 := s.h + s1 + choice + kw.1 + kw.2
  let s0 := rotate s.a 2 ^^^ rotate s.a 13 ^^^ rotate s.a 22
  let majority := (s.a &&& s.b) ^^^ (s.a &&& s.c) ^^^ (s.b &&& s.c)
  ⟨t1 + (s0 + majority), s.a, s.b, s.c, s.d + t1, s.e, s.f, s.g⟩

/-- Mix a block into the chaining words. -/
def compress (s : Chain) (block : Array UInt32) : Chain :=
  let r := (roundConstants.zip (schedule block).toList).foldl round s
  ⟨s.a + r.a, s.b + r.b, s.c + r.c, s.d + r.d, s.e + r.e, s.f + r.f, s.g + r.g, s.h + r.h⟩

/-- The lowest `count` bytes of a number, the highest of them first. -/
def bigEndian (count n : Nat) : Bytes :=
  (List.range count).reverse.map fun i => UInt8.ofNat (n / Nat.pow 256 i)

/-- The message, a one bit, zeros, and the length in bits. -/
def padded (message : Bytes) : Bytes :=
  let n := message.length
  message ++ 0x80 :: (List.replicate ((119 - n % 64) % 64) 0 ++ bigEndian 8 (8 * n))

/-- Four bytes a word, the highest first. -/
def words : Bytes → List UInt32
  | a :: b :: c :: d :: rest =>
      ((a.toUInt32 <<< 24) ||| (b.toUInt32 <<< 16) ||| (c.toUInt32 <<< 8) ||| d.toUInt32)
        :: words rest
  | _ => []

/-- Take a word: sixteen of them are a block. -/
def absorb (s : Chain × Array UInt32) (w : UInt32) : Chain × Array UInt32 :=
  let block := s.2.push w
  if block.size = 16 then (compress s.1 block, #[]) else (s.1, block)

/-- The digest of a message. -/
def digest (message : Bytes) : Bytes :=
  let s := ((words (padded message)).foldl absorb (start, #[])).1
  [s.a, s.b, s.c, s.d, s.e, s.f, s.g, s.h].flatMap fun x => bigEndian 4 x.toNat

/-- The digest as base-16 digits. -/
def hex (message : Bytes) : String := (digest message).toHex

end RankLedger.Sha256
