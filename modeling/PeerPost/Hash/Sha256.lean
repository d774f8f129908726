import PeerPost.Text.Utf8

/-!
# SHA-256

The digest of a sequence of bytes. The padded message is cut into blocks of 64 bytes, each read as
sixteen big-endian words; `compress` mixes one block into the eight words of the state, and the
final state is the digest.
-/

namespace PeerPost.Sha256

/-- The eight working words. -/
structure State where
  a : UInt32
  b : UInt32
  c : UInt32
  d : UInt32
  e : UInt32
  f : UInt32
  g : UInt32
  h : UInt32

def initial : State :=
  ⟨0x6a09e667, 0xbb67ae85, 0x3c6ef372, 0xa54ff53a, 0x510e527f, 0x9b05688c, 0x1f83d9ab, 0x5be0cd19⟩

/-- One constant for each of the 64 rounds. -/
def roundConstants : List UInt32 :=
  [0x428a2f98, 0x71374491, 0xb5c0fbcf, 0xe9b5dba5, 0x3956c25b, 0x59f111f1, 0x923f82a4, 0xab1c5ed5,
   0xd807aa98, 0x12835b01, 0x243185be, 0x550c7dc3, 0x72be5d74, 0x80deb1fe, 0x9bdc06a7, 0xc19bf174,
   0xe49b69c1, 0xefbe4786, 0x0fc19dc6, 0x240ca1cc, 0x2de92c6f, 0x4a7484aa, 0x5cb0a9dc, 0x76f988da,
   0x983e5152, 0xa831c66d, 0xb00327c8, 0xbf597fc7, 0xc6e00bf3, 0xd5a79147, 0x06ca6351, 0x14292967,
   0x27b70a85, 0x2e1b2138, 0x4d2c6dfc, 0x53380d13, 0x650a7354, 0x766a0abb, 0x81c2c92e, 0x92722c85,
   0xa2bfe8a1, 0xa81a664b, 0xc24b8b70, 0xc76c51a3, 0xd192e819, 0xd6990624, 0xf40e3585, 0x106aa070,
   0x19a4c116, 0x1e376c08, 0x2748774c, 0x34b0bcb5, 0x391c0cb3, 0x4ed8aa4a, 0x5b9cca4f, 0x682e6ff3,
   0x748f82ee, 0x78a5636f, 0x84c87814, 0x8cc70208, 0x90befffa, 0xa4506ceb, 0xbef9a3f7, 0xc67178f2]

/-- Rotation of a word to the right. -/
def rotr (x n : UInt32) : UInt32 :=
  (x >>> n) ||| (x <<< (32 - n))

/-- One round: `k` is the constant and `w` the schedule word of the round. -/
def round (s : State) (k w : UInt32) : State :=
  let s1 := rotr s.e 6 ^^^ rotr s.e 11 ^^^ rotr s.e 25
  let ch := (s.e &&& s.f) ^^^ ((~~~ s.e) &&& s.g)
  let t1 := s.h + s1 + ch + k + w
  let s0 := rotr s.a 2 ^^^ rotr s.a 13 ^^^ rotr s.a 22
  let maj := (s.a &&& s.b) ^^^ (s.a &&& s.c) ^^^ (s.b &&& s.c)
  ⟨t1 + (s0 + maj), s.a, s.b, s.c, s.d + t1, s.e, s.f, s.g⟩

/-- Sixteen words in a row of the schedule. -/
structure Window where
  w0 : UInt32
  w1 : UInt32
  w2 : UInt32
  w3 : UInt32
  w4 : UInt32
  w5 : UInt32
  w6 : UInt32
  w7 : UInt32
  w8 : UInt32
  w9 : UInt32
  w10 : UInt32
  w11 : UInt32
  w12 : UInt32
  w13 : UInt32
  w14 : UInt32
  w15 : UInt32

/-- The first sixteen words of a list. Words that are missing are zero. -/
def Window.ofList (ws : List UInt32) : Window :=
  ⟨ws.getD 0 0, ws.getD 1 0, ws.getD 2 0, ws.getD 3 0, ws.getD 4 0, ws.getD 5 0, ws.getD 6 0, ws.getD 7 0,
    ws.getD 8 0, ws.getD 9 0, ws.getD 10 0, ws.getD 11 0, ws.getD 12 0, ws.getD 13 0, ws.getD 14 0, ws.getD 15 0⟩

/-- The word of the schedule that follows a window. -/
def Window.next (w : Window) : UInt32 :=
  let s0 := rotr w.w1 7 ^^^ rotr w.w1 18 ^^^ (w.w1 >>> 3)
  let s1 := rotr w.w14 17 ^^^ rotr w.w14 19 ^^^ (w.w14 >>> 10)
  w.w0 + s0 + w.w9 + s1

/-- The window one word further. -/
def Window.slide (w : Window) : Window :=
  ⟨w.w1, w.w2, w.w3, w.w4, w.w5, w.w6, w.w7, w.w8,
    w.w9, w.w10, w.w11, w.w12, w.w13, w.w14, w.w15, w.next⟩

/-- The rounds for these constants. The window holds the next sixteen words of the schedule. -/
def rounds : List UInt32 → Window → State → State
  | [], _, s => s
  | k :: ks, window, s => rounds ks window.slide (round s k window.w0)

/-- Mixes a block of sixteen words into the state. -/
def compress (s : State) (block : Window) : State :=
  let t := rounds roundConstants block s
  ⟨s.a + t.a, s.b + t.b, s.c + t.c, s.d + t.d, s.e + t.e, s.f + t.f, s.g + t.g, s.h + t.h⟩

def wordBytes (w : UInt32) : Bytes :=
  [(w >>> 24).toUInt8, (w >>> 16).toUInt8, (w >>> 8).toUInt8, w.toUInt8]

/-- The word with these four big-endian bytes. -/
def word (a b c d : UInt8) : UInt32 :=
  (a.toUInt32 <<< 24) ||| (b.toUInt32 <<< 16) ||| (c.toUInt32 <<< 8) ||| d.toUInt32

/-- The words of a sequence of bytes; an incomplete last word is left out. -/
def words : Bytes → List UInt32
  | a :: b :: c :: d :: rest => word a b c d :: words rest
  | _ => []

/-- The number of zero bytes between the end mark and the length of a message. -/
def padZeros (length : Nat) : Nat :=
  (119 - length % 64) % 64

/-- The big-endian bytes of a 64-bit number. -/
def lengthBytes (n : Nat) : Bytes :=
  [56, 48, 40, 32, 24, 16, 8, 0].map fun shift => UInt8.ofNat (n >>> shift)

/-- A message with its end mark, zeros and length in bits: a whole number of blocks. -/
def pad (message : Bytes) : Bytes :=
  message ++ 0x80 :: (List.replicate (padZeros message.length) 0 ++ lengthBytes (8 * message.length))

/-- Mixes all blocks of a sequence of words, `count` of them, into the state. -/
def absorb : Nat → State → List UInt32 → State
  | 0, s, _ => s
  | count + 1, s, ws => absorb count (compress s (.ofList ws)) (ws.drop 16)

def State.bytes (s : State) : Vector UInt8 32 :=
  ⟨(wordBytes s.a ++ wordBytes s.b ++ wordBytes s.c ++ wordBytes s.d ++
    wordBytes s.e ++ wordBytes s.f ++ wordBytes s.g ++ wordBytes s.h).toArray, rfl⟩

/-- The SHA-256 digest of a message. -/
def digest (message : Bytes) : Vector UInt8 32 :=
  let ws := words (pad message)
  (absorb (ws.length / 16) initial ws).bytes

end PeerPost.Sha256
