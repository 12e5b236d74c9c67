/-!
# Digests

A 128-bit digest of a text, written with 32 hexadecimal digits. Computed metrics without an alias
are named by the digest of their expression.
-/

namespace Datacube.Digest

/-- The rotation amounts of the four rounds. -/
def rotations : List (List UInt32) :=
  [[7, 12, 17, 22], [5, 9, 14, 20], [4, 11, 16, 23], [6, 10, 15, 21]]

def constants : List UInt32 := [
  0xd76aa478, 0xe8c7b756, 0x242070db, 0xc1bdceee, 0xf57c0faf, 0x4787c62a, 0xa8304613, 0xfd469501,
  0x698098d8, 0x8b44f7af, 0xffff5bb1, 0x895cd7be, 0x6b901122, 0xfd987193, 0xa679438e, 0x49b40821,
  0xf61e2562, 0xc040b340, 0x265e5a51, 0xe9b6c7aa, 0xd62f105d, 0x02441453, 0xd8a1e681, 0xe7d3fbc8,
  0x21e1cde6, 0xc33707d6, 0xf4d50d87, 0x455a14ed, 0xa9e3e905, 0xfcefa3f8, 0x676f02d9, 0x8d2a4c8a,
  0xfffa3942, 0x8771f681, 0x6d9d6122, 0xfde5380c, 0xa4beea44, 0x4bdecfa9, 0xf6bb4b60, 0xbebfbc70,
  0x289b7ec6, 0xeaa127fa, 0xd4ef3085, 0x04881d05, 0xd9d4d039, 0xe6db99e5, 0x1fa27cf8, 0xc4ac5665,
  0xf4292244, 0x432aff97, 0xab9423a7, 0xfc93a039, 0x655b59c3, 0x8f0ccc92, 0xffeff47d, 0x85845dd1,
  0x6fa87e4f, 0xfe2ce6e0, 0xa3014314, 0x4e0811a1, 0xf7537e82, 0xbd3af235, 0x2ad7d2bb, 0xeb86d391]

/-- The four words of the digest. -/
structure State where
  a : UInt32
  b : UInt32
  c : UInt32
  d : UInt32

/-- The state before the first block. -/
def State.start : State := ⟨0x67452301, 0xefcdab89, 0x98badcfe, 0x10325476⟩

def rotate (x amount : UInt32) : UInt32 := (x <<< amount) ||| (x >>> (32 - amount))

/-- The mixing function of a step and the word of the block that it takes. -/
def mix (s : State) (i : Nat) : UInt32 × Nat :=
  if i < 16 then ((s.b &&& s.c) ||| (~~~s.b &&& s.d), i)
  else if i < 32 then ((s.d &&& s.b) ||| (~~~s.d &&& s.c), (5 * i + 1) % 16)
  else if i < 48 then (s.b ^^^ s.c ^^^ s.d, (3 * i + 5) % 16)
  else (s.c ^^^ (s.b ||| ~~~s.d), (7 * i) % 16)

/-- One of the 64 steps on a block of sixteen words. -/
def step (block : List UInt32) (s : State) (i : Nat) : State :=
  let (f, k) := mix s i
  let sum := s.a + f + constants.getD i 0 + block.getD k 0
  let amount := (rotations.getD (i / 16) []).getD (i % 4) 0
  ⟨s.d, s.b + rotate sum amount, s.b, s.c⟩

def absorb (s : State) (block : List UInt32) : State :=
  let t := (List.range 64).foldl (step block) s
  ⟨s.a + t.a, s.b + t.b, s.c + t.c, s.d + t.d⟩

/-- A number as so many bytes, the lowest first. -/
def bytesOf (count n : Nat) : List UInt8 :=
  (List.range count).map fun i => (n / Nat.pow 256 i).toUInt8

/-- The message with a one bit, zeros and its length in bits, a multiple of 64 bytes. -/
def padded (message : List UInt8) : List UInt8 :=
  let zeros := (119 - message.length % 64) % 64
  message ++ [0x80] ++ List.replicate zeros 0 ++ bytesOf 8 (8 * message.length)

/-- The words of a message, the lowest byte first. -/
def words : List UInt8 → List UInt32
  | a :: b :: c :: d :: rest =>
    (a.toUInt32 ||| (b.toUInt32 <<< 8) ||| (c.toUInt32 <<< 16) |||
      (d.toUInt32 <<< 24)) :: words rest
  | _ => []

def blocks (count : Nat) (ws : List UInt32) : List (List UInt32) :=
  (List.range count).map fun i => (ws.drop (16 * i)).take 16

/-- A byte as two hexadecimal digits. -/
def byteText (b : UInt8) : List Char :=
  [Nat.digitChar (b.toNat / 16), Nat.digitChar (b.toNat % 16)]

def ofText (s : String) : String :=
  let message := padded s.toUTF8.toList
  let t := (blocks (message.length / 64) (words message)).foldl absorb State.start
  String.ofList ([t.a, t.b, t.c, t.d].flatMap fun w =>
    (bytesOf 4 w.toNat).flatMap byteText)

end Datacube.Digest
