import PipeShell.Text.Bytes

/-!
# Digests

Sixteen bytes that stand for any number of bytes, so that others have other ones. The bytes are filled
up to whole blocks of sixty-four; each block stirs four words in sixty-four steps.
-/

namespace PipeShell.Text.Digest

/-- What each step adds: the first bits of the sines of the numbers from one on. -/
def sines : Array UInt32 := #[
  0xd76aa478, 0xe8c7b756, 0x242070db, 0xc1bdceee, 0xf57c0faf, 0x4787c62a, 0xa8304613, 0xfd469501,
  0x698098d8, 0x8b44f7af, 0xffff5bb1, 0x895cd7be, 0x6b901122, 0xfd987193, 0xa679438e, 0x49b40821,
  0xf61e2562, 0xc040b340, 0x265e5a51, 0xe9b6c7aa, 0xd62f105d, 0x02441453, 0xd8a1e681, 0xe7d3fbc8,
  0x21e1cde6, 0xc33707d6, 0xf4d50d87, 0x455a14ed, 0xa9e3e905, 0xfcefa3f8, 0x676f02d9, 0x8d2a4c8a,
  0xfffa3942, 0x8771f681, 0x6d9d6122, 0xfde5380c, 0xa4beea44, 0x4bdecfa9, 0xf6bb4b60, 0xbebfbc70,
  0x289b7ec6, 0xeaa127fa, 0xd4ef3085, 0x04881d05, 0xd9d4d039, 0xe6db99e5, 0x1fa27cf8, 0xc4ac5665,
  0xf4292244, 0x432aff97, 0xab9423a7, 0xfc93a039, 0x655b59c3, 0x8f0ccc92, 0xffeff47d, 0x85845dd1,
  0x6fa87e4f, 0xfe2ce6e0, 0xa3014314, 0x4e0811a1, 0xf7537e82, 0xbd3af235, 0x2ad7d2bb, 0xeb86d391]

def turns : Array (Array UInt32) :=
  #[#[7, 12, 17, 22], #[5, 9, 14, 20], #[4, 11, 16, 23], #[6, 10, 15, 21]]

structure State where
  a : UInt32 := 0x67452301
  b : UInt32 := 0xefcdab89
  c : UInt32 := 0x98badcfe
  d : UInt32 := 0x10325476
deriving DecidableEq, Repr

def turn (x amount : UInt32) : UInt32 := (x <<< amount) ||| (x >>> (32 - amount))

def words (block : Bytes) : Array UInt32 :=
  let octets := block.toArray
  (Array.range 16).map fun i =>
    (List.range 4).foldr (fun j w => (w <<< 8) ||| (octets.getD (4 * i + j) 0).toUInt32) 0

def step (words : Array UInt32) (s : State) (i : Nat) : State :=
  let (f, g) :=
    match i / 16 with
    | 0 => ((s.b &&& s.c) ||| (~~~s.b &&& s.d), i)
    | 1 => ((s.d &&& s.b) ||| (~~~s.d &&& s.c), 5 * i + 1)
    | 2 => (s.b ^^^ s.c ^^^ s.d, 3 * i + 5)
    | _ => (s.c ^^^ (s.b ||| ~~~s.d), 7 * i)
  let sum := s.a + f + sines.getD i 0 + words.getD (g % 16) 0
  { a := s.d, b := s.b + turn sum ((turns.getD (i / 16) #[]).getD (i % 4) 0), c := s.b, d := s.c }

def addBlock (s : State) (block : Bytes) : State :=
  let t := (List.range 64).foldl (step (words block)) s
  ⟨s.a + t.a, s.b + t.b, s.c + t.c, s.d + t.d⟩

def littleEnd (count n : Nat) : Bytes := (List.range count).map fun i => UInt8.ofNat (n / Nat.pow 256 i)

def filled (bs : Bytes) : Bytes :=
  bs ++ 128 :: List.replicate ((119 - bs.length % 64) % 64) 0 ++ littleEnd 8 (8 * bs.length)

def addBlocks : Nat → Bytes → State → State
  | 0, _, s => s
  | blocks + 1, bs, s => addBlocks blocks (bs.drop 64) (addBlock s (bs.take 64))

def of (bs : Bytes) : Bytes :=
  let text := filled bs
  let s := addBlocks (text.length / 64) text {}
  [s.a, s.b, s.c, s.d].flatMap fun word => littleEnd 4 word.toNat

end PipeShell.Text.Digest
