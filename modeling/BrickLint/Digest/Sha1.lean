/-!
# SHA-1

The digest of a sequence of bytes, written with forty hexadecimal digits.
-/

namespace BrickLint.Digest

/-- The five words that a digest is computed in. -/
structure Sha1State where
  /-- The first word. -/
  a : UInt32
  /-- The second word. -/
  b : UInt32
  /-- The third word. -/
  c : UInt32
  /-- The fourth word. -/
  d : UInt32
  /-- The fifth word. -/
  e : UInt32
  deriving DecidableEq, Repr

/-- The words before the first block. -/
def Sha1State.initial : Sha1State :=
  ⟨0x67452301, 0xefcdab89, 0x98badcfe, 0x10325476, 0xc3d2e1f0⟩

/-- Turns a word to the left. -/
def rotateLeft (word : UInt32) (count : UInt32) : UInt32 :=
  (word <<< count) ||| (word >>> (32 - count))

/-- The bytes of a number, the highest first. -/
def bigEndian (count value : Nat) : List UInt8 :=
  (List.range count).reverse.map fun index => UInt8.ofNat ((value >>> (8 * index)) % 256)

/-- Fills a message up to whole blocks of 64 bytes: a marker, zeros, and the length in bits. -/
def padMessage (message : List UInt8) : List UInt8 :=
  let zeros := (119 - message.length % 64) % 64
  message ++ 0x80 :: List.replicate zeros 0 ++ bigEndian 8 (8 * message.length)

/-- The words of a list of bytes, four bytes each. -/
def wordsOf : List UInt8 → List UInt32
  | a :: b :: c :: d :: rest =>
    ((a.toUInt32 <<< 24) ||| (b.toUInt32 <<< 16) ||| (c.toUInt32 <<< 8) ||| d.toUInt32) ::
      wordsOf rest
  | _ => []

/-- The next word of a schedule, of which the last sixteen words are given, the oldest first. -/
def nextWord (recent : List UInt32) : UInt32 :=
  let word := fun index => recent[index]?.getD 0
  rotateLeft (word 13 ^^^ word 8 ^^^ word 2 ^^^ word 0) 1

/-- Mixes one word into the state in the given round. -/
def Sha1State.round (s : Sha1State) (index : Nat) (word : UInt32) : Sha1State :=
  let (f, k) : UInt32 × UInt32 :=
    if index < 20 then ((s.b &&& s.c) ||| (~~~s.b &&& s.d), 0x5a827999)
    else if index < 40 then (s.b ^^^ s.c ^^^ s.d, 0x6ed9eba1)
    else if index < 60 then ((s.b &&& s.c) ||| (s.b &&& s.d) ||| (s.c &&& s.d), 0x8f1bbcdc)
    else (s.b ^^^ s.c ^^^ s.d, 0xca62c1d6)
  ⟨rotateLeft s.a 5 + f + s.e + k + word, s.a, rotateLeft s.b 30, s.c, s.d⟩

/-- Runs `count` rounds from round `index` on, with the next sixteen words of the schedule. -/
def rounds (index : Nat) (words : List UInt32) (s : Sha1State) : Nat → Sha1State
  | 0 => s
  | count + 1 =>
    rounds (index + 1) (words.drop 1 ++ [nextWord words]) (s.round index (words.head?.getD 0)) count

/-- Mixes a block of sixteen words into the state. -/
def Sha1State.block (s : Sha1State) (words : List UInt32) : Sha1State :=
  let mixed := rounds 0 words s 80
  ⟨s.a + mixed.a, s.b + mixed.b, s.c + mixed.c, s.d + mixed.d, s.e + mixed.e⟩

/-- Mixes `count` blocks into the state. -/
def Sha1State.blocks (s : Sha1State) (words : List UInt32) : Nat → Sha1State
  | 0 => s
  | count + 1 => (s.block (words.take 16)).blocks (words.drop 16) count

/-- A word as eight hexadecimal digits. -/
def hexWord (word : UInt32) : List Char :=
  let digits := Nat.toDigits 16 word.toNat
  List.replicate (8 - digits.length) '0' ++ digits

/-- The digest of a message. -/
def sha1 (message : List UInt8) : String :=
  let words := wordsOf (padMessage message)
  let s := Sha1State.initial.blocks words (words.length / 16)
  String.ofList ([s.a, s.b, s.c, s.d, s.e].flatMap hexWord)

end BrickLint.Digest
