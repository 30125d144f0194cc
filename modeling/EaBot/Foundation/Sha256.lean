import Mathlib.Algebra.Group.Nat.Defs
import Mathlib.Data.List.Basic

/-!
# SHA-256

The hash of a sequence of bytes: the sequence is padded to whole blocks, and every block
is mixed into eight words in sixty-four rounds.  A word is a natural number below
`2 ^ 32`, so that the kernel can compute a hash.

The words of a block are a window that moves on by one word in every round.
-/

namespace EaBot.Foundation

namespace Sha256

/-- The number of words. -/
def wordSize : Nat := 2 ^ 32

/-- The sum of two words. -/
def add (first second : Nat) : Nat :=
  (first + second) % wordSize

/-- The word turned right by some bits. -/
def rotate (bits word : Nat) : Nat :=
  (word >>> bits ||| word <<< (32 - bits)) % wordSize

/-- The bits of one of two words, as a third word chooses. -/
def choose (word chosen other : Nat) : Nat :=
  (word &&& chosen) ^^^ ((wordSize - 1 - word) &&& other)

/-- The bits that most of three words have. -/
def majority (first second third : Nat) : Nat :=
  (first &&& second) ^^^ (first &&& third) ^^^ (second &&& third)

/-- The words that the rounds work on. -/
structure Registers where
  a : Nat
  b : Nat
  c : Nat
  d : Nat
  e : Nat
  f : Nat
  g : Nat
  h : Nat

namespace Registers

/-- The words before the first block: the square roots of the first eight primes. -/
def initial : Registers :=
  ⟨0x6a09e667, 0xbb67ae85, 0x3c6ef372, 0xa54ff53a, 0x510e527f, 0x9b05688c, 0x1f83d9ab,
    0x5be0cd19⟩

/-- One round with its constant and its word of the block. -/
def round (constant word : Nat) (registers : Registers) : Registers :=
  let turned := rotate 6 registers.e ^^^ rotate 11 registers.e ^^^ rotate 25 registers.e
  let first := add (add (add registers.h turned)
    (choose registers.e registers.f registers.g)) (add constant word)
  let second := add
    (rotate 2 registers.a ^^^ rotate 13 registers.a ^^^ rotate 22 registers.a)
    (majority registers.a registers.b registers.c)
  ⟨add first second, registers.a, registers.b, registers.c, add registers.d first,
    registers.e, registers.f, registers.g⟩

/-- The sums of the words. -/
def addAll (first second : Registers) : Registers :=
  ⟨add first.a second.a, add first.b second.b, add first.c second.c, add first.d second.d,
    add first.e second.e, add first.f second.f, add first.g second.g, add first.h second.h⟩

/-- The words in their order. -/
def words (registers : Registers) : List Nat :=
  [registers.a, registers.b, registers.c, registers.d, registers.e, registers.f, registers.g,
    registers.h]

end Registers

/-- The constants of the rounds: the cube roots of the first sixty-four primes. -/
def constants : List Nat := [
  0x428a2f98, 0x71374491, 0xb5c0fbcf, 0xe9b5dba5, 0x3956c25b, 0x59f111f1, 0x923f82a4, 0xab1c5ed5,
  0xd807aa98, 0x12835b01, 0x243185be, 0x550c7dc3, 0x72be5d74, 0x80deb1fe, 0x9bdc06a7, 0xc19bf174,
  0xe49b69c1, 0xefbe4786, 0x0fc19dc6, 0x240ca1cc, 0x2de92c6f, 0x4a7484aa, 0x5cb0a9dc, 0x76f988da,
  0x983e5152, 0xa831c66d, 0xb00327c8, 0xbf597fc7, 0xc6e00bf3, 0xd5a79147, 0x06ca6351, 0x14292967,
  0x27b70a85, 0x2e1b2138, 0x4d2c6dfc, 0x53380d13, 0x650a7354, 0x766a0abb, 0x81c2c92e, 0x92722c85,
  0xa2bfe8a1, 0xa81a664b, 0xc24b8b70, 0xc76c51a3, 0xd192e819, 0xd6990624, 0xf40e3585, 0x106aa070,
  0x19a4c116, 0x1e376c08, 0x2748774c, 0x34b0bcb5, 0x391c0cb3, 0x4ed8aa4a, 0x5b9cca4f, 0x682e6ff3,
  0x748f82ee, 0x78a5636f, 0x84c87814, 0x8cc70208, 0x90befffa, 0xa4506ceb, 0xbef9a3f7, 0xc67178f2]

/-- The window one round later. -/
def slide (window : List Nat) : List Nat :=
  let early := window.getD 1 0
  let late := window.getD 14 0
  let mixedEarly := rotate 7 early ^^^ rotate 18 early ^^^ early >>> 3
  let mixedLate := rotate 17 late ^^^ rotate 19 late ^^^ late >>> 10
  window.tail ++ [add (add mixedLate (window.getD 9 0)) (add mixedEarly (window.getD 0 0))]

/-- The rounds with the given constants. -/
def rounds : List Nat → List Nat → Registers → Registers
  | [], _, registers => registers
  | constant :: rest, window, registers =>
      rounds rest (slide window) (registers.round constant (window.getD 0 0))

/-- Mix a block into the words. -/
def compress (registers : Registers) (block : List Nat) : Registers :=
  registers.addAll (rounds constants block registers)

/-- The number whose digits in base 256 are the bytes. -/
def bigEndian (bytes : List Nat) : Nat :=
  bytes.foldl (fun number byte => 256 * number + byte) 0

/-- The bytes of the length of a message in bits. -/
def lengthBytes (length : Nat) : List Nat :=
  (List.range 8).map fun position => 8 * length / 256 ^ (7 - position) % 256

/-- The message with a mark, zeros and its length. -/
def pad (message : List Nat) : List Nat :=
  message ++ 128 :: List.replicate ((119 - message.length % 64) % 64) 0 ++
    lengthBytes message.length

/-- The words of a padded message. -/
def words (padded : List Nat) : List Nat :=
  (padded.toChunks 4).map bigEndian

/-- The hash of a message as eight words. -/
def hash (message : List Nat) : Registers :=
  ((words (pad message)).toChunks 16).foldl compress Registers.initial

/-- The digits of a word, the highest first. -/
def hexDigits (word : Nat) : List Char :=
  (List.range 8).map fun position => Nat.digitChar (word >>> (4 * (7 - position)) % 16)

/-- The hash of a message as hexadecimal digits. -/
def hexdigest (message : List Nat) : List Char :=
  (hash message).words.flatMap hexDigits

end Sha256

end EaBot.Foundation
