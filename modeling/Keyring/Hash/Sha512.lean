import Keyring.Text.Basic

/-!
# SHA-512

The digest of the Secure Hash Standard with words of 64 bits. The constants of the standard are the
first 64 bits after the point of the square roots of the first eight primes and of the cube roots of
the first eighty; they are computed here from that definition.
-/

namespace Keyring.Sha512

/-- The greatest number below `2 ^ bits` over `found` whose `degree`-th power is at most `value`. -/
def rootFrom (degree value : Nat) : Nat → Nat → Nat
  | 0, found => found
  | bit + 1, found =>
    let larger := found + Nat.pow 2 bit
    rootFrom degree value bit (if larger.pow degree ≤ value then larger else found)

/-- The first 64 bits after the point of the `degree`-th root of a number below 1000. -/
def rootBits (degree number : Nat) : UInt64 :=
  UInt64.ofNat (rootFrom degree (number * Nat.pow 2 (64 * degree)) 70 0)

/-- A number without a divisor between one and itself. -/
def isPrime (number : Nat) : Bool :=
  2 ≤ number && (List.range number).all fun divisor => divisor < 2 || number % divisor ≠ 0

/-- The first eighty primes. -/
def primes : List Nat :=
  (List.range 410).filter isPrime

/-- The constant that each of the eighty rounds adds. -/
def roundConstants : List UInt64 :=
  primes.map (rootBits 3)

/-- The eight words that a digest is made of. -/
structure State where
  a : UInt64
  b : UInt64
  c : UInt64
  d : UInt64
  e : UInt64
  f : UInt64
  g : UInt64
  h : UInt64

/-- The words before the first block. -/
def initial : State where
  a := rootBits 2 2
  b := rootBits 2 3
  c := rootBits 2 5
  d := rootBits 2 7
  e := rootBits 2 11
  f := rootBits 2 13
  g := rootBits 2 17
  h := rootBits 2 19

/-- The word with its bits turned right. -/
def rotate (word : UInt64) (count : Nat) : UInt64 :=
  (word >>> UInt64.ofNat count) ||| (word <<< UInt64.ofNat (64 - count))

/-- One round. -/
def round (state : State) (constant word : UInt64) : State :=
  let mixedE := rotate state.e 14 ^^^ rotate state.e 18 ^^^ rotate state.e 41
  let choice := (state.e &&& state.f) ^^^ ((state.e ^^^ 0xFFFFFFFFFFFFFFFF) &&& state.g)
  let first := state.h + mixedE + choice + constant + word
  let mixedA := rotate state.a 28 ^^^ rotate state.a 34 ^^^ rotate state.a 39
  let majority := (state.a &&& state.b) ^^^ (state.a &&& state.c) ^^^ (state.b &&& state.c)
  { a := first + (mixedA + majority), b := state.a, c := state.b, d := state.c,
    e := state.d + first, f := state.e, g := state.f, h := state.g }

/-- More words of the schedule in front of those that are known, the latest first. -/
def extend : Nat → List UInt64 → List UInt64
  | 0, words => words
  | count + 1, words =>
    let near := words.getD 1 0
    let far := words.getD 14 0
    let mixedNear := rotate near 19 ^^^ rotate near 61 ^^^ (near >>> 6)
    let mixedFar := rotate far 1 ^^^ rotate far 8 ^^^ (far >>> 7)
    extend count ((mixedNear + words.getD 6 0 + mixedFar + words.getD 15 0) :: words)

/-- The number that some octets write, the most significant first. -/
def bigEndian (bytes : Bytes) : Nat :=
  bytes.foldl (fun total byte => total * 256 + byte.toNat) 0

/-- The last `width` octets of a number, the most significant first. -/
def bigEndianBytes : Nat → Nat → Bytes
  | 0, _ => []
  | width + 1, value => bigEndianBytes width (value / 256) ++ [UInt8.ofNat (value % 256)]

/-- The sixteen words of a block. -/
def blockWords (block : Bytes) : List UInt64 :=
  (List.range 16).map fun index => UInt64.ofNat (bigEndian ((block.drop (index * 8)).take 8))

/-- The state after a block. -/
def compress (state : State) (block : Bytes) : State :=
  let words := (extend 64 (blockWords block).reverse).reverse
  let mixed := (roundConstants.zip words).foldl
    (fun state (constant, word) => round state constant word) state
  { a := state.a + mixed.a, b := state.b + mixed.b, c := state.c + mixed.c, d := state.d + mixed.d,
    e := state.e + mixed.e, f := state.f + mixed.f, g := state.g + mixed.g, h := state.h + mixed.h }

/-- The message, a bit, zeros up to whole blocks, and the length of the message in bits. -/
def padded (message : Bytes) : Bytes :=
  message ++ [0x80] ++ List.replicate ((111 + 128 - message.length % 128) % 128) 0
    ++ bigEndianBytes 16 (message.length * 8)

/-- The 64 octets of the digest. -/
def digest (message : Bytes) : Bytes :=
  let whole := padded message
  let final := (List.range (whole.length / 128)).foldl
    (fun state index => compress state ((whole.drop (index * 128)).take 128)) initial
  [final.a, final.b, final.c, final.d, final.e, final.f, final.g, final.h].flatMap fun word =>
    bigEndianBytes 8 word.toNat

end Keyring.Sha512
