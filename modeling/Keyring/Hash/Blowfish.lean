import Keyring.Hash.PiWords

/-!
# Blowfish

The block cipher with a costly key schedule: eighteen round keys and four boxes of 256 words, all
replaced by enciphering with the schedule so far. `expand` does so once, with a salt mixed in.
-/

namespace Keyring.Blowfish

/-- Round keys and boxes, the four boxes one after another. -/
structure Schedule where
  keys : Array UInt32
  boxes : Array UInt32

/-- The words that fill a schedule before any key. -/
def startWords : Array UInt32 :=
  PiWords.words 1042

/-- The schedule before any key. -/
def start : Schedule where
  keys := startWords.extract 0 18
  boxes := startWords.extract 18 1042

/-- The word that the boxes give for a half block. -/
@[inline]
def mix (boxes : Array UInt32) (half : UInt32) : UInt32 :=
  let first := boxes.getD (half >>> 24).toNat 0
  let second := boxes.getD (256 + ((half >>> 16) &&& 0xFF).toNat) 0
  let third := boxes.getD (512 + ((half >>> 8) &&& 0xFF).toNat) 0
  let fourth := boxes.getD (768 + (half &&& 0xFF).toNat) 0
  ((first + second) ^^^ third) + fourth

/-- Pairs of rounds, from the round key at `index` on. -/
def rounds (schedule : Schedule) : Nat → Nat → UInt32 → UInt32 → UInt32 × UInt32
  | 0, _, left, right => (left, right)
  | pairs + 1, index, left, right =>
    let left := left ^^^ schedule.keys.getD index 0
    let right := right ^^^ mix schedule.boxes left ^^^ schedule.keys.getD (index + 1) 0
    let left := left ^^^ mix schedule.boxes right
    rounds schedule pairs (index + 2) left right

/-- The two halves of a block, enciphered. -/
def encipher (schedule : Schedule) (left right : UInt32) : UInt32 × UInt32 :=
  let (left, right) := rounds schedule 8 0 left right
  (right ^^^ schedule.keys.getD 17 0, left ^^^ schedule.keys.getD 16 0)

/-- Where a key schedule stands: the schedule so far, the block last enciphered, and how many words
of salt have gone into it. -/
structure Filling where
  schedule : Schedule
  left : UInt32
  right : UInt32
  used : Nat

/-- The next block: the last one, mixed with two words of salt and enciphered. -/
@[inline]
def Filling.next (salt : Array UInt32) (filling : Filling) : UInt32 × UInt32 :=
  encipher filling.schedule (filling.left ^^^ salt.getD (filling.used % salt.size) 0)
    (filling.right ^^^ salt.getD ((filling.used + 1) % salt.size) 0)

/-- Replaces `pairs` pairs of round keys from `index` on. -/
def fillKeys (salt : Array UInt32) : Nat → Nat → Filling → Filling
  | 0, _, filling => filling
  | pairs + 1, index, filling =>
    let (left, right) := filling.next salt
    let ⟨⟨keys, boxes⟩, _, _, used⟩ := filling
    fillKeys salt pairs (index + 2)
      ⟨⟨(keys.setIfInBounds index left).setIfInBounds (index + 1) right, boxes⟩, left, right,
        used + 2⟩

/-- Replaces `pairs` pairs of box words from `index` on. -/
def fillBoxes (salt : Array UInt32) : Nat → Nat → Filling → Filling
  | 0, _, filling => filling
  | pairs + 1, index, filling =>
    let (left, right) := filling.next salt
    let ⟨⟨keys, boxes⟩, _, _, used⟩ := filling
    fillBoxes salt pairs (index + 2)
      ⟨⟨keys, (boxes.setIfInBounds index left).setIfInBounds (index + 1) right⟩, left, right,
        used + 2⟩

/-- The round keys mixed with the words of a key. -/
def mixKey (key : Array UInt32) (keys : Array UInt32) : Array UInt32 :=
  keys.mapIdx fun index word => word ^^^ key.getD index 0

/-- The schedule after one pass with a key of eighteen words and a salt. -/
def expand (salt key : Array UInt32) (schedule : Schedule) : Schedule :=
  let ⟨keys, boxes⟩ := schedule
  let mixed : Filling := ⟨⟨mixKey key keys, boxes⟩, 0, 0, 0⟩
  (fillBoxes salt 512 0 (fillKeys salt 9 0 mixed)).schedule

end Keyring.Blowfish
