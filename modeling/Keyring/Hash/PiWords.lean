/-!
# The binary digits of π

The words that a block cipher starts from when it must show that nothing was hidden in them: the
digits of π after the point, in groups of 32 bits.

They are computed by Machin's formula, `π = 16 arctan (1/5) - 4 arctan (1/239)`, in whole numbers
with 64 bits to spare for rounding.
-/

namespace Keyring.PiWords

/-- The terms of odd index from `odd` on, `power / odd` and so on with alternating signs, where each
`power` is the last divided by `square`; at most `count` of them. -/
def alternating (square : Nat) : Nat → Nat → Nat → Int
  | 0, _, _ => 0
  | count + 1, power, odd =>
    if power = 0 then 0
    else (power / odd : Nat) - alternating square count (power / square) (odd + 2)

/-- The arctangent of one over a number above two, times `2 ^ bits`. -/
def arctanInverse (bits number : Nat) : Int :=
  alternating (number * number) bits (Nat.pow 2 bits / number) 1

/-- The first `count` words after the point. -/
def words (count : Nat) : Array UInt32 :=
  let bits := count * 32 + 64
  let scaled := (16 * arctanInverse bits 5 - 4 * arctanInverse bits 239).toNat
  (Array.range count).map fun index =>
    UInt32.ofNat (scaled >>> (bits - 32 * (index + 1)))

end Keyring.PiWords
