import Keyring.Codec.Radix64

/-!
# Base64

Octets as letters of a fixed alphabet of 64, filled up with equals signs to whole groups of four.

Reading is strict about what it skips, namely nothing, and lenient in two places: whole groups may
have any number of equals signs after them, and the bits of the last letter that belong to no octet
may be anything.
-/

namespace Keyring.Base64

/-- The letter of a sextet. -/
def letter (sextet : Radix64.Sextet) : CodePoint :=
  let value := sextet.val
  CodePoint.ofNat
    (if value < 26 then 65 + value
    else if value < 52 then 71 + value
    else if value < 62 then value - 4
    else if value = 62 then 43
    else 47)

/-- The sextet of a letter. -/
def sextet? (point : CodePoint) : Option Radix64.Sextet :=
  let value := point.val
  if 65 ≤ value && value ≤ 90 then some (Radix64.Sextet.ofNat (value - 65))
  else if 97 ≤ value && value ≤ 122 then some (Radix64.Sextet.ofNat (value - 71))
  else if 48 ≤ value && value ≤ 57 then some (Radix64.Sextet.ofNat (value + 4))
  else if value = 43 then some 62
  else if value = 47 then some 63
  else none

/-- The equals sign, which fills up the last group. -/
def filler : CodePoint := 61

/-- The letters of some octets. -/
def encode (bytes : Bytes) : Text :=
  (Radix64.sextets bytes).map letter ++ List.replicate ((3 - bytes.length % 3) % 3) filler

/-- The octets that a text stands for: letters, then as many equals signs as their number asks for.
After whole groups that is any number, but none where there is no group. -/
def decode? (text : Text) : Option Bytes :=
  let letters := text.takeWhile (· ≠ filler)
  let fillers := text.dropWhile (· ≠ filler)
  let fits : Bool :=
    match letters.length % 4 with
    | 0 => letters.length ≠ 0 || fillers.length = 0
    | 1 => false
    | 2 => fillers.length = 2
    | _ => fillers.length = 1
  if fillers.all (· = filler) && fits then
    (letters.mapM sextet?).map Radix64.octets
  else none

end Keyring.Base64
