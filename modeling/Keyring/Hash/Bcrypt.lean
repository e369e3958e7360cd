import Keyring.Codec.Radix64
import Keyring.Hash.Blowfish

/-!
# bcrypt

Password hashing with a cost that doubles with each step. A hash is written as
`$version$cost$salt` and 31 letters of digest, and the same text serves as the setting of a further
hash: a password is checked by hashing it with the stored hash as its setting.

A setting is read more loosely than it is written: empty parts are passed over, the cost may have a
plus sign and zeros in front, and anything may follow the salt. What is written is always in the
one strict form, so a hash that was stored in another form equals no hash at all.
-/

namespace Keyring.Bcrypt

/-- The letter of a sextet. -/
def letter (sextet : Radix64.Sextet) : UInt8 :=
  let value := sextet.val
  UInt8.ofNat
    (if value < 2 then 46 + value
    else if value < 28 then 63 + value
    else if value < 54 then 69 + value
    else value - 6)

/-- The sextet of a letter. -/
def sextet? (byte : UInt8) : Option Radix64.Sextet :=
  let value := byte.toNat
  if 46 ≤ value && value ≤ 47 then some (Radix64.Sextet.ofNat (value - 46))
  else if 65 ≤ value && value ≤ 90 then some (Radix64.Sextet.ofNat (value - 63))
  else if 97 ≤ value && value ≤ 122 then some (Radix64.Sextet.ofNat (value - 69))
  else if 48 ≤ value && value ≤ 57 then some (Radix64.Sextet.ofNat (value + 6))
  else none

/-- The letters of some octets. -/
def encode (bytes : Bytes) : Bytes :=
  (Radix64.sextets bytes).map letter

/-- The dollar sign, which starts each part of a setting. -/
def separator : UInt8 := 36

/-- The versions of the format, which differ in name only. -/
def versions : List Bytes :=
  [[50, 97], [50, 98], [50, 120], [50, 121]]

/-- The version of new hashes, `2b`. -/
def currentVersion : Bytes := [50, 98]

/-- How many letters a salt has. -/
def saltLength : Nat := 22

/-- What a hash is made with. -/
structure Setting where
  version : Bytes
  cost : Nat
  /-- The letters of the salt. -/
  salt : Bytes
  deriving DecidableEq, Repr

/-- The number that decimal digits write. -/
def decimal? (bytes : Bytes) : Option Nat :=
  if bytes.isEmpty || !bytes.all (fun byte => 48 ≤ byte && byte ≤ 57) then none
  else some (bytes.foldl (fun total byte => total * 10 + (byte.toNat - 48)) 0)

/-- A cost between 4 and 31, after an optional plus sign. -/
def cost? (bytes : Bytes) : Option Nat :=
  let digits :=
    match bytes with
    | 43 :: rest => rest
    | rest => rest
  (decimal? digits).bind fun cost => if 4 ≤ cost && cost ≤ 31 then some cost else none

/-- The salt in front of a part: 22 letters, of which the last carries only two bits. -/
def salt? (bytes : Bytes) : Option Bytes :=
  let salt := bytes.take saltLength
  if salt.length < saltLength then none
  else
    match salt.mapM sextet? with
    | none => none
    | some sextets => if (sextets.getD 21 0).val % 16 = 0 then some salt else none

/-- The parts of a setting that are not empty. -/
def parts (bytes : Bytes) : List Bytes :=
  (splitAll separator bytes).filter fun part => !part.isEmpty

/-- The setting that some octets describe. -/
def Setting.parse? (bytes : Bytes) : Option Setting :=
  match parts bytes with
  | [version, cost, salt] =>
    if versions.contains version then
      match cost? cost, salt? salt with
      | some cost, some salt => some ⟨version, cost, salt⟩
      | _, _ => none
    else none
  | _ => none

/-- A number below 100 as two decimal digits. -/
def twoDigits (value : Nat) : Bytes :=
  [UInt8.ofNat (48 + value / 10 % 10), UInt8.ofNat (48 + value % 10)]

/-- The one strict form of a setting. -/
def Setting.render (setting : Setting) : Bytes :=
  [separator] ++ setting.version ++ [separator] ++ twoDigits setting.cost ++ [separator]
    ++ setting.salt

/-- The octets that a cipher key is made of: the password and a zero, cut to 72 octets, over and
over until there are 72. -/
def effectiveKey (password : Bytes) : Bytes :=
  let period := (password ++ [0]).take 72
  (List.range 72).map fun index => period.getD (index % period.length) 0

/-- Four octets as a word, the most significant first. -/
def word (bytes : Bytes) : UInt32 :=
  UInt32.ofNat (bytes.foldl (fun total byte => total * 256 + byte.toNat) 0)

/-- Octets as words. -/
def toWords (count : Nat) (bytes : Bytes) : Array UInt32 :=
  (Array.range count).map fun index => word ((bytes.drop (index * 4)).take 4)

/-- A word as four octets, the most significant first. -/
def wordBytes (word : UInt32) : Bytes :=
  [UInt8.ofNat (word.toNat / 16777216), UInt8.ofNat (word.toNat / 65536 % 256),
    UInt8.ofNat (word.toNat / 256 % 256), UInt8.ofNat (word.toNat % 256)]

/-- `count` passes with the key, each followed by one with the salt in its place. -/
def stretch (salt key zero : Array UInt32) : Nat → Blowfish.Schedule → Blowfish.Schedule
  | 0, schedule => schedule
  | count + 1, schedule =>
    stretch salt key zero count
      (Blowfish.expand zero salt (Blowfish.expand zero key schedule))

/-- A block enciphered `count` times. -/
def repeated (schedule : Blowfish.Schedule) : Nat → UInt32 × UInt32 → UInt32 × UInt32
  | 0, block => block
  | count + 1, (left, right) =>
    repeated schedule count (Blowfish.encipher schedule left right)

/-- The 23 octets that a key of 72 octets, a salt of sixteen and a cost lead to: three blocks that
say `OrpheanBeholderScryDoubt`, enciphered 64 times, less the last octet. -/
def digest (cost : Nat) (salt key : Bytes) : Bytes :=
  let saltWords := toWords 4 salt
  let keyWords := toWords 18 key
  let saltKey := (Array.range 18).map fun index => saltWords.getD (index % 4) 0
  let schedule := stretch saltKey keyWords #[0, 0] (Nat.pow 2 cost)
    (Blowfish.expand saltWords keyWords Blowfish.start)
  let (a, b) := repeated schedule 64 (0x4F727068, 0x65616E42)
  let (c, d) := repeated schedule 64 (0x65686F6C, 0x64657253)
  let (e, f) := repeated schedule 64 (0x63727944, 0x6F756274)
  (wordBytes a ++ wordBytes b ++ wordBytes c ++ wordBytes d ++ wordBytes e ++ wordBytes f).take 23

/-- The sixteen octets of a salt. -/
def saltBytes (salt : Bytes) : Bytes :=
  Radix64.octets (salt.filterMap sextet?)

/-- The hash of a password with a setting. -/
def hashWith (setting : Setting) (password : Bytes) : Bytes :=
  setting.render ++
    encode (digest setting.cost (saltBytes setting.salt) (effectiveKey password))

/-- The hash of a password with the setting that some octets describe. -/
def hash? (password setting : Bytes) : Option Bytes :=
  (Setting.parse? setting).map (hashWith · password)

/-- Some octets are the hash of a password with themselves as the setting; none if they describe no
setting. -/
def check? (password stored : Bytes) : Option Bool :=
  (hash? password stored).map (· == stored)

end Keyring.Bcrypt
