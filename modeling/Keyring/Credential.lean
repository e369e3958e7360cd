import Keyring.Presented
import Keyring.Secret

/-!
# Credentials

A new access key: an id and a secret, both drawn at random, and the hash of the secret.

Characters are drawn uniformly. A byte chooses a character of an alphabet by its remainder, and the
bytes above the greatest multiple of the alphabet's size are passed over. Bytes are read in batches
a quarter larger than the text that is wanted, and batches until there is enough.
-/

namespace Keyring

open Text (lit)

namespace Draw

/-- The greatest byte that chooses a character of an alphabet of `size`. -/
def greatest (size : Nat) : Nat :=
  255 - 256 % size

/-- How many bytes are read at a time for a text of `length`. -/
def batchSize (length : Nat) : Nat :=
  length + length / 4

variable {α : Type}

/-- The characters that some bytes choose. -/
def characters (alphabet : List α) (bytes : Bytes) : List α :=
  (bytes.filter fun byte => byte.toNat ≤ greatest alphabet.length).filterMap fun byte =>
    alphabet[byte.toNat % alphabet.length]?

/-- Reads batches of a size until `wanted` characters are drawn, of which `drawn` are there already.
The source answers `remaining` more reads. -/
def fill (alphabet : List α) (size wanted : Nat) (answer : List Nat → Nat → Except Text Bytes) :
    Nat → List Nat → List α → Except GenerationFault (List α) × Nat × List Nat
  | 0, asked, _ => (.error (.sourceFailed Source.exhausted), 0, asked ++ [size])
  | remaining + 1, asked, drawn =>
    let after := asked ++ [size]
    match answer asked size with
    | .error reason => (.error (.sourceFailed reason), remaining, after)
    | .ok bytes =>
      if bytes.length ≠ size then (.error (.shortRead bytes.length size), remaining, after)
      else
        let drawn := drawn ++ characters alphabet bytes
        if wanted ≤ drawn.length then (.ok (drawn.take wanted), remaining, after)
        else fill alphabet size wanted answer remaining after drawn

/-- The first of the characters that a text of the given length would have, at most `limit` of them.
A length that is not positive asks for no bytes. -/
def firstOf (limit : Nat) (alphabet : List α) (length : Int) (source : Source) :
    Except Failure (List α) × Source :=
  if alphabet.isEmpty || alphabet.length > 256 then
    (.error (.alphabetSize alphabet.length), source)
  else if length ≤ 0 then (.ok [], source)
  else
    let (result, remaining, asked) :=
      fill alphabet (batchSize length.toNat) (min limit length.toNat) source.answer
        source.remaining source.asked []
    (match result with
      | .ok drawn => .ok drawn
      | .error fault => .error (.generation fault),
      { source with remaining := remaining, asked := asked })

/-- As many characters of an alphabet as are wanted. -/
def sequence (alphabet : List α) (length : Int) (source : Source) :
    Except Failure (List α) × Source :=
  firstOf length.toNat alphabet length source

/-- A text of the given length with characters of an alphabet. -/
def text (alphabet : Text) (length : Int) (source : Source) : Except Failure Text × Source :=
  sequence alphabet length source

/-- A text of the given length with elements of a value. Only texts make a text together. A
dictionary has no elements under numbers, so the first number that is drawn ends it. -/
def textOf (alphabet : Cell) (elements : List Cell) (length : Int) (source : Source) :
    Except Failure Text × Source :=
  match alphabet with
  | .dictionary _ =>
    let (result, source) := firstOf 1 (List.range elements.length) length source
    (result.bind fun drawn =>
      match drawn with
      | [] => .ok []
      | number :: _ => .error (.nothingUnder (.ofInt (Int.ofNat number))), source)
  | _ =>
    let (result, source) := sequence elements length source
    (result.bind Cell.joined, source)

/-- A text whose length and alphabet may be of any kind. -/
def textFor (alphabet length : Cell) (source : Source) : Except Failure Text × Source :=
  match alphabet.elements, length.wantedLength with
  | .error failure, _ => (.error failure, source)
  | .ok elements, .error failure =>
    ((sequence elements 0 source).1.bind fun _ => .error failure, source)
  | .ok elements, .ok length => textOf alphabet elements length source

end Draw

/-- A new access key. The secret is nowhere else. -/
structure Credential where
  id : Text
  secret : Text
  hash : Bytes
  deriving DecidableEq, Repr

namespace Credential

/-- The characters of ids. -/
def idAlphabet : Text :=
  lit "ABCDEFGHIJKLMNOPQRSTUVWXYZ0123456789"

/-- The characters of secrets. -/
def secretAlphabet : Text :=
  lit "ABCDEFGHIJKLMNOPQRSTUVWXYZabcdefghijklmnopqrstuvwxyz0123456789"

/-- How long ids are. -/
def idLength : Nat := 20

/-- How long secrets are. -/
def secretLength : Nat := 40

/-- A credential from fresh bytes and a fresh salt. -/
def create (source : Source) (salts : Salts) : Except Failure Credential × Source × Salts :=
  match Draw.text idAlphabet idLength source with
  | (.error failure, source) => (.error failure, source, salts)
  | (.ok id, source) =>
    match Draw.text secretAlphabet secretLength source with
    | (.error failure, source) => (.error failure, source, salts)
    | (.ok secret, source) =>
      match Secret.hash (.ofText secret) Secret.defaultCost salts with
      | (.error failure, salts) => (.error failure, source, salts)
      | (.ok hash, salts) => (.ok ⟨id, secret, hash⟩, source, salts)

/-- How a credential with an id shows in diagnostics: without its secret and its hash. -/
def renderId (id : Cell) : Text :=
  lit "AccessKey(id=" ++ id.toQuoted ++ lit ", secret='***')"

/-- How a credential shows in diagnostics. -/
def render (credential : Credential) : Text :=
  renderId credential.id

end Credential

end Keyring
