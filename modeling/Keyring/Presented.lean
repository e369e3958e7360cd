import Keyring.Entries

/-!
# Values from outside

What callers present may be of any kind. Each function here says which kinds are good for one
purpose, and what the misfit is with the others.
-/

namespace Keyring.Cell

open Text (lit)

/-! ## Numbers -/

/-- The number that a value is, or what cannot be done with a value of its kind. -/
def numberOr (misfit : Kind → Misfit) (value : Cell) : Except Failure Int :=
  match value.number? with
  | some number => .ok number
  | none => .error (.misfit (misfit value.kind))

/-- The count that a value is. -/
def count : Cell → Except Failure Int :=
  numberOr .unsigned

/-- The length of a text to come that a value is. -/
def wantedLength : Cell → Except Failure Int :=
  numberOr fun kind => .unordered (lit "<=") kind .integer

/-- The number of code points that may show, which a value is. -/
def extent : Cell → Except Failure Int :=
  numberOr fun kind => .unordered (lit "<=") .integer kind

/-- The size of a cache that a value is. -/
def capacity : Cell → Except Failure Int :=
  numberOr fun kind => .unordered (lit ">") .integer kind

/-- The wanted size of a cache, none if a value is not there. -/
def capacity? : Cell → Except Failure (Option Int)
  | .absent => .ok none
  | value => value.capacity.map some

/-! ## Texts and octets -/

/-- The secret that a value is. -/
def secret : Cell → Except Failure Given
  | .ofText text => .ok (.ofText text)
  | .ofBytes bytes => .ok (.ofBytes bytes)
  | value => .error (.misfit (.unable value.kind (lit "encode")))

/-- The header that a value is. A value that says nothing is none. -/
def header (value : Cell) : Except Failure (Option Text) :=
  if value.isBlank then .ok none
  else
    match value with
    | .ofText text => .ok (some text)
    | .ofBytes _ => .error (.misfit .textInOctets)
    | value => .error (.misfit (.unable value.kind (lit "strip")))

/-- The content of a file that a value is. -/
def content : Cell → Except Failure Bytes
  | .ofBytes bytes => .ok bytes
  | .ofText _ => .error (.misfit .octetsInText)
  | value => .error (.misfit (.unable value.kind (lit "split")))

/-- The hash that a value is, which is to be shown. -/
def shownHash : Cell → Except Failure Bytes
  | .ofBytes bytes => .ok bytes
  | value => .error (.misfit (.unable value.kind (lit "decode")))

/-- The hash that a value is, which a secret is to be checked against. -/
def storedHash : Cell → Except Failure Bytes
  | .ofBytes bytes => .ok bytes
  | value => .error (.misfit (.noHash value.kind))

/-- The elements of a value that has any: the code points of a text, each as a text, octets as
numbers, items, and names. -/
def elements? : Cell → Option (List Cell)
  | .ofText text => some (text.map fun point => .ofText [point])
  | .ofBytes bytes => some (bytes.map fun octet => .ofInt octet.toNat)
  | .list items => some items
  | .dictionary entries => some (entries.map fun (name, _) => .ofText name)
  | _ => none

/-- The elements of a value whose length matters. -/
def elements (value : Cell) : Except Failure (List Cell) :=
  match value.elements? with
  | some elements => .ok elements
  | none => .error (.misfit (.unsized value.kind))

/-- The elements of a value that are taken one after another. -/
def each (value : Cell) : Except Failure (List Cell) :=
  match value.elements? with
  | some elements => .ok elements
  | none => .error (.misfit (.elementless value.kind))

/-- The texts that some values are, of which the first has the given place among all. -/
def textsFrom (index : Nat) : List Cell → Except Failure (List Text)
  | [] => .ok []
  | .ofText text :: values => (textsFrom (index + 1) values).map (text :: ·)
  | value :: _ => .error (.misfit (.unjoinable index value.kind))

/-- The text that some values make one after another. -/
def joined (values : List Cell) : Except Failure Text :=
  (textsFrom 0 values).map List.flatten

/-- The directory that a value names. A value that says nothing names none. -/
def directory? (value : Cell) : Except Failure (Option Text) :=
  if value.isBlank then .ok none
  else
    match value with
    | .ofText text => .ok (some text)
    | value => .error (.misfit (.noPath value.kind))

/-! ## Entries -/

/-- The id that a value is, which is to be looked up. Lists and dictionaries cannot even be looked
up. -/
def soughtId : Cell → Except Failure Cell
  | .list _ => .error (.misfit (.changeable .list))
  | .dictionary _ => .error (.misfit (.changeable .dictionary))
  | id => .ok id

/-- An id holds something that none may hold. Among the items of a list that is a whole item, and
among the entries of a dictionary a name. -/
def holdsReserved : Cell → Except Failure Bool
  | .ofText id => .ok (Entries.reserved.any id.contains)
  | .list items => .ok (Entries.reserved.any fun point => items.contains (.ofText [point]))
  | .dictionary entries =>
    .ok (Entries.reserved.any fun point => entries.any fun (name, _) => name = [point])
  | .ofBytes _ => .error (.misfit .textInOctets)
  | value => .error (.misfit (.unsearchable value.kind))

/-- The id that a value is, for an entry. -/
def entryId (value : Cell) : Except Failure Text := do
  if ← value.holdsReserved then throw (.invalidEntry (.unstorableId value) .absent .absent)
  match value with
  | .ofText id =>
    if Utf8.isEncodable id then return id
    else throw (.invalidEntry (.unstorableId value) .absent .absent)
  | value => throw (.misfit (.unable value.kind (lit "encode")))

/-- The octet that a value is. -/
def octet (value : Cell) : Except Failure UInt8 :=
  match value.number? with
  | none => .error (.misfit (.noOctet value.kind))
  | some number =>
    if 0 ≤ number && number < 256 then .ok (UInt8.ofNat number.toNat) else .error .octetOutOfRange

/-- The octets that a value is, for the hash of an entry. They hold no newline; a list may give
octets one by one, and no item of it is a newline as octets are. -/
def entryHash : Cell → Except Failure Bytes
  | .ofBytes bytes =>
    if bytes.contains Entries.newline then .error (.invalidEntry .hashHoldsNewline .absent .absent)
    else .ok bytes
  | .list items =>
    if items.contains (.ofBytes [Entries.newline]) then
      .error (.invalidEntry .hashHoldsNewline .absent .absent)
    else items.mapM octet
  | .dictionary _ => .error (.misfit (.noOctet .text))
  | value => .error (.misfit (.unsearchable value.kind))

/-- The hash that a value is meant as: a text stands for its octets. -/
def meantHash : Cell → Except Failure Cell
  | .ofText text =>
    match Entries.hashOfText text with
    | .ok bytes => .ok (.ofBytes bytes)
    | .error fault => .error (.invalidEntry fault .absent .absent)
  | value => .ok value

/-- The entry that two values are, or the first thing that keeps them from being one: a text that is
no hash, a value that says nothing, the id, and the hash. -/
def entryWith (id hash : Cell) : Except Failure (Text × Bytes) := do
  let hash ← hash.meantHash
  if id.isBlank || hash.isBlank then throw (.invalidEntry .empty .absent .absent)
  return (← id.entryId, ← hash.entryHash)

/-- A text with octets is an entry unless the entries refuse it. -/
theorem entryWith_ofText_ofBytes (id : Text) (hash : Bytes) :
    entryWith (.ofText id) (.ofBytes hash) =
      match Entries.refusal? id hash with
      | none => .ok (id, hash)
      | some fault => .error (.invalidEntry fault .absent .absent) := by
  simp only [entryWith, meantHash, isBlank, Entries.refusal?, Entries.isStorableId, entryId,
    holdsReserved, entryHash, bind, Except.bind, pure, Except.pure, throw, throwThe,
    MonadExceptOf.throw]
  by_cases blank : (id.isEmpty || hash.isEmpty) = true
  · simp [blank]
  · by_cases held : Entries.reserved.any id.contains = true
    · simp [blank, held]
    · by_cases encodable : Utf8.isEncodable id = true
      · by_cases newline : Entries.newline ∈ hash <;> simp [blank, held, encodable, newline]
      · simp [blank, held, encodable]

end Keyring.Cell
