import Keyring.Failure
import Keyring.Named

/-!
# Entries

The ids of a keychain with their hashes, in the order in which the ids were first put.

The file of a keychain has a line `id:hash` for each entry, and nothing is escaped. So
`isAcceptable` says which entries may be put: texts with octets that `entry?` reads back from their
line. An empty line is passed over. Whoever makes a keychain from entries of other kinds finds out
when they are to be written.
-/

namespace Keyring

open Text (lit)

/-- Ids with their hashes, no id twice. -/
abbrev Entries := Named Cell

namespace Entries

/-- The colon, which ends the id on a line. -/
def separator : UInt8 := 58

/-- The line feed, which ends a line. -/
def newline : UInt8 := 10

/-- The ids, in order. -/
def ids (entries : Entries) : List Cell :=
  entries.names

/-- What no id holds: a colon, which would end it on its line, a newline, which would end the line,
and a zero, which stands between id and secret where verdicts are remembered. -/
def reserved : List CodePoint :=
  [58, 10, 0]

/-- An id that a line can hold. -/
def isStorableId (id : Text) : Bool :=
  !reserved.any id.contains && Utf8.isEncodable id

/-- An entry that a file keeps as it is. -/
def isAcceptable (id : Text) (hash : Bytes) : Bool :=
  !id.isEmpty && isStorableId id && !hash.isEmpty && !hash.contains newline

/-- Why an entry is refused, unless it is acceptable. -/
def refusal? (id : Text) (hash : Bytes) : Option EntryFault :=
  if id.isEmpty || hash.isEmpty then some .empty
  else if !isStorableId id then some (.unstorableId (.ofText id))
  else if hash.contains newline then some .hashHoldsNewline
  else none

/-- The hash that a text is. It stands for itself as far as it is ASCII. -/
def hashOfText (text : Text) : Except EntryFault Bytes :=
  if text.all CodePoint.isAscii then .ok (text.map fun point => UInt8.ofNat point.val)
  else .error .hashNotAscii

/-- The line of an entry. -/
def renderEntry (id : Bytes) (hash : Bytes) : Bytes :=
  id ++ separator :: hash ++ [newline]

/-- The octets of an id on its line. -/
def idOctets : Cell → Except Failure Bytes
  | .ofText id =>
    match Utf8.encode id with
    | .ok octets => .ok octets
    | .error run => .error (.unencodable run)
  | id => .error (.misfit (.unable id.kind (lit "encode")))

/-- The octets of a hash on its line. -/
def hashOctets : Cell → Except Failure Bytes
  | .ofBytes hash => .ok hash
  | hash => .error (.misfit (.unappendable hash.kind))

/-- The file of some entries, or what is wrong with the first that has no line. -/
def render : Entries → Except Failure Bytes
  | [] => .ok []
  | (id, hash) :: others => do
    let line := renderEntry (← idOctets id) (← hashOctets hash)
    return line ++ (← render others)

/-- The entry on a line, which has lost its newline. -/
def entry? (line : Bytes) : Option (Text × Bytes) :=
  match splitFirst separator line with
  | none => none
  | some (id, hash) =>
    if id.isEmpty || hash.isEmpty then none
    else
      match Utf8.decode id with
      | .error _ => none
      | .ok id => if isStorableId id then some (id, hash) else none

/-- Puts the entries of some lines, of which the first has the given number; or tells the number of
the first line that is neither empty nor an entry. -/
def putLines (entries : Entries) (number : Nat) : List Bytes → Except Nat Entries
  | [] => .ok entries
  | line :: lines =>
    if line.isEmpty then putLines entries (number + 1) lines
    else
      match entry? line with
      | none => .error number
      | some (id, hash) => putLines (entries.put (.ofText id) (.ofBytes hash)) (number + 1) lines

/-- The entries of a file, or the number of its first bad line. -/
def parse (file : Bytes) : Except Nat Entries :=
  putLines [] 1 (splitAll newline file)

/-- The entries of a file, of which a failure tells the name. -/
def parseFile (name : Cell) (file : Bytes) : Except Failure Entries :=
  match parse file with
  | .ok entries => .ok entries
  | .error line => .error (.invalidEntry .malformed name (.ofInt line))

/-- The name of a file that is none. -/
def memoryName : Text :=
  lit "<memory>"

end Entries

end Keyring
