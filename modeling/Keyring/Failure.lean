import Keyring.Cell
import Keyring.Text.Utf8

/-!
# What can go wrong

One type for every failure of the library, told apart by cause. The wording of a failure is in
`Failure.message` alone; `Failure.isKeychainError` says which failures belong to the keychain itself
and are therefore reported, undone and logged by those who use it. All others pass through.

A refused verification is no failure.
-/

namespace Keyring

open Text (lit)

/-- What the operating system answers to a call that it does not carry out. -/
structure SystemError where
  /-- The number of the error. -/
  code : Int
  /-- Its text. -/
  reason : Text
  /-- The paths that the call was about, none if the error does not tell. -/
  operands : List Text
  deriving DecidableEq, Repr

namespace SystemError

/-- Number, text and paths. -/
def message (error : SystemError) : Text :=
  lit "[Errno " ++ Text.ofInt error.code ++ lit "] " ++ error.reason ++
    (if error.operands.isEmpty then []
    else lit ": " ++ Text.join (lit " -> ") (error.operands.map Text.quoted))

/-- The error that says that something is missing. -/
def isMissing (error : SystemError) : Bool :=
  error.code = 2

/-- The error that says that something is not permitted, or that access is denied. -/
def isPermission (error : SystemError) : Bool :=
  error.code = 1 || error.code = 13

/-- Nothing has this path. -/
def missing (operands : List Text) : SystemError :=
  ⟨2, lit "No such file or directory", operands⟩

/-- Something has this path. -/
def present (operands : List Text) : SystemError :=
  ⟨17, lit "File exists", operands⟩

/-- The path leads through something that is no directory. -/
def notDirectory (operands : List Text) : SystemError :=
  ⟨20, lit "Not a directory", operands⟩

/-- The path leads to a directory. -/
def isDirectory (operands : List Text) : SystemError :=
  ⟨21, lit "Is a directory", operands⟩

/-- The path leads to a directory that the system itself refers to. -/
def busy (operands : List Text) : SystemError :=
  ⟨16, lit "Device or resource busy", operands⟩

/-- A component of the path is longer than a name may be. -/
def nameTooLong (operands : List Text) : SystemError :=
  ⟨36, lit "File name too long", operands⟩

end SystemError

/-- Why a path cannot even be handed to the operating system. -/
inductive PathFault where
  /-- It holds a zero. -/
  | zero
  /-- It holds a surrogate. -/
  | unencodable (run : Utf8.Unencodable)
  /-- More directories are missing on the way to it than are made at a time. -/
  | tooDeep
  deriving DecidableEq, Repr

/-- Why a call about files fails. -/
inductive CallError where
  | system (error : SystemError)
  | badPath (fault : PathFault)
  deriving DecidableEq, Repr

/-- Why something is not printed. -/
inductive PrintError where
  | system (error : SystemError)
  /-- The output has no octets for it. -/
  | unencodable (run : Utf8.Unencodable)
  deriving DecidableEq, Repr

/-- Why no credential came about. -/
inductive GenerationFault where
  /-- The byte source failed for a reason of its own. -/
  | sourceFailed (reason : Text)
  /-- The byte source handed out another number of bytes than it was asked for. -/
  | shortRead (received asked : Nat)
  /-- Told by its message alone. -/
  | described (message : Text)
  deriving DecidableEq, Repr

/-- Why a secret has no hash. -/
inductive HashingFault where
  /-- The secret has more octets than count. -/
  | tooLong
  /-- The cost is none that hashes can have. -/
  | invalidCost
  /-- The salt is none. -/
  | invalidSalt
  /-- The cost is no number. -/
  | costKind (kind : Cell.Kind)
  /-- Told by its message alone. -/
  | described (message : Text)
  deriving DecidableEq, Repr

/-- Why an entry is no part of a keychain. -/
inductive EntryFault where
  /-- A line of a file is no entry. -/
  | malformed
  /-- A hash given as text has other code points than those of ASCII. -/
  | hashNotAscii
  /-- Id or hash is empty. -/
  | empty
  /-- A file cannot hold the id. -/
  | unstorableId (id : Cell)
  /-- The hash would end its line. -/
  | hashHoldsNewline
  /-- Told by its message alone. -/
  | described (message : Text)
  deriving DecidableEq, Repr

/-- Why a keychain file cannot be used. -/
inductive StorageFault where
  | reading (error : SystemError)
  | writing (error : SystemError)
  /-- Told by its message alone. -/
  | described (message : Text)
  deriving DecidableEq, Repr

/-- What cannot be done with a value, since it is of another kind. -/
inductive Misfit where
  /-- Something is wanted of a value that values of its kind do not do. -/
  | unable (kind : Cell.Kind) (wanted : Text)
  /-- A value has no length. -/
  | unsized (kind : Cell.Kind)
  /-- A value has no elements. -/
  | elementless (kind : Cell.Kind)
  /-- A value cannot be turned into its opposite. -/
  | unsigned (kind : Cell.Kind)
  /-- Two values have no order between them. -/
  | unordered (relation : Text) (first second : Cell.Kind)
  /-- A value can be no id, since it may change. -/
  | changeable (kind : Cell.Kind)
  /-- Nothing can be looked for in a value. -/
  | unsearchable (kind : Cell.Kind)
  /-- A value is no part of a text, with its place among the parts. -/
  | unjoinable (index : Nat) (kind : Cell.Kind)
  /-- A value cannot follow octets. -/
  | unappendable (kind : Cell.Kind)
  /-- A value is no octet. -/
  | noOctet (kind : Cell.Kind)
  /-- Text is looked for among octets. -/
  | textInOctets
  /-- Octets are looked for in a text. -/
  | octetsInText
  /-- A value is no hash. -/
  | noHash (kind : Cell.Kind)
  /-- A value is no path. -/
  | noPath (kind : Cell.Kind)
  /-- A value is no level. -/
  | noLevel (value : Cell)
  deriving DecidableEq, Repr

/-- A failure, by its cause. -/
inductive Failure where
  | generation (fault : GenerationFault)
  | hashing (fault : HashingFault)
  /-- An entry that is refused, with the file and the line that it stands in, if any. -/
  | invalidEntry (fault : EntryFault) (path line : Cell)
  /-- A keychain file that cannot be used. -/
  | storage (fault : StorageFault) (path : Cell)
  /-- Another failure of a keychain, told by its message alone. -/
  | keychain (message : Text)
  | system (error : SystemError)
  | badPath (fault : PathFault)
  | unencodable (run : Utf8.Unencodable)
  | undecodable (fault : Utf8.Undecodable)
  /-- An alphabet that bytes cannot choose from. -/
  | alphabetSize (size : Nat)
  /-- A cost that is no number of sixteen bits. -/
  | costOutOfRange
  /-- A cost that is no number of 64 bits. -/
  | costTooLarge
  /-- A number that is no octet. -/
  | octetOutOfRange
  /-- A token of a header that holds more than ASCII. -/
  | tokenNotAscii
  /-- A dictionary without a value under a name. -/
  | nothingUnder (name : Cell)
  /-- A row with more cells than its table has columns. -/
  | rowTooLong
  /-- A value that is not of the kind that is needed. -/
  | misfit (fault : Misfit)
  /-- A detail of a note that has the name of a part which every note has, with what writes the
  note. -/
  | detailTaken (writer name : Text)
  /-- A detail of a note with a name that is no text. -/
  | detailUnnamed
  /-- A word that stands for no level. -/
  | unknownLevel (word : Text)
  /-- Nobody answers any more. -/
  | endOfInput
  /-- The one who should answer breaks off instead. -/
  | interrupted
  deriving DecidableEq, Repr

/-- The failure of an operation that fails as a call of its does. -/
def CallError.toFailure : CallError → Failure
  | .system error => .system error
  | .badPath fault => .badPath fault

/-- The failure of an operation that cannot print. -/
def PrintError.toFailure : PrintError → Failure
  | .system error => .system error
  | .unencodable run => .unencodable run

/-- One surrogate, or the places of several. -/
def Utf8.Unencodable.message (run : Utf8.Unencodable) : Text :=
  lit "'utf-8' codec can't encode " ++
    (if run.stop = run.start + 1 then
      lit "character '\\u" ++ Text.hexDigits 4 run.point.val ++ lit "' in position " ++
        Text.ofNat run.start
    else
      lit "characters in position " ++ Text.ofNat run.start ++ lit "-" ++
        Text.ofNat (run.stop - 1)) ++
    lit ": surrogates not allowed"

/-- The reason that a run of octets is no UTF-8. -/
def Utf8.Reason.message : Utf8.Reason → Text
  | .invalidStart => lit "invalid start byte"
  | .invalidContinuation => lit "invalid continuation byte"
  | .truncated => lit "unexpected end of data"

/-- One octet, or the places of several, and the reason. -/
def Utf8.Undecodable.message (fault : Utf8.Undecodable) : Text :=
  lit "'utf-8' codec can't decode " ++
    (if fault.stop = fault.start + 1 then
      lit "byte 0x" ++ Text.hexDigits 2 fault.octet.toNat ++ lit " in position " ++
        Text.ofNat fault.start
    else
      lit "bytes in position " ++ Text.ofNat fault.start ++ lit "-" ++
        Text.ofNat (fault.stop - 1)) ++
    lit ": " ++ fault.reason.message

/-- What is wrong with a path. -/
def PathFault.message : PathFault → Text
  | .zero => lit "embedded null byte"
  | .unencodable run => run.message
  | .tooDeep => lit "maximum recursion depth exceeded while calling a Python object"

/-- Why no credential came about, in words. -/
def GenerationFault.message : GenerationFault → Text
  | .sourceFailed reason => lit "failed generating random bytes: " ++ reason
  | .shortRead received asked =>
    lit "failed generating random bytes: short read (" ++ Text.ofNat received ++ lit " of " ++
      Text.ofNat asked ++ lit ")"
  | .described message => message

/-- Why a secret has no hash, in words. -/
def HashingFault.message : HashingFault → Text
  | .tooLong => lit "failed hashing secret: secret exceeds 72 bytes"
  | .invalidCost => lit "failed hashing secret: Invalid rounds"
  | .invalidSalt => lit "failed hashing secret: Invalid salt"
  | .costKind kind =>
    lit "failed hashing secret: argument 'rounds': '" ++ kind.word ++
      lit "' object cannot be interpreted as an integer"
  | .described message => message

/-- Why an entry is refused, in words. -/
def EntryFault.message : EntryFault → Text
  | .malformed => lit "invalid entry found in keychain"
  | .hashNotAscii => lit "hash must be ASCII"
  | .empty => lit "key id and hash must be non-empty"
  | .unstorableId id => lit "key id must be UTF-8 without ':', NUL or newline: " ++ id.toQuoted
  | .hashHoldsNewline => lit "hash must not contain a newline"
  | .described message => message

/-- Why a keychain file cannot be used, in words. -/
def StorageFault.message (path : Cell) : StorageFault → Text
  | .reading error => lit "failed reading " ++ path.toText ++ lit ": " ++ error.message
  | .writing error => lit "failed writing " ++ path.toText ++ lit ": " ++ error.message
  | .described message => message

/-- What cannot be done with a value, in words. -/
def Misfit.message : Misfit → Text
  | .unable kind wanted =>
    lit "'" ++ kind.word ++ lit "' object has no attribute '" ++ wanted ++ lit "'"
  | .unsized kind => lit "object of type '" ++ kind.word ++ lit "' has no len()"
  | .elementless kind => lit "'" ++ kind.word ++ lit "' object is not iterable"
  | .unsigned kind => lit "bad operand type for unary -: '" ++ kind.word ++ lit "'"
  | .unordered relation first second =>
    lit "'" ++ relation ++ lit "' not supported between instances of '" ++ first.word ++
      lit "' and '" ++ second.word ++ lit "'"
  | .changeable kind => lit "unhashable type: '" ++ kind.word ++ lit "'"
  | .unsearchable kind => lit "argument of type '" ++ kind.word ++ lit "' is not iterable"
  | .unjoinable index kind =>
    lit "sequence item " ++ Text.ofNat index ++ lit ": expected str instance, " ++ kind.word ++
      lit " found"
  | .unappendable kind => lit "can't concat " ++ kind.word ++ lit " to bytes"
  | .noOctet kind => lit "'" ++ kind.word ++ lit "' object cannot be interpreted as an integer"
  | .textInOctets => lit "a bytes-like object is required, not 'str'"
  | .octetsInText => lit "must be str or None, not bytes"
  | .noHash kind =>
    lit "argument 'hashed_password': '" ++ kind.word ++
      lit "' object cannot be converted to 'PyBytes'"
  | .noPath .octets =>
    lit "argument should be a str object or an os.PathLike object returning str, not " ++
      lit "<class 'bytes'>"
  | .noPath kind => lit "expected str, bytes or os.PathLike object, not " ++ kind.word
  | .noLevel value => lit "Level not an integer or a valid string: " ++ value.toQuoted

namespace Failure

/-- The wording of a failure. An entry's place is told only if both file and line are known. -/
def message : Failure → Text
  | .generation fault => fault.message
  | .hashing fault => fault.message
  | .invalidEntry fault path line =>
    match path, line with
    | .absent, _ => fault.message
    | _, .absent => fault.message
    | path, line => fault.message ++ lit ": " ++ path.toText ++ lit ":" ++ line.toText
  | .storage fault path => fault.message path
  | .keychain message => message
  | .system error => error.message
  | .badPath fault => fault.message
  | .unencodable run => run.message
  | .undecodable fault => fault.message
  | .alphabetSize size => lit "alphabet size must be between 1 and 256, got " ++ Text.ofNat size
  | .costOutOfRange => lit "out of range integral type conversion attempted"
  | .costTooLarge => lit "Python int too large to convert to C long"
  | .octetOutOfRange => lit "bytes must be in range(0, 256)"
  | .tokenNotAscii => lit "string argument should contain only ASCII characters"
  | .nothingUnder name => name.toQuoted
  | .rowTooLong => lit "list index out of range"
  | .misfit fault => fault.message
  | .detailTaken writer name =>
    writer ++ lit "() got multiple values for argument '" ++ name ++ lit "'"
  | .detailUnnamed => lit "keywords must be strings"
  | .unknownLevel word => lit "Unknown level: " ++ Text.quoted word
  | .endOfInput => lit "EOF when reading a line"
  | .interrupted => []

/-- The failures of the keychain itself. -/
def isKeychainError : Failure → Bool
  | .generation _ | .hashing _ | .invalidEntry _ _ _ | .storage _ _ | .keychain _ => true
  | _ => false

end Failure

end Keyring
