import Keyring.CommandLine.Commands
import Std.Time.Zoned

/-!
# The program

Carries out the calls of a plan on the machine that the program runs on. What is called for, and in
which order, the plan alone decides.
-/

namespace Keyring.Machine

open Text (lit)

/-- The bytes of an array. -/
def bytesOf (array : ByteArray) : Bytes :=
  array.toList

/-- The array of some bytes. -/
def arrayOf (bytes : Bytes) : ByteArray :=
  ⟨bytes.toArray⟩

/-- The place of a path on the machine. -/
def placeOf (path : Text) :=
  (IO.FS.DirEntry.mk "." path.toString).path

/-- The number and the text of an error. -/
def describe : IO.Error → Nat × String
  | .alreadyExists _ code details => (code.toNat, details)
  | .otherError code details => (code.toNat, details)
  | .resourceBusy code details => (code.toNat, details)
  | .resourceVanished code details => (code.toNat, details)
  | .unsupportedOperation code details => (code.toNat, details)
  | .hardwareFault code details => (code.toNat, details)
  | .unsatisfiedConstraints code details => (code.toNat, details)
  | .illegalOperation code details => (code.toNat, details)
  | .protocolError code details => (code.toNat, details)
  | .timeExpired code details => (code.toNat, details)
  | .interrupted _ code details => (code.toNat, details)
  | .noFileOrDirectory _ code details => (code.toNat, details)
  | .invalidArgument _ code details => (code.toNat, details)
  | .permissionDenied _ code details => (code.toNat, details)
  | .resourceExhausted _ code details => (code.toNat, details)
  | .inappropriateType _ code details => (code.toNat, details)
  | .noSuchThing _ code details => (code.toNat, details)
  | .unexpectedEof => (0, "end of file")
  | .userError details => (0, details)

/-- The number of an error, which some calls give with its sign turned. -/
def plainCode (code : Nat) : Nat :=
  if code < 0x80000000 then code else 0x100000000 - code

/-- The error of a number about some paths, with the given text if the library has no other. -/
def systemError (code : Nat) (details : String) (paths : List Text) : SystemError :=
  match code with
  | 2 => .missing paths
  | 16 => .busy paths
  | 17 => .present paths
  | 20 => .notDirectory paths
  | 21 => .isDirectory paths
  | 36 => .nameTooLong paths
  | _ => ⟨code, lit details, paths⟩

/-- Tries something with some paths. -/
def trying {α : Type} (paths : List Text) (action : IO α) : IO (Tried α) := do
  match paths.findSome? Path.fault? with
  | some fault => return .error (.badPath fault)
  | none =>
    try return .ok (← action)
    catch error =>
      let (code, details) := describe error
      return .error (.system (systemError (plainCode code) details paths))

/-- The rights of one digit of permissions. -/
def rightOf (digit : Nat) : IO.AccessRight :=
  ⟨digit / 4 % 2 = 1, digit / 2 % 2 = 1, digit % 2 = 1⟩

/-- The rights of permissions. -/
def rightsOf (mode : Nat) : IO.FileRight :=
  ⟨rightOf (mode / 64), rightOf (mode / 8), rightOf mode⟩

/-- The letters of the marks of temporary files. -/
def markLetters : Text :=
  lit "abcdefghijklmnopqrstuvwxyz0123456789"

/-- A fresh mark. -/
def freshMark : IO Text := do
  let bytes ← IO.getRandomBytes 8
  return (bytesOf bytes).filterMap fun byte => markLetters[byte.toNat % markLetters.length]?

/-- A path from the root. -/
def absolute (path : Text) : IO Text := do
  let current ← IO.currentDir
  return (Path.absolute (Path.ofText (lit current.toString)) (Path.ofText path)).toText

/-- A new temporary file. -/
def createTemporary (directory stem : Text) : IO (Tried Text) := do
  let path := (← absolute directory) ++ lit "/." ++ stem ++ lit "." ++ (← freshMark) ++ lit ".tmp"
  trying [path] do
    let _ ← IO.FS.Handle.mk (placeOf path) .writeNew
    IO.setAccessRights (placeOf path) (rightsOf 0o600)
    return path

/-- How many reads of random bytes are answered. -/
def maxReads : Nat := 128

/-- How many random bytes there are for them, more than so many reads for one credential take. -/
def randomSupply : USize := 8192

/-- A new credential. -/
def issue : IO (Except Failure Credential) := do
  let supply ← IO.getRandomBytes randomSupply
  let salt ← IO.getRandomBytes 16
  let source := Source.ofCycle maxReads (bytesOf supply)
  let salts : Salts := ⟨[], Bcrypt.encode (bytesOf salt)⟩
  return (Credential.create source salts).1

/-- The moment that the clock shows. -/
def now : IO Moment := do
  let moment ← Std.Time.PlainDateTime.now
  return Moment.ofFields moment.date.year.toNat moment.date.month.val.toNat
    moment.date.day.val.toNat moment.time.hour.val.toNat moment.time.minute.val.toNat
    moment.time.second.val.toNat

/-- Prints a text, unless that fails or the text has no octets. -/
def print (text : Text) (stream : IO IO.FS.Stream) : IO (Except PrintError Unit) := do
  match Utf8.encode text with
  | .error run => return .error (.unencodable run)
  | .ok _ =>
    match ← trying [] do (← stream).putStr text.toString with
    | .error (.system error) => return .error (.system error)
    | _ => return .ok ()

/-- The answer to a question. -/
def ask (prompt : Text) : IO Answer := do
  match ← print prompt IO.getStdout with
  | .error error => return .unasked error
  | .ok () =>
    (← IO.getStdout).flush
    let line ← (← IO.getStdin).getLine
    if line.isEmpty then return .silence
    else return .line (lit (line.dropEndWhile fun character => character = '\n').copy)

/-- How many directories on the way to one are looked at. -/
def maxDepth : Nat := 984

/-- Does something with a file that is open. -/
def withLog (logs : IO.Ref (Array IO.FS.Handle)) (number : Nat)
    (action : IO.FS.Handle → IO Unit) : IO (Tried Unit) := do
  match (← logs.get)[number]? with
  | none => return .ok ()
  | some handle => trying [] (action handle)

/-- The reply to a call. Files to append to are numbered in the order in which they were opened.
Nothing here waits for the disk, nothing hides what is typed and nobody's home is looked up, for the
runtime offers none of it. -/
def reply (logs : IO.Ref (Array IO.FS.Handle)) : (call : Call) → IO call.Reply
  | .makeDirectory path => trying [path] (IO.FS.createDir (placeOf path))
  | .isDirectory path => return .ok (← (placeOf path).isDir)
  | .isThere path => (placeOf path).pathExists
  | .readFile path => trying [path] do return bytesOf (← IO.FS.readBinFile (placeOf path))
  | .list path =>
    trying [path] do
      return (← (placeOf path).readDir).toList.map fun entry => lit entry.fileName
  | .createTemporary directory stem => createTemporary directory stem
  | .fill path content => trying [path] (IO.FS.writeBinFile (placeOf path) (arrayOf content))
  | .sync _ => return .ok ()
  | .setMode path mode => trying [path] (IO.setAccessRights (placeOf path) (rightsOf mode))
  | .replace source target =>
    trying [source, target] (IO.FS.rename (placeOf source) (placeOf target))
  | .unlink path => trying [path] (IO.FS.removeFile (placeOf path))
  | .openLog path =>
    trying [path] do
      let handle ← IO.FS.Handle.mk (placeOf path) .append
      logs.modify fun handles => handles.push handle
      return (← logs.get).size - 1
  | .append number bytes =>
    withLog logs number fun handle => do
      handle.write (arrayOf bytes)
      handle.flush
  | .flush number => withLog logs number IO.FS.Handle.flush
  | .closeLog number => withLog logs number IO.FS.Handle.flush
  | .depth => return maxDepth
  | .homeOf _ => return none
  | .variable name => return (← IO.getEnv name.toString).map lit
  | .now => now
  | .issue => issue
  | .print text => print text IO.getStdout
  | .printError text => trying [] (IO.eprint text.toString)
  | .flushErrors => trying [] do (← IO.getStderr).flush
  | .ask prompt => ask prompt
  | .askSecretly prompt => ask prompt

/-- Carries out a plan. -/
def carryOut {α : Type} (logs : IO.Ref (Array IO.FS.Handle)) : Plan α → IO α
  | .done value => return value
  | .call request next => do carryOut logs (next (← reply logs request))

end Keyring.Machine

/-- Does what the arguments ask for. A failure that the plan leaves to its surroundings is told on
the error output. -/
def main (arguments : List String) : IO UInt32 := do
  let logs ← IO.mkRef #[]
  let home := ((← IO.getEnv "HOME").map Keyring.Text.lit).getD []
  let plan := Keyring.CommandLine.run home (arguments.map Keyring.Text.lit)
  match ← Keyring.Machine.carryOut logs plan with
  | .ok code => return UInt32.ofNat code
  | .error failure =>
    IO.eprintln failure.message.toString
    return 1
