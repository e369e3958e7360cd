import Keyring.Entries
import Keyring.Host.Directory

/-!
# The file of a keychain

`read` gives the entries of the file, and tells a missing file from an empty one. `write` puts a new
file in place of the old one in a single step: the content is written to a temporary file beside it,
which then takes its name. Whoever looks at the name finds the old content or the new one, and a
write that fails removes the temporary file.
-/

namespace Keyring.KeychainFile

/-- The permissions of the file: its owner may read and write it, and nobody else. -/
def mode : Nat := 0o600

/-- The entries of the file of a name, none if there is no such file. -/
def read (name : Text) : Plan (Except Failure (Option Entries)) := do
  match ← Plan.request (.readFile name) with
  | .ok content => return (Entries.parseFile name content).map some
  | .error (.badPath fault) => return .error (.badPath fault)
  | .error (.system error) =>
    if error.isMissing then return .ok none
    else return .error (.storage (.reading error) name)

/-- The failure of a write to the file of a name. -/
def writeFailure (name : Text) : CallError → Failure
  | .system error => .storage (.writing error) name
  | .badPath fault => .badPath fault

/-- A new temporary file beside the file of a name, in a directory that is made if it is missing. -/
def createTemporary (name : Text) : Plan (Tried Text) :=
  let path := Path.ofText name
  (Directory.ensure path.parent).onSuccess fun () =>
    Plan.request (.createTemporary path.parent.toText path.name)

/-- Writes the content of a temporary file, and gives the file the name. -/
def fillAndReplace (name temporary : Text) (content : Bytes) : Plan (Tried Unit) :=
  (Plan.request (.fill temporary content)).onSuccess fun () =>
    (Plan.request (.sync temporary)).onSuccess fun () =>
      (Plan.request (.setMode temporary mode)).onSuccess fun () =>
        Plan.request (.replace temporary name)

/-- Removes a temporary file after an error, which is then the failure. If the file cannot be
removed although it is there, that is the failure. -/
def removeTemporary (name temporary : Text) (error : SystemError) : Plan Failure := do
  match ← Plan.request (.unlink temporary) with
  | .ok () => return .storage (.writing error) name
  | .error (.badPath fault) => return .badPath fault
  | .error (.system trouble) =>
    if trouble.isMissing then return .storage (.writing error) name
    else return .system trouble

/-- Gives the file of a name a new content, if all goes well, and leaves it alone otherwise. -/
def write (name : Text) (content : Bytes) : Plan (Except Failure Unit) := do
  match ← createTemporary name with
  | .error fault => return .error (writeFailure name fault)
  | .ok temporary =>
    match ← fillAndReplace name temporary content with
    | .ok () => return .ok ()
    | .error (.badPath fault) => return .error (.badPath fault)
    | .error (.system error) => return .error (← removeTemporary name temporary error)

end Keyring.KeychainFile
