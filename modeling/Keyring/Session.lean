import Keyring.Audit.Log
import Keyring.Custodian

/-!
# Sessions

A custodian with an audit log, as those who administer a keychain start it. Whoever names no file
gets the one that the environment names, and otherwise one below the home directory.
-/

namespace Keyring

open Text (lit)
open Audit (Channel Log)

/-- A custodian at work and the log of its events. -/
structure Session where
  custodian : Custodian
  log : Log
  deriving DecidableEq, Repr

namespace Session

/-- The name of the directory in which files are that nobody names. -/
def directoryName : Text :=
  lit ".access_keychain"

/-- The file of the keychain below a home directory. -/
def defaultFile (home : Text) : Text :=
  Path.underHome home [directoryName, lit "access.keychain"]

/-- The directory of the audit logs below a home directory. -/
def defaultLogs (home : Text) : Text :=
  Path.underHome home [directoryName, lit "logs"]

/-- The variable that may name the file of the keychain. -/
def fileVariable : Text :=
  lit "ACCESS_KEYCHAIN_FILE"

/-- The name that a value is, none if the value says nothing. -/
def named? (value : Cell) : Option Text :=
  if value.isBlank then none else some value.toText

/-- The home directory of the moment: the one that the environment names, or the one that the system
knows for whoever runs the program. -/
def homeNow : Plan (Option Text) := do
  match ← Plan.request (.variable (lit "HOME")) with
  | some home => return some home
  | none => Plan.request (.homeOf none)

/-- A path in which a tilde at the start stands for a home directory, that of the moment or that of
somebody by name. It stays if no such directory is known. -/
def expandHome (path : Text) : Plan (Except Failure Text) :=
  match Path.tilde? path with
  | none => return .ok path
  | some (owner, rest) => do
    match Path.fault? owner with
    | some fault => return .error (.badPath fault)
    | none =>
      match ← if owner.isEmpty then homeNow else Plan.request (.homeOf (some owner)) with
      | some home => return .ok (Path.inHome home rest)
      | none => return .ok path

/-- The file of the keychain: the wanted one, the one that the environment names, or the one below
the home directory. -/
def file (home : Text) (wanted : Cell) : Plan (Except Failure Text) :=
  match named? wanted with
  | some path => expandHome path
  | none => do
    match named? (.ofText? (← Plan.request (.variable fileVariable))) with
    | some path => expandHome path
    | none => return .ok (defaultFile home)

/-- What somebody wants of a session. -/
structure Wishes where
  /-- The name of a file. -/
  keychain : Cell
  /-- The name of a directory. -/
  logs : Cell
  /-- Events should show on the console as well. -/
  console : Bool
  deriving DecidableEq, Repr

/-- Opens the log of a wanted directory, or of the one below the home directory. -/
def openLog (home : Text) (wanted level : Cell) (console : Bool)
    (channel : Channel) : Plan (Except Failure Log × Channel) :=
  match wanted.directory? with
  | .error failure => return (.error failure, channel)
  | .ok directory => Log.openAt (directory.getD (defaultLogs home)) level console channel

/-- Starts a session. The keychain is not looked at yet. -/
def start (home : Text) (wishes : Wishes) (channel : Channel) :
    Plan (Except Failure Session × Channel) := do
  match ← file home wishes.keychain with
  | .error failure => return (.error failure, channel)
  | .ok path =>
    match ← openLog home wishes.logs (.ofInt Audit.Level.info.rank) wishes.console channel with
    | (.error failure, channel) => return (.error failure, channel)
    | (.ok log, channel) => return (.ok ⟨.ofPath path, log⟩, channel)

/-- Has the custodian carry out a duty, and sends the events of it through the channel. -/
def perform {α : Type} (duty : Duty α) (session : Session) (channel : Channel) :
    Plan (Except Failure α × Session) := do
  let (result, custodian, events) ← duty.perform session.custodian
  channel.writeEach events
  return (result, { session with custodian := custodian })

end Session

end Keyring
