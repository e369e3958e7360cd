import Keyring.Audit.Channel
import Keyring.Host.Directory
import Keyring.Text.Lines

/-!
# Audit logs

A directory with a file for each day. Opening a log makes the directory, lets nobody but its owner
into it, and turns the channel to the file of the day. `recent` reads the newest file back.
-/

namespace Keyring.Audit

open Text (lit)

/-- A directory of audit files. -/
structure Log where
  directory : Path
  deriving DecidableEq, Repr

namespace Log

/-- The permissions of the directory. -/
def mode : Nat := 0o700

/-- How the names of audit files start. -/
def stem : Text :=
  lit "audit_"

/-- How the names of audit files end. -/
def ending : Text :=
  lit ".log"

/-- The name of the file of a day. -/
def fileName (day : Text) : Text :=
  stem ++ day ++ ending

/-- A name is that of an audit file. -/
def isFileName (name : Text) : Bool :=
  stem.length + ending.length ≤ name.length && stem.isPrefixOf name && ending.isSuffixOf name

/-- The path of a file of the log. -/
def filePath (log : Log) (name : Text) : Text :=
  (log.directory.child name).toText

/-- Turns a channel to the file of the day, and to the console if that is wanted. The channel takes
the level and lets go of its old sinks first. If the file cannot be opened it is left without
sinks. -/
def turn (log : Log) (level : Int) (console : Bool) (channel : Channel) :
    Plan (Except Failure Log × Channel) := do
  match ← { channel with level := level }.close with
  | (.error failure, left) => return (.error failure, left)
  | (.ok (), closed) =>
    let moment ← Plan.request .now
    match ← Plan.request (.openLog (log.filePath (fileName moment.day))) with
    | .error fault => return (.error fault.toFailure, closed)
    | .ok number =>
      return (.ok log, { closed with sinks := .file number :: if console then [.console] else [] })

/-- Opens the log of a directory, which is made if it is missing. If that fails, or if the level is
none, the channel stays as it is. Permissions that cannot be set are no reason to fail. -/
def openAt (directory : Text) (level : Cell) (console : Bool) (channel : Channel) :
    Plan (Except Failure Log × Channel) := do
  let log : Log := ⟨Path.ofText directory⟩
  match ← Directory.ensure log.directory with
  | .error fault => return (.error fault.toFailure, channel)
  | .ok () =>
    match ← Plan.request (.setMode log.directory.toText mode) with
    | .error (.badPath fault) => return (.error (.badPath fault), channel)
    | _ =>
      match Level.rankFor level with
      | .error failure => return (.error failure, channel)
      | .ok level => log.turn level console channel

/-- The paths of the files of the log, the newest last. There are none in a directory that may not be
looked into. -/
def files (log : Log) : Plan (Except Failure (List Text)) := do
  match ← Plan.request (.isDirectory log.directory.toText) with
  | .error fault => return .error fault.toFailure
  | .ok false => return .ok []
  | .ok true =>
    match ← Plan.request (.list log.directory.toText) with
    | .error (.badPath fault) => return .error (.badPath fault)
    | .error (.system error) =>
      if error.isPermission then return .ok [] else return .error (.system error)
    | .ok names =>
      return .ok (((names.filter isFileName).mergeSort Text.le).map log.filePath)

/-- How many octets of a file are read at a time. -/
def blockSize : Nat := 8192

/-- The lines of a file, or the octets at fault. -/
def fileLines (content : Bytes) : Except Failure (List Text) :=
  match Utf8.decodeBlocks [] (Utf8.blocks blockSize content) with
  | .ok text => .ok (Text.lines text)
  | .error fault => .error (.undecodable fault)

/-- The last `count` of some lines. Zero stands for all lines, and a negative number for all but as
many at the start. -/
def lastLines (count : Int) (lines : List Text) : List Text :=
  if count = 0 then lines
  else if 0 < count then lines.drop (lines.length - count.toNat)
  else lines.drop count.natAbs

/-- How many lines are shown to those who do not say how many they want. -/
def defaultCount : Int := 100

/-- The last lines of a file, none if it cannot be read. How many are wanted matters only once the
lines are there. -/
def readBack (newest : Text) (count : Cell) : Plan (Except Failure (List Text)) := do
  match ← Plan.request (.readFile newest) with
  | .error (.badPath fault) => return .error (.badPath fault)
  | .error (.system _) => return .ok []
  | .ok content =>
    return do
      let lines ← fileLines content
      return lastLines (← count.count) lines

/-- The last lines of the newest file. Whatever waits for the sinks of the channel is handed over
before it is read; without a channel nothing does. -/
def recent (log : Log) (count : Cell) (channel : Channel := .initial) :
    Plan (Except Failure (List Text)) :=
  log.files.onSuccess fun files =>
    match files.getLast? with
    | none => return .ok []
    | some newest => do
      match ← Sink.flushEach channel.sinks with
      | .error fault => return .error fault.toFailure
      | .ok () => readBack newest count

end Log

end Keyring.Audit
