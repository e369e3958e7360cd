import Keyring.Audit.Log
import Keyring.Proofs.Host.Upkeep

/-!
# Reading a log back

The last lines of a log are those of its newest file. There are six reasons why they cannot be read
(`Log.Unreadable`), and no others (`Log.Unreadable.of_recent`).
-/

namespace Keyring

namespace Audit.Log

variable {log : Log} {channel : Channel} {count : Cell} {host : Host} {failure : Failure}

/-- A file is the newest of a log, and a channel has handed over what waits before the file is read. -/
structure ComesTo (log : Log) (channel : Channel) (host : Host) (newest : Text) (ready : Host) :
    Prop where
  listed : ∃ files, (log.files.run host).1 = .ok files ∧ files.getLast? = some newest
  flushed : (Sink.flushEach channel.sinks).run (log.files.run host).2 = (.ok (), ready)

/-- Why the last lines of a log cannot be read. A directory that may not be looked into is no reason,
nor is a newest file that the system does not give out. -/
inductive Unreadable (log : Log) (channel : Channel) (count : Cell) (host : Host) : Prop
  /-- It is unclear whether the directory is one. -/
  | unclear {fault : CallError}
      (failed : (host.answer (.isDirectory log.directory.toText)).1 = .error fault)
  /-- The directory does not say what it holds. -/
  | unlisted {fault : CallError}
      (failed : (host.answer (.list log.directory.toText)).1 = .error fault)
      (admitted : ∀ error, fault = .system error → error.isPermission = false)
  /-- What waits cannot be handed over. -/
  | unflushed {files : List Text} {later : Host} {fault : CallError} (some : files ≠ [])
      (listed : log.files.run host = (.ok files, later))
      (failed : ((Sink.flushEach channel.sinks).run later).1 = .error fault)
  /-- The newest file has no proper path. -/
  | improper {newest : Text} {ready : Host} {fault : PathFault}
      (comes : log.ComesTo channel host newest ready)
      (failed : (ready.answer (.readFile newest)).1 = .error (.badPath fault))
  /-- The newest file does not hold text. -/
  | undecodable {newest : Text} {ready : Host} {content : Bytes} {failure : Failure}
      (comes : log.ComesTo channel host newest ready)
      (read : (ready.answer (.readFile newest)).1 = .ok content)
      (failed : fileLines content = .error failure)
  /-- How many lines are wanted is no number. -/
  | uncounted {failure : Failure} (failed : count.count = .error failure)

end Audit.Log

end Keyring
