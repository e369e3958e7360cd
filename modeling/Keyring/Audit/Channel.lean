import Keyring.Audit.Event
import Keyring.Host.Call

/-!
# The channel of audit events

Events go through a channel to its sinks: a file, and perhaps the console. The channel lets events
of its level and above through. There is one channel for all logs, so the log opened last determines
where events go.

A channel without sinks does not lose what matters: warnings and errors are then printed as they
are, without time and level.

An event that cannot be written is lost, and nobody is told. But who closes a channel, or has it
hand over what waits, is told if that fails.
-/

namespace Keyring.Audit

/-- Where events end up. -/
inductive Sink where
  /-- The file with a number. -/
  | file (number : Nat)
  | console
  deriving DecidableEq, Repr

/-- A way for events. -/
structure Channel where
  /-- The least rank that passes; zero stands for that of warnings. -/
  level : Int
  sinks : List Sink
  deriving DecidableEq, Repr

namespace Sink

/-- Writes a line. A line that has no octets cannot get into a file and is left out. -/
def write (line : Text) : Sink → Plan Unit
  | .console => do
    let _ ← Plan.request (.printError line)
  | .file number =>
    match Utf8.encode line with
    | .ok octets => do
      let _ ← Plan.request (.append number octets)
    | .error _ => return ()

/-- Writes a line to each of some sinks. -/
def writeEach (line : Text) : List Sink → Plan Unit
  | [] => return ()
  | sink :: sinks => do
    sink.write line
    writeEach line sinks

/-- Hands over what waits. -/
def flush : Sink → Plan (Tried Unit)
  | .console => Plan.request .flushErrors
  | .file number => Plan.request (.flush number)

/-- Hands over what waits for some sinks, up to one that fails. -/
def flushEach : List Sink → Plan (Tried Unit)
  | [] => return .ok ()
  | sink :: sinks => sink.flush.onSuccess fun () => flushEach sinks

/-- Lets go of a sink. A file is let go of although what waits cannot be handed over. -/
def close : Sink → Plan (Tried Unit)
  | .console => return .ok ()
  | .file number => do
    let flushed ← Plan.request (.flush number)
    match ← Plan.request (.closeLog number) with
    | .ok () => return flushed
    | .error fault => return .error fault

/-- Lets go of some sinks, up to one that fails, and tells which are left then. -/
def closeEach : List Sink → Plan (Except (CallError × List Sink) Unit)
  | [] => return .ok ()
  | sink :: sinks => do
    match ← sink.close with
    | .ok () => closeEach sinks
    | .error fault => return .error (fault, sinks)

end Sink

namespace Channel

/-- The channel before any log is opened. -/
def initial : Channel := ⟨0, []⟩

/-- The channel without sinks. -/
def closed (channel : Channel) : Channel :=
  { channel with sinks := [] }

/-- Lets go of the sinks of a channel. If that fails for one of them, those after it are left. -/
def close (channel : Channel) : Plan (Except Failure Unit × Channel) := do
  match ← Sink.closeEach channel.sinks with
  | .ok () => return (.ok (), channel.closed)
  | .error (fault, left) => return (.error fault.toFailure, { channel with sinks := left })

/-- The least rank that passes. -/
def threshold (channel : Channel) : Int :=
  if channel.level = 0 then Level.warning.rank else channel.level

/-- An event gets through. -/
def passes (channel : Channel) (event : Event) : Bool :=
  channel.threshold ≤ event.level.rank

/-- An event is printed where there is no sink for it. -/
def isUrgent (event : Event) : Bool :=
  Level.warning.rank ≤ event.level.rank

/-- Sends an event through the channel. -/
def write (channel : Channel) (event : Event) : Plan Unit :=
  if !channel.passes event then return ()
  else if channel.sinks.isEmpty then
    if isUrgent event then do
      let _ ← Plan.request (.printError (event.text ++ [10]))
    else return ()
  else do
    let moment ← Plan.request .now
    Sink.writeEach (event.line moment.stamp) channel.sinks

/-- Sends events through the channel, one after another. -/
def writeEach (channel : Channel) : List Event → Plan Unit
  | [] => return ()
  | event :: events => do
    channel.write event
    writeEach channel events

end Channel

end Keyring.Audit
