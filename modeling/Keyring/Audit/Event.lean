import Keyring.Presented

/-!
# Audit events

What an audit log tells of: each event has a level, a title and details. Ids are among the details,
secrets and hashes are not.

A line of a log has the time, the level, the title and each detail as `name=value`, between bars. An
id stands in it as it is, so an id with a newline makes more than one line of its event. No detail
stands in it twice: a name that comes again replaces the value and keeps its place.
-/

namespace Keyring.Audit

open Text (lit)

/-- How much an event matters. -/
inductive Level where
  | info
  | warning
  | error
  deriving DecidableEq, Repr

namespace Level

/-- The number that levels are compared by. -/
def rank : Level → Int
  | .info => 20
  | .warning => 30
  | .error => 40

/-- The word for a level. -/
def word : Level → Text
  | .info => lit "INFO"
  | .warning => lit "WARNING"
  | .error => lit "ERROR"

/-- The words for ranks, those of levels among them. -/
def words : List (Text × Int) :=
  [(lit "CRITICAL", 50), (lit "FATAL", 50), (lit "ERROR", 40), (lit "WARN", 30),
    (lit "WARNING", 30), (lit "INFO", 20), (lit "DEBUG", 10), (lit "NOTSET", 0)]

/-- The rank that a value of any kind gives: a number itself, and a text by the words. -/
def rankFor : Cell → Except Failure Int
  | .ofText word =>
    match words.lookup word with
    | some rank => .ok rank
    | none => .error (.unknownLevel word)
  | value => value.numberOr fun _ => .noLevel value

/-- What writes the notes of a level, as failures tell it. -/
def writer : Level → Text
  | .info => lit "AuditLogger.log_info"
  | .warning => lit "AuditLogger.log_warning"
  | .error => lit "AuditLogger.log_error"

end Level

/-- Something that happened. -/
inductive Event where
  | loaded (path keys : Cell)
  | saved (path keys : Cell)
  /-- A new credential was stored. -/
  | created (id : Cell)
  /-- A given hash was stored. -/
  | added (id : Cell)
  | removed (id : Cell)
  /-- An id that is not stored should have been removed. -/
  | removeMissing (id : Cell)
  /-- A removal was undone. -/
  | removeFailed (id : Cell) (failure : Failure)
  /-- A change of an entry was undone. -/
  | saveFailed (id : Cell) (failure : Failure)
  | authenticated (id : Cell) (allowed : Bool)
  | note (level : Level) (message : Cell) (details : Named Cell)
  deriving DecidableEq, Repr

namespace Event

/-- The names that no detail of a note can have: they stand for its log and its message. -/
def takenNames : List Text :=
  [lit "self", lit "message"]

/-- The note with some details, unless the name of one may change, is no text or is taken. -/
def noteWith (level : Level) (message : Cell) (details : List (Cell × Cell)) :
    Except Failure Event := do
  let names ← details.mapM fun (name, _) => name.soughtId
  match names.mapM Cell.text? with
  | none => throw .detailUnnamed
  | some names =>
    match names.find? takenNames.contains with
    | some name => throw (.detailTaken level.writer name)
    | none => return .note level message (.ofList details)

/-- How much an event matters. -/
def level : Event → Level
  | .removeMissing _ => .warning
  | .removeFailed _ _ => .error
  | .saveFailed _ _ => .error
  | .authenticated _ false => .warning
  | .note level _ _ => level
  | _ => .info

/-- The name of an event. -/
def title : Event → Text
  | .loaded _ _ => lit "KEYCHAIN_LOADED"
  | .saved _ _ => lit "KEYCHAIN_SAVED"
  | .created _ => lit "KEY_CREATED"
  | .added _ => lit "KEY_ADDED"
  | .removed _ => lit "KEY_REMOVED"
  | .removeMissing _ => lit "KEY_REMOVE_MISSING"
  | .removeFailed _ _ => lit "KEY_REMOVE_FAILED"
  | .saveFailed _ _ => lit "KEY_SAVE_FAILED"
  | .authenticated _ true => lit "AUTH_SUCCESS"
  | .authenticated _ false => lit "AUTH_FAILURE"
  | .note _ message _ => message.toText

/-- The detail that names an id. -/
def idDetail (id : Cell) : Cell × Cell :=
  (.ofText (lit "key_id"), id)

/-- The details of an event about a file. -/
def fileDetails (path keys : Cell) : Named Cell :=
  [(.ofText (lit "path"), path), (.ofText (lit "keys"), keys)]

/-- The details of an event about a failure. -/
def failureDetails (id : Cell) (failure : Failure) : Named Cell :=
  [idDetail id, (.ofText (lit "error"), .ofText failure.message)]

/-- What an event tells besides its name. -/
def details : Event → Named Cell
  | .loaded path keys => fileDetails path keys
  | .saved path keys => fileDetails path keys
  | .created id => [idDetail id]
  | .added id => [idDetail id]
  | .removed id => [idDetail id]
  | .removeMissing id => [idDetail id]
  | .removeFailed id failure => failureDetails id failure
  | .saveFailed id failure => failureDetails id failure
  | .authenticated id _ => [idDetail id]
  | .note _ _ details => details

/-- What stands between the parts of a line. -/
def bar : Text :=
  lit " | "

/-- A detail as it stands in a line. -/
def renderDetail (detail : Cell × Cell) : Text :=
  bar ++ detail.1.toText ++ lit "=" ++ detail.2.toText

/-- Title and details. -/
def text (event : Event) : Text :=
  event.title ++ event.details.flatMap renderDetail

/-- The line of an event at a moment, with its newline. -/
def line (moment : Text) (event : Event) : Text :=
  moment ++ bar ++ event.level.word ++ bar ++ event.text ++ [10]

end Event

end Keyring.Audit
