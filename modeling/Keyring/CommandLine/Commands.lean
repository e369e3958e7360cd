import Keyring.CommandLine.Usage
import Keyring.Table

/-!
# Carrying out commands

`run` does what the arguments of the program ask for, and has the exit code as value. A failure of
the keychain is told in a line on the output. Other failures end the program, since nothing sensible
is known to be said about them.
-/

namespace Keyring.CommandLine

open Text (lit)

/-- The code of a program that did what it was asked for. -/
def success : Nat := 0

/-- The code of a program that could not do it, or whose answer is no. -/
def failed : Nat := 1

/-- The code of a program with arguments that it does not understand. -/
def misused : Nat := 2

/-- The code of a program that was told to stop. -/
def cancelled : Nat := 130

/-- Prints a line. -/
def printLine (text : Text) : Plan (Except Failure Unit) := do
  let printed ← Plan.request (.print (text ++ [10]))
  return printed.mapError PrintError.toFailure

/-- Prints some lines, up to one that cannot be printed. -/
def printLines : List Text → Plan (Except Failure Unit)
  | [] => return .ok ()
  | line :: lines => (printLine line).onSuccess fun () => printLines lines

/-- Prints some lines, and has a code as value. -/
def answering (lines : List Text) (code : Nat) : Plan (Except Failure Nat) :=
  (printLines lines).onSuccess fun () => return .ok code

/-- The line of an answer, or why there is none. -/
def lineOf : Answer → Except Failure Text
  | .line text => .ok text
  | .interrupt => .error .interrupted
  | .silence => .error .endOfInput
  | .unasked error => .error error.toFailure

/-- A session that serves one command, and the channel of its events. -/
structure Desk where
  session : Session
  channel : Audit.Channel
  deriving DecidableEq, Repr

namespace Desk

/-- The result of a duty. -/
def perform {α : Type} (desk : Desk) (duty : Duty α) : Plan (Except Failure α) := do
  let (result, _) ← desk.session.perform duty desk.channel
  return result

/-- Shows a new credential. -/
def create (desk : Desk) : Plan (Except Failure Nat) :=
  (desk.perform Custodian.create).onSuccess fun credential =>
    answering
      [lit "Access Key ID: " ++ credential.id,
        lit "Secret:        " ++ credential.secret,
        [],
        lit "Store the secret now; it cannot be shown again."]
      success

/-- The row of an id: the id, and what shows of its hash. -/
def row (keychain : Keychain) (id : Cell) : Except Failure (List Cell) := do
  let hash ← keychain.hashOf id
  return [id, .ofText (← Table.maskFor hash (.ofInt Table.visibleLength))]

/-- The rows of the ids, in their order. -/
def listing : Duty (List (List Cell)) := do
  let ids ← Custodian.ids
  let keychain ← Custodian.opened
  Duty.ofExcept (ids.mapM (row keychain))

/-- Shows the ids. -/
def list (desk : Desk) : Plan (Except Failure Nat) :=
  (desk.perform listing).onSuccess fun rows =>
    if rows.isEmpty then answering [lit "No keys stored."] success
    else
      match Table.format [lit "ID", lit "Hash"] rows with
      | .ok table => answering [table] success
      | .error failure => return .error failure

/-- The question before a removal. -/
def question (id : Text) : Text :=
  lit "Are you sure you want to remove key " ++ id ++ lit "? [y/N]: "

/-- Whether a removal is wanted. -/
def confirm (id : Text) (force : Bool) : Plan (Except Failure Bool) := do
  if force then return .ok true
  else
    let answer ← Plan.request (.ask (question id))
    return (lineOf answer).map fun line => line.map CodePoint.toLowerAscii = lit "y"

/-- Removes an id. -/
def remove (desk : Desk) (id : Text) (force : Bool) : Plan (Except Failure Nat) :=
  (confirm id force).onSuccess fun confirmed =>
    if !confirmed then answering [lit "Removal cancelled."] success
    else
      (desk.perform (Custodian.remove id)).onSuccess fun removed =>
        if removed then answering [lit "Key " ++ id ++ lit " removed."] success
        else answering [lit "Key " ++ id ++ lit " not found."] failed

/-- The secret to check. -/
def secretOf : Cell → Plan (Except Failure Cell)
  | .absent => do
    let answer ← Plan.request (.askSecretly (lit "Secret: "))
    return (lineOf answer).map .ofText
  | secret => return .ok secret

/-- Checks a secret. -/
def verify (desk : Desk) (id : Text) (secret : Cell) : Plan (Except Failure Nat) :=
  (secretOf secret).onSuccess fun secret =>
    (desk.perform (Custodian.verify id secret)).onSuccess fun allowed =>
      if allowed then answering [lit "Allowed."] success
      else answering [lit "Denied."] failed

/-- Shows what is known about the keychain. -/
def statistics (desk : Desk) : Plan (Except Failure Nat) :=
  (desk.perform Custodian.statistics).onSuccess fun statistics =>
    answering
      [[],
        lit "Keychain Statistics:",
        lit "  File: " ++ statistics.path ++
          (if statistics.isThere then [] else lit " (not created yet)"),
        lit "  Keys: " ++ Text.ofNat statistics.keys,
        lit "  Cache capacity: " ++ Text.ofNat statistics.capacity]
      success

/-- Shows the last lines of the log. -/
def logs (desk : Desk) (count : Cell) : Plan (Except Failure Nat) :=
  (desk.session.log.recent count desk.channel).onSuccess fun lines =>
    if lines.isEmpty then answering [lit "No logs available."] success
    else answering (lit "Recent audit logs:" :: [] :: lines.map Text.stripEnd) success

/-- Carries out a command. -/
def carryOut (desk : Desk) : Command → Plan (Except Failure Nat)
  | .create => desk.create
  | .list => desk.list
  | .remove id force => desk.remove id force
  | .verify id secret => desk.verify id secret
  | .statistics => desk.statistics
  | .logs count => desk.logs count

end Desk

/-- The exit code of a command, with a line about what kept it from being carried out, unless it cannot
be printed. -/
def settle : Except Failure Nat → Plan (Except Failure Nat)
  | .ok code => return .ok code
  | .error failure =>
    if failure = .interrupted then answering [[], lit "Operation cancelled."] cancelled
    else if failure.isKeychainError then answering [lit "Error: " ++ failure.message] failed
    else return .error failure

/-- Carries out a command in a session that was started, and closes the log after it, whatever has come
of it. A log that cannot be closed is all that is told then. -/
def serve (session : Session) (channel : Audit.Channel) (command : Command) :
    Plan (Except Failure Nat) := do
  let result ← settle (← Desk.carryOut ⟨session, channel⟩ command)
  match ← channel.close with
  | (.ok (), _) => return result
  | (.error failure, _) => return .error failure

/-- Does what the arguments of the program ask for. Without a command that is help. Whether help and
misuse can be told about does not matter. -/
def run (home : Text) (arguments : List Text) : Plan (Except Failure Nat) :=
  match Options.parse arguments with
  | .error ⟨verb, .help⟩ => do
    let _ ← Plan.request (.print (help verb))
    return .ok success
  | .error ⟨verb, .misuse misuse⟩ => do
    let _ ← Plan.request (.printError (report verb misuse))
    return .ok misused
  | .ok ⟨_, none⟩ => do
    let _ ← Plan.request (.print (help none))
    return .ok success
  | .ok ⟨wishes, some command⟩ => do
    match ← Session.start home wishes .initial with
    | (.error failure, _) => return .error failure
    | (.ok session, channel) => serve session channel command

end Keyring.CommandLine
