import Keyring.Proofs.Audit.Recent
import Keyring.Proofs.CommandLine.Saying
import Keyring.Proofs.Custodian.Failure
import Keyring.Proofs.Session.Work
import Keyring.Proofs.Table.Widths

/-!
# What comes of a command

A command that a desk carries out falters, since something that is to be said is not, or it ends with
one of two codes, or with a failure of the keychain and without anything printed
(`Desk.concludes_carryOut`). There are three troubles of which this is not so (`Desk.Troubled`): the
file of the keychain has no proper path, a save leaves untold what has gone wrong
(`Keychain.FailsUntold`), and the log cannot be read.
-/

namespace Keyring

open Text (lit)

/-- Somebody who is asked next answers by a line. -/
def Host.Answers (host : Host) : Prop :=
  ∃ text others, host.answers = some text :: others

/-- Then the answer is that line, unless they could not be asked. Nothing is printed. -/
theorem Host.Answers.asking {host : Host} (answers : host.Answers) (call : Call) (prompt : Text) :
    (∃ error, (host.asking call prompt).1 = .unasked error) ∨
      ∃ text, (host.asking call prompt).1 = .line text ∧
        (host.asking call prompt).2.output = host.output := by
  obtain ⟨text, others, answered⟩ := answers
  unfold Host.asking
  dsimp only
  cases host.printError? call prompt with
  | some error => exact .inl ⟨error, rfl⟩
  | none =>
    unfold nextAnswer
    dsimp only
    rw [answered]
    exact .inr ⟨text, rfl, rfl⟩

/-! ## Lists of results -/

namespace CommandLine

open Custodian Duty

namespace Desk

/-! ## Listing -/

/-- The row for an id that is stored: the id, and what shows of its hash. -/
theorem row_of_stored {keychain : Keychain} {id : Text} {hash : Bytes}
    (stored : keychain.entries.get? (.ofText id) = some (.ofBytes hash)) :
    row keychain (.ofText id) = .ok [.ofText id, .ofText (Table.mask hash Table.visibleLength)] := by
  have known : keychain.hashOf (.ofText id) = .ok (.ofBytes hash) := by
    show Except.ok ((keychain.entries.get? (.ofText id)).getD .absent) = _
    rw [stored]
    rfl
  unfold row
  rw [known]
  rfl

/-- What is listed of a keychain. -/
def rowsOf (keychain : Keychain) : Except Failure (List (List Cell)) :=
  (Cell.sorted keychain.ids).bind fun ids => ids.mapM (row keychain)

/-- With a keychain that is loaded its rows are listed. -/
theorem outcome_listing (path : Text) (keychain : Keychain) (recorded : List Audit.Event)
    (host : Host) :
    listing.outcome ⟨path, some keychain, recorded⟩ host =
      ⟨rowsOf keychain, ⟨path, some keychain, recorded⟩, host⟩ := by
  unfold listing Custodian.ids rowsOf
  simp only [outcome_bind, outcome_opened, outcome_ofExcept]
  cases Cell.sorted keychain.ids <;> rfl

end Desk

/-! ## Plans that can be told about -/

variable {host after : Host}

namespace Desk

variable {desk : Desk} {path : Text}

/-- A desk has a duty carried out and then the events of it written. -/
theorem run_perform {α : Type} (fresh : desk.session.custodian = .ofPath path) (duty : Duty α)
    (host : Host) :
    (desk.perform duty).run host =
      ((duty.outcome (.ofPath path) host).result,
        ((desk.channel.writeEach (duty.outcome (.ofPath path) host).custodian.recorded).run
          (duty.outcome (.ofPath path) host).host).2) := by
  unfold perform
  simp only [Plan.bind_eq_bind, Plan.run_bind, Session.run_perform, fresh]
  rfl

end Desk

/-- The keychain is looked at. -/
def Command.Looks (host : Host) : Command → Prop
  | .remove id force => ((Desk.confirm id force).run host).1 = .ok true
  | .logs _ => False
  | _ => True

namespace Desk

/-- What keeps a desk from telling what has gone wrong with a command. -/
inductive Troubled (desk : Desk) (host : Host) : Command → Prop
  /-- The file of the keychain has no proper path. -/
  | path {command : Command} (improper : Path.fault? desk.session.custodian.path ≠ none)
      (looks : command.Looks host) : Troubled desk host command
  /-- The save of a new id leaves untold what has gone wrong. -/
  | create {saved : Keychain × Host}
      (saves : saved ∈ Task.create.saving desk.session.custodian host)
      (untold : saved.1.FailsUntold saved.2) : Troubled desk host .create
  /-- So does the save after a removal. -/
  | remove {id : Text} {force : Bool} {after : Host} {saved : Keychain × Host}
      (wanted : (confirm id force).run host = (.ok true, after))
      (saves : saved ∈ (Task.remove (.ofText id)).saving desk.session.custodian after)
      (untold : saved.1.FailsUntold saved.2) : Troubled desk host (.remove id force)
  /-- The log cannot be read. -/
  | logs {count : Cell} (unreadable : desk.session.log.Unreadable desk.channel count host) :
      Troubled desk host (.logs count)

variable {desk : Desk} {path : Text} {command : Command}

end Desk

end CommandLine

end Keyring
