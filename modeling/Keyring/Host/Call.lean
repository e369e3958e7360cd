import Keyring.Credential
import Keyring.Host.Moment
import Keyring.Host.Path

/-!
# Calls and plans

What the library asks of its surroundings, one constructor for each request, and `Call.Reply`, what
comes back. A `Plan` is a computation that makes calls: it has a value, or it makes a call and goes
on with the reply. Who carries a plan out decides what the calls do; `Host` does it with a file tree
that is a value, and the command line with the machine that it runs on.
-/

namespace Keyring

/-- What somebody who is asked answers. -/
inductive Answer where
  | line (text : Text)
  /-- The wish to stop. -/
  | interrupt
  /-- Nothing, now and later. -/
  | silence
  /-- They could not be asked. -/
  | unasked (error : PrintError)
  deriving DecidableEq, Repr

/-- A request to the surroundings. -/
inductive Call where
  | makeDirectory (path : Text)
  /-- Whether a path leads to a directory. -/
  | isDirectory (path : Text)
  /-- Whether a path leads to anything. -/
  | isThere (path : Text)
  | readFile (path : Text)
  /-- The names of what a directory holds. -/
  | list (path : Text)
  /-- A new empty file in a directory that nobody else may read or write, with a name that starts
  with the given one and that nothing had. The reply is its path from the root. -/
  | createTemporary (directory stem : Text)
  | fill (path : Text) (content : Bytes)
  /-- Wait until a file is on the disk. -/
  | sync (path : Text)
  | setMode (path : Text) (mode : Nat)
  /-- Move a file to where another may be, in one step. -/
  | replace (source target : Text)
  | unlink (path : Text)
  /-- A file to append to, new if there is none. The reply is the number to append with. -/
  | openLog (path : Text)
  /-- Append octets to what waits for a file, and have the file take all of it. -/
  | append (number : Nat) (bytes : Bytes)
  /-- Have a file take what waits for it. -/
  | flush (number : Nat)
  /-- Have a file take what waits for it, for the last time. -/
  | closeLog (number : Nat)
  | variable (name : Text)
  /-- How many directories on the way to one are looked at, at the most. -/
  | depth
  /-- The home directory of somebody, or of whoever runs the program, as the system knows it. -/
  | homeOf (owner : Option Text)
  | now
  /-- A new credential from the entropy of the surroundings. -/
  | issue
  | print (text : Text)
  | printError (text : Text)
  /-- Have the error output take what waits for it. -/
  | flushErrors
  /-- Ask for a line. -/
  | ask (prompt : Text)
  /-- Ask for a line that is not shown while it is typed. -/
  | askSecretly (prompt : Text)
  deriving DecidableEq, Repr

/-- What a call that may fail replies. -/
abbrev Tried (α : Type) := Except CallError α

/-- What a call replies. -/
abbrev Call.Reply : Call → Type
  | .makeDirectory _ => Tried Unit
  | .isDirectory _ => Tried Bool
  | .isThere _ => Bool
  | .readFile _ => Tried Bytes
  | .list _ => Tried (List Text)
  | .createTemporary _ _ => Tried Text
  | .fill _ _ => Tried Unit
  | .sync _ => Tried Unit
  | .setMode _ _ => Tried Unit
  | .replace _ _ => Tried Unit
  | .unlink _ => Tried Unit
  | .openLog _ => Tried Nat
  | .append _ _ => Tried Unit
  | .flush _ => Tried Unit
  | .closeLog _ => Tried Unit
  | .variable _ => Option Text
  | .depth => Nat
  | .homeOf _ => Option Text
  | .now => Moment
  | .issue => Except Failure Credential
  | .print _ => Except PrintError Unit
  | .printError _ => Tried Unit
  | .flushErrors => Tried Unit
  | .ask _ => Answer
  | .askSecretly _ => Answer

/-- A computation that makes calls. -/
inductive Plan (α : Type) where
  | done (value : α)
  | call (request : Call) (next : request.Reply → Plan α)

namespace Plan

/-- The plan that makes one call and has its reply as value. -/
def request (call : Call) : Plan call.Reply :=
  .call call .done

/-- A plan that goes on with the value of another. -/
def bind {α β : Type} : Plan α → (α → Plan β) → Plan β
  | .done value, next => next value
  | .call request reply, next => .call request fun answer => (reply answer).bind next

/-- A plan that goes on with the value of another that succeeds, and fails as the other fails. -/
def onSuccess {ε α β : Type} (plan : Plan (Except ε α)) (next : α → Plan (Except ε β)) :
    Plan (Except ε β) :=
  plan.bind fun
    | .ok value => next value
    | .error fault => .done (.error fault)

instance : Monad Plan where
  pure := .done
  bind := Plan.bind

@[simp]
theorem pure_eq_done {α : Type} (value : α) : (pure value : Plan α) = .done value := rfl

@[simp]
theorem bind_eq_bind {α β : Type} (plan : Plan α) (next : α → Plan β) :
    plan >>= next = plan.bind next := rfl

/-- A plan that goes on with nothing is the plan itself. -/
@[simp]
theorem bind_done {α : Type} (plan : Plan α) : plan.bind .done = plan := by
  induction plan with
  | done value => rfl
  | call request reply ih => simp [bind, ih]

/-- It does not matter which of three plans in a row are put together first. -/
theorem bind_assoc {α β γ : Type} (plan : Plan α) (next : α → Plan β) (last : β → Plan γ) :
    (plan.bind next).bind last = plan.bind fun value => (next value).bind last := by
  induction plan with
  | done value => rfl
  | call request reply ih => simp [bind, ih]

instance : LawfulMonad Plan :=
  LawfulMonad.mk' Plan
    (fun plan => bind_done plan)
    (fun _ _ => rfl)
    (fun plan next last => bind_assoc plan next last)

end Plan

end Keyring
