import Keyring.Host.Call
import Keyring.Host.Tree

/-!
# A host that is a value

Surroundings in which every call has a definite reply and a definite effect: a file tree, the
variables and the clock, the entropy, the answers to come, and what has been printed so far.

Any call about files can be made to fail, by `faults`, and so can whatever is printed or asked: the
number of such calls so far and the call itself decide. A call that fails in this way has no effect,
but that octets which do not get into a file wait for it (`Host.hand`).

`Plan.run` carries a plan out; `Plan.hosts` tells what the host was like between any two calls,
which is what others can see of it.
-/

namespace Keyring

open Text (lit)

/-- Surroundings as a value. -/
structure Host where
  tree : Tree
  /-- The current directory. -/
  current : Place
  /-- Which calls fail in spite of the tree, by how many calls that can be made to fail there were
  before. -/
  faults : Nat → Call → Option SystemError
  /-- How many calls that can be made to fail there were. -/
  performed : Nat
  /-- The marks that tell the names of temporary files apart. -/
  marks : Nat → Text
  /-- How many marks have been used. -/
  marksUsed : Nat
  environment : Text → Option Text
  moment : Moment
  source : Source
  salts : Salts
  /-- The answers to come; none stands for the wish to stop. -/
  answers : List (Option Text)
  /-- What has been printed. -/
  output : Text
  /-- What has been printed as an error. -/
  errors : Text
  /-- What has been asked, the first question first. -/
  prompts : List Text
  /-- The octets that wait for a file, by its number. -/
  unwritten : Nat → Bytes := fun _ => []
  /-- What of a text the output has no octets for. -/
  unprintable : Text → Option Utf8.Unencodable := fun _ => none
  /-- The home directories that the system knows: of somebody, and of whoever runs the program. -/
  homes : Option Text → Option Text := fun _ => none
  /-- How many marks are tried for one temporary file. -/
  maxMarks : Nat := 10000
  /-- How many directories on the way to one are looked at. -/
  maxDepth : Nat := 984

namespace Host

/-- The current directory as a path. -/
def currentPath (host : Host) : Path :=
  ⟨[Path.separator], host.current.map Name.toText⟩

/-- A path from the root, without dots. -/
def absolute (host : Host) (path : Text) : Text :=
  (Path.absolute host.currentPath (Path.ofText path)).toText

/-- The reply to a call about files and the tree after it, if the call is not made to fail and its
paths are paths. The error of a trouble names the paths. -/
def attempt {α : Type} (host : Host) (call : Call) (paths : List Text)
    (effect : Tree → Except Trouble (α × Tree)) : Tried α × Host :=
  let counted := { host with performed := host.performed + 1 }
  match host.faults host.performed call with
  | some error => (.error (.system error), counted)
  | none =>
    match paths.findSome? Path.fault? with
    | some fault => (.error (.badPath fault), counted)
    | none =>
      match effect host.tree with
      | .error trouble => (.error (.system (trouble.error paths)), counted)
      | .ok (reply, tree) => (.ok reply, { counted with tree := tree })

/-- The effect of a call that only changes the tree. -/
def changing (result : Except Trouble Tree) : Except Trouble (Unit × Tree) :=
  result.map fun tree => ((), tree)

/-- The path of a temporary file. -/
def temporaryPath (host : Host) (directory stem mark : Text) : Text :=
  let place := host.absolute directory
  place ++ (if place.getLast? = some Path.separator then [] else [Path.separator]) ++
    lit "." ++ stem ++ lit "." ++ mark ++ lit ".tmp"

/-- Creates a temporary file with the first of the next marks whose name nothing has. -/
def createTemporary (host : Host) (directory stem : Text) : Nat → Nat → Tried Text × Host
  | 0, _ => (.error (.system (.present [])), host)
  | count + 1, used =>
    let path := host.temporaryPath directory stem (host.marks used)
    match host.tree.createFile host.current path 0o600 with
    | .ok tree => (.ok path, { host with tree := tree, marksUsed := used + 1 })
    | .error .present => createTemporary host directory stem count (used + 1)
    | .error trouble =>
      (.error (.system (trouble.error [path])), { host with marksUsed := used + 1 })

/-- The reply when a file is to take what waits for it and some octets more, and the host after it.
What the file does not take goes on waiting. -/
def hand (host : Host) (call : Call) (number : Nat) (bytes : Bytes) : Tried Unit × Host :=
  let counted := { host with performed := host.performed + 1 }
  let waiting := host.unwritten number ++ bytes
  let keeping (bytes : Bytes) (other : Nat) : Bytes :=
    if other = number then bytes else host.unwritten other
  match host.faults host.performed call with
  | some error => (.error (.system error), { counted with unwritten := keeping waiting })
  | none =>
    (.ok (), { counted with tree := host.tree.append number waiting, unwritten := keeping [] })

/-- The host when nothing waits for a file any more. -/
def forgetting (host : Host) (number : Nat) : Host :=
  { host with unwritten := fun other => if other = number then [] else host.unwritten other }

/-- Why a text is not printed by a call, if it is not. -/
def printError? (host : Host) (call : Call) (text : Text) : Option PrintError :=
  match host.unprintable text with
  | some run => some (.unencodable run)
  | none => (host.faults host.performed call).map .system

/-- The next answer. -/
def nextAnswer (host : Host) (prompt : Text) : Answer × Host :=
  let asked := { host with prompts := host.prompts ++ [prompt] }
  match host.answers with
  | [] => (.silence, asked)
  | none :: answers => (.interrupt, { asked with answers := answers })
  | some text :: answers => (.line text, { asked with answers := answers })

/-- The next answer, if the question can be printed. -/
def asking (host : Host) (call : Call) (prompt : Text) : Answer × Host :=
  let counted := { host with performed := host.performed + 1 }
  match host.printError? call prompt with
  | some error => (.unasked error, counted)
  | none => counted.nextAnswer prompt

/-- The reply to a call, and the host after it. -/
def answer (host : Host) : (call : Call) → call.Reply × Host
  | .makeDirectory path =>
    host.attempt (.makeDirectory path) [path] fun tree =>
      changing (tree.makeDirectory host.current path)
  | .isDirectory path =>
    (match Path.fault? path with
      | some _ => .ok false
      | none =>
        match host.tree.lookup host.current path with
        | .ok (_, .directory _) => .ok true
        | .ok (_, .file _ _ _) => .ok false
        | .error .nameTooLong => .error (.system (.nameTooLong [path]))
        | .error _ => .ok false,
      host)
  | .isThere path =>
    ((Path.fault? path).isNone &&
        (match host.tree.lookup host.current path with
          | .ok _ => true
          | .error _ => false),
      host)
  | .readFile path =>
    host.attempt (.readFile path) [path] fun tree =>
      (tree.read host.current path).map fun content => (content, tree)
  | .list path =>
    host.attempt (.list path) [path] fun tree =>
      (tree.names host.current path).map fun names => (names, tree)
  | .createTemporary directory stem =>
    let counted := { host with performed := host.performed + 1 }
    match host.faults host.performed (.createTemporary directory stem) with
    | some error => (.error (.system error), counted)
    | none =>
      match Path.fault? (host.temporaryPath directory stem []) with
      | some fault => (.error (.badPath fault), counted)
      | none => createTemporary counted directory stem host.maxMarks host.marksUsed
  | .fill path content =>
    host.attempt (.fill path content) [path] fun tree =>
      changing (tree.fill host.current path content)
  | .sync path =>
    host.attempt (.sync path) [path] fun tree => .ok ((), tree)
  | .setMode path mode =>
    host.attempt (.setMode path mode) [path] fun tree =>
      changing (tree.setMode host.current path mode)
  | .replace source target =>
    host.attempt (.replace source target) [source, target] fun tree =>
      changing (tree.replace host.current source target)
  | .unlink path =>
    host.attempt (.unlink path) [path] fun tree => changing (tree.unlink host.current path)
  | .openLog path =>
    host.attempt (.openLog path) [host.absolute path] fun tree =>
      tree.openFile host.current (host.absolute path)
  | .append number bytes => host.hand (.append number bytes) number bytes
  | .flush number =>
    if host.unwritten number = [] then (.ok (), host) else host.hand (.flush number) number []
  | .closeLog number =>
    let (reply, after) := host.hand (.closeLog number) number []
    (reply, after.forgetting number)
  | .variable name => (host.environment name, host)
  | .depth => (host.maxDepth, host)
  | .homeOf owner => (host.homes owner, host)
  | .now => (host.moment, host)
  | .issue =>
    let (credential, source, salts) := Credential.create host.source host.salts
    (credential, { host with source := source, salts := salts })
  | .print text =>
    let counted := { host with performed := host.performed + 1 }
    match host.printError? (.print text) text with
    | some error => (.error error, counted)
    | none => (.ok (), { counted with output := host.output ++ text })
  | .printError text =>
    let counted := { host with performed := host.performed + 1 }
    match host.faults host.performed (.printError text) with
    | some error => (.error (.system error), counted)
    | none => (.ok (), { counted with errors := host.errors ++ text })
  | .flushErrors =>
    ((match host.faults host.performed .flushErrors with
      | some error => .error (.system error)
      | none => .ok ()),
      { host with performed := host.performed + 1 })
  | .ask prompt => host.asking (.ask prompt) prompt
  | .askSecretly prompt => host.asking (.askSecretly prompt) prompt

end Host

namespace Plan

/-- The value of a plan that a host carries out, and the host after it. -/
def run {α : Type} : Plan α → Host → α × Host
  | .done value, host => (value, host)
  | .call request next, host =>
    let (reply, host) := host.answer request
    (next reply).run host

/-- The hosts between the calls of a plan, the first before any and the last after all. -/
def hosts {α : Type} : Plan α → Host → List Host
  | .done _, host => [host]
  | .call request next, host =>
    host :: (next (host.answer request).1).hosts (host.answer request).2

@[simp]
theorem run_done {α : Type} (value : α) (host : Host) :
    (Plan.done value).run host = (value, host) :=
  rfl

@[simp]
theorem run_call {α : Type} (request : Call) (next : request.Reply → Plan α) (host : Host) :
    (Plan.call request next).run host =
      (next (host.answer request).1).run (host.answer request).2 :=
  rfl

/-- A plan that goes on runs its first part and then, where that has left the host, the rest. -/
@[simp]
theorem run_bind {α β : Type} (plan : Plan α) (next : α → Plan β) (host : Host) :
    (plan.bind next).run host = (next (plan.run host).1).run (plan.run host).2 := by
  induction plan generalizing host with
  | done value => rfl
  | call request reply ih => simp [bind, ih]

/-- A plan that goes on after success runs its first part, and the rest only if that succeeds. -/
theorem run_onSuccess {ε α β : Type} (plan : Plan (Except ε α)) (next : α → Plan (Except ε β))
    (host : Host) :
    (plan.onSuccess next).run host =
      match plan.run host with
      | (.ok value, after) => (next value).run after
      | (.error fault, after) => (.error fault, after) := by
  rw [onSuccess, run_bind]
  rcases plan.run host with ⟨fault | value, after⟩ <;> rfl

end Plan

end Keyring
