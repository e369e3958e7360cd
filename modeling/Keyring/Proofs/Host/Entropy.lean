import Keyring.Proofs.Host.Routine

/-!
# Who uses up entropy

Only a new credential takes random bytes and salts from a host. A plan that asks for none is frugal
(`Plan.IsFrugal`). Its course is the same whatever entropy there is (`Plan.IsFrugal.run_reseeded`), so
it tells nothing of it; and it `Spares` the entropy, so that as much is there for the next credential
as before.
-/

namespace Keyring

/-- What is there for the next credential is the same on two hosts. -/
structure Host.SameEntropy (host other : Host) : Prop where
  source : other.source = host.source
  salts : other.salts = host.salts

namespace Host.SameEntropy

variable {host other : Host}

theorem refl (host : Host) : host.SameEntropy host :=
  ⟨rfl, rfl⟩

theorem symm (same : host.SameEntropy other) : other.SameEntropy host :=
  ⟨same.source.symm, same.salts.symm⟩

theorem trans {third : Host} (same : host.SameEntropy other) (next : other.SameEntropy third) :
    host.SameEntropy third :=
  ⟨next.source.trans same.source, next.salts.trans same.salts⟩

/-- The same entropy makes the same credential, and what is left of it is the same. -/
theorem answer_issue (same : host.SameEntropy other) :
    (other.answer .issue).1 = (host.answer .issue).1 ∧
      (host.answer .issue).2.SameEntropy (other.answer .issue).2 := by
  unfold Host.answer
  rw [same.source, same.salts]
  exact ⟨rfl, rfl, rfl⟩

end Host.SameEntropy

/-- The host with another supply of entropy. -/
def Host.reseeded (host : Host) (source : Source) (salts : Salts) : Host :=
  { host with source := source, salts := salts }

/-! ## Calls -/

namespace Host

variable (host : Host) (source : Source) (salts : Salts)

/-- An attempt comes to the same with any entropy, whatever its effect on the tree. -/
theorem attempt_reseeded {α : Type} (call : Call) (paths : List Text)
    (effect : Tree → Except Trouble (α × Tree)) :
    (host.reseeded source salts).attempt call paths effect =
      ((host.attempt call paths effect).1,
        (host.attempt call paths effect).2.reseeded source salts) := by
  unfold attempt reseeded
  dsimp only
  cases host.faults host.performed call with
  | some error => rfl
  | none =>
    cases paths.findSome? Path.fault? with
    | some fault => rfl
    | none => rcases effect host.tree with trouble | ⟨reply, tree⟩ <;> rfl

/-- A temporary file gets the same name with any entropy. -/
theorem createTemporary_reseeded (directory stem : Text) (count used : Nat) :
    (host.reseeded source salts).createTemporary directory stem count used =
      ((host.createTemporary directory stem count used).1,
        (host.createTemporary directory stem count used).2.reseeded source salts) := by
  induction count generalizing used with
  | zero => rfl
  | succ count ih =>
    have tree : (host.reseeded source salts).tree = host.tree := rfl
    have current : (host.reseeded source salts).current = host.current := rfl
    have path : (host.reseeded source salts).temporaryPath directory stem
        ((host.reseeded source salts).marks used) =
          host.temporaryPath directory stem (host.marks used) := rfl
    rw [createTemporary, createTemporary, path, tree, current]
    rcases host.tree.createFile host.current _ 0o600 with trouble | tree
    · cases trouble with
      | present => exact ih (used + 1)
      | _ => rfl
    · rfl

/-- A file takes the same with any entropy. -/
theorem hand_reseeded (call : Call) (number : Nat) (bytes : Bytes) :
    (host.reseeded source salts).hand call number bytes =
      ((host.hand call number bytes).1, (host.hand call number bytes).2.reseeded source salts) := by
  unfold hand reseeded
  dsimp only
  cases host.faults host.performed call <;> rfl

/-- What is printed is printed with any entropy. -/
theorem printError?_reseeded (call : Call) (text : Text) :
    (host.reseeded source salts).printError? call text = host.printError? call text :=
  rfl

/-- An answer comes to the same with any entropy. -/
theorem nextAnswer_reseeded (prompt : Text) :
    (host.reseeded source salts).nextAnswer prompt =
      ((host.nextAnswer prompt).1, (host.nextAnswer prompt).2.reseeded source salts) := by
  unfold nextAnswer reseeded
  dsimp only
  rcases host.answers with _ | ⟨_ | text, answers⟩ <;> rfl

/-- Asking for a line comes to the same with any entropy. -/
theorem asking_reseeded (call : Call) (prompt : Text) :
    (host.reseeded source salts).asking call prompt =
      ((host.asking call prompt).1, (host.asking call prompt).2.reseeded source salts) := by
  let counted := { host with performed := host.performed + 1 }
  have answered := counted.nextAnswer_reseeded source salts prompt
  unfold asking
  rw [printError?_reseeded]
  cases host.printError? call prompt with
  | some error => rfl
  | none => exact answered

/-- Every call but that for a new credential comes to the same with any entropy. -/
theorem answer_reseeded {call : Call} (other : call ≠ .issue) :
    (host.reseeded source salts).answer call =
      ((host.answer call).1, (host.answer call).2.reseeded source salts) := by
  unfold answer
  cases call with
  | makeDirectory path => exact host.attempt_reseeded source salts ..
  | isDirectory path => rfl
  | isThere path => rfl
  | readFile path => exact host.attempt_reseeded source salts ..
  | list path => exact host.attempt_reseeded source salts ..
  | createTemporary directory stem =>
    have faults : (host.reseeded source salts).faults = host.faults := rfl
    have performed : (host.reseeded source salts).performed = host.performed := rfl
    have path : (host.reseeded source salts).temporaryPath directory stem [] =
      host.temporaryPath directory stem [] := rfl
    dsimp only
    rw [faults, performed, path]
    cases host.faults host.performed (.createTemporary directory stem) with
    | some error => rfl
    | none =>
      cases Path.fault? (host.temporaryPath directory stem []) with
      | some fault => rfl
      | none =>
        let asked := { host with performed := host.performed + 1 }
        exact createTemporary_reseeded asked source salts ..
  | fill path content => exact host.attempt_reseeded source salts ..
  | sync path => exact host.attempt_reseeded source salts ..
  | setMode path mode => exact host.attempt_reseeded source salts ..
  | replace source' target => exact host.attempt_reseeded source salts ..
  | unlink path => exact host.attempt_reseeded source salts ..
  | openLog path => exact host.attempt_reseeded source salts ..
  | append number bytes => exact host.hand_reseeded source salts ..
  | flush number =>
    have unwritten : (host.reseeded source salts).unwritten = host.unwritten := rfl
    dsimp only
    rw [unwritten]
    split
    · rfl
    · exact host.hand_reseeded source salts ..
  | closeLog number =>
    dsimp only
    rw [hand_reseeded]
    rfl
  | «variable» name => rfl
  | depth => rfl
  | homeOf owner => rfl
  | now => rfl
  | issue => exact absurd rfl other
  | print text =>
    dsimp only
    rw [printError?_reseeded]
    cases host.printError? (.print text) text <;> rfl
  | printError text =>
    have faults : (host.reseeded source salts).faults = host.faults := rfl
    have performed : (host.reseeded source salts).performed = host.performed := rfl
    dsimp only
    rw [faults, performed]
    cases host.faults host.performed (.printError text) <;> rfl
  | flushErrors => rfl
  | ask prompt => exact host.asking_reseeded source salts ..
  | askSecretly prompt => exact host.asking_reseeded source salts ..

end Host

/-! ## Plans -/

namespace Plan

variable {α : Type}

/-- A plan that never asks for a new credential, whatever is replied to it. -/
def IsFrugal : Plan α → Prop
  | .done _ => True
  | .call request next => request ≠ .issue ∧ ∀ reply, (next reply).IsFrugal

/-- A plan that leaves the entropy of every host alone. -/
def Spares (plan : Plan α) : Prop :=
  ∀ host : Host, host.SameEntropy (plan.run host).2

theorem isFrugal_request {call : Call} (other : call ≠ .issue) : (request call).IsFrugal :=
  ⟨other, fun _ => trivial⟩

namespace IsFrugal

/-- A frugal plan comes to the same with any entropy. -/
theorem run_reseeded {plan : Plan α} (frugal : plan.IsFrugal) (host : Host) (source : Source)
    (salts : Salts) :
    plan.run (host.reseeded source salts) =
      ((plan.run host).1, (plan.run host).2.reseeded source salts) := by
  induction plan generalizing host with
  | done value => rfl
  | call request reply ih =>
    rw [run_call, host.answer_reseeded source salts frugal.1]
    exact ih _ (frugal.2 _) _

/-- A frugal plan leaves the entropy alone. -/
theorem spares {plan : Plan α} (frugal : plan.IsFrugal) : plan.Spares := by
  intro host
  have same : (plan.run host).2 = (plan.run host).2.reseeded host.source host.salts :=
    congrArg Prod.snd (frugal.run_reseeded host host.source host.salts)
  rw [same]
  exact ⟨rfl, rfl⟩

end IsFrugal

end Plan

/-! ## Routine -/

/-- What is routine needs no entropy. -/
theorem Plan.IsRoutine.isFrugal {α : Type} {plan : Plan α} (routine : plan.IsRoutine) :
    plan.IsFrugal := by
  induction plan with
  | done value => trivial
  | call request reply ih =>
    refine ⟨?_, fun answer => ih answer (routine.2 answer)⟩
    rintro rfl
    cases routine.1

theorem KeychainFile.isFrugal_write (name : Text) (content : Bytes) :
    (write name content).IsFrugal :=
  (isRoutine_write name content).isFrugal

namespace Keychain

theorem isFrugal_load (name : Text) : (load name).IsFrugal :=
  (isRoutine_load name).isFrugal

theorem spares_load (name : Text) : (load name).Spares :=
  (isFrugal_load name).spares

theorem spares_save (keychain : Keychain) : keychain.save.Spares :=
  keychain.isRoutine_save.isFrugal.spares

end Keychain

theorem Audit.Channel.isFrugal_writeEach (channel : Channel) (events : List Event) :
    (channel.writeEach events).IsFrugal :=
  (channel.isRoutine_writeEach events).isFrugal

end Keyring
