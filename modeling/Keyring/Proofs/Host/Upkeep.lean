import Keyring.Host.State
import Keyring.Proofs.Host.Changes

/-!
# What every call respects

A host that is `Settled` has a well-formed tree and a current directory that is there. Whatever a
plan does to it, it stays settled, its directories stay, and what is not in the tree but decides how
calls go stays as it is (`Settled.run`).
-/

namespace Keyring

/-- A plan of one call is the call. -/
@[simp]
theorem Plan.run_request (call : Call) (host : Host) :
    (Plan.request call).run host = host.answer call := rfl

/-- A plan that may fail ends in one of two ways. -/
def Plan.Ends {ε α : Type} (plan : Plan (Except ε α)) (host : Host)
    (succeeded : α → Host → Prop) (failed : ε → Host → Prop) : Prop :=
  match plan.run host with
  | (.ok value, after) => succeeded value after
  | (.error fault, after) => failed fault after

/-- How a plan ends is seen from its result. -/
theorem Plan.Ends.of_run {ε α : Type} {plan : Plan (Except ε α)} {host : Host}
    {succeeded : α → Host → Prop} {failed : ε → Host → Prop}
    (success : ∀ value, (plan.run host).1 = .ok value → succeeded value (plan.run host).2)
    (failure : ∀ fault, (plan.run host).1 = .error fault → failed fault (plan.run host).2) :
    plan.Ends host succeeded failed := by
  unfold Ends
  rcases outcome : plan.run host with ⟨fault | value, after⟩
  · simpa [outcome] using failure fault (by rw [outcome])
  · simpa [outcome] using success value (by rw [outcome])

/-- Less may be said of how a plan ends. -/
theorem Plan.Ends.mono {ε α : Type} {plan : Plan (Except ε α)} {host : Host}
    {succeeded succeeded' : α → Host → Prop} {failed failed' : ε → Host → Prop}
    (ends : plan.Ends host succeeded failed)
    (success : ∀ value after, succeeded value after → succeeded' value after)
    (failure : ∀ fault after, failed fault after → failed' fault after) :
    plan.Ends host succeeded' failed' := by
  unfold Ends at ends ⊢
  generalize plan.run host = outcome at ends ⊢
  obtain ⟨fault | value, after⟩ := outcome
  · exact failure fault after ends
  · exact success value after ends

namespace Host

/-- What is there lies in directories, and so does whoever looks. -/
structure Settled (host : Host) : Prop where
  wellFormed : host.tree.WellFormed
  current : host.tree.IsDirectory host.current

/-- A host after some calls: what decides how calls go is as before, and directories are there. -/
structure Follows (host after : Host) : Prop where
  current : after.current = host.current
  faults : after.faults = host.faults
  marks : after.marks = host.marks
  unprintable : after.unprintable = host.unprintable
  grows : host.tree.Grows after.tree

namespace Follows

/-- A host after some calls and some more. -/
theorem trans {host middle after : Host} (first : host.Follows middle)
    (next : middle.Follows after) : host.Follows after where
  current := next.current.trans first.current
  faults := next.faults.trans first.faults
  marks := next.marks.trans first.marks
  unprintable := next.unprintable.trans first.unprintable
  grows := ⟨first.grows.keeps.trans next.grows.keeps, next.grows.wellFormed⟩

/-- The current directory is still there. -/
theorem settled {host after : Host} (follows : host.Follows after) (settled : host.Settled) :
    after.Settled :=
  ⟨follows.grows.wellFormed, follows.current ▸ follows.grows.keeps _ settled.current⟩

end Follows

/-! ## Attempts -/

section Attempt

variable {α : Type} {host : Host} {call : Call} {paths : List Text}
  {effect : Tree → Except Trouble (α × Tree)}

/-- An attempt that succeeds has its effect on the tree. -/
theorem attempt_ok {reply : α} (done : (host.attempt call paths effect).1 = .ok reply) :
    effect host.tree = .ok (reply, (host.attempt call paths effect).2.tree) := by
  unfold attempt at done ⊢
  dsimp only at done ⊢
  split at done
  · cases done
  · split at done
    · cases done
    · split at done
      · cases done
      · rename_i tree had
        cases done
        simpa using had

/-- An attempt that fails leaves the tree as it was. -/
theorem tree_attempt_of_error {error : CallError}
    (failed : (host.attempt call paths effect).1 = .error error) :
    (host.attempt call paths effect).2.tree = host.tree := by
  unfold attempt at failed ⊢
  dsimp only at failed ⊢
  split
  · rfl
  · split
    · rfl
    · split <;> simp_all

/-- An attempt changes nothing but the tree and the number of calls. -/
theorem snd_attempt :
    (host.attempt call paths effect).2 =
      { host with
        performed := host.performed + 1
        tree := (host.attempt call paths effect).2.tree } := by
  unfold attempt
  dsimp only
  split
  · rfl
  · split
    · rfl
    · split <;> rfl

/-- Whatever is true of the tree as it is and after every effect is true after an attempt. -/
theorem tree_attempt (holds : Tree → Prop) (before : holds host.tree)
    (effective : ∀ reply after, effect host.tree = .ok (reply, after) → holds after) :
    holds (host.attempt call paths effect).2.tree := by
  cases result : (host.attempt call paths effect).1 with
  | error error => exact tree_attempt_of_error result ▸ before
  | ok reply => exact effective reply _ (attempt_ok result)

end Attempt

/-- A change of the tree alone succeeds with the tree after it. -/
theorem changing_eq_ok {result : Except Trouble Tree} {reply : Unit} {after : Tree} :
    changing result = .ok (reply, after) ↔ result = .ok after := by
  cases result <;> simp [changing, Except.map]

/-- A change of the tree that is attempted and succeeds is made. -/
theorem attempt_changing_ok {host : Host} {call : Call} {paths : List Text}
    {change : Tree → Except Trouble Tree}
    (done : (host.attempt call paths fun tree => changing (change tree)).1 = .ok ()) :
    change host.tree =
      .ok (host.attempt call paths fun tree => changing (change tree)).2.tree :=
  changing_eq_ok.mp (attempt_ok done)

/-- Whatever is true of the tree as it is and after a change is true after it is attempted. -/
theorem tree_attempt_changing {host : Host} {call : Call} {paths : List Text}
    {change : Tree → Except Trouble Tree} (holds : Tree → Prop) (before : holds host.tree)
    (effective : ∀ after, change host.tree = .ok after → holds after) :
    holds (host.attempt call paths fun tree => changing (change tree)).2.tree :=
  tree_attempt holds before fun _ after had => effective after (changing_eq_ok.mp had)

/-- A file that is filled is filled in the tree. -/
theorem answer_fill_ok {host : Host} {path : Text} {content : Bytes}
    (done : (host.answer (.fill path content)).1 = .ok ()) :
    host.tree.fill host.current path content = .ok (host.answer (.fill path content)).2.tree :=
  attempt_changing_ok done

/-- Permissions that are changed are changed in the tree. -/
theorem answer_setMode_ok {host : Host} {path : Text} {mode : Nat}
    (done : (host.answer (.setMode path mode)).1 = .ok ()) :
    host.tree.setMode host.current path mode = .ok (host.answer (.setMode path mode)).2.tree :=
  attempt_changing_ok done

/-- A file that is moved is moved in the tree. -/
theorem answer_replace_ok {host : Host} {source target : Text}
    (done : (host.answer (.replace source target)).1 = .ok ()) :
    host.tree.replace host.current source target =
      .ok (host.answer (.replace source target)).2.tree :=
  attempt_changing_ok done

/-- A file that is removed is removed from the tree. -/
theorem answer_unlink_ok {host : Host} {path : Text}
    (done : (host.answer (.unlink path)).1 = .ok ()) :
    host.tree.unlink host.current path = .ok (host.answer (.unlink path)).2.tree :=
  attempt_changing_ok done

/-- Waiting for the disk leaves the tree as it is. -/
theorem tree_answer_sync (host : Host) (path : Text) :
    (host.answer (.sync path)).2.tree = host.tree :=
  tree_attempt (· = host.tree) rfl fun _ after had => by cases had; rfl

/-- A temporary file that is made has one of the marks in its name. -/
theorem createTemporary_ok {host : Host} {directory stem path : Text} {count used : Nat}
    (made : (host.createTemporary directory stem count used).1 = .ok path) :
    ∃ index, path = host.temporaryPath directory stem (host.marks index) ∧
      host.tree.createFile host.current path 0o600 =
        .ok (host.createTemporary directory stem count used).2.tree := by
  induction count generalizing used with
  | zero => cases made
  | succ count ih =>
    rw [createTemporary] at made ⊢
    split at made
    · rename_i tree created
      cases made
      exact ⟨used, rfl, by simp [created]⟩
    · rename_i present
      simpa [present] using ih made
    · cases made

/-- Where no temporary file is made the tree stays as it was. -/
theorem tree_createTemporary_of_error {host : Host} {directory stem : Text} {count used : Nat}
    {error : CallError} (failed : (host.createTemporary directory stem count used).1 = .error error) :
    (host.createTemporary directory stem count used).2.tree = host.tree := by
  induction count generalizing used with
  | zero => rfl
  | succ count ih =>
    rw [createTemporary] at failed ⊢
    split at failed
    · cases failed
    · rename_i present
      simpa [present] using ih failed
    · rfl

/-- Making a temporary file changes nothing but the tree and the number of marks. -/
theorem snd_createTemporary (host : Host) (directory stem : Text) (count used : Nat) :
    (host.createTemporary directory stem count used).2 =
      { host with
        tree := (host.createTemporary directory stem count used).2.tree
        marksUsed := (host.createTemporary directory stem count used).2.marksUsed } := by
  induction count generalizing used with
  | zero => rfl
  | succ count ih =>
    rw [createTemporary]
    split
    · rfl
    · exact ih (used + 1)
    · rfl

/-- A call for a temporary file that succeeds makes one with one of the marks in its name. -/
theorem answer_createTemporary_ok {host : Host} {directory stem path : Text}
    (made : (host.answer (.createTemporary directory stem)).1 = .ok path) :
    ∃ index, path = host.temporaryPath directory stem (host.marks index) ∧
      host.tree.createFile host.current path 0o600 =
        .ok (host.answer (.createTemporary directory stem)).2.tree := by
  unfold answer at made ⊢
  dsimp only at made ⊢
  split at made
  · cases made
  · split at made
    · cases made
    · exact createTemporary_ok made

/-- A call for a temporary file that fails leaves the tree as it was. -/
theorem tree_answer_createTemporary_of_error {host : Host} {directory stem : Text}
    {error : CallError} (failed : (host.answer (.createTemporary directory stem)).1 = .error error) :
    (host.answer (.createTemporary directory stem)).2.tree = host.tree := by
  unfold answer at failed ⊢
  dsimp only at failed ⊢
  split at failed
  · rfl
  · split at failed
    · rfl
    · exact tree_createTemporary_of_error failed

/-! ## What is said and what is written down -/

/-- Whatever a file takes, what is said stays and so does all that decides how calls go. -/
theorem snd_hand (host : Host) (call : Call) (number : Nat) (bytes : Bytes) :
    (host.hand call number bytes).2 =
      { host with
        performed := host.performed + 1
        tree := (host.hand call number bytes).2.tree
        unwritten := (host.hand call number bytes).2.unwritten } := by
  unfold hand
  dsimp only
  split <;> rfl

/-- What is printed comes after what was. -/
theorem snd_answer_print (host : Host) (text : Text) :
    (host.answer (.print text)).2 =
      { host with
        performed := host.performed + 1
        output := (host.answer (.print text)).2.output } := by
  unfold answer
  dsimp only
  split <;> rfl

theorem snd_answer_printError (host : Host) (text : Text) :
    (host.answer (.printError text)).2 =
      { host with
        performed := host.performed + 1
        errors := (host.answer (.printError text)).2.errors } := by
  unfold answer
  dsimp only
  split <;> rfl

/-- Asking takes an answer, and puts the question to those before. -/
theorem snd_asking (host : Host) (call : Call) (prompt : Text) :
    (host.asking call prompt).2 =
      { host with
        performed := host.performed + 1
        answers := (host.asking call prompt).2.answers
        prompts := (host.asking call prompt).2.prompts } := by
  unfold asking
  dsimp only
  split
  · rfl
  · unfold nextAnswer
    dsimp only
    split <;> rfl

/-- What decides how calls go is changed by none of them: the current directory, the calls that are made
to fail, the marks, the variables, the clock, what cannot be printed, and what the system knows. -/
theorem snd_answer (host : Host) (call : Call) :
    (host.answer call).2 =
      { host with
        tree := (host.answer call).2.tree
        performed := (host.answer call).2.performed
        marksUsed := (host.answer call).2.marksUsed
        source := (host.answer call).2.source
        salts := (host.answer call).2.salts
        answers := (host.answer call).2.answers
        output := (host.answer call).2.output
        errors := (host.answer call).2.errors
        prompts := (host.answer call).2.prompts
        unwritten := (host.answer call).2.unwritten } := by
  cases call with
  | createTemporary directory stem =>
    unfold answer
    dsimp only
    split
    · rfl
    · split
      · rfl
      · rw [snd_createTemporary]
  | makeDirectory path => rw [answer, snd_attempt]
  | readFile path => rw [answer, snd_attempt]
  | list path => rw [answer, snd_attempt]
  | fill path content => rw [answer, snd_attempt]
  | sync path => rw [answer, snd_attempt]
  | setMode path mode => rw [answer, snd_attempt]
  | replace source target => rw [answer, snd_attempt]
  | unlink path => rw [answer, snd_attempt]
  | openLog path => rw [answer, snd_attempt]
  | append number bytes => rw [answer, snd_hand]
  | flush number =>
    unfold answer
    dsimp only
    split
    · rfl
    · rw [snd_hand]
  | closeLog number =>
    unfold answer
    dsimp only
    rw [snd_hand]
    rfl
  | print text => rw [snd_answer_print]
  | printError text => rw [snd_answer_printError]
  | ask prompt => rw [answer, snd_asking]
  | askSecretly prompt => rw [answer, snd_asking]
  | _ => rfl

/-! ## Calls and plans -/

namespace Settled

variable {host : Host}

/-- A call without an effect on files. -/
theorem follows_refl (settled : host.Settled) {after : Host} (current : after.current = host.current)
    (faults : after.faults = host.faults) (marks : after.marks = host.marks)
    (unprintable : after.unprintable = host.unprintable) (tree : after.tree = host.tree) :
    host.Follows after :=
  ⟨current, faults, marks, unprintable, tree ▸ settled.wellFormed.grows_refl⟩

/-- A temporary file is a new one. -/
theorem grows_createTemporary (settled : host.Settled) (directory stem : Text) :
    host.tree.Grows (host.answer (.createTemporary directory stem)).2.tree := by
  cases result : (host.answer (.createTemporary directory stem)).1 with
  | error error => exact tree_answer_createTemporary_of_error result ▸ settled.wellFormed.grows_refl
  | ok path =>
    obtain ⟨-, -, made⟩ := answer_createTemporary_ok result
    exact settled.wellFormed.grows_createFile settled.current made

/-- A file that takes what waits for it only gets longer. -/
theorem grows_hand (settled : host.Settled) (call : Call) (number : Nat) (bytes : Bytes) :
    host.tree.Grows (host.hand call number bytes).2.tree := by
  unfold Host.hand
  dsimp only
  split
  · exact settled.wellFormed.grows_refl
  · exact settled.wellFormed.grows_append ..

/-- Every call lets the tree grow. -/
theorem grows_answer (settled : host.Settled) (call : Call) :
    host.tree.Grows (host.answer call).2.tree := by
  have formed := settled.wellFormed
  have start := settled.current
  have still := formed.grows_refl
  cases call with
  | makeDirectory path =>
    exact tree_attempt_changing _ still fun after => formed.grows_makeDirectory start
  | readFile path =>
    refine tree_attempt _ still fun reply after had => ?_
    cases content : host.tree.read host.current path <;> simp [content, Except.map] at had
    exact had.2 ▸ still
  | list path =>
    refine tree_attempt _ still fun reply after had => ?_
    cases names : host.tree.names host.current path <;> simp [names, Except.map] at had
    exact had.2 ▸ still
  | createTemporary directory stem => exact settled.grows_createTemporary directory stem
  | fill path content => exact tree_attempt_changing _ still fun after => formed.grows_fill start
  | sync path => exact tree_answer_sync host path ▸ still
  | setMode path mode =>
    exact tree_attempt_changing _ still fun after => formed.grows_setMode start
  | replace source target =>
    exact tree_attempt_changing _ still fun after => formed.grows_replace start
  | unlink path => exact tree_attempt_changing _ still fun after => formed.grows_unlink start
  | openLog path => exact tree_attempt _ still fun reply after => formed.grows_openFile start
  | append number bytes => exact settled.grows_hand ..
  | flush number =>
    unfold Host.answer
    dsimp only
    split
    · exact still
    · exact settled.grows_hand ..
  | closeLog number =>
    have handed := settled.grows_hand (.closeLog number) number []
    exact handed
  | print text =>
    rw [snd_answer_print]
    exact still
  | printError text =>
    rw [snd_answer_printError]
    exact still
  | ask prompt =>
    rw [Host.answer, snd_asking]
    exact still
  | askSecretly prompt =>
    rw [Host.answer, snd_asking]
    exact still
  | _ => exact still

/-- Every call lets the tree grow and leaves the rest as it is. -/
theorem answer (settled : host.Settled) (call : Call) : host.Follows (host.answer call).2 := by
  refine ⟨?_, ?_, ?_, ?_, settled.grows_answer call⟩
  all_goals rw [snd_answer]

/-- Every plan lets the tree grow and leaves the rest as it is. -/
theorem run (settled : host.Settled) {α : Type} (plan : Plan α) :
    host.Follows (plan.run host).2 := by
  induction plan generalizing host with
  | done value => exact settled.follows_refl rfl rfl rfl rfl rfl
  | call request next ih =>
    have follows := settled.answer request
    exact follows.trans (ih _ (follows.settled settled))

end Settled

end Host

end Keyring
