import Keyring.Proofs.Custodian.Outcome
import Keyring.Proofs.Host.Routine
import Keyring.Session

/-!
# A session at work

Starting a session is routine, and it leaves the keychain alone (`start_eq_ok`). A session carries out
a duty of its custodian and then writes the events of it (`run_perform`).
-/

namespace Keyring.Session

open Audit (Channel Log Sink)
open Plan (makes_done makes_request)

variable {α : Type}

/-- Whoever starts a session has not looked at the keychain. -/
theorem start_eq_ok {home : Text} {wishes : Wishes} {channel : Channel} {host : Host}
    {session : Session} (started : ((start home wishes channel).run host).1.1 = .ok session) :
    ∃ path, session.custodian = .ofPath path := by
  unfold start at started
  simp only [Plan.bind_eq_bind, Plan.run_bind] at started
  split at started
  · cases started
  · rename_i path found
    simp only [Plan.run_bind] at started
    split at started
    · cases started
    · cases started
      exact ⟨path, rfl⟩

/-- A session carries out a duty and then writes the events of it. -/
theorem run_perform (duty : Duty α) (session : Session) (channel : Channel) (host : Host) :
    let outcome := duty.outcome { session.custodian with recorded := [] } host
    (session.perform duty channel).run host =
      ((outcome.result, { session with custodian := { outcome.custodian with recorded := [] } }),
        ((channel.writeEach outcome.custodian.recorded).run outcome.host).2) := by
  unfold perform
  simp [Duty.run_perform]

/-! ## Starting -/

theorem makes_variable (name : Text) :
    (Plan.request (.variable name)).Makes (·.isStarting = true) :=
  makes_request rfl

theorem makes_homeNow : homeNow.Makes (·.isStarting = true) :=
  (makes_variable _).bind fun
    | some _ => makes_done _
    | none => makes_request rfl

theorem makes_expandHome (path : Text) : (expandHome path).Makes (·.isStarting = true) := by
  unfold expandHome
  split
  · exact makes_done _
  · split
    · exact makes_done _
    · dsimp only
      split
      · exact makes_homeNow.bind fun
          | some _ => makes_done _
          | none => makes_done _
      · refine Plan.Makes.bind (makes_request rfl) fun home => ?_
        cases home <;> exact makes_done _

theorem makes_file (home : Text) (wanted : Cell) :
    (file home wanted).Makes (·.isStarting = true) := by
  unfold file
  split
  · exact makes_expandHome _
  · refine (makes_variable _).bind fun value => ?_
    split
    · exact makes_expandHome _
    · exact makes_done _

section Makes

variable {kind : Call → Prop} {channel : Channel}

theorem makes_openLog (starts : ∀ call, call.isStarting = true → kind call)
    (closes : (Sink.closeEach channel.sinks).Makes kind) (home : Text) (wanted level : Cell)
    (console : Bool) : (openLog home wanted level console channel).Makes kind := by
  unfold openLog
  split
  · exact makes_done _
  · exact Log.makes_openAt starts closes ..

/-- What is called for when a session is started are settings and what its log needs, and whatever it
takes to let go of the sinks that there are. -/
theorem makes_start (starts : ∀ call, call.isStarting = true → kind call)
    (closes : (Sink.closeEach channel.sinks).Makes kind) (home : Text) (wishes : Wishes) :
    (start home wishes channel).Makes kind := by
  refine ((makes_file home wishes.keychain).mono starts).bind fun path => ?_
  split
  · exact makes_done _
  · exact (makes_openLog starts closes ..).bind fun
      | (.error _, _) => makes_done _
      | (.ok _, _) => makes_done _

end Makes

/-- Where no log is open before, there is nothing to let go of. -/
theorem makes_start_initial (home : Text) (wishes : Wishes) :
    (start home wishes .initial).Makes (·.isStarting = true) := by
  refine makes_start (fun _ => id) ?_ home wishes
  exact makes_done _

/-- Nothing is said while a session is started. -/
theorem isRoutine_start (home : Text) (wishes : Wishes) (channel : Channel) :
    (start home wishes channel).IsRoutine :=
  Plan.Makes.isRoutine <| makes_start (fun _ => Call.isRoutine_of_isStarting)
    ((Sink.makes_closeEach _).mono fun _ => Call.isRoutine_of_isClosing) home wishes

end Keyring.Session
