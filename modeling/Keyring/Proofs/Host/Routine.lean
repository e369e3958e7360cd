import Keyring.Audit.Log
import Keyring.Keychain
import Keyring.Proofs.Host.Course

/-!
# Routine

Most calls are routine: no new credential is asked for, and whoever uses the program is told and asked
nothing. A plan of such calls alone is routine itself (`Plan.IsRoutine`). It neither prints nor takes
an answer (`Plan.IsRoutine.run_keeps`), whatever is replied to it.

Reading and writing keychains, opening logs and sending events are routine. The calls that are made
before a log is open, for an event, and to show something are kinds of their own (`Call.isStarting`,
`Call.isTelling`, `Call.isShowing`).
-/

namespace Keyring

/-- A call that does not ask for a new credential and has nothing to do with whoever uses the
program. -/
def Call.isRoutine : Call → Bool
  | .issue | .print _ | .ask _ | .askSecretly _ => false
  | _ => true

/-- A call that is made before any log is open: for a directory, a log, a setting or the time. -/
def Call.isStarting : Call → Bool
  | .makeDirectory _ | .isDirectory _ | .setMode _ _ | .openLog _ | .variable _ | .homeOf _
  | .depth | .now => true
  | _ => false

/-- A call that is made for an event. -/
def Call.isTelling : Call → Bool
  | .now | .append _ _ | .printError _ => true
  | _ => false

/-- A call that is made to close a log. -/
def Call.isClosing : Call → Bool
  | .flush _ | .closeLog _ => true
  | _ => false

/-- A call that is made to show something: to whoever uses the program, or in a log until that is
closed. -/
def Call.isShowing : Call → Bool
  | .print _ => true
  | call => call.isTelling || call.isClosing

theorem Call.isShowing_of_isTelling {call : Call} (telling : call.isTelling = true) :
    call.isShowing = true := by
  cases call <;> first | rfl | cases telling

theorem Call.isShowing_of_isClosing {call : Call} (closing : call.isClosing = true) :
    call.isShowing = true := by
  cases call <;> first | rfl | cases closing

theorem Call.isRoutine_of_isStarting {call : Call} (starting : call.isStarting = true) :
    call.isRoutine = true := by
  cases call <;> first | rfl | cases starting

theorem Call.isRoutine_of_isTelling {call : Call} (telling : call.isTelling = true) :
    call.isRoutine = true := by
  cases call <;> first | rfl | cases telling

theorem Call.isRoutine_of_isClosing {call : Call} (closing : call.isClosing = true) :
    call.isRoutine = true := by
  cases call <;> first | rfl | cases closing

namespace Host

variable {host : Host}

/-- What has been said to whoever uses the program and what they have still to say is the same on two
hosts. -/
structure SameTalk (host other : Host) : Prop where
  output : other.output = host.output
  answers : other.answers = host.answers

theorem SameTalk.refl (host : Host) : host.SameTalk host :=
  ⟨rfl, rfl⟩

theorem SameTalk.trans {middle after : Host} (first : host.SameTalk middle)
    (next : middle.SameTalk after) : host.SameTalk after :=
  ⟨next.output.trans first.output, next.answers.trans first.answers⟩

theorem sameTalk_attempt {α : Type} (call : Call) (paths : List Text)
    (effect : Tree → Except Trouble (α × Tree)) :
    host.SameTalk (host.attempt call paths effect).2 := by
  rw [snd_attempt]
  exact ⟨rfl, rfl⟩

theorem sameTalk_hand (host : Host) (call : Call) (number : Nat) (bytes : Bytes) :
    host.SameTalk (host.hand call number bytes).2 := by
  rw [snd_hand]
  exact ⟨rfl, rfl⟩

/-- No routine call prints anything or takes an answer. -/
theorem sameTalk_answer {call : Call} (routine : call.isRoutine = true) :
    host.SameTalk (host.answer call).2 := by
  cases call with
  | createTemporary directory stem =>
    unfold answer
    dsimp only
    split
    · exact ⟨rfl, rfl⟩
    · split
      · exact ⟨rfl, rfl⟩
      · rw [snd_createTemporary]
        exact ⟨rfl, rfl⟩
  | makeDirectory path => exact sameTalk_attempt ..
  | readFile path => exact sameTalk_attempt ..
  | list path => exact sameTalk_attempt ..
  | fill path content => exact sameTalk_attempt ..
  | sync path => exact sameTalk_attempt ..
  | setMode path mode => exact sameTalk_attempt ..
  | replace source target => exact sameTalk_attempt ..
  | unlink path => exact sameTalk_attempt ..
  | openLog path => exact sameTalk_attempt ..
  | isDirectory path => exact .refl host
  | isThere path => exact .refl host
  | append number bytes => exact sameTalk_hand ..
  | flush number =>
    unfold answer
    dsimp only
    split
    · exact .refl host
    · exact sameTalk_hand ..
  | closeLog number =>
    obtain ⟨output, answers⟩ := host.sameTalk_hand (.closeLog number) number []
    exact ⟨output, answers⟩
  | «variable» name => exact .refl host
  | depth => exact .refl host
  | homeOf owner => exact .refl host
  | now => exact .refl host
  | printError text =>
    rw [snd_answer_printError]
    exact ⟨rfl, rfl⟩
  | flushErrors => exact ⟨rfl, rfl⟩
  | issue => cases routine
  | print text => cases routine
  | ask prompt => cases routine
  | askSecretly prompt => cases routine

end Host

/-! ## Plans -/

namespace Plan

variable {ε α β : Type}

/-- A plan that makes no calls but routine ones, whatever is replied to it. -/
def IsRoutine : Plan α → Prop
  | .done _ => True
  | .call request next => request.isRoutine = true ∧ ∀ reply, (next reply).IsRoutine

theorem isRoutine_done (value : α) : (done value).IsRoutine :=
  trivial

theorem isRoutine_request {call : Call} (routine : call.isRoutine = true) :
    (request call).IsRoutine :=
  ⟨routine, fun _ => trivial⟩

namespace IsRoutine

theorem bind {plan : Plan α} {next : α → Plan β} (first : plan.IsRoutine)
    (rest : ∀ value, (next value).IsRoutine) : (plan.bind next).IsRoutine := by
  induction plan with
  | done value => exact rest value
  | call request reply ih => exact ⟨first.1, fun answer => ih answer (first.2 answer)⟩

theorem onSuccess {plan : Plan (Except ε α)} {next : α → Plan (Except ε β)}
    (first : plan.IsRoutine) (rest : ∀ value, (next value).IsRoutine) :
    (plan.onSuccess next).IsRoutine :=
  first.bind fun
    | .ok value => rest value
    | .error _ => isRoutine_done _

/-- A routine plan prints nothing and takes no answer. -/
theorem run_keeps {plan : Plan α} (routine : plan.IsRoutine) (host : Host) :
    host.SameTalk (plan.run host).2 := by
  induction plan generalizing host with
  | done value => exact .refl host
  | call request reply ih =>
    exact (Host.sameTalk_answer routine.1).trans (ih _ (routine.2 _) _)

end IsRoutine

end Plan

/-- A plan that makes routine calls is routine. -/
theorem Plan.Makes.isRoutine {α : Type} {plan : Plan α}
    (makes : plan.Makes (·.isRoutine = true)) : plan.IsRoutine := by
  induction plan with
  | done value => trivial
  | call request reply ih => exact ⟨makes.1, fun answer => ih answer (makes.2 answer)⟩

open Plan (isRoutine_done isRoutine_request makes_done makes_request)

/-! ## Directories, keychains and logs -/

namespace Directory

variable {kind : Call → Prop}

/-- To make sure of a directory takes two kinds of calls. -/
theorem makes_makeUnlessThere {path : Text} (made : kind (.makeDirectory path))
    (looked : kind (.isDirectory path)) {otherwise : SystemError → Plan (Tried Unit)}
    (makes : ∀ error, (otherwise error).Makes kind) :
    (makeUnlessThere path otherwise).Makes kind := by
  refine (makes_request made).bind fun
    | .ok () => makes_done _
    | .error (.badPath fault) => makes_done _
    | .error (.system error) => ?_
  dsimp only
  split
  · exact makes error
  · exact (makes_request looked).bind fun
      | .ok true => makes_done _
      | .ok false => makes_done _
      | .error fault => makes_done _

theorem makes_ensureNames (made : ∀ path, kind (.makeDirectory path))
    (looked : ∀ path, kind (.isDirectory path)) (root : Text) (depth : Nat) (names : List Text) :
    (ensureNames root depth names).Makes kind := by
  induction depth generalizing names with
  | zero => exact makes_done _
  | succ depth ih =>
    cases names with
    | nil => exact makes_makeUnlessThere (made _) (looked _) fun _ => makes_done _
    | cons name above =>
      refine makes_makeUnlessThere (made _) (looked _) fun _ => (ih above).onSuccess fun _ => ?_
      exact makes_makeUnlessThere (made _) (looked _) fun _ => makes_done _

theorem makes_ensure (made : ∀ path, kind (.makeDirectory path))
    (looked : ∀ path, kind (.isDirectory path)) (asked : kind .depth) (path : Path) :
    (ensure path).Makes kind :=
  (makes_request asked).bind fun _ => makes_ensureNames made looked ..

end Directory

namespace KeychainFile

theorem isRoutine_read (name : Text) : (read name).IsRoutine := by
  refine (isRoutine_request rfl).bind fun
    | .ok content => isRoutine_done _
    | .error (.badPath fault) => isRoutine_done _
    | .error (.system error) => ?_
  dsimp only
  split <;> exact isRoutine_done _

section Makes

variable {kind : Call → Prop}

theorem makes_createTemporary (made : ∀ path, kind (.makeDirectory path))
    (looked : ∀ path, kind (.isDirectory path)) (asked : kind .depth)
    (created : ∀ directory stem, kind (.createTemporary directory stem)) (name : Text) :
    (createTemporary name).Makes kind :=
  (Directory.makes_ensure made looked asked _).onSuccess fun _ => makes_request (created ..)

theorem makes_fillAndReplace (name temporary : Text) (content : Bytes)
    (filled : kind (.fill temporary content)) (synced : kind (.sync temporary))
    (set : kind (.setMode temporary mode)) (moved : kind (.replace temporary name)) :
    (fillAndReplace name temporary content).Makes kind :=
  (makes_request filled).onSuccess fun _ =>
    (makes_request synced).onSuccess fun _ =>
      (makes_request set).onSuccess fun _ => makes_request moved

end Makes

theorem isRoutine_createTemporary (name : Text) : (createTemporary name).IsRoutine := by
  refine Plan.Makes.isRoutine
    (makes_createTemporary (fun _ => ?_) (fun _ => ?_) ?_ (fun _ _ => ?_) name)
  all_goals rfl

theorem isRoutine_fillAndReplace (name temporary : Text) (content : Bytes) :
    (fillAndReplace name temporary content).IsRoutine :=
  Plan.Makes.isRoutine (makes_fillAndReplace name temporary content rfl rfl rfl rfl)

theorem isRoutine_removeTemporary (name temporary : Text) (error : SystemError) :
    (removeTemporary name temporary error).IsRoutine := by
  refine (isRoutine_request rfl).bind fun
    | .ok () => isRoutine_done _
    | .error (.badPath fault) => isRoutine_done _
    | .error (.system trouble) => ?_
  dsimp only
  split <;> exact isRoutine_done _

theorem isRoutine_write (name : Text) (content : Bytes) : (write name content).IsRoutine := by
  refine (isRoutine_createTemporary name).bind fun
    | .error fault => isRoutine_done _
    | .ok temporary => (isRoutine_fillAndReplace name temporary content).bind fun
      | .ok () => isRoutine_done _
      | .error (.badPath fault) => isRoutine_done _
      | .error (.system error) => (isRoutine_removeTemporary name temporary error).bind fun _ =>
        isRoutine_done _

end KeychainFile

namespace Keychain

theorem isRoutine_load (name : Text) : (load name).IsRoutine :=
  (KeychainFile.isRoutine_read name).onSuccess fun _ => isRoutine_done _

theorem isRoutine_save (keychain : Keychain) : keychain.save.IsRoutine := by
  unfold save holdingThrough
  refine Plan.IsRoutine.bind ?_ fun _ => isRoutine_done _
  dsimp only
  split
  · exact isRoutine_done _
  · exact (KeychainFile.isRoutine_write _ _).bind fun _ => isRoutine_done _

end Keychain

namespace Audit

namespace Sink

theorem makes_writeEach (line : Text) (sinks : List Sink) :
    (writeEach line sinks).Makes (·.isTelling = true) := by
  induction sinks with
  | nil => exact makes_done _
  | cons sink sinks ih =>
    refine Plan.Makes.bind ?_ fun _ => ih
    cases sink with
    | console => exact ⟨rfl, fun _ => makes_done _⟩
    | file number =>
      unfold write
      dsimp only
      split
      · exact ⟨rfl, fun _ => makes_done _⟩
      · exact makes_done _

variable {kind : Call → Prop}

theorem makes_flushEach (flushed : ∀ number, kind (.flush number)) (shown : kind .flushErrors)
    (sinks : List Sink) : (flushEach sinks).Makes kind := by
  induction sinks with
  | nil => exact makes_done _
  | cons sink sinks ih =>
    refine Plan.Makes.onSuccess ?_ fun _ => ih
    cases sink with
    | console => exact makes_request shown
    | file number => exact makes_request (flushed number)

theorem isRoutine_flushEach (sinks : List Sink) : (flushEach sinks).IsRoutine := by
  refine Plan.Makes.isRoutine (makes_flushEach (fun _ => ?_) ?_ sinks)
  all_goals rfl

/-- To let go of sinks takes what waits for files, and closes these. -/
theorem makes_closeEach (sinks : List Sink) : (closeEach sinks).Makes (·.isClosing = true) := by
  induction sinks with
  | nil => exact makes_done _
  | cons sink sinks ih =>
    refine Plan.Makes.bind ?_ fun
      | .ok () => ih
      | .error fault => makes_done _
    cases sink with
    | console => exact makes_done _
    | file number =>
      refine ⟨rfl, fun flushed => ⟨rfl, fun closed => ?_⟩⟩
      cases closed <;> exact makes_done _

end Sink

namespace Channel

/-- What is called for when an event is sent is the time, the end of a file, and the console. -/
theorem makes_write (channel : Channel) (event : Event) :
    (channel.write event).Makes (·.isTelling = true) := by
  unfold write
  split
  · exact makes_done _
  · split
    · split
      · exact ⟨rfl, fun _ => makes_done _⟩
      · exact makes_done _
    · exact ⟨rfl, fun _ => Sink.makes_writeEach _ _⟩

theorem makes_writeEach (channel : Channel) (events : List Event) :
    (channel.writeEach events).Makes (·.isTelling = true) := by
  induction events with
  | nil => exact makes_done _
  | cons event events ih => exact (channel.makes_write event).bind fun _ => ih

theorem isRoutine_writeEach (channel : Channel) (events : List Event) :
    (channel.writeEach events).IsRoutine :=
  ((channel.makes_writeEach events).mono fun _ => Call.isRoutine_of_isTelling).isRoutine

/-- Whatever calls it takes to let go of the sinks of a channel, it takes these to close it. -/
theorem makes_close {kind : Call → Prop} {channel : Channel}
    (makes : (Sink.closeEach channel.sinks).Makes kind) : channel.close.Makes kind :=
  makes.bind fun
    | .ok () => makes_done _
    | .error _ => makes_done _

theorem isRoutine_close (channel : Channel) : channel.close.IsRoutine :=
  (makes_close ((Sink.makes_closeEach channel.sinks).mono fun _ =>
    Call.isRoutine_of_isClosing)).isRoutine

end Channel

namespace Log

/-- What is called for when a log is opened is its directory, the time and the file of the day, and
whatever it takes to let go of the sinks that there are. -/
theorem makes_openAt {kind : Call → Prop} (starts : ∀ call, call.isStarting = true → kind call)
    {channel : Channel} (closes : (Sink.closeEach channel.sinks).Makes kind) (directory : Text)
    (level : Cell) (console : Bool) : (openAt directory level console channel).Makes kind := by
  refine (Directory.makes_ensure (fun _ => starts _ rfl) (fun _ => starts _ rfl) (starts _ rfl)
    _).bind fun
      | .error fault => makes_done _
      | .ok () => (makes_request (starts _ rfl)).bind fun reply => ?_
  split
  · exact makes_done _
  · split
    · exact makes_done _
    next level _ =>
      have closing : ({ channel with level := level } : Channel).close.Makes kind :=
        Channel.makes_close closes
      unfold turn
      refine closing.bind fun (closed, left) => ?_
      cases closed with
      | error failure => exact makes_done _
      | ok =>
        refine (makes_request (starts .now rfl)).bind fun moment => ?_
        refine (makes_request (starts (.openLog _) rfl)).bind fun opened => ?_
        cases opened <;> exact makes_done _

end Log

end Audit

end Keyring
