import Keyring.CommandLine.Commands
import Keyring.Proofs.Host.Routine

/-!
# What is to be said

Whoever prints something or asks somebody may not get to say it, and a log may not take what waits for
it. A plan in which that happens falters (`Plan.Falters`), wherever in its course it is. So of plans that
say something it is shown that they conclude (`Plan.Concludes`): they falter, or end in one of two ways.

What does not falter is said: lines that are printed are all in the output (`concludes_answering`), and a
session that has served a command has closed its log (`run_serve`).
-/

namespace Keyring

open Text (lit)

/-- What a call was to say is not said: nothing is printed or asked, or a log does not take what waits
for it. -/
def Call.isUnsaid : (call : Call) → call.Reply → Bool
  | .print _, .error _ => true
  | .ask _, .unasked _ => true
  | .askSecretly _, .unasked _ => true
  | .flush _, .error _ => true
  | .closeLog _, .error _ => true
  | .flushErrors, .error _ => true
  | _, _ => false

namespace Plan

variable {ε α β : Type} {host : Host}

/-- Something that a plan has to say is not said. -/
def Falters (plan : Plan α) (host : Host) : Prop :=
  ∃ made ∈ plan.trace host, made.1.isUnsaid made.2 = true

instance (plan : Plan α) (host : Host) : Decidable (plan.Falters host) :=
  inferInstanceAs (Decidable (∃ made ∈ plan.trace host, made.1.isUnsaid made.2 = true))

/-- A plan falters, or it ends in one of two ways. -/
def Concludes (plan : Plan (Except ε α)) (host : Host) (succeeded : α → Host → Prop)
    (failed : ε → Host → Prop) : Prop :=
  plan.Falters host ∨ plan.Ends host succeeded failed

theorem falters_request {call : Call} :
    (request call).Falters host ↔ call.isUnsaid (host.answer call).1 = true := by
  unfold Falters trace request
  simp [trace]

/-- A plan that goes on falters in its first part or in the rest. -/
theorem falters_bind {plan : Plan α} {next : α → Plan β} :
    (plan.bind next).Falters host ↔
      plan.Falters host ∨ (next (plan.run host).1).Falters (plan.run host).2 := by
  unfold Falters
  simp only [trace_bind, List.mem_append, or_and_right, exists_or]

namespace Concludes

variable {plan : Plan (Except ε α)} {succeeded : α → Host → Prop} {failed : ε → Host → Prop}

theorem mono {succeeded' : α → Host → Prop} {failed' : ε → Host → Prop}
    (concludes : plan.Concludes host succeeded failed)
    (success : ∀ value after, succeeded value after → succeeded' value after)
    (failure : ∀ fault after, failed fault after → failed' fault after) :
    plan.Concludes host succeeded' failed' :=
  concludes.imp id fun ends => ends.mono success failure

/-- A plan that goes on after success concludes as its first part falters or fails, or as the rest
concludes. -/
theorem onSuccess {next : α → Plan (Except ε β)} {middle : α → Host → Prop}
    {succeeded : β → Host → Prop} (first : plan.Concludes host middle failed)
    (rest : ∀ value after, middle value after → (next value).Concludes after succeeded failed) :
    (plan.onSuccess next).Concludes host succeeded failed := by
  unfold Concludes
  rw [Plan.onSuccess, falters_bind]
  rcases first with falters | first
  · exact .inl (.inl falters)
  · unfold Ends at first ⊢
    rw [run_bind]
    generalize plan.run host = outcome at first ⊢
    obtain ⟨fault | value, after⟩ := outcome
    · exact .inr first
    · exact (rest value after first).imp .inr id

end Concludes

end Plan

/-! ## Hosts that let one speak -/

/-- A call that is to say something. -/
def Call.speaks : Call → Bool
  | .print _ | .ask _ | .askSecretly _ | .flush _ | .closeLog _ | .flushErrors => true
  | _ => false

namespace Host

variable {host : Host}

/-- No call that is to say something is made to fail, and everything can be printed. -/
structure IsFluent (host : Host) : Prop where
  faultless : ∀ count call, call.speaks = true → host.faults count call = none
  printable : ∀ text, host.unprintable text = none

theorem IsFluent.printError?_eq_none (fluent : host.IsFluent) {call : Call}
    (speaks : call.speaks = true) (text : Text) : host.printError? call text = none := by
  unfold printError?
  rw [fluent.printable, fluent.faultless _ _ speaks]
  rfl

/-- Whoever can be asked answers by a line, or breaks off, or says nothing. -/
theorem IsFluent.fst_asking (fluent : host.IsFluent) {call : Call} (speaks : call.speaks = true)
    (prompt : Text) :
    (host.asking call prompt).1 = .silence ∨ (host.asking call prompt).1 = .interrupt ∨
      ∃ text, (host.asking call prompt).1 = .line text := by
  rw [asking, fluent.printError?_eq_none speaks]
  unfold nextAnswer
  dsimp only
  rcases host.answers with _ | ⟨_ | text, others⟩
  · exact .inl rfl
  · exact .inr (.inl rfl)
  · exact .inr (.inr ⟨text, rfl⟩)

/-- Such a host lets every call say what it has to say. -/
theorem IsFluent.isUnsaid_answer (fluent : host.IsFluent) (call : Call) :
    call.isUnsaid (host.answer call).1 = false := by
  have free (count : Nat) {call : Call} (speaks : call.speaks = true) :=
    fluent.faultless count call speaks
  cases call with
  | print text =>
    rw [Host.answer]
    dsimp only
    rw [fluent.printError?_eq_none rfl]
    rfl
  | ask prompt =>
    rcases fluent.fst_asking (show (Call.ask prompt).speaks = true from rfl) prompt with same | same | ⟨text, same⟩
    all_goals exact congrArg (Call.isUnsaid (.ask prompt)) same
  | askSecretly prompt =>
    rcases fluent.fst_asking (show (Call.askSecretly prompt).speaks = true from rfl) prompt with
      same | same | ⟨text, same⟩
    all_goals exact congrArg (Call.isUnsaid (.askSecretly prompt)) same
  | flush number =>
    rw [Host.answer, hand]
    dsimp only
    rw [free _ rfl]
    split <;> rfl
  | closeLog number =>
    rw [Host.answer, hand]
    dsimp only
    rw [free _ rfl]
    rfl
  | flushErrors =>
    rw [Host.answer]
    dsimp only
    rw [free _ rfl]
    rfl
  | _ => rfl

/-- On such a host no plan falters. -/
theorem IsFluent.not_falters (fluent : host.IsFluent) {α : Type} (plan : Plan α) :
    ¬ plan.Falters host := by
  induction plan generalizing host with
  | done value => rintro ⟨made, member, -⟩; cases member
  | call request next ih =>
    rintro ⟨made, member, unsaid⟩
    have after : (host.answer request).2.IsFluent := by
      rw [host.snd_answer request]
      exact ⟨fluent.faultless, fluent.printable⟩
    rcases List.mem_cons.mp member with rfl | member
    · exact Bool.false_ne_true ((fluent.isUnsaid_answer request).symm.trans unsaid)
    · exact ih _ after ⟨made, member, unsaid⟩

end Host

/-! ## Closing a log -/

namespace Audit

/-- A sink that takes what waits for it is let go of. -/
theorem Sink.run_close {sink : Sink} {host : Host} (fluent : ¬ sink.close.Falters host) :
    (sink.close.run host).1 = .ok () := by
  cases sink with
  | console => rfl
  | file number =>
    simp only [close, Plan.bind_eq_bind] at fluent ⊢
    rw [Plan.falters_bind, Plan.falters_bind, Plan.falters_request, Plan.falters_request, not_or,
      not_or] at fluent
    obtain ⟨flushed, closed, -⟩ := fluent
    rw [Plan.run_bind, Plan.run_bind, Plan.run_request, Plan.run_request]
    cases reply : (host.answer (.flush number)).1 with
    | error fault => exact absurd (congrArg (Call.isUnsaid (.flush number)) reply) flushed
    | ok taken =>
      cases reply' : ((host.answer (.flush number)).2.answer (.closeLog number)).1 with
      | error fault => exact absurd (congrArg (Call.isUnsaid (.closeLog number)) reply') closed
      | ok taken => rfl

theorem Sink.run_closeEach {sinks : List Sink} {host : Host}
    (fluent : ¬ (closeEach sinks).Falters host) : ((closeEach sinks).run host).1 = .ok () := by
  induction sinks generalizing host with
  | nil => rfl
  | cons sink sinks ih =>
    rw [closeEach, Plan.bind_eq_bind, Plan.falters_bind, not_or] at fluent
    obtain ⟨first, rest⟩ := fluent
    rw [closeEach, Plan.bind_eq_bind, Plan.run_bind]
    rw [Sink.run_close first] at rest ⊢
    exact ih rest

/-- A channel whose sinks take what waits for them is closed. -/
theorem Channel.run_close {channel : Channel} {host : Host}
    (fluent : ¬ channel.close.Falters host) :
    (channel.close.run host).1 = (.ok (), channel.closed) := by
  unfold close at fluent ⊢
  rw [Plan.bind_eq_bind, Plan.falters_bind, not_or] at fluent
  rw [Plan.bind_eq_bind, Plan.run_bind, Sink.run_closeEach fluent.1]
  rfl

end Audit

/-! ## Commands -/

namespace CommandLine

/-- Lines are printed one after another, and the code is the given one. -/
theorem concludes_answering {how : Failure → Host → Prop} (lines : List Text) (code : Nat)
    (host : Host) :
    (answering lines code).Concludes host (fun answer after => answer = code ∧
      after.output = host.output ++ lines.flatMap (· ++ [10])) how := by
  have line (text : Text) (host : Host) : (printLine text).Concludes host
      (fun _ after => after.output = host.output ++ (text ++ [10])) how := by
    unfold Plan.Concludes printLine
    rw [Plan.bind_eq_bind, Plan.falters_bind, Plan.falters_request]
    unfold Plan.Ends
    rw [Plan.run_bind, Plan.run_request, Host.answer]
    dsimp only
    cases host.printError? (.print (text ++ [10])) (text ++ [10]) with
    | some error => exact .inl (.inl rfl)
    | none => exact .inr rfl
  have printed : (printLines lines).Concludes host
      (fun _ after => after.output = host.output ++ lines.flatMap (· ++ [10])) how := by
    induction lines generalizing host with
    | nil => exact .inr (List.append_nil _).symm
    | cons text lines ih =>
      refine (line text host).onSuccess fun _ middle said => (ih middle).mono ?_ fun _ _ => id
      intro _ after rest
      rw [rest, said, List.flatMap_cons, List.append_assoc]
  exact printed.onSuccess fun _ _ said => .inr ⟨rfl, said⟩

/-- A session that serves a command, and has all said, has the result of the command settled, prints
nothing more and closes its log. -/
theorem run_serve {session : Session} {channel : Audit.Channel} {command : Command} {host : Host}
    (fluent : ¬ (serve session channel command).Falters host) :
    let settling := (Desk.carryOut ⟨session, channel⟩ command).bind settle
    ¬ settling.Falters host ∧
      ∃ later, (serve session channel command).run host = ((settling.run host).1, later) ∧
        later.output = (settling.run host).2.output := by
  intro settling
  unfold serve at fluent ⊢
  simp only [Plan.bind_eq_bind] at fluent ⊢
  rw [← Plan.bind_assoc] at fluent ⊢
  obtain ⟨settled, closing⟩ := not_or.mp (Plan.falters_bind.not.mp fluent)
  have closed := Audit.Channel.run_close (not_or.mp (Plan.falters_bind.not.mp closing)).1
  have quiet := channel.isRoutine_close.run_keeps (settling.run host).2
  refine ⟨settled, (channel.close.run (settling.run host).2).2, ?_, quiet.output⟩
  rw [Plan.run_bind, Plan.run_bind, closed]
  rfl

section Run

variable {home : Text} {arguments : List Text} {wishes : Session.Wishes} {command : Command}
  {session : Session} {channel : Audit.Channel} {host begun : Host}

/-- The program that starts a session, and has all said, has the result of the command settled and
prints nothing more. -/
theorem run_of_started (parsed : Options.parse arguments = .ok ⟨wishes, some command⟩)
    (started : (Session.start home wishes .initial).run host = ((.ok session, channel), begun))
    (fluent : ¬ (run home arguments).Falters host) :
    let settling := (Desk.carryOut ⟨session, channel⟩ command).bind settle
    ¬ settling.Falters begun ∧
      ∃ later, (run home arguments).run host = ((settling.run begun).1, later) ∧
        later.output = (settling.run begun).2.output := by
  unfold run at fluent ⊢
  rw [parsed] at fluent ⊢
  dsimp only at fluent ⊢
  rw [Plan.bind_eq_bind, Plan.falters_bind, not_or] at fluent
  have serving := fluent.2
  rw [started] at serving
  rw [Plan.bind_eq_bind, Plan.run_bind, started]
  exact run_serve serving

/-- If the command succeeds the program has its code and prints nothing more. -/
theorem run_of_concludes (parsed : Options.parse arguments = .ok ⟨wishes, some command⟩)
    (started : (Session.start home wishes .initial).run host = ((.ok session, channel), begun))
    (fluent : ¬ (run home arguments).Falters host) {succeeded : Nat → Host → Prop}
    (concludes : (Desk.carryOut ⟨session, channel⟩ command).Concludes begun succeeded
      fun _ _ => False) :
    ∃ code after later, succeeded code after ∧ (run home arguments).run host = (.ok code, later) ∧
      later.output = after.output := by
  obtain ⟨settled, later, ran, same⟩ := run_of_started parsed started fluent
  obtain ⟨carried, -⟩ := not_or.mp (Plan.falters_bind.not.mp settled)
  have ends := concludes.resolve_left carried
  unfold Plan.Ends at ends
  rw [Plan.run_bind] at ran same
  generalize (Desk.carryOut ⟨session, channel⟩ command).run begun = outcome at ends ran same
  obtain ⟨failure | code, after⟩ := outcome
  · exact ends.elim
  · exact ⟨code, after, later, ends, ran, same⟩

end Run

end CommandLine

end Keyring
