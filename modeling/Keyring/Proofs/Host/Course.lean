import Keyring.Proofs.Host.Upkeep

/-!
# The course of a plan

What others can see of a plan are the hosts between its calls (`Plan.hosts`). Of a plan that goes on
they see the first part and then the rest (`mem_hosts_bind`), so what holds throughout is shown part
by part (`Passes`). The calls that a plan has made, with the replies, are its `trace`, and whatever is
replied to it, it makes none but certain calls (`Makes`).
-/

namespace Keyring

namespace Plan

variable {α β ε : Type} {host later : Host}

@[simp]
theorem hosts_request (call : Call) (host : Host) :
    (request call).hosts host = [host, (host.answer call).2] := rfl

/-- A host on the way of a plan that goes on is one of the first part or of the rest. -/
theorem mem_hosts_bind {plan : Plan α} {next : α → Plan β}
    (member : later ∈ (plan.bind next).hosts host) :
    later ∈ plan.hosts host ∨ later ∈ (next (plan.run host).1).hosts (plan.run host).2 := by
  induction plan generalizing host with
  | done value => exact .inr member
  | call request reply ih =>
    rcases List.mem_cons.mp member with rfl | member
    · exact .inl (List.mem_cons_self ..)
    · exact (ih _ member).imp (.tail _) id

/-- The last host of a plan is one on its way. -/
theorem run_mem_hosts (plan : Plan α) (host : Host) : (plan.run host).2 ∈ plan.hosts host := by
  induction plan generalizing host with
  | done value => exact List.mem_singleton.mpr rfl
  | call request reply ih => exact .tail _ (ih _ _)

/-- Changing the value of a plan does not change its course. -/
theorem hosts_bind_done (plan : Plan α) (change : α → β) (host : Host) :
    (plan.bind fun value => done (change value)).hosts host = plan.hosts host := by
  induction plan generalizing host with
  | done value => rfl
  | call request reply ih => exact congrArg (host :: ·) (ih _ _)

/-! ## What the calls were -/

/-- The calls of a plan, each with the reply to it. -/
def trace {α : Type} : Plan α → Host → List (Σ call : Call, call.Reply)
  | .done _, _ => []
  | .call request next, host =>
    ⟨request, (host.answer request).1⟩ ::
      (next (host.answer request).1).trace (host.answer request).2

/-- A plan that goes on makes the calls of its first part and then those of the rest. -/
theorem trace_bind (plan : Plan α) (next : α → Plan β) (host : Host) :
    (plan.bind next).trace host =
      plan.trace host ++ (next (plan.run host).1).trace (plan.run host).2 := by
  induction plan generalizing host with
  | done value => rfl
  | call request reply ih => exact congrArg (_ :: ·) (ih _ _)

/-- Changing the value of a plan does not change its calls. -/
theorem trace_bind_done (plan : Plan α) (change : α → β) (host : Host) :
    (plan.bind fun value => done (change value)).trace host = plan.trace host :=
  (trace_bind plan _ host).trans (List.append_nil _)

/-- The last call of the rest of a plan is the last call of the plan. -/
theorem getLast?_trace_bind {plan : Plan α} {next : α → Plan β} {last : Σ call : Call, call.Reply}
    (rest : ((next (plan.run host).1).trace (plan.run host).2).getLast? = some last) :
    ((plan.bind next).trace host).getLast? = some last := by
  rw [trace_bind, List.getLast?_append, rest, Option.some_or]

/-- A plan that makes no calls but those of a kind, whatever is replied to it. -/
def Makes (kind : Call → Prop) : Plan α → Prop
  | .done _ => True
  | .call request next => kind request ∧ ∀ reply, (next reply).Makes kind

section Makes

variable {kind : Call → Prop}

theorem makes_done (value : α) : (done value).Makes kind :=
  trivial

theorem makes_request {call : Call} (made : kind call) : (request call).Makes kind :=
  ⟨made, fun _ => trivial⟩

namespace Makes

theorem bind {plan : Plan α} {next : α → Plan β} (first : plan.Makes kind)
    (rest : ∀ value, (next value).Makes kind) : (plan.bind next).Makes kind := by
  induction plan with
  | done value => exact rest value
  | call request reply ih => exact ⟨first.1, fun answer => ih answer (first.2 answer)⟩

theorem onSuccess {plan : Plan (Except ε α)} {next : α → Plan (Except ε β)}
    (first : plan.Makes kind) (rest : ∀ value, (next value).Makes kind) :
    (plan.onSuccess next).Makes kind :=
  first.bind fun
    | .ok value => rest value
    | .error _ => makes_done _

/-- What makes calls of one kind makes calls of every wider kind. -/
theorem mono {wider : Call → Prop} {plan : Plan α} (makes : plan.Makes kind)
    (within : ∀ call, kind call → wider call) : plan.Makes wider := by
  induction plan with
  | done value => trivial
  | call request reply ih => exact ⟨within _ makes.1, fun answer => ih answer (makes.2 answer)⟩

/-- Where each call of a kind is replied to alike and keeps two hosts related, a plan of such calls
has one value on both and keeps them related. -/
theorem run_related {related : Host → Host → Prop}
    (each : ∀ {host other : Host} {call : Call}, kind call → related host other →
      (other.answer call).1 = (host.answer call).1 ∧
        related (host.answer call).2 (other.answer call).2)
    {plan : Plan α} (makes : plan.Makes kind) {other : Host} (here : related host other) :
    (plan.run other).1 = (plan.run host).1 ∧ related (plan.run host).2 (plan.run other).2 := by
  induction plan generalizing host other with
  | done value => exact ⟨rfl, here⟩
  | call request reply ih =>
    obtain ⟨same, after⟩ := each makes.1 here
    rw [run_call, run_call, same]
    exact ih _ (makes.2 _) after

/-- All calls that a plan has made are of its kind. -/
theorem of_mem_trace {plan : Plan α} (makes : plan.Makes kind) {made : Σ call : Call, call.Reply}
    (member : made ∈ plan.trace host) : kind made.1 := by
  induction plan generalizing host with
  | done value => cases member
  | call request reply ih =>
    rcases List.mem_cons.mp member with rfl | member
    · exact makes.1
    · exact ih _ (makes.2 _) member

end Makes

end Makes

/-! ## What holds throughout -/

/-- Whatever is true of a host before a plan is true of every host on the way of the plan. -/
def Preserves (plan : Plan α) (holds : Host → Prop) : Prop :=
  ∀ host, holds host → ∀ later ∈ plan.hosts host, holds later

namespace Preserves

variable {holds : Host → Prop}

theorem done (value : α) : (Plan.done value).Preserves holds := by
  intro host before later member
  rw [List.mem_singleton.mp member]
  exact before

theorem request {call : Call} (answers : ∀ host, holds host → holds (host.answer call).2) :
    (Plan.request call).Preserves holds := by
  intro host before later member
  rw [hosts_request, List.mem_pair] at member
  rcases member with rfl | rfl
  · exact before
  · exact answers host before

theorem bind {plan : Plan α} {next : α → Plan β} (first : plan.Preserves holds)
    (rest : ∀ value, (next value).Preserves holds) : (plan.bind next).Preserves holds := by
  intro host before later member
  rcases mem_hosts_bind member with member | member
  · exact first host before later member
  · exact rest _ _ (first host before _ (plan.run_mem_hosts host)) later member

theorem onSuccess {plan : Plan (Except ε α)} {next : α → Plan (Except ε β)}
    (first : plan.Preserves holds) (rest : ∀ value, (next value).Preserves holds) :
    (plan.onSuccess next).Preserves holds :=
  first.bind fun
    | .ok value => rest value
    | .error _ => done _

end Preserves

/-- A plan that may fail ends in one of two ways, and something is true of every host on its way. -/
structure Passes (plan : Plan (Except ε α)) (host : Host) (during : Host → Prop)
    (succeeded : α → Host → Prop) (failed : ε → Host → Prop) : Prop where
  during : ∀ later ∈ plan.hosts host, during later
  ends : plan.Ends host succeeded failed

namespace Passes

variable {during : Host → Prop} {succeeded : β → Host → Prop} {failed : ε → Host → Prop}

/-- A plan of one call passes if something is true before the call and after it. -/
theorem of_call {plan : Plan (Except ε β)} (one : plan.hosts host = [host, (plan.run host).2])
    (before : during host)
    (success : ∀ value, (plan.run host).1 = .ok value →
      during (plan.run host).2 ∧ succeeded value (plan.run host).2)
    (failure : ∀ fault, (plan.run host).1 = .error fault →
      during (plan.run host).2 ∧ failed fault (plan.run host).2) :
    plan.Passes host during succeeded failed := by
  refine ⟨fun later member => ?_, .of_run (fun value done => (success value done).2)
    fun fault failed => (failure fault failed).2⟩
  rw [one, List.mem_pair] at member
  rcases member with rfl | rfl
  · exact before
  · cases result : (plan.run host).1 with
    | ok value => exact (success value result).1
    | error fault => exact (failure fault result).1

/-- A plan that goes on passes if something is true throughout its first part and the rest passes. -/
theorem bind {plan : Plan α} {next : α → Plan (Except ε β)}
    (first : ∀ later ∈ plan.hosts host, during later)
    (rest : (next (plan.run host).1).Passes (plan.run host).2 during succeeded failed) :
    (plan.bind next).Passes host during succeeded failed where
  during := by
    intro later member
    rcases mem_hosts_bind member with member | member
    · exact first later member
    · exact rest.during later member
  ends := by
    have ends := rest.ends
    unfold Ends at ends ⊢
    rwa [Plan.run_bind]

/-- A plan that does nothing passes. -/
theorem done {value : Except ε β} (holds : during host)
    (ends : (Plan.done value).Ends host succeeded failed) :
    (Plan.done value).Passes host during succeeded failed :=
  ⟨fun _ member => List.mem_singleton.mp member ▸ holds, ends⟩

/-- A plan that goes on after success passes if both of its parts do. -/
theorem onSuccess {plan : Plan (Except ε α)} {next : α → Plan (Except ε β)}
    {middle : α → Host → Prop} (first : plan.Passes host during middle failed)
    (rest : ∀ value after, middle value after → (next value).Passes after during succeeded failed) :
    (plan.onSuccess next).Passes host during succeeded failed := by
  have last := first.during _ (plan.run_mem_hosts host)
  have ends := first.ends
  refine .bind first.during ?_
  unfold Ends at ends
  generalize plan.run host = outcome at ends last ⊢
  obtain ⟨fault | value, after⟩ := outcome
  · exact .done last ends
  · exact rest value after ends

end Passes

end Plan

end Keyring
