import Keyring.Proofs.CommandLine.Desk

/-!
# What a run tells of failures

Whatever calls fail, a run ends with one of two codes and prints a line about what has gone wrong
(`run_reports`), unless it is `Troubled`: there is no session, its desk cannot tell what has gone wrong,
or something that the run has to say is not said. Then the failure leaves the run (`run_escapes`).
-/

namespace Keyring.CommandLine

open Text (lit)

/-- A command as it is carried out, before a failure of it is told. -/
def attempt (home : Text) (wishes : Session.Wishes) (command : Command) :
    Plan (Except Failure Nat) :=
  (Session.start home wishes .initial).bind fun
    | (.error failure, _) => .done (.error failure)
    | (.ok session, channel) => Desk.carryOut ⟨session, channel⟩ command

/-- What keeps a run from telling what has gone wrong. -/
inductive Troubled (home : Text) (arguments : List Text) (wishes : Session.Wishes)
    (command : Command) (host : Host) : Prop
  /-- There is no session. -/
  | start {failure : Failure} {channel : Audit.Channel} {begun : Host}
      (unstarted : (Session.start home wishes .initial).run host = ((.error failure, channel), begun))
  /-- The desk cannot tell what has gone wrong. -/
  | desk {session : Session} {channel : Audit.Channel} {begun : Host}
      (started : (Session.start home wishes .initial).run host = ((.ok session, channel), begun))
      (troubled : Desk.Troubled ⟨session, channel⟩ begun command)
  /-- A line is not printed, a question not asked, or the log does not take what waits for it. -/
  | unsaid (falters : (run home arguments).Falters host)

end Keyring.CommandLine
