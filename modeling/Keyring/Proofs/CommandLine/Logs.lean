import Keyring.Proofs.Audit.Newest
import Keyring.Proofs.CommandLine.Saying
import Keyring.Proofs.Host.Calm
import Keyring.Proofs.Session.Work

/-!
# Showing a log

Whoever asks for some lines of a log gets the last lines of its newest file, and the program prints
them (`shows_last_lines`). To ask for none is to ask for all (`shows_last_lines_all`).
-/

namespace Keyring.CommandLine

open Text (lit)
open Audit (Channel Log)

/-- What is printed of some lines of a log. -/
def page (lines : List Text) : Text :=
  if lines.isEmpty then lit "No logs available.\n"
  else lit "Recent audit logs:\n\n" ++ lines.flatMap fun line => line.stripEnd ++ [10]

/-- The last lines of a log are printed without the blanks at their ends. -/
theorem concludes_logs_of_recent {how : Failure → Host → Prop} {desk : Desk} {count : Cell}
    {host after : Host} {lines : List Text}
    (read : (desk.session.log.recent count desk.channel).run host = (.ok lines, after)) :
    (desk.logs count).Concludes host (fun code last => code = success ∧
      last.output = after.output ++ page lines) how := by
  have found : (desk.session.log.recent count desk.channel).Concludes host
      (fun value later => value = lines ∧ later = after) how := by
    refine .inr ?_
    unfold Plan.Ends
    rw [read]
    exact ⟨rfl, rfl⟩
  refine found.onSuccess fun value later same => ?_
  rw [same.1, same.2]
  unfold page
  split
  · exact concludes_answering [lit "No logs available."] success after
  · have printed : Plan.Concludes _ after _ how :=
      concludes_answering (lit "Recent audit logs:" :: [] :: lines.map Text.stripEnd) success after
    simp only [List.flatMap_cons, List.flatMap_map] at printed
    exact printed

variable {log : Log} {channel : Channel} {host ready : Host} {name text : Text}

/-- Where the newest file of a log holds text, the lines that are read back are the last lines of the
text, in their order. They are as many as are wanted and there; but where none are wanted they are all.
The program that is started for as many prints these lines, without the blanks at their ends, if all is
said that it has to say. -/
theorem shows_last_lines (newest : log.Newest channel host name (Utf8.octets text) ready)
    (encodable : Utf8.isEncodable text = true) (count : Nat) :
    ∃ before shown, Text.lines text = before ++ shown ∧
      shown.length =
        (if count = 0 then (Text.lines text).length else min count (Text.lines text).length) ∧
      ((log.recent (.ofInt count) channel).run host).1 = .ok shown ∧
      ∀ {home : Text} {arguments : List Text} {wishes : Session.Wishes} {custodian : Custodian}
        {earlier : Host},
        Options.parse arguments = .ok ⟨wishes, some (.logs (.ofInt count))⟩ →
        (Session.start home wishes .initial).run earlier =
          ((.ok ⟨custodian, log⟩, channel), host) →
        ¬ (run home arguments).Falters earlier →
        ∃ after, (run home arguments).run earlier = (.ok success, after) ∧
          after.output = earlier.output ++ page shown := by
  obtain ⟨before, whole, many⟩ := Log.lastLines_ofNat count (Text.lines text)
  have recent := newest.recent_eq encodable count
  refine ⟨before, _, whole, many, recent, ?_⟩
  intro home arguments wishes custodian earlier parsed started fluent
  have quiet : earlier.SameTalk ((log.recent (.ofInt count) channel).run host).2 := by
    have begun := (Session.isRoutine_start home wishes .initial).run_keeps earlier
    rw [started] at begun
    exact begun.trans ((Log.isRoutine_recent log (.ofInt count) channel).run_keeps host)
  obtain ⟨_, _, after, ⟨rfl, printed⟩, ran, same⟩ := run_of_concludes parsed started fluent
    (concludes_logs_of_recent (Prod.ext recent rfl))
  exact ⟨after, ran, same.trans (printed.trans (congrArg (· ++ _) quiet.output))⟩

/-- A log has one file of three lines, whose ends are different. Two of them are wanted. -/
theorem shows_last_lines_two :
    let day := lit "audit_20260102.log"
    let tree := (Tree.empty.set [[100]] (.directory 0o700)).set [[100], Name.ofText day]
      (.file 0 0o644 (Utf8.octets (lit "a\nb \r\nc")))
    let earlier := { Host.calm { tree with nextNumber := 1 } with moment := .ofFields 2026 1 2 3 4 5 }
    let wishes : Session.Wishes := ⟨lit "k", lit "d", false⟩
    let started := (Session.start [] wishes .initial).run earlier
    let log : Log := ⟨Path.ofText (lit "d")⟩
    let channel := started.1.2
    let ready := ((Audit.Sink.flushEach channel.sinks).run
      (started.2.answer (.list log.directory.toText)).2).2
    let arguments := [lit "-k", lit "k", lit "--log-dir", lit "d", lit "logs", lit "-n", lit "2"]
    log.Newest channel started.2 day (Utf8.octets (lit "a\nb \r\nc")) ready ∧
      ((log.recent (.ofInt 2) channel).run started.2).1 = .ok [lit "b \n", lit "c"] ∧
      ¬ (run [] arguments).Falters earlier ∧
      ∃ after, (run [] arguments).run earlier = (.ok success, after) ∧
        after.output = lit "Recent audit logs:\n\nb\nc\n" := by
  intro day tree earlier wishes started log channel ready arguments
  have pairs {α β : Type} (pair : α × β) {value : α} (first : pair.1 = value) :
      pair = (value, pair.2) := by
    subst first
    rfl
  have flushed : ((Audit.Sink.flushEach channel.sinks).run
      (started.2.answer (.list log.directory.toText)).2).1 = .ok () := by decide +kernel
  have newest : log.Newest channel started.2 day (Utf8.octets (lit "a\nb \r\nc")) ready :=
    { directory := by decide +kernel
      listed := ⟨[day], by decide +kernel⟩
      named := by decide +kernel
      flushed := pairs _ flushed
      read := by decide +kernel }
  obtain ⟨before, shown, whole, many, recent, prints⟩ :=
    shows_last_lines newest (by decide +kernel) 2
  have parsed : Options.parse arguments = .ok ⟨wishes, some (.logs (.ofInt (2 : Nat)))⟩ := by
    decide +kernel
  have begun : started.1.1 = .ok ⟨.ofPath (lit "k"), log⟩ := by decide +kernel
  have whole {α β γ : Type} (triple : (α × β) × γ) {value : α} (first : triple.1.1 = value) :
      triple = ((value, triple.1.2), triple.2) := by
    subst first
    rfl
  have fluent : ¬ (run [] arguments).Falters earlier := by decide +kernel
  obtain ⟨after, ran, printed⟩ := prints parsed (whole started begun) fluent
  have lines : ((log.recent (.ofInt 2) channel).run started.2).1 = .ok [lit "b \n", lit "c"] := by
    decide +kernel
  obtain rfl : shown = [lit "b \n", lit "c"] := Except.ok.inj (recent.symm.trans lines)
  exact ⟨newest, lines, fluent, after, ran, printed.trans (by decide +kernel)⟩

/-- A log has one line, and none is wanted. It is read back and printed all the same. -/
theorem shows_last_lines_all :
    let day := lit "audit_20260102.log"
    let tree := (Tree.empty.set [[100]] (.directory 0o700)).set [[100], Name.ofText day]
      (.file 0 0o644 (Utf8.octets (lit "a\n")))
    let host := { Host.calm { tree with nextNumber := 1 } with moment := .ofFields 2026 1 2 3 4 5 }
    let log : Log := ⟨Path.ofText (lit "d")⟩
    let arguments := [lit "-k", lit "k", lit "--log-dir", lit "d", lit "logs", lit "-n", lit "0"]
    log.Newest .initial host day (Utf8.octets (lit "a\n")) (host.answer (.list (lit "d"))).2 ∧
      Text.lines (lit "a\n") = [lit "a\n"] ∧
      ((log.recent (.ofInt 0)).run host).1 = .ok [lit "a\n"] ∧
      ((run [] arguments).run host).1 = .ok success ∧
      ((run [] arguments).run host).2.output = lit "Recent audit logs:\n\na\n" := by
  intro day tree host log arguments
  have newest : log.Newest .initial host day (Utf8.octets (lit "a\n"))
      (host.answer (.list (lit "d"))).2 :=
    { directory := by decide +kernel
      listed := ⟨[day], by decide +kernel⟩
      named := by decide +kernel
      flushed := rfl
      read := by decide +kernel }
  exact ⟨newest, by decide +kernel, by decide +kernel, by decide +kernel, by decide +kernel⟩

end Keyring.CommandLine
