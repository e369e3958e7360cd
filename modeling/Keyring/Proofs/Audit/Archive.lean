import Keyring.Proofs.Host.Calm
import Keyring.Proofs.Host.Numbers
import Keyring.Proofs.Session.Work
import Keyring.Proofs.Text.Lines

/-!
# Where events end up

All logs share one channel. Opening a log replaces whatever sinks there were, and closing any log takes
all files of them away, also where it fails. So an old log that is still used writes where the newest
one does, and nothing is written twice.

An `Archive` is the channel with the host. Logs are opened and closed in any order, events are told
through any of them, and time passes (`Archive.Reaches`). How matters then stand with the logs decides
where the next event goes (`Archive.Reaches.tells_once`). It is supposed throughout that files take what
is appended to them (`Host.Appends`); everything else may fail.
-/

namespace Keyring

open Text (lit)

/-! ## Stamps -/

namespace Text

/-- Numbers are written plainly. -/
theorem isPlain_ofNat (value : Nat) : (ofNat value).isPlain = true := by
  have digits : ∀ digit < 10,
      32 ≤ (CodePoint.ofNat (48 + digit)).val ∧ (CodePoint.ofNat (48 + digit)).val ≤ 126 := by
    decide
  refine isPlain_iff.mpr fun point member => ?_
  obtain ⟨digit, small, rfl⟩ := mem_ofNat member
  exact digits digit small

theorem isPlain_ofNatTwoDigits (value : Nat) : (ofNatTwoDigits value).isPlain = true := by
  unfold ofNatTwoDigits
  split
  · exact isPlain_ofNat value
  · exact isPlain_ofNat value

end Text

namespace Moment

/-- A moment is that of a date and a time. -/
def IsProper (moment : Moment) : Prop :=
  ∃ year month day hour minute second, moment = .ofFields year month day hour minute second

/-- Stamps are plain. -/
theorem IsProper.isPlain_stamp {moment : Moment} (proper : moment.IsProper) :
    moment.stamp.isPlain = true := by
  have hyphen : Text.isPlain (lit "-") = true := by decide
  have colon : Text.isPlain (lit ":") = true := by decide
  have blank : Text.isPlain (lit " ") = true := by decide
  obtain ⟨year, month, day, hour, minute, second, rfl⟩ := proper
  simp only [ofFields, Text.join, List.intercalate_cons_cons, List.intercalate_singleton,
    Text.isPlain_append, Text.isPlain_ofNat, Text.isPlain_ofNatTwoDigits, hyphen, colon, blank,
    Bool.and_true]

end Moment

namespace Audit

/-- A line can be encoded exactly if the text of its event can. -/
theorem Event.isEncodable_line {moment : Moment} (proper : moment.IsProper) (event : Event) :
    Utf8.isEncodable (event.line moment.stamp) = Utf8.isEncodable event.text := by
  have stamp := Text.isEncodable_of_isPlain proper.isPlain_stamp
  have bar : Utf8.isEncodable Event.bar = true := by decide
  have word : Utf8.isEncodable event.level.word = true := by cases event.level <;> decide
  have feed : Utf8.isEncodable [10] = true := by decide
  unfold Utf8.isEncodable at stamp bar word feed ⊢
  simp only [line, List.all_append, stamp, bar, word, feed, Bool.true_and, Bool.and_true]

/-! ## Archives -/

/-- The channel that all logs share, and the host that has their files. -/
structure Archive where
  channel : Channel
  host : Host

/-- A log that has been opened: the least rank of the events that it takes, and the path of the file
of the day. -/
structure Opening where
  rank : Int
  path : Text

/-- How matters stand with the logs. -/
inductive Standing where
  /-- No log has been opened since the last was closed. -/
  | closed
  /-- The log that was opened last is open. -/
  | «open» (opening : Opening)
  /-- Since the log was opened, others could not be. -/
  | doubtful (opening : Opening)

namespace Standing

/-- After a log could not be opened. -/
def doubted : Standing → Standing
  | .closed => .closed
  | .open opening => .doubtful opening
  | .doubtful opening => .doubtful opening

end Standing

namespace Archive

/-- The path from the root of the file of the day in a log. -/
def todaysPath (archive : Archive) (log : Log) : Text :=
  archive.host.absolute (log.filePath (Log.fileName archive.host.moment.day))

/-- Opens the log of a wanted directory, or of the one below the home directory. -/
def openLog (archive : Archive) (home : Text) (wanted level : Cell) (console : Bool) :
    Except Failure Log × Archive :=
  let opened := (Session.openLog home wanted level console archive.channel).run archive.host
  (opened.1.1, ⟨opened.1.2, opened.2⟩)

/-- Closes a log, whichever it is. That may fail. -/
def close (archive : Archive) : Archive :=
  let closed := archive.channel.close.run archive.host
  ⟨closed.1.2, closed.2⟩

/-- Tells an event, through whichever log. -/
def tell (archive : Archive) (event : Event) : Archive :=
  { archive with host := ((archive.channel.write event).run archive.host).2 }

/-- Time passes. -/
def wait (archive : Archive) (moment : Moment) : Archive :=
  { archive with host := { archive.host with moment := moment } }

/-- What becomes of a host and its channel as logs are opened and closed and events are told, and how
matters stand with the logs. -/
inductive Reaches : Standing → Archive → Prop
  | begin {host : Host} (settled : host.Settled) (numbered : host.tree.Numbered)
      (proper : host.moment.IsProper) (appends : host.Appends) : Reaches .closed ⟨.initial, host⟩
  | opened {standing : Standing} {archive after : Archive} (reached : Reaches standing archive)
      {home : Text} {wanted level : Cell} {console : Bool} {log : Log} {rank : Int}
      (ranked : Level.rankFor level = .ok rank) (nonzero : rank ≠ 0)
      (done : archive.openLog home wanted level console = (.ok log, after)) :
      Reaches (.open ⟨rank, archive.todaysPath log⟩) after
  | failed {standing : Standing} {archive after : Archive} (reached : Reaches standing archive)
      {home : Text} {wanted level : Cell} {console : Bool} {failure : Failure}
      (done : archive.openLog home wanted level console = (.error failure, after)) :
      Reaches standing.doubted after
  | closed {standing : Standing} {archive : Archive} (reached : Reaches standing archive) :
      Reaches .closed archive.close
  | told {standing : Standing} {archive : Archive} (reached : Reaches standing archive)
      (event : Event) : Reaches standing (archive.tell event)
  | waited {standing : Standing} {archive : Archive} (reached : Reaches standing archive)
      {moment : Moment} (proper : moment.IsProper) : Reaches standing (archive.wait moment)

end Archive

/-! ## Closing -/

/-- Sinks that cannot all be let go of are left, but neither the first one. -/
theorem Sink.closeEach_cases (sinks : List Sink) (host : Host) :
    ((closeEach sinks).run host).1 = .ok () ∨
      ∃ fault left, ((closeEach sinks).run host).1 = .error (fault, left) ∧ left ⊆ sinks.tail := by
  induction sinks generalizing host with
  | nil => exact .inl rfl
  | cons sink sinks ih =>
    rw [closeEach, Plan.bind_eq_bind, Plan.run_bind]
    rcases sink.close.run host with ⟨fault | ⟨⟩, after⟩
    · exact .inr ⟨fault, sinks, rfl, List.Subset.refl _⟩
    · refine (ih after).imp id ?_
      rintro ⟨fault, left, failed, within⟩
      exact ⟨fault, left, failed, fun _ member => List.mem_of_mem_tail (within member)⟩

/-- A channel that cannot be closed keeps none but sinks after its first one. -/
theorem Channel.close_cases (channel : Channel) (host : Host) :
    (channel.close.run host).1 = (.ok (), channel.closed) ∨
      ∃ failure left, (channel.close.run host).1 = (.error failure, { channel with sinks := left }) ∧
        left ⊆ channel.sinks.tail := by
  unfold close
  rw [Plan.bind_eq_bind, Plan.run_bind]
  rcases Sink.closeEach_cases channel.sinks host with closed | ⟨fault, left, failed, within⟩
  · rw [closed]
    exact .inl rfl
  · rw [failed]
    exact .inr ⟨fault.toFailure, left, rfl, within⟩

/-- No file is among the sinks of a channel. -/
def Channel.IsFileless (channel : Channel) : Prop :=
  ∀ number, Sink.file number ∉ channel.sinks

namespace Channel

variable {channel left : Channel}

theorem isFileless_of_sinks (silent : channel.sinks = []) : channel.IsFileless :=
  fun _ member => by simp [silent] at member

/-- Where no file is among the sinks, none is among those that are left. -/
theorem IsFileless.of_tail (fileless : channel.IsFileless)
    (within : left.sinks ⊆ channel.sinks.tail) : left.IsFileless :=
  fun number member => fileless number (List.mem_of_mem_tail (within member))

/-- A channel to a file and perhaps to the console has no file left once it has lost its first sink. -/
theorem isFileless_of_leads {rank : Int} {number : Nat} {console : Bool}
    (leads : channel = ⟨rank, .file number :: if console then [.console] else []⟩)
    (within : left.sinks ⊆ channel.sinks.tail) : left.IsFileless := by
  subst leads
  intro other member
  have among := within member
  cases console <;> simp at among

end Channel

/-! ## Opening -/

namespace Log

/-- How opening a log ends. If it fails, the channel is as it was or has lost at least its first sink;
otherwise its sinks are the file of the day, which has just been opened, and perhaps the console. -/
inductive Ends (log : Log) (level : Cell) (console : Bool) (channel : Channel) (host : Host) :
    (Except Failure Log × Channel) × Host → Prop
  | failed {failure : Failure} {left : Channel} {after : Host}
      (kept : left = channel ∨ left.sinks ⊆ channel.sinks.tail) :
      Ends log level console channel host ((.error failure, left), after)
  | opened {rank : Int} {number : Nat} {before after : Host}
      (ranked : Level.rankFor level = .ok rank) (follows : host.Follows before)
      (same : before.moment = host.moment)
      (answered : before.answer (.openLog (log.filePath (fileName host.moment.day))) =
        (.ok number, after)) :
      Ends log level console channel host
        ((.ok log, ⟨rank, .file number :: if console then [.console] else []⟩), after)

/-- Opening a log ends in one of these two ways. -/
theorem ends_openAt {host : Host} (settled : host.Settled) (directory : Text) (level : Cell)
    (console : Bool) (channel : Channel) :
    Ends ⟨Path.ofText directory⟩ level console channel host
      ((openAt directory level console channel).run host) := by
  unfold openAt
  dsimp only
  rw [Plan.bind_eq_bind, Plan.run_bind]
  have made := settled.run (Directory.ensure (Path.ofText directory))
  have day := Plan.moment_run (Directory.ensure (Path.ofText directory)) host
  generalize (Directory.ensure (Path.ofText directory)).run host = ensured at made day ⊢
  obtain ⟨fault | ⟨⟩, here⟩ := ensured
  · exact .failed (.inl rfl)
  dsimp only at made day ⊢
  rw [Plan.bind_eq_bind, Plan.run_bind, Plan.run_request]
  have follows := made.trans
    ((made.settled settled).answer (.setMode (Path.ofText directory).toText mode))
  have day := (here.moment_answer (.setMode (Path.ofText directory).toText mode)).trans day
  generalize here.answer (.setMode (Path.ofText directory).toText mode) = set at follows day ⊢
  obtain ⟨reply, later⟩ := set
  dsimp only at follows day ⊢
  split
  · exact .failed (.inl rfl)
  cases ranked : Level.rankFor level with
  | error failure => exact .failed (.inl rfl)
  | ok rank =>
    unfold turn
    dsimp only
    rw [Plan.bind_eq_bind, Plan.run_bind]
    have closes := Channel.close_cases { channel with level := rank } later
    have follows := follows.trans
      ((follows.settled settled).run ({ channel with level := rank } : Channel).close)
    have day := (Plan.moment_run ({ channel with level := rank } : Channel).close later).trans day
    generalize ({ channel with level := rank } : Channel).close.run later = closed at closes follows day ⊢
    obtain ⟨outcome, last⟩ := closed
    dsimp only at closes follows day ⊢
    rcases closes with rfl | ⟨failure, left, rfl, within⟩
    · dsimp only
      rw [Plan.bind_eq_bind, Plan.run_bind, Plan.run_request]
      have now : last.answer .now = (last.moment, last) := rfl
      rw [now]
      dsimp only
      rw [Plan.bind_eq_bind, Plan.run_bind, Plan.run_request, day]
      rcases answered : last.answer (.openLog (filePath ⟨Path.ofText directory⟩
        (fileName host.moment.day))) with ⟨fault | number, after⟩
      · exact .failed (.inr (List.nil_subset _))
      · exact .opened ranked follows day answered
    · exact .failed (.inr within)

end Log

end Audit

/-- A log that is opened is a file that its path leads to. -/
theorem Host.lookup_of_openLog {host after : Host} {path : Text} {number : Nat}
    (answered : host.answer (.openLog path) = (.ok number, after)) :
    ∃ place mode content, after.tree.lookup after.current (after.absolute path) =
      .ok (place, .file number mode content) := by
  have reply : (host.attempt (.openLog path) [host.absolute path] fun tree =>
      tree.openFile host.current (host.absolute path)).1 = .ok number := congrArg Prod.fst answered
  have tree : (host.answer (.openLog path)).2 = after := congrArg Prod.snd answered
  have opened := attempt_ok reply
  have current : after.current = host.current := by
    rw [← tree, answer, snd_attempt]
  have same : after.absolute path = host.absolute path := by
    unfold absolute currentPath
    rw [current]
  rw [same, current, ← tree]
  exact Tree.lookup_of_openFile opened

namespace Audit

/-! ## Where events go -/

namespace Archive

variable {archive after : Archive} {opening : Opening} {standing : Standing}

/-- The channel leads to the file of a log, and perhaps to the console. -/
structure Serves (archive : Archive) (opening : Opening) : Prop where
  nonzero : opening.rank ≠ 0
  leads : ∃ (number : Nat) (console : Bool) (place : Place) (mode : Nat) (content : Bytes),
    archive.channel = ⟨opening.rank, .file number :: if console then [.console] else []⟩ ∧
      archive.host.tree.lookup archive.host.current opening.path =
        .ok (place, .file number mode content)

/-- What is true of an archive however matters stand. -/
structure Sound (archive : Archive) : Prop where
  settled : archive.host.Settled
  numbered : archive.host.tree.Numbered
  proper : archive.host.moment.IsProper
  appends : archive.host.Appends

/-- What is true of an archive as matters stand. -/
def Fits (archive : Archive) : Standing → Prop
  | .closed => archive.channel.IsFileless
  | .open opening => archive.Serves opening
  | .doubtful opening => archive.channel.IsFileless ∨ archive.Serves opening

section Plans

variable {α : Type} {plan : Plan α}

theorem Sound.run (sound : archive.Sound) (makes : plan.Makes (·.leavesFiles = true))
    (channel : Channel) : Sound ⟨channel, (plan.run archive.host).2⟩ where
  settled := (sound.settled.run plan).settled sound.settled
  numbered := (makes.stays sound.settled sound.numbered).numbered
  proper := by simpa using sound.proper
  appends := sound.appends.run plan

/-- The channel goes on leading to the same file as long as no file is moved. -/
theorem Serves.run (serves : archive.Serves opening) (sound : archive.Sound)
    (makes : plan.Makes (·.leavesFiles = true)) :
    Serves ⟨archive.channel, (plan.run archive.host).2⟩ opening := by
  obtain ⟨number, console, place, mode, content, channel, found⟩ := serves.leads
  have follows := sound.settled.run plan
  obtain ⟨mode, content, found⟩ :=
    (makes.stays sound.settled sound.numbered).lookup follows.grows.keeps found
  exact ⟨serves.nonzero, number, console, place, mode, content, channel,
    follows.current.symm ▸ found⟩

theorem Fits.run (fits : archive.Fits standing) (sound : archive.Sound)
    (makes : plan.Makes (·.leavesFiles = true)) :
    Fits ⟨archive.channel, (plan.run archive.host).2⟩ standing :=
  match standing, fits with
  | .closed, silent => silent
  | .open _, serves => Serves.run serves sound makes
  | .doubtful _, fits => fits.imp id fun serves => serves.run sound makes

end Plans

/-- What fits still fits when others could not be opened. -/
theorem Fits.doubted (fits : archive.Fits standing) : archive.Fits standing.doubted :=
  match standing, fits with
  | .closed, silent => silent
  | .open _, serves => .inr serves
  | .doubtful _, fits => fits

/-- A channel that has lost its first sink leads to no file. -/
theorem Fits.isFileless (fits : archive.Fits standing) {left : Channel}
    (within : left.sinks ⊆ archive.channel.sinks.tail) : left.IsFileless := by
  have led {opening : Opening} (serves : archive.Serves opening) : left.IsFileless := by
    obtain ⟨_, _, _, _, _, leads, -⟩ := serves.leads
    exact Channel.isFileless_of_leads leads within
  match standing, fits with
  | .closed, fileless => exact fileless.of_tail within
  | .open _, serves => exact led serves
  | .doubtful _, .inl fileless => exact fileless.of_tail within
  | .doubtful _, .inr serves => exact led serves

/-- An archive without files fits wherever a log could not be opened. -/
theorem fits_doubted_of_isFileless (fileless : archive.channel.IsFileless) :
    ∀ standing : Standing, archive.Fits standing.doubted
  | .closed => fileless
  | .open _ => .inl fileless
  | .doubtful _ => .inl fileless

end Archive

end Audit

/-- What is called for to start a session moves no file. -/
theorem Call.leavesFiles_of_isStarting {call : Call} (starting : call.isStarting = true) :
    call.leavesFiles = true := by
  cases call <;> first | rfl | cases starting

/-- What is called for when an event is sent moves no file. -/
theorem Call.leavesFiles_of_isTelling {call : Call} (telling : call.isTelling = true) :
    call.leavesFiles = true := by
  cases call <;> first | rfl | cases telling

/-- What is called for to let go of a file moves none. -/
theorem Call.leavesFiles_of_isClosing {call : Call} (closing : call.isClosing = true) :
    call.leavesFiles = true := by
  cases call <;> first | rfl | cases closing

theorem Audit.Sink.leavesFiles_closeEach (sinks : List Sink) :
    (closeEach sinks).Makes (·.leavesFiles = true) :=
  (makes_closeEach sinks).mono fun _ => Call.leavesFiles_of_isClosing

/-- Opening a log moves no file, whichever directory is wanted. -/
theorem Session.leavesFiles_openLog (home : Text) (wanted level : Cell) (console : Bool)
    (channel : Audit.Channel) :
    (openLog home wanted level console channel).Makes (·.leavesFiles = true) :=
  makes_openLog (fun _ => Call.leavesFiles_of_isStarting)
    (Audit.Sink.leavesFiles_closeEach channel.sinks) home wanted level console

namespace Audit.Archive

variable {archive after : Archive} {opening : Opening} {standing : Standing} {home : Text}
  {wanted level : Cell} {console : Bool}

theorem Sound.openLog (sound : archive.Sound) {outcome : Except Failure Log}
    (done : archive.openLog home wanted level console = (outcome, after)) : after.Sound := by
  obtain rfl : (archive.openLog home wanted level console).2 = after := congrArg Prod.snd done
  exact sound.run (Session.leavesFiles_openLog ..) _

/-- A log that could not be opened leaves the channel as it was, or without files. -/
theorem Fits.openLog_error (fits : archive.Fits standing) (sound : archive.Sound)
    {failure : Failure}
    (done : archive.openLog home wanted level console = (.error failure, after)) :
    after.Fits standing.doubted := by
  have run := fits.doubted.run sound
    (Session.leavesFiles_openLog home wanted level console archive.channel)
  unfold Archive.openLog Session.openLog at done
  unfold Session.openLog at run
  cases named : wanted.directory? with
  | error failure =>
    rw [named] at done
    obtain rfl : archive = after := congrArg Prod.snd done
    exact fits.doubted
  | ok directory =>
    rw [named] at done run
    dsimp only at done run
    have ends := Log.ends_openAt sound.settled (directory.getD (Session.defaultLogs home)) level
      console archive.channel
    generalize (Log.openAt (directory.getD (Session.defaultLogs home)) level console
      archive.channel).run archive.host = result at done run ends
    cases ends with
    | failed kept =>
      cases done
      rcases kept with rfl | within
      · exact run
      · exact fits_doubted_of_isFileless (fits.isFileless within) standing
    | opened => cases done

/-- The channel leads to the file of the day in the log that was opened. -/
theorem Sound.serves_openLog (sound : archive.Sound) {log : Log} {rank : Int}
    (ranked : Level.rankFor level = .ok rank) (nonzero : rank ≠ 0)
    (done : archive.openLog home wanted level console = (.ok log, after)) :
    after.Serves ⟨rank, archive.todaysPath log⟩ := by
  unfold Archive.openLog Session.openLog at done
  cases named : wanted.directory? with
  | error failure =>
    rw [named] at done
    cases done
  | ok directory =>
    rw [named] at done
    dsimp only at done
    have ends := Log.ends_openAt sound.settled (directory.getD (Session.defaultLogs home)) level
      console archive.channel
    generalize (Log.openAt (directory.getD (Session.defaultLogs home)) level console
      archive.channel).run archive.host = result at done ends
    cases ends with
    | failed kept => cases done
    | opened ranked' follows same answered =>
      rename_i rank' number before later
      cases done
      obtain rfl : rank' = rank := Except.ok.inj (ranked'.symm.trans ranked)
      obtain ⟨place, mode, content, found⟩ := Host.lookup_of_openLog answered
      have current : later.current = archive.host.current := by
        have := congrArg Host.current (congrArg Prod.snd answered)
        rw [← this, Host.answer, Host.snd_attempt]
        exact follows.current
      refine ⟨nonzero, number, console, place, mode, content, rfl, ?_⟩
      rw [← found]
      unfold todaysPath Host.absolute Host.currentPath
      rw [current]

/-- A channel that is closed, or that cannot be, leads to no file. -/
theorem Fits.close (fits : archive.Fits standing) : archive.close.channel.IsFileless := by
  unfold Archive.close
  dsimp only
  rcases archive.channel.close_cases archive.host with closed | ⟨failure, left, failed, within⟩
  · rw [closed]
    exact Channel.isFileless_of_sinks rfl
  · rw [failed]
    exact fits.isFileless within

end Audit.Archive

/-! ## Telling events -/

namespace Audit.Sink

/-- A line gets into a file if it can be encoded. -/
theorem run_write_file {host : Host} (appends : host.Appends) (line : Text) (number : Nat) :
    ∃ performed, (((Sink.file number).write line).run host).2 =
      { host with
        performed := performed
        tree :=
          if Utf8.isEncodable line then host.tree.append number (Utf8.octets line)
          else host.tree } := by
  unfold write
  dsimp only
  cases encoded : Utf8.encode line with
  | ok octets =>
    obtain ⟨encodable, rfl⟩ := Utf8.encode_eq_ok_iff.mp encoded
    rw [if_pos encodable]
    exact ⟨_, appends.answer_append number (Utf8.octets line)⟩
  | error run =>
    have surrogate : ¬ Utf8.isEncodable line = true := fun encodable => by
      rw [Utf8.encode_eq_ok_iff.mpr ⟨encodable, rfl⟩] at encoded
      cases encoded
    rw [if_neg surrogate]
    exact ⟨_, rfl⟩

/-- A line that goes to a file, and perhaps to the console, gets into the file once. -/
theorem run_writeEach_file {host : Host} (appends : host.Appends) (line : Text) (number : Nat)
    (console : Bool) :
    ∃ performed errors,
      ((writeEach line (.file number :: if console then [.console] else [])).run host).2 =
        { host with
          performed := performed
          tree :=
            if Utf8.isEncodable line then host.tree.append number (Utf8.octets line)
            else host.tree
          errors := errors } := by
  obtain ⟨performed, written⟩ := run_write_file appends line number
  rw [writeEach, Plan.bind_eq_bind, Plan.run_bind, written]
  cases console with
  | false => exact ⟨performed, host.errors, rfl⟩
  | true => exact ⟨_, _, Host.snd_answer_printError _ line⟩

/-- Without files among the sinks a line gets into no file. -/
theorem tree_writeEach {sinks : List Sink}
    (fileless : ∀ number, Sink.file number ∉ sinks) (line : Text) (host : Host) :
    ((writeEach line sinks).run host).2.tree = host.tree := by
  induction sinks generalizing host with
  | nil => rfl
  | cons sink sinks ih =>
    cases sink with
    | file number => exact absurd (List.mem_cons_self ..) (fileless number)
    | console =>
      rw [writeEach, Plan.bind_eq_bind, Plan.run_bind,
        ih fun number member => fileless number (.tail _ member)]
      show (host.answer (.printError line)).2.tree = host.tree
      rw [Host.snd_answer_printError]

end Audit.Sink

namespace Audit.Channel

variable {channel : Channel}

/-- Closing a channel moves no file. -/
theorem leavesFiles_close (channel : Channel) : channel.close.Makes (·.leavesFiles = true) :=
  makes_close (Sink.leavesFiles_closeEach channel.sinks)

/-- Writing an event moves no file. -/
theorem leavesFiles_write (channel : Channel) (event : Event) :
    (channel.write event).Makes (·.leavesFiles = true) :=
  (channel.makes_write event).mono fun _ => Call.leavesFiles_of_isTelling

/-- Without files among its sinks a channel leaves the files as they are. -/
theorem IsFileless.tree_write (fileless : channel.IsFileless) (event : Event) (host : Host) :
    ((channel.write event).run host).2.tree = host.tree := by
  unfold write
  split
  · rfl
  · split
    · split
      · show (host.answer (.printError (event.text ++ [10]))).2.tree = host.tree
        rw [Host.snd_answer_printError]
      · rfl
    · exact Sink.tree_writeEach fileless (event.line host.moment.stamp) host

/-- With a file among its sinks, and perhaps the console, a channel writes an event to the file once, if
the event gets through and can be encoded. -/
theorem run_write_of_file {rank : Int} {number : Nat} {console : Bool} (nonzero : rank ≠ 0)
    (leads : channel = ⟨rank, .file number :: if console then [.console] else []⟩) (event : Event)
    {host : Host} (appends : host.Appends) :
    ∃ performed errors, ((channel.write event).run host).2 =
      { host with
        performed := performed
        tree :=
          if rank ≤ event.level.rank ∧ Utf8.isEncodable (event.line host.moment.stamp) then
            host.tree.append number (Utf8.octets (event.line host.moment.stamp))
          else host.tree
        errors := errors } := by
  have threshold : channel.threshold = rank := by
    rw [leads]
    exact if_neg nonzero
  unfold write passes
  rw [threshold]
  by_cases through : rank ≤ event.level.rank
  · have filled : channel.sinks.isEmpty = false := by rw [leads]; rfl
    rw [if_neg (by simpa using through), if_neg (by simp [filled]), Plan.bind_eq_bind, Plan.run_bind,
      Plan.run_request, leads]
    simp only [through, true_and]
    exact Sink.run_writeEach_file appends (event.line host.moment.stamp) number console
  · rw [if_pos (by simpa using through)]
    exact ⟨host.performed, host.errors, by simp [through]⟩

end Audit.Channel

namespace Audit

/-- What a log that has been opened makes of an event. One of at least its rank, whose text can be
encoded, gets into its file as one more line, and nothing else changes. Any other gets into no file. -/
def Opening.Receives (opening : Opening) (event : Event) (host : Host) (after : Tree) : Prop :=
  if opening.rank ≤ event.level.rank ∧ Utf8.isEncodable event.text then
    host.tree.Gains host.current opening.path (Utf8.octets (event.line host.moment.stamp)) after
  else after = host.tree

/-- Where an event goes as matters stand. While no log is open it gets into no file, and while it is
doubtful whether one is, into no other file than that of the log that was opened last. -/
def Standing.Tells (event : Event) (host : Host) (after : Tree) : Standing → Prop
  | .closed => after = host.tree
  | .open opening => opening.Receives event host after
  | .doubtful opening => after = host.tree ∨ opening.Receives event host after

namespace Archive

variable {archive : Archive} {opening : Opening} {standing : Standing} {event : Event}

/-- An event goes to the file to which the channel leads. -/
theorem Serves.tells (serves : archive.Serves opening) (sound : archive.Sound) (event : Event) :
    opening.Receives event archive.host (archive.tell event).host.tree := by
  obtain ⟨number, console, place, mode, content, leads, found⟩ := serves.leads
  obtain ⟨performed, errors, told⟩ :=
    Channel.run_write_of_file serves.nonzero leads event sound.appends
  have tree := congrArg Host.tree told
  rw [Event.isEncodable_line sound.proper] at tree
  unfold Opening.Receives tell
  split
  · rename_i due
    rw [tree, if_pos due]
    exact sound.numbered.gains_append found _
  · rename_i other
    rw [tree, if_neg other]

theorem Fits.tells (fits : archive.Fits standing) (sound : archive.Sound) (event : Event) :
    standing.Tells event archive.host (archive.tell event).host.tree :=
  match standing, fits with
  | .closed, fileless => Channel.IsFileless.tree_write fileless event archive.host
  | .open _, serves => Serves.tells serves sound event
  | .doubtful _, .inl fileless => .inl (fileless.tree_write event archive.host)
  | .doubtful _, .inr serves => .inr (serves.tells sound event)

/-- Time takes no file away. -/
theorem Fits.wait (fits : archive.Fits standing) (moment : Moment) :
    (archive.wait moment).Fits standing :=
  match standing, fits with
  | .closed, silent => silent
  | .open _, ⟨nonzero, leads⟩ => ⟨nonzero, leads⟩
  | .doubtful _, .inl silent => .inl silent
  | .doubtful _, .inr ⟨nonzero, leads⟩ => .inr ⟨nonzero, leads⟩

namespace Reaches

/-- Whatever is done, an archive fits how matters stand with its logs. -/
theorem fits (reaches : Reaches standing archive) : archive.Sound ∧ archive.Fits standing := by
  induction reaches with
  | begin settled numbered proper appends =>
    exact ⟨⟨settled, numbered, proper, appends⟩, Channel.isFileless_of_sinks rfl⟩
  | opened reached ranked nonzero done ih =>
    exact ⟨ih.1.openLog done, ih.1.serves_openLog ranked nonzero done⟩
  | failed reached done ih =>
    exact ⟨ih.1.openLog done, ih.2.openLog_error ih.1 done⟩
  | closed reached ih => exact ⟨ih.1.run (Channel.leavesFiles_close _) _, ih.2.close⟩
  | told reached event ih =>
    exact ⟨ih.1.run (Channel.leavesFiles_write _ event) _, ih.2.run ih.1 (Channel.leavesFiles_write _ event)⟩
  | waited reached proper ih =>
    exact ⟨⟨⟨ih.1.settled.wellFormed, ih.1.settled.current⟩, ih.1.numbered, proper,
      ⟨ih.1.appends.faultless, ih.1.appends.unwritten⟩⟩, ih.2.wait _⟩

/-- An event gets into the file of the log that was opened last, once and nowhere else, if that is open
and takes it. Otherwise it gets into no file. -/
theorem tells_once (reaches : Reaches standing archive) (event : Event) :
    standing.Tells event archive.host (archive.tell event).host.tree :=
  reaches.fits.2.tells reaches.fits.1 event

/-- After one log another is opened, for warnings and the console. A rejection gets into the file of the
second one, and a new key into neither. -/
theorem tells_once_second :
    let start : Archive := ⟨.initial, { Host.calm .empty with moment := .ofFields 2026 1 2 3 4 5 }⟩
    let first := (start.openLog [] (lit "a") (.ofInt 20) false).2
    let second := (first.openLog [] (lit "b") (.ofText (lit "WARNING")) true).2
    let path := lit "/b/audit_20260102.log"
    Reaches (.open ⟨30, path⟩) second ∧
      second.host.tree.Gains [] path
        (Utf8.octets (lit "2026-01-02 03:04:05 | WARNING | AUTH_FAILURE | key_id=k\n"))
        (second.tell (.authenticated (lit "k") false)).host.tree ∧
      (second.tell (.created (lit "k"))).host.tree = second.host.tree := by
  intro start first second path
  have settled : start.host.Settled := ⟨.empty, Tree.isDirectory_nil _⟩
  have begun : Reaches .closed start :=
    .begin settled .empty ⟨2026, 1, 2, 3, 4, 5, rfl⟩ ⟨fun _ _ _ => rfl, fun _ => rfl⟩
  have opened (archive : Archive) {wanted level : Cell} {console : Bool} {log : Log}
      (done : (archive.openLog [] wanted level console).1 = .ok log) :
      archive.openLog [] wanted level console =
        (.ok log, (archive.openLog [] wanted level console).2) := Prod.ext done rfl
  have one : Reaches (.open ⟨20, start.todaysPath ⟨Path.ofText (lit "a")⟩⟩) first :=
    begun.opened (by decide) (by decide) (opened start (by decide +kernel))
  have two : Reaches (.open ⟨30, path⟩) second := by
    have same : first.todaysPath ⟨Path.ofText (lit "b")⟩ = path := by decide +kernel
    exact same ▸ one.opened (by decide) (by decide) (opened first (by decide +kernel))
  have rejected : Opening.Receives ⟨30, path⟩ _ _ _ :=
    two.tells_once (.authenticated (lit "k") false)
  have created : Opening.Receives ⟨30, path⟩ _ _ _ := two.tells_once (.created (lit "k"))
  have current : second.host.current = [] := by decide +kernel
  have line : Event.line second.host.moment.stamp (.authenticated (lit "k") false) =
      lit "2026-01-02 03:04:05 | WARNING | AUTH_FAILURE | key_id=k\n" := by decide +kernel
  unfold Opening.Receives at rejected created
  rw [if_pos (by decide +kernel), current, line] at rejected
  rw [if_neg (by decide +kernel)] at created
  exact ⟨two, rejected, created⟩

end Reaches

end Archive

end Audit

end Keyring
