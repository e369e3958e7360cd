import Keyring.Proofs.Audit.Archive
import Keyring.Proofs.Audit.Newest
import Keyring.Proofs.Host.Absolute
import Keyring.Proofs.Text.Lines

/-!
# What an id does to a log

Ids stand in the lines of a log as they were presented. One that holds line ends makes more than one
line, and nobody can tell the others from lines of other events. One that cannot be encoded keeps its
event out of the log. Every other id is read back on one line with its event
(`Archive.Reaches.recent_tell`).
-/

namespace Keyring

open Text (lit)

/-! ## Reading what has grown -/

namespace Tree

variable {tree : Tree} {current place : Place} {path : Text} {mode : Nat}

theorem keeps_append (tree : Tree) (number : Nat) (bytes : Bytes) :
    tree.Keeps (tree.append number bytes) := by
  rintro place ⟨mode, there⟩
  exact ⟨mode, by rw [node?_append, there]; rfl⟩

/-- A path goes on leading to a directory while files get longer. -/
theorem lookup_append (found : tree.lookup current path = .ok (place, .directory mode))
    (number : Nat) (bytes : Bytes) :
    (tree.append number bytes).lookup current path = .ok (place, .directory mode) := by
  have keeps := tree.keeps_append number bytes
  unfold lookup at found ⊢
  cases located : tree.locate current path with
  | error trouble => simp [located] at found
  | ok spot =>
    rw [located] at found
    rw [keeps.locate located]
    cases spot with
    | reached place => exact found
    | named parent name slash =>
      dsimp only at found ⊢
      rw [node?_append]
      split at found
      · cases found
      · rename_i there
        rw [there]
        exact found
      · split at found <;> cases found

/-- A directory holds the same names while files get longer. -/
theorem names_append {names : List Text} (listed : tree.names current path = .ok names)
    (number : Nat) (bytes : Bytes) :
    (tree.append number bytes).names current path = .ok names := by
  unfold Tree.names at listed ⊢
  split at listed
  · cases listed
  · cases listed
  · rename_i place mode found
    cases listed
    rw [lookup_append found]
    dsimp only
    rw [append, List.filterMap_map]
    congr 2
    funext ⟨other, node⟩
    cases node with
    | directory mode => rfl
    | file stored mode content =>
      dsimp only [Function.comp_apply]
      split <;> rfl

end Tree

namespace Host

variable {host : Host} {path : Text}

/-- A path is said to be that of a directory if it leads to one. -/
theorem answer_isDirectory_iff :
    (host.answer (.isDirectory path)).1 = .ok true ↔ Path.fault? path = none ∧
      ∃ place mode, host.tree.lookup host.current path = .ok (place, .directory mode) := by
  unfold answer
  dsimp only
  cases Path.fault? path with
  | some fault => simp
  | none =>
    rcases host.tree.lookup host.current path with (_ | _ | _ | _ | _ | _) | ⟨place, mode | _⟩ <;>
      simp

/-- What decides whether an attempt succeeds. -/
theorem attempt_eq_ok_iff {α : Type} {call : Call} {paths : List Text}
    {effect : Tree → Except Trouble (α × Tree)} {reply : α} :
    (host.attempt call paths effect).1 = .ok reply ↔ host.faults host.performed call = none ∧
      paths.findSome? Path.fault? = none ∧ ∃ after, effect host.tree = .ok (reply, after) := by
  unfold attempt
  dsimp only
  cases host.faults host.performed call with
  | some error => simp
  | none =>
    cases paths.findSome? Path.fault? with
    | some fault => simp
    | none =>
      rcases effect host.tree with trouble | ⟨value, after⟩ <;> simp

/-- A call that only looks is counted. -/
theorem snd_answer_list (host : Host) (path : Text) :
    (host.answer (.list path)).2 = { host with performed := host.performed + 1 } := by
  have same : (host.answer (.list path)).2.tree = host.tree := by
    refine tree_attempt (· = host.tree) rfl fun _ after had => ?_
    cases names : host.tree.names host.current path <;> simp [names, Except.map] at had
    exact had.2.symm
  have rest : (host.answer (.list path)).2 = { host with
      performed := host.performed + 1
      tree := (host.answer (.list path)).2.tree } := snd_attempt
  rw [rest, same]

/-- The names in a directory are given where no call is made to fail. -/
theorem answer_list_iff {names : List Text} :
    (host.answer (.list path)).1 = .ok names ↔
      host.faults host.performed (.list path) = none ∧ Path.fault? path = none ∧
        host.tree.names host.current path = .ok names := by
  unfold answer
  rw [attempt_eq_ok_iff]
  cases fault : Path.fault? path <;> cases host.tree.names host.current path <;>
    simp [List.findSome?, fault, Except.map]

/-- The content of a file is given where no call is made to fail. -/
theorem answer_readFile_iff {content : Bytes} :
    (host.answer (.readFile path)).1 = .ok content ↔
      host.faults host.performed (.readFile path) = none ∧ Path.fault? path = none ∧
        host.tree.read host.current path = .ok content := by
  unfold answer
  rw [attempt_eq_ok_iff]
  cases fault : Path.fault? path <;> cases host.tree.read host.current path <;>
    simp [List.findSome?, fault, Except.map]

end Host

namespace Audit

/-- A host that no call to flush the console fails on hands over whatever waits for some sinks, and
nothing does. -/
theorem Sink.run_flushEach {host : Host} (appends : host.Appends)
    (calm : ∀ count, host.faults count .flushErrors = none) (sinks : List Sink) :
    ∃ performed, (flushEach sinks).run host = (.ok (), { host with performed := performed }) := by
  induction sinks generalizing host with
  | nil => exact ⟨host.performed, rfl⟩
  | cons sink sinks ih =>
    rw [flushEach, Plan.run_onSuccess]
    cases sink with
    | console =>
      have shown : Sink.console.flush.run host =
          (.ok (), { host with performed := host.performed + 1 }) := by
        unfold flush
        rw [Plan.run_request, Host.answer, calm]
      rw [shown]
      exact ih (appends.of_same rfl rfl) calm
    | file number =>
      have still : (Sink.file number).flush.run host = (.ok (), host) := by
        unfold flush
        rw [Plan.run_request, Host.answer, if_pos (appends.unwritten number)]
      rw [still]
      exact ih appends calm

namespace Log

variable {log : Log} {channel : Channel} {host : Host} {name : Text} {content : Bytes}

/-- A file of a log holds some octets and is the newest: the directory lists it, with no audit file whose
name comes after its name. -/
structure Holds (log : Log) (host : Host) (name : Text) (content : Bytes) : Prop where
  directory : Path.fault? log.directory.toText = none ∧ ∃ place mode,
    host.tree.lookup host.current log.directory.toText = .ok (place, .directory mode)
  listed : ∃ names, host.tree.names host.current log.directory.toText = .ok names ∧ name ∈ names ∧
    ∀ other ∈ names, isFileName other = true → Text.le other name = true
  named : isFileName name = true
  read : Path.fault? (log.filePath name) = none ∧
    host.tree.read host.current (log.filePath name) = .ok content

/-- Nothing that is called for to read a file of a log back is made to fail. -/
structure Accessible (log : Log) (host : Host) (name : Text) : Prop where
  listed : ∀ count, host.faults count (.list log.directory.toText) = none
  flushed : ∀ count, host.faults count .flushErrors = none
  read : ∀ count, host.faults count (.readFile (log.filePath name)) = none

/-- The newest file of a log that is accessible is there to be read. -/
theorem Holds.newest (holds : log.Holds host name content) (accessible : log.Accessible host name)
    (appends : host.Appends) (channel : Channel) :
    ∃ ready, log.Newest channel host name content ready := by
  obtain ⟨names, held, among⟩ := holds.listed
  let listing := { host with performed := host.performed + 1 }
  have appending : listing.Appends := appends.of_same rfl rfl
  obtain ⟨performed, flushed⟩ := Sink.run_flushEach appending accessible.flushed channel.sinks
  exact ⟨{ listing with performed := performed }, {
    directory := Host.answer_isDirectory_iff.mpr holds.directory
    listed := ⟨names, Host.answer_list_iff.mpr ⟨accessible.listed _, holds.directory.1, held⟩, among⟩
    named := holds.named
    flushed := by rw [Host.snd_answer_list]; exact flushed
    read := Host.answer_readFile_iff.mpr ⟨accessible.read _, holds.read⟩ }⟩

/-- The newest file of a log is still the newest when something has been appended to it. -/
theorem Holds.append (holds : log.Holds host name content) (numbered : host.tree.Numbered)
    {place : Place} {number mode : Nat}
    (found : host.tree.lookup host.current (log.filePath name) =
      .ok (place, .file number mode content))
    (bytes : Bytes) (performed : Nat) (errors : Text) :
    log.Holds { host with
      performed := performed
      tree := host.tree.append number bytes
      errors := errors } name (content ++ bytes) := by
  obtain ⟨⟨plain, directory, permissions, there⟩, ⟨names, held, among⟩, named, plain', read⟩ := holds
  exact ⟨⟨plain, directory, permissions, Tree.lookup_append there number bytes⟩,
    ⟨names, Tree.names_append held number bytes, among⟩, named, plain',
    (numbered.gains_append found bytes).read read⟩

end Log

end Audit

namespace Audit

/-! ## The lines of an event -/

namespace Event

variable {id besides : Text} {event : Event} {moment : Moment}

/-- The lines that a file has from an event. -/
def written (stamp : Text) (event : Event) : List Text :=
  if Utf8.isEncodable event.text then Text.lines (event.line stamp) else []

/-- What stands before the id in the line of an event about one. -/
def heading (stamp : Text) (event : Event) : Text :=
  stamp ++ bar ++ event.level.word ++ bar ++ event.title ++ bar ++ lit "key_id="

/-- An event is about an id as it was presented, and tells some more after it. -/
inductive Presents (id : Text) : Event → Text → Prop
  | created : Presents id (.created (.ofText id)) []
  | added : Presents id (.added (.ofText id)) []
  | removed : Presents id (.removed (.ofText id)) []
  | removeMissing : Presents id (.removeMissing (.ofText id)) []
  | removeFailed (failure : Failure) : Presents id (.removeFailed (.ofText id) failure)
      (renderDetail (.ofText (lit "error"), .ofText failure.message))
  | saveFailed (failure : Failure) : Presents id (.saveFailed (.ofText id) failure)
      (renderDetail (.ofText (lit "error"), .ofText failure.message))
  | authenticated (allowed : Bool) : Presents id (.authenticated (.ofText id) allowed) []

/-- No line starts with a newline. -/
theorem head?_line (event : Event) (proper : moment.IsProper) :
    (event.line moment.stamp).head? ≠ some 10 := by
  have first : (event.line moment.stamp).head? = (moment.stamp ++ bar).head? := by
    unfold line
    cases moment.stamp <;> rfl
  rw [first]
  intro feed
  have plain : (moment.stamp ++ bar).isPlain = true := by
    rw [Text.isPlain_append, proper.isPlain_stamp]
    decide
  exact (Text.isUnbroken_of_isPlain plain).1 (List.mem_of_head? feed)

/-- The id stands in the text as it is. -/
theorem Presents.text_eq (presents : event.Presents id besides) :
    event.text = event.title ++ bar ++ lit "key_id=" ++ (id ++ besides) := by
  have shown : renderDetail (idDetail (.ofText id)) = bar ++ lit "key_id=" ++ id := rfl
  cases presents <;> simp [text, details, failureDetails, shown]

/-- In the line, the newline comes after it. -/
theorem Presents.line_eq (presents : event.Presents id besides) (stamp : Text) :
    event.line stamp = event.heading stamp ++ (id ++ besides ++ [10]) := by
  simp [line, heading, presents.text_eq]

/-- What stands before the id is plain. -/
theorem Presents.isPlain_heading (presents : event.Presents id besides)
    (proper : moment.IsProper) : (event.heading moment.stamp).isPlain = true := by
  have title : event.title.isPlain = true := by
    cases presents with
    | authenticated allowed => cases allowed <;> simp only [Event.title] <;> decide
    | _ => simp only [Event.title]; decide
  have word : event.level.word.isPlain = true := by cases event.level <;> decide
  have bar : Text.isPlain bar = true := by decide
  have name : Text.isPlain (lit "key_id=") = true := by decide
  simp only [heading, Text.isPlain_append, proper.isPlain_stamp, title, word, bar, name,
    Bool.and_true]

/-- Whether the event gets into a file depends on what comes after the heading. -/
theorem Presents.isEncodable_text (presents : event.Presents id besides)
    (proper : moment.IsProper) :
    Utf8.isEncodable event.text = Utf8.isEncodable (id ++ besides) := by
  have heading := Text.isEncodable_of_isPlain (presents.isPlain_heading proper)
  have feed : Utf8.isEncodable [10] = true := by decide
  rw [← isEncodable_line proper, presents.line_eq]
  unfold Utf8.isEncodable at heading feed ⊢
  rw [← List.append_assoc, List.all_append, List.all_append, heading, feed, Bool.true_and,
    Bool.and_true]

/-- The first line that a file has from an event starts with its heading. If there are more, they are
the lines of the id after its first one. -/
theorem Presents.written_eq (presents : event.Presents id besides) (proper : moment.IsProper)
    (encodable : Utf8.isEncodable (id ++ besides) = true) :
    ∃ first forged, Text.lines (id ++ besides ++ [10]) = first :: forged ∧
      event.written moment.stamp = (event.heading moment.stamp ++ first) :: forged := by
  have some : Text.lines (id ++ besides ++ [10]) ≠ [] := by
    intro none
    have many := Text.count_le_length_lines (id ++ besides ++ [10])
    rw [none] at many
    simp at many
  obtain ⟨first, forged, cut⟩ := List.exists_cons_of_ne_nil some
  refine ⟨first, forged, cut, ?_⟩
  rw [written, if_pos (by rw [presents.isEncodable_text proper, encodable]), presents.line_eq]
  exact Text.lines_append_of_isUnbroken
    (Text.isUnbroken_of_isPlain (presents.isPlain_heading proper)) cut

theorem Presents.title_infix (presents : event.Presents id besides) (stamp : Text) :
    event.title <:+: event.line stamp :=
  ⟨stamp ++ bar ++ event.level.word ++ bar, bar ++ lit "key_id=" ++ (id ++ besides ++ [10]), by
    simp [presents.line_eq, heading]⟩

/-- A file has one line from an event, and the id is in it, exactly if the id can be encoded and has no
line ends. -/
theorem Presents.written_single_iff (presents : event.Presents id besides)
    (proper : moment.IsProper) (plain : besides.IsUnbroken)
    (encodable : Utf8.isEncodable besides = true) :
    (∃ line, event.written moment.stamp = [line] ∧ event.title <:+: line ∧ id <:+: line) ↔
      Utf8.isEncodable id = true ∧ id.IsUnbroken := by
  have whole : Utf8.isEncodable event.text = Utf8.isEncodable id := by
    rw [presents.isEncodable_text proper]
    unfold Utf8.isEncodable at encodable ⊢
    rw [List.all_append, encodable, Bool.and_true]
  have line := presents.line_eq moment.stamp
  constructor
  · rintro ⟨shown, single, -, inside⟩
    unfold written at single
    split at single
    · rename_i due
      have many := Text.count_le_length_lines (event.line moment.stamp)
      rw [single, line] at many
      simp only [List.count_append, List.length_singleton, List.count_singleton_self] at many
      refine ⟨whole ▸ due, List.count_eq_zero.mp (by omega), fun member => ?_⟩
      exact Text.not_mem_of_mem_lines (single ▸ List.mem_singleton_self _)
        (inside.subset member)
    · cases single
  · rintro ⟨due, unbroken⟩
    have all : (event.heading moment.stamp ++ (id ++ besides)).IsUnbroken :=
      Text.isUnbroken_append.mpr ⟨Text.isUnbroken_of_isPlain (presents.isPlain_heading proper),
        Text.isUnbroken_append.mpr ⟨unbroken, plain⟩⟩
    refine ⟨event.line moment.stamp, ?_, presents.title_infix _, ?_⟩
    · rw [written, if_pos (whole.trans due), line, ← List.append_assoc]
      exact all.lines_concat
    · exact ⟨event.heading moment.stamp, besides ++ [10], by simp [line]⟩

end Event

/-! ## Reading it back -/

namespace Archive

variable {archive : Archive} {opening : Opening} {event : Event} {log : Log} {name : Text}

/-- Where a log is open that takes an event, and its file is the newest one, this file gets the line of
the event if that can be encoded. -/
theorem Serves.holds_tell (serves : archive.Serves opening) (sound : archive.Sound)
    (takes : opening.rank ≤ event.level.rank) (proper : archive.host.current.IsProper)
    (same : opening.path = archive.host.absolute (log.filePath name)) {content : Bytes}
    (holds : log.Holds archive.host name content) :
    log.Holds (archive.tell event).host name (content ++
      if Utf8.isEncodable event.text then Utf8.octets (event.line archive.host.moment.stamp)
      else []) := by
  obtain ⟨number, console, place, mode, held, leads, found⟩ := serves.leads
  obtain ⟨performed, errors, told⟩ :=
    Channel.run_write_of_file serves.nonzero leads event sound.appends
  unfold tell
  rw [told, Event.isEncodable_line sound.proper]
  simp only [takes, true_and]
  split
  · obtain ⟨place', number', mode', found'⟩ := Tree.read_eq_ok.mp holds.read.2
    rw [same] at found
    obtain rfl : place = place' := Host.place_of_absolute proper found' found
    obtain ⟨-, -, -, -, there⟩ := Tree.lookup_eq_file.mp found
    obtain ⟨-, -, -, -, there'⟩ := Tree.lookup_eq_file.mp found'
    obtain ⟨rfl, rfl, rfl⟩ : number = number' ∧ mode = mode' ∧ held = content := by
      simpa using there.symm.trans there'
    exact holds.append sound.numbered found' _ performed errors
  · rw [List.append_nil]
    exact ⟨holds.directory, holds.listed, holds.named, holds.read⟩

/-- What is written to the newest file is read back after what was there before. -/
theorem Serves.recent_eq (serves : archive.Serves opening) (sound : archive.Sound)
    (takes : opening.rank ≤ event.level.rank) (proper : archive.host.current.IsProper)
    (same : opening.path = archive.host.absolute (log.filePath name)) {text : Text}
    (holds : log.Holds archive.host name (Utf8.octets text))
    (accessible : log.Accessible archive.host name) (encodable : Utf8.isEncodable text = true)
    (ended : text.IsEnded) (count : Int) :
    ((log.recent (.ofInt count) archive.channel).run (archive.tell event).host).1 =
      .ok (Log.lastLines count (Text.lines text ++ event.written archive.host.moment.stamp)) := by
  have told := serves.holds_tell sound takes proper same holds
  have follows := sound.settled.run (archive.channel.write event)
  have accessible : log.Accessible (archive.tell event).host name :=
    ⟨follows.faults.symm ▸ accessible.listed, follows.faults.symm ▸ accessible.flushed,
      follows.faults.symm ▸ accessible.read⟩
  have appends := sound.appends.run (archive.channel.write event)
  obtain ⟨ready, newest⟩ := told.newest accessible appends archive.channel
  unfold Event.written
  split at newest
  · rename_i due
    have grown : Utf8.octets text ++ Utf8.octets (event.line archive.host.moment.stamp) =
        Utf8.octets (text ++ event.line archive.host.moment.stamp) :=
      List.flatMap_append.symm
    have whole : Utf8.isEncodable (text ++ event.line archive.host.moment.stamp) = true := by
      have line := (Event.isEncodable_line sound.proper event).trans due
      unfold Utf8.isEncodable at encodable line ⊢
      rw [List.all_append, encodable, line]
      rfl
    rw [grown] at newest
    rw [if_pos due, newest.recent_eq whole, Text.lines_append ended (event.head?_line sound.proper)]
  · rename_i lost
    rw [List.append_nil] at newest
    rw [if_neg lost, newest.recent_eq encodable, List.append_nil]

/-- Where a log is open that takes all events, the line of an event about an id gets into its file if the
id can be encoded. Read back, the event has one line, which names the event and the id, exactly if the
id has no line ends besides. One with line ends makes more lines of its own choice, and one that cannot
be encoded leaves no line. -/
theorem Reaches.recent_tell (reaches : Reaches (.open opening) archive)
    (usual : opening.rank ≤ Level.info.rank) {id besides : Text}
    (presents : event.Presents id besides) :
    ∃ told,
      (if Utf8.isEncodable (id ++ besides) then
        ∃ first forged, Text.lines (id ++ besides ++ [10]) = first :: forged ∧
          told = (event.heading archive.host.moment.stamp ++ first) :: forged ∧
          archive.host.tree.Gains archive.host.current opening.path
            (Utf8.octets (event.heading archive.host.moment.stamp ++ (id ++ besides ++ [10])))
            (archive.tell event).host.tree
      else told = [] ∧ (archive.tell event).host.tree = archive.host.tree) ∧
      (besides.IsUnbroken → Utf8.isEncodable besides = true →
        ((∃ line, told = [line] ∧ event.title <:+: line ∧ id <:+: line) ↔
          Utf8.isEncodable id = true ∧ id.IsUnbroken)) ∧
      ∀ (log : Log) (name text : Text), archive.host.current.IsProper →
        opening.path = archive.host.absolute (log.filePath name) →
        log.Holds archive.host name (Utf8.octets text) → log.Accessible archive.host name →
        Utf8.isEncodable text = true → text.IsEnded → ∀ count,
          ((log.recent (.ofInt count) archive.channel).run (archive.tell event).host).1 =
            .ok (Log.lastLines count (Text.lines text ++ told)) := by
  obtain ⟨sound, serves⟩ := reaches.fits
  have takes : opening.rank ≤ event.level.rank := by
    have least : Level.info.rank ≤ event.level.rank := by cases event.level <;> decide
    exact Int.le_trans usual least
  refine ⟨event.written archive.host.moment.stamp, ?_, presents.written_single_iff sound.proper,
    fun log name text proper same holds accessible encodable ended =>
      Serves.recent_eq serves sound takes proper same holds accessible encodable ended⟩
  have received : opening.Receives event _ _ := Serves.tells serves sound event
  unfold Opening.Receives at received
  rw [presents.isEncodable_text sound.proper, presents.line_eq] at received
  simp only [takes, true_and] at received
  split
  · rename_i due
    rw [if_pos due] at received
    obtain ⟨first, forged, cut, written⟩ := presents.written_eq sound.proper due
    exact ⟨first, forged, cut, written, received⟩
  · rename_i lost
    rw [if_neg lost] at received
    exact ⟨by rw [Event.written, presents.isEncodable_text sound.proper, if_neg lost], received⟩

/-- An id with a newline is rejected. -/
theorem Reaches.recent_tell_broken :
    let start : Archive := ⟨.initial, { Host.calm .empty with moment := .ofFields 2026 1 2 3 4 5 }⟩
    let archive := (start.openLog [] (lit "logs") (.ofInt 20) false).2
    let log : Log := ⟨Path.ofText (lit "logs")⟩
    let event : Event := .authenticated (lit "A\nB") false
    Reaches (.open ⟨20, lit "/logs/audit_20260102.log"⟩) archive ∧
      log.Holds archive.host (lit "audit_20260102.log") (Utf8.octets []) ∧
      log.Accessible archive.host (lit "audit_20260102.log") ∧
      event.Presents (lit "A\nB") [] ∧
      ((log.recent (.ofInt 100) archive.channel).run (archive.tell event).host).1 =
        .ok [lit "2026-01-02 03:04:05 | WARNING | AUTH_FAILURE | key_id=A\n", lit "B\n"] := by
  intro start archive log event
  have settled : start.host.Settled := ⟨.empty, Tree.isDirectory_nil _⟩
  have reaches : Reaches (.open ⟨20, lit "/logs/audit_20260102.log"⟩) archive := by
    have begun : Reaches .closed start :=
      .begin settled .empty ⟨2026, 1, 2, 3, 4, 5, rfl⟩
        ⟨fun _ _ _ => rfl, fun _ => rfl⟩
    have path : start.todaysPath log = lit "/logs/audit_20260102.log" := by decide +kernel
    have done : (start.openLog [] (lit "logs") (.ofInt 20) false).1 = .ok log := by decide +kernel
    exact path ▸ begun.opened (by decide) (by decide) (Prod.ext done rfl)
  have holds : log.Holds archive.host (lit "audit_20260102.log") (Utf8.octets []) :=
    { directory := ⟨by decide +kernel, [[108, 111, 103, 115]], 0o700, by decide +kernel⟩
      listed := ⟨[lit "audit_20260102.log"], by decide +kernel⟩
      named := by decide +kernel
      read := by decide +kernel }
  have faults : archive.host.faults = start.host.faults :=
    (settled.run (Session.openLog [] (lit "logs") (.ofInt 20) false .initial)).faults
  have accessible : log.Accessible archive.host (lit "audit_20260102.log") :=
    ⟨fun _ => by rw [faults]; rfl, fun _ => by rw [faults]; rfl, fun _ => by rw [faults]; rfl⟩
  have presents : event.Presents (lit "A\nB") [] := .authenticated false
  obtain ⟨told, written, -, recent⟩ := reaches.recent_tell (by decide) presents
  rw [if_pos (by decide +kernel)] at written
  obtain ⟨first, forged, cut, rfl, -⟩ := written
  have lines : Text.lines (lit "A\nB" ++ [] ++ [10]) = [lit "A\n", lit "B\n"] := by decide +kernel
  obtain ⟨rfl, rfl⟩ : first = lit "A\n" ∧ forged = [lit "B\n"] := by
    simpa using cut.symm.trans lines
  have read := recent log _ [] (by decide +kernel) (by decide +kernel) holds accessible (by decide)
    (by decide) 100
  exact ⟨reaches, holds, accessible, presents, read.trans (by decide +kernel)⟩

/-- An id pretends that another one has been accepted. What is read back is what would be there if both
had been presented. Another id cannot be encoded and leaves no line. -/
theorem Reaches.recent_tell_forged :
    let start : Archive := ⟨.initial, { Host.calm .empty with moment := .ofFields 2026 1 2 3 4 5 }⟩
    let archive := (start.openLog [] (lit "logs") (.ofInt 20) false).2
    let log : Log := ⟨Path.ofText (lit "logs")⟩
    let forging := lit "A\n2026-01-02 03:04:05 | INFO | AUTH_SUCCESS | key_id=root"
    let lines := [lit "2026-01-02 03:04:05 | WARNING | AUTH_FAILURE | key_id=A\n",
      lit "2026-01-02 03:04:05 | INFO | AUTH_SUCCESS | key_id=root\n"]
    Reaches (.open ⟨20, start.todaysPath log⟩) archive ∧
      ((log.recent (.ofInt 100) archive.channel).run archive.host).1 = .ok [] ∧
      ((log.recent (.ofInt 100) archive.channel).run
        (archive.tell (.authenticated (.ofText forging) false)).host).1 = .ok lines ∧
      ((log.recent (.ofInt 100) archive.channel).run
        ((archive.tell (.authenticated (lit "A") false)).tell
          (.authenticated (lit "root") true)).host).1 = .ok lines ∧
      ((log.recent (.ofInt 100) archive.channel).run
        (archive.tell (.authenticated (.ofText [0xD800]) false)).host).1 = .ok [] := by
  intro start archive log forging lines
  have begun : Reaches .closed start :=
    .begin ⟨.empty, Tree.isDirectory_nil _⟩ .empty ⟨2026, 1, 2, 3, 4, 5, rfl⟩
      ⟨fun _ _ _ => rfl, fun _ => rfl⟩
  have done : (start.openLog [] (lit "logs") (.ofInt 20) false).1 = .ok log := by decide +kernel
  exact ⟨begun.opened (by decide) (by decide) (Prod.ext done rfl), by decide +kernel,
    by decide +kernel, by decide +kernel, by decide +kernel⟩

end Archive

end Audit

end Keyring
