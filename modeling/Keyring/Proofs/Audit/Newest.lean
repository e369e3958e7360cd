import Keyring.Audit.Log
import Keyring.Proofs.Entries.Listing
import Keyring.Proofs.Host.Routine
import Keyring.Proofs.Text.Blocks

/-!
# The newest file of a log

A log is read back from the file whose name comes last (`Log.Newest`). If that file holds text, the
lines that are asked for are the last lines of this text (`Log.Newest.recent_eq`), and all of its lines
if none are asked for.
-/

namespace Keyring

/-- What is put in order ends with what no other comes after. -/
theorem Text.getLast?_mergeSort {texts : List Text} {last : Text} (member : last ∈ texts)
    (greatest : ∀ text ∈ texts, Text.le text last = true) :
    (texts.mergeSort Text.le).getLast? = some last := by
  have total (text other : Text) : (Text.le text other || Text.le other text) = true := by
    rw [Bool.or_eq_true, Text.le_iff, Text.le_iff]
    exact le_total text other
  have transitive (text other third : Text) (first : Text.le text other = true)
      (next : Text.le other third = true) : Text.le text third = true :=
    Text.le_iff.mpr (le_trans (Text.le_iff.mp first) (Text.le_iff.mp next))
  have ordered := List.pairwise_mergeSort transitive total texts
  have among : last ∈ texts.mergeSort Text.le := List.mem_mergeSort.mpr member
  obtain ⟨before, final, split⟩ := List.eq_nil_or_concat (texts.mergeSort Text.le) |>.resolve_left
    (List.ne_nil_of_mem among)
  rw [List.concat_eq_append] at split
  rw [split] at ordered among
  rw [split, List.getLast?_concat]
  have listed : final ∈ texts := List.mem_mergeSort.mp (by rw [split]; simp)
  rcases List.mem_append.mp among with earlier | final'
  · have below := (List.pairwise_append.mp ordered).2.2 last earlier final (by simp)
    exact congrArg some
      (le_antisymm (Text.le_iff.mp (greatest final listed)) (Text.le_iff.mp below))
  · rw [List.mem_singleton.mp final']

namespace Audit.Log

variable {log : Log} {channel : Channel} {host ready : Host} {name : Text} {content : Bytes}
  {text : Text}

/-- The newest file of a log is there to be read: the directory lists it, with no audit file whose name
comes after its name, and it holds some octets once a channel has handed over what waits. -/
structure Newest (log : Log) (channel : Channel) (host : Host) (name : Text) (content : Bytes)
    (ready : Host) : Prop where
  directory : (host.answer (.isDirectory log.directory.toText)).1 = .ok true
  listed : ∃ names, (host.answer (.list log.directory.toText)).1 = .ok names ∧ name ∈ names ∧
    ∀ other ∈ names, isFileName other = true → Text.le other name = true
  named : isFileName name = true
  flushed : (Sink.flushEach channel.sinks).run (host.answer (.list log.directory.toText)).2 =
    (.ok (), ready)
  read : (ready.answer (.readFile (log.filePath name))).1 = .ok content

/-- The last of the files of a log is the newest. -/
theorem Newest.run_files (newest : log.Newest channel host name content ready) :
    ∃ files, log.files.run host = (.ok files, (host.answer (.list log.directory.toText)).2) ∧
      files.getLast? = some (log.filePath name) := by
  obtain ⟨names, listed, member, greatest⟩ := newest.listed
  have last : ((names.filter isFileName).mergeSort Text.le).getLast? = some name :=
    Text.getLast?_mergeSort (List.mem_filter.mpr ⟨member, newest.named⟩) fun other among =>
      greatest other (List.mem_filter.mp among).1 (List.mem_filter.mp among).2
  refine ⟨((names.filter isFileName).mergeSort Text.le).map log.filePath, ?_, ?_⟩
  · unfold files
    rw [Plan.bind_eq_bind, Plan.run_bind, Plan.run_request, newest.directory]
    dsimp only
    have same : (host.answer (.isDirectory log.directory.toText)).2 = host := rfl
    rw [Plan.bind_eq_bind, Plan.run_bind, Plan.run_request, same, listed]
    rfl
  · rw [List.getLast?_map, last]
    rfl

/-- A file of text has the lines of the text. -/
theorem fileLines_octets (encodable : Utf8.isEncodable text = true) :
    fileLines (Utf8.octets text) = .ok (Text.lines text) := by
  unfold fileLines
  rw [Utf8.decodeBlocks_octets (by decide) encodable]

/-- What is read back is the last lines of the newest file. -/
theorem Newest.recent_eq (newest : log.Newest channel host name (Utf8.octets text) ready)
    (encodable : Utf8.isEncodable text = true) (count : Int) :
    ((log.recent (.ofInt count) channel).run host).1 =
      .ok (lastLines count (Text.lines text)) := by
  obtain ⟨files, run, last⟩ := newest.run_files
  unfold recent
  rw [Plan.run_onSuccess, run]
  dsimp only
  rw [last]
  dsimp only
  rw [Plan.bind_eq_bind, Plan.run_bind, newest.flushed]
  dsimp only
  unfold readBack
  rw [Plan.bind_eq_bind, Plan.run_bind, Plan.run_request, newest.read]
  dsimp only
  rw [fileLines_octets encodable]
  rfl

/-- The last lines are some of the lines, in their order and with nothing left out after them. All lines
are the last ones where none are wanted, and otherwise as many as are wanted and there. -/
theorem lastLines_ofNat (count : Nat) (lines : List Text) :
    ∃ before, lines = before ++ lastLines count lines ∧
      (lastLines count lines).length = if count = 0 then lines.length else min count lines.length := by
  unfold lastLines
  by_cases none : count = 0
  · subst none
    exact ⟨[], rfl, rfl⟩
  · rw [if_neg (by omega), if_pos (by omega), if_neg none, Int.toNat_natCast]
    refine ⟨lines.take (lines.length - count), (List.take_append_drop ..).symm, ?_⟩
    rw [List.length_drop]
    omega

/-- Reading a log back is routine. -/
theorem isRoutine_recent (log : Log) (count : Cell) (channel : Channel) :
    (log.recent count channel).IsRoutine := by
  have listing : log.files.IsRoutine := by
    refine (Plan.isRoutine_request rfl).bind fun
      | .error fault => Plan.isRoutine_done _
      | .ok false => Plan.isRoutine_done _
      | .ok true => (Plan.isRoutine_request rfl).bind fun
        | .error (.badPath fault) => Plan.isRoutine_done _
        | .error (.system error) => ?_
        | .ok names => Plan.isRoutine_done _
    dsimp only
    split <;> exact Plan.isRoutine_done _
  refine listing.onSuccess fun files => ?_
  split
  · exact Plan.isRoutine_done _
  · exact (Sink.isRoutine_flushEach channel.sinks).bind fun
      | .error fault => Plan.isRoutine_done _
      | .ok () => (Plan.isRoutine_request rfl).bind fun
        | .error (.badPath fault) => Plan.isRoutine_done _
        | .error (.system error) => Plan.isRoutine_done _
        | .ok content => Plan.isRoutine_done _

end Audit.Log

end Keyring
