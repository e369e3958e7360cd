import Keyring.Proofs.Host.Calm
import Keyring.Proofs.Host.Upkeep
import Keyring.Proofs.Host.Vacancy
import Keyring.Proofs.Keychain.Storage

/-!
# Reading what a path leads to

A keychain is loaded with the entries of what its path leads to, and on a host that tells of no missing
file by mistake it is loaded from nothing else (`load_eq_ok`). Where nothing fails by itself it is
loaded whenever these entries can be read (`load_calmed`).
-/

namespace Keyring

/-- Only the trouble of a missing file is told as one. -/
theorem Trouble.isMissing_error {trouble : Trouble} {operands : List Text}
    (missing : (trouble.error operands).isMissing = true) : trouble = .missing := by
  cases trouble <;> first | rfl | cases missing

namespace Host

/-- Reading a file leaves everything but the number of calls as it is. -/
theorem snd_answer_readFile (host : Host) (path : Text) :
    (host.answer (.readFile path)).2 = { host with performed := host.performed + 1 } := by
  have same : (host.answer (.readFile path)).2.tree = host.tree :=
    tree_attempt (· = host.tree) rfl fun _ after had => by
      cases read : host.tree.read host.current path <;> simp [read, Except.map] at had
      exact had.2.symm
  have kept : (host.answer (.readFile path)).2 =
      { host with
        performed := host.performed + 1
        tree := (host.answer (.readFile path)).2.tree } := snd_attempt
  rw [kept, same]

/-- What is read is what the path leads to. -/
theorem answer_readFile_ok {host : Host} {path : Text} {content : Bytes}
    (done : (host.answer (.readFile path)).1 = .ok content) :
    Path.fault? path = none ∧ host.tree.read host.current path = .ok content := by
  unfold answer attempt at done
  dsimp only at done
  split at done
  · cases done
  · split at done
    · cases done
    · rename_i proper
      cases read : host.tree.read host.current path with
      | error trouble => simp [read, Except.map] at done
      | ok found =>
        simp only [read, Except.map, Except.ok.injEq] at done
        subst done
        exact ⟨by simpa using proper, rfl⟩

/-- A host that is honest about a path never says by mistake that nothing has the path. -/
def IsHonest (host : Host) (path : Text) : Prop :=
  ∀ count error, host.faults count (.readFile path) = some error → error.isMissing = false

/-- What an honest host says is missing is missing. -/
theorem answer_readFile_missing {host : Host} {path : Text} {error : SystemError}
    (honest : host.IsHonest path)
    (failed : (host.answer (.readFile path)).1 = .error (.system error))
    (missing : error.isMissing = true) :
    Path.fault? path = none ∧ host.tree.read host.current path = .error .missing := by
  unfold answer attempt at failed
  dsimp only at failed
  split at failed
  · rename_i fails
    cases failed
    simp [honest _ _ fails] at missing
  · split at failed
    · cases failed
    · rename_i proper
      cases read : host.tree.read host.current path with
      | ok found => simp [read, Except.map] at failed
      | error trouble =>
        simp only [read, Except.map, Except.error.injEq, CallError.system.injEq] at failed
        subst failed
        exact ⟨by simpa using proper, by rw [Trouble.isMissing_error missing]⟩

/-- Where no call fails by itself, a file is read or the trouble with its path is told. -/
theorem answer_readFile_calmed (host : Host) {path : Text} (proper : Path.fault? path = none) :
    (host.calmed.answer (.readFile path)).1 =
      match host.tree.read host.current path with
      | .ok content => .ok content
      | .error trouble => .error (.system (trouble.error [path])) := by
  unfold answer attempt calmed
  cases read : host.tree.read host.current path <;> simp [proper, read, Except.map]

/-- Where no call fails by itself, files that are read alike give one reply. -/
theorem fst_answer_calmed_congr {host other : Host} {path : Text}
    (same : other.tree.read other.current path = host.tree.read host.current path) :
    (other.calmed.answer (.readFile path)).1 = (host.calmed.answer (.readFile path)).1 := by
  unfold answer attempt calmed
  dsimp only
  rw [same]
  split
  · rfl
  · cases host.tree.read host.current path <;> rfl

end Host

namespace KeychainFile

/-- The entries that a content is read as. Where there is no file there are none. -/
def entriesOf : Option Bytes → Except Nat Entries
  | none => .ok []
  | some content => Entries.parse content

end KeychainFile

namespace Keychain

open KeychainFile (entriesOf)

variable {name : Text} {host : Host} {keychain : Keychain}

/-- Loading leaves everything but the number of calls as it is. -/
theorem snd_run_load (name : Text) (host : Host) :
    ((load name).run host).2 = { host with performed := host.performed + 1 } := by
  rw [run_load, KeychainFile.run_read]
  rw [Host.snd_answer_readFile]
  split <;> simp_all

/-- A keychain is loaded with the entries of what the path leads to. -/
theorem load_eq_ok (honest : host.IsHonest name) {content? : Option Bytes}
    (finds : host.tree.Finds host.current name content?)
    (loaded : ((load name).run host).1 = .ok keychain) :
    Path.fault? name = none ∧ keychain.name = name ∧
      entriesOf content? = .ok keychain.entries := by
  rw [run_load, KeychainFile.run_read] at loaded
  split at loaded
  · cases loaded
  · rename_i entries after read
    cases loaded
    replace read := congrArg Prod.fst read
    dsimp only at read
    split at read
    · rename_i content done
      obtain ⟨proper, shown⟩ := Host.answer_readFile_ok done
      obtain rfl : some content = content? := finds.content_eq shown
      cases parsed : Entries.parseFile name content with
      | error failure => simp [parsed, Except.map] at read
      | ok found =>
        rw [parsed] at read
        cases read
        exact ⟨proper, rfl, Entries.parseFile_eq_ok_iff.mp parsed⟩
    · cases read
    · rename_i error failed
      split at read
      · rename_i missing
        cases read
        obtain ⟨proper, shown⟩ := Host.answer_readFile_missing honest failed missing
        obtain rfl : none = content? := finds.content_eq_none shown
        exact ⟨proper, rfl, rfl⟩
      · cases read

/-- Where no call fails by itself, the keychain of what a path leads to is loaded if it can be
read. -/
theorem fst_load_calmed {content? : Option Bytes} {entries : Entries}
    (proper : Path.fault? name = none) (finds : host.tree.Finds host.current name content?)
    (read : entriesOf content? = .ok entries) :
    ((load name).run host.calmed).1 = .ok (ofFile name (content?.map fun _ => entries)) := by
  rw [run_load, KeychainFile.run_read, Host.answer_readFile_calmed host proper]
  cases content? with
  | some content =>
    have shown : host.tree.read host.current name = .ok content := finds
    have parsed : Entries.parseFile name content = .ok entries := Entries.parseFile_eq_ok_iff.mpr read
    simp [shown, parsed, Except.map]
  | none =>
    have missing : host.tree.read host.current name = .error .missing := finds
    rw [missing]
    rfl

/-- The keychain of what a path leads to has its entries. -/
theorem entries_ofFile_map {content? : Option Bytes} {entries : Entries}
    (read : entriesOf content? = .ok entries) :
    (ofFile name (content?.map fun _ => entries)).entries = entries := by
  cases content? with
  | some content => rfl
  | none => exact Except.ok.inj read

/-- Where no call fails by itself, what a path leads to is loaded if it can be read. -/
theorem load_calmed {content? : Option Bytes} {entries : Entries}
    (proper : Path.fault? name = none) (finds : host.tree.Finds host.current name content?)
    (read : entriesOf content? = .ok entries) :
    ∃ keychain, ((load name).run host.calmed).1 = .ok keychain ∧ keychain.entries = entries :=
  ⟨_, fst_load_calmed proper finds read, entries_ofFile_map read⟩

/-- A keychain is loaded as its file is read. -/
theorem fst_load_congr {other : Host}
    (same : (other.answer (.readFile name)).1 = (host.answer (.readFile name)).1) :
    ((load name).run other).1 = ((load name).run host).1 := by
  rw [run_load, run_load, KeychainFile.run_read, KeychainFile.run_read, same]
  split <;> split <;> simp_all

/-- Where no call fails by itself, files that are read alike are loaded alike. -/
theorem fst_load_calmed_congr {other : Host}
    (same : other.tree.read other.current name = host.tree.read host.current name) :
    ((load name).run other.calmed).1 = ((load name).run host.calmed).1 :=
  fst_load_congr (Host.fst_answer_calmed_congr same)

end Keychain

end Keyring
