import Keyring.Proofs.Custodian.Task
import Keyring.Proofs.KeychainFile.Read
import Keyring.Proofs.KeychainFile.Write

/-!
# One task

What a task leaves in memory and in the file, if the custodian has the keychain loaded. A task that
fails leaves both as they were, and one that succeeds leaves the change that its result tells of
(`Rests`). The file need not have held what the keychain held: saving writes all of it.
-/

namespace Keyring

open Entries (Agree)
open KeychainFile (entriesOf)

/-- Surroundings in which a path can be relied on, and which have some content there or none. If
saving may fail, then the path must not come to lead elsewhere meanwhile. -/
structure Host.Suits (host : Host) (mayFail : Prop) (path : Text) (content? : Option Bytes) :
    Prop where
  settled : host.Settled
  /-- A mark is part of a name. -/
  single : ∀ index, Path.separator ∉ host.marks index
  honest : host.IsHonest path
  finds : host.tree.Finds host.current path content?
  shows : mayFail → host.tree.Shows host.current path content?

namespace Host

variable {host after : Host} {mayFail : Prop} {path : Text} {content? later? : Option Bytes}

/-- Surroundings stay suitable, whatever the path leads to then. -/
theorem Follows.suits (follows : host.Follows after) (suits : host.Suits mayFail path content?)
    (finds : after.tree.Finds host.current path later?)
    (shows : mayFail → after.tree.Shows host.current path later?) :
    after.Suits mayFail path later? where
  settled := follows.settled suits.settled
  single := follows.marks ▸ suits.single
  honest := by
    unfold IsHonest
    rw [follows.faults]
    exact suits.honest
  finds := by
    rw [follows.current]
    exact finds
  shows := by
    rw [follows.current]
    exact shows

/-- Surroundings stay suitable if no call fails by itself any more. -/
theorem Suits.calmed (suits : host.Suits mayFail path content?) :
    host.calmed.Suits mayFail path content? where
  settled := ⟨suits.settled.wellFormed, suits.settled.current⟩
  single := suits.single
  honest := fun _ _ fails => by cases fails
  finds := suits.finds
  shows := suits.shows

/-- Surroundings suit every path that they are honest about, if one looks from the root and the marks
are numbers. -/
theorem Suits.of_root (wellFormed : host.tree.WellFormed) (root : host.current = [])
    (marks : host.marks = Text.ofNat) (honest : host.IsHonest path)
    (shows : host.tree.Shows host.current path content?) : host.Suits mayFail path content? where
  settled := ⟨wellFormed, root ▸ Tree.isDirectory_nil _⟩
  single := marks ▸ Text.separator_notMem_ofNat
  honest := honest
  finds := shows.finds
  shows := fun _ => shows

end Host

/-- The file holds some entries, in whatever order. -/
def KeychainFile.Holds (content? : Option Bytes) (entries : Entries) : Prop :=
  ∃ stored, entriesOf content? = .ok stored ∧ Agree entries stored

open KeychainFile (Holds)

/-! ## Keychains of a path -/

/-- A keychain that can be saved to a path. -/
structure Keychain.Serves (keychain : Keychain) (path : Text) (messages : List Bytes) : Prop where
  proper : Path.fault? path = none
  named : keychain.name = path
  sound : keychain.Sound messages

namespace Keychain.Serves

variable {keychain : Keychain} {path : Text} {messages : List Bytes} {host : Host}
  {mayFail : Prop} {content? : Option Bytes}

theorem released (serves : keychain.Serves path messages) (side : Side) :
    (keychain.released side).Serves path messages :=
  ⟨serves.proper, serves.named, serves.sound.released side⟩

theorem add (serves : keychain.Serves path messages) (id : Cell) (hash : Given) :
    (keychain.add id hash.toCell).2.Serves path messages where
  proper := serves.proper
  named := by simp [serves.named]
  sound := by
    have sound : Sound (messages ++ []) (keychain.add id hash.toCell).2 := serves.sound.add id hash
    rwa [List.append_nil] at sound

theorem remove (serves : keychain.Serves path messages) (id : Cell) :
    (keychain.remove id).2.Serves path messages where
  proper := serves.proper
  named := by simp [serves.named]
  sound := by
    have sound : Sound (messages ++ []) (keychain.remove id).2 := serves.sound.remove id
    rwa [List.append_nil] at sound

theorem verify (serves : keychain.Serves path messages) (id secret : Cell) :
    (keychain.verify id secret).2.Serves path
      (messages ++ keychain.messages (Action.verify id secret).presented) where
  proper := serves.proper
  named := (verify_keeps keychain id secret).1.trans serves.named
  sound := serves.sound.verify id secret

/-- A keychain that is saved is what the file holds then. If it cannot be saved and that may happen,
the path leads to what it led to before. -/
theorem run_save (serves : keychain.Serves path messages)
    (suits : host.Suits mayFail path content?) :
    (keychain.save.run host).1.2 = keychain.released .write ∧
      match (keychain.save.run host).1.1 with
      | .ok () => ∃ content, (keychain.save.run host).2.Suits mayFail path (some content) ∧
        Holds (some content) keychain.entries
      | .error _ => mayFail → (keychain.save.run host).2.Suits mayFail path content? := by
  obtain ⟨content, written, read⟩ := serves.sound.storable.parse_render
  have dumped : keychain.dumps = .ok content := written
  have ends := KeychainFile.ends_write suits.settled suits.single path content
  have follows := suits.settled.run (KeychainFile.write path content)
  rw [Keychain.run_save, dumped, serves.named]
  dsimp only
  unfold Plan.Ends at ends
  generalize (KeychainFile.write path content).run host = outcome at ends follows ⊢
  obtain ⟨failure | ⟨⟩, later⟩ := outcome
  · refine ⟨rfl, fun mayFail => ?_⟩
    have shows := ends content? (suits.shows mayFail)
    exact follows.suits suits shows.finds fun _ => shows
  · exact ⟨rfl, content, follows.suits suits ends fun _ => ends, _, read, .refl _⟩

end Keychain.Serves

namespace Custodian

open Duty

variable {α β : Type} {messages : List Bytes} {mayFail : Prop} {path : Text}
  {content? : Option Bytes} {keychain changed : Keychain} {entries : Entries} {host : Host}
  {recorded : List Audit.Event}

/-- What comes of a duty that is begun with some content and some entries. If its result tells of
edited entries, memory and file have these; if not, both are as they were. -/
structure Rests (messages : List Bytes) (mayFail : Prop) (path : Text) (content? : Option Bytes)
    (entries : Entries) (edited : α → Option Entries) (outcome : Outcome α) : Prop where
  here : outcome.custodian.path = path
  kept : ∃ keychain later?, outcome.custodian.keychain = some keychain ∧
    keychain.Serves path messages ∧ outcome.host.Suits mayFail path later? ∧
    match outcome.result.toOption.bind edited with
    | some edited => Agree keychain.entries edited ∧ Holds later? keychain.entries
    | none => later? = content? ∧ Agree keychain.entries entries

/-- Where nothing was edited there is nothing to undo. -/
theorem rests_of_agree (serves : keychain.Serves path messages)
    (suits : host.Suits mayFail path content?) (agree : Agree keychain.entries entries)
    (edited : α → Option Entries) (result : Except Failure α)
    (told : ∀ value, result = .ok value → edited value = none) :
    Rests messages mayFail path content? entries edited
      ⟨result, ⟨path, some keychain, recorded⟩, host⟩ := by
  refine ⟨rfl, keychain, content?, rfl, serves, suits, ?_⟩
  cases result with
  | error failure => exact ⟨rfl, agree⟩
  | ok value =>
    dsimp only [Except.toOption, Option.bind]
    rw [told value rfl]
    exact ⟨rfl, agree⟩

/-- A duty rests as its first part does, if it goes on without touching the keychain or files. -/
theorem Rests.bind {duty : Duty α} {next : α → Duty β} {custodian : Custodian}
    {edited : α → Option Entries} {edited' : β → Option Entries}
    (rests : Rests messages mayFail path content? entries edited (duty.outcome custodian host))
    (quiet : ∀ value custodian host, ∃ result recorded, (next value).outcome custodian host =
      ⟨.ok result, { custodian with recorded := recorded }, host⟩ ∧
      edited' result = edited value) :
    Rests messages mayFail path content? entries edited' ((duty >>= next).outcome custodian host) := by
  rw [outcome_bind]
  generalize duty.outcome custodian host = outcome at rests ⊢
  obtain ⟨failure | value, after, later⟩ := outcome
  · exact ⟨rests.here, rests.kept⟩
  · obtain ⟨result, recorded, same, told⟩ := quiet value after later
    obtain ⟨here, kept⟩ := rests
    dsimp only [Except.toOption, Option.bind] at kept
    dsimp only
    rw [same]
    refine ⟨here, ?_⟩
    dsimp only [Except.toOption, Option.bind]
    rw [told]
    exact kept

/-! ## Duties that save -/

/-- A keychain that is saved as it is needs nothing undone. -/
theorem rests_save (serves : keychain.Serves path messages)
    (suits : host.Suits mayFail path content?) (saves : keychain.Saves mayFail host) :
    Rests messages mayFail path content? keychain.entries (fun _ => some keychain.entries)
      (save.outcome ⟨path, some keychain, recorded⟩ host) := by
  have saved := serves.run_save suits
  unfold Keychain.Saves at saves
  rw [outcome_save]
  generalize keychain.save.run host = outcome at saved saves ⊢
  obtain ⟨⟨failure | ⟨⟩, after⟩, later⟩ := outcome
  · obtain ⟨rfl, suits⟩ := saved
    exact ⟨rfl, _, content?, rfl, serves.released .write, suits saves.1, rfl, .refl _⟩
  · obtain ⟨rfl, content, suits, holds⟩ := saved
    exact ⟨rfl, _, some content, rfl, serves.released .write, suits, .refl _, holds⟩

/-- A change that cannot be saved is undone if it can be. -/
theorem rests_saveOr (serves : changed.Serves path messages)
    (suits : host.Suits mayFail path content?) {undo : Duty Unit} (event : Failure → Audit.Event)
    (saves : changed.Saves mayFail host)
    (undoes : ∀ later, ∃ restored : Keychain,
      undo.outcome ⟨path, some (changed.released .write), recorded⟩ later =
        ⟨.ok (), ⟨path, some restored, recorded⟩, later⟩ ∧
      restored.Serves path messages ∧ Agree restored.entries entries) :
    Rests messages mayFail path content? entries (fun _ => some changed.entries)
      ((saveOr undo event).outcome ⟨path, some changed, recorded⟩ host) := by
  have saved := serves.run_save suits
  unfold Keychain.Saves at saves
  rw [outcome_saveOr]
  generalize changed.save.run host = outcome at saved saves ⊢
  obtain ⟨⟨failure | ⟨⟩, after⟩, later⟩ := outcome
  · obtain ⟨rfl, suits⟩ := saved
    obtain ⟨restored, undone, serves, agree⟩ := undoes later
    dsimp only
    rw [if_pos saves.2]
    simp only [outcome_bind, undone, outcome_record, outcome_throw]
    exact ⟨rfl, restored, content?, rfl, serves, suits saves.1, rfl, agree⟩
  · obtain ⟨rfl, content, suits, holds⟩ := saved
    exact ⟨rfl, _, some content, rfl, serves.released .write, suits, .refl _, holds⟩

/-! ## Undoing -/

/-- What was stored for an id is stored for it again, if it can be. -/
theorem outcome_restore_ofBytes {id : Text} {old : Bytes} (host : Host)
    (acceptable : Entries.isAcceptable id old = true) :
    (restore (.ofText id) (.ofBytes old)).outcome ⟨path, some keychain, recorded⟩ host =
      ⟨.ok (), ⟨path, some (keychain.add (.ofText id) (.ofBytes old)).2, recorded⟩, host⟩ := by
  rw [restore, outcome_addUnsaved, (keychain.add_of_isAcceptable acceptable).1]
  simp

/-- An id that was not stored is removed again. -/
theorem outcome_restore_absent {id : Cell} (host : Host)
    (stored : keychain.contains id = .ok true) :
    (restore id .absent).outcome ⟨path, some keychain, recorded⟩ host =
      ⟨.ok (), ⟨path, some (keychain.remove id).2, recorded⟩, host⟩ := by
  rw [restore, outcome_bind, outcome_removeUnsaved, (Keychain.remove_of_contains stored).1]
  rfl

/-- A hash that was put for an id is taken back. -/
theorem undoes_put (serves : keychain.Serves path messages) {id previous : Cell} {hash : Given}
    (had : keychain.hashOf id = .ok previous)
    (added : (keychain.add id hash.toCell).1 = .ok ()) (later : Host) :
    ∃ restored : Keychain,
      (restore id previous).outcome
          ⟨path, some ((keychain.add id hash.toCell).2.released .write), recorded⟩ later =
        ⟨.ok (), ⟨path, some restored, recorded⟩, later⟩ ∧
      restored.Serves path messages ∧ Agree restored.entries keychain.entries := by
  have put := (serves.add id hash).released .write
  obtain ⟨text, bytes, rfl, acceptable, entries⟩ := Keychain.add_eq_ok added
  rw [← Keychain.entries_released _ .write] at entries
  generalize (keychain.add (.ofText text) hash.toCell).2.released .write = after at put entries ⊢
  by_cases there : keychain.contains (.ofText text) = .ok true
  · obtain ⟨_, old, equal, storable, stored, hash⟩ :=
      Keychain.hashOf_of_contains serves.sound.storable there
    cases equal
    obtain rfl : .ofBytes old = previous := by simpa [had, eq_comm] using hash
    refine ⟨_, outcome_restore_ofBytes later storable, put.add _ (.ofBytes old), ?_⟩
    rw [(after.add_of_isAcceptable storable).2, entries]
    exact .put_put _ stored
  · obtain ⟨fresh, absent⟩ := Keychain.hashOf_of_not_contains_ofText there
    obtain rfl : .absent = previous := by simpa [had, eq_comm] using absent
    have stored : after.contains (.ofText text) = .ok true := by
      have found : after.entries.get? (.ofText text) = some (.ofBytes bytes) := by
        simp [entries, Named.get?_put]
      exact Keychain.contains_of_get? found
    refine ⟨_, outcome_restore_absent later stored, put.remove _, ?_⟩
    rw [(Keychain.remove_of_contains stored).2, entries]
    exact .erase_put _ fresh

/-- An id that was removed gets its hash back. -/
theorem undoes_remove (serves : keychain.Serves path messages) {id previous : Cell}
    (had : keychain.hashOf id = .ok previous) (there : keychain.contains id = .ok true)
    (later : Host) :
    ∃ restored : Keychain,
      (restore id previous).outcome
          ⟨path, some ((keychain.remove id).2.released .write), recorded⟩ later =
        ⟨.ok (), ⟨path, some restored, recorded⟩, later⟩ ∧
      restored.Serves path messages ∧ Agree restored.entries keychain.entries := by
  have removed := (serves.remove id).released .write
  have entries := (Keychain.remove_of_contains there).2
  obtain ⟨text, old, rfl, storable, stored, hash⟩ :=
    Keychain.hashOf_of_contains serves.sound.storable there
  obtain rfl : .ofBytes old = previous := by simpa [had, eq_comm] using hash
  rw [← Keychain.entries_released _ .write] at entries
  generalize (keychain.remove (.ofText text)).2.released .write = after at removed entries ⊢
  refine ⟨_, outcome_restore_ofBytes later storable, removed.add _ (.ofBytes old), ?_⟩
  rw [(after.add_of_isAcceptable storable).2, entries]
  exact .put_erase stored

/-! ## Tasks -/

/-- A hash that is put is saved or taken back. -/
theorem rests_putAndSave (serves : keychain.Serves path messages)
    (suits : host.Suits mayFail path content?) (id : Cell) (hash : Given)
    (saves : ∀ changed, Task.change.added (keychain.add id hash.toCell) = some changed →
      changed.Saves mayFail host) :
    Rests messages mayFail path content? keychain.entries
      (fun _ => some ((Change.put id hash.toCell).apply keychain.entries))
      ((putAndSave id hash.toCell).outcome ⟨path, some keychain, recorded⟩ host) := by
  rw [outcome_putAndSave]
  cases had : keychain.hashOf id with
  | error failure => exact rests_of_agree serves suits (.refl _) _ (.error failure) (by simp)
  | ok previous =>
    cases added : (keychain.add id hash.toCell).1 with
    | error failure =>
      rw [← Prod.eta (keychain.add id hash.toCell), added, Keychain.add_eq_error added]
      exact rests_of_agree serves suits (.refl _) _ (.error failure) (by simp)
    | ok value =>
      rw [← Keychain.entries_add added]
      rw [← Prod.eta (keychain.add id hash.toCell), added] at saves ⊢
      exact rests_saveOr (serves.add id hash) suits _ (saves _ rfl)
        (undoes_put serves had added)

/-- An id that is removed is saved or put back. -/
theorem rests_remove (serves : keychain.Serves path messages)
    (suits : host.Suits mayFail path content?) (id : Cell)
    (saves : ∀ changed, (Task.remove id).change host keychain = some changed →
      changed.Saves mayFail host) :
    Rests messages mayFail path content? keychain.entries
      (fun removed => ((Task.remove id).receipt removed).map (·.apply keychain.entries))
      ((remove id).outcome ⟨path, some keychain, recorded⟩ host) := by
  unfold remove
  rw [outcome_bind, outcome_hashOf]
  by_cases there : keychain.contains id = .ok true
  · obtain ⟨-, old, -, -, -, had⟩ := Keychain.hashOf_of_contains serves.sound.storable there
    obtain ⟨removed, erased⟩ := Keychain.remove_of_contains there
    have pair : keychain.remove id = (.ok true, (keychain.remove id).2) := Prod.ext removed rfl
    have change : (Task.remove id).change host keychain = some (keychain.remove id).2 := by
      rw [Task.change, pair]
    rw [had]
    dsimp only
    rw [outcome_bind, outcome_removeUnsaved, removed]
    refine Rests.bind (rests_saveOr (serves.remove id) suits _ (saves _ change)
      (undoes_remove serves had there)) fun _ _ _ => ⟨_, _, rfl, ?_⟩
    rw [erased]
    rfl
  · rcases Keychain.hashOf_of_not_contains there with ⟨failure, had⟩ | had
    · rw [had]
      exact rests_of_agree serves suits (.refl _) _ (.error failure) (by simp)
    · rw [had]
      exact rests_of_agree serves suits (.refl _) _ (.ok false) (by simp [Task.receipt])

/-- What comes of the rest of a task, if the keychain is loaded. A new credential comes from a host
of its own. -/
theorem rests_rest (serves : keychain.Serves path messages)
    (suits : host.Suits mayFail path content?) (task : Task) (source : Host)
    (saves : ∀ changed, task.change source keychain = some changed →
      changed.Saves mayFail host) :
    Rests (messages ++ keychain.messages task.presented) mayFail path content? keychain.entries
      (fun value => (task.receipt value).map (·.apply keychain.entries))
      ((task.rest source).outcome ⟨path, some keychain, recorded⟩ host) := by
  have nothing : messages ++ keychain.messages none = messages := List.append_nil _
  cases task with
  | verify id secret =>
    have agree : Agree (keychain.verify id secret).2.entries keychain.entries :=
      (Keychain.verify_keeps keychain id secret).2 ▸ .refl _
    have rests : Rests (messages ++ keychain.messages (Task.verify id secret).presented)
        mayFail path content? keychain.entries (fun _ => none)
        ((withKeychain fun keychain => keychain.verify id secret).outcome
          ⟨path, some keychain, recorded⟩ host) := by
      rw [outcome_withKeychain]
      exact rests_of_agree (serves.verify id secret) suits agree _ _ (by simp)
    exact rests.bind fun _ _ _ => ⟨_, _, rfl, rfl⟩
  | create =>
    simp only [Task.presented, nothing]
    unfold Task.rest
    dsimp only
    rw [outcome_bind, outcome_ofExcept]
    unfold Task.change at saves
    generalize (source.answer .issue).1 = issue at saves ⊢
    cases issue with
    | error failure => exact rests_of_agree serves suits (.refl _) _ (.error failure) (by simp)
    | ok credential =>
      exact (rests_putAndSave serves suits (.ofText credential.id) (.ofBytes credential.hash)
        saves).bind fun _ _ _ => ⟨_, _, rfl, rfl⟩
  | add id hash =>
    simp only [Task.presented, nothing]
    exact (rests_putAndSave serves suits id hash saves).bind fun _ _ _ => ⟨_, _, rfl, rfl⟩
  | remove id =>
    simp only [Task.presented, nothing]
    exact rests_remove serves suits id saves
  | ids =>
    simp only [Task.presented, nothing]
    unfold Task.rest Task.duty ids
    simp only [outcome_bind, outcome_opened, outcome_ofExcept]
    exact rests_of_agree serves suits (.refl _) _ _ (by simp [Task.receipt])
  | save =>
    simp only [Task.presented, nothing]
    exact rests_save serves suits (saves _ rfl)

end Custodian

end Keyring
