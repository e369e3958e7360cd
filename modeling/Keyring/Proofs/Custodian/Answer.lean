import Keyring.Proofs.Custodian.Performance

/-!
# What a task answers

The result of a task is told by the keychain that the custodian has loaded and by what saving comes
to, if the task saves (`Task.answer`). Whatever the custodian does besides, to undo a change or to
record it, has no part in the result and makes no calls (`Serves.perform_gives`).
-/

namespace Keyring

/-- This comes of a duty, whatever becomes of the custodian. -/
def Outcome.Gives {α : Type} (outcome : Outcome α) (result : Except Failure α) (host : Host) :
    Prop :=
  outcome.result = result ∧ outcome.host = host

namespace Keychain

/-- An id is stored if it has a hash, since what is stored is never nothing. -/
theorem contains_eq_map_hashOf {keychain : Keychain} (storable : keychain.entries.Storable)
    (id : Cell) :
    keychain.contains id = (keychain.hashOf id).map fun hash => decide (hash ≠ .absent) := by
  unfold contains hashOf
  cases id.soughtId with
  | error failure => rfl
  | ok id =>
    cases found : keychain.entries.get? id with
    | none => simp [Except.map, Named.contains, found]
    | some value =>
      obtain ⟨_, hash, -, rfl, -⟩ := storable.get?_eq_some found
      simp [Except.map, Named.contains, found]

/-- What saving a keychain comes to, and the host after it; where there is none to be saved, nothing
happens. -/
def saveGiven (changed? : Option Keychain) (host : Host) : Except Failure Unit × Host :=
  match changed? with
  | some changed => ((changed.save.run host).1.1, (changed.save.run host).2)
  | none => (.ok (), host)

end Keychain

namespace Task

/-- What putting a hash for an id comes to, if saving comes to this. -/
def putting (keychain : Keychain) (id hash : Cell) (saved : Except Failure Unit) :
    Except Failure Unit :=
  (keychain.hashOf id).bind fun _ => (keychain.add id hash).1.bind fun () => saved

/-- What a task with a loaded keychain answers, if a new credential and saving come to these. -/
def answer (task : Task) (issued : Except Failure Credential) (keychain : Keychain)
    (saved : Except Failure Unit) : Except Failure task.Result :=
  match task with
  | .create => issued.bind fun credential =>
    (putting keychain (.ofText credential.id) (.ofBytes credential.hash) saved).map fun () =>
      credential
  | .add id hash => putting keychain id hash.toCell saved
  | .remove id => (keychain.contains id).bind fun stored =>
    if stored then saved.map fun () => true else .ok false
  | .verify id secret => (keychain.verify id secret).1
  | .ids => Cell.sorted keychain.ids
  | .save => saved

/-- What was added is to be saved. -/
theorem added_eq_some {keychain : Keychain} {id hash : Cell}
    (added : (keychain.add id hash).1 = .ok ()) :
    change.added (keychain.add id hash) = some (keychain.add id hash).2 := by
  generalize keychain.add id hash = outcome at added ⊢
  obtain ⟨_, after⟩ := outcome
  cases added
  rfl

end Task

namespace Custodian

open Duty

variable {α β : Type} {messages : List Bytes} {path : Text} {keychain changed : Keychain}
  {host : Host} {recorded : List Audit.Event}

/-- A duty that goes on without failing and without calls gives what its first part gives. -/
theorem gives_bind {duty : Duty α} {next : α → Duty β} {custodian : Custodian}
    {result : Except Failure α} {later : Host}
    (gives : (duty.outcome custodian host).Gives result later) {told : α → β}
    (quiet : ∀ value custodian host, ∃ recorded, (next value).outcome custodian host =
      ⟨.ok (told value), { custodian with recorded := recorded }, host⟩) :
    ((duty >>= next).outcome custodian host).Gives (result.map told) later := by
  rw [outcome_bind]
  obtain ⟨rfl, rfl⟩ := gives
  generalize duty.outcome custodian host = outcome
  obtain ⟨failure | value, after, later⟩ := outcome
  · exact ⟨rfl, rfl⟩
  · obtain ⟨recorded, same⟩ := quiet value after later
    dsimp only
    rw [same]
    exact ⟨rfl, rfl⟩

/-- A duty that goes on with the same value gives what its first part gives. -/
theorem gives_bind_same {duty : Duty α} {next : α → Duty α} {custodian : Custodian}
    {result : Except Failure α} {later : Host}
    (gives : (duty.outcome custodian host).Gives result later)
    (quiet : ∀ value custodian host, ∃ recorded, (next value).outcome custodian host =
      ⟨.ok value, { custodian with recorded := recorded }, host⟩) :
    ((duty >>= next).outcome custodian host).Gives result later := by
  have mapped := gives_bind gives quiet
  have same : result.map (fun value => value) = result := by cases result <;> rfl
  rwa [same] at mapped

/-- Whether a change is undone or not, the result is what saving comes to. -/
theorem gives_saveOr {undo : Duty Unit} (event : Failure → Audit.Event)
    (undoes : ∀ later, ∃ restored : Keychain,
      undo.outcome ⟨path, some (changed.released .write), recorded⟩ later =
        ⟨.ok (), ⟨path, some restored, recorded⟩, later⟩) :
    ((saveOr undo event).outcome ⟨path, some changed, recorded⟩ host).Gives
      (Keychain.saveGiven (some changed) host).1 (Keychain.saveGiven (some changed) host).2 := by
  have released : (changed.save.run host).1.2 = changed.released .write := by
    rw [Keychain.run_save]
    split <;> rfl
  unfold Keychain.saveGiven
  dsimp only
  rw [outcome_saveOr]
  generalize changed.save.run host = outcome at released ⊢
  obtain ⟨⟨failure | ⟨⟩, after⟩, later⟩ := outcome
  · obtain rfl := released
    obtain ⟨restored, undone⟩ := undoes later
    dsimp only
    split
    · simp only [outcome_bind, undone, outcome_record, outcome_throw]
      exact ⟨rfl, rfl⟩
    · exact ⟨rfl, rfl⟩
  · exact ⟨rfl, rfl⟩

theorem gives_putAndSave (serves : keychain.Serves path messages) (id : Cell) (hash : Given) :
    let saved := Keychain.saveGiven (Task.change.added (keychain.add id hash.toCell)) host
    ((putAndSave id hash.toCell).outcome ⟨path, some keychain, recorded⟩ host).Gives
      (Task.putting keychain id hash.toCell saved.1) saved.2 := by
  intro saved
  have nothing {failure : Failure} (refused : (keychain.add id hash.toCell).1 = .error failure) :
      saved = (.ok (), host) := by
    unfold saved
    rw [← Prod.eta (keychain.add id hash.toCell), refused]
    rfl
  rw [outcome_putAndSave]
  unfold Task.putting
  cases had : keychain.hashOf id with
  | error failure =>
    -- What cannot even be looked up is refused as well, so nothing is saved.
    have refused : ∃ failure, (keychain.add id hash.toCell).1 = .error failure := by
      cases added : (keychain.add id hash.toCell).1 with
      | error failure => exact ⟨failure, rfl⟩
      | ok value =>
        obtain ⟨text, bytes, rfl, -⟩ := Keychain.add_eq_ok added
        cases had
    obtain ⟨failure, refused⟩ := refused
    rw [nothing refused]
    exact ⟨rfl, rfl⟩
  | ok previous =>
    cases added : (keychain.add id hash.toCell).1 with
    | error failure =>
      rw [nothing added, ← Prod.eta (keychain.add id hash.toCell), added]
      exact ⟨rfl, rfl⟩
    | ok value =>
      unfold saved
      rw [Task.added_eq_some added, ← Prod.eta (keychain.add id hash.toCell), added]
      exact gives_saveOr _ fun later =>
        (undoes_put serves had added later).imp fun _ => And.left

theorem gives_remove (serves : keychain.Serves path messages) (id : Cell) (source : Host) :
    let saved := Keychain.saveGiven ((Task.remove id).change source keychain) host
    ((remove id).outcome ⟨path, some keychain, recorded⟩ host).Gives
      ((Task.remove id).answer (source.answer .issue).1 keychain saved.1) saved.2 := by
  intro saved
  unfold Task.answer remove
  dsimp only
  rw [outcome_bind, outcome_hashOf]
  by_cases there : keychain.contains id = .ok true
  · obtain ⟨-, old, -, -, -, had⟩ := Keychain.hashOf_of_contains serves.sound.storable there
    have removed := (Keychain.remove_of_contains there).1
    have change : (Task.remove id).change source keychain = some (keychain.remove id).2 := by
      rw [Task.change, ← Prod.eta (keychain.remove id), removed]
    unfold saved
    rw [had, change, there]
    dsimp only
    rw [outcome_bind, outcome_removeUnsaved, removed]
    refine gives_bind (gives_saveOr _ fun later => ?_) fun _ _ _ => ⟨_, rfl⟩
    exact (undoes_remove serves had there later).imp fun _ => And.left
  · have kept : saved = (.ok (), host) := by
      unfold saved Task.change
      dsimp only
      rw [← Prod.eta (keychain.remove id), Keychain.fst_remove]
      split
      · rename_i same
        exact absurd (Prod.ext_iff.mp same).1 there
      · rfl
    rw [kept, Keychain.contains_eq_map_hashOf serves.sound.storable]
    rw [Keychain.contains_eq_map_hashOf serves.sound.storable] at there
    cases had : keychain.hashOf id with
    | error failure => exact ⟨rfl, rfl⟩
    | ok hash =>
      obtain rfl : hash = .absent := by simpa [had, Except.map] using there
      exact ⟨rfl, rfl⟩

/-- What the rest of a task gives if the keychain is loaded. A new credential comes from a host of its
own. -/
theorem gives_rest (serves : keychain.Serves path messages) (task : Task) (source : Host) :
    let saved := Keychain.saveGiven (task.change source keychain) host
    ((task.rest source).outcome ⟨path, some keychain, recorded⟩ host).Gives
      (task.answer (source.answer .issue).1 keychain saved.1) saved.2 := by
  cases task with
  | create =>
    unfold Task.rest Task.answer Task.change
    dsimp only
    rw [outcome_bind, outcome_ofExcept]
    generalize (source.answer .issue).1 = issue
    cases issue with
    | error failure => exact ⟨rfl, rfl⟩
    | ok credential =>
      exact gives_bind (gives_putAndSave serves (.ofText credential.id) (.ofBytes credential.hash))
        fun _ _ _ => ⟨_, rfl⟩
  | add id hash => exact gives_bind_same (gives_putAndSave serves id hash) fun _ _ _ => ⟨_, rfl⟩
  | remove id => exact gives_remove serves id source
  | verify id secret =>
    have gives : ((withKeychain fun keychain => keychain.verify id secret).outcome
        ⟨path, some keychain, recorded⟩ host).Gives (keychain.verify id secret).1 host := by
      rw [outcome_withKeychain]
      exact ⟨rfl, rfl⟩
    exact gives_bind_same gives fun _ _ _ => ⟨_, rfl⟩
  | ids =>
    unfold Task.rest Task.duty ids
    simp only [outcome_bind, outcome_opened, outcome_ofExcept]
    exact ⟨rfl, rfl⟩
  | save =>
    show (save.outcome _ host).Gives _ _
    rw [outcome_save]
    unfold Task.answer Task.change Keychain.saveGiven
    dsimp only
    rcases keychain.save.run host with ⟨⟨failure | ⟨⟩, after⟩, later⟩ <;> exact ⟨rfl, rfl⟩

/-- What a task gives, by what is met first: there is no new credential, or the keychain cannot be
loaded; and if it is loaded, then the task answers. -/
theorem Serves.perform_gives {custodian : Custodian} (serves : custodian.Serves path messages)
    {mayFail : Prop} {content? : Option Bytes} (suits : host.Suits mayFail path content?)
    (task : Task) :
    match task.refusal? host with
    | some failure => (task.perform custodian host).Gives (.error failure) (task.begun host)
    | none =>
      match opened.outcome custodian (task.begun host) with
      | ⟨.error failure, _, later⟩ => (task.perform custodian host).Gives (.error failure) later
      | ⟨.ok keychain, _, later⟩ =>
        let saved := Keychain.saveGiven (task.change host keychain) later
        (task.perform custodian host).Gives
          (task.answer (host.answer .issue).1 keychain saved.1) saved.2 := by
  have idle : { custodian with recorded := [] } = custodian := by rw [← serves.idle]
  have rests {result : Except Failure task.Result} {later : Host}
      (gives : ((task.rest host).outcome custodian (task.begun host)).Gives result later) :
      (task.perform custodian host).Gives result later := by
    rw [Task.perform_eq, idle, Task.outcome_duty]
    exact gives
  cases refused : task.refusal? host with
  | some failure =>
    apply rests
    rw [rest_of_refusal?_eq_some refused]
    exact ⟨rfl, rfl⟩
  | none =>
    have opens := opens_rest refused
    have reached := serves.sees_opened (task.suits_begun suits)
    dsimp only
    rcases found : opened.outcome custodian (task.begun host) with ⟨failure | keychain, after, later⟩
    · apply rests
      rw [opens.outcome_eq, found]
      exact ⟨rfl, rfl⟩
    · rw [found] at reached
      obtain ⟨⟨recorded, rfl⟩, -, loaded, -⟩ := reached
      apply rests
      rw [opens.outcome_eq, found]
      exact gives_rest loaded task host

end Custodian

end Keyring
