import Keyring.Proofs.Custodian.Step

/-!
# Performing one task after another

A custodian that `Serves` a path can perform any task there and serves it afterwards. What becomes
of memory and file meanwhile is one of three `Moves`, and it is the result of the task that tells
which (`Serves.perform`).
-/

namespace Keyring

open Entries (Agree)
open KeychainFile (entriesOf Holds)

/-- A keychain can be saved as well when more was hashed. -/
theorem Keychain.Serves.mono {keychain : Keychain} {path : Text} {messages : List Bytes}
    (serves : keychain.Serves path messages) (more : List Bytes) :
    keychain.Serves path (messages ++ more) :=
  ⟨serves.proper, serves.named, serves.sound.of_same rfl rfl⟩

namespace Task

/-- The surroundings are as suitable once a new credential is there. -/
theorem suits_begun {host : Host} {mayFail : Prop} {path : Text} {content? : Option Bytes}
    (suits : host.Suits mayFail path content?) (task : Task) :
    (task.begun host).Suits mayFail path content? := by
  cases task with
  | create => exact (suits.settled.answer .issue).suits suits suits.finds suits.shows
  | add id hash => exact suits
  | remove id => exact suits
  | verify id secret => exact suits
  | ids => exact suits
  | save => exact suits

/-- The messages that a task has hashed. -/
def hashed (task : Task) (custodian : Custodian) (host : Host) : List Bytes :=
  match (Custodian.opened.outcome custodian (task.begun host)).result with
  | .ok keychain => keychain.messages task.presented
  | .error _ => []

/-- Only who verifies hashes anything. -/
theorem hashed_eq_nil {task : Task} (silent : task.presented = none) (custodian : Custodian)
    (host : Host) : task.hashed custodian host = [] := by
  unfold hashed
  rw [silent]
  split <;> rfl

end Task

namespace Custodian

open Duty

/-- A custodian of a path who has nothing to hand over. -/
structure Serves (custodian : Custodian) (path : Text) (messages : List Bytes) : Prop where
  here : custodian.path = path
  idle : custodian.recorded = []
  held : ∀ keychain, custodian.keychain = some keychain → keychain.Serves path messages

/-- The entries that a custodian goes by. -/
inductive Sees (custodian : Custodian) (content? : Option Bytes) : Entries → Prop
  /-- They are in memory. -/
  | holds {keychain : Keychain} (held : custodian.keychain = some keychain) :
      Sees custodian content? keychain.entries
  /-- They have to be loaded first. -/
  | reads {entries : Entries} (unloaded : custodian.keychain = none)
      (read : entriesOf content? = .ok entries) : Sees custodian content? entries

/-- What may become of memory and file, with the content of the file before and after. -/
inductive Moves (before after : Custodian) (content? : Option Bytes) :
    Option Bytes → Option Change → Prop
  /-- Nobody came as far as to look at the keychain. -/
  | stays (same : after.keychain = before.keychain) : Moves before after content? content? none
  /-- The keychain is loaded, and nothing is changed. -/
  | looks {entries : Entries} {keychain : Keychain} (sees : before.Sees content? entries)
      (held : after.keychain = some keychain) (agree : Agree keychain.entries entries) :
      Moves before after content? content? none
  /-- The entries are changed in memory and in the file. -/
  | changes {entries : Entries} {keychain : Keychain} {later? : Option Bytes} {change : Change}
      (sees : before.Sees content? entries) (held : after.keychain = some keychain)
      (agree : Agree keychain.entries (change.apply entries))
      (holds : Holds later? keychain.entries) :
      Moves before after content? later? (some change)

/-- Whoever goes by a mapping that the file holds goes by what the file holds. -/
theorem Sees.inFile {custodian : Custodian} {content? : Option Bytes} {entries : Entries}
    (sees : custodian.Sees content? entries)
    (inStep : ∀ keychain, custodian.keychain = some keychain → Holds content? keychain.entries) :
    Holds content? entries := by
  cases sees with
  | holds held => exact inStep _ held
  | reads unloaded read => exact ⟨entries, read, .refl _⟩

namespace Moves

variable {before after : Custodian} {content? later? : Option Bytes} {change? : Option Change}

/-- The file stays as it is unless a change is told of. -/
theorem content_eq (moves : before.Moves after content? later? none) : later? = content? := by
  cases moves <;> rfl

/-- Whoever has a keychain keeps one, and whoever makes a change has one then. -/
theorem of_unloaded (moves : before.Moves after content? later? change?)
    (unloaded : after.keychain = none) : before.keychain = none ∧ change? = none := by
  cases moves with
  | stays same => exact ⟨same ▸ unloaded, rfl⟩
  | looks sees held agree => cases unloaded.symm.trans held
  | changes sees held agree holds => cases unloaded.symm.trans held

/-- What is in memory comes of what was seen there or in the file. -/
theorem sees (moves : before.Moves after content? later? change?) {keychain : Keychain}
    (held : after.keychain = some keychain) :
    ∃ entries, before.Sees content? entries ∧
      Agree keychain.entries (Change.applyAll change?.toList entries) := by
  cases moves with
  | stays same => exact ⟨keychain.entries, .holds (same ▸ held), .refl _⟩
  | looks sees held' agree =>
    cases held.symm.trans held'
    exact ⟨_, sees, agree⟩
  | changes sees held' agree holds =>
    cases held.symm.trans held'
    exact ⟨_, sees, agree⟩

/-- A keychain that was in step with the file is in step with it afterwards, and so is one that was
loaded or changed meanwhile. -/
theorem holds (moves : before.Moves after content? later? change?)
    (inStep : ∀ keychain, before.keychain = some keychain → Holds content? keychain.entries)
    {keychain : Keychain} (held : after.keychain = some keychain) :
    Holds later? keychain.entries := by
  cases moves with
  | stays same => exact inStep keychain (same ▸ held)
  | looks sees held' agree =>
    cases held.symm.trans held'
    obtain ⟨stored, read, same⟩ := sees.inFile inStep
    exact ⟨stored, read, agree.trans same⟩
  | changes sees held' agree holds =>
    cases held.symm.trans held'
    exact holds

/-- A change that is told of is in the file. -/
theorem holds_of_change {change : Change}
    (moves : before.Moves after content? later? (some change)) :
    ∃ keychain, after.keychain = some keychain ∧ Holds later? keychain.entries := by
  cases moves with
  | changes sees held agree holds => exact ⟨_, held, holds⟩

end Moves

variable {custodian : Custodian} {path : Text} {messages : List Bytes} {host : Host}
  {mayFail : Prop} {content? : Option Bytes}

/-- No task touches what the surroundings are like but for the tree. -/
theorem follows_perform (settled : host.Settled) (task : Task) (custodian : Custodian) :
    host.Follows (task.perform custodian host).host :=
  settled.run (task.duty.perform custodian)

/-- A custodian serves the path as well when more was hashed. -/
theorem Serves.mono (serves : custodian.Serves path messages) (more : List Bytes) :
    custodian.Serves path (messages ++ more) :=
  ⟨serves.here, serves.idle, fun keychain held => (serves.held keychain held).mono more⟩

/-- A custodian who has the keychain sees the entries in there, loaded now or before. -/
theorem Serves.sees_opened (serves : custodian.Serves path messages)
    (suits : host.Suits mayFail path content?) :
    match opened.outcome custodian host with
    | ⟨.ok keychain, after, later⟩ =>
      (∃ recorded, after = ⟨path, some keychain, recorded⟩) ∧ later.Suits mayFail path content? ∧
        keychain.Serves path messages ∧ custodian.Sees content? keychain.entries
    | ⟨.error _, after, later⟩ => after = custodian ∧ later.Suits mayFail path content? := by
  obtain ⟨name, keychain?, recorded⟩ := custodian
  obtain ⟨here, -, held⟩ := serves
  obtain rfl : name = path := here
  cases keychain? with
  | some keychain =>
    rw [outcome_opened]
    exact ⟨⟨recorded, rfl⟩, suits, held keychain rfl, .holds rfl⟩
  | none =>
    rw [outcome_opened_none]
    have tree : ((Keychain.load name).run host).2.tree = host.tree := by
      rw [Keychain.snd_run_load]
    have after := (suits.settled.run (Keychain.load name)).suits suits (tree ▸ suits.finds)
      (tree ▸ suits.shows)
    rcases loaded : (Keychain.load name).run host with ⟨failure | keychain, later⟩
    · rw [loaded] at after
      exact ⟨rfl, after⟩
    · rw [loaded] at after
      have done := congrArg Prod.fst loaded
      obtain ⟨proper, named, read⟩ := Keychain.load_eq_ok suits.honest suits.finds done
      have sound : Keychain.Sound ([] ++ messages) keychain :=
        (Keychain.IsInitial.loaded done).sound.of_same rfl rfl
      exact ⟨⟨_, rfl⟩, after, ⟨proper, named, sound⟩, .reads rfl read⟩

/-- A custodian who serves a path serves it after any task, and the result of the task tells what
has become of memory and file. -/
theorem Serves.perform (serves : custodian.Serves path messages)
    (suits : host.Suits mayFail path content?) (task : Task) (saves : task.Saves mayFail custodian host) :
    (task.perform custodian host).custodian.Serves path
        (messages ++ task.hashed custodian host) ∧
      ∃ later?, (task.perform custodian host).host.Suits mayFail path later? ∧
        custodian.Moves (task.perform custodian host).custodian content? later?
          ((task.perform custodian host).result.toOption.bind task.receipt) := by
  have begun := task.suits_begun suits
  have idle : { custodian with recorded := [] } = custodian := by rw [← serves.idle]
  rw [Task.perform_eq, idle, Task.outcome_duty]
  cases refused : task.refusal? host with
  | some failure =>
    rw [rest_of_refusal?_eq_some refused, outcome_throw]
    obtain ⟨here, -, held⟩ := serves.mono (task.hashed custodian host)
    exact ⟨⟨here, rfl, held⟩, content?, begun, .stays rfl⟩
  | none =>
    rw [(opens_rest refused).outcome_eq]
    have reached := serves.sees_opened begun
    rcases found : opened.outcome custodian (task.begun host) with ⟨failure | keychain, after, later⟩
    · rw [found] at reached
      obtain ⟨rfl, suits⟩ := reached
      obtain ⟨here, -, held⟩ := serves.mono (task.hashed after host)
      exact ⟨⟨here, rfl, held⟩, content?, suits, .stays rfl⟩
    · rw [found] at reached
      unfold Task.hashed
      rw [found]
      obtain ⟨⟨recorded, rfl⟩, suits, loaded, sees⟩ := reached
      dsimp only
      have rests : Rests (messages ++ keychain.messages task.presented) mayFail path
          content? keychain.entries (fun value => (task.receipt value).map (·.apply keychain.entries))
          ((task.rest host).outcome ⟨path, some keychain, recorded⟩ later) :=
        rests_rest loaded suits task host fun changed => saves.of_opened found
      generalize (task.rest host).outcome ⟨path, some keychain, recorded⟩ later = outcome at rests ⊢
      obtain ⟨here, kept, later?, held, serves, suits, moved⟩ := rests
      refine ⟨⟨here, rfl, ?_⟩, later?, suits, ?_⟩
      · intro other same
        cases held.symm.trans same
        exact serves
      · have told : (outcome.result.toOption.bind fun value =>
            (task.receipt value).map (·.apply keychain.entries)) =
              (outcome.result.toOption.bind task.receipt).map (·.apply keychain.entries) := by
          cases outcome.result <;> rfl
        rw [told] at moved
        generalize outcome.result.toOption.bind task.receipt = change? at moved ⊢
        cases change? with
        | none =>
          obtain ⟨rfl, agree⟩ := moved
          exact .looks sees held agree
        | some change => exact .changes sees held moved.1 moved.2

/-! ## The first look at a keychain -/

/-- A keychain that can be loaded is loaded when it is needed for the first time. -/
theorem outcome_opened_ofPath {keychain : Keychain}
    (loaded : ((Keychain.load path).run host).1 = .ok keychain) :
    opened.outcome (ofPath path) host =
      ⟨.ok keychain, ⟨path, some keychain, [.loaded path (.ofInt keychain.size)]⟩,
        { host with performed := host.performed + 1 }⟩ := by
  have run : (Keychain.load path).run host =
      (.ok keychain, { host with performed := host.performed + 1 }) :=
    Prod.ext loaded (Keychain.snd_run_load path host)
  rw [ofPath, outcome_opened_none, run]
  rfl

/-- The first verdict is that of the keychain that is loaded for it. -/
theorem outcome_verify_ofPath {keychain : Keychain} {id secret : Cell} {allowed : Bool}
    (loaded : ((Keychain.load path).run host).1 = .ok keychain)
    (given : (keychain.verify id secret).1 = .ok allowed) :
    (verify id secret).outcome (ofPath path) host =
      ⟨.ok allowed, ⟨path, some (keychain.verify id secret).2,
        [.loaded path (.ofInt keychain.size), .authenticated id allowed]⟩,
        { host with performed := host.performed + 1 }⟩ := by
  have opens : Opens (verify id secret) := (opens_withKeychain _).bind _
  rw [opens.outcome_eq, outcome_opened_ofPath loaded]
  dsimp only
  unfold verify
  rw [outcome_bind, outcome_withKeychain, given]
  rfl

end Custodian

end Keyring
