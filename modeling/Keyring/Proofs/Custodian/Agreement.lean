import Keyring.Proofs.Custodian.Performance
import Keyring.Proofs.Keychain.Transparency

/-!
# Memory and file agree

One custodian performs one task after another, and meanwhile nobody else touches the file
(`Reaches`). Then the mapping in memory is the one that the file holds, and a task that fails leaves
both as they were (`Reaches.agrees`). It is the file at the path that counts: if there is none when
saves may begin to fail, then there must be nothing that the path would lead to once its directories
are made, as a path with two dots may.
-/

namespace Keyring

open Entries (Agree)
open KeychainFile (entriesOf Holds)

/-- A task hashes one message or none, so there is nothing to be told apart. -/
theorem Task.separates_hashed (task : Task) (custodian : Custodian) (host : Host) :
    Sha512.Separates (task.hashed custodian host) := by
  unfold Task.hashed
  split
  · exact Keychain.separates_messages _ _
  · exact nofun

namespace Custodian

open Duty

/-- A custodian and its host after some tasks, and the messages that were hashed. Every save succeeds,
or it may fail and the keychain is at fault. Between two tasks anything may happen to the host but
to the file that the path leads to; and saves may fail from then on or no longer. -/
inductive Reaches : (mayFail : Prop) → (path : Text) → List Bytes → Custodian → Host → Prop
  | begin {mayFail : Prop} {path : Text} {host : Host} {content? : Option Bytes}
      (suits : host.Suits mayFail path content?) : Reaches mayFail path [] (ofPath path) host
  | perform {mayFail : Prop} {path : Text} {messages : List Bytes} {custodian : Custodian}
      {host : Host} (reached : Reaches mayFail path messages custodian host) (task : Task)
      (saves : task.Saves mayFail custodian host) :
      Reaches mayFail path (messages ++ task.hashed custodian host)
        (task.perform custodian host).custodian (task.perform custodian host).host
  | meanwhile {mayFail mayFail' : Prop} {path : Text} {messages : List Bytes}
      {custodian : Custodian} {host other : Host} {content? : Option Bytes}
      (reached : Reaches mayFail path messages custodian host)
      (finds : host.tree.Finds host.current path content?)
      (suits : other.Suits mayFail' path content?) :
      Reaches mayFail' path messages custodian other

/-- Memory and file after a task are as they were before, and so is every verdict, unless two of
these messages have one digest. -/
structure Unchanged (path : Text) (messages : List Bytes) (before after : Custodian)
    (host later : Host) : Prop where
  file : later.tree.read later.current path = host.tree.read host.current path
  memory : ∀ keychain, before.keychain = some keychain →
    ∃ restored, after.keychain = some restored ∧ Agree restored.entries keychain.entries
  /-- What was only loaded meanwhile is what the file held. -/
  loaded : ∀ keychain, before.keychain = none → after.keychain = some keychain →
    ∃ stored, ((Keychain.load path).run host.calmed).1 = .ok stored ∧
      Agree keychain.entries stored.entries
  verdicts : ∀ id secret,
    Sha512.Separates (messages ++ (Task.verify id secret).hashed before host.calmed) →
    ((Task.verify id secret).perform after later.calmed).result =
      ((Task.verify id secret).perform before host.calmed).result

variable {custodian : Custodian} {mayFail : Prop} {path : Text} {messages : List Bytes}
  {host : Host} {content? : Option Bytes}

/-- A custodian in step with its file. -/
structure InStep (mayFail : Prop) (path : Text) (content? : Option Bytes)
    (messages : List Bytes) (custodian : Custodian) (host : Host) : Prop where
  serves : custodian.Serves path messages
  suits : host.Suits mayFail path content?
  holds : ∀ keychain, custodian.keychain = some keychain → Holds content? keychain.entries

/-- A task keeps a custodian in step. -/
theorem InStep.perform (inStep : InStep mayFail path content? messages custodian host) (task : Task)
    (saves : task.Saves mayFail custodian host) :
    ∃ later?, InStep mayFail path later? (messages ++ task.hashed custodian host)
      (task.perform custodian host).custodian (task.perform custodian host).host := by
  obtain ⟨serves, later?, suits, moves⟩ := inStep.serves.perform inStep.suits task saves
  exact ⟨later?, serves, suits, fun keychain held => moves.holds inStep.holds held⟩

/-- A custodian is in step at any time. -/
theorem Reaches.inStep (reached : Reaches mayFail path messages custodian host) :
    ∃ content?, InStep mayFail path content? messages custodian host := by
  induction reached with
  | begin suits =>
    exact ⟨_, ⟨rfl, rfl, fun _ held => by cases held⟩, suits, fun _ held => by cases held⟩
  | perform reached task saves ih =>
    obtain ⟨content?, inStep⟩ := ih
    exact inStep.perform task saves
  | meanwhile reached finds suits ih =>
    obtain ⟨content?, inStep⟩ := ih
    cases inStep.suits.finds.unique finds
    exact ⟨_, inStep.serves, suits, inStep.holds⟩

/-! ## What a failure leaves -/

/-- A custodian who serves a path goes by the entries that are seen if no call fails by itself. -/
theorem Serves.sees_calmed (serves : custodian.Serves path messages)
    (suits : host.Suits mayFail path content?) (proper : Path.fault? path = none) {entries : Entries}
    (sees : custodian.Sees content? entries) :
    ∃ keychain, (opened.outcome custodian host.calmed).result = .ok keychain ∧
      keychain.entries = entries ∧ keychain.Serves path messages := by
  have reached := serves.sees_opened suits.calmed
  obtain ⟨name, keychain?, recorded⟩ := custodian
  obtain ⟨here, -, held⟩ := serves
  obtain rfl : name = path := here
  cases sees with
  | holds same =>
    obtain rfl := same
    rw [outcome_opened]
    exact ⟨_, rfl, rfl, held _ rfl⟩
  | reads unloaded read =>
    obtain rfl := unloaded
    obtain ⟨keychain, loaded, same⟩ := Keychain.load_calmed proper suits.finds read
    rw [outcome_opened_none] at reached ⊢
    generalize (Keychain.load name).run host.calmed = outcome at loaded reached ⊢
    obtain ⟨_ | _, later⟩ := outcome
    · cases loaded
    · cases loaded
      exact ⟨keychain, rfl, same, reached.2.2.1⟩

/-- A verdict is given by the keychain that is there or is loaded for it. -/
theorem result_verify (idle : custodian.recorded = []) (host : Host) (id secret : Cell) :
    ((Task.verify id secret).perform custodian host).result =
      match (opened.outcome custodian host).result with
      | .ok keychain => (keychain.verify id secret).1
      | .error failure => .error failure := by
  have same : { custodian with recorded := [] } = custodian := by rw [← idle]
  rw [Task.perform_eq, same]
  have opens : Opens (Task.verify id secret).duty := (opens_withKeychain _).bind _
  dsimp only
  rw [opens.outcome_eq]
  rcases loaded : opened.outcome custodian host with ⟨failure | keychain, after, later⟩
  · rfl
  · obtain ⟨-, held⟩ := opened_eq_ok loaded
    obtain ⟨path, _, recorded⟩ := after
    cases held
    unfold Task.duty verify
    dsimp only
    rw [outcome_bind, outcome_withKeychain]
    rcases (keychain.verify id secret).1 with failure | allowed <;> rfl

/-- Custodians who both have nothing to hand over are told apart by their keychains. -/
theorem Serves.eq_of_keychain {after : Custodian} {more : List Bytes}
    (serves : custodian.Serves path messages) (serves' : after.Serves path more)
    (same : after.keychain = custodian.keychain) : after = custodian := by
  obtain ⟨name, keychain?, recorded⟩ := custodian
  obtain ⟨name', keychain?', recorded'⟩ := after
  cases serves.here
  cases serves.idle
  cases serves'.here
  cases serves'.idle
  cases same
  rfl

/-- What a custodian goes by if no call fails by itself depends on the file alone. -/
theorem result_opened_congr {later : Host} (custodian : Custodian)
    (same : later.tree.read later.current custodian.path =
      host.tree.read host.current custodian.path) :
    (opened.outcome custodian later.calmed).result =
      (opened.outcome custodian host.calmed).result := by
  obtain ⟨path, _ | keychain, recorded⟩ := custodian
  · have loaded := Keychain.fst_load_calmed_congr same
    rw [outcome_opened_none, outcome_opened_none]
    generalize (Keychain.load path).run later.calmed = outcome at loaded ⊢
    generalize (Keychain.load path).run host.calmed = other at loaded ⊢
    obtain ⟨_ | _, _⟩ := outcome <;> obtain ⟨_ | _, _⟩ := other <;> cases loaded <;> rfl
  · rw [outcome_opened, outcome_opened]

/-- Custodians who go by one mapping give the same verdicts, whatever either of them remembers. -/
theorem Serves.result_verify_eq (serves : custodian.Serves path messages)
    (suits : host.Suits mayFail path content?) {after : Custodian} {later : Host}
    (serves' : after.Serves path messages) {entries : Entries} {kept : Keychain}
    (sees : custodian.Sees content? entries) (held : after.keychain = some kept)
    (agree : Agree kept.entries entries) (id secret : Cell)
    (separates : Sha512.Separates
      (messages ++ (Task.verify id secret).hashed custodian host.calmed)) :
    ((Task.verify id secret).perform after later.calmed).result =
      ((Task.verify id secret).perform custodian host.calmed).result := by
  have kept' := serves'.held kept held
  obtain ⟨keychain, opened, rfl, loaded⟩ := serves.sees_calmed suits kept'.proper sees
  have opened' : (Custodian.opened.outcome after later.calmed).result = .ok kept := by
    obtain ⟨name, _, recorded⟩ := after
    cases held
    rw [outcome_opened]
  have begun : (Task.verify id secret).begun host.calmed = host.calmed := rfl
  unfold Task.hashed at separates
  rw [begun, opened] at separates
  rw [result_verify serves'.idle, result_verify serves.idle, opened, opened']
  exact loaded.sound.fst_verify_congr kept'.sound agree.symm id secret separates

/-- A task without a receipt leaves everything as it was. -/
theorem InStep.unchanged (inStep : InStep mayFail path content? messages custodian host)
    (task : Task) (saves : task.Saves mayFail custodian host)
    (nothing : (task.perform custodian host).result.toOption.bind task.receipt = none) :
    Unchanged path (messages ++ task.hashed custodian host) custodian
      (task.perform custodian host).custodian host (task.perform custodian host).host := by
  obtain ⟨serves, later?, suits, moves⟩ := inStep.serves.perform inStep.suits task saves
  rw [nothing] at moves
  generalize (task.perform custodian host).custodian = after at moves serves ⊢
  generalize (task.perform custodian host).host = later at suits ⊢
  have before := inStep.serves.mono (task.hashed custodian host)
  obtain rfl := moves.content_eq
  have file := inStep.suits.finds.read_eq suits.finds
  cases moves with
  | stays same =>
    obtain rfl := before.eq_of_keychain serves same
    refine ⟨file, fun keychain held => ⟨keychain, held, .refl _⟩, ?_, ?_⟩
    · intro keychain unloaded held
      cases unloaded.symm.trans held
    · intro id secret _
      rw [result_verify serves.idle, result_verify serves.idle,
        result_opened_congr after (serves.here ▸ file)]
  | looks sees held agree =>
    have proper := (serves.held _ held).proper
    refine ⟨file, ?_, ?_, ?_⟩
    · intro keychain loaded
      cases sees with
      | holds loaded' =>
        cases loaded.symm.trans loaded'
        exact ⟨_, held, agree⟩
      | reads unloaded => cases unloaded.symm.trans loaded
    · intro keychain unloaded held'
      cases held.symm.trans held'
      cases sees with
      | holds loaded => cases unloaded.symm.trans loaded
      | reads _ read =>
        obtain ⟨stored, loaded, rfl⟩ := Keychain.load_calmed proper inStep.suits.finds read
        exact ⟨stored, loaded, agree⟩
    · intro id secret separates
      exact before.result_verify_eq inStep.suits serves sees held agree id secret separates

/-- In every state that a custodian reaches, the mapping in memory is the one that would be loaded
from the file, and every task that fails leaves memory, file and verdicts as they were. -/
theorem Reaches.agrees (reached : Reaches mayFail path messages custodian host) :
    (∀ keychain, custodian.keychain = some keychain →
      ∃ stored, ((Keychain.load path).run host.calmed).1 = .ok stored ∧
        Agree keychain.entries stored.entries) ∧
    ∀ (task : Task) (failure : Failure), task.Saves mayFail custodian host →
      (task.perform custodian host).result = .error failure →
      Unchanged path (messages ++ task.hashed custodian host) custodian
        (task.perform custodian host).custodian host (task.perform custodian host).host := by
  obtain ⟨content?, inStep⟩ := reached.inStep
  refine ⟨fun keychain held => ?_, fun task failure saves failed => ?_⟩
  · obtain ⟨entries, read, agree⟩ := inStep.holds keychain held
    obtain ⟨stored, loaded, rfl⟩ :=
      Keychain.load_calmed (inStep.serves.held keychain held).proper inStep.suits.finds read
    exact ⟨stored, loaded, agree⟩
  · exact inStep.unchanged task saves (by rw [failed]; rfl)

/-- A key is added to a file that was read before, and nothing gets to the disk. -/
theorem agrees_unsynced :
    let path := Text.lit "k"
    let host := Host.unsynced (.ofFile [107] [97, 58, 104, 10])
    let listed := Task.ids.perform (ofPath path) host
    let task := Task.add (.ofText (Text.lit "b")) (.ofBytes [103])
    let added := task.perform listed.custodian listed.host
    let failure := Failure.storage (.writing ⟨5, Text.lit "Input/output error", []⟩) (.ofText path)
    Reaches True path ([] ++ Task.ids.hashed (ofPath path) host) listed.custodian listed.host ∧
      task.Saves True listed.custodian listed.host ∧ added.result = .error failure ∧
      Unchanged path ([] ++ Task.ids.hashed (ofPath path) host ++
        task.hashed listed.custodian listed.host) listed.custodian added.custodian listed.host
        added.host ∧
      ∃ keychain, listed.custodian.keychain = some keychain ∧
        ∃ stored, ((Keychain.load path).run listed.host.calmed).1 = .ok stored ∧
          Agree keychain.entries stored.entries := by
  intro path host listed task added failure
  have suits : host.Suits True path (some [97, 58, 104, 10]) :=
    .of_root (.ofFile _ _) rfl rfl (fun _ _ fails => by cases fails) rfl
  have reached := (Reaches.begin suits).perform .ids (by decide +kernel)
  have saves : task.Saves True listed.custodian listed.host := by decide +kernel
  have failed : added.result = .error failure := by
    show (added.result : Except Failure Unit) = .error failure
    decide +kernel
  obtain ⟨keychain, held⟩ : ∃ keychain, listed.custodian.keychain = some keychain := ⟨_, rfl⟩
  obtain ⟨agrees, unchanged⟩ := reached.agrees
  exact ⟨reached, saves, failed, unchanged task failure saves failed, keychain, held,
    agrees keychain held⟩

/-- A path that leads up from a directory which is made for it comes to lead to another file. -/
theorem agrees_fails_through_parents :
    let path := Text.lit "a/../b"
    let host := Host.unsynced (.ofFile [98] [120, 58, 104, 10])
    let listed := Task.ids.perform (ofPath path) host
    let task := Task.add (.ofText (Text.lit "y")) (.ofBytes [103])
    let added := task.perform listed.custodian listed.host
    let failure := Failure.storage (.writing ⟨5, Text.lit "Input/output error", []⟩) (.ofText path)
    listed.result = .ok [] ∧ task.Saves True listed.custodian listed.host ∧
      added.result = .error failure ∧
      added.custodian.keychain.map (·.entries) = some [] ∧
      ((Keychain.load path).run added.host.calmed).1.map (·.entries) =
        .ok [(.ofText (Text.lit "x"), .ofBytes [104])] ∧
      listed.host.tree.read [] path = .error .missing ∧
      added.host.tree.read [] path = .ok [120, 58, 104, 10] := by
  intro path host listed task added failure
  refine ⟨?_, by decide +kernel, ?_, by decide +kernel, by decide +kernel, by decide +kernel,
    by decide +kernel⟩
  · show (listed.result : Except Failure (List Cell)) = .ok []
    decide +kernel
  · show (added.result : Except Failure Unit) = .error failure
    decide +kernel

end Custodian

end Keyring
