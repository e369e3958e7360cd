import Keyring.Proofs.Custodian.Alike
import Keyring.Proofs.Custodian.Notice

/-!
# The events account for the file

One custodian performs one task after another and hands over the events, and meanwhile nobody else
touches the file (`Records`). Then the ids in the file are the ones that were there when the keychain
was first loaded, after all that the events have told of since (`Records.accounts`): no change is
missing among the events, and none is told of that was not made or was undone.

As with memory and file, it is the file at the path that counts. A path that comes to lead to another
file once directories are made for it is left out (`accounts_fails_through_parents`).
-/

namespace Keyring

open Audit (Event notices replay)
open Entries (Agree)
open KeychainFile (entriesOf)

/-! ## Changes that are told of -/

namespace Duty

variable {α β : Type} {duty : Duty α} {next : α → Duty β} {custodian : Custodian} {host : Host}

/-- A duty that succeeds has succeeded in its first part. -/
theorem bind_eq_ok {value : β}
    (done : ((duty >>= next).outcome custodian host).result = .ok value) :
    ∃ first after later, duty.outcome custodian host = ⟨.ok first, after, later⟩ ∧
      ((next first).outcome after later).result = .ok value := by
  rw [outcome_bind] at done
  generalize duty.outcome custodian host = outcome at done
  obtain ⟨failure | first, after, later⟩ := outcome
  · cases done
  · exact ⟨first, after, later, rfl, done⟩

end Duty

namespace Custodian

open Duty

variable {α : Type} {custodian : Custodian} {host : Host}

/-- Work with the keychain that succeeds has succeeded with some keychain. -/
theorem withKeychain_eq_ok {work : Keychain → Except Failure α × Keychain} {value : α}
    (done : ((withKeychain work).outcome custodian host).result = .ok value) :
    ∃ keychain, (work keychain).1 = .ok value := by
  obtain ⟨keychain, after, later, -, done⟩ := bind_eq_ok done
  have kept : ((do keep (work keychain).2; Duty.ofExcept (work keychain).1 : Duty α).outcome after
      later).result = .ok value := done
  obtain ⟨_, after, later, -, done⟩ := bind_eq_ok kept
  rw [outcome_ofExcept] at done
  exact ⟨keychain, done⟩

/-- Nothing is put and saved that would be refused. -/
theorem entryWith_of_putAndSave {id hash : Cell}
    (done : ((putAndSave id hash).outcome custodian host).result = .ok ()) :
    ∃ entry, id.entryWith hash = .ok entry := by
  obtain ⟨previous, after, later, -, done⟩ := bind_eq_ok done
  obtain ⟨_, _, _, added, -⟩ := bind_eq_ok done
  obtain ⟨keychain, added⟩ := withKeychain_eq_ok (congrArg Outcome.result added)
  rw [Keychain.fst_add] at added
  cases read : id.entryWith hash with
  | error failure =>
    rw [read] at added
    cases added
  | ok entry => exact ⟨entry, rfl⟩

end Custodian

namespace Task

open Duty

/-- No task tells that it has put what would be refused. -/
theorem isFit_of_told {task : Task} {custodian : Custodian} {host : Host} {change : Change}
    (told : task.told custodian host = some change) : change.IsFit := by
  unfold Task.told at told
  rw [perform_eq] at told
  obtain ⟨value, done, receipt⟩ := Option.bind_eq_some_iff.mp told
  replace done : (task.duty.outcome { custodian with recorded := [] } host).result = .ok value := by
    dsimp only at done
    generalize (task.duty.outcome { custodian with recorded := [] } host).result = result at done
    cases result <;> cases done
    rfl
  cases task with
  | create =>
    obtain ⟨issued, _, _, -, done⟩ := bind_eq_ok done
    obtain ⟨credential, _, _, -, done⟩ := bind_eq_ok done
    obtain ⟨_, _, _, put, done⟩ := bind_eq_ok done
    obtain ⟨_, _, _, -, done⟩ := bind_eq_ok done
    cases done
    cases receipt
    exact Custodian.entryWith_of_putAndSave (congrArg Outcome.result put)
  | add id hash =>
    obtain ⟨_, _, _, put, -⟩ := bind_eq_ok done
    cases receipt
    exact Custodian.entryWith_of_putAndSave (congrArg Outcome.result put)
  | remove id =>
    cases value <;> cases receipt
    trivial
  | verify id secret => cases receipt
  | ids => cases receipt
  | save =>
    cases receipt
    trivial

end Task

namespace Audit

/-- Who reads on goes on from the ids that there were before. -/
theorem replay_append (events more : List Event) (ids : Named Unit) :
    replay (events ++ more) ids = replay more (replay events ids) := by
  unfold replay
  rw [notices_append, List.foldl_append]

/-- Events that tell of a change make the same ids of the same ids as the change. -/
theorem sameNames_replay {events : List Event} {change? : Option Change}
    (told : notices events = (change?.bind Change.notice?).toList)
    (fit : ∀ change, change? = some change → change.IsFit) {entries : Entries}
    {ids : Named Unit} (same : Named.SameNames ids entries) :
    Named.SameNames (replay events ids) (Change.applyAll change?.toList entries) := by
  unfold replay
  rw [told]
  cases change? with
  | none => exact same
  | some change => exact Change.sameNames_apply (fit change rfl) same

end Audit

/-! ## Where the keychain comes from -/

/-- The keychain that a task finds in memory or loads, if it comes as far as that. -/
def Task.found? (task : Task) (custodian : Custodian) (host : Host) : Option Keychain :=
  match task.refusal? host with
  | some _ => none
  | none => (Custodian.opened.outcome custodian (task.begun host)).result.toOption

namespace Custodian

open Duty

variable {custodian after : Custodian} {path : Text} {messages : List Bytes} {mayFail : Prop}
  {host later : Host} {content? later? : Option Bytes} {found? : Option Keychain}

/-- A custodian who has found a keychain has one then, and one who has not has nothing new. -/
def Finds (custodian after : Custodian) (content? : Option Bytes) : Option Keychain → Prop
  | some keychain => custodian.Sees content? keychain.entries ∧ after.keychain ≠ none
  | none => after.keychain = custodian.keychain

/-- A custodian who looks for the keychain finds it or has nothing new. -/
theorem Serves.finds_opened (serves : custodian.Serves path messages)
    (suits : host.Suits mayFail path content?) :
    custodian.Finds (opened.outcome custodian host).custodian content?
      (opened.outcome custodian host).result.toOption := by
  have reached := serves.sees_opened suits
  generalize opened.outcome custodian host = outcome at reached ⊢
  obtain ⟨failure | keychain, after, later⟩ := outcome
  · exact congrArg Custodian.keychain reached.1
  · obtain ⟨⟨recorded, rfl⟩, -, -, sees⟩ := reached
    exact ⟨sees, nofun⟩

/-- A task keeps the keychain that it finds, as it leaves it. -/
theorem Serves.finds_perform (serves : custodian.Serves path messages)
    (suits : host.Suits mayFail path content?) (task : Task)
    (saves : task.Saves mayFail custodian host) :
    custodian.Finds (task.perform custodian host).custodian content?
      (task.found? custodian host) := by
  have begun := task.suits_begun suits
  have idle : { custodian with recorded := [] } = custodian := by rw [← serves.idle]
  unfold Task.found?
  rw [Task.perform_eq, idle, Task.outcome_duty]
  cases refused : task.refusal? host with
  | some failure =>
    rw [rest_of_refusal?_eq_some refused, outcome_throw]
    rfl
  | none =>
    have finds := serves.finds_opened begun
    have reached := serves.sees_opened begun
    rw [(opens_rest refused).outcome_eq]
    rcases found : opened.outcome custodian (task.begun host) with
      ⟨failure | keychain, after, later⟩
    · rw [found] at finds
      exact finds
    · rw [found] at reached
      obtain ⟨⟨recorded, rfl⟩, suits, loaded, sees⟩ := reached
      have rests : Rests (messages ++ keychain.messages task.presented) mayFail path
          content? keychain.entries
          (fun value => (task.receipt value).map (·.apply keychain.entries))
          ((task.rest host).outcome ⟨path, some keychain, recorded⟩ later) :=
        rests_rest loaded suits task host fun changed => saves.of_opened found
      obtain ⟨kept, -, held, -⟩ := rests.kept
      exact ⟨sees, fun none => by cases held.symm.trans none⟩

/-- Who asks what is known about a keychain loads it, and no more. -/
theorem outcome_statistics (custodian : Custodian) (host : Host) :
    ∃ result, statistics.outcome custodian host =
      match opened.outcome custodian host with
      | ⟨.ok _, after, later⟩ => ⟨result, after, (later.answer (.isThere after.path)).2⟩
      | ⟨.error _, after, later⟩ => ⟨result, after, later⟩ := by
  refine ⟨(statistics.outcome custodian host).result, ?_⟩
  unfold statistics
  rw [outcome_bind]
  rcases opened.outcome custodian host with ⟨failure | keychain, after, later⟩
  · rfl
  · simp only [outcome_bind, outcome_get, outcome_through, outcome_pure]
    rfl

/-! ## Runs that are recorded -/

/-- A custodian and its host after some tasks that began on a host of their own, the keychain as it
was when it was first there, and the events that were handed over. Every save succeeds, or it may
fail and the keychain is at fault. Between two tasks anything may happen to the host but to the file
that the path leads to; and saves may fail from then on or no longer. -/
inductive Records : (mayFail : Prop) → (path : Text) → (origin : Host) →
    Option Keychain → List Event → Custodian → Host → Prop
  | begin {mayFail : Prop} {path : Text} {origin : Host} {content? : Option Bytes}
      (suits : origin.Suits mayFail path content?) :
      Records mayFail path origin none [] (ofPath path) origin
  | perform {mayFail : Prop} {path : Text} {origin : Host} {first? : Option Keychain}
      {events : List Event} {custodian : Custodian} {host : Host}
      (records : Records mayFail path origin first? events custodian host) (task : Task)
      (saves : task.Saves mayFail custodian host) :
      Records mayFail path origin (first?.or (task.found? custodian host))
        (events ++ task.events custodian host)
        (task.perform custodian host).custodian (task.perform custodian host).host
  /-- Somebody asks what is known about the keychain. -/
  | surveyed {mayFail : Prop} {path : Text} {origin : Host} {first? : Option Keychain}
      {events more : List Event} {custodian after : Custodian} {host later : Host}
      {result : Except Failure Statistics}
      (records : Records mayFail path origin first? events custodian host)
      (surveyed : (statistics.perform custodian).run host = ((result, after, more), later)) :
      Records mayFail path origin
        (first?.or (opened.outcome custodian host).result.toOption) (events ++ more) after later
  | meanwhile {mayFail mayFail' : Prop} {path : Text} {origin : Host} {first? : Option Keychain}
      {events : List Event} {custodian : Custodian} {host other : Host} {content? : Option Bytes}
      (records : Records mayFail path origin first? events custodian host)
      (finds : host.tree.Finds host.current path content?)
      (suits : other.Suits mayFail' path content?) :
      Records mayFail' path origin first? events custodian other

/-- A custodian in step with its file, and events that account for what is in memory. Nothing is told
of before the keychain is there, and the file is as it was in the beginning until then. -/
structure Accounts (mayFail : Prop) (path : Text) (origin : Host) (content? : Option Bytes)
    (first? : Option Keychain) (events : List Event) (custodian : Custodian) (host : Host) :
    Prop where
  inStep : ∃ messages, InStep mayFail path content? messages custodian host
  unread : first? = none → custodian.keychain = none ∧ notices events = [] ∧
    origin.tree.Finds origin.current path content?
  first : ∀ first, first? = some first → ∃ early?, origin.tree.Finds origin.current path early? ∧
    entriesOf early? = .ok first.entries
  replayed : ∀ first, first? = some first → ∃ keychain, custodian.keychain = some keychain ∧
    Named.SameNames (replay events first.entries.marks) keychain.entries

variable {origin other : Host} {first? : Option Keychain} {events more : List Event}
  {change? : Option Change}

/-- Who asks what is known about a keychain leaves the file and those who are in step with it. -/
theorem InStep.survey (inStep : InStep mayFail path content? messages custodian host)
    {result : Except Failure Statistics}
    (surveyed : (statistics.perform custodian).run host = ((result, after, more), later)) :
    InStep mayFail path content? messages after later ∧
      custodian.Moves after content? content? none ∧
      custodian.Finds after content? (opened.outcome custodian host).result.toOption ∧
      notices more = [] := by
  obtain ⟨serves, suits, holds⟩ := inStep
  have idle : { custodian with recorded := [] } = custodian := by rw [← serves.idle]
  obtain ⟨noted, recorded, told⟩ := isQuiet_statistics custodian host
  obtain ⟨known, outcome⟩ := outcome_statistics custodian host
  have reached := serves.sees_opened suits
  have finds := serves.finds_opened suits
  have silent : notices noted = [] := by
    rw [told]
    cases (statistics.outcome custodian host).result <;> rfl
  rw [run_perform, idle, recorded, outcome, serves.idle, List.nil_append] at surveyed
  generalize opened.outcome custodian host = opened at surveyed reached finds
  obtain ⟨failure | keychain, held, there⟩ := opened
  · obtain ⟨rfl, suits⟩ := reached
    cases surveyed
    exact ⟨⟨idle.symm ▸ serves, suits, holds⟩, .stays rfl, finds, silent⟩
  · obtain ⟨⟨recorded, rfl⟩, suits, loaded, sees⟩ := reached
    cases surveyed
    have moves : custodian.Moves ⟨path, some keychain, []⟩ content? content? none :=
      .looks sees rfl (.refl _)
    refine ⟨⟨⟨rfl, rfl, ?_⟩, ?_, fun _ held => moves.holds holds held⟩, moves, finds, silent⟩
    · rintro _ ⟨⟩
      exact loaded
    · exact (suits.settled.answer _).suits suits suits.finds suits.shows


/-- Events that tell of the change that was made account for what is in memory then. -/
theorem Accounts.step
    (accounts : Accounts mayFail path origin content? first? events custodian host)
    (inStep : InStep mayFail path later? messages after later)
    (moves : custodian.Moves after content? later? change?)
    (finds : custodian.Finds after content? found?)
    (told : notices more = (change?.bind Change.notice?).toList)
    (fit : ∀ change, change? = some change → change.IsFit) :
    Accounts mayFail path origin later? (first?.or found?) (events ++ more) after later := by
  obtain ⟨-, unread, origins, replayed⟩ := accounts
  cases first? with
  | some first =>
    refine ⟨⟨messages, inStep⟩, nofun, origins, fun _ same => ?_⟩
    cases same
    obtain ⟨keychain, held, same⟩ := replayed first rfl
    -- Whoever had a keychain has one still.
    cases kept : after.keychain with
    | none => cases held.symm.trans (moves.of_unloaded kept).1
    | some keychain' =>
      obtain ⟨entries, sees, agree⟩ := moves.sees kept
      have seen : keychain.entries = entries := by
        cases sees with
        | holds held' =>
          cases held.symm.trans held'
          rfl
        | reads unloaded => cases held.symm.trans unloaded
      refine ⟨keychain', rfl, ?_⟩
      rw [Audit.replay_append]
      exact (Audit.sameNames_replay told fit (seen ▸ same)).trans agree.symm.sameNames
  | none =>
    obtain ⟨unloaded, silent, origin⟩ := unread rfl
    cases found? with
    | none =>
      have unloaded' : after.keychain = none := finds.trans unloaded
      obtain ⟨-, rfl⟩ := moves.of_unloaded unloaded'
      obtain rfl := moves.content_eq
      refine ⟨⟨messages, inStep⟩, fun _ => ⟨unloaded', ?_, origin⟩, nofun, nofun⟩
      rw [Audit.notices_append, silent, told]
      rfl
    | some found =>
      obtain ⟨sees, loaded⟩ := finds
      obtain ⟨keychain, held⟩ := Option.ne_none_iff_exists'.mp loaded
      obtain ⟨entries, sees', agree⟩ := moves.sees held
      have read {entries : Entries} (sees : custodian.Sees content? entries) :
          entriesOf content? = .ok entries := by
        cases sees with
        | holds held => cases unloaded.symm.trans held
        | reads _ read => exact read
      have seen : found.entries = entries := by
        have both := (read sees).symm.trans (read sees')
        cases both
        rfl
      refine ⟨⟨messages, inStep⟩, nofun, fun _ same => ?_, fun _ same => ?_⟩
      · cases same
        exact ⟨content?, origin, read sees⟩
      · cases same
        refine ⟨keychain, held, ?_⟩
        have early : replay events found.entries.marks = found.entries.marks := by
          unfold replay
          rw [silent]
          rfl
        rw [Audit.replay_append, early, seen]
        have same := Named.sameNames_marks found.entries
        exact (Audit.sameNames_replay told fit (seen ▸ same)).trans agree.symm.sameNames

/-- The events account for what is in memory at any time. -/
theorem Records.holds (records : Records mayFail path origin first? events custodian host) :
    ∃ content?, Accounts mayFail path origin content? first? events custodian host := by
  induction records with
  | begin suits =>
    exact ⟨_, ⟨[], .ofPath suits []⟩, fun _ => ⟨rfl, rfl, suits.finds⟩, nofun, nofun⟩
  | @perform mayFail path origin first? events custodian host records task saves ih =>
    obtain ⟨content?, accounts⟩ := ih
    obtain ⟨messages, inStep⟩ := accounts.inStep
    obtain ⟨serves, later?, suits, moves⟩ := inStep.serves.perform inStep.suits task saves
    have after : InStep mayFail path later? _ _ _ :=
      ⟨serves, suits, fun keychain held => moves.holds inStep.holds held⟩
    exact ⟨later?, accounts.step after moves (inStep.serves.finds_perform inStep.suits task saves)
      (task.notices_events _ _) fun _ => Task.isFit_of_told⟩
  | surveyed records surveyed ih =>
    obtain ⟨content?, accounts⟩ := ih
    obtain ⟨messages, inStep⟩ := accounts.inStep
    obtain ⟨after, moves, finds, silent⟩ := inStep.survey surveyed
    exact ⟨content?, accounts.step after moves finds silent nofun⟩
  | meanwhile records finds suits ih =>
    obtain ⟨content?, accounts⟩ := ih
    obtain ⟨messages, inStep⟩ := accounts.inStep
    cases inStep.suits.finds.unique finds
    exact ⟨_, ⟨messages, inStep.serves, suits, inStep.holds⟩, accounts.unread, accounts.first,
      accounts.replayed⟩

/-- Replaying the events on the ids of the keychain as it was when it was first there, which is what
the file held in the beginning, gives the ids of the file. Until the keychain is there, nothing is
told of and the file is as it was in the beginning. -/
theorem Records.accounts (records : Records mayFail path origin first? events custodian host) :
    match first? with
    | none => custodian.keychain = none ∧ notices events = [] ∧
      host.tree.read host.current path = origin.tree.read origin.current path
    | some first => ∃ early stored, ((Keychain.load path).run origin.calmed).1 = .ok early ∧
      early.entries = first.entries ∧ ((Keychain.load path).run host.calmed).1 = .ok stored ∧
      Named.SameNames (replay events first.entries.marks) stored.entries := by
  obtain ⟨content?, accounts⟩ := records.holds
  obtain ⟨messages, inStep⟩ := accounts.inStep
  cases first? with
  | none =>
    obtain ⟨unloaded, silent, finds⟩ := accounts.unread rfl
    exact ⟨unloaded, silent, finds.read_eq inStep.suits.finds⟩
  | some first =>
    obtain ⟨early?, finds, read⟩ := accounts.first first rfl
    obtain ⟨keychain, held, same⟩ := accounts.replayed first rfl
    have proper := (inStep.serves.held keychain held).proper
    obtain ⟨entries, read', agree⟩ := inStep.holds keychain held
    obtain ⟨early, loaded, begun⟩ := Keychain.load_calmed proper finds read
    obtain ⟨stored, loaded', rfl⟩ := Keychain.load_calmed proper inStep.suits.finds read'
    exact ⟨early, stored, loaded, begun, loaded', same.trans agree.sameNames⟩

/-- A key is added while nothing gets to the disk, which is undone; later another one is removed. -/
theorem accounts_undone :
    let path := Text.lit "k"
    let host := Host.unsynced (.ofFile [107] [97, 58, 104, 10])
    let add := Task.add (.ofText (Text.lit "b")) (.ofBytes [103])
    let remove := Task.remove (.ofText (Text.lit "a"))
    let added := add.perform (ofPath path) host
    let removed := remove.perform added.custodian added.host.calmed
    let events := add.events (ofPath path) host ++ remove.events added.custodian added.host.calmed
    notices events = [.deleted (.ofText (Text.lit "a"))] ∧
      ∃ first, Records True path host (some first) events removed.custodian removed.host ∧
        ∃ stored, ((Keychain.load path).run removed.host.calmed).1 = .ok stored ∧
          Named.SameNames (replay events first.entries.marks) stored.entries := by
  intro path host add remove added removed events
  have suits : host.Suits True path (some [97, 58, 104, 10]) :=
    .of_root (.ofFile _ _) rfl rfl (fun _ _ fails => by cases fails) rfl
  have undone := (Records.begin suits).perform add (by decide +kernel)
  obtain ⟨content?, accounts⟩ := undone.holds
  obtain ⟨_, inStep⟩ := accounts.inStep
  have calmed := undone.meanwhile inStep.suits.finds inStep.suits.calmed
  have records := calmed.perform remove (by decide +kernel)
  have loads : (add.found? (ofPath path) host).isSome = true := by decide +kernel
  obtain ⟨first, found⟩ := Option.isSome_iff_exists.mp loads
  rw [found, Option.none_or, Option.some_or, List.nil_append] at records
  obtain ⟨-, stored, -, -, loaded, same⟩ := records.accounts
  exact ⟨by decide +kernel, first, records, stored, loaded, same⟩

/-- A path that leads up from a directory which is made for it comes to lead to another file, of whose
ids no event tells. -/
theorem accounts_fails_through_parents :
    let path := Text.lit "a/../b"
    let host := Host.unsynced (.ofFile [98] [120, 58, 104, 10])
    let listed := Task.ids.perform (ofPath path) host
    let add := Task.add (.ofText (Text.lit "y")) (.ofBytes [103])
    let added := add.perform listed.custodian listed.host
    let events := Task.ids.events (ofPath path) host ++ add.events listed.custodian listed.host
    listed.result = .ok [] ∧ add.Saves True listed.custodian listed.host ∧
      replay events [] = [] ∧
      ((Keychain.load path).run added.host.calmed).1.map (·.entries) =
        .ok [(.ofText (Text.lit "x"), .ofBytes [104])] := by
  intro path host listed add added events
  refine ⟨?_, by decide +kernel, by decide +kernel, by decide +kernel⟩
  show (listed.result : Except Failure (List Cell)) = .ok []
  decide +kernel

end Custodian

end Keyring
