import Keyring.Proofs.Custodian.Alike
import Keyring.Proofs.Custodian.Succession
import Keyring.Proofs.Host.Entropy

/-!
# One who stays and those who come anew

One custodian performs one task after another. On another host that is like the first one, a new
custodian comes for each of these tasks. The two runs cannot be told apart (`Parallel.alike`): what
the tasks give is the same, and so is the mapping in the file.

A save may fail, but only where the path would not come to lead to another file once its directories
are made (`alike_fails_through_parents`).

The custodian who stays goes by the mapping in memory, those who come anew by the file. These agree,
though not in order: a removal that was undone puts an entry last. That the one reads the file less
often must not matter, so reading never fails by itself here; and a save that fails in one run fails
in the other one too.
-/

namespace Keyring

open Entries (Agree)
open KeychainFile (entriesOf Holds)

/-- What a path leads to on two hosts would be loaded as the same mapping, or not at all for the same
reason, if no call failed by itself. -/
inductive Host.SameFile (path : Text) (host other : Host) : Prop
  | loads {keychain keychain' : Keychain}
      (loaded : ((Keychain.load path).run host.calmed).1 = .ok keychain)
      (loaded' : ((Keychain.load path).run other.calmed).1 = .ok keychain')
      (agree : Agree keychain.entries keychain'.entries)
  | fails {failure : Failure} (failed : ((Keychain.load path).run host.calmed).1 = .error failure)
      (failed' : ((Keychain.load path).run other.calmed).1 = .error failure)

namespace Custodian

open Duty

variable {custodian : Custodian} {path : Text} {messages : List Bytes} {host other : Host}
  {content? other? : Option Bytes} {mayFail : Prop} {task : Task}

/-- If one custodian performs a task and a new one does, then every save succeeds, or it may fail and
the keychain is at fault; and if both save, then both succeed or neither of them. -/
structure Fair (mayFail : Prop) (path : Text) (task : Task) (custodian : Custodian)
    (host other : Host) : Prop where
  saves : task.Saves mayFail custodian host
  saves' : task.Saves mayFail (ofPath path) other
  same : ∀ saved ∈ task.saving custodian host, ∀ saved' ∈ task.saving (ofPath path) other,
    saved.1.Saves False saved.2 ↔ saved'.1.Saves False saved'.2

/-- The custodian who stays and their host, and the host of those who come anew, after the same
tasks; and the messages that the one who stays has hashed. Between two tasks anything may happen to
either host but to the file that the path leads to, as long as both have the same entropy; and saves
may fail from then on or no longer. -/
inductive Parallel : (mayFail : Prop) → (path : Text) → List Bytes → Custodian → Host → Host → Prop
  | begin {mayFail : Prop} {path : Text} {host other : Host} {content? : Option Bytes}
      (suits : host.Suits mayFail path content?) (suits' : other.Suits mayFail path content?)
      (reads : host.Reads path) (reads' : other.Reads path) (entropy : host.SameEntropy other) :
      Parallel mayFail path [] (ofPath path) host other
  | perform {mayFail : Prop} {path : Text} {messages : List Bytes} {custodian : Custodian}
      {host other : Host} (parallel : Parallel mayFail path messages custodian host other)
      (task : Task) (fair : Fair mayFail path task custodian host other) :
      Parallel mayFail path (messages ++ task.hashed custodian host)
        (task.perform custodian host).custodian (task.perform custodian host).host
        (task.perform (ofPath path) other).host
  | meanwhile {mayFail mayFail' : Prop} {path : Text} {messages : List Bytes}
      {custodian : Custodian} {host other later later' : Host} {content? other? : Option Bytes}
      (parallel : Parallel mayFail path messages custodian host other)
      (finds : host.tree.Finds host.current path content?)
      (finds' : other.tree.Finds other.current path other?)
      (suits : later.Suits mayFail' path content?) (suits' : later'.Suits mayFail' path other?)
      (reads : later.Reads path) (reads' : later'.Reads path) (entropy : later.SameEntropy later') :
      Parallel mayFail' path messages custodian later later'

/-! ## One step -/

/-- Two contents are read as the same mapping, and nothing is wrong with the path. -/
def SameEntries (path : Text) (content? other? : Option Bytes) : Prop :=
  Path.fault? path = none ∧ ∃ entries, Holds content? entries ∧ Holds other? entries

/-- A task that fails leaves the file as it was. -/
theorem InStep.perform_of_error (inStep : InStep mayFail path content? messages custodian host)
    (saves : task.Saves mayFail custodian host) {failure : Failure}
    (failed : (task.perform custodian host).result = .error failure) :
    InStep mayFail path content? (messages ++ task.hashed custodian host)
      (task.perform custodian host).custodian (task.perform custodian host).host := by
  obtain ⟨serves, later?, suits, moves⟩ := inStep.serves.perform inStep.suits task saves
  rw [failed] at moves
  obtain rfl := moves.content_eq
  exact ⟨serves, suits, fun keychain held => moves.holds inStep.holds held⟩

/-- Looking for the keychain takes no entropy. -/
theorem sameEntropy_opened (custodian : Custodian) (host : Host) :
    host.SameEntropy (opened.outcome custodian host).host := by
  obtain ⟨path, _ | keychain, recorded⟩ := custodian
  · have spares := Keychain.spares_load path host
    rw [outcome_opened_none]
    generalize (Keychain.load path).run host = outcome at spares ⊢
    obtain ⟨_ | keychain, later⟩ := outcome
    · exact spares
    · exact spares
  · rw [outcome_opened]
    exact .refl host

/-- A task takes entropy for a new credential, and none besides. -/
theorem Serves.sameEntropy_perform (serves : custodian.Serves path messages)
    (suits : host.Suits mayFail path content?) (task : Task) :
    (task.begun host).SameEntropy (task.perform custodian host).host := by
  have gives := serves.perform_gives suits task
  cases refused : task.refusal? host with
  | some failure =>
    rw [refused] at gives
    rw [gives.2]
    exact .refl _
  | none =>
    have spares := sameEntropy_opened custodian (task.begun host)
    rw [refused] at gives
    dsimp only at gives
    rcases found : opened.outcome custodian (task.begun host) with ⟨failure | keychain, after, later⟩
    · rw [found] at gives spares
      rw [gives.2]
      exact spares
    · rw [found] at gives spares
      rw [gives.2]
      unfold Keychain.saveGiven
      split
      · exact spares.trans (Keychain.spares_save _ later)
      · exact spares

/-- The custodian who stays is in step with a file, and the other file is the same or is read as the
same mapping. -/
structure Abreast (mayFail : Prop) (path : Text) (content? other? : Option Bytes)
    (messages : List Bytes) (custodian : Custodian) (host other : Host) : Prop where
  inStep : InStep mayFail path content? messages custodian host
  suits : other.Suits mayFail path other?
  reads : host.Reads path
  reads' : other.Reads path
  entries : content? = other? ∨ SameEntries path content? other?
  entropy : host.SameEntropy other

namespace Abreast

/-- Both stay abreast while there is to be a new credential. -/
theorem begun (abreast : Abreast mayFail path content? other? messages custodian host other) (task : Task) :
    Abreast mayFail path content? other? messages custodian (task.begun host) (task.begun other) where
  inStep := ⟨abreast.inStep.serves, task.suits_begun abreast.inStep.suits, abreast.inStep.holds⟩
  suits := task.suits_begun abreast.suits
  reads := by cases task <;> exact abreast.reads
  reads' := by cases task <;> exact abreast.reads'
  entries := abreast.entries
  entropy := by
    cases task with
    | create => exact abreast.entropy.answer_issue.2
    | add id hash => exact abreast.entropy
    | remove id => exact abreast.entropy
    | verify id secret => exact abreast.entropy
    | ids => exact abreast.entropy
    | save => exact abreast.entropy

/-- Both fail to load the keychain, for the same reason, or they have keychains with one mapping. -/
theorem opens (abreast : Abreast mayFail path content? other? messages custodian host other) :
    (∃ failure, (opened.outcome custodian host).result = .error failure ∧
      (opened.outcome (ofPath path) other).result = .error failure) ∨
    SameEntries path content? other? ∧ ∃ keychain keychain',
      (opened.outcome custodian host).result = .ok keychain ∧
      (opened.outcome (ofPath path) other).result = .ok keychain' ∧
      Agree keychain.entries keychain'.entries ∧
      keychain.Serves path messages ∧ keychain'.Serves path messages := by
  obtain ⟨inStep, suits, reads, reads', entries, -⟩ := abreast
  by_cases readable : SameEntries path content? other?
  · right
    obtain ⟨proper, entries, holds, holds'⟩ := readable
    obtain ⟨keychain, opened, agree, serves⟩ := inStep.opens proper (fun _ => reads) holds
    obtain ⟨keychain', opened', agree', serves'⟩ :=
      (InStep.ofPath suits messages).opens proper (fun _ => reads') holds'
    exact ⟨⟨proper, entries, holds, holds'⟩, keychain, keychain', opened, opened',
      agree.trans agree'.symm, serves, serves'⟩
  · left
    obtain rfl : content? = other? := entries.resolve_right readable
    have unreadable {entries : Entries} (proper : Path.fault? path = none)
        (holds : Holds content? entries) : False :=
      readable ⟨proper, entries, holds, holds⟩
    have unloaded : custodian.keychain = none := by
      cases held : custodian.keychain with
      | none => rfl
      | some keychain =>
        exact (unreadable (inStep.serves.held _ held).proper (inStep.holds _ held)).elim
    have same : ((Keychain.load path).run other).1 = ((Keychain.load path).run host).1 := by
      rw [Keychain.fst_load_of_reads reads, Keychain.fst_load_of_reads reads']
      exact Keychain.fst_load_calmed_congr (inStep.suits.finds.read_eq suits.finds)
    obtain ⟨name, _, recorded⟩ := custodian
    obtain rfl : name = path := inStep.serves.here
    cases unloaded
    cases loaded : ((Keychain.load name).run host).1 with
    | ok keychain =>
      obtain ⟨proper, -, read⟩ :=
        Keychain.load_eq_ok inStep.suits.honest inStep.suits.finds loaded
      exact (unreadable proper ⟨_, read, .refl _⟩).elim
    | error failure =>
      rw [loaded] at same
      unfold ofPath
      rw [outcome_opened_none, outcome_opened_none]
      generalize (Keychain.load name).run host = outcome at loaded
      generalize (Keychain.load name).run other = outcome' at same
      obtain ⟨_, later⟩ := outcome
      obtain ⟨_, later'⟩ := outcome'
      cases loaded
      cases same
      exact ⟨failure, rfl, rfl⟩

/-- A new credential comes about on both hosts or on neither. -/
theorem refusal?_eq (abreast : Abreast mayFail path content? other? messages custodian host other)
    (task : Task) : task.refusal? other = task.refusal? host := by
  cases task with
  | create =>
    unfold Task.refusal?
    dsimp only
    rw [abreast.entropy.answer_issue.1]
  | add id hash => rfl
  | remove id => rfl
  | verify id secret => rfl
  | ids => rfl
  | save => rfl

/-- Saving what a task makes of two keychains with one mapping comes to the same. -/
theorem saveGiven_alike (abreast : Abreast mayFail path content? other? messages custodian host other)
    {keychain keychain' : Keychain} {after after' : Custodian} {later later' : Host}
    (found : opened.outcome custodian (task.begun host) = ⟨.ok keychain, after, later⟩)
    (found' : opened.outcome (ofPath path) (task.begun other) = ⟨.ok keychain', after', later'⟩)
    (agree : Agree keychain.entries keychain'.entries) (serves : keychain.Serves path messages)
    (serves' : keychain'.Serves path messages) (fair : Fair mayFail path task custodian host other) :
    Alike path (Keychain.saveGiven (task.change host keychain) later).1
      (Keychain.saveGiven (task.change other keychain') later').1 := by
  have both := task.isSome_change_congr agree abreast.entropy.answer_issue.1
  cases change : task.change host keychain with
  | none =>
    rw [change, Option.isSome_none, Option.isSome_eq_false_iff, Option.isNone_iff_eq_none] at both
    rw [both]
    exact .refl path _
  | some changed =>
    rw [change, Option.isSome_some, Option.isSome_iff_exists] at both
    obtain ⟨changed', change'⟩ := both
    have saving : task.saving custodian host = some (changed, later) := by
      rw [Task.saving, found]
      simp [change]
    have saving' : task.saving (ofPath path) other = some (changed', later') := by
      rw [Task.saving, found']
      simp [change']
    rw [change']
    exact (serves.change change).save_alike (serves'.change change')
      (fair.saves _ saving) (fair.saves' _ saving') (fair.same _ saving _ saving')

/-- Both tasks fail for the same reason before anything is saved; or both answer by keychains with
one mapping, and saving comes to the same. -/
theorem gives (abreast : Abreast mayFail path content? other? messages custodian host other) (task : Task)
    (fair : Fair mayFail path task custodian host other) :
    (∃ failure, (task.perform custodian host).result = .error failure ∧
      (task.perform (ofPath path) other).result = .error failure) ∨
    SameEntries path content? other? ∧ ∃ issued keychain keychain' saved saved',
      (task.perform custodian host).result = task.answer issued keychain saved ∧
      (task.perform (ofPath path) other).result = task.answer issued keychain' saved' ∧
      Alike path saved saved' ∧ Agree keychain.entries keychain'.entries ∧
      keychain.Serves path messages ∧ keychain'.Serves path messages ∧
      task.hashed custodian host = keychain.messages task.presented := by
  have gives := abreast.inStep.serves.perform_gives abreast.inStep.suits task
  have gives' := (InStep.ofPath abreast.suits messages).serves.perform_gives abreast.suits task
  rw [abreast.refusal?_eq] at gives'
  cases refused : task.refusal? host with
  | some failure =>
    rw [refused] at gives gives'
    exact .inl ⟨failure, gives.1, gives'.1⟩
  | none =>
    rw [refused] at gives gives'
    dsimp only at gives gives'
    have opens := (abreast.begun task).opens
    rcases found : opened.outcome custodian (task.begun host) with ⟨result, after, later⟩
    rcases found' : opened.outcome (ofPath path) (task.begun other) with ⟨result', after', later'⟩
    rw [found] at gives opens
    rw [found'] at gives' opens
    rcases opens with ⟨failure, rfl, rfl⟩ |
      ⟨entries, keychain, keychain', rfl, rfl, agree, serves, serves'⟩
    · exact .inl ⟨failure, gives.1, gives'.1⟩
    · right
      have hashed : task.hashed custodian host = keychain.messages task.presented := by
        rw [Task.hashed, found]
      rw [abreast.entropy.answer_issue.1] at gives'
      exact ⟨entries, _, keychain, keychain', _, _, gives.1, gives'.1,
        abreast.saveGiven_alike found found' agree serves serves' fair, agree, serves, serves',
        hashed⟩

/-- What the task gives is alike, if no verdict goes by a digest that two messages have. -/
theorem result_alike (abreast : Abreast mayFail path content? other? messages custodian host other)
    (fair : Fair mayFail path task custodian host other)
    (separates : ∀ id secret, task = .verify id secret →
      Sha512.Separates (messages ++ task.hashed custodian host)) :
    Alike path (task.perform custodian host).result (task.perform (ofPath path) other).result := by
  rcases abreast.gives task fair with ⟨failure, failed, failed'⟩ |
    ⟨-, issued, keychain, keychain', saved, saved', answered, answered', alike, agree, serves,
      serves', hashed⟩
  · rw [failed, failed']
    exact .refl path _
  · rw [answered, answered']
    refine Task.answer_alike serves serves' agree task issued alike fun id secret verifies => ?_
    have separates := separates id secret verifies
    subst verifies
    rw [hashed] at separates
    exact serves.sound.fst_verify_congr serves'.sound agree id secret separates

/-- Both tell of the same change. No verdict tells of any. -/
theorem told_eq (abreast : Abreast mayFail path content? other? messages custodian host other)
    (fair : Fair mayFail path task custodian host other) :
    task.told (ofPath path) other = task.told custodian host := by
  have silent (id secret : Cell) (custodian : Custodian) (host : Host) :
      (Task.verify id secret).told custodian host = none := by
    unfold Task.told
    cases ((Task.verify id secret).perform custodian host).result.toOption <;> rfl
  by_cases verifies : ∃ id secret, task = .verify id secret
  · obtain ⟨id, secret, rfl⟩ := verifies
    rw [silent, silent]
  · have alike := abreast.result_alike fair fun id secret same => absurd ⟨id, secret, same⟩ verifies
    unfold Task.told
    rw [alike.toOption_eq]

/-- After a task both are abreast again. -/
theorem perform (abreast : Abreast mayFail path content? other? messages custodian host other)
    (fair : Fair mayFail path task custodian host other) :
    ∃ later? later'?, Abreast mayFail path later? later'? (messages ++ task.hashed custodian host)
      (task.perform custodian host).custodian (task.perform custodian host).host
      (task.perform (ofPath path) other).host := by
  have comes : InStep mayFail path other? messages (ofPath path) other := .ofPath abreast.suits messages
  have follows := follows_perform abreast.inStep.suits.settled task custodian
  have follows' := follows_perform abreast.suits.settled task (ofPath path)
  have reads : (task.perform custodian host).host.Reads path := fun count => by
    rw [follows.faults]
    exact abreast.reads count
  have reads' : (task.perform (ofPath path) other).host.Reads path := fun count => by
    rw [follows'.faults]
    exact abreast.reads' count
  have entropy : (task.perform custodian host).host.SameEntropy
      (task.perform (ofPath path) other).host :=
    (abreast.inStep.serves.sameEntropy_perform abreast.inStep.suits task).symm.trans
      ((abreast.begun task).entropy.trans (comes.serves.sameEntropy_perform abreast.suits task))
  rcases abreast.gives task fair with ⟨failure, failed, failed'⟩ |
    ⟨⟨proper, entries, holds, holds'⟩, -⟩
  · exact ⟨content?, other?, abreast.inStep.perform_of_error fair.saves failed,
      (comes.perform_of_error fair.saves' failed').suits, reads, reads', abreast.entries, entropy⟩
  · obtain ⟨later?, inStep, held⟩ := abreast.inStep.perform_holds task fair.saves holds
    obtain ⟨later'?, inStep', held'⟩ := comes.perform_holds task fair.saves' holds'
    rw [abreast.told_eq fair] at held'
    exact ⟨later?, later'?, inStep, inStep'.suits, reads, reads', .inr ⟨proper, _, held, held'⟩,
      entropy⟩

/-- What would be loaded on either side is the same. -/
theorem sameFile (abreast : Abreast mayFail path content? other? messages custodian host other) :
    host.SameFile path other := by
  have finds := abreast.inStep.suits.finds
  rcases abreast.entries with rfl | ⟨proper, entries, ⟨stored, read, agree⟩, stored', read', agree'⟩
  · have same := Keychain.fst_load_calmed_congr (finds.read_eq abreast.suits.finds)
    cases loaded : ((Keychain.load path).run host.calmed).1 with
    | ok keychain => exact .loads loaded (same.trans loaded) (.refl _)
    | error failure => exact .fails loaded (same.trans loaded)
  · obtain ⟨keychain, loaded, rfl⟩ := Keychain.load_calmed proper finds read
    obtain ⟨keychain', loaded', rfl⟩ := Keychain.load_calmed proper abreast.suits.finds read'
    exact .loads loaded loaded' (agree.symm.trans agree')

end Abreast

/-! ## Whole runs -/

/-- At any time the two are abreast. -/
theorem Parallel.abreast (parallel : Parallel mayFail path messages custodian host other) :
    ∃ content? other?, Abreast mayFail path content? other? messages custodian host other := by
  induction parallel with
  | begin suits suits' reads reads' entropy =>
    exact ⟨_, _, .ofPath suits [], suits', reads, reads', .inl rfl, entropy⟩
  | perform parallel task fair ih =>
    obtain ⟨content?, other?, abreast⟩ := ih
    exact abreast.perform fair
  | meanwhile parallel finds finds' suits suits' reads reads' entropy ih =>
    obtain ⟨content?, other?, abreast⟩ := ih
    cases abreast.inStep.suits.finds.unique finds
    cases abreast.suits.finds.unique finds'
    exact ⟨_, _, ⟨abreast.inStep.serves, suits, abreast.inStep.holds⟩, suits', reads, reads',
      abreast.entries, entropy⟩

/-- A custodian who stays and new ones for every task cannot be told apart: the file holds the same
mapping at any time, and every task gives the same or fails in the same way, unless two of the
messages that were hashed have one digest. -/
theorem Parallel.alike (parallel : Parallel mayFail path messages custodian host other) :
    host.SameFile path other ∧
      ∀ task, Fair mayFail path task custodian host other →
        Sha512.Separates (messages ++ task.hashed custodian host) →
        Alike path (task.perform custodian host).result
          (task.perform (ofPath path) other).result := by
  obtain ⟨content?, other?, abreast⟩ := parallel.abreast
  exact ⟨abreast.sameFile, fun task fair separates => abreast.result_alike fair fun _ _ _ => separates⟩

/-- A removal is undone, so that the entries in memory have another order than those of the file. -/
theorem alike_undone :
    let path := Text.lit "k"
    let a := Cell.ofText (Text.lit "a")
    let b := Cell.ofText (Text.lit "b")
    let host := Host.unsynced (.ofFile [107] [97, 58, 104, 10, 98, 58, 103, 10])
    let task := Task.remove a
    let removed := task.perform (ofPath path) host
    let failure := Failure.storage (.writing ⟨5, Text.lit "Input/output error", []⟩) (.ofText path)
    Parallel True path ([] ++ task.hashed (ofPath path) host) removed.custodian removed.host
        removed.host ∧
      removed.result = .error failure ∧
      removed.custodian.keychain.map (·.ids) = some [b, a] ∧
      Fair True path .ids removed.custodian removed.host removed.host ∧
      removed.host.SameFile path removed.host ∧
      Alike path (Task.ids.perform removed.custodian removed.host).result
        (Task.ids.perform (ofPath path) removed.host).result := by
  intro path a b host task removed failure
  have suits : host.Suits True path (some [97, 58, 104, 10, 98, 58, 103, 10]) :=
    .of_root (.ofFile _ _) rfl rfl (fun _ _ fails => by cases fails) rfl
  have reads : host.Reads path := fun _ => rfl
  have fair : Fair True path task (ofPath path) host host := by
    refine ⟨by decide +kernel, by decide +kernel, fun saved member saved' member' => ?_⟩
    rw [Option.mem_unique member member']
  have fair' : Fair True path .ids removed.custodian removed.host removed.host :=
    ⟨by decide +kernel, by decide +kernel, by decide +kernel⟩
  have parallel := (Parallel.begin suits suits reads reads (.refl host)).perform task fair
  have separates : Sha512.Separates ([] ++ task.hashed (ofPath path) host ++
      Task.ids.hashed removed.custodian removed.host) := by
    rw [Task.hashed_eq_nil rfl, Task.hashed_eq_nil rfl]
    intro first member
    cases member
  refine ⟨parallel, ?_, by decide +kernel, fair', parallel.alike.1,
    parallel.alike.2 .ids fair' separates⟩
  show (removed.result : Except Failure Bool) = .error failure
  decide +kernel

/-- A path that leads up from a directory which is made for it comes to lead to another file, which
only a new custodian reads. -/
theorem alike_fails_through_parents :
    let path := Text.lit "a/../b"
    let host := Host.unsynced (.ofFile [98] [120, 58, 104, 10])
    let task := Task.add (.ofText (Text.lit "y")) (.ofBytes [103])
    let added := task.perform (ofPath path) host
    let failure := Failure.storage (.writing ⟨5, Text.lit "Input/output error", []⟩) (.ofText path)
    host.Reads path ∧ Fair True path task (ofPath path) host host ∧ added.result = .error failure ∧
      Fair True path .ids added.custodian added.host added.host ∧
      (Task.ids.perform added.custodian added.host).result = .ok [] ∧
      (Task.ids.perform (ofPath path) added.host).result = .ok [.ofText (Text.lit "x")] := by
  intro path host task added failure
  refine ⟨fun _ => rfl, ⟨by decide +kernel, by decide +kernel, ?_⟩, ?_,
    ⟨by decide +kernel, by decide +kernel, by decide +kernel⟩, ?_, ?_⟩
  · intro saved member saved' member'
    rw [Option.mem_unique member member']
  · show (added.result : Except Failure Unit) = .error failure
    decide +kernel
  · show ((Task.ids.perform added.custodian added.host).result : Except Failure (List Cell)) = _
    decide +kernel
  · show ((Task.ids.perform (ofPath path) added.host).result : Except Failure (List Cell)) = _
    decide +kernel

end Custodian

end Keyring
