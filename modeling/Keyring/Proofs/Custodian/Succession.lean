import Keyring.Proofs.Custodian.Agreement
import Keyring.Proofs.KeychainFile.Reliable

/-!
# One custodian after another

At any time a custodian may make way for another one of the same file, who has to load the keychain
(`Continues`). Since the one before was in step with the file, all goes on as if nothing had happened:
the file holds what the changes have made of it that the results told of, whoever has made them
(`Continues.keeps`).
-/

namespace Keyring

open Entries (Agree)
open KeychainFile (entriesOf Holds)

/-! ## What a run of changes does to one id -/

namespace Change

/-- A change gives an id another hash or takes it away. -/
def Concerns (change : Change) (id : Cell) : Prop :=
  match change with
  | .put other _ => other = id
  | .erase other => other = id
  | .keep => False

/-- A change gives an id a hash. -/
def Stores (change : Change) (id : Cell) : Prop :=
  match change with
  | .put other _ => other = id
  | _ => False

variable {change : Change} {changes : List Change} {entries : Entries} {id : Text}

/-- Only for texts anything is put, and as the texts that they are. -/
theorem apply_put (other hash : Cell) (entries : Entries) :
    (put other hash).apply entries = entries ∨
      ∃ bytes, (put other hash).apply entries = Named.put other (.ofBytes bytes) entries := by
  unfold apply
  dsimp only
  split
  · rename_i text bytes entry
    right
    exact ⟨bytes, by rw [Cell.id_of_entryWith entry]⟩
  · exact .inl rfl

/-- An id that a change does not concern keeps its hash. -/
theorem get?_apply_of_not_concerns (apart : ¬ change.Concerns (.ofText id)) :
    (change.apply entries).get? (.ofText id) = entries.get? (.ofText id) := by
  have other {name : Cell} (different : name ≠ .ofText id) :
      (Cell.ofText id).identity ≠ name.identity := fun same =>
    different (Cell.identity_eq_ofText_iff.mp same.symm)
  cases change with
  | put name hash =>
    rcases apply_put name hash entries with same | ⟨bytes, same⟩
    · rw [same]
    · rw [same, Named.get?_put, if_neg (other apart)]
  | erase name => rw [apply, Named.get?_erase, if_neg (other apart)]
  | keep => rfl

/-- An id that is not stored is not stored until a change stores it. -/
theorem get?_apply_of_not_stores (apart : ¬ change.Stores (.ofText id))
    (absent : entries.get? (.ofText id) = none) :
    (change.apply entries).get? (.ofText id) = none := by
  cases change with
  | put name hash =>
    have unconcerned : ¬ (put name hash).Concerns (.ofText id) := apart
    exact (get?_apply_of_not_concerns unconcerned).trans absent
  | erase name =>
    rw [apply, Named.get?_erase]
    split
    · rfl
    · exact absent
  | keep => exact absent

/-- An id that no change concerns keeps its hash. -/
theorem get?_applyAll_of_not_concerns
    (apart : ∀ change ∈ changes, ¬ change.Concerns (.ofText id)) :
    (applyAll changes entries).get? (.ofText id) = entries.get? (.ofText id) := by
  induction changes generalizing entries with
  | nil => rfl
  | cons change changes ih =>
    have rest := fun other member => apart other (.tail change member)
    exact (ih rest).trans (get?_apply_of_not_concerns (apart change (List.mem_cons_self ..)))

/-- An id that is not stored is not stored until one of the changes stores it. -/
theorem get?_applyAll_of_not_stores (apart : ∀ change ∈ changes, ¬ change.Stores (.ofText id))
    (absent : entries.get? (.ofText id) = none) :
    (applyAll changes entries).get? (.ofText id) = none := by
  induction changes generalizing entries with
  | nil => exact absent
  | cons change changes ih =>
    have first := get?_apply_of_not_stores (apart change (List.mem_cons_self ..)) absent
    exact ih (fun other member => apart other (.tail _ member)) first

/-- An id that is erased is not stored until it is stored again. -/
theorem get?_applyAll_of_erased {early late : List Change}
    (apart : ∀ change ∈ late, ¬ change.Stores (.ofText id)) :
    (applyAll (early ++ .erase (.ofText id) :: late) entries).get? (.ofText id) = none := by
  rw [applyAll_append]
  have erased : ((erase (.ofText id)).apply (applyAll early entries)).get? (.ofText id) = none := by
    rw [apply, Named.get?_erase, if_pos rfl]
  exact (get?_applyAll_of_not_stores apart erased :
    (applyAll late ((erase (.ofText id)).apply (applyAll early entries))).get? _ = none)

end Change

/-- The change that the result of a task tells of. -/
def Task.told (task : Task) (custodian : Custodian) (host : Host) : Option Change :=
  (task.perform custodian host).result.toOption.bind task.receipt

namespace Custodian

open Duty

/-- A custodian and a host after some tasks that began with others, the messages that were hashed
since, and the changes that the results told of. Every save succeeds, or the keychain is at fault.
A custodian may make way for a new one at any time, and between two tasks anything may happen to the
host but to the file that the path leads to. -/
inductive Continues (path : Text) (start : Custodian) (origin : Host) :
    List Bytes → List Change → Custodian → Host → Prop
  | begin : Continues path start origin [] [] start origin
  | perform {messages : List Bytes} {changes : List Change} {custodian : Custodian} {host : Host}
      (continues : Continues path start origin messages changes custodian host) (task : Task)
      (saves : task.Saves True custodian host) :
      Continues path start origin (messages ++ task.hashed custodian host)
        (changes ++ (task.told custodian host).toList)
        (task.perform custodian host).custodian (task.perform custodian host).host
  | replaced {messages : List Bytes} {changes : List Change} {custodian : Custodian} {host : Host}
      (continues : Continues path start origin messages changes custodian host) :
      Continues path start origin messages changes (ofPath path) host
  | meanwhile {messages : List Bytes} {changes : List Change} {custodian : Custodian}
      {host other : Host} {content? : Option Bytes}
      (continues : Continues path start origin messages changes custodian host)
      (finds : host.tree.Finds host.current path content?)
      (suits : other.Suits True path content?) :
      Continues path start origin messages changes custodian other

variable {path : Text} {start custodian : Custodian} {origin host : Host} {mayFail : Prop}
  {before messages : List Bytes} {changes : List Change} {content? : Option Bytes}
  {entries : Entries}

/-- A new custodian is in step with the file, since nothing is loaded. -/
theorem InStep.ofPath (suits : host.Suits mayFail path content?) (messages : List Bytes) :
    InStep mayFail path content? messages (ofPath path) host :=
  ⟨⟨rfl, rfl, fun _ held => by cases held⟩, suits, fun _ held => by cases held⟩

/-- A task keeps a custodian in step, and the file holds what the result told of. -/
theorem InStep.perform_holds (inStep : InStep mayFail path content? messages custodian host)
    (task : Task) (saves : task.Saves mayFail custodian host) (holds : Holds content? entries) :
    ∃ later?, InStep mayFail path later? (messages ++ task.hashed custodian host)
        (task.perform custodian host).custodian (task.perform custodian host).host ∧
      Holds later? (Change.applyAll (task.told custodian host).toList entries) := by
  obtain ⟨serves, later?, suits, moves⟩ := inStep.serves.perform inStep.suits task saves
  refine ⟨later?, ⟨serves, suits, fun keychain held => moves.holds inStep.holds held⟩, ?_⟩
  unfold Task.told
  generalize (task.perform custodian host).result.toOption.bind task.receipt = change? at moves ⊢
  cases change? with
  | none =>
    obtain rfl := moves.content_eq
    exact holds
  | some change =>
    obtain ⟨keychain, held, stored, read, same⟩ := moves.holds_of_change
    obtain ⟨seen, sees, agree⟩ := moves.sees held
    obtain ⟨old, read', agree'⟩ := holds
    obtain ⟨old', read'', agree''⟩ := sees.inFile inStep.holds
    cases read'.symm.trans read''
    have all := Change.applyAll_agree (agree'.trans agree''.symm) [change]
    exact ⟨stored, read, all.trans (agree.symm.trans same)⟩

/-- Whoever continues from a custodian in step is in step, and the file holds all changes. -/
theorem Continues.keeps (continues : Continues path start origin messages changes custodian host)
    (inStep : InStep True path content? before start origin) (holds : Holds content? entries) :
    ∃ later?, InStep True path later? (before ++ messages) custodian host ∧
      Holds later? (Change.applyAll changes entries) := by
  induction continues with
  | begin => exact ⟨content?, by rwa [List.append_nil], holds⟩
  | perform continues task saves ih =>
    obtain ⟨middle?, inStep, holds⟩ := ih
    rw [← List.append_assoc, Change.applyAll_append]
    exact inStep.perform_holds task saves holds
  | replaced continues ih =>
    obtain ⟨later?, inStep, holds⟩ := ih
    exact ⟨later?, .ofPath inStep.suits _, holds⟩
  | meanwhile continues finds suits ih =>
    obtain ⟨later?, inStep, holds⟩ := ih
    cases inStep.suits.finds.unique finds
    exact ⟨_, ⟨inStep.serves, suits, inStep.holds⟩, holds⟩

/-- What a custodian in step goes by is what the file holds, if it can be read where they have still to
read it. -/
theorem InStep.opens (inStep : InStep mayFail path content? messages custodian host)
    (proper : Path.fault? path = none) (reads : custodian.keychain = none → host.Reads path)
    (holds : Holds content? entries) :
    ∃ keychain, (opened.outcome custodian host).result = .ok keychain ∧
      Agree keychain.entries entries ∧ keychain.Serves path messages := by
  obtain ⟨stored, read, agree⟩ := holds
  have serves := inStep.serves
  obtain ⟨name, keychain?, recorded⟩ := custodian
  obtain rfl : name = path := serves.here
  cases keychain? with
  | some keychain =>
    obtain ⟨stored', read', agree'⟩ := inStep.holds keychain rfl
    cases read.symm.trans read'
    rw [outcome_opened]
    exact ⟨keychain, rfl, agree'.trans agree.symm, serves.held _ rfl⟩
  | none =>
    obtain ⟨keychain, loaded, rfl⟩ := Keychain.load_calmed proper inStep.suits.finds read
    rw [← Keychain.fst_load_of_reads (reads rfl)] at loaded
    have reached := serves.sees_opened inStep.suits
    rw [outcome_opened_none] at reached ⊢
    generalize (Keychain.load name).run host = outcome at loaded reached ⊢
    obtain ⟨result, later⟩ := outcome
    cases loaded
    exact ⟨keychain, rfl, agree.symm, reached.2.2.1⟩

end Custodian

end Keyring
