import Keyring.Proofs.Credential.Fresh
import Keyring.Proofs.Custodian.Answer
import Keyring.Proofs.Custodian.Succession

/-!
# Credentials that were created

Whoever is given a new credential is let in with it until its id is removed or gets another hash, by
the custodian who has created it and by all who come after (`Reaches.creates`). Each part on the way
takes the credential as it is: the generator makes ids and hashes that every keychain accepts, so
none is refused (`InStep.create_ne_invalidEntry`), the file brings both back, and no remembered verdict
outlives the hash that it was about.
-/

namespace Keyring

open Entries (Agree)
open KeychainFile (entriesOf Holds)

/-- A calm host with zeros for a source and one salt. -/
def Host.zeros : Host :=
  { calm .empty with
    marks := fun _ => Text.lit "m"
    source := .ofCycle 2 [0]
    salts := ⟨[], Utf8.octets (Text.lit "abcdefghijklmnopqrstuu")⟩ }

namespace Keychain

variable {messages : List Bytes} {keychain : Keychain} {credential : Credential}

/-- A credential that is stored and can be used is let in. -/
theorem Sound.verify_of_isFit (sound : Sound messages keychain) (fit : credential.IsFit)
    (stored : keychain.entries.get? (.ofText credential.id) = some (.ofBytes credential.hash))
    (separates : Sha512.Separates
      (messages ++ keychain.messages (some (credential.id, credential.secret)))) :
    (keychain.verify (.ofText credential.id) (.ofText credential.secret)).1 = .ok true := by
  have storable := (Entries.isAcceptable_iff.mp fit.acceptable).2.1
  have given := sound.fst_verifyText_of_stored (Entries.isStorableId_iff.mp storable).2 fit.encodable
    stored separates
  rwa [fit.right] at given

/-- Nobody is let in with an id that is not stored. -/
theorem verify_of_not_stored {id : Text} (absent : keychain.entries.get? (.ofText id) = none)
    (secret : Cell) : (keychain.verify (.ofText id) secret).1 = .ok false := by
  unfold verify
  split
  · rename_i secret same
    cases same
    have unjudged : Utf8.isEncodable id = true → Utf8.isEncodable secret = true →
        keychain.entries.get? (.ofText id) = none := fun _ _ => absent
    rcases verifyText_of_unjudged unjudged with same | same
    all_goals rw [same]
  · rfl

/-- Where there was no file, the first entry is all that is to be written. -/
theorem dumps_add_ofFile (path : Text) {id : Text} {hash : Bytes}
    (acceptable : Entries.isAcceptable id hash = true) :
    ((ofFile path none).add (.ofText id) (.ofBytes hash)).2.dumps =
      .ok (Entries.file [(id, hash)]) := by
  have encodable := (Entries.isStorableId_iff.mp (Entries.isAcceptable_iff.mp acceptable).2.1).2
  have written : Entries.render (Entries.ofPairs [(id, hash)]) = .ok (Entries.file [(id, hash)]) :=
    Entries.render_ofPairs (by simpa using encodable)
  rw [dumps, (add_of_isAcceptable _ acceptable).2]
  exact written

end Keychain

namespace Task

variable {messages : List Bytes} {path : Text} {keychain : Keychain} {credential : Credential}

/-- A credential is not refused by the keychain. -/
theorem putting_of_isFit (keychain : Keychain) (fit : credential.IsFit)
    (saved : Except Failure Unit) :
    putting keychain (.ofText credential.id) (.ofBytes credential.hash) saved = saved := by
  unfold putting
  rw [(keychain.add_of_isAcceptable fit.acceptable).1]
  rfl

end Task

namespace Custodian

open Duty

variable {custodian : Custodian} {mayFail : Prop} {path : Text} {messages : List Bytes}
  {host : Host} {content? : Option Bytes} {entries : Entries} {credential : Credential}

/-- Only loading can fail where the keychain is looked for. -/
theorem opened_eq_error {failure : Failure}
    (failed : (opened.outcome custodian host).result = .error failure) :
    ((Keychain.load custodian.path).run host).1 = .error failure := by
  obtain ⟨path, _ | keychain, recorded⟩ := custodian
  · rw [outcome_opened_none] at failed
    split at failed
    · cases failed
    · rename_i loaded
      cases failed
      rw [loaded]
  · rw [outcome_opened] at failed
    cases failed

/-- A credential does not come about, or the keychain cannot be loaded; or a credential that can be
used is stored, and what comes of that is what comes of saving it. -/
theorem Serves.create_cases (serves : custodian.Serves path messages)
    (suits : host.Suits mayFail path content?) :
    let result := (Task.create.perform custodian host).result
    (∃ failure, (Credential.create host.source host.salts).1 = .error failure ∧
      result = .error failure) ∨
    (∃ failure, (opened.outcome custodian (Task.create.begun host)).result = .error failure ∧
      result = .error failure) ∨
    ∃ credential keychain after later,
      (Credential.create host.source host.salts).1 = .ok credential ∧
      opened.outcome custodian (Task.create.begun host) = ⟨.ok keychain, after, later⟩ ∧
      let changed := (keychain.add (.ofText credential.id) (.ofBytes credential.hash)).2
      Task.create.change host keychain = some changed ∧ changed.Serves path messages ∧
        result = (changed.save.run later).1.1.map fun () => credential := by
  intro result
  have gives := serves.perform_gives suits .create
  unfold Task.refusal? at gives
  dsimp only at gives
  cases issued : (host.answer .issue).1 with
  | error failure =>
    rw [issued] at gives
    exact .inl ⟨failure, issued, gives.1⟩
  | ok credential =>
    rw [issued] at gives
    right
    have reached := serves.sees_opened (Task.create.suits_begun suits)
    rcases found : opened.outcome custodian (Task.create.begun host) with
      ⟨failure | keychain, after, later⟩
    · rw [found] at gives
      exact .inl ⟨failure, rfl, gives.1⟩
    · rw [found] at gives reached
      obtain ⟨-, -, loaded, -⟩ := reached
      have fit := Credential.create_eq_ok issued
      have added := (keychain.add_of_isAcceptable fit.acceptable).1
      have change : Task.create.change host keychain =
          some (keychain.add (.ofText credential.id) (.ofBytes credential.hash)).2 := by
        unfold Task.change
        dsimp only
        rw [issued]
        exact Task.added_eq_some added
      dsimp only at gives
      rw [change] at gives
      refine .inr ⟨credential, keychain, after, later, issued, rfl, change,
        loaded.add _ (.ofBytes credential.hash), gives.1.trans ?_⟩
      unfold Task.answer
      dsimp only [Except.bind]
      rw [Task.putting_of_isFit keychain fit]
      rfl

/-- Where the file has no malformed entries, no credential is refused as an entry. -/
theorem InStep.create_ne_invalidEntry
    (inStep : InStep mayFail path content? messages custodian host)
    (valid : entriesOf content? = .ok entries) (fault : EntryFault) (place line : Cell) :
    (Task.create.perform custodian host).result ≠ .error (.invalidEntry fault place line) := by
  intro failed
  have begun := Task.create.suits_begun inStep.suits
  rcases inStep.serves.create_cases inStep.suits with
    ⟨failure, unissued, result⟩ | ⟨failure, unopened, result⟩ |
    ⟨credential, keychain, after, later, -, -, -, serves, result⟩
  · cases failed.symm.trans result
    rcases Credential.create_eq_error unissued with ⟨_, same⟩ | ⟨_, same⟩ <;> cases same
  · cases failed.symm.trans result
    have unloaded := opened_eq_error unopened
    rw [inStep.serves.here] at unloaded
    exact Keychain.load_eq_error begun.finds valid unloaded fault place line rfl
  · rw [failed] at result
    cases saved : ((keychain.add (.ofText credential.id) (.ofBytes credential.hash)).2.save.run
        later).1.1 with
    | ok value =>
      rw [saved] at result
      cases result
    | error failure =>
      rw [saved] at result
      cases result
      rcases Keychain.save_eq_error serves.sound.storable saved with
        ⟨_, same⟩ | ⟨_, same⟩ | ⟨_, same⟩ <;> cases same

/-- A credential that is handed out can be used, and is saved. -/
theorem Serves.create_eq_ok (serves : custodian.Serves path messages)
    (suits : host.Suits mayFail path content?)
    (created : (Task.create.perform custodian host).result = .ok credential) :
    credential.IsFit ∧ Task.create.Saves mayFail custodian host := by
  rcases serves.create_cases suits with
    ⟨failure, -, result⟩ | ⟨failure, -, result⟩ |
    ⟨fresh, keychain, after, later, issued, opened, change, -, result⟩
  · cases created.symm.trans result
  · cases created.symm.trans result
  · rw [created] at result
    cases saved : ((keychain.add (.ofText fresh.id) (.ofBytes fresh.hash)).2.save.run
        later).1.1 with
    | error failure =>
      rw [saved] at result
      cases result
    | ok value =>
      rw [saved] at result
      cases result
      refine ⟨Credential.create_eq_ok issued, fun pair member => ?_⟩
      unfold Task.saving at member
      rw [opened] at member
      dsimp only at member
      rw [change] at member
      cases member
      unfold Keychain.Saves
      dsimp only
      rw [saved]
      trivial

/-- Where a new credential was saved, the file holds it and what it held before. -/
theorem InStep.create_holds (inStep : InStep mayFail path content? messages custodian host)
    (holds : Holds content? entries)
    (created : (Task.create.perform custodian host).result = .ok credential) :
    ∃ content, InStep True path (some content) (messages ++ Task.create.hashed custodian host)
        (Task.create.perform custodian host).custodian (Task.create.perform custodian host).host ∧
      Holds (some content)
        (Named.put (.ofText credential.id) (.ofBytes credential.hash) entries) := by
  obtain ⟨fit, saves⟩ := inStep.serves.create_eq_ok inStep.suits created
  obtain ⟨later?, inStep, holds⟩ := inStep.perform_holds .create saves holds
  have told : Task.create.told custodian host =
      some (.put (.ofText credential.id) (.ofBytes credential.hash)) := by
    unfold Task.told
    rw [created]
    rfl
  have entry : (Cell.ofText credential.id).entryWith (.ofBytes credential.hash) =
      .ok (credential.id, credential.hash) := by
    rw [Cell.entryWith_ofText_ofBytes, Entries.refusal?_eq_none_iff.mpr fit.acceptable]
  have put : Change.applyAll (Task.create.told custodian host).toList entries =
      Named.put (.ofText credential.id) (.ofBytes credential.hash) entries := by
    rw [told]
    show (Change.put _ _).apply entries = _
    rw [Change.apply, entry]
  rw [put] at holds
  cases later? with
  | none =>
    obtain ⟨stored, read, agree⟩ := holds
    cases read
    have same := agree (.ofText credential.id)
    rw [Named.get?_put, if_pos rfl] at same
    cases same
  | some content =>
    -- There is a file now, so its path leads to it whatever directories are made.
    obtain ⟨serves, suits, loaded⟩ := inStep
    exact ⟨content, ⟨serves, { suits with shows := fun _ => suits.finds }, loaded⟩, holds⟩

/-- Where a file is in order, no new credential is refused as an entry. One that is handed out is an
entry for every keychain, and its hash is the only one that creating it has changed in the file. In
all that continues from there, its secret is the right one for its id as long as no change concerns
the id; and once the id is removed, no secret is until the id is stored again. Only custodians who have
not loaded the keychain need to be able to read the file. -/
theorem Reaches.creates (reached : Reaches mayFail path messages custodian host)
    {stored : Keychain} (valid : ((Keychain.load path).run host.calmed).1 = .ok stored) :
    let created := Task.create.perform custodian host
    (∀ fault place line, created.result ≠ .error (.invalidEntry fault place line)) ∧
    ∀ credential, created.result = .ok credential →
      (∀ keychain : Keychain,
        (keychain.add (.ofText credential.id) (.ofBytes credential.hash)).1 = .ok ()) ∧
      (∃ after, ((Keychain.load path).run created.host.calmed).1 = .ok after ∧
        Agree after.entries
          (Named.put (.ofText credential.id) (.ofBytes credential.hash) stored.entries)) ∧
      ∀ more changes later latest,
        Continues path created.custodian created.host more changes later latest →
        (later.keychain = none → latest.Reads path) →
        ((∀ change ∈ changes, ¬ change.Concerns (.ofText credential.id)) →
          let verify := Task.verify (.ofText credential.id) (.ofText credential.secret)
          Sha512.Separates (messages ++ more ++ verify.hashed later latest) →
          (verify.perform later latest).result = .ok true) ∧
        ∀ early late, changes = early ++ .erase (.ofText credential.id) :: late →
          (∀ change ∈ late, ¬ change.Stores (.ofText credential.id)) →
          ∀ secret, ((Task.verify (.ofText credential.id) secret).perform later latest).result =
            .ok false := by
  intro created
  obtain ⟨content?, inStep⟩ := reached.inStep
  obtain ⟨proper, -, read⟩ := Keychain.load_eq_ok (host.reads_calmed path).isHonest
    inStep.suits.finds valid
  refine ⟨inStep.create_ne_invalidEntry read, fun credential result => ?_⟩
  obtain ⟨fit, -⟩ := inStep.serves.create_eq_ok inStep.suits result
  obtain ⟨content, inStep, holds⟩ := inStep.create_holds ⟨_, read, .refl _⟩ result
  rw [Task.hashed_eq_nil rfl, List.append_nil] at inStep
  refine ⟨fun keychain => (keychain.add_ok_iff _ _).mpr fit.acceptable, ?_, ?_⟩
  · obtain ⟨after, read, agree⟩ := holds
    obtain ⟨keychain, loaded, rfl⟩ := Keychain.load_calmed proper inStep.suits.finds read
    exact ⟨keychain, loaded, agree.symm⟩
  · intro more changes later latest continues reads
    obtain ⟨later?, inStep, holds⟩ := continues.keeps inStep holds
    obtain ⟨keychain, opened, agree, serves⟩ := inStep.opens proper reads holds
    constructor
    · intro apart verify separates
      have kept : keychain.entries.get? (.ofText credential.id) = some (.ofBytes credential.hash) := by
        rw [agree, Change.get?_applyAll_of_not_concerns apart, Named.get?_put, if_pos rfl]
      unfold Task.hashed at separates
      rw [show verify.begun latest = latest from rfl, opened] at separates
      rw [result_verify inStep.serves.idle, opened]
      exact serves.sound.verify_of_isFit fit kept separates
    · rintro early late rfl apart secret
      have absent : keychain.entries.get? (.ofText credential.id) = none := by
        rw [agree, Change.get?_applyAll_of_erased apart]
      rw [result_verify inStep.serves.idle, opened]
      exact Keychain.verify_of_not_stored absent secret

/-- Whatever is left of the sources, a credential that can be saved is handed out. -/
theorem Serves.create_of_saved (serves : custodian.Serves path messages)
    (suits : host.Suits mayFail path content?)
    (issued : (Credential.create host.source host.salts).1 = .ok credential)
    {keychain : Keychain} {after : Custodian} {later : Host}
    (opened : opened.outcome custodian (Task.create.begun host) = ⟨.ok keychain, after, later⟩)
    (saved : ((keychain.add (.ofText credential.id) (.ofBytes credential.hash)).2.save.run
      later).1.1 = .ok ()) :
    (Task.create.perform custodian host).result = .ok credential := by
  rcases serves.create_cases suits with
    ⟨failure, unissued, -⟩ | ⟨failure, unopened, -⟩ |
    ⟨fresh, keychain', after', later', issued', opened', -, -, result⟩
  · cases issued.symm.trans unissued
  · rw [opened] at unopened
    cases unopened
  · cases issued.symm.trans issued'
    cases opened.symm.trans opened'
    rw [result, saved]
    rfl

/-- The first credential of all is handed out if its file can be written. -/
theorem create_first (suits : host.Suits mayFail path content?)
    (issued : (Credential.create host.source host.salts).1 = .ok credential)
    (loaded : ((Keychain.load path).run (Task.create.begun host)).1 =
      .ok (Keychain.ofFile path none))
    (written : ((KeychainFile.write path (Entries.file [(credential.id, credential.hash)])).run
      { Task.create.begun host with performed := (Task.create.begun host).performed + 1 }).1 =
        .ok ()) :
    (Task.create.perform (ofPath path) host).result = .ok credential := by
  have serves : (ofPath path).Serves path [] := ⟨rfl, rfl, fun _ held => by cases held⟩
  refine serves.create_of_saved suits issued (outcome_opened_ofPath loaded) ?_
  rw [Keychain.run_save,
    Keychain.dumps_add_ofFile path (Credential.create_eq_ok issued).acceptable, Keychain.name_add]
  exact written

/-- A credential is created where no file was, and another custodian lets its holder in. -/
theorem creates_replaced :
    let path := Text.lit "k"
    Reaches False path [] (ofPath path) .zeros ∧
      ((Keychain.load path).run Host.zeros.calmed).1 = .ok (Keychain.ofFile path none) ∧
      ∃ credential : Credential,
        (Task.create.perform (ofPath path) .zeros).result = .ok credential ∧
        ((Task.verify (.ofText credential.id) (.ofText credential.secret)).perform (ofPath path)
          (Task.create.perform (ofPath path) .zeros).host).result = .ok true := by
  intro path
  have settled : Host.zeros.Settled := ⟨.empty, Tree.isDirectory_nil _⟩
  have suits : Host.zeros.Suits False path none := {
    settled := settled
    single := fun _ => (by decide : Path.separator ∉ Text.lit "m")
    honest := fun _ _ fails => by cases fails
    finds := rfl
    shows := False.elim }
  have reached : Reaches False path [] (ofPath path) .zeros := .begin suits
  have valid : ((Keychain.load path).run Host.zeros.calmed).1 = .ok (Keychain.ofFile path none) := by
    decide +kernel
  let id := Text.lit "AAAAAAAAAAAAAAAAAAAA"
  let secret := Text.lit "AAAAAAAAAAAAAAAAAAAAAAAAAAAAAAAAAAAAAAAA"
  -- The hash is never worked out here: it is stored and compared as it stands.
  let hash := Bcrypt.hashWith
    ⟨Bcrypt.currentVersion, Secret.defaultCost.toNat, Host.zeros.salts.next.1⟩ (Utf8.octets secret)
  have issued : (Credential.create Host.zeros.source Host.zeros.salts).1 = .ok ⟨id, secret, hash⟩ :=
    Credential.create_of_drawn (by decide +kernel) (by decide +kernel) (by decide +kernel)
      (by decide +kernel) (by decide +kernel)
  have loaded : ((Keychain.load path).run (Task.create.begun .zeros)).1 =
      .ok (Keychain.ofFile path none) := by
    decide +kernel
  have result : (Task.create.perform (ofPath path) .zeros).result = .ok ⟨id, secret, hash⟩ :=
    create_first suits issued loaded (by decide +kernel)
  have reads : (Task.create.perform (ofPath path) .zeros).host.Reads path := by
    intro count
    rw [(follows_perform settled .create (ofPath path)).faults]
    rfl
  have separates (host : Host) : Sha512.Separates
      ([] ++ [] ++ (Task.verify (.ofText id) (.ofText secret)).hashed (ofPath path) host) := by
    rw [List.append_nil, List.nil_append]
    exact Task.separates_hashed _ _ _
  obtain ⟨-, creates⟩ := reached.creates valid
  obtain ⟨-, -, continues⟩ := creates _ result
  obtain ⟨letIn, -⟩ := continues [] [] (ofPath path) _ (.replaced .begin) fun _ => reads
  exact ⟨reached, valid, _, result, letIn (fun _ member => by cases member) (separates _)⟩

end Custodian

end Keyring
