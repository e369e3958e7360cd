import Mathlib
import Keyring.Proofs.Custodian.Agreement
import Keyring.Proofs.Custodian.Mirror
import Keyring.Proofs.KeychainFile.Alike
import Keyring.Proofs.Secret.Outcome
import Keyring.Proofs.Session.Work

/-!
# Secrets do not get to the disk

Two sessions are asked for the same services on the same host, but the secrets that are to be verified
may differ where the stored hash does not tell them apart (`Office.Paired`). The sessions remember
different verdicts, and yet everything that can be seen of them from outside is the same: the files of
keychain and log, octet by octet, and all else that the host knows (`Office.Paired.discreet`).

A new credential has its secret from the host. Two credentials with one id and one hash leave the same
files behind, whatever their secrets.
-/

namespace Keyring

open Audit (Channel Event Log)
open Text (lit)

/-! ## Offices -/

/-- A session at work, the channel of its events, and the host that it works on. -/
structure Office where
  session : Session
  channel : Channel
  host : Host

/-- What a session is asked for. -/
inductive Service where
  | task (task : Task)
  /-- What is known about the keychain. -/
  | survey
  /-- The last lines of the log. -/
  | recent (count : Cell)
  /-- Another session in place of this one, if it can be started. -/
  | restart (home : Text) (wishes : Session.Wishes)
  /-- The log is let go of, and no more events are written to it. -/
  | close

namespace Office

variable {α β : Type}

/-- The office after a duty of its custodian. -/
def carry (office : Office) (duty : Duty α) : Office :=
  let ((_, session), host) := (office.session.perform duty office.channel).run office.host
  { office with session := session, host := host }

/-- The office after a service. -/
def serve (office : Office) : Service → Office
  | .task task => office.carry task.duty
  | .survey => office.carry Custodian.statistics
  | .recent count =>
    { office with host := ((office.session.log.recent count office.channel).run office.host).2 }
  | .restart home wishes =>
    match (Session.start home wishes office.channel).run office.host with
    | ((.ok session, channel), host) => ⟨session, channel, host⟩
    | ((.error _, channel), host) => { office with channel := channel, host := host }
  | .close =>
    let ((_, channel), host) := office.channel.close.run office.host
    { office with channel := channel, host := host }

/-- The messages that are hashed for a service. -/
def hashed (office : Office) : Service → List Bytes
  | .task task => task.hashed office.session.custodian office.host
  | _ => []

/-- Two services that are the same but for a secret that is to be verified, which the keychain that is
found does not tell from the other one by the stored hash. -/
inductive Pairs (office : Office) : Service → Service → Prop
  | same (service : Service) : Pairs office service service
  | verify {id secret secret' : Cell}
      (same : ∀ keychain,
        (Custodian.opened.outcome office.session.custodian office.host).result = .ok keychain →
          keychain.SameVerdict id secret secret') :
      Pairs office (.task (.verify id secret)) (.task (.verify id secret'))

/-- Two offices after the same services but for secrets, and the messages that each has hashed. Between
two services anything may happen to both hosts alike. -/
inductive Paired : List Bytes → List Bytes → Office → Office → Prop
  | begin (path : Text) (log : Log) (channel : Channel) (host : Host) :
      Paired [] [] ⟨⟨.ofPath path, log⟩, channel, host⟩ ⟨⟨.ofPath path, log⟩, channel, host⟩
  | serve {messages messages' : List Bytes} {office other : Office} {service service' : Service}
      (paired : Paired messages messages' office other) (pairs : office.Pairs service service') :
      Paired (messages ++ office.hashed service) (messages' ++ other.hashed service')
        (office.serve service) (other.serve service')
  | meanwhile {messages messages' : List Bytes} {office other : Office}
      (paired : Paired messages messages' office other) (change : Host → Host) :
      Paired messages messages' { office with host := change office.host }
        { other with host := change other.host }

end Office

/-! ## Performing duties -/

namespace Session

variable {α β : Type} {veil : Host → Host} {messages messages' : List Bytes} {alike : α → β → Prop}

/-- Sessions that do what mirrors each other write the same. -/
theorem mirrors_perform (isVeil : Host.IsVeil veil) {duty : Duty α} {duty' : Duty β}
    {session other : Session} (channel : Channel) (host : Host)
    (mirrors : (duty.outcome { session.custodian with recorded := [] } host).Mirrors veil messages
      messages' alike (duty'.outcome { other.custodian with recorded := [] } (veil host))) :
    ((session.perform duty channel).run host).1.2.custodian.Mirrors messages messages'
        ((other.perform duty' channel).run (veil host)).1.2.custodian ∧
      ((other.perform duty' channel).run (veil host)).2 =
        veil ((session.perform duty channel).run host).2 := by
  obtain ⟨-, custodian, there⟩ := mirrors
  rw [run_perform, run_perform, there, custodian.recorded,
    isVeil _ _ (channel.isFrugal_writeEach _)]
  exact ⟨⟨custodian.path, rfl, custodian.keychain⟩, rfl⟩

/-- The first call for a new credential is for the credential itself. -/
theorem perform_create (session : Session) (channel : Channel) :
    session.perform Custodian.create channel =
      .call .issue fun issued => session.perform (Custodian.createFrom issued) channel := rfl

end Session

/-! ## Two offices -/

namespace Task

variable {messages messages' : List Bytes}

/-- A task in which nothing is verified asks nothing of what is remembered. -/
theorem mirrors_duty {task : Task} (silent : ∀ id secret, task ≠ .verify id secret) :
    Duty.Mirrors id messages messages' (fun _ _ => True) task.duty task.duty := by
  have isVeil := Host.isVeil_id
  cases task with
  | create =>
    have issued : Duty.Mirrors id messages messages' Eq (Duty.through (Plan.request .issue))
        (Duty.through (Plan.request .issue)) :=
      fun _ _ _ mirrors => ⟨rfl, mirrors, rfl⟩
    refine issued.bind_eq fun issued => Custodian.mirrors_createFrom isVeil ?_
    cases issued with
    | error failure => rfl
    | ok credential => exact ⟨rfl, rfl⟩
  | add id hash =>
    exact (Custodian.mirrors_putAndSave isVeil id hash).bind_eq fun _ =>
      (Duty.mirrors_record _).mono fun _ _ _ => trivial
  | remove id => exact (Custodian.mirrors_remove isVeil id).mono fun _ _ _ => trivial
  | verify id secret => exact absurd rfl (silent id secret)
  | ids => exact (Custodian.mirrors_ids isVeil).mono fun _ _ _ => trivial
  | save => exact (Custodian.mirrors_save isVeil).mono fun _ _ _ => trivial

end Task

namespace Office

variable {α β : Type} {messages messages' : List Bytes} {office other : Office}
  {service service' : Service}

/-- Offices on one host, with one log and one channel, whose custodians mirror each other and have
handed over all events. -/
structure Mirrors (messages messages' : List Bytes) (office other : Office) : Prop where
  custodian : office.session.custodian.Mirrors messages messages' other.session.custodian
  idle : office.session.custodian.recorded = []
  log : other.session.log = office.session.log
  channel : other.channel = office.channel
  host : other.host = office.host

/-- Who looks after the keychain mirrors themselves before they have looked at it. -/
theorem mirrors_ofPath (path : Text) (log : Log) (channel : Channel) (host : Host) :
    Mirrors messages messages' ⟨⟨.ofPath path, log⟩, channel, host⟩
      ⟨⟨.ofPath path, log⟩, channel, host⟩ :=
  ⟨⟨rfl, rfl, .none⟩, rfl, rfl, rfl, rfl⟩

/-- Nobody has anything to hand over between two services. -/
theorem Mirrors.idle_eq (mirrors : Mirrors messages messages' office other) :
    { office.session.custodian with recorded := [] } = office.session.custodian ∧
      { other.session.custodian with recorded := [] } = other.session.custodian := by
  have idle' := mirrors.custodian.recorded.trans mirrors.idle
  exact ⟨by rw [← mirrors.idle], by rw [← idle']⟩

/-- Offices mirror each other after duties that do. -/
theorem Mirrors.carry (mirrors : Mirrors messages messages' office other) {duty : Duty α}
    {duty' : Duty β} {alike : α → β → Prop} {hashed hashed' : List Bytes}
    (duties : (duty.outcome office.session.custodian office.host).Mirrors id hashed hashed' alike
      (duty'.outcome other.session.custodian other.host)) :
    Mirrors hashed hashed' (office.carry duty) (other.carry duty') := by
  obtain ⟨idle, idle'⟩ := mirrors.idle_eq
  rw [← idle, ← idle', mirrors.host] at duties
  obtain ⟨custodian, host⟩ :=
    Session.mirrors_perform Host.isVeil_id office.channel office.host duties
  unfold Office.carry
  rw [mirrors.channel, mirrors.host]
  refine ⟨custodian, by rw [Session.run_perform], ?_, rfl, host⟩
  rw [Session.run_perform, Session.run_perform]
  exact mirrors.log

/-- Offices mirror each other after a duty that is told nothing of what is remembered. -/
theorem Mirrors.carry_same (mirrors : Mirrors messages messages' office other) {duty : Duty α}
    {alike : α → α → Prop} (duties : Duty.Mirrors id messages messages' alike duty duty) :
    Mirrors (messages ++ []) (messages' ++ []) (office.carry duty) (other.carry duty) := by
  have did : (duty.outcome office.session.custodian office.host).Mirrors id messages messages' alike
      (duty.outcome other.session.custodian other.host) := by
    rw [mirrors.host]
    exact duties _ _ _ mirrors.custodian
  rw [List.append_nil, List.append_nil]
  exact mirrors.carry did

/-- Offices mirror each other after they have verified secrets that are not told apart. -/
theorem Mirrors.verify (mirrors : Mirrors messages messages' office other)
    {name secret secret' : Cell}
    (same : ∀ keychain,
      (Custodian.opened.outcome office.session.custodian office.host).result = .ok keychain →
        keychain.SameVerdict name secret secret')
    (separates : Sha512.Separates (messages ++ office.hashed (.task (.verify name secret))))
    (separates' : Sha512.Separates (messages' ++ other.hashed (.task (.verify name secret')))) :
    Mirrors (messages ++ office.hashed (.task (.verify name secret)))
      (messages' ++ other.hashed (.task (.verify name secret')))
      (office.serve (.task (.verify name secret)))
      (other.serve (.task (.verify name secret'))) := by
  have there : id office.host = other.host := mirrors.host.symm
  unfold Office.hashed at separates separates' ⊢
  dsimp only at separates separates' ⊢
  rw [← there] at separates'
  have did := Custodian.mirrors_verify Host.isVeil_id mirrors.custodian separates separates' same
  rw [there] at did
  exact mirrors.carry did

/-- Offices mirror each other once a session was started in both, or could not be. -/
theorem Mirrors.restart (mirrors : Mirrors messages messages' office other) (home : Text)
    (wishes : Session.Wishes) :
    Mirrors messages messages' (office.serve (.restart home wishes))
      (other.serve (.restart home wishes)) := by
  unfold Office.serve
  dsimp only
  rw [mirrors.channel, mirrors.host]
  rcases started : (Session.start home wishes office.channel).run office.host with
    ⟨⟨failure | session, channel⟩, host⟩
  · exact ⟨mirrors.custodian, mirrors.idle, mirrors.log, rfl, rfl⟩
  · obtain ⟨path, fresh⟩ := Session.start_eq_ok (congrArg (·.1.1) started)
    obtain ⟨_, log⟩ := session
    obtain rfl := fresh
    exact mirrors_ofPath path log channel host

/-- Offices mirror each other after a service that is the same but for a secret, if the messages that
either has hashed have digests of their own. -/
theorem Mirrors.serve (mirrors : Mirrors messages messages' office other)
    (pairs : office.Pairs service service')
    (separates : Sha512.Separates (messages ++ office.hashed service))
    (separates' : Sha512.Separates (messages' ++ other.hashed service')) :
    Mirrors (messages ++ office.hashed service) (messages' ++ other.hashed service')
      (office.serve service) (other.serve service') := by
  cases pairs with
  | verify same => exact mirrors.verify same separates separates'
  | same service =>
    cases service with
    | task task =>
      by_cases verifies : ∃ id secret, task = .verify id secret
      · obtain ⟨id, secret, rfl⟩ := verifies
        exact mirrors.verify (fun _ _ => .same secret) separates separates'
      · have silent : ∀ id secret, task ≠ .verify id secret := by
          simpa using verifies
        have none : task.presented = none := by
          cases task with
          | verify id secret => exact absurd rfl (silent id secret)
          | _ => rfl
        unfold Office.hashed
        dsimp only
        rw [Task.hashed_eq_nil none, Task.hashed_eq_nil none]
        exact mirrors.carry_same (Task.mirrors_duty silent)
    | survey => exact mirrors.carry_same (Custodian.mirrors_statistics Host.isVeil_id)
    | recent count =>
      have there : (other.serve (.recent count)).host = (office.serve (.recent count)).host := by
        unfold Office.serve
        rw [mirrors.log, mirrors.channel, mirrors.host]
      unfold Office.hashed
      rw [List.append_nil, List.append_nil]
      exact ⟨mirrors.custodian, mirrors.idle, mirrors.log, mirrors.channel, there⟩
    | restart home wishes =>
      unfold Office.hashed
      rw [List.append_nil, List.append_nil]
      exact mirrors.restart home wishes
    | close =>
      unfold Office.hashed
      rw [List.append_nil, List.append_nil]
      unfold Office.serve
      dsimp only
      rw [mirrors.channel, mirrors.host]
      exact ⟨mirrors.custodian, mirrors.idle, mirrors.log, rfl, rfl⟩

/-- Offices after the same services but for secrets mirror each other, if the messages that either has
hashed have digests of their own. -/
theorem Paired.mirrors (paired : Paired messages messages' office other)
    (separates : Sha512.Separates messages) (separates' : Sha512.Separates messages') :
    Mirrors messages messages' office other := by
  induction paired with
  | begin path log channel host => exact mirrors_ofPath path log channel host
  | serve paired pairs ih =>
    exact (ih separates.left separates'.left).serve pairs separates separates'
  | meanwhile paired change ih =>
    have mirrors := ih separates separates'
    exact ⟨mirrors.custodian, mirrors.idle, mirrors.log, mirrors.channel,
      congrArg change mirrors.host⟩

/-- After the same services but for secrets that no stored hash tells apart, two hosts are the same in
all that is in their files and in all else, if the messages that either session has hashed have digests
of their own. And a new credential is first of all made by the host; whatever its secret, what is done
with it then leaves the same files, by its id and its hash. -/
theorem Paired.discreet (paired : Paired messages messages' office other)
    (separates : Sha512.Separates messages) (separates' : Sha512.Separates messages') :
    other.host = office.host ∧
    ∃ rest rest', office.session.perform Custodian.create office.channel = .call .issue rest ∧
      other.session.perform Custodian.create other.channel = .call .issue rest' ∧
      ∀ (credential credential' : Credential) (host : Host) (source : Source) (salts : Salts),
        credential'.id = credential.id → credential'.hash = credential.hash →
          ((rest' (.ok credential')).run (host.reseeded source salts)).2.tree =
            ((rest (.ok credential)).run host).2.tree := by
  have mirrors := paired.mirrors separates separates'
  refine ⟨mirrors.host, _, _, Session.perform_create _ _, Session.perform_create _ _, ?_⟩
  intro credential credential' host source salts id hash
  obtain ⟨idle, idle'⟩ := mirrors.idle_eq
  have isVeil := Host.isVeil_reseeded source salts
  have same : Matches (fun credential credential' : Credential =>
      credential'.id = credential.id ∧ credential'.hash = credential.hash) (.ok credential)
        (.ok credential') := ⟨id, hash⟩
  have did := Custodian.mirrors_createFrom isVeil same _ _ host mirrors.custodian
  rw [← idle, ← idle'] at did
  rw [mirrors.channel, (Session.mirrors_perform isVeil office.channel host did).2]
  rfl

/-- The first secret that is verified in a session is verified by the keychain that is loaded for it. -/
theorem serve_verify_ofPath {path : Text} {keychain : Keychain} {id secret : Cell} {allowed : Bool}
    (fresh : office.session.custodian = .ofPath path)
    (loaded : ((Keychain.load path).run office.host).1 = .ok keychain)
    (given : (keychain.verify id secret).1 = .ok allowed) :
    office.serve (.task (.verify id secret)) =
      ⟨⟨⟨path, some (keychain.verify id secret).2, []⟩, office.session.log⟩, office.channel,
        ((office.channel.writeEach
            [.loaded path (.ofInt keychain.size), .authenticated id allowed]).run
          { office.host with performed := office.host.performed + 1 }).2⟩ := by
  have idle : { Custodian.ofPath path with recorded := [] } = Custodian.ofPath path := rfl
  have performed :=
    Session.run_perform (Custodian.verify id secret) office.session office.channel office.host
  dsimp only at performed
  rw [fresh, idle, Custodian.outcome_verify_ofPath loaded given] at performed
  unfold serve carry Task.duty
  dsimp only
  rw [performed]

/-- A calm office in which a session was just started, with a keychain of one entry. -/
def started (hash : Bytes) : Office :=
  Office.serve ⟨⟨.ofPath (lit "k"), ⟨Path.ofText (lit "l")⟩⟩, .initial,
    .calm { Tree.ofFile [107] (Entries.file [(lit "a", hash)]) with nextNumber := 1 }⟩
    (.restart [] ⟨lit "k", lit "l", false⟩)

theorem paired_started (hash : Bytes) : Paired [] [] (started hash) (started hash) := by
  unfold started
  exact (Paired.begin (lit "k") ⟨Path.ofText (lit "l")⟩ .initial _).serve
    (.same (.restart [] ⟨lit "k", lit "l", false⟩))

/-- The keychain of that entry. -/
def oneEntry (hash : Bytes) : Keychain :=
  .ofFile (lit "k") (some (Entries.ofPairs [(lit "a", hash)]))

/-- The keychain was not looked at yet. -/
theorem custodian_started (hash : Bytes) :
    (started hash).session.custodian = .ofPath (lit "k") := by
  unfold started
  generalize Entries.file [(lit "a", hash)] = content
  cbv

/-- The one keychain is loaded when a secret is verified. -/
theorem load_started {hash : Bytes} (kept : hash ≠ [] ∧ Entries.newline ∉ hash) :
    ((Keychain.load (lit "k")).run (started hash).host).1 = .ok (oneEntry hash) := by
  have acceptable : ∀ pair ∈ [(lit "a", hash)], Entries.isAcceptable pair.1 pair.2 = true := by
    simp only [List.forall_mem_singleton, Entries.isAcceptable_iff]
    exact ⟨by decide, by decide, kept⟩
  have answer : ((started hash).host.answer (.readFile (lit "k"))).1 =
      .ok (Entries.file [(lit "a", hash)]) := by
    unfold started
    generalize Entries.file [(lit "a", hash)] = content
    cbv
  exact Keychain.fst_load_of_answer answer (Entries.parse_file acceptable (by simp))

/-- The verdict on a secret is remembered under its digest. -/
theorem verify_oneEntry (hash : Bytes) {secret : Text} (encodable : Utf8.isEncodable secret = true) :
    ((oneEntry hash).verify (lit "a") secret).1 =
        .ok (Secret.matchesHash (Utf8.octets secret) hash) ∧
      ((oneEntry hash).verify (lit "a") secret).2.cache.verdicts.map (·.key) =
        [Secret.cacheDigest [97] (Utf8.octets secret)] := by
  have stored : (oneEntry hash).entries.get? (lit "a") = some (.ofBytes hash) := rfl
  unfold Keychain.verify
  dsimp only
  rw [Keychain.verifyText_of_stored (by decide) encodable stored, Keychain.holding,
    Keychain.judge_of_miss _ _ rfl]
  exact ⟨rfl, rfl⟩

/-- Once the secret of the one entry was verified, the log tells of it. -/
theorem serve_started {hash : Bytes} (kept : hash ≠ [] ∧ Entries.newline ∉ hash) {secret : Text}
    (encodable : Utf8.isEncodable secret = true)
    (right : Secret.matchesHash (Utf8.octets secret) hash = true) :
    let office := (started hash).serve (.task (.verify (lit "a") secret))
    office.session.custodian.keychain = some ((oneEntry hash).verify (lit "a") secret).2 ∧
      office.host.tree.read [] (lit "l/audit_.log") = .ok (Utf8.octets (lit
        " | INFO | KEYCHAIN_LOADED | path=k | keys=1\n | INFO | AUTH_SUCCESS | key_id=a\n")) := by
  obtain ⟨given, -⟩ := verify_oneEntry hash encodable
  rw [right] at given
  intro office
  have served : office = _ := serve_verify_ofPath (custodian_started hash) (load_started kept) given
  rw [served]
  refine ⟨rfl, ?_⟩
  dsimp only
  unfold started
  generalize Entries.file [(lit "a", hash)] = content
  cbv

/-- A session remembers which of two secrets with different digests was verified in it. -/
theorem session_ne_of_digest_ne {hash : Bytes} (kept : hash ≠ [] ∧ Entries.newline ∉ hash)
    {secret secret' : Text} (encodable : Utf8.isEncodable secret = true)
    (encodable' : Utf8.isEncodable secret' = true)
    (right : Secret.matchesHash (Utf8.octets secret) hash = true)
    (right' : Secret.matchesHash (Utf8.octets secret') hash = true)
    (different : Secret.cacheDigest [97] (Utf8.octets secret) ≠
      Secret.cacheDigest [97] (Utf8.octets secret')) :
    ((started hash).serve (.task (.verify (lit "a") secret'))).session ≠
      ((started hash).serve (.task (.verify (lit "a") secret))).session := by
  intro same
  have held := (serve_started kept encodable right).1
  rw [← same, (serve_started kept encodable' right').1] at held
  have digests := (verify_oneEntry hash encodable).2
  rw [← Option.some.inj held, (verify_oneEntry hash encodable').2] at digests
  exact different (List.cons.inj digests).1.symm

/-- Of two secrets with one key either is let in by the hash of the other. They are remembered under
different digests, and the log tells of the same success. -/
theorem discreet_doubled :
    let secret := lit "ab"
    let twice : Text := [97, 98, 0, 97, 98]
    let salts : Salts := ⟨[], Utf8.octets (lit "abcdefghijklmnopqrstuu")⟩
    ∃ hash messages messages' office other,
      (Secret.hash (.ofText secret) 4 salts).1 = .ok hash ∧
        (started hash).serve (.task (.verify (lit "a") secret)) = office ∧
        (started hash).serve (.task (.verify (lit "a") twice)) = other ∧
        Paired messages messages' office other ∧
        Sha512.Separates messages ∧ Sha512.Separates messages' ∧
        other.session ≠ office.session ∧ other.host = office.host ∧
        office.host.tree.read [] (lit "l/audit_.log") = .ok (Utf8.octets (lit
          " | INFO | KEYCHAIN_LOADED | path=k | keys=1\n | INFO | AUTH_SUCCESS | key_id=a\n")) := by
  intro secret twice salts
  have proper : Bcrypt.Setting.IsProper ⟨Bcrypt.currentVersion, (4 : Int).toNat, salts.next.1⟩ :=
    Secret.isProper_fresh (by decide) (by decide) (by decide)
  obtain ⟨hash, made, read⟩ := Bcrypt.laws.hashes proper (Utf8.octets secret)
  have strict := Bcrypt.laws.strict made
  have kept : hash ≠ [] ∧ Entries.newline ∉ hash := ⟨strict.ne_nil, strict.not_mem (by decide)⟩
  have encodable : Utf8.isEncodable secret = true := by decide
  have encodable' : Utf8.isEncodable twice = true := by decide
  have one : Bcrypt.effectiveKey (Utf8.octets twice) = Bcrypt.effectiveKey (Utf8.octets secret) := by
    decide
  have right : Secret.matchesHash (Utf8.octets secret) hash = true := by
    rw [Secret.matchesHash, Bcrypt.laws.recognizes made]
    rfl
  have right' : Secret.matchesHash (Utf8.octets twice) hash = true := by
    rw [Secret.matchesHash, (Bcrypt.laws.tells made read (Utf8.octets twice)).mpr (by rw [one])]
    rfl
  have agree : ∀ keychain,
      (Custodian.opened.outcome (started hash).session.custodian (started hash).host).result =
        .ok keychain → keychain.SameVerdict (lit "a") secret twice := by
    intro keychain found
    rw [custodian_started, Custodian.outcome_opened_ofPath (load_started kept)] at found
    cases found
    have entry : (oneEntry hash).entries.get? (lit "a") = some (.ofBytes hash) := rfl
    refine .texts fun other stored => ?_
    cases entry.symm.trans stored
    rw [Secret.opens_iff.mpr ⟨encodable, right⟩, Secret.opens_iff.mpr ⟨encodable', right'⟩]
  have paired := (paired_started hash).serve (.verify agree)
  rw [List.nil_append, List.nil_append] at paired
  have separates := Task.separates_hashed (.verify (lit "a") secret)
    (started hash).session.custodian (started hash).host
  have separates' := Task.separates_hashed (.verify (lit "a") twice)
    (started hash).session.custodian (started hash).host
  have different : Secret.cacheDigest [97] (Utf8.octets secret) ≠
      Secret.cacheDigest [97] (Utf8.octets twice) := by
    decide +kernel
  exact ⟨hash, _, _, _, _, Secret.hash_of_made rfl (by decide) (by decide) (by decide) made, rfl, rfl,
    paired, separates, separates',
    session_ne_of_digest_ne kept encodable encodable' right right' different,
    (paired.discreet separates separates').1, (serve_started kept encodable right).2⟩

end Office

end Keyring
