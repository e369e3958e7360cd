import Keyring.Proofs.Host.Calm
import Keyring.Proofs.Keychain.Changes
import Keyring.Proofs.Keychain.Transparency

/-!
# All or nothing

An entry that is refused, a save that fails and a reload that fails leave a keychain as it was, with
everything that it remembers and with its lock. A reload that succeeds makes it the keychain that is
loaded from the file (`IsRenewed`), but for the room in the cache and for how often it was asked. That
does not show: whatever becomes of the two later, they have the same entries (`Coincide.through`), and
so they give the same verdicts (`all_or_nothing`).
-/

namespace Keyring

/-- Whoever enters the write side and leaves it again leaves the lock as it was. -/
theorem Lock.leave_take_write {lock : Lock} (admitted : lock.admits .write = true) :
    (lock.take .write).leave .write = lock := by
  obtain ⟨readers, writing, writersWaiting⟩ := lock
  obtain ⟨free, -⟩ : writing = false ∧ readers = 0 := by simpa [admits] using admitted
  rw [free]
  rfl

namespace Keychain

variable {keychain other : Keychain}

theorem released_write (admitted : keychain.lock.admits .write = true) :
    keychain.released .write = keychain := by
  unfold released take leave
  dsimp only
  rw [Lock.leave_take_write admitted]

/-! ## Keychains with the same entries -/

/-- Keychains of one file with the same entries, in the same order. -/
structure Coincide (keychain other : Keychain) : Prop where
  name : other.name = keychain.name
  entries : other.entries = keychain.entries

namespace Coincide

/-- What keeps file and entries of both lets them coincide. -/
theorem of_keeps (same : keychain.Coincide other) {after after' : Keychain}
    (keeps : after.name = keychain.name ∧ after.entries = keychain.entries)
    (keeps' : after'.name = other.name ∧ after'.entries = other.entries) :
    after.Coincide after' :=
  ⟨keeps'.1.trans (same.name.trans keeps.1.symm), keeps'.2.trans (same.entries.trans keeps.2.symm)⟩

theorem add (same : keychain.Coincide other) (id hash : Cell) :
    (keychain.add id hash).2.Coincide (other.add id hash).2 := by
  refine ⟨by simp [same.name], ?_⟩
  unfold Keychain.add
  split
  · exact same.entries
  · simp [holding, take, leave, put, same.entries]

theorem remove (same : keychain.Coincide other) (id : Cell) :
    (keychain.remove id).2.Coincide (other.remove id).2 := by
  have contained : (other.take .write).contains id = (keychain.take .write).contains id := by
    simp [contains, same.entries]
  refine ⟨by simp [same.name], ?_⟩
  unfold Keychain.remove
  rw [snd_holding, snd_holding, contained]
  split
  · simp [same.entries]
  · exact same.entries

theorem reload (same : keychain.Coincide other) (host : Host) :
    (keychain.reload.run host).1.2.Coincide (other.reload.run host).1.2 := by
  rw [run_reload, run_reload, same.name]
  split
  · exact ⟨same.name, same.entries⟩
  · exact ⟨same.name, rfl⟩

end Coincide

/-- Saving leaves the file and the entries as they are. -/
theorem save_keeps (keychain : Keychain) (host : Host) :
    (keychain.save.run host).1.2.name = keychain.name ∧
      (keychain.save.run host).1.2.entries = keychain.entries := by
  rw [run_save]
  split <;> exact ⟨rfl, rfl⟩

/-- The verdict on a header leaves the file and the entries as they are. -/
theorem allow_keeps (keychain : Keychain) (header : Option Text) :
    (keychain.allow header).2.name = keychain.name ∧
      (keychain.allow header).2.entries = keychain.entries := by
  unfold allow
  split
  · exact ⟨rfl, rfl⟩
  · exact ⟨rfl, rfl⟩
  · exact verifyText_keeps keychain _ _

namespace Coincide

/-- Whatever is done to both alike, they coincide after it. -/
theorem act (same : keychain.Coincide other) (host : Host) (action : Action) :
    (keychain.act host action).Coincide (other.act host action) := by
  cases action with
  | add id hash => exact same.add id hash.toCell
  | remove id => exact same.remove id
  | reload => exact same.reload host
  | save => exact same.of_keeps (keychain.save_keeps host) (other.save_keeps host)
  | verify id secret =>
    exact same.of_keeps (keychain.verify_keeps id secret) (other.verify_keeps id secret)
  | allow header => exact same.of_keeps (keychain.allow_keeps header) (other.allow_keeps header)
  | guard header realm =>
    simp only [Keychain.act, Gate.snd_decide]
    exact same.of_keeps (keychain.allow_keeps header) (other.allow_keeps header)

/-- Keychains that coincide do so after any run, and the same is hashed in it. -/
theorem through (same : keychain.Coincide other) (run : List Occasion) :
    (keychain.through run).Coincide (other.through run) ∧ keychain.hashed run = other.hashed run := by
  induction run generalizing keychain other with
  | nil => exact ⟨same, rfl⟩
  | cons occasion run ih =>
    obtain ⟨host, action⟩ := occasion
    obtain ⟨after, hashed⟩ := ih (same.act host action)
    have messages : keychain.messages action.presented = other.messages action.presented :=
      messages_congr (fun name => by rw [same.entries]) _
    exact ⟨after, congrArg₂ (· ++ ·) messages hashed⟩

end Coincide

/-! ## Keychains that remember nothing -/

/-- Where nothing is remembered the verdict is worked out. -/
theorem fst_judge_of_forgotten (keychain : Keychain) (forgotten : keychain.cache.verdicts = [])
    (id : Text) (idOctets secret : Bytes) (hash : Cell) :
    (keychain.judge id idOctets secret hash).1 = Secret.verdict secret hash := by
  have missed : keychain.cache.get (Secret.cacheDigest idOctets secret) =
      (none, { keychain.cache with misses := keychain.cache.misses + 1 }) := by
    simp [VerdictCache.get, VerdictCache.find?, forgotten]
  unfold judge
  dsimp only
  rw [missed]
  cases Secret.verdict secret hash <;> rfl

/-- Keychains with the same entries that remember nothing give the same verdict. -/
theorem Coincide.fst_verify (same : keychain.Coincide other)
    (forgotten : keychain.cache.verdicts = []) (forgotten' : other.cache.verdicts = [])
    (id secret : Cell) : (other.verify id secret).1 = (keychain.verify id secret).1 := by
  unfold verify
  split
  · unfold verifyText
    split
    · rw [fst_holding, fst_holding, entries_take, entries_take, same.entries]
      split
      · rfl
      · rw [fst_judge_of_forgotten (other.take .read) forgotten',
          fst_judge_of_forgotten (keychain.take .read) forgotten]
    · rfl
  · rfl

/-! ## Reloading -/

/-- A keychain has become, by being reloaded, what is loaded afresh. -/
structure IsRenewed (keychain after fresh : Keychain) : Prop where
  coincides : fresh.Coincide after
  /-- Nothing is remembered but how much room there is and how often the cache was asked. -/
  cache : after.cache = keychain.cache.clear
  lock : after.lock = keychain.lock
  verdict : ∀ id secret, (after.verify id secret).1 = (fresh.verify id secret).1
  /-- Whatever becomes of both, they have the same entries and the same verdicts, unless two of the
  messages that were hashed have one digest. -/
  later : ∀ run, (fresh.through run).Coincide (after.through run) ∧
    ∀ id secret, Sha512.Separates (fresh.hashed run ++
      (fresh.through run).messages (Action.verify id secret).presented) →
      ((after.through run).verify id secret).1 = ((fresh.through run).verify id secret).1

/-- A keychain that was loaded remembers nothing. -/
theorem verdicts_of_load {name : Text} {host : Host}
    (loaded : ((load name).run host).1 = .ok keychain) : keychain.cache.verdicts = [] := by
  rw [run_load] at loaded
  split at loaded
  · cases loaded
  · rename_i entries _ _
    cases loaded
    cases entries <;> rfl

/-- A keychain that forgets everything and has the entries of one that was loaded is renewed. -/
theorem IsRenewed.of_load {after fresh : Keychain} {name : Text} {host : Host}
    (loaded : ((load name).run host).1 = .ok fresh) (coincides : fresh.Coincide after)
    (cache : after.cache = keychain.cache.clear) (lock : after.lock = keychain.lock) :
    keychain.IsRenewed after fresh where
  coincides := coincides
  cache := cache
  lock := lock
  verdict := coincides.fst_verify (verdicts_of_load loaded) (cache ▸ rfl)
  later := by
    intro run
    obtain ⟨coincide, hashed⟩ := coincides.through run
    refine ⟨coincide, fun id secret separates => ?_⟩
    have initial : fresh.IsInitial := .loaded loaded
    have sound : Sound [] after := by
      refine ⟨coincides.entries ▸ initial.sound.storable, cache ▸ .clear, ?_⟩
      rw [cache]
      rintro verdict ⟨⟩
    have agree : Entries.Agree (fresh.through run).entries (after.through run).entries :=
      fun name => by rw [coincide.entries]
    have sound' : Sound (fresh.hashed run) (after.through run) := hashed ▸ sound.through run
    exact (initial.sound_through run).fst_verify_congr sound' agree id secret separates

/-- A keychain that nobody holds stays exactly as it is when adding, saving or reloading fails. It
cannot be reloaded when it could not be loaded. If it is reloaded, it could also be loaded, and it is
renewed; where there is no file, it has no entries then. -/
theorem all_or_nothing (keychain : Keychain) (host : Host)
    (admitted : keychain.lock.admits .write = true) :
    (∀ id hash failure, (keychain.add id hash).1 = .error failure →
      (keychain.add id hash).2 = keychain) ∧
    (∀ failure, (keychain.save.run host).1.1 = .error failure →
      (keychain.save.run host).1.2 = keychain) ∧
    (∀ failure, (keychain.reload.run host).1.1 = .error failure →
      (keychain.reload.run host).1.2 = keychain ∧
        ((load keychain.name).run host).1 = .error failure) ∧
    ((keychain.reload.run host).1.1 = .ok () →
      (∃ fresh, ((load keychain.name).run host).1 = .ok fresh ∧
        keychain.IsRenewed (keychain.reload.run host).1.2 fresh) ∧
      ∀ fault, (host.answer (.readFile keychain.name)).1 = .error fault →
        (keychain.reload.run host).1.2.entries = []) := by
  have released := released_write admitted
  refine ⟨fun _ _ _ => add_eq_error, fun failure _ => ?_, ?_, ?_⟩
  · rw [run_save]
    split <;> exact released
  · rw [run_reload, run_load]
    rcases (KeychainFile.read keychain.name).run host with ⟨failure | entries, after⟩
    · rintro _ ⟨⟩
      exact ⟨released, rfl⟩
    · rintro _ ⟨⟩
  · intro reloaded
    refine ⟨?_, fun fault unread => ?_⟩
    · rw [run_reload] at reloaded ⊢
      rw [run_load]
      rcases read : (KeychainFile.read keychain.name).run host with ⟨failure | entries, after⟩
      · rw [read] at reloaded
        cases reloaded
      · have loaded : ((load keychain.name).run host).1 = .ok (ofFile keychain.name entries) := by
          rw [run_load, read]
        have unlocked : (keychain.released .write).lock = keychain.lock := by rw [released]
        refine ⟨_, rfl, .of_load loaded ?_ rfl unlocked⟩
        cases entries <;> exact ⟨rfl, rfl⟩
    · rw [run_reload, KeychainFile.run_read, unread] at reloaded ⊢
      cases fault with
      | badPath fault => cases reloaded
      | system error =>
        cases missing : error.isMissing with
        | false => simp [missing] at reloaded
        | true => simp [missing]

/-- The last line of the file is malformed, and the keychain keeps what it has and remembers. -/
theorem all_or_nothing_malformed :
    let host := Host.calm (.ofFile [107] [97, 58, 103, 10, 98])
    let keychain : Keychain :=
      { create (Text.lit "k") [(.ofText (Text.lit "c"), .ofBytes [104])] none with
        cache := ⟨8, [⟨[1], Text.lit "c", true⟩], [(Text.lit "c", [[1]])], 2, 1⟩ }
    keychain.lock.admits .write = true ∧
      (keychain.reload.run host).1.1 =
        .error (.invalidEntry .malformed (.ofText (Text.lit "k")) (.ofInt 2)) ∧
      (keychain.reload.run host).1.2 = keychain := by
  intro host keychain
  have admitted : keychain.lock.admits .write = true := by decide
  have failed : (keychain.reload.run host).1.1 =
      .error (.invalidEntry .malformed (.ofText (Text.lit "k")) (.ofInt 2)) := by
    decide +kernel
  obtain ⟨-, -, unloaded, -⟩ := all_or_nothing keychain host admitted
  exact ⟨admitted, failed, (unloaded _ failed).1⟩

end Keychain

end Keyring
