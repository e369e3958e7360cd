import Keyring.Proofs.Keychain.Run

/-!
# Verdicts by any check

Checking a secret against a hash is slow on purpose, so it matters how often it is done. To tell, a
keychain is asked for verdicts by a check that may do whatever it likes besides: `throughBy` is a run in
which secrets are checked in any monad. With the check that there is and nothing besides, this is what a
run is (`throughBy_plain`).

All that is ever asked for by a check are verdicts on the texts that actions present
(`actBy_of_calls`).
-/

namespace Keyring

/-! ## Verdicts by any check -/

section By

variable {m : Type → Type} [Monad m] (check : Bytes → Cell → m (Except Failure Bool))

namespace Keychain

/-- The verdict on octets against a stored hash, by a check if none is remembered. -/
def judgeBy (keychain : Keychain) (id : Text) (idOctets secret : Bytes) (hash : Cell) :
    m (Except Failure Bool × Keychain) :=
  let key := Secret.cacheDigest idOctets secret
  match keychain.cache.get key with
  | (some allowed, cache) => return (.ok allowed, { keychain with cache := cache })
  | (none, cache) => do
    match ← check secret hash with
    | .error failure => return (.error failure, { keychain with cache := cache })
    | .ok allowed => return (.ok allowed, { keychain with cache := cache.put key id allowed })

/-- The verdict on texts by a check. -/
def verifyTextBy (keychain : Keychain) (id secret : Text) : m (Except Failure Bool × Keychain) :=
  match Utf8.encode id, Utf8.encode secret with
  | .ok idOctets, .ok secretOctets => do
    let inside := keychain.take .read
    let (allowed, after) ←
      match (inside.entries.get? (.ofText id)).getD .absent with
      | .absent => pure (.ok false, inside)
      | hash => inside.judgeBy check id idOctets secretOctets hash
    return (allowed, after.leave .read)
  | _, _ => return (.ok false, keychain)

/-- The verdict on values of any kind by a check. -/
def verifyBy (keychain : Keychain) : Cell → Cell → m (Except Failure Bool × Keychain)
  | .ofText id, .ofText secret => keychain.verifyTextBy check id secret
  | _, _ => return (.ok false, keychain)

/-- The verdict on what a header presents by a check. -/
def allowBy (keychain : Keychain) (header : Option Text) : m (Except Failure Bool × Keychain) :=
  match Header.parse? header with
  | .error failure => return (.error failure, keychain)
  | .ok none => return (.ok false, keychain)
  | .ok (some (id, secret)) => keychain.verifyTextBy check id secret

end Keychain

/-- The decision on a request by a check. -/
def Gate.decideBy (keychain : Keychain) (header : Option Text) (realm : Cell) :
    m (Except Failure Decision × Keychain) := do
  match ← keychain.allowBy check header with
  | (.error failure, after) => return (.error failure, after)
  | (.ok true, after) => return (.ok .granted, after)
  | (.ok false, after) => return (.ok (.refused realm), after)

namespace Keychain

/-- The keychain after an action, where verdicts are given by a check. -/
def actBy (keychain : Keychain) (host : Host) : Action → m Keychain
  | .add id hash => return (keychain.add id hash.toCell).2
  | .remove id => return (keychain.remove id).2
  | .reload => return (keychain.reload.run host).1.2
  | .save => return (keychain.save.run host).1.2
  | .verify id secret => return (← keychain.verifyBy check id secret).2
  | .allow header => return (← keychain.allowBy check header).2
  | .guard header realm => return (← Gate.decideBy check keychain header realm).2

/-- The keychain after one action upon another, where verdicts are given by a check. -/
def throughBy (keychain : Keychain) (run : List Occasion) : m Keychain :=
  run.foldlM (fun keychain occasion => keychain.actBy check occasion.1 occasion.2) keychain

theorem throughBy_cons (keychain : Keychain) (host : Host) (action : Action)
    (run : List Occasion) :
    keychain.throughBy check ((host, action) :: run) =
      keychain.actBy check host action >>= fun after => after.throughBy check run := by
  unfold throughBy
  rw [List.foldlM_cons]

end Keychain

end By

namespace Keychain

/-! ## The check that there is -/

section Verdict

variable {m : Type → Type} [Monad m] [LawfulMonad m]

/-- The check that there is, which does nothing but give the verdict. -/
def plain (secret : Bytes) (hash : Cell) : m (Except Failure Bool) :=
  pure (Secret.verdict secret hash)

theorem judgeBy_plain (keychain : Keychain) (id : Text) (idOctets secret : Bytes) (hash : Cell) :
    keychain.judgeBy (m := m) plain id idOctets secret hash =
      pure (keychain.judge id idOctets secret hash) := by
  unfold judgeBy judge plain
  dsimp only
  generalize keychain.cache.get (Secret.cacheDigest idOctets secret) = found
  obtain ⟨_ | allowed, cache⟩ := found
  · cases Secret.verdict secret hash <;> simp
  · rfl

theorem verifyTextBy_plain (keychain : Keychain) (id secret : Text) :
    keychain.verifyTextBy (m := m) plain id secret = pure (keychain.verifyText id secret) := by
  unfold verifyTextBy verifyText holding
  rcases Utf8.encode id with run | idOctets
  · rfl
  · rcases Utf8.encode secret with run | secretOctets
    · rfl
    · dsimp only
      generalize ((keychain.take .read).entries.get? (.ofText id)).getD .absent = hash
      cases hash <;> simp [judgeBy_plain]

theorem allowBy_plain (keychain : Keychain) (header : Option Text) :
    keychain.allowBy (m := m) plain header = pure (keychain.allow header) := by
  unfold allowBy allow
  rcases Header.parse? header with failure | _ | ⟨id, secret⟩
  · rfl
  · rfl
  · exact verifyTextBy_plain keychain id secret

theorem actBy_plain (keychain : Keychain) (host : Host) (action : Action) :
    keychain.actBy (m := m) plain host action = pure (keychain.act host action) := by
  cases action with
  | verify id secret =>
    cases id <;> cases secret <;> simp [actBy, act, verifyBy, verify, verifyTextBy_plain]
  | allow header => simp [actBy, act, allowBy_plain]
  | guard header realm =>
    unfold actBy act Gate.decideBy Gate.decide
    rcases given : keychain.allow header with ⟨failure | _ | _, after⟩ <;>
      simp [allowBy_plain, given]
  | _ => rfl

/-- With the check that there is, a run is what it is. -/
theorem throughBy_plain (keychain : Keychain) (run : List Occasion) :
    keychain.throughBy (m := m) plain run = pure (keychain.through run) := by
  induction run generalizing keychain with
  | nil => rfl
  | cons occasion run ih =>
    obtain ⟨host, action⟩ := occasion
    rw [throughBy_cons, actBy_plain, pure_bind, ih]
    rfl

/-! ## What is presented -/

/-- An action that asks for a verdict. -/
def Action.calls : Action → Bool
  | .verify .. | .allow _ | .guard .. => true
  | _ => false

/-- Only what asks for a verdict presents a pair. -/
theorem Action.presented_of_not_calls {action : Action} (silent : action.calls = false) :
    action.presented = none := by
  cases action <;> first | rfl | cases silent

/-- What asks for a verdict does so by verifying what it presents, by whatever check. -/
theorem actBy_of_calls (check : Bytes → Cell → m (Except Failure Bool)) (keychain : Keychain)
    (host : Host) {action : Action} (calls : action.calls = true) :
    keychain.actBy check host action =
      match action.presented with
      | none => pure keychain
      | some (id, secret) => Prod.snd <$> keychain.verifyTextBy check id secret := by
  have allowed (header : Option Text) : Prod.snd <$> keychain.allowBy check header =
      match presentedBy header with
      | none => pure keychain
      | some (id, secret) => Prod.snd <$> keychain.verifyTextBy check id secret := by
    unfold allowBy presentedBy
    rcases Header.parse? header with failure | _ | pair <;> simp
  cases action with
  | verify id secret => cases id <;> cases secret <;> simp [actBy, verifyBy, Action.presented]
  | allow header => simpa [actBy, Action.presented] using allowed header
  | guard header realm =>
    rw [actBy, Action.presented, ← allowed header, Gate.decideBy, ← bind_pure_comp, bind_assoc]
    refine bind_congr fun given => ?_
    obtain ⟨failure | _ | _, after⟩ := given <;> simp
  | _ => cases calls

end Verdict

/-- Whatever asks for a verdict has what it presents verified. -/
theorem act_of_calls (keychain : Keychain) (host : Host) {action : Action}
    (calls : action.calls = true) :
    keychain.act host action =
      match action.presented with
      | none => keychain
      | some (id, secret) => (keychain.verifyText id secret).2 := by
  have same := (actBy_plain (m := Id) keychain host action).symm.trans
    (actBy_of_calls plain keychain host calls)
  split at same
  · exact same
  · rw [verifyTextBy_plain] at same
    exact same

end Keychain

end Keyring
