import Keyring.Proofs.Keychain.Changes
import Keyring.Proofs.Keychain.Transparency
import Keyring.Proofs.Keychain.Verdict
import Keyring.Proofs.VerdictCache.Recency

/-!
# What a keychain asks its cache

A keychain asks its cache for a verdict when there is a pair of id and secret to judge, and tells it
what to forget when an id gets another hash or none. `history` lists these requests, so that the cache
after a run is the one that such a history leads to (`cache_through`), and whatever is known of caches
is known of keychains.

What the history uses are the keys of the pairs that were judged, one after another (`used_history`).
No two pairs have one key, unless two of the messages that were hashed have one digest
(`Sound.eq_of_keyOf`).
-/

namespace Keyring

open VerdictCache (Request)

namespace Keychain

/-! ## What is judged -/

/-- There is something to judge: id and secret have octets, and the id is stored. -/
def judges (keychain : Keychain) (pair : Text × Text) : Bool :=
  Utf8.isEncodable pair.1 && Utf8.isEncodable pair.2 && keychain.entries.contains (.ofText pair.1)

/-- The pair that an action has judged, if it has. -/
def judgedBy (keychain : Keychain) (action : Action) : Option (Text × Text) :=
  action.presented.filter keychain.judges

/-- The pairs that are judged in a run, the first one first. -/
def judged (keychain : Keychain) : List Occasion → List (Text × Text)
  | [] => []
  | (host, action) :: run =>
    (keychain.judgedBy action).toList ++ (keychain.act host action).judged run

/-- The message that is hashed for a pair. -/
def messageOf (pair : Text × Text) : Bytes :=
  Secret.cacheMessage (Utf8.octets pair.1) (Utf8.octets pair.2)

/-- What the verdict on a pair is remembered under. -/
def keyOf (pair : Text × Text) : Bytes :=
  Secret.cacheDigest (Utf8.octets pair.1) (Utf8.octets pair.2)

variable {keychain : Keychain} {pair : Text × Text} {messages : List Bytes}

theorem judges_iff :
    keychain.judges pair = true ↔
      Utf8.isEncodable pair.1 = true ∧ Utf8.isEncodable pair.2 = true ∧
        ∃ hash, keychain.entries.get? (.ofText pair.1) = some hash := by
  simp [judges, Named.contains, Option.isSome_iff_exists, and_assoc]

theorem judgedBy_eq_some_iff {action : Action} :
    keychain.judgedBy action = some pair ↔
      action.presented = some pair ∧ keychain.judges pair = true :=
  Option.filter_eq_some_iff

/-- Whoever enters the read side and leaves it again leaves the keychain as it was. -/
theorem released_read (keychain : Keychain) : keychain.released .read = keychain := by
  have lock : (keychain.lock.take .read).leave .read = keychain.lock := by
    simp [Lock.take, Lock.announce, Lock.enter, Lock.leave]
  unfold released take leave
  dsimp only
  rw [lock]

/-- If texts with octets are not judged, their id is not stored. -/
theorem get?_of_not_judges {id secret : Text} (nothing : ¬ keychain.judges (id, secret) = true)
    (idEncodable : Utf8.isEncodable id = true) (secretEncodable : Utf8.isEncodable secret = true) :
    keychain.entries.get? (.ofText id) = none := by
  by_contra stored
  exact nothing (judges_iff.mpr
    ⟨idEncodable, secretEncodable, Option.ne_none_iff_exists'.mp stored⟩)

/-- Where there is nothing to judge nothing is checked. -/
theorem verifyTextBy_of_not_judges {m : Type → Type} [Monad m] [LawfulMonad m]
    (check : Bytes → Cell → m (Except Failure Bool)) {id secret : Text}
    (nothing : ¬ keychain.judges (id, secret) = true) :
    keychain.verifyTextBy check id secret = pure (.ok false, keychain) := by
  unfold verifyTextBy
  rcases idRead : Utf8.encode id with run | idOctets
  · rfl
  · rcases secretRead : Utf8.encode secret with run | secretOctets
    · rfl
    · have missing := get?_of_not_judges nothing (Utf8.encode_eq_ok_iff.mp idRead).1
        (Utf8.encode_eq_ok_iff.mp secretRead).1
      dsimp only
      have same : (keychain.take .read).leave .read = keychain := released_read keychain
      rw [entries_take, missing, Option.getD_none]
      dsimp only
      rw [pure_bind, same]

/-- Where there is nothing to judge the verdict leaves no trace. -/
theorem verifyText_of_not_judges {id secret : Text} (nothing : ¬ keychain.judges (id, secret) = true) :
    keychain.verifyText id secret = (.ok false, keychain) :=
  (verifyTextBy_plain (m := Id) keychain id secret).symm.trans
    (verifyTextBy_of_not_judges plain nothing)

/-- One message is hashed for a pair that is judged. -/
theorem messages_eq (keychain : Keychain) (action : Action) :
    keychain.messages action.presented = (keychain.judgedBy action).toList.map messageOf := by
  unfold judgedBy
  cases action.presented with
  | none => rfl
  | some pair =>
    by_cases judged : keychain.judges pair = true
    · obtain ⟨idEncodable, secretEncodable, hash, stored⟩ := judges_iff.mp judged
      rw [messages_of_stored idEncodable secretEncodable stored, Option.filter_some_pos judged]
      rfl
    · rw [Option.filter_some_neg (Bool.eq_false_iff.mpr judged)]
      unfold Keychain.messages
      dsimp only
      split
      · rename_i idRead secretRead
        rw [if_neg]
        · rfl
        · simpa [judges, (Utf8.encode_eq_ok_iff.mp idRead).1,
            (Utf8.encode_eq_ok_iff.mp secretRead).1] using judged
      · rfl

theorem judged_append (keychain : Keychain) (run more : List Occasion) :
    keychain.judged (run ++ more) = keychain.judged run ++ (keychain.through run).judged more := by
  induction run generalizing keychain with
  | nil => rfl
  | cons occasion run ih =>
    obtain ⟨host, action⟩ := occasion
    rw [List.cons_append, judged, judged, ih, List.append_assoc]
    rfl

/-- The messages of a run are those of the pairs that are judged. -/
theorem hashed_eq (keychain : Keychain) (run : List Occasion) :
    keychain.hashed run = (keychain.judged run).map messageOf := by
  induction run generalizing keychain with
  | nil => rfl
  | cons occasion run ih =>
    obtain ⟨host, action⟩ := occasion
    rw [hashed, judged, ih, messages_eq, List.map_append]

/-! ## Pairs and keys -/

/-- A pair that is judged can be found in its message. -/
structure IsProper (pair : Text × Text) : Prop where
  id : Entries.isStorableId pair.1 = true
  secret : Utf8.isEncodable pair.2 = true

theorem Sound.isProper_of_judges (sound : Sound messages keychain)
    (judged : keychain.judges pair = true) : IsProper pair := by
  obtain ⟨-, secret, hash, stored⟩ := judges_iff.mp judged
  obtain ⟨text, bytes, equal, -, acceptable⟩ := sound.storable.get?_eq_some stored
  cases equal
  exact ⟨(Entries.isAcceptable_iff.mp acceptable).2.1, secret⟩

theorem Sound.isProper_of_mem_judged (sound : Sound messages keychain) {run : List Occasion}
    (member : pair ∈ keychain.judged run) : IsProper pair := by
  induction run generalizing messages keychain with
  | nil => cases member
  | cons occasion run ih =>
    obtain ⟨host, action⟩ := occasion
    rcases List.mem_append.mp member with first | later
    · exact sound.isProper_of_judges (judgedBy_eq_some_iff.mp (Option.mem_toList.mp first)).2
    · exact ih (sound.act host action) later

/-- Different pairs that are judged in a run have different keys. -/
theorem Sound.eq_of_keyOf (sound : Sound messages keychain) {run : List Occasion}
    (separates : Sha512.Separates (keychain.hashed run)) {other : Text × Text}
    (member : pair ∈ keychain.judged run) (member' : other ∈ keychain.judged run)
    (same : keyOf pair = keyOf other) : pair = other := by
  rw [hashed_eq] at separates
  have proper := sound.isProper_of_mem_judged member
  have proper' := sound.isProper_of_mem_judged member'
  have message : messageOf pair = messageOf other :=
    separates _ (List.mem_map_of_mem member) _ (List.mem_map_of_mem member') same
  obtain ⟨ids, secrets⟩ := Secret.cacheMessage_inj proper.id proper'.id message
  exact Prod.ext ids (Utf8.octets_inj proper.secret proper'.secret secrets)

/-! ## Requests -/

/-- What the cache has to forget when an id gets another hash or none. Only texts have any verdicts. -/
def forgetting? : Cell → Option (Request Text Bool)
  | .ofText id => some (.invalidate id)
  | _ => none

/-- What an action that succeeds has the cache forget. -/
def forgets? (keychain : Keychain) (host : Host) : Action → Option (Request Text Bool)
  | .add id hash =>
    match (keychain.add id hash.toCell).1 with
    | .ok () => forgetting? id
    | .error _ => none
  | .remove id =>
    match (keychain.remove id).1 with
    | .ok true => forgetting? id
    | _ => none
  | .reload =>
    match (keychain.reload.run host).1.1 with
    | .ok () => some .clear
    | .error _ => none
  | .save | .verify .. | .allow _ | .guard .. => none

/-- An action succeeds that gives an id another hash or none, or reads the file again. -/
def Renews (keychain : Keychain) (host : Host) (id : Text) : Action → Prop
  | .add other hash => other = .ofText id ∧ (keychain.add other hash.toCell).1 = .ok ()
  | .remove other => other = .ofText id ∧ (keychain.remove other).1 = .ok true
  | .reload => (keychain.reload.run host).1.1 = .ok ()
  | .save | .verify .. | .allow _ | .guard .. => False

/-- Something is forgotten only of ids that are renewed. -/
theorem forgets?_eq_some {host : Host} {action : Action} {request : Request Text Bool}
    (forgotten : keychain.forgets? host action = some request) :
    (∃ id, request = .invalidate id ∧ keychain.Renews host id action) ∨
      (request = .clear ∧ ∀ id, keychain.Renews host id action) := by
  have named : ∀ {id : Cell}, forgetting? id = some request →
      ∃ text, id = .ofText text ∧ request = .invalidate text := by
    intro id forgotten
    cases id with
    | ofText text => exact ⟨text, rfl, (Option.some.inj forgotten).symm⟩
    | _ => cases forgotten
  cases action with
  | add id hash =>
    rw [forgets?] at forgotten
    split at forgotten
    · rename_i added
      obtain ⟨text, rfl, rfl⟩ := named forgotten
      exact .inl ⟨text, rfl, rfl, added⟩
    · cases forgotten
  | remove id =>
    rw [forgets?] at forgotten
    split at forgotten
    · rename_i removed
      obtain ⟨text, rfl, rfl⟩ := named forgotten
      exact .inl ⟨text, rfl, rfl, removed⟩
    · cases forgotten
  | reload =>
    rw [forgets?] at forgotten
    split at forgotten
    · rename_i reloaded
      exact .inr ⟨(Option.some.inj forgotten).symm, fun _ => reloaded⟩
    · cases forgotten
  | save => cases forgotten
  | verify id secret => cases forgotten
  | allow header => cases forgotten
  | guard header realm => cases forgotten

/-- What the verdict on a pair is if it is worked out. -/
def ruling (keychain : Keychain) (pair : Text × Text) : Except Failure Bool :=
  Secret.verdict (Utf8.octets pair.2) ((keychain.entries.get? (.ofText pair.1)).getD .absent)

/-- What the cache is asked for when a pair is judged. -/
def consults (keychain : Keychain) (pair : Text × Text) : List (Request Text Bool) :=
  .get (keyOf pair) ::
    if keychain.cache.contains (keyOf pair) then []
    else
      match keychain.ruling pair with
      | .ok allowed => [.put (keyOf pair) pair.1 allowed]
      | .error _ => []

/-- What an action asks the cache for. -/
def requests (keychain : Keychain) (host : Host) (action : Action) : List (Request Text Bool) :=
  (keychain.forgets? host action).toList ++
    (keychain.judgedBy action).toList.flatMap keychain.consults

/-- What a run asks the cache for. -/
def history (keychain : Keychain) : List Occasion → List (Request Text Bool)
  | [] => []
  | (host, action) :: run =>
    keychain.requests host action ++ (keychain.act host action).history run

/-! ## The cache after a run -/

/-- Octets that are stored rule on a pair. -/
theorem ruling_of_stored {hash : Bytes}
    (stored : keychain.entries.get? (.ofText pair.1) = some (.ofBytes hash)) :
    keychain.ruling pair = .ok (Secret.matchesHash (Utf8.octets pair.2) hash) := by
  rw [ruling, stored, Option.getD_some, Secret.verdict_ofBytes]

/-- A verdict is looked up, and put if none was found. -/
theorem cache_judge {hash : Bytes}
    (stored : keychain.entries.get? (.ofText pair.1) = some (.ofBytes hash)) :
    (keychain.judge pair.1 (Utf8.octets pair.1) (Utf8.octets pair.2) (.ofBytes hash)).2.cache =
      keychain.cache.through (keychain.consults pair) := by
  unfold consults
  rw [ruling_of_stored stored, ← VerdictCache.isSome_get]
  unfold keyOf
  cases found : (keychain.cache.get
      (Secret.cacheDigest (Utf8.octets pair.1) (Utf8.octets pair.2))).1 with
  | some allowed =>
    rw [judge_of_hit pair.1 _ found]
    rfl
  | none =>
    rw [judge_of_miss pair.1 hash found]
    rfl

/-- What judging uses is the key of the pair. -/
theorem used_consults {hash : Bytes}
    (stored : keychain.entries.get? (.ofText pair.1) = some (.ofBytes hash)) :
    keychain.cache.used (keychain.consults pair) = [keyOf pair] := by
  unfold consults
  rw [ruling_of_stored stored]
  cases known : keychain.cache.contains (keyOf pair) <;>
    simp [VerdictCache.used, Request.used?, known]

theorem cache_forget (keychain : Keychain) (id : Cell) :
    (keychain.forget id).cache = keychain.cache.through (forgetting? id).toList := by
  cases id <;> rfl

/-- An action that succeeds has the cache forget what is not true any more. -/
theorem cache_act_of_not_calls (keychain : Keychain) (host : Host) {action : Action}
    (silent : action.calls = false) :
    (keychain.act host action).cache =
      keychain.cache.through (keychain.forgets? host action).toList := by
  cases action with
  | add id hash =>
    rw [act, forgets?, add]
    cases entry : id.entryWith hash.toCell with
    | error failure => rfl
    | ok stored =>
      obtain rfl := Cell.id_of_entryWith entry
      rfl
  | remove id =>
    have same : (keychain.take .write).contains id = keychain.contains id := rfl
    rw [act, forgets?, fst_remove, remove, snd_holding, same]
    rcases keychain.contains id with failure | _ | _
    · rfl
    · rfl
    · exact cache_forget _ id
  | reload =>
    rw [act, forgets?, run_reload]
    split <;> rfl
  | save =>
    rw [act, forgets?, run_save]
    split <;> rfl
  | verify id secret => cases silent
  | allow header => cases silent
  | guard header realm => cases silent

/-- Whatever asks for a verdict where there is nothing to judge leaves no trace. -/
theorem act_of_not_judged (host : Host) {action : Action} (calls : action.calls = true)
    (nothing : keychain.judgedBy action = none) : keychain.act host action = keychain := by
  rw [act_of_calls keychain host calls]
  split
  · rfl
  · rename_i id secret presented
    have unjudged : ¬ keychain.judges (id, secret) = true := fun judged => by
      rw [judgedBy_eq_some_iff.mpr ⟨presented, judged⟩] at nothing
      cases nothing
    rw [verifyText_of_not_judges unjudged]

/-- Nothing but what asks for a verdict has anything judged. -/
theorem calls_of_judged {action : Action} (judged : keychain.judgedBy action = some pair) :
    action.calls = true := by
  by_contra silent
  have presented := (judgedBy_eq_some_iff.mp judged).1
  rw [Action.presented_of_not_calls (Bool.eq_false_iff.mpr silent)] at presented
  cases presented

/-- Whatever asks for a verdict on a pair has it judged by the hash that is stored. -/
theorem act_of_judged (storable : keychain.entries.Storable) (host : Host) {action : Action}
    (judged : keychain.judgedBy action = some pair) :
    ∃ hash, keychain.entries.get? (.ofText pair.1) = some (.ofBytes hash) ∧
      keychain.act host action = ((keychain.take .read).judge pair.1 (Utf8.octets pair.1)
        (Utf8.octets pair.2) (.ofBytes hash)).2.leave .read := by
  obtain ⟨presented, judges⟩ := judgedBy_eq_some_iff.mp judged
  obtain ⟨idEncodable, secretEncodable, value, stored⟩ := judges_iff.mp judges
  obtain ⟨-, hash, -, rfl, -⟩ := storable.get?_eq_some stored
  refine ⟨hash, stored, ?_⟩
  rw [act_of_calls keychain host (calls_of_judged judged), presented]
  dsimp only
  rw [verifyText_of_stored idEncodable secretEncodable stored, snd_holding]

theorem requests_of_calls (keychain : Keychain) (host : Host) {action : Action}
    (calls : action.calls = true) :
    keychain.requests host action = (keychain.judgedBy action).toList.flatMap keychain.consults := by
  have nothing : keychain.forgets? host action = none := by
    cases action <;> first | rfl | cases calls
  rw [requests, nothing, Option.toList_none, List.nil_append]

theorem requests_of_not_calls (keychain : Keychain) (host : Host) {action : Action}
    (silent : action.calls = false) :
    keychain.requests host action = (keychain.forgets? host action).toList := by
  rw [requests, judgedBy, Action.presented_of_not_calls silent]
  simp

/-- What judging a pair asks the cache for is all that the action asks it for. -/
theorem requests_of_judged (host : Host) {action : Action}
    (judged : keychain.judgedBy action = some pair) :
    keychain.requests host action = keychain.consults pair := by
  rw [requests_of_calls keychain host (calls_of_judged judged), judged]
  simp

/-- After an action the cache is what its requests have made of it. -/
theorem cache_act (storable : keychain.entries.Storable) (host : Host) (action : Action) :
    (keychain.act host action).cache = keychain.cache.through (keychain.requests host action) := by
  cases calls : action.calls with
  | false =>
    rw [cache_act_of_not_calls keychain host calls, requests_of_not_calls keychain host calls]
  | true =>
    cases judged : keychain.judgedBy action with
    | none =>
      rw [act_of_not_judged host calls judged, requests_of_calls keychain host calls, judged]
      rfl
    | some pair =>
      obtain ⟨hash, stored, after⟩ := act_of_judged storable host judged
      rw [after, requests_of_judged host judged]
      exact cache_judge stored

/-- Forgetting uses nothing. -/
theorem used_forgets? (keychain : Keychain) (host : Host) (action : Action) :
    keychain.cache.used (keychain.forgets? host action).toList = [] := by
  cases forgotten : keychain.forgets? host action with
  | none => rfl
  | some request => rcases forgets?_eq_some forgotten with ⟨id, rfl, -⟩ | ⟨rfl, -⟩ <;> rfl

/-- What an action uses is the key of the pair that is judged. -/
theorem used_requests (storable : keychain.entries.Storable) (host : Host) (action : Action) :
    keychain.cache.used (keychain.requests host action) =
      (keychain.judgedBy action).toList.map keyOf := by
  cases judged : keychain.judgedBy action with
  | none => simpa [requests, judged] using keychain.used_forgets? host action
  | some pair =>
    obtain ⟨hash, stored, -⟩ := act_of_judged storable host judged
    rw [requests_of_judged host judged]
    exact used_consults stored

theorem history_append (keychain : Keychain) (run more : List Occasion) :
    keychain.history (run ++ more) = keychain.history run ++ (keychain.through run).history more := by
  induction run generalizing keychain with
  | nil => rfl
  | cons occasion run ih =>
    obtain ⟨host, action⟩ := occasion
    rw [List.cons_append, history, history, ih, List.append_assoc]
    rfl

/-- After a run the cache is what its history has made of it. -/
theorem Sound.cache_through (sound : Sound messages keychain) (run : List Occasion) :
    (keychain.through run).cache = keychain.cache.through (keychain.history run) := by
  induction run generalizing messages keychain with
  | nil => rfl
  | cons occasion run ih =>
    obtain ⟨host, action⟩ := occasion
    rw [history, VerdictCache.through_append, ← cache_act sound.storable]
    exact ih (sound.act host action)

/-- What a run uses are the keys of the pairs that are judged, one after another. -/
theorem Sound.used_history (sound : Sound messages keychain) (run : List Occasion) :
    keychain.cache.used (keychain.history run) = (keychain.judged run).map keyOf := by
  induction run generalizing messages keychain with
  | nil => rfl
  | cons occasion run ih =>
    obtain ⟨host, action⟩ := occasion
    rw [history, VerdictCache.used_append, used_requests sound.storable, ← cache_act sound.storable,
      ih (sound.act host action), judged, List.map_append]

/-- A pair is looked up, and what is put is a verdict on it. -/
theorem eq_of_mem_consults {request : Request Text Bool} (member : request ∈ keychain.consults pair) :
    request = .get (keyOf pair) ∨ ∃ allowed, request = .put (keyOf pair) pair.1 allowed := by
  rcases List.mem_cons.mp member with rfl | member
  · exact .inl rfl
  · split at member
    · cases member
    · split at member
      · exact .inr ⟨_, List.mem_singleton.mp member⟩
      · cases member

/-- What is put is about a pair that is judged. -/
theorem exists_of_put_mem_requests {host : Host} {action : Action} {key : Bytes} {id : Text}
    {allowed : Bool} (member : .put key id allowed ∈ keychain.requests host action) :
    ∃ pair, keychain.judgedBy action = some pair ∧ key = keyOf pair ∧ id = pair.1 := by
  rcases List.mem_append.mp member with forgotten | consulted
  · rcases forgets?_eq_some (Option.mem_toList.mp forgotten) with ⟨_, equal, -⟩ | ⟨equal, -⟩ <;>
      cases equal
  · obtain ⟨pair, judged, consulted⟩ := List.mem_flatMap.mp consulted
    rcases eq_of_mem_consults consulted with equal | ⟨_, equal⟩
    · cases equal
    · cases equal
      exact ⟨pair, Option.mem_toList.mp judged, rfl, rfl⟩

theorem exists_of_put_mem_history {run : List Occasion} {key : Bytes} {id : Text} {allowed : Bool}
    (member : .put key id allowed ∈ keychain.history run) :
    ∃ pair ∈ keychain.judged run, key = keyOf pair ∧ id = pair.1 := by
  induction run generalizing keychain with
  | nil => cases member
  | cons occasion run ih =>
    obtain ⟨host, action⟩ := occasion
    rcases List.mem_append.mp member with first | later
    · obtain ⟨pair, judged, about⟩ := exists_of_put_mem_requests first
      exact ⟨pair, List.mem_append_left _ (Option.mem_toList.mpr judged), about⟩
    · obtain ⟨pair, judged, about⟩ := ih later
      exact ⟨pair, List.mem_append_right _ judged, about⟩

/-- A keychain begins with a cache that nothing was asked of. -/
theorem IsInitial.cache_eq {start : Keychain} (initial : start.IsInitial) :
    ∃ size, start.cache = .empty size := by
  cases initial with
  | created name size storable => exact ⟨_, rfl⟩
  | loaded read =>
    rw [run_load] at read
    split at read
    · cases read
    · rename_i entries _ _
      cases read
      cases entries <;> exact ⟨_, rfl⟩

/-- After a run the cache recalls what its history tells, and what was used are the keys of the pairs
that were judged. -/
theorem IsInitial.recalls_through {start : Keychain} (initial : start.IsInitial)
    (run : List Occasion) :
    (start.through run).cache.Recalls (start.history run) ((start.judged run).map keyOf) := by
  obtain ⟨size, empty⟩ := initial.cache_eq
  rw [initial.sound.cache_through, ← initial.sound.used_history, empty]
  exact VerdictCache.recalls_through size (start.history run)

end Keychain

end Keyring
