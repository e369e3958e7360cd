import Keyring.Proofs.Host.Calm
import Keyring.Proofs.Keychain.Transparency

/-!
# Requests that are answered

A header is well formed or not, and either way there is an answer: a verdict, and the gate's decision
upon it. The one thing that keeps a header from being answered is a token with more than ASCII in it
(`Header.IsReadable`). Such a token is no Base64, but `Header.parse` fails on it where it should find
the header malformed, and whoever parses the header fails with it (`IsInitial.answers_iff`).

No verdict fails once a header is parsed: what is stored are octets, and there is a verdict by any
octets, remembered or worked out (`Sound.verifyText_isOk`).
-/

namespace Keyring

namespace Header

/-- A header names the scheme and presents a token after it. -/
def Presents (header : Option Text) (token : Text) : Prop :=
  ∃ text word rest, header = some text ∧ splitFirst 32 (Text.strip text) = some (word, rest) ∧
    word.map CodePoint.toLowerAscii = scheme ∧ rest ≠ [] ∧ token = Text.strip rest

/-- A token that a header presents is ASCII throughout. -/
def IsReadable (header : Option Text) : Prop :=
  ∀ token, Presents header token → token.all CodePoint.isAscii = true

/-- A token of ASCII is well formed or malformed, and every other one is a failure. -/
theorem parseToken_eq_error_iff {token : Text} {failure : Failure} :
    parseToken token = .error failure ↔
      token.all CodePoint.isAscii = false ∧ failure = .tokenNotAscii := by
  unfold parseToken
  cases ascii : token.all CodePoint.isAscii with
  | false => simp [eq_comm]
  | true =>
    simp only [Bool.not_true, Bool.false_eq_true, if_false]
    split
    · simp
    · split <;> simp

/-- A header that names the scheme is parsed as its token is, and every other one is malformed. -/
theorem parse_eq_error_iff {header : Text} {failure : Failure} :
    parse header = .error failure ↔
      ∃ token, Presents (some header) token ∧ parseToken token = .error failure := by
  constructor
  · intro failed
    unfold parse at failed
    split at failed
    · cases failed
    · rename_i word rest cut
      split at failed
      · cases failed
      · rename_i named
        simp only [decide_not, Bool.or_eq_true, Bool.not_eq_true', decide_eq_false_iff_not,
          List.isEmpty_iff, not_or, not_not] at named
        exact ⟨_, ⟨header, word, rest, rfl, cut, named.1, named.2, rfl⟩, failed⟩
  · rintro ⟨_, ⟨_, word, rest, ⟨⟩, cut, named, filled, rfl⟩, failed⟩
    have proper : ¬ (word.map CodePoint.toLowerAscii ≠ scheme || rest.isEmpty) = true := by
      simp [named, filled]
    unfold parse
    rw [cut]
    dsimp only
    rw [if_neg proper]
    exact failed

/-- Only a token with more than ASCII in it keeps a header from being parsed. -/
theorem parse?_eq_error_iff {header : Option Text} {failure : Failure} :
    parse? header = .error failure ↔ ¬ IsReadable header ∧ failure = .tokenNotAscii := by
  unfold IsReadable
  cases header with
  | none =>
    have silent : ∀ token, ¬ Presents none token := by
      rintro token ⟨_, _, _, absent, -⟩
      cases absent
    simp [parse?, silent]
  | some header =>
    rw [parse?, parse_eq_error_iff]
    simp only [parseToken_eq_error_iff, not_forall, Bool.not_eq_true, ← and_assoc, exists_and_right,
      exists_prop]

/-- A readable header presents an id and a secret, or is malformed. -/
theorem parse?_isOk_iff {header : Option Text} :
    (∃ presented, parse? header = .ok presented) ↔ IsReadable header := by
  cases parsed : parse? header with
  | error failure =>
    have unreadable := (parse?_eq_error_iff.mp parsed).1
    simp [unreadable]
  | ok presented =>
    have readable : IsReadable header := by
      by_contra unreadable
      have failed := parse?_eq_error_iff.mpr ⟨unreadable, rfl⟩
      cases parsed.symm.trans failed
    simp [readable]

end Header

namespace Keychain

namespace Sound

variable {messages : List Bytes} {keychain : Keychain}

/-- Texts are always given a verdict, whatever the digests of the messages are. -/
theorem verifyText_isOk (sound : Sound messages keychain) (id secret : Text) :
    ∃ allowed, (keychain.verifyText id secret).1 = .ok allowed := by
  by_cases judged : Utf8.isEncodable id = true ∧ Utf8.isEncodable secret = true ∧
      ∃ hash, keychain.entries.get? (.ofText id) = some hash
  · obtain ⟨idEncodable, secretEncodable, value, stored⟩ := judged
    obtain ⟨-, hash, -, rfl, -⟩ := sound.storable.get?_eq_some stored
    rw [verifyText_of_stored idEncodable secretEncodable stored, fst_holding]
    cases found : ((keychain.take .read).cache.get
        (Secret.cacheDigest (Utf8.octets id) (Utf8.octets secret))).1 with
    | some allowed => exact ⟨allowed, by rw [judge_of_hit id _ found]⟩
    | none => exact ⟨_, by rw [judge_of_miss id hash found]⟩
  · have unjudged : Utf8.isEncodable id = true → Utf8.isEncodable secret = true →
        keychain.entries.get? (.ofText id) = none := by
      intro idEncodable secretEncodable
      by_contra stored
      exact judged ⟨idEncodable, secretEncodable, Option.ne_none_iff_exists'.mp stored⟩
    rcases verifyText_of_unjudged unjudged with same | same
    all_goals exact ⟨false, by rw [same]⟩

/-- A header that is parsed gets a verdict. -/
theorem allow_isOk_iff (sound : Sound messages keychain) (header : Option Text) :
    (∃ allowed, (keychain.allow header).1 = .ok allowed) ↔
      ∃ presented, Header.parse? header = .ok presented := by
  unfold Keychain.allow
  cases Header.parse? header with
  | error failure => simp
  | ok presented =>
    cases presented with
    | none => simp
    | some pair => simp [sound.verifyText_isOk pair.1 pair.2]

end Sound

/-- After any run a keychain has an answer to exactly the readable headers: they are parsed, there is
a verdict, and there is a decision. A malformed header is denied. -/
theorem IsInitial.answers_iff {start : Keychain} (initial : start.IsInitial) (run : List Occasion)
    (header : Option Text) (realm : Cell) :
    ((∃ presented, Header.parse? header = .ok presented) ↔ Header.IsReadable header) ∧
    ((∃ allowed, ((start.through run).allow header).1 = .ok allowed) ↔
      Header.IsReadable header) ∧
    ((∃ decision, (Gate.decide (start.through run) header realm).1 = .ok decision) ↔
      Header.IsReadable header) ∧
    (Header.parse? header = .ok none →
      ((start.through run).allow header).1 = .ok false ∧
        (Gate.decide (start.through run) header realm).1 = .ok (.refused realm)) := by
  have sound := initial.sound_through run
  have allowed := (sound.allow_isOk_iff header).trans Header.parse?_isOk_iff
  refine ⟨Header.parse?_isOk_iff, allowed, ?_, fun malformed => ?_⟩
  · rw [← allowed, Gate.fst_decide]
    cases ((start.through run).allow header).1 <;> simp [Except.map]
  · have denied : ((start.through run).allow header).1 = .ok false := by
      rw [allow, malformed]
    exact ⟨denied, by rw [Gate.fst_decide, denied]; rfl⟩

/-- Somebody is stored with the hash of a secret, and a header of another scheme, with more than ASCII in
its token, is refused. -/
theorem answers_other_scheme :
    let id := Text.lit "a"
    let salts : Salts := ⟨[], Utf8.octets (Text.lit "abcdefghijklmnopqrstuu")⟩
    let start := create (Text.lit "k") [] none
    let header := some (Text.lit "Bearer é")
    ∃ hash, (Secret.hash (.ofText (Text.lit "s")) 4 salts).1 = .ok hash ∧
      let keychain := start.through [(.calm .empty, .add id (.ofBytes hash))]
      start.IsInitial ∧ keychain.contains id = .ok true ∧ Header.IsReadable header ∧
        (∃ allowed, (keychain.allow header).1 = .ok allowed) ∧
        (Gate.decide keychain header (Text.lit "api")).1 = .ok (.refused (Text.lit "api")) := by
  intro id salts start header
  obtain ⟨hash, hashed, -, kept⟩ :=
    Secret.exists_hash (Text.lit "s") 4 salts (by decide) (by decide) (by decide) (by decide)
  refine ⟨hash, hashed, ?_⟩
  intro keychain
  have initial : start.IsInitial := .created _ none .nil
  have stored : keychain.entries = Named.put (.ofText id) (.ofBytes hash) start.entries :=
    (start.add_of_isAcceptable
      (Entries.isAcceptable_iff.mpr ⟨by decide, by decide, kept⟩)).2
  have parsed : Header.parse? header = .ok none := by decide
  obtain ⟨readable, allowed, -, refused⟩ :=
    initial.answers_iff [(.calm .empty, .add id (.ofBytes hash))] header (Text.lit "api")
  have fine := readable.mp ⟨none, parsed⟩
  refine ⟨initial, ?_, fine, allowed.mpr fine, (refused parsed).2⟩
  exact contains_of_get? (by rw [stored]; rfl)

/-- A token with more than ASCII in it is a failure of whoever is asked about the header, and no
refusal. -/
theorem answers_not_token_beyond_ascii :
    let header := some (Text.lit "Basic é")
    ∃ keychain, ((load (Text.lit "k")).run (.calm .empty)).1 = .ok keychain ∧
      Header.parse? header = .error .tokenNotAscii ∧
      (keychain.allow header).1 = .error .tokenNotAscii ∧
      (Gate.decide keychain header (Text.lit "api")).1 = .error .tokenNotAscii := by
  intro header
  have failed : Header.parse? header = .error .tokenNotAscii := by decide
  have refused : ∀ keychain : Keychain, (keychain.allow header).1 = .error .tokenNotAscii := by
    intro keychain
    rw [allow, failed]
  refine ⟨ofFile (Text.lit "k") none, rfl, failed, refused _, ?_⟩
  rw [Gate.fst_decide, refused]
  rfl

end Keychain

end Keyring
