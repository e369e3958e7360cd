import Keyring.Credential
import Keyring.Proofs.Entries.Storable
import Keyring.Proofs.Secret.Outcome

/-!
# Fresh credentials

A text that is drawn has as many characters as were wanted, all from the alphabet, however many bytes
had to be passed over (`Draw.text_eq_ok`). So a credential is fit for use, whatever the entropy was
(`Credential.create_eq_ok`): its id and its hash make an entry that a file keeps, and its secret is
the one that the hash was made from.
-/

namespace Keyring

namespace Draw

variable {α : Type} {alphabet drawn list : List α} {source : Source}

/-- Bytes choose characters of the alphabet alone. -/
theorem mem_of_mem_characters {bytes : Bytes} {character : α}
    (member : character ∈ characters alphabet bytes) : character ∈ alphabet := by
  obtain ⟨byte, -, chosen⟩ := List.mem_filterMap.mp member
  exact List.mem_of_getElem? chosen

/-- When enough is drawn it is as much as was wanted, and each batch has added characters of the
alphabet. -/
theorem fill_eq_ok {size wanted remaining : Nat} {asked : List Nat}
    {answer : List Nat → Nat → Except Text Bytes}
    (filled : (fill alphabet size wanted answer remaining asked drawn).1 = .ok list)
    (each : ∀ character ∈ drawn, character ∈ alphabet) :
    list.length = wanted ∧ ∀ character ∈ list, character ∈ alphabet := by
  induction remaining generalizing asked drawn with
  | zero => cases filled
  | succ remaining ih =>
    rw [fill] at filled
    dsimp only at filled
    split at filled
    · cases filled
    · rename_i bytes _
      split at filled
      · cases filled
      · have more : ∀ character ∈ drawn ++ characters alphabet bytes, character ∈ alphabet :=
          fun character member =>
            (List.mem_append.mp member).elim (each character) mem_of_mem_characters
        split at filled
        · rename_i enough
          cases filled
          refine ⟨List.length_take_of_le enough, fun character member => ?_⟩
          exact more character (List.mem_of_mem_take member)
        · exact ih filled more

/-- A text that is drawn is as long as was wanted, and has characters of the alphabet. -/
theorem text_eq_ok {alphabet text : Text} {length : Int}
    (drawn : (Draw.text alphabet length source).1 = .ok text) :
    text.length = length.toNat ∧ ∀ point ∈ text, point ∈ alphabet := by
  unfold Draw.text sequence firstOf at drawn
  split at drawn
  · cases drawn
  · split at drawn
    · rename_i nothing
      cases drawn
      exact ⟨by simp [Int.toNat_of_nonpos nothing], by simp⟩
    · dsimp only at drawn
      split at drawn
      · rename_i filled
        cases drawn
        simpa using fill_eq_ok filled (by simp)
      · cases drawn

/-- From an alphabet of a fit size nothing fails to be drawn but by the source. -/
theorem text_eq_error {alphabet : Text} {length : Int} {failure : Failure}
    (fit : alphabet ≠ [] ∧ alphabet.length ≤ 256)
    (failed : (Draw.text alphabet length source).1 = .error failure) :
    ∃ fault, failure = .generation fault := by
  unfold Draw.text sequence firstOf at failed
  rw [if_neg (by simp [fit.1, fit.2])] at failed
  split at failed
  · cases failed
  · dsimp only at failed
    split at failed
    · cases failed
    · cases failed
      exact ⟨_, rfl⟩

end Draw

/-- A credential that can be used: whoever has an id and a secret like this is let in where the hash
is stored, and a file keeps the two. -/
structure Credential.IsFit (credential : Credential) : Prop where
  acceptable : Entries.isAcceptable credential.id credential.hash = true
  encodable : Utf8.isEncodable credential.secret = true
  right : Secret.matchesHash (Utf8.octets credential.secret) credential.hash = true

namespace Credential

variable {source : Source} {salts : Salts} {credential : Credential}

/-- No character of an id is reserved or a surrogate. -/
theorem isStorableId_of_idAlphabet {id : Text} (drawn : ∀ point ∈ id, point ∈ idAlphabet) :
    Entries.isStorableId id = true := by
  have each : idAlphabet.all (fun point => Entries.isStorableId [point]) = true := by
    decide +kernel
  have plain (point : CodePoint) (member : point ∈ id) :=
    Entries.isStorableId_iff.mp (List.all_eq_true.mp each point (drawn point member))
  refine Entries.isStorableId_iff.mpr ⟨⟨?_, ?_, ?_⟩, List.all_eq_true.mpr fun point member => ?_⟩
  · exact fun colon => (plain _ colon).1.1 (List.mem_singleton_self _)
  · exact fun newline => (plain _ newline).1.2.1 (List.mem_singleton_self _)
  · exact fun zero => (plain _ zero).1.2.2 (List.mem_singleton_self _)
  · exact List.all_eq_true.mp (plain point member).2 point (List.mem_singleton_self _)

/-- A new credential can be used. -/
theorem create_eq_ok (created : (create source salts).1 = .ok credential) : credential.IsFit := by
  unfold create at created
  split at created
  · cases created
  · rename_i id _ drawnId
    split at created
    · cases created
    · rename_i secret _ drawnSecret
      split at created
      · cases created
      · rename_i hash _ hashed
        cases created
        obtain ⟨long, letters⟩ := Draw.text_eq_ok (congrArg Prod.fst drawnId)
        obtain ⟨password, encoded, right, filled, single⟩ :=
          Secret.hash_eq_ok (congrArg Prod.fst hashed)
        have named : id ≠ [] := fun none => absurd long (by rw [none]; decide)
        obtain ⟨encodable, rfl⟩ := Secret.octets_ofText_eq_ok encoded
        exact ⟨Entries.isAcceptable_iff.mpr
          ⟨named, isStorableId_of_idAlphabet letters, filled, single⟩, encodable, right⟩

/-- A credential comes about if both texts can be drawn and there is a salt. -/
theorem create_of_drawn {id secret : Text} {password : Bytes}
    (drawnId : (Draw.text idAlphabet idLength source).1 = .ok id)
    (drawnSecret : (Draw.text secretAlphabet secretLength
      (Draw.text idAlphabet idLength source).2).1 = .ok secret)
    (encoded : Secret.octets (.ofText secret) = .ok password)
    (short : password.length ≤ Secret.maxLength)
    (salted : Bcrypt.salt? salts.next.1 = some salts.next.1) :
    (create source salts).1 = .ok ⟨id, secret,
      Bcrypt.hashWith ⟨Bcrypt.currentVersion, Secret.defaultCost.toNat, salts.next.1⟩ password⟩ := by
  have hashed := Secret.hash_of_salt encoded short (by decide : 4 ≤ Secret.defaultCost) (by decide)
    salted
  unfold create
  generalize Draw.text idAlphabet idLength source = first at drawnId drawnSecret ⊢
  obtain ⟨_, between⟩ := first
  cases drawnId
  dsimp only at drawnSecret ⊢
  generalize Draw.text secretAlphabet secretLength between = second at drawnSecret ⊢
  obtain ⟨_, after⟩ := second
  cases drawnSecret
  dsimp only
  generalize Secret.hash (.ofText secret) Secret.defaultCost salts = third at hashed ⊢
  obtain ⟨_, rest⟩ := third
  cases hashed
  rfl

/-- A credential that does not come about fails by the source or by hashing. -/
theorem create_eq_error {failure : Failure} (failed : (create source salts).1 = .error failure) :
    (∃ fault, failure = .generation fault) ∨ ∃ fault, failure = .hashing fault := by
  have letters : secretAlphabet.all (fun point => !point.isSurrogate) = true := by decide
  unfold create at failed
  split at failed
  · rename_i drawn
    cases failed
    exact .inl (Draw.text_eq_error (by decide) (congrArg Prod.fst drawn))
  · split at failed
    · rename_i drawn
      cases failed
      exact .inl (Draw.text_eq_error (by decide) (congrArg Prod.fst drawn))
    · rename_i secret _ drawn
      split at failed
      · rename_i hashed
        cases failed
        have encodable : Utf8.isEncodable secret = true :=
          List.all_eq_true.mpr fun point member => List.all_eq_true.mp letters point
            ((Draw.text_eq_ok (congrArg Prod.fst drawn)).2 point member)
        exact .inr (Secret.hash_eq_error encodable (by decide) (congrArg Prod.fst hashed))
      · cases failed

end Credential

end Keyring
