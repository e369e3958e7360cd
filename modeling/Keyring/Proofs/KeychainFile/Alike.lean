import Keyring.Proofs.Custodian.Notice
import Keyring.Proofs.Entries.RoundTrip
import Keyring.Proofs.Host.Contents
import Keyring.Proofs.KeychainFile.Read

/-!
# Files that differ in their hashes

Two files may have entries for the same ids, in whatever order, and the two hashes of each id may be
related in some way (`KeychainFile.Alike`). On hosts that differ in nothing but such files, keychains
are loaded whose hashes are related in this way, or loading fails in one and the same way
(`Keychain.load_alike`).
-/

namespace Keyring

/-- Entries for the same ids, whose two hashes are related. -/
structure Entries.Related (related : Bytes → Bytes → Prop) (entries others : Entries) : Prop where
  ids : Named.SameNames entries others
  hashes : ∀ {id hash hash'}, entries.get? id = some (.ofBytes hash) →
    others.get? id = some (.ofBytes hash') → related hash hash'

/-- Two files are one, or have such entries. -/
def KeychainFile.Alike (related : Bytes → Bytes → Prop) (content other : Bytes) : Prop :=
  other = content ∨ ∃ entries others, Entries.parse content = .ok entries ∧
    Entries.parse other = .ok others ∧ entries.Related related others

/-- Two keychains are one, or have such entries, which files can keep. -/
inductive Keychain.Alike (related : Bytes → Bytes → Prop) : Keychain → Keychain → Prop
  | refl (keychain : Keychain) : Alike related keychain keychain
  | related {keychain other : Keychain} (storable : keychain.entries.Storable)
      (storable' : other.entries.Storable)
      (entries : keychain.entries.Related related other.entries) : Alike related keychain other

variable {related : Bytes → Bytes → Prop}

namespace Entries

/-- The ids of texts with hashes are the texts. -/
theorem contains_ofPairs_iff {pairs : List (Text × Bytes)} {id : Cell} :
    (ofPairs pairs).contains id = true ↔ ∃ text ∈ pairs.map Prod.fst, id = .ofText text := by
  have missing : (ofPairs pairs).contains id = false ↔ ∀ pair ∈ pairs, id ≠ .ofText pair.1 := by
    rw [Named.contains, Option.isSome_eq_false_iff, Option.isNone_iff_eq_none, Named.get?_eq_none_iff]
    unfold ofPairs
    rw [List.forall_mem_map]
    exact forall₂_congr fun pair _ => by
      rw [Cell.identity_ofText, ne_comm, Ne, Cell.identity_eq_ofText_iff]
  rw [← Bool.not_eq_false, missing]
  simp [eq_comm]

/-- Where lines with one id have hashes that are related, entries have, in whatever order. -/
theorem Related.of_pairs {pairs pairs' : List (Text × Bytes)}
    (ids : (pairs.map Prod.fst).Perm (pairs'.map Prod.fst))
    (each : ∀ pair ∈ pairs, ∀ pair' ∈ pairs', pair.1 = pair'.1 → related pair.2 pair'.2) :
    (ofPairs pairs).Related related (ofPairs pairs') where
  ids id := by
    rw [Bool.eq_iff_iff, contains_ofPairs_iff, contains_ofPairs_iff]
    simp only [ids.mem_iff]
  hashes found found' := by
    have listed {pairs : List (Text × Bytes)} {id : Cell} {hash : Bytes}
        (found : (ofPairs pairs).get? id = some (.ofBytes hash)) :
        ∃ text, id = .ofText text ∧ (text, hash) ∈ pairs := by
      obtain ⟨stored, member, same⟩ := Named.mem_of_get?_eq_some found
      obtain ⟨⟨text, bytes⟩, inside, equal⟩ := List.mem_map.mp member
      cases equal
      exact ⟨text, Cell.identity_eq_ofText_iff.mp same.symm, inside⟩
    obtain ⟨text, rfl, inside⟩ := listed found
    obtain ⟨text', same, inside'⟩ := listed found'
    exact each _ inside _ inside' (Cell.ofText.inj same)

end Entries

namespace KeychainFile

theorem Alike.refl (content : Bytes) : Alike related content content :=
  .inl rfl

/-- What is alike in one way is alike in every wider way. -/
theorem Alike.mono {wider : Bytes → Bytes → Prop} {content other : Bytes}
    (alike : Alike related content other)
    (within : ∀ {hash hash'}, related hash hash' → wider hash hash') : Alike wider content other :=
  alike.imp id fun ⟨entries, others, read, read', entriesRelated⟩ =>
    ⟨entries, others, read, read', entriesRelated.ids, fun found found' =>
      within (entriesRelated.hashes found found')⟩

/-- Files that are written from acceptable entries, no id twice, are alike if the entries are, in
whatever order. -/
theorem Alike.of_pairs {pairs pairs' : List (Text × Bytes)}
    (acceptable : ∀ pair ∈ pairs, Entries.isAcceptable pair.1 pair.2 = true)
    (acceptable' : ∀ pair ∈ pairs', Entries.isAcceptable pair.1 pair.2 = true)
    (once : (pairs.map Prod.fst).Nodup) (ids : (pairs.map Prod.fst).Perm (pairs'.map Prod.fst))
    (each : ∀ pair ∈ pairs, ∀ pair' ∈ pairs', pair.1 = pair'.1 → related pair.2 pair'.2) :
    Alike related (Entries.file pairs) (Entries.file pairs') :=
  .inr ⟨_, _, Entries.parse_file acceptable once,
    Entries.parse_file acceptable' (ids.nodup_iff.mp once), .of_pairs ids each⟩

end KeychainFile

variable {host other : Host}

/-- A file is read the same, or as contents that both have entries. -/
theorem Host.Alike.answer_readFile_cases (alike : host.Alike (KeychainFile.Alike related) other)
    (path : Text) :
    (other.answer (.readFile path)).1 = (host.answer (.readFile path)).1 ∨
      ∃ content content' entries others, (host.answer (.readFile path)).1 = .ok content ∧
        (other.answer (.readFile path)).1 = .ok content' ∧ Entries.parse content = .ok entries ∧
        Entries.parse content' = .ok others ∧ entries.Related related others := by
  have replies := (alike.answer_readFile path).1
  generalize (host.answer (.readFile path)).1 = reply at replies ⊢
  generalize (other.answer (.readFile path)).1 = reply' at replies ⊢
  rcases replies with fault | ⟨rfl | ⟨entries, others, read, read', entriesRelated⟩⟩
  · exact .inl rfl
  · exact .inl rfl
  · exact .inr ⟨_, _, entries, others, rfl, rfl, read, read', entriesRelated⟩

namespace Keychain

/-- A keychain has the entries of what is read. -/
theorem fst_load_of_answer {path : Text} {content : Bytes} {entries : Entries}
    (done : (host.answer (.readFile path)).1 = .ok content)
    (read : Entries.parse content = .ok entries) :
    ((load path).run host).1 = .ok (ofFile path (some entries)) := by
  rw [run_load, KeychainFile.run_read, done]
  dsimp only
  rw [Entries.parseFile_eq_ok_iff.mpr read]
  rfl

/-- Of files that are alike keychains are loaded that are alike. -/
theorem load_alike (alike : host.Alike (KeychainFile.Alike related) other) (path : Text) :
    Except.Alike (Keychain.Alike related) ((load path).run host).1 ((load path).run other).1 ∧
      ((load path).run host).2.DiffersInFiles ((load path).run other).2 := by
  constructor
  · rcases alike.answer_readFile_cases path with
      same | ⟨_, _, _, _, done, done', read, read', entriesRelated⟩
    · rw [fst_load_congr same]
      exact .refl .refl _
    · rw [fst_load_of_answer done read, fst_load_of_answer done' read']
      exact .ok (.related (.of_parse read) (.of_parse read') entriesRelated)
  · obtain ⟨tree, -, rfl⟩ := alike
    rw [snd_run_load, snd_run_load]
    exact ⟨tree, rfl⟩

end Keychain

end Keyring
