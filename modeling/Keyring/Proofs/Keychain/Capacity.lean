import Keyring.Proofs.Entries.Grammar
import Keyring.Proofs.KeychainFile.Reliable

/-!
# How many verdicts a loaded keychain has room for

Entries come to be a keychain in two ways: they are loaded from a file, or given as they are. Both
ways the keychain has room for one verdict on each entry, and for eight at least. They differ where
there is no entry: given as they are, no entries have room for 128 verdicts, and so has a file that is
missing, but a file that is there and has no entry (`parse_eq_ok_nil_iff`) has room for eight only.
-/

namespace Keyring.Keychain

open KeychainFile (entriesOf)
open Text (lit)

variable {name : Text} {entries : Entries} {host : Host} {content? : Option Bytes}

/-- With no size wanted there is room for the entries, or for 128 verdicts if there are none. -/
theorem capacity_create (name : Text) (entries : Entries) :
    (create name entries none).cache.capacity =
      if entries = [] then 128 else max 8 entries.length := by
  cases entries with
  | nil => rfl
  | cons entry others =>
    have room : ((max ((others.length + 1 : Nat) : Int) 8).toNat : Nat) = max 8 (others.length + 1) := by
      omega
    simpa [create, VerdictCache.empty, VerdictCache.minCapacity] using room

/-- A file that is there has room for its entries, and a missing one for 128 verdicts. -/
theorem capacity_ofFile (name : Text) (found : Option Entries) :
    (ofFile name found).cache.capacity = found.elim 128 fun entries => max 8 entries.length := by
  cases found with
  | none => rfl
  | some entries =>
    have room : ((max (entries.length : Int) 8).toNat : Nat) = max 8 entries.length := by
      omega
    simpa [ofFile, create, VerdictCache.empty, VerdictCache.minCapacity] using room

/-- A file makes the keychain that its entries make, unless it is there without any. -/
theorem ofFile_eq_create_iff {found : Option Entries} (given : found.getD [] = entries) :
    ofFile name found = create name entries none ↔ (entries = [] → found = none) := by
  cases found with
  | none =>
    obtain rfl : [] = entries := given
    exact iff_of_true rfl fun _ => rfl
  | some found =>
    obtain rfl : found = entries := given
    cases found with
    | nil =>
      refine iff_of_false (fun same => ?_) (by simp)
      have room := congrArg (fun keychain => keychain.cache.capacity) same
      rw [capacity_ofFile, capacity_create] at room
      exact absurd room (by decide)
    | cons entry others => exact iff_of_true rfl nofun

/-- What a path leads to is loaded as the entries that it is read as are made a keychain, with the
same entries and room for as many verdicts, unless it is a file of newlines alone. The keychain of
such a file has room for eight verdicts where the keychain of no entries has room for 128. -/
theorem loads_as_created (proper : Path.fault? name = none) (reads : host.Reads name)
    (finds : host.tree.Finds host.current name content?)
    (valid : entriesOf content? = .ok entries) :
    ∃ keychain, ((load name).run host).1 = .ok keychain ∧
      keychain.entries = entries ∧ (create name entries none).entries = entries ∧
      keychain.cache.capacity = content?.elim 128 (fun _ => max 8 entries.length) ∧
      (create name entries none).cache.capacity =
        (if entries = [] then 128 else max 8 entries.length) ∧
      (keychain = create name entries none ↔ (entries = [] → content? = none)) ∧
      ∀ content, content? = some content →
        (entries = [] ↔ ∀ octet ∈ content, octet = Entries.newline) := by
  have loaded := (fst_load_of_reads reads).trans (fst_load_calmed proper finds valid)
  have given : (content?.map fun _ => entries).getD [] = entries := by
    cases content? with
    | none => exact Except.ok.inj valid
    | some content => rfl
  refine ⟨_, loaded, entries_ofFile_map valid, rfl, ?_, capacity_create name entries, ?_, ?_⟩
  · rw [capacity_ofFile, Option.elim_map]
    rfl
  · rw [ofFile_eq_create_iff given, Option.map_eq_none_iff]
  · rintro content rfl
    rw [← Entries.parse_eq_ok_nil_iff]
    have read : Entries.parse content = .ok entries := valid
    rw [read, Except.ok.injEq]

/-- A file with two entries and an empty line between them. -/
theorem loads_as_created_two :
    let content : Bytes := [97, 58, 104, 10, 10, 98, 58, 103]
    let entries : Entries :=
      [(.ofText (lit "a"), .ofBytes [104]), (.ofText (lit "b"), .ofBytes [103])]
    let host := Host.calm (.ofFile [107] content)
    Path.fault? (lit "k") = none ∧ host.Reads (lit "k") ∧
      host.tree.Finds host.current (lit "k") (some content) ∧
      entriesOf (some content) = .ok entries ∧
      ((load (lit "k")).run host).1 = .ok (create (lit "k") entries none) ∧
      (create (lit "k") entries none).cache.capacity = 8 := by
  intro content entries host
  have proper : Path.fault? (lit "k") = none := by decide
  have reads : host.Reads (lit "k") := fun _ => rfl
  have finds : host.tree.Finds host.current (lit "k") (some content) := by
    show host.tree.read host.current (lit "k") = .ok content
    decide +kernel
  have valid : entriesOf (some content) = .ok entries := by decide +kernel
  obtain ⟨keychain, loaded, -, -, -, room, same, -⟩ := loads_as_created proper reads finds valid
  refine ⟨proper, reads, finds, valid, ?_, room⟩
  rw [loaded, same.mpr nofun]

/-- An empty file is there and has no entry, and the keychain of no entries has more room. -/
theorem loads_as_created_not_empty :
    Entries.parse [] = .ok [] ∧
      ((load (lit "k")).run (.calm (.ofFile [107] []))).1 = .ok (ofFile (lit "k") (some [])) ∧
      (ofFile (lit "k") (some [])).cache.capacity = 8 ∧
      (create (lit "k") [] none).cache.capacity = 128 := by
  decide +kernel

end Keyring.Keychain
