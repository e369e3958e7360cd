import Keyring.Host.State
import Keyring.Proofs.Host.Changes

/-!
# Calm surroundings

A host on which no call fails by itself: whatever fails there fails because of the tree. Its marks
are numbers, which are parts of names.
-/

namespace Keyring

/-- The tree with one file in its root. -/
def Tree.ofFile (name : Name) (content : Bytes) : Tree :=
  Tree.empty.set [name] (.file 0 0o644 content)

/-- The root is there to hold the file. -/
theorem Tree.WellFormed.ofFile (name : Name) (content : Bytes) :
    (Tree.ofFile name content).WellFormed := by
  have grows : Tree.empty.Grows (Tree.empty.set ([] ++ [name]) (.file 0 0o644 content)) :=
    WellFormed.empty.grows_set _ (isDirectory_nil _) (by simp [IsDirectory, node?, Tree.empty])
  exact grows.wellFormed

/-- A number is written with digits. -/
theorem Text.mem_ofNat {value : Nat} {point : CodePoint} (member : point ∈ Text.ofNat value) :
    ∃ digit < 10, point = CodePoint.ofNat (48 + digit) := by
  induction value using Text.ofNat.induct with
  | case1 value small =>
    rw [Text.ofNat, if_pos small, List.mem_singleton] at member
    exact ⟨value, small, member⟩
  | case2 value large ih =>
    rw [Text.ofNat, if_neg large, List.mem_append, List.mem_singleton] at member
    rcases member with member | last
    · exact ih member
    · exact ⟨value % 10, Nat.mod_lt _ (by decide), last⟩

/-- The digits of a number are no separators. -/
theorem Text.separator_notMem_ofNat (value : Nat) : Path.separator ∉ Text.ofNat value := by
  have digit : ∀ digit < 10, Path.separator ≠ CodePoint.ofNat (48 + digit) := by decide
  intro member
  obtain ⟨number, small, same⟩ := Text.mem_ofNat member
  exact digit number small same

namespace Host

/-- A host with a tree, whose current directory is the root, and on which no call is made to fail.
The marks of temporary files are numbers. It has no entropy, and nobody answers. -/
def calm (tree : Tree) : Host where
  tree := tree
  current := []
  faults := fun _ _ => none
  performed := 0
  marks := Text.ofNat
  marksUsed := 0
  environment := fun _ => none
  moment := ⟨[], []⟩
  source := .ofReads 0 []
  salts := ⟨[], []⟩
  answers := []
  output := []
  errors := []
  prompts := []

/-- The same host, but no call is made to fail from now on. -/
def calmed (host : Host) : Host :=
  { host with faults := fun _ _ => none }

/-- A calm host, but for a disk that never takes anything. -/
def unsynced (tree : Tree) : Host :=
  { calm tree with
    faults := fun _ call =>
      match call with
      | .sync _ => some ⟨5, Text.lit "Input/output error", []⟩
      | _ => none }

end Host

end Keyring
