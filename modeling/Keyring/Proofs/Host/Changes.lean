import Keyring.Proofs.Host.Tree

/-!
# Calls that change a tree

What each change of a tree comes to if it succeeds: where it happens, what was there before, and
what is there afterwards. None of them takes a directory away or puts anything where no directory
is (`Grows`).
-/

namespace Keyring

namespace Tree

variable {tree after : Tree} {current : Place} {path : Text}

/-! ## Looking -/

/-- A path that leads to a file ends at its name, without a slash. -/
theorem lookup_eq_file {place : Place} {number mode : Nat} {content : Bytes} :
    tree.lookup current path = .ok (place, .file number mode content) ↔
      ∃ parent name, tree.locate current path = .ok (.named parent name false) ∧
        place = parent ++ [name] ∧ tree.node? place = some (.file number mode content) := by
  unfold lookup
  constructor
  · intro found
    split at found
    · cases found
    · cases found
    · rename_i parent name slash located
      split at found
      · cases found
      · cases found
      · rename_i there
        split at found
        · cases found
        · rename_i ended
          cases found
          exact ⟨parent, name, by simpa [ended] using located, rfl, there⟩
  · rintro ⟨parent, name, located, rfl, there⟩
    simp [located, there]

/-- The content of a file is read where the path leads to it. -/
theorem read_eq_ok {content : Bytes} :
    tree.read current path = .ok content ↔
      ∃ place number mode, tree.lookup current path = .ok (place, .file number mode content) := by
  unfold read
  constructor
  · intro found
    split at found
    · cases found
    · cases found
    · rename_i place number mode old there
      cases found
      exact ⟨place, number, mode, there⟩
  · rintro ⟨place, number, mode, there⟩
    rw [there]

/-! ## Changing -/

/-- A directory is made where nothing was. -/
theorem makeDirectory_ok (made : tree.makeDirectory current path = .ok after) :
    ∃ parent name slash, tree.locate current path = .ok (.named parent name slash) ∧
      tree.node? (parent ++ [name]) = none ∧
      after = tree.set (parent ++ [name]) (.directory 0o755) := by
  unfold makeDirectory at made
  split at made
  · cases made
  · cases made
  · rename_i parent name slash located
    split at made
    · cases made
    · rename_i free
      cases made
      exact ⟨parent, name, slash, located, Option.not_isSome_iff_eq_none.mp free, rfl⟩

/-- A file is made where nothing was, and is empty. -/
theorem createFile_ok {mode : Nat} (made : tree.createFile current path mode = .ok after) :
    ∃ parent name, tree.locate current path = .ok (.named parent name false) ∧
      tree.node? (parent ++ [name]) = none ∧
      after = { tree.set (parent ++ [name]) (.file tree.nextNumber mode []) with
        nextNumber := tree.nextNumber + 1 } := by
  unfold createFile at made
  split at made
  · cases made
  · cases made
  · rename_i parent name slash located
    split at made
    · cases made
    · rename_i free
      split at made
      · cases made
      · rename_i ended
        cases made
        exact ⟨parent, name, by simpa [ended] using located,
          Option.not_isSome_iff_eq_none.mp free, rfl⟩

/-- A file that is filled stays what it was but for its content. -/
theorem fill_ok {content : Bytes} (filled : tree.fill current path content = .ok after) :
    ∃ place number mode old, tree.lookup current path = .ok (place, .file number mode old) ∧
      after = tree.set place (.file number mode content) := by
  unfold fill at filled
  split at filled
  · cases filled
  · cases filled
  · rename_i place number mode old found
    cases filled
    exact ⟨place, number, mode, old, found, rfl⟩

/-- A file that is removed was there. -/
theorem unlink_ok (removed : tree.unlink current path = .ok after) :
    ∃ place number mode content, tree.lookup current path = .ok (place, .file number mode content) ∧
      after = tree.erase place := by
  unfold unlink at removed
  split at removed
  · cases removed
  · cases removed
  · rename_i place number mode content found
    cases removed
    exact ⟨place, number, mode, content, found, rfl⟩

/-- A file is moved to a name in a directory at which no other directory is. -/
theorem replace_ok {target : Text} (moved : tree.replace current path target = .ok after) :
    ∃ place number mode content parent name,
      tree.lookup current path = .ok (place, .file number mode content) ∧
      tree.locate current target = .ok (.named parent name false) ∧
      ¬ tree.IsDirectory (parent ++ [name]) ∧
      after = (tree.erase place).set (parent ++ [name]) (.file number mode content) := by
  unfold replace at moved
  split at moved
  · cases moved
  · cases moved
  · rename_i place number mode content found
    split at moved
    · cases moved
    · cases moved
    · rename_i parent name slash located
      split at moved
      · cases moved
      · rename_i ended
        split at moved
        · cases moved
        · rename_i free
          cases moved
          refine ⟨place, number, mode, content, parent, name, found, by simpa [ended] using located,
            ?_, rfl⟩
          rintro ⟨_, there⟩
          exact free _ there

/-- Other permissions change nothing else. -/
theorem setMode_ok {mode : Nat} (changed : tree.setMode current path mode = .ok after) :
    (∃ place number old content, tree.lookup current path = .ok (place, .file number old content) ∧
        after = tree.set place (.file number mode content)) ∨
      (∃ place old, tree.lookup current path = .ok (place, .directory old) ∧
        (after = tree.set place (.directory mode) ∨ after = tree)) := by
  unfold setMode at changed
  split at changed
  · cases changed
  · rename_i place number old content found
    cases changed
    exact .inl ⟨place, number, old, content, found, rfl⟩
  · rename_i place old found
    cases changed
    refine .inr ⟨place, old, found, ?_⟩
    split
    · exact .inl rfl
    · exact .inr rfl

/-- A log that is opened is there, or is a new file. -/
theorem openFile_ok {number : Nat} (opened : tree.openFile current path = .ok (number, after)) :
    after = tree ∨ tree.createFile current path 0o644 = .ok after := by
  unfold openFile at opened
  split at opened
  · cases opened
    exact .inl rfl
  · cases opened
  · cases made : tree.createFile current path 0o644 with
    | error trouble => simp [made, Except.map] at opened
    | ok tree =>
      rw [made] at opened
      cases opened
      exact .inr rfl
  · cases opened

/-! ## What all changes have in common -/

/-- No directory is lost, and whatever is there still lies in a directory. -/
structure Grows (tree after : Tree) : Prop where
  keeps : tree.Keeps after
  wellFormed : after.WellFormed

namespace WellFormed

/-- A tree that stays as it is grows by nothing. -/
theorem grows_refl (wellFormed : tree.WellFormed) : tree.Grows tree :=
  ⟨.refl tree, wellFormed⟩

/-- Something other than a directory is put into a directory. -/
theorem grows_set (wellFormed : tree.WellFormed) {parent : Place} {name : Name} (node : Node)
    (inside : tree.IsDirectory parent) (free : ¬ tree.IsDirectory (parent ++ [name])) :
    tree.Grows (tree.set (parent ++ [name]) node) := by
  have keeps := Keeps.set node (by simp) free
  exact ⟨keeps, wellFormed.set (by simp) (by simpa using inside) keeps⟩

/-- A file is in a directory, and is none. -/
theorem inside_of_lookup (wellFormed : tree.WellFormed) (start : tree.IsDirectory current)
    {place : Place} {number mode : Nat} {content : Bytes}
    (found : tree.lookup current path = .ok (place, .file number mode content)) :
    ∃ parent name, place = parent ++ [name] ∧ tree.IsDirectory parent ∧
      ¬ tree.IsDirectory place := by
  obtain ⟨parent, name, located, rfl, there⟩ := lookup_eq_file.mp found
  exact ⟨parent, name, rfl, wellFormed.isDirectory_of_named start located, by simp [IsDirectory, there]⟩

theorem grows_makeDirectory (wellFormed : tree.WellFormed) (start : tree.IsDirectory current)
    (made : tree.makeDirectory current path = .ok after) : tree.Grows after := by
  obtain ⟨parent, name, slash, located, free, rfl⟩ := makeDirectory_ok made
  exact wellFormed.grows_set _ (wellFormed.isDirectory_of_named start located)
    (by simp [IsDirectory, free])

theorem grows_createFile (wellFormed : tree.WellFormed) (start : tree.IsDirectory current)
    {mode : Nat} (made : tree.createFile current path mode = .ok after) : tree.Grows after := by
  obtain ⟨parent, name, located, free, rfl⟩ := createFile_ok made
  have noDirectory : ¬ tree.IsDirectory (parent ++ [name]) := by simp [IsDirectory, free]
  obtain ⟨keeps, formed⟩ := wellFormed.grows_set (.file tree.nextNumber mode [])
    (wellFormed.isDirectory_of_named start located) noDirectory
  exact ⟨keeps, formed⟩

theorem grows_openFile (wellFormed : tree.WellFormed) (start : tree.IsDirectory current)
    {number : Nat} (opened : tree.openFile current path = .ok (number, after)) :
    tree.Grows after := by
  rcases openFile_ok opened with rfl | made
  · exact wellFormed.grows_refl
  · exact wellFormed.grows_createFile start made

theorem grows_fill (wellFormed : tree.WellFormed) (start : tree.IsDirectory current)
    {content : Bytes} (filled : tree.fill current path content = .ok after) : tree.Grows after := by
  obtain ⟨place, number, mode, old, found, rfl⟩ := fill_ok filled
  obtain ⟨parent, name, rfl, inside, free⟩ := wellFormed.inside_of_lookup start found
  exact wellFormed.grows_set _ inside free

theorem grows_unlink (wellFormed : tree.WellFormed) (start : tree.IsDirectory current)
    (removed : tree.unlink current path = .ok after) : tree.Grows after := by
  obtain ⟨place, number, mode, content, found, rfl⟩ := unlink_ok removed
  obtain ⟨parent, name, rfl, inside, free⟩ := wellFormed.inside_of_lookup start found
  exact ⟨.erase (by simp) free, wellFormed.erase (by simp) free⟩

theorem grows_replace (wellFormed : tree.WellFormed) (start : tree.IsDirectory current)
    {target : Text} (moved : tree.replace current path target = .ok after) : tree.Grows after := by
  obtain ⟨place, number, mode, content, parent, name, found, located, free, rfl⟩ := replace_ok moved
  obtain ⟨above, last, rfl, inside, noDirectory⟩ := wellFormed.inside_of_lookup start found
  have erased := Keeps.erase (by simp) noDirectory
  have formed := wellFormed.erase (by simp) noDirectory
  have free' : ¬ (tree.erase (above ++ [last])).IsDirectory (parent ++ [name]) := by
    rintro ⟨_, there⟩
    rw [node?_erase _ _ (by simp)] at there
    split at there
    · cases there
    · exact free ⟨_, there⟩
  obtain ⟨keeps, wellFormed'⟩ := formed.grows_set (.file number mode content)
    (erased _ (wellFormed.isDirectory_of_named start located)) free'
  exact ⟨erased.trans keeps, wellFormed'⟩

/-- A path that ends in a directory on the way ends in a directory. -/
theorem isDirectory_of_reached (wellFormed : tree.WellFormed) (start : tree.IsDirectory current)
    {place : Place} (located : tree.locate current path = .ok (.reached place)) :
    tree.IsDirectory place :=
  wellFormed.isDirectory_of_walk (isDirectory_startOf start path) (walk_of_reached located)

/-- What is found to be a directory is one. -/
theorem isDirectory_of_lookup (wellFormed : tree.WellFormed) (start : tree.IsDirectory current)
    {place : Place} {mode : Nat} (found : tree.lookup current path = .ok (place, .directory mode)) :
    tree.IsDirectory place := by
  unfold lookup at found
  split at found
  · cases found
  · rename_i reached located
    cases found
    exact wellFormed.isDirectory_of_reached start located
  · split at found
    · cases found
    · rename_i there
      cases found
      exact ⟨_, there⟩
    · split at found <;> cases found

theorem grows_setMode (wellFormed : tree.WellFormed) (start : tree.IsDirectory current)
    {mode : Nat} (changed : tree.setMode current path mode = .ok after) : tree.Grows after := by
  rcases setMode_ok changed with ⟨place, number, old, content, found, rfl⟩ | ⟨place, old, found, same⟩
  · obtain ⟨parent, name, rfl, inside, free⟩ := wellFormed.inside_of_lookup start found
    exact wellFormed.grows_set _ inside free
  · rcases same with rfl | rfl
    · have keeps := Keeps.set_directory tree place mode
      by_cases root : place = []
      · subst root
        refine ⟨keeps, fun other there => keeps _ (wellFormed other ?_)⟩
        rwa [node?_set_nil] at there
      · obtain ⟨_, there⟩ := wellFormed.isDirectory_of_lookup start found
        exact ⟨keeps, wellFormed.set root (wellFormed place (by simp [there])) keeps⟩
    · exact wellFormed.grows_refl

/-- Appending changes the content of files alone. -/
theorem grows_append (wellFormed : tree.WellFormed) (number : Nat) (bytes : Bytes) :
    tree.Grows (tree.append number bytes) := by
  have keeps : tree.Keeps (tree.append number bytes) := by
    rintro place ⟨mode, there⟩
    exact ⟨mode, by rw [node?_append, there]; rfl⟩
  refine ⟨keeps, fun place there => keeps _ (wellFormed place ?_)⟩
  rw [node?_append] at there
  simpa using there

end WellFormed

end Tree

end Keyring
