import Mathlib.Data.List.Basic
import Mathlib.Tactic.ByContra
import Keyring.Host.Tree

/-!
# What changes a tree

Each change of a tree puts something at one place or takes a file away (`node?_set`, `node?_erase`),
and `makeDirectory_ok` to `replace_ok` say for each call which place that is. Two things follow that
hold of all of them. Directories stay (`Keeps`), so a path that leads somewhere goes on leading there
(`Keeps.locate`). And whatever is in a tree lies in a directory (`WellFormed`).
-/

namespace Keyring

namespace Tree

/-! ## Nodes -/

/-- A place holds a directory. -/
def IsDirectory (tree : Tree) (place : Place) : Prop :=
  ∃ mode, tree.node? place = some (.directory mode)

@[simp]
theorem node?_nil (tree : Tree) : tree.node? [] = some (.directory 0o755) := rfl

/-- The root is a directory. -/
theorem isDirectory_nil (tree : Tree) : tree.IsDirectory [] :=
  ⟨_, rfl⟩

/-- A place below the root holds what the tree lists first for it. -/
theorem node?_of_ne_nil (tree : Tree) {place : Place} (below : place ≠ []) :
    tree.node? place = (tree.nodes.find? (·.1 = place)).map (·.2) := by
  rw [node?, if_neg (by simpa using below)]

/-- Where nodes are changed each at its place, a place holds the changed node. -/
theorem find?_map_node (nodes : List (Place × Node)) (change : Place → Node → Node)
    (sought : Place) :
    ((nodes.map fun pair => (pair.1, change pair.1 pair.2)).find? (·.1 = sought)).map (·.2) =
      ((nodes.find? (·.1 = sought)).map (·.2)).map (change sought) := by
  induction nodes with
  | nil => rfl
  | cons pair others ih =>
    by_cases same : pair.1 = sought
    · simp [same]
    · simpa [same] using ih

/-- A place below the root holds what it is set to, and what it held if another one is set. -/
theorem node?_set_of_ne_nil (tree : Tree) (place : Place) (node : Node) {other : Place}
    (below : other ≠ []) :
    (tree.set place node).node? other = if other = place then some node else tree.node? other := by
  rw [node?_of_ne_nil _ below, node?_of_ne_nil _ below, set]
  split
  · rename_i there
    rw [find?_map_node tree.nodes fun stored old => if stored = place then node else old]
    by_cases same : other = place
    · subst same
      obtain ⟨pair, found⟩ := Option.isSome_iff_exists.mp there
      simp [found]
    · simp [same, Function.comp_def]
  · rename_i missing
    rw [List.find?_append]
    by_cases same : other = place
    · subst same
      simp [Option.not_isSome_iff_eq_none.mp missing]
    · simp [same, Ne.symm same]

/-- A place that is set holds what it was set to, and every other place what it held. -/
theorem node?_set (tree : Tree) {place : Place} (node : Node) (other : Place) (below : place ≠ []) :
    (tree.set place node).node? other = if other = place then some node else tree.node? other := by
  by_cases root : other = []
  · subst root
    rw [if_neg (Ne.symm below), node?_nil, node?_nil]
  · exact node?_set_of_ne_nil tree place node root

/-- The root cannot be set. -/
theorem node?_set_nil (tree : Tree) (node : Node) (other : Place) :
    (tree.set [] node).node? other = tree.node? other := by
  by_cases root : other = []
  · subst root
    rfl
  · rw [node?_set_of_ne_nil _ _ _ root, if_neg root]

/-- A place that is erased holds nothing, and every other place what it held. -/
theorem node?_erase (tree : Tree) {place : Place} (other : Place) (below : place ≠ []) :
    (tree.erase place).node? other = if other = place then none else tree.node? other := by
  by_cases root : other = []
  · subst root
    rw [if_neg (Ne.symm below), node?_nil, node?_nil]
  rw [node?_of_ne_nil _ root, node?_of_ne_nil _ root, erase, List.find?_filter]
  by_cases same : other = place
  · subst same
    simp
  · rw [if_neg same]
    congr 2
    funext pair
    by_cases equal : pair.1 = other <;> simp [equal, same]

/-- A place holds after an append what it held, or the longer file. -/
theorem node?_append (tree : Tree) (number : Nat) (bytes : Bytes) (place : Place) :
    (tree.append number bytes).node? place =
      (tree.node? place).map fun node =>
        match node with
        | .file other mode content =>
          .file other mode (if other = number then content ++ bytes else content)
        | .directory mode => .directory mode := by
  by_cases root : place = []
  · subst root
    rfl
  have same : (tree.append number bytes).nodes = tree.nodes.map fun pair =>
      (pair.1, match pair.2 with
        | .file other mode content =>
          .file other mode (if other = number then content ++ bytes else content)
        | .directory mode => .directory mode) := by
    refine List.map_congr_left fun pair _ => ?_
    obtain ⟨other, _ | _⟩ := pair
    · rfl
    · dsimp only
      split <;> rfl
  rw [node?_of_ne_nil _ root, node?_of_ne_nil _ root, same,
    find?_map_node tree.nodes fun _ node => match node with
      | .file other mode content =>
        .file other mode (if other = number then content ++ bytes else content)
      | .directory mode => .directory mode]

/-! ## Directories stay -/

/-- Every directory is one in another tree, too. -/
def Keeps (tree after : Tree) : Prop :=
  ∀ place, tree.IsDirectory place → after.IsDirectory place

theorem Keeps.refl (tree : Tree) : tree.Keeps tree :=
  fun _ there => there

theorem Keeps.trans {tree middle after : Tree} (first : tree.Keeps middle)
    (next : middle.Keeps after) : tree.Keeps after :=
  fun place there => next place (first place there)

/-- Putting something where no directory is takes none away. -/
theorem Keeps.set {tree : Tree} {place : Place} (node : Node) (below : place ≠ [])
    (free : ¬ tree.IsDirectory place) : tree.Keeps (tree.set place node) := by
  intro other there
  have different : other ≠ place := fun same => free (same ▸ there)
  unfold IsDirectory
  rw [node?_set _ _ _ below, if_neg different]
  exact there

/-- Putting a directory anywhere takes none away. -/
theorem Keeps.set_directory (tree : Tree) (place : Place) (mode : Nat) :
    tree.Keeps (tree.set place (.directory mode)) := by
  intro other there
  by_cases root : other = []
  · exact root ▸ isDirectory_nil _
  · unfold IsDirectory
    rw [node?_set_of_ne_nil _ _ _ root]
    split
    · exact ⟨mode, rfl⟩
    · exact there

/-- Taking a file away takes no directory away. -/
theorem Keeps.erase {tree : Tree} {place : Place} (below : place ≠ [])
    (free : ¬ tree.IsDirectory place) : tree.Keeps (tree.erase place) := by
  intro other there
  have different : other ≠ place := fun same => free (same ▸ there)
  unfold IsDirectory
  rw [node?_erase _ _ below, if_neg different]
  exact there

/-! ## Ways through directories -/

/-- Where one name leads from a directory. -/
def enter (tree : Tree) (here : Place) (name : Name) : Except Trouble Place :=
  if name = Name.dot then .ok here
  else if name = Name.dots then .ok here.dropLast
  else if Name.maxLength < name.length then .error .nameTooLong
  else
    match tree.node? (here ++ [name]) with
    | none => .error .missing
    | some (.file _ _ _) => .error .notDirectory
    | some (.directory _) => .ok (here ++ [name])

/-- Names are gone through one by one. -/
theorem walk_cons (tree : Tree) (here : Place) (name : Name) (names : List Name) :
    tree.walk here (name :: names) =
      (tree.enter here name).bind fun there => tree.walk there names := by
  rw [walk, enter]
  split
  · rfl
  · split
    · rfl
    · split
      · rfl
      · cases tree.node? (here ++ [name]) with
        | none => rfl
        | some node => cases node <;> rfl

/-- More names are gone through from where the first ones lead. -/
theorem walk_append (tree : Tree) (here : Place) (names more : List Name) :
    tree.walk here (names ++ more) =
      (tree.walk here names).bind fun there => tree.walk there more := by
  induction names generalizing here with
  | nil => rfl
  | cons name names ih =>
    rw [List.cons_append, walk_cons, walk_cons]
    cases tree.enter here name with
    | error trouble => rfl
    | ok there => exact ih there

/-- A name leads to the directory itself, to the one above, or to one in it. -/
theorem enter_eq_ok {tree : Tree} {here there : Place} {name : Name}
    (entered : tree.enter here name = .ok there) :
    (name = Name.dot ∧ there = here) ∨ (name = Name.dots ∧ there = here.dropLast) ∨
      (there = here ++ [name] ∧ tree.IsDirectory there) := by
  unfold enter at entered
  split at entered
  · rename_i dot
    cases entered
    exact .inl ⟨dot, rfl⟩
  · split at entered
    · rename_i dots
      cases entered
      exact .inr (.inl ⟨dots, rfl⟩)
    · split at entered
      · cases entered
      · split at entered
        · cases entered
        · cases entered
        · rename_i mode found
          cases entered
          exact .inr (.inr ⟨rfl, mode, found⟩)

/-- One name leads to the same place as long as the directories stay. -/
theorem Keeps.enter {tree after : Tree} (keeps : tree.Keeps after) {here there : Place}
    {name : Name} (entered : tree.enter here name = .ok there) :
    after.enter here name = .ok there := by
  unfold Tree.enter at entered ⊢
  split
  · rename_i dot
    rwa [if_pos dot] at entered
  · rename_i notDot
    rw [if_neg notDot] at entered
    split
    · rename_i dots
      rwa [if_pos dots] at entered
    · rename_i notDots
      rw [if_neg notDots] at entered
      split
      · rename_i long
        rwa [if_pos long] at entered
      · rename_i short
        rw [if_neg short] at entered
        split at entered
        · cases entered
        · cases entered
        · rename_i mode found
          obtain ⟨_, kept⟩ := keeps _ ⟨mode, found⟩
          rw [kept]
          exact entered

/-- Going through directories leads to the same place as long as these stay. -/
theorem Keeps.walk {tree after : Tree} (keeps : tree.Keeps after) {here there : Place}
    {names : List Name} (walked : tree.walk here names = .ok there) :
    after.walk here names = .ok there := by
  induction names generalizing here with
  | nil => exact walked
  | cons name names ih =>
    rw [walk_cons] at walked ⊢
    cases entered : tree.enter here name with
    | error trouble => simp [entered, Except.bind] at walked
    | ok next =>
      rw [entered] at walked
      rw [keeps.enter entered]
      exact ih walked

/-! ## Where paths lead -/

/-- The names that a path writes, single dots among them. -/
def namesOf (path : Text) : List Name :=
  ((splitAll Path.separator path).filter fun name => !name.isEmpty).map Name.ofText

/-- The place where a path starts. -/
def startOf (current : Place) (path : Text) : Place :=
  if path.head? = some Path.separator then [] else current

/-- A path starts in a directory. -/
theorem isDirectory_startOf {tree : Tree} {current : Place} (start : tree.IsDirectory current)
    (path : Text) : tree.IsDirectory (startOf current path) := by
  unfold startOf
  split
  · exact isDirectory_nil tree
  · exact start

/-- What the last name of a path makes of the place that the others lead to. -/
def spotAt (path : Text) (here : Place) (last : Name) : Except Trouble Spot :=
  if last = Name.dot then .ok (.reached here)
  else if last = Name.dots then .ok (.reached here.dropLast)
  else if Name.maxLength < last.length then .error .nameTooLong
  else .ok (.named here last (path.getLast? = some Path.separator))

/-- A path leads where its last name leads from the place that the others lead to. -/
theorem locate_eq (tree : Tree) (current : Place) (path : Text) :
    tree.locate current path =
      if path.isEmpty then .error .missing
      else if Path.isTooLong path then .error .nameTooLong
      else
        match (namesOf path).getLast? with
        | none => .ok (.reached [])
        | some last =>
          match tree.walk (startOf current path) (namesOf path).dropLast with
          | .error trouble => .error trouble
          | .ok here => spotAt path here last := rfl

/-- A path leads to the same place as long as the directories stay. -/
theorem Keeps.locate {tree after : Tree} (keeps : tree.Keeps after) {current : Place} {path : Text}
    {spot : Spot} (located : tree.locate current path = .ok spot) :
    after.locate current path = .ok spot := by
  rw [locate_eq] at located ⊢
  split
  · simp_all
  · split
    · simp_all
    · rename_i filled short
      rw [if_neg filled, if_neg short] at located
      cases last : (namesOf path).getLast? with
      | none => simpa [last] using located
      | some name =>
        cases walked : tree.walk (startOf current path) (namesOf path).dropLast with
        | error trouble => simp [last, walked] at located
        | ok here => simpa [last, walked, keeps.walk walked] using located

/-- A path that ends at a name leads to a directory first. -/
theorem located_named {tree : Tree} {current parent : Place} {path : Text} {name : Name}
    {slash : Bool} (located : tree.locate current path = .ok (.named parent name slash)) :
    tree.walk (startOf current path) (namesOf path).dropLast = .ok parent ∧
      (namesOf path).getLast? = some name ∧ name ≠ Name.dot ∧ name ≠ Name.dots ∧
      name.length ≤ Name.maxLength := by
  rw [locate_eq] at located
  split at located
  · cases located
  · split at located
    · cases located
    · split at located
      · cases located
      · rename_i last found
        split at located
        · cases located
        · rename_i here walked
          unfold spotAt at located
          split at located
          · cases located
          · split at located
            · cases located
            · split at located
              · cases located
              · rename_i notDot notDots short
                cases located
                exact ⟨walked, found, notDot, notDots, by omega⟩

/-- A path without names starts at the root. -/
theorem startOf_of_namesOf_eq_nil {current : Place} {path : Text} (filled : path ≠ [])
    (none : namesOf path = []) : startOf current path = [] := by
  cases path with
  | nil => exact absurd rfl filled
  | cons first rest =>
    unfold startOf
    split
    · rfl
    · rename_i unrooted
      have different : first ≠ Path.separator := by simpa using unrooted
      unfold namesOf at none
      rw [splitAll, if_neg different] at none
      split at none <;> simp at none

/-- A path that ends in a directory on the way leads where its names lead. -/
theorem walk_of_reached {tree : Tree} {current place : Place} {path : Text}
    (located : tree.locate current path = .ok (.reached place)) :
    tree.walk (startOf current path) (namesOf path) = .ok place := by
  rw [locate_eq] at located
  split at located
  · cases located
  · rename_i filled
    split at located
    · cases located
    · split at located
      · rename_i none
        cases located
        have empty := List.getLast?_eq_none_iff.mp none
        rw [empty, startOf_of_namesOf_eq_nil (by simpa using filled) empty]
        rfl
      · rename_i last found
        split at located
        · cases located
        · rename_i here walked
          rw [← List.dropLast_append_getLast? last found, walk_append, walked]
          show (tree.walk here [last]) = .ok place
          rw [walk_cons, enter]
          unfold spotAt at located
          split at located
          · rename_i dot
            cases located
            rw [if_pos dot]
            rfl
          · rename_i notDot
            split at located
            · rename_i dots
              cases located
              rw [if_neg notDot, if_pos dots]
              rfl
            · split at located <;> cases located

/-! ## What is there lies in a directory -/

/-- Whatever is in a tree lies in a directory. -/
def WellFormed (tree : Tree) : Prop :=
  ∀ place, (tree.node? place).isSome → tree.IsDirectory place.dropLast

/-- What the empty tree holds lies in its root. -/
theorem WellFormed.empty : WellFormed .empty := by
  intro place there
  by_cases root : place = []
  · subst root
    exact isDirectory_nil _
  · simp [node?_of_ne_nil _ root, Tree.empty] at there

namespace WellFormed

variable {tree after : Tree} {current : Place} {path : Text}

/-- Nothing lies below what is no directory. -/
theorem node?_below (wellFormed : tree.WellFormed) {place : Place} (name : Name)
    (free : ¬ tree.IsDirectory place) : tree.node? (place ++ [name]) = none := by
  by_contra there
  exact free (by simpa using wellFormed (place ++ [name]) (Option.isSome_iff_ne_none.mpr there))

/-- The names of a way lead from a directory to a directory. -/
theorem isDirectory_of_walk (wellFormed : tree.WellFormed) {here there : Place}
    {names : List Name} (start : tree.IsDirectory here)
    (walked : tree.walk here names = .ok there) : tree.IsDirectory there := by
  induction names generalizing here with
  | nil =>
    cases walked
    exact start
  | cons name names ih =>
    rw [walk_cons] at walked
    cases entered : tree.enter here name with
    | error trouble => simp [entered, Except.bind] at walked
    | ok next =>
      rw [entered] at walked
      refine ih ?_ walked
      rcases enter_eq_ok entered with ⟨-, rfl⟩ | ⟨-, rfl⟩ | ⟨-, there⟩
      · exact start
      · obtain ⟨mode, found⟩ := start
        exact wellFormed here (by simp [found])
      · exact there

/-- A path that ends at a name leads to a directory first, which has that name in it or may get
it. -/
theorem isDirectory_of_named (wellFormed : tree.WellFormed) (start : tree.IsDirectory current)
    {parent : Place} {name : Name} {slash : Bool}
    (located : tree.locate current path = .ok (.named parent name slash)) :
    tree.IsDirectory parent :=
  wellFormed.isDirectory_of_walk (isDirectory_startOf start path) (located_named located).1

/-- Something new lies in a directory, if it is put there and takes no directory away. -/
theorem set (wellFormed : tree.WellFormed) {place : Place} {node : Node} (below : place ≠ [])
    (inside : tree.IsDirectory place.dropLast) (keeps : tree.Keeps (tree.set place node)) :
    (tree.set place node).WellFormed := by
  intro other there
  rw [node?_set _ _ _ below] at there
  split at there
  · rename_i same
    exact keeps _ (same ▸ inside)
  · exact keeps _ (wellFormed other there)

/-- Taking a file away leaves everything else in its directory. -/
theorem erase (wellFormed : tree.WellFormed) {place : Place} (below : place ≠ [])
    (free : ¬ tree.IsDirectory place) : (tree.erase place).WellFormed := by
  intro other there
  rw [node?_erase _ _ below] at there
  split at there
  · cases there
  · exact Keeps.erase below free _ (wellFormed other there)

end WellFormed

end Tree

end Keyring
