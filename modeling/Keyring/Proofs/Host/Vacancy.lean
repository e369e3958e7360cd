import Keyring.Proofs.Host.Changes
import Keyring.Proofs.Host.Route

/-!
# Where there is nothing yet

A path may lead to nothing because a file is missing in a directory, or because a directory is
missing on the way. Then somebody may make the directories of the way and the path leads to nothing
still, but only if every name behind the missing one leads further down: two dots would lead back up
to what is there. `isVacant` says that a way is like that. What a path shows is the content of a file,
or that its way is vacant (`Shows`).
-/

namespace Keyring

namespace Tree

/-- A name that leads nowhere above a directory and that a directory may hold. -/
def staysBelow (name : Name) : Bool :=
  name ≠ Name.dots && name.length ≤ Name.maxLength

/-- From a directory some names lead to one that is missing, and no name behind it leads back up. -/
def isVacant (tree : Tree) (here : Place) : List Name → Bool
  | [] => false
  | name :: names =>
    match tree.enter here name with
    | .ok there => isVacant tree there names
    | .error .missing => names.all staysBelow
    | .error _ => false

variable {tree after : Tree} {here there : Place} {name : Name} {names before : List Name}

/-- Only a plain name is missing. -/
theorem enter_eq_missing :
    tree.enter here name = .error .missing ↔
      name ≠ Name.dot ∧ name ≠ Name.dots ∧ name.length ≤ Name.maxLength ∧
        tree.node? (here ++ [name]) = none := by
  unfold enter
  split
  · simp [*]
  · split
    · simp [*]
    · split
      · rename_i long
        have tooLong := Nat.not_le.mpr long
        simp [*]
      · rename_i short
        split <;> simp_all

/-- The way goes on being vacant from where its first names lead. -/
theorem isVacant_append (walked : tree.walk here before = .ok there) :
    tree.isVacant here (before ++ names) = tree.isVacant there names := by
  induction before generalizing here with
  | nil =>
    cases walked
    rfl
  | cons first before ih =>
    rw [walk_cons] at walked
    cases entered : tree.enter here first with
    | error trouble => simp [entered, Except.bind] at walked
    | ok next =>
      rw [entered] at walked
      rw [List.cons_append, isVacant, entered]
      exact ih walked

/-- On a vacant way something is missing. -/
theorem walk_of_isVacant (vacant : tree.isVacant here names = true) :
    tree.walk here names = .error .missing := by
  induction names generalizing here with
  | nil => cases vacant
  | cons name names ih =>
    rw [isVacant] at vacant
    rw [walk_cons]
    split at vacant
    · rename_i there entered
      rw [entered]
      exact ih vacant
    · rename_i entered
      rw [entered]
      rfl
    · cases vacant

/-- Single dots make no difference. -/
theorem isVacant_filter (tree : Tree) (here : Place) (names : List Name) :
    tree.isVacant here (names.filter (· ≠ Name.dot)) = tree.isVacant here names := by
  induction names generalizing here with
  | nil => rfl
  | cons name names ih =>
    by_cases dot : name = Name.dot
    · have stays : tree.isVacant here (name :: names) = tree.isVacant here names := by
        rw [isVacant, enter, if_pos dot]
      rw [stays, ← ih]
      simp [dot]
    · have kept : (name :: names).filter (· ≠ Name.dot) =
          name :: names.filter (· ≠ Name.dot) := by
        simp [dot]
      rw [kept, isVacant, isVacant]
      split
      · exact ih _
      · have below : staysBelow Name.dot = true := by decide
        rw [List.all_filter]
        congr 1
        funext other
        by_cases same : other = Name.dot <;> simp [same, below]
      · rfl

/-- The last name of a vacant way is missing if the others lead to a directory. -/
theorem enter_of_isVacant (walked : tree.walk here before = .ok there)
    (vacant : tree.isVacant here (before ++ [name]) = true) :
    tree.enter there name = .error .missing := by
  rw [isVacant_append walked, isVacant] at vacant
  split at vacant
  · cases vacant
  · assumption
  · cases vacant

/-! ## What a path shows -/

variable {current : Place} {path : Text} {content? : Option Bytes}

/-- A vacant way leads to no file. -/
theorem read_of_isVacant (filled : path ≠ []) (short : Path.isTooLong path = false)
    (vacant : tree.isVacant (startOf current path) (namesOf path) = true) :
    tree.read current path = .error .missing := by
  have nowhere : tree.lookup current path = .error .missing := by
    unfold lookup
    rw [locate_eq, if_neg (by simpa using filled), if_neg (by simp [short])]
    cases found : (namesOf path).getLast? with
    | none =>
      rw [List.getLast?_eq_none_iff.mp found] at vacant
      cases vacant
    | some last =>
      rw [← List.dropLast_append_getLast? last found] at vacant
      cases walked : tree.walk (startOf current path) (namesOf path).dropLast with
      | error trouble =>
        have missing := walk_of_isVacant vacant
        rw [walk_append, walked] at missing
        cases missing
        rfl
      | ok here =>
        obtain ⟨notDot, notDots, least, free⟩ :=
          enter_eq_missing.mp (enter_of_isVacant walked vacant)
        simp [spotAt, notDot, notDots, Nat.not_lt.mpr least, free]
  rw [read, nowhere]

/-- What a path that is neither empty nor too long writes. -/
theorem isTooLong_of_read (filled : path ≠ [])
    (missing : tree.read current path = .error .missing) : Path.isTooLong path = false := by
  by_contra long
  unfold read lookup at missing
  rw [locate_eq, if_neg (by simpa using filled), if_pos (by simpa using long)] at missing
  cases missing

/-- A path leads to a file of some content, or to nothing. -/
def Finds (tree : Tree) (current : Place) (path : Text) : Option Bytes → Prop
  | some content => tree.read current path = .ok content
  | none => tree.read current path = .error .missing

/-- A path leads to a file of some content; or it leads to nothing, and would not lead elsewhere if
its directories were made. -/
def Shows (tree : Tree) (current : Place) (path : Text) : Option Bytes → Prop
  | some content => tree.read current path = .ok content
  | none => tree.read current path = .error .missing ∧
      (path = [] ∨ tree.isVacant (startOf current path) (namesOf path) = true)

/-- A path goes on showing what it shows. -/
def ShowsOn (tree after : Tree) (current : Place) (path : Text) : Prop :=
  ∀ content?, tree.Shows current path content? → after.Shows current path content?

/-- What a path shows is found there. -/
theorem Shows.finds (shows : tree.Shows current path content?) :
    tree.Finds current path content? := by
  cases content? with
  | none => exact shows.1
  | some content => exact shows

namespace Finds

/-- What is read is the content that is found. -/
theorem content_eq {content : Bytes} (finds : tree.Finds current path content?)
    (read : tree.read current path = .ok content) : some content = content? := by
  cases content? with
  | none => cases read.symm.trans finds
  | some other =>
    have same := read.symm.trans finds
    cases same
    rfl

/-- Where a file is missing none is found. -/
theorem content_eq_none (finds : tree.Finds current path content?)
    (missing : tree.read current path = .error .missing) : none = content? := by
  cases content? with
  | none => rfl
  | some other => cases missing.symm.trans finds

/-- Two trees in which the same is found are read alike. -/
theorem read_eq {other : Tree} {there : Place} (finds : tree.Finds current path content?)
    (finds' : other.Finds there path content?) :
    other.read there path = tree.read current path := by
  cases content? with
  | none => exact Eq.trans finds' (Eq.symm finds)
  | some content => exact Eq.trans finds' (Eq.symm finds)

/-- One content is found, or none. -/
theorem unique {other? : Option Bytes} (finds : tree.Finds current path content?)
    (finds' : tree.Finds current path other?) : other? = content? := by
  cases other? with
  | none => exact finds.content_eq_none finds'
  | some content => exact finds.content_eq finds'

end Finds

/-- A path that leads to a file leads there as long as the file and the directories stay. -/
theorem Shows.of_stays {content : Bytes} (shows : tree.Shows current path (some content))
    (keeps : tree.Keeps after)
    (stays : ∀ place, (tree.node? place).isSome → after.node? place = tree.node? place) :
    after.Shows current path (some content) := by
  obtain ⟨place, number, mode, found⟩ := read_eq_ok.mp shows
  obtain ⟨parent, name, located, rfl, there⟩ := lookup_eq_file.mp found
  refine read_eq_ok.mpr ⟨_, number, mode, lookup_eq_file.mpr ⟨parent, name, ?_, rfl, ?_⟩⟩
  · exact keeps.locate located
  · rw [stays _ (by simp [there]), there]

/-- A path that leads to nothing leads to nothing as long as its way stays vacant. -/
theorem Shows.of_vacant (shows : tree.Shows current path none)
    (vacant : tree.isVacant (startOf current path) (namesOf path) = true →
      after.isVacant (startOf current path) (namesOf path) = true) :
    after.Shows current path none := by
  obtain ⟨missing, rfl | before⟩ := shows
  · exact ⟨rfl, .inl rfl⟩
  · by_cases filled : path = []
    · subst filled
      exact ⟨rfl, .inl rfl⟩
    · exact ⟨read_of_isVacant filled (isTooLong_of_read filled missing) (vacant before),
        .inr (vacant before)⟩

end Tree

end Keyring
