import Keyring.Proofs.Host.Directory

/-!
# What is added on the way to a file

Before a file can be written, directories are made on the way to it, and a spare file may be put
beside it. All that was there stays as it was (`Extends`). So a path that leads to something leads to
the same thing, and a path that leads to nothing leads to nothing (`Extends.lookup_eq`), unless it
leads back up behind the first missing directory: once that is made, it leads to something else. A way
that was vacant stays vacant as well (`Extends.showsOn_of_none`, `Extends.showsOn_of_walk`).
-/

namespace Keyring

namespace Tree

/-- No name behind the first missing one of a way leads back up. -/
def goesDown (tree : Tree) (here : Place) : List Name → Bool
  | [] => true
  | name :: names =>
    match tree.enter here name with
    | .ok there => goesDown tree there names
    | .error .missing => names.all (· ≠ Name.dots)
    | .error _ => true

/-- What may be new in a tree: a directory where the first names of a way lead, and a file at a spare
place. -/
inductive Added (after : Tree) (start : Place) (way : List Name) (spare? : Option Place) :
    Place → Node → Prop
  | directory {place : Place} (names : List Name) (first : names <+: way)
      (walked : after.walk start names = .ok place) :
      Added after start way spare? place (.directory 0o755)
  | file {place : Place} (spare : place ∈ spare?) (number mode : Nat) (content : Bytes) :
      Added after start way spare? place (.file number mode content)

/-- Nothing that was in a tree has changed, and nothing is new but directories on a way and a file at
a spare place. -/
structure Extends (tree after : Tree) (start : Place) (way : List Name) (spare? : Option Place) :
    Prop where
  stays : ∀ place node, tree.node? place = some node → after.node? place = some node
  added : ∀ place node, tree.node? place = none → after.node? place = some node →
    Added after start way spare? place node

variable {tree middle after : Tree} {start here place : Place} {way names : List Name} {name : Name}
  {spare? : Option Place}

/-! ## Ways down -/

/-- Single dots make no difference to where names lead. -/
theorem walk_filter (tree : Tree) (here : Place) (names : List Name) :
    tree.walk here (names.filter (· ≠ Name.dot)) = tree.walk here names := by
  induction names generalizing here with
  | nil => rfl
  | cons name names ih =>
    by_cases dot : name = Name.dot
    · have stays : tree.walk here (name :: names) = tree.walk here names := by
        rw [walk, if_pos dot]
      rw [stays, ← ih]
      simp [dot]
    · have kept : (name :: names).filter (· ≠ Name.dot) =
          name :: names.filter (· ≠ Name.dot) := by
        simp [dot]
      rw [kept, walk_cons, walk_cons]
      exact congrArg _ (funext fun there => ih there)

/-- Names that do not lead back up lead below where one is. -/
theorem walk_down (down : ∀ name ∈ names, name ≠ Name.dots)
    (walked : tree.walk here names = .ok place) :
    place = here ++ names.filter (· ≠ Name.dot) := by
  induction names generalizing here with
  | nil =>
    cases walked
    simp
  | cons name names ih =>
    rw [walk_cons] at walked
    cases entered : tree.enter here name with
    | error trouble => simp [entered, Except.bind] at walked
    | ok next =>
      rw [entered] at walked
      have rest := ih (fun other member => down other (.tail _ member)) walked
      rcases enter_eq_ok entered with ⟨rfl, rfl⟩ | ⟨dots, -⟩ | ⟨rfl, -⟩
      · simpa using rest
      · exact absurd dots (down name (List.mem_cons_self ..))
      · have notDot : name ≠ Name.dot := by
          rintro rfl
          unfold enter at entered
          rw [if_pos rfl] at entered
          simp at entered
        rw [rest, List.filter_cons_of_pos (by simpa using notDot)]
        simp

/-- Names that lead somewhere do so without the last of them. -/
theorem walk_dropLast (walked : tree.walk here names = .ok place) :
    ∃ middle, tree.walk here names.dropLast = .ok middle := by
  cases last : names.getLast? with
  | none =>
    rw [List.getLast?_eq_none_iff.mp last]
    exact ⟨here, rfl⟩
  | some name =>
    rw [← List.dropLast_append_getLast? name last, walk_append] at walked
    cases walked' : tree.walk here names.dropLast with
    | error trouble => simp [walked', Except.bind] at walked
    | ok middle => exact ⟨middle, rfl⟩

/-- A path that ends at a name leads to the place of that name, if to anything. -/
theorem place_of_lookup {current parent : Place} {path : Text} {slash : Bool} {node : Node}
    (located : tree.locate current path = .ok (.named parent name slash))
    (found : tree.lookup current path = .ok (place, node)) : place = parent ++ [name] := by
  unfold lookup at found
  rw [located] at found
  dsimp only at found
  split at found
  · cases found
  · cases found
    rfl
  · split at found
    · cases found
    · cases found
      rfl

/-- Names that go down from somewhere do so as far as one likes. -/
theorem goesDown_append {more : List Name} (down : tree.goesDown here (names ++ more) = true) :
    tree.goesDown here names = true := by
  induction names generalizing here with
  | nil => rfl
  | cons name names ih =>
    rw [List.cons_append, goesDown] at down
    rw [goesDown]
    split at down
    · exact ih down
    · rw [List.all_append, Bool.and_eq_true] at down
      exact down.1
    · rfl

/-- Single dots make no difference to whether names lead back up. -/
theorem goesDown_filter (tree : Tree) (here : Place) (names : List Name) :
    tree.goesDown here (names.filter (· ≠ Name.dot)) = tree.goesDown here names := by
  induction names generalizing here with
  | nil => rfl
  | cons name names ih =>
    by_cases dot : name = Name.dot
    · have stays : tree.goesDown here (name :: names) = tree.goesDown here names := by
        rw [goesDown, enter, if_pos dot]
      rw [stays, ← ih]
      simp [dot]
    · rw [List.filter_cons_of_pos (by simpa using dot), goesDown, goesDown]
      split
      · exact ih _
      · have below : Name.dot ≠ Name.dots := by decide
        rw [List.all_filter]
        congr 1
        funext other
        by_cases same : other = Name.dot <;> simp [same, below]
      · rfl

/-- Nothing lies anywhere below a place where nothing is. -/
theorem WellFormed.node?_append (wellFormed : tree.WellFormed) (free : tree.node? here = none)
    (more : List Name) : tree.node? (here ++ more) = none := by
  induction more generalizing here with
  | nil => rwa [List.append_nil]
  | cons name more ih =>
    have noDirectory : ¬ tree.IsDirectory here := by simp [IsDirectory, free]
    have next := ih (wellFormed.node?_below name noDirectory)
    rwa [List.append_assoc] at next

namespace Extends

theorem refl (tree : Tree) (start : Place) (way : List Name) (spare? : Option Place) :
    tree.Extends tree start way spare? :=
  ⟨fun _ _ there => there, fun _ _ free there => by cases free.symm.trans there⟩

/-- Directories stay. -/
theorem keeps (ext : tree.Extends after start way spare?) : tree.Keeps after :=
  fun place ⟨mode, there⟩ => ⟨mode, ext.stays place _ there⟩

theorem trans (first : tree.Extends middle start way spare?)
    (next : middle.Extends after start way spare?) : tree.Extends after start way spare? where
  stays := fun place node there => next.stays place node (first.stays place node there)
  added := by
    intro place node free there
    cases between : middle.node? place with
    | none => exact next.added place node between there
    | some other =>
      cases (next.stays place other between).symm.trans there
      cases first.added place node free between with
      | directory names first walked => exact .directory names first (next.keeps.walk walked)
      | file spare number mode content => exact .file spare number mode content

/-- A directory is new where the first names of the way lead. -/
theorem set_directory (first : names <+: way) (below : place ≠ []) (free : tree.node? place = none)
    (walked : (tree.set place (.directory 0o755)).walk start names = .ok place) :
    tree.Extends (tree.set place (.directory 0o755)) start way spare? where
  stays := by
    intro other node there
    rw [node?_set _ _ _ below, if_neg]
    · exact there
    · rintro rfl
      cases free.symm.trans there
  added := by
    intro other node free there
    rw [node?_set _ _ _ below] at there
    split at there
    · rename_i same
      cases there
      subst same
      exact .directory names first walked
    · cases free.symm.trans there

/-- What could be new with no spare file can be new with one. -/
theorem of_none (ext : tree.Extends after start way none) (spare? : Option Place) :
    tree.Extends after start way spare? where
  stays := ext.stays
  added := by
    intro place node free there
    cases ext.added place node free there with
    | directory names first walked => exact .directory names first walked
    | file spare => cases spare

/-- The spare file is made, or gets other permissions or another content. -/
theorem put_file {later : Tree} (ext : tree.Extends after start way (some place))
    (free : tree.node? place = none) (keeps : after.Keeps later) {number mode : Nat}
    {content : Bytes} (nodes : ∀ other, later.node? other =
      if other = place then some (.file number mode content) else after.node? other) :
    tree.Extends later start way (some place) where
  stays := by
    intro other node there
    rw [nodes other, if_neg]
    · exact ext.stays other node there
    · rintro rfl
      cases free.symm.trans there
  added := by
    intro other node free there
    rw [nodes other] at there
    split at there
    · rename_i same
      cases there
      exact .file (congrArg some same.symm) number mode content
    · cases ext.added other node free there with
      | directory names first walked => exact .directory names first (keeps.walk walked)
      | file spare number mode content => exact .file spare number mode content

/-- The spare file is removed. -/
theorem erase (ext : tree.Extends after start way (some place)) (below : place ≠ [])
    (free : tree.node? place = none) (plain : ¬ after.IsDirectory place) :
    tree.Extends (after.erase place) start way none where
  stays := by
    intro other node there
    rw [node?_erase _ _ below, if_neg]
    · exact ext.stays other node there
    · rintro rfl
      cases free.symm.trans there
  added := by
    intro other node free there
    rw [node?_erase _ _ below] at there
    split at there
    · cases there
    · rename_i different
      cases ext.added other node free there with
      | directory names first walked =>
        exact .directory names first ((Keeps.erase below plain).walk walked)
      | file spare => exact absurd (Option.some.inj spare).symm different

/-- Names that fail to lead on fail for the same reason, unless one was missing. -/
theorem enter_of_error (ext : tree.Extends after start way spare?) {trouble : Trouble}
    (failed : tree.enter here name = .error trouble) (other : trouble ≠ .missing) :
    after.enter here name = .error trouble := by
  unfold enter at failed ⊢
  split
  · rename_i dot
    rw [if_pos dot] at failed
    cases failed
  · rename_i notDot
    rw [if_neg notDot] at failed
    split
    · rename_i dots
      rw [if_pos dots] at failed
      cases failed
    · rename_i notDots
      rw [if_neg notDots] at failed
      split
      · rename_i long
        rwa [if_pos long] at failed
      · rename_i short
        rw [if_neg short] at failed
        split at failed
        · cases failed
          exact absurd rfl other
        · rename_i there
          rwa [ext.stays _ _ there]
        · cases failed

/-- What names lead to by now they led to before, or nothing was there. -/
theorem walk_before (ext : tree.Extends after start way spare?) (wellFormed : tree.WellFormed)
    (down : tree.goesDown here names = true) (walked : after.walk here names = .ok place) :
    tree.walk here names = .ok place ∨ tree.node? place = none := by
  induction names generalizing here with
  | nil => exact .inl walked
  | cons name names ih =>
    rw [goesDown] at down
    cases entered : tree.enter here name with
    | ok next =>
      rw [entered] at down
      rw [walk_cons, ext.keeps.enter entered] at walked
      rw [walk_cons, entered]
      exact ih down walked
    | error trouble =>
      by_cases missing : trouble = .missing
      · subst missing
        rw [entered] at down
        obtain ⟨notDot, notDots, -, free⟩ := enter_eq_missing.mp entered
        have down : ∀ other ∈ name :: names, other ≠ Name.dots :=
          List.forall_mem_cons.mpr ⟨notDots, by simpa using down⟩
        right
        rw [walk_down down walked, List.filter_cons_of_pos (by simpa using notDot),
          ← List.singleton_append, ← List.append_assoc]
        exact wellFormed.node?_append free _
      · rw [walk_cons, ext.enter_of_error entered missing] at walked
        cases walked

/-- If names lead to a place by now and more names behind them lead there as well, then something was
there before. -/
theorem node?_of_walk_twice (ext : tree.Extends after start way spare?)
    (inside : tree.IsDirectory here) (wellFormed : tree.WellFormed) {more : List Name}
    (down : tree.goesDown here (names ++ more) = true) (walked : after.walk here names = .ok place)
    (walked' : after.walk here (names ++ more) = .ok place) (some : more ≠ [])
    (dotless : Name.dot ∉ more) : (tree.node? place).isSome := by
  induction names generalizing here with
  | nil =>
    cases walked
    obtain ⟨mode, there⟩ := inside
    simp [there]
  | cons name names ih =>
    rw [List.cons_append, goesDown] at down
    cases entered : tree.enter here name with
    | ok next =>
      have inside' : tree.IsDirectory next := by
        have first : tree.walk here [name] = .ok next := by
          rw [walk_cons, entered]
          rfl
        exact wellFormed.isDirectory_of_walk inside first
      rw [entered] at down
      rw [List.cons_append, walk_cons, ext.keeps.enter entered] at walked'
      rw [walk_cons, ext.keeps.enter entered] at walked
      exact ih inside' down walked walked'
    | error trouble =>
      by_cases missing : trouble = .missing
      · subst missing
        rw [entered] at down
        obtain ⟨-, notDots, -⟩ := enter_eq_missing.mp entered
        -- Both ways lead straight down from here, and the longer one leads further.
        have rest : ∀ other ∈ names ++ more, other ≠ Name.dots := by
          simpa only [List.all_eq_true, decide_eq_true_eq] using down
        have down : ∀ other ∈ name :: (names ++ more), other ≠ Name.dots :=
          List.forall_mem_cons.mpr ⟨notDots, rest⟩
        have first :=
          walk_down (fun other member => down other (List.mem_append_left _ member)) walked
        have second := walk_down down walked'
        rw [first, ← List.cons_append, List.filter_append, ← List.append_assoc,
          List.self_eq_append_right, List.filter_eq_nil_iff] at second
        obtain ⟨other, member⟩ := List.exists_mem_of_ne_nil more some
        obtain rfl : other = Name.dot := by simpa using second other member
        exact absurd member dotless
      · rw [walk_cons, ext.enter_of_error entered missing] at walked
        cases walked

/-! ### Where a path leads -/

variable {current : Place} {path : Text}

/-- What a path leads to it goes on leading to. -/
theorem lookup_ok (ext : tree.Extends after start way spare?) {node : Node}
    (found : tree.lookup current path = .ok (place, node)) :
    after.lookup current path = .ok (place, node) := by
  unfold lookup at found ⊢
  cases located : tree.locate current path with
  | error trouble => simp [located] at found
  | ok spot =>
    rw [located] at found
    rw [ext.keeps.locate located]
    cases spot with
    | reached there => exact found
    | named parent name slash =>
      dsimp only at found ⊢
      cases there : tree.node? (parent ++ [name]) with
      | none => simp [there] at found
      | some node =>
        rw [there] at found
        rw [ext.stays _ _ there]
        exact found

/-- Where a path ends by now it ended before, if the names before its last one led somewhere. -/
theorem locate_before (ext : tree.Extends after start way spare?) {spot : Spot}
    (located : after.locate current path = .ok spot)
    (walked : tree.walk (startOf current path) (namesOf path).dropLast = .ok here) :
    tree.locate current path = .ok spot := by
  rw [locate_eq, ext.keeps.walk walked] at located
  rw [locate_eq, walked]
  exact located

/-- What a path leads to by now it led to before, or nothing was there. -/
theorem lookup_before (ext : tree.Extends after start way spare?) (wellFormed : tree.WellFormed)
    (down : tree.goesDown (startOf current path) (namesOf path) = true) {node : Node}
    (found : after.lookup current path = .ok (place, node)) :
    tree.lookup current path = .ok (place, node) ∨ tree.node? place = none := by
  cases located : after.locate current path with
  | error trouble => simp [lookup, located] at found
  | ok spot =>
    cases spot with
    | reached there =>
      rw [lookup, located] at found
      cases found
      refine (ext.walk_before wellFormed down (walk_of_reached located)).imp_left fun walked => ?_
      obtain ⟨middle, walked'⟩ := walk_dropLast walked
      rw [lookup, ext.locate_before located walked']
    | named parent name slash =>
      obtain rfl := place_of_lookup located found
      obtain ⟨walked, last, -⟩ := located_named located
      rw [← List.dropLast_append_getLast? name last] at down
      rcases ext.walk_before wellFormed (goesDown_append down) walked with walked | free
      · cases there : tree.node? (parent ++ [name]) with
        | none => exact .inr rfl
        | some old =>
          left
          rw [lookup, ext.locate_before located walked]
          rw [lookup, located] at found
          dsimp only at found ⊢
          rw [there]
          rwa [ext.stays _ _ there] at found
      · exact .inr (wellFormed.node?_append free [name])

end Extends

/-- What a path leads to is there. -/
theorem node?_of_lookup (wellFormed : tree.WellFormed) {current : Place} {path : Text}
    (inside : tree.IsDirectory current) {node : Node}
    (found : tree.lookup current path = .ok (place, node)) :
    (tree.IsDirectory place ∧ tree.walk (startOf current path) (namesOf path) = .ok place) ∨
      ∃ number mode content, tree.node? place = some (.file number mode content) ∧
        place.getLast? = some (Name.ofText (Path.ofText path).name) := by
  cases node with
  | directory mode =>
    exact .inl ⟨wellFormed.isDirectory_of_lookup inside found, walk_of_lookup found⟩
  | file number mode content =>
    obtain ⟨parent, name, located, rfl, there⟩ := lookup_eq_file.mp found
    obtain ⟨-, last, notDot, -⟩ := located_named located
    refine .inr ⟨number, mode, content, there, ?_⟩
    have names := map_names_ofText path
    rw [← List.dropLast_append_getLast? name last, List.filter_append,
      List.filter_cons_of_pos (by simpa using notDot), List.filter_nil] at names
    have ends := congrArg List.getLast? names
    rw [List.getLast?_map, List.getLast?_concat] at ends
    obtain ⟨text, named, rfl⟩ := Option.map_eq_some_iff.mp ends
    rw [Path.name, named, List.getLast?_concat]
    rfl

/-- Where a path leads by now, and where some of the names of its directory lead as well, something
was before. -/
theorem Extends.node?_of_walk_parent {current : Place} {path : Text} (wellFormed : tree.WellFormed)
    (inside : tree.IsDirectory current) (ext : tree.Extends after start way spare?)
    (down : tree.goesDown (startOf current path) (namesOf path) = true)
    (first : names <+: (Path.ofText path).parent.names.map Name.ofText)
    (walked : after.walk (startOf current path) names = .ok place)
    (walked' : after.walk (startOf current path) (namesOf path) = .ok place) :
    (tree.node? place).isSome := by
  have inside := isDirectory_startOf inside path
  have dotless : Name.dot ∉ (Path.ofText path).names.map Name.ofText := by
    rw [map_names_ofText]
    simp
  rw [← walk_filter, ← map_names_ofText] at walked'
  rw [← goesDown_filter, ← map_names_ofText] at down
  obtain ⟨rest, whole⟩ := first
  by_cases none : (Path.ofText path).names = []
  · obtain ⟨rfl, -⟩ : names = [] ∧ rest = [] := by simpa [Path.parent, none] using whole
    cases walked
    obtain ⟨mode, there⟩ := inside
    simp [there]
  · have cut : (Path.ofText path).names.map Name.ofText =
        names ++ (rest ++ [Name.ofText ((Path.ofText path).names.getLast none)]) := by
      rw [← List.append_assoc, whole, Path.parent, ← List.map_singleton, ← List.map_append,
        List.dropLast_append_getLast]
    rw [cut] at walked' down dotless
    exact ext.node?_of_walk_twice inside wellFormed down walked walked' (by simp)
      fun member => dotless (List.mem_append_right _ member)

/-- A path leads to what it led to, or to nothing as before, if it does not lead back up and the spare
file has another name. -/
theorem Extends.lookup_eq {current : Place} {path : Text} (wellFormed : tree.WellFormed)
    (wellFormed' : after.WellFormed) (inside : tree.IsDirectory current)
    (ext : tree.Extends after (startOf current path)
      ((Path.ofText path).parent.names.map Name.ofText) spare?)
    (apart : ∀ spare ∈ spare?, spare.getLast? ≠ some (Name.ofText (Path.ofText path).name))
    (down : tree.goesDown (startOf current path) (namesOf path) = true) :
    (after.lookup current path).toOption = (tree.lookup current path).toOption := by
  cases found : tree.lookup current path with
  | ok pair =>
    rw [ext.lookup_ok found]
  | error trouble =>
    cases found' : after.lookup current path with
    | error trouble => rfl
    | ok pair =>
      exfalso
      obtain ⟨place, node⟩ := pair
      have free : tree.node? place = none := by
        rcases ext.lookup_before wellFormed down found' with before | free
        · cases found.symm.trans before
        · exact free
      have inside' := ext.keeps _ inside
      rcases node?_of_lookup wellFormed' inside' found' with
        ⟨⟨mode, there⟩, walked⟩ | ⟨number, mode, content, there, last⟩
      · cases ext.added _ _ free there with
        | directory names first walked' =>
          have there := ext.node?_of_walk_parent wellFormed inside down first walked' walked
          simp [free] at there
      · cases ext.added _ _ free there with
        | file spare => exact apart _ spare last

/-! ## What a path shows -/

/-- What is missing on a vacant way has nothing behind it that leads back up. -/
theorem goesDown_of_isVacant (vacant : tree.isVacant here names = true) :
    tree.goesDown here names = true := by
  induction names generalizing here with
  | nil => rfl
  | cons name names ih =>
    rw [isVacant] at vacant
    rw [goesDown]
    cases entered : tree.enter here name with
    | ok there =>
      rw [entered] at vacant
      exact ih vacant
    | error trouble =>
      rw [entered] at vacant
      cases trouble with
      | missing =>
        rw [List.all_eq_true] at vacant ⊢
        intro other member
        have below := vacant other member
        rw [staysBelow, Bool.and_eq_true] at below
        exact below.1
      | _ => cases vacant

/-- The last name of a vacant way leads nowhere above. -/
theorem staysBelow_of_isVacant (vacant : tree.isVacant here (names ++ [name]) = true) :
    staysBelow name = true := by
  induction names generalizing here with
  | nil =>
    obtain ⟨-, notDots, short, -⟩ := enter_eq_missing.mp (enter_of_isVacant rfl vacant)
    simp [staysBelow, notDots, short]
  | cons first names ih =>
    rw [List.cons_append, isVacant] at vacant
    split at vacant
    · exact ih vacant
    · exact List.all_eq_true.mp vacant name (List.mem_append_right _ (List.mem_singleton.mpr rfl))
    · cases vacant

/-- Where directories are made on a vacant way it stays vacant, unless the last one is made. -/
theorem Extends.isVacant_or_walk (ext : tree.Extends after start way none)
    (wellFormed : tree.WellFormed) (dotless : Name.dot ∉ names)
    (vacant : tree.isVacant here names = true) :
    after.isVacant here names = true ∨
      ∃ place, after.walk here names = .ok place ∧ tree.node? place = none := by
  induction names generalizing here with
  | nil => cases vacant
  | cons name names ih =>
    have dotless' : Name.dot ∉ names := fun member => dotless (.tail _ member)
    rw [isVacant] at vacant
    rw [isVacant, walk_cons]
    split at vacant
    · rename_i there entered
      rw [ext.keeps.enter entered]
      exact ih dotless' vacant
    · rename_i entered
      obtain ⟨notDot, notDots, short, free⟩ := enter_eq_missing.mp entered
      cases made : after.node? (here ++ [name]) with
      | none =>
        rw [enter_eq_missing.mpr ⟨notDot, notDots, short, made⟩]
        exact .inl vacant
      | some node =>
        cases ext.added _ _ free made with
        | file spare => cases spare
        | directory =>
          have entered' : after.enter here name = .ok (here ++ [name]) := by
            rw [enter, if_neg notDot, if_neg notDots, if_neg (by omega), made]
          rw [entered']
          cases names with
          | nil => exact .inr ⟨_, rfl, free⟩
          | cons next names =>
            -- Nothing was behind the missing directory, so the way was vacant from there as well.
            refine ih dotless' ?_
            obtain ⟨first, rest⟩ : staysBelow next = true ∧ names.all staysBelow = true := by
              simpa using vacant
            simp only [staysBelow, Bool.and_eq_true, decide_eq_true_eq] at first
            have notDot' : next ≠ Name.dot := fun same => dotless' (same ▸ List.mem_cons_self ..)
            rw [isVacant, enter_eq_missing.mpr
              ⟨notDot', first.1, first.2, wellFormed.node?_append free [next]⟩]
            exact rest
    · cases vacant

section Shows

variable {current : Place} {path : Text}

/-- A path goes on showing what it shows, if its way stays vacant. -/
theorem Extends.showsOn (ext : tree.Extends after start way spare?)
    (vacant : tree.isVacant (startOf current path) (namesOf path) = true →
      after.isVacant (startOf current path) (namesOf path) = true) :
    tree.ShowsOn after current path := by
  intro content? shows
  cases content? with
  | none => exact shows.of_vacant vacant
  | some content =>
    refine shows.of_stays ext.keeps fun place there => ?_
    obtain ⟨node, found⟩ := Option.isSome_iff_exists.mp there
    rw [found, ext.stays place node found]

variable (wellFormed : tree.WellFormed) (wellFormed' : after.WellFormed)
  (inside : tree.IsDirectory current)

include wellFormed wellFormed' inside

/-- A vacant way does not come to lead to a directory. -/
theorem Extends.not_walk
    (ext : tree.Extends after (startOf current path)
      ((Path.ofText path).parent.names.map Name.ofText) spare?)
    (vacant : tree.isVacant (startOf current path) (namesOf path) = true) :
    after.walk (startOf current path) (namesOf path) ≠ .ok place := by
  intro walked
  have down := goesDown_of_isVacant vacant
  have inside' := isDirectory_startOf inside path
  obtain ⟨mode, there⟩ := wellFormed'.isDirectory_of_walk (ext.keeps _ inside') walked
  have free : tree.node? place = none := by
    rcases ext.walk_before wellFormed down walked with before | free
    · cases (walk_of_isVacant vacant).symm.trans before
    · exact free
  cases ext.added _ _ free there with
  | directory names first walked' =>
    have there := ext.node?_of_walk_parent wellFormed inside down first walked' walked
    simp [free] at there

/-- Directories on the way to what a path shows change nothing of it. -/
theorem Extends.showsOn_of_none
    (ext : tree.Extends after (startOf current path)
      ((Path.ofText path).parent.names.map Name.ofText) none) :
    tree.ShowsOn after current path := by
  refine ext.showsOn fun vacant => ?_
  have never (place : Place) : after.walk (startOf current path) (namesOf path) ≠ .ok place :=
    ext.not_walk wellFormed wellFormed' inside vacant
  rw [← isVacant_filter] at vacant ⊢
  rcases ext.isVacant_or_walk wellFormed (by simp) vacant with still | ⟨place, walked, -⟩
  · exact still
  · exact absurd ((walk_filter ..).symm.trans walked) (never place)

/-- A spare file beside what a path shows changes nothing of it. -/
theorem Extends.showsOn_of_walk
    (ext : tree.Extends after (startOf current path)
      ((Path.ofText path).parent.names.map Name.ofText) spare?)
    (apart : ∀ spare ∈ spare?, spare.getLast? ≠ some (Name.ofText (Path.ofText path).name))
    (walked : after.walk (startOf current path)
      ((Path.ofText path).parent.names.map Name.ofText) = .ok there) :
    tree.ShowsOn after current path := by
  refine ext.showsOn fun vacant => ?_
  have never (place : Place) : after.walk (startOf current path) (namesOf path) ≠ .ok place :=
    ext.not_walk wellFormed wellFormed' inside vacant
  rw [← walk_filter, ← map_names_ofText] at never
  rw [← isVacant_filter, ← map_names_ofText] at vacant ⊢
  cases found : (Path.ofText path).names.getLast? with
  | none =>
    rw [List.getLast?_eq_none_iff.mp found] at vacant
    cases vacant
  | some name =>
    have cut : (Path.ofText path).names.map Name.ofText =
        (Path.ofText path).parent.names.map Name.ofText ++ [Name.ofText name] := by
      rw [Path.parent, ← List.map_singleton, ← List.map_append,
        List.dropLast_append_getLast? name found]
    have notDot : Name.ofText name ≠ Name.dot := by
      have member : Name.ofText name ∈ (Path.ofText path).names.map Name.ofText := by simp [cut]
      rw [map_names_ofText] at member
      simpa using (List.mem_filter.mp member).2
    rw [cut] at vacant never ⊢
    obtain ⟨notDots, short⟩ : Name.ofText name ≠ Name.dots ∧
        (Name.ofText name).length ≤ Name.maxLength := by
      simpa [staysBelow] using staysBelow_of_isVacant vacant
    suffices free : after.node? (there ++ [Name.ofText name]) = none by
      rw [isVacant_append walked, isVacant, enter_eq_missing.mpr ⟨notDot, notDots, short, free⟩]
      rfl
    cases made : after.node? (there ++ [Name.ofText name]) with
    | none => rfl
    | some node =>
      exfalso
      cases node with
      | directory mode => exact never _ (walk_concat walked notDot notDots short made)
      | file number mode content =>
        have free : tree.node? (there ++ [Name.ofText name]) = none := by
          have down := goesDown_append (goesDown_of_isVacant vacant)
          rcases ext.walk_before wellFormed down walked with walked' | free
          · exact (enter_eq_missing.mp (enter_of_isVacant walked' vacant)).2.2.2
          · exact wellFormed.node?_append free _
        cases ext.added _ _ free made with
        | file spare => exact apart _ spare (by simp [Path.name, found])

end Shows

end Tree

end Keyring
