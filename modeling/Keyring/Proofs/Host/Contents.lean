import Mathlib.Data.Option.Defs
import Keyring.Proofs.Host.Numbers
import Keyring.Proofs.Host.Routine

/-!
# What files hold

Two hosts may be alike in everything but what their files hold (`Host.Alike`). Every path leads to
the same place on both, so whatever is called for to start a session is replied to alike, and leaves
them alike (`Host.Alike.run_starting`). Reading a file tells them apart, but no further than the file
holds different things (`Host.Alike.answer_readFile`). What has no part in files goes on alike however
they differ (`Host.DiffersInFiles.run`).
-/

namespace Keyring

/-- Two results are one failure, or values that are related. -/
inductive Except.Alike {ε α β : Type} (related : α → β → Prop) : Except ε α → Except ε β → Prop
  | error (fault : ε) : Alike related (.error fault) (.error fault)
  | ok {value : α} {other : β} (values : related value other) :
      Alike related (.ok value) (.ok other)

namespace Except.Alike

variable {ε α β γ δ : Type} {related : α → β → Prop} {result : Except ε α} {other : Except ε β}

/-- A result is like itself. -/
theorem refl {related : α → α → Prop} (related_refl : ∀ value, related value value)
    (result : Except ε α) : Except.Alike related result result :=
  match result with
  | .error fault => .error fault
  | .ok value => .ok (related_refl value)

/-- Related values may be changed into values that are related. -/
theorem map {still : γ → δ → Prop} (alike : Except.Alike related result other) {change : α → γ}
    {change' : β → δ}
    (kept : ∀ value other, related value other → still (change value) (change' other)) :
    Except.Alike still (result.map change) (other.map change') := by
  cases alike with
  | error fault => exact .error fault
  | ok values => exact .ok (kept _ _ values)

/-- Results with equal values are equal. -/
theorem eq {result other : Except ε α} (alike : Except.Alike Eq result other) : other = result := by
  cases alike with
  | error fault => rfl
  | ok values => exact congrArg _ values.symm

end Except.Alike

variable {same : Bytes → Bytes → Prop}

/-- Two nodes are alike but for what they hold as files. -/
inductive Node.Alike (same : Bytes → Bytes → Prop) : Node → Node → Prop
  | directory (mode : Nat) : Alike same (.directory mode) (.directory mode)
  | file (number mode : Nat) {content other : Bytes} (holds : same content other) :
      Alike same (.file number mode content) (.file number mode other)

namespace Tree

/-- Two trees are alike but for what their files hold. -/
structure Alike (same : Bytes → Bytes → Prop) (tree other : Tree) : Prop where
  node : ∀ place, Option.Rel (Node.Alike same) (tree.node? place) (other.node? place)
  nextNumber : other.nextNumber = tree.nextNumber

variable {tree other : Tree} {current : Place} {path : Text}

namespace Alike

/-- A tree is like itself. -/
theorem refl (same_refl : ∀ content, same content content) (tree : Tree) : tree.Alike same tree where
  node place := by
    cases tree.node? place with
    | none => exact .none
    | some node =>
      cases node with
      | directory mode => exact .some (.directory mode)
      | file number mode content => exact .some (.file number mode (same_refl content))
  nextNumber := rfl

theorem mono {wider : Bytes → Bytes → Prop} (alike : tree.Alike same other)
    (within : ∀ content content', same content content' → wider content content') :
    tree.Alike wider other where
  node place := by
    have there := alike.node place
    generalize tree.node? place = node? at there ⊢
    generalize other.node? place = node'? at there ⊢
    rcases there with ⟨mode | ⟨number, mode, holds⟩⟩ | _
    · exact .some (.directory mode)
    · exact .some (.file number mode (within _ _ holds))
    · exact .none
  nextNumber := alike.nextNumber

/-- Where files that are alike are set, the trees stay alike. -/
theorem set (alike : tree.Alike same other) (place : Place) {node node' : Node}
    (nodes : Node.Alike same node node') : (tree.set place node).Alike same (other.set place node') where
  node sought := by
    by_cases root : place = []
    · subst root
      rw [node?_set_nil, node?_set_nil]
      exact alike.node sought
    · rw [node?_set _ _ _ root, node?_set _ _ _ root]
      split
      · exact .some nodes
      · exact alike.node sought
  nextNumber := by rw [nextNumber_set, nextNumber_set, alike.nextNumber]

/-- A place holds nothing in both, the same directory, or files that are alike. -/
theorem node_cases (alike : tree.Alike same other) (place : Place) :
    (tree.node? place = none ∧ other.node? place = none) ∨
      (∃ mode, tree.node? place = some (.directory mode) ∧
        other.node? place = some (.directory mode)) ∨
      ∃ number mode content content', tree.node? place = some (.file number mode content) ∧
        other.node? place = some (.file number mode content') ∧ same content content' := by
  have there := alike.node place
  generalize tree.node? place = node? at there ⊢
  generalize other.node? place = node'? at there ⊢
  rcases there with ⟨mode | ⟨number, mode, holds⟩⟩ | _
  · exact .inr (.inl ⟨mode, rfl, rfl⟩)
  · exact .inr (.inr ⟨number, mode, _, _, rfl, rfl, holds⟩)
  · exact .inl ⟨rfl, rfl⟩

/-- The same places hold something. -/
theorem isSome (alike : tree.Alike same other) (place : Place) :
    (other.node? place).isSome = (tree.node? place).isSome := by
  rcases alike.node_cases place with ⟨here, there⟩ | ⟨_, here, there⟩ | ⟨_, _, _, _, here, there, -⟩
  all_goals rw [here, there]
  rfl

/-! ## Ways -/

theorem enter (alike : tree.Alike same other) (here : Place) (name : Name) :
    other.enter here name = tree.enter here name := by
  unfold Tree.enter
  rcases alike.node_cases (here ++ [name]) with
    ⟨here, there⟩ | ⟨_, here, there⟩ | ⟨_, _, _, _, here, there, -⟩
  all_goals rw [here, there]

theorem walk (alike : tree.Alike same other) (here : Place) (names : List Name) :
    other.walk here names = tree.walk here names := by
  induction names generalizing here with
  | nil => rfl
  | cons name names ih =>
    rw [walk_cons, walk_cons, alike.enter]
    exact congrArg _ (funext ih)

/-- A path ends at the same spot. -/
theorem locate (alike : tree.Alike same other) (current : Place) (path : Text) :
    other.locate current path = tree.locate current path := by
  rw [locate_eq, locate_eq]
  simp only [alike.walk]

theorem lookup (alike : tree.Alike same other) (current : Place) (path : Text) :
    Except.Alike (fun found found' => found'.1 = found.1 ∧ Node.Alike same found.2 found'.2)
      (tree.lookup current path) (other.lookup current path) := by
  unfold Tree.lookup
  rw [alike.locate]
  cases tree.locate current path with
  | error trouble => exact .error trouble
  | ok spot =>
    cases spot with
    | reached place => exact .ok ⟨rfl, .directory _⟩
    | named parent name slash =>
      dsimp only
      rcases alike.node_cases (parent ++ [name]) with
        ⟨here, there⟩ | ⟨mode, here, there⟩ | ⟨number, mode, _, _, here, there, holds⟩
      all_goals rw [here, there]
      · exact .error _
      · exact .ok ⟨rfl, .directory mode⟩
      · cases slash with
        | true => exact .error _
        | false => exact .ok ⟨rfl, .file number mode holds⟩

/-! ## Calls -/

/-- What is read is what the files hold. -/
theorem read (alike : tree.Alike same other) (current : Place) (path : Text) :
    Except.Alike same (tree.read current path) (other.read current path) := by
  have found := alike.lookup current path
  unfold Tree.read
  generalize tree.lookup current path = result at found ⊢
  generalize other.lookup current path = result' at found ⊢
  rcases found with trouble | @⟨⟨place, node⟩, ⟨place', node'⟩, rfl, _ | ⟨_, _, holds⟩⟩
  · exact .error trouble
  · exact .error _
  · exact .ok holds

theorem makeDirectory (alike : tree.Alike same other) (current : Place) (path : Text) :
    Except.Alike (Tree.Alike same) (tree.makeDirectory current path)
      (other.makeDirectory current path) := by
  unfold Tree.makeDirectory
  rw [alike.locate]
  cases tree.locate current path with
  | error trouble => exact .error trouble
  | ok spot =>
    cases spot with
    | reached place => exact .error _
    | named parent name slash =>
      dsimp only
      rw [alike.isSome]
      split
      · exact .error _
      · exact .ok (alike.set _ (.directory _))

/-- A directory gets other permissions, unless it is the root. -/
theorem set_directory (alike : tree.Alike same other) (place : Place) (mode : Nat) :
    Tree.Alike same
      (if (tree.nodes.find? (·.1 = place)).isSome then tree.set place (.directory mode) else tree)
      (if (other.nodes.find? (·.1 = place)).isSome then other.set place (.directory mode)
        else other) := by
  by_cases root : place = []
  · subst root
    -- The root may be listed in one of the two alone, but what it holds is not looked up there.
    have nodes (tree : Tree) (sought : Place) :
        (if (tree.nodes.find? (·.1 = [])).isSome then tree.set [] (.directory mode)
          else tree).node? sought = tree.node? sought := by
      split
      · exact node?_set_nil tree _ sought
      · rfl
    have number (tree : Tree) :
        (if (tree.nodes.find? (·.1 = [])).isSome then tree.set [] (.directory mode)
          else tree).nextNumber = tree.nextNumber := by
      split
      · exact nextNumber_set _
      · rfl
    refine ⟨fun sought => ?_, ?_⟩
    · rw [nodes, nodes]
      exact alike.node sought
    · rw [number, number, alike.nextNumber]
  · have listed (tree : Tree) :
        (tree.nodes.find? (·.1 = place)).isSome = (tree.node? place).isSome := by
      rw [node?_of_ne_nil _ root, Option.isSome_map]
    rw [listed, listed, alike.isSome]
    split
    · exact alike.set place (.directory mode)
    · exact alike

theorem setMode (alike : tree.Alike same other) (current : Place) (path : Text) (mode : Nat) :
    Except.Alike (Tree.Alike same) (tree.setMode current path mode)
      (other.setMode current path mode) := by
  have found := alike.lookup current path
  unfold Tree.setMode
  generalize tree.lookup current path = result at found ⊢
  generalize other.lookup current path = result' at found ⊢
  rcases found with trouble | @⟨⟨place, node⟩, ⟨place', node'⟩, rfl, _ | ⟨number, _, holds⟩⟩
  · exact .error trouble
  · exact .ok (alike.set_directory _ mode)
  · exact .ok (alike.set _ (.file number mode holds))

/-- A new file is empty in both. -/
theorem createFile (alike : tree.Alike same other) (empty : same [] []) (current : Place)
    (path : Text) (mode : Nat) :
    Except.Alike (Tree.Alike same) (tree.createFile current path mode)
      (other.createFile current path mode) := by
  unfold Tree.createFile
  rw [alike.locate]
  cases tree.locate current path with
  | error trouble => exact .error trouble
  | ok spot =>
    cases spot with
    | reached place => exact .error _
    | named parent name slash =>
      dsimp only
      rw [alike.isSome, alike.nextNumber]
      split
      · exact .error _
      · split
        · exact .error _
        · have set := alike.set (parent ++ [name]) (.file tree.nextNumber mode empty)
          exact .ok ⟨set.node, rfl⟩

theorem openFile (alike : tree.Alike same other) (empty : same [] []) (current : Place)
    (path : Text) :
    Except.Alike (fun opened opened' => opened.1 = opened'.1 ∧ Tree.Alike same opened.2 opened'.2)
      (tree.openFile current path) (other.openFile current path) := by
  have found := alike.lookup current path
  unfold Tree.openFile
  generalize tree.lookup current path = result at found ⊢
  generalize other.lookup current path = result' at found ⊢
  rcases found with trouble | @⟨⟨place, node⟩, ⟨place', node'⟩, rfl, _ | ⟨number, _, holds⟩⟩
  · cases trouble
    case missing =>
      exact (alike.createFile empty current path 0o644).map fun _ _ after =>
        ⟨alike.nextNumber.symm, after⟩
    all_goals exact .error _
  · exact .error _
  · exact .ok ⟨rfl, alike⟩

end Alike

end Tree

/-! ## Hosts -/

namespace Host

/-- Two hosts are alike but for what their files hold. -/
def Alike (same : Bytes → Bytes → Prop) (host other : Host) : Prop :=
  ∃ tree, host.tree.Alike same tree ∧ other = { host with tree := tree }

variable {host other : Host}

namespace Alike

theorem mono {wider : Bytes → Bytes → Prop} (alike : host.Alike same other)
    (within : ∀ content content', same content content' → wider content content') :
    host.Alike wider other := by
  obtain ⟨tree, trees, rfl⟩ := alike
  exact ⟨tree, trees.mono within, rfl⟩

/-- An attempt is replied to as its effects are related, and leaves hosts alike whose trees it
leaves alike. -/
theorem attempt {α : Type} {related : α → α → Prop} (alike : host.Alike same other) (call : Call)
    (paths : List Text) {effect effect' : Tree → Except Trouble (α × Tree)}
    (effects : Except.Alike (fun had had' => related had.1 had'.1 ∧ Tree.Alike same had.2 had'.2)
      (effect host.tree) (effect' other.tree)) :
    Except.Alike related (host.attempt call paths effect).1 (other.attempt call paths effect').1 ∧
      (host.attempt call paths effect).2.Alike same (other.attempt call paths effect').2 := by
  obtain ⟨tree, trees, rfl⟩ := alike
  unfold Host.attempt
  dsimp only at effects ⊢
  cases host.faults host.performed call with
  | some error => exact ⟨.error _, tree, trees, rfl⟩
  | none =>
    cases paths.findSome? Path.fault? with
    | some fault => exact ⟨.error _, tree, trees, rfl⟩
    | none =>
      dsimp only
      generalize effect host.tree = result at effects ⊢
      generalize effect' tree = result' at effects ⊢
      rcases effects with trouble | ⟨replies, after⟩
      · exact ⟨.error _, tree, trees, rfl⟩
      · exact ⟨.ok replies, _, after, rfl⟩

/-- An attempt that only changes the tree is replied to alike. -/
theorem attempt_changing (alike : host.Alike same other) (call : Call) (paths : List Text)
    {change change' : Tree → Except Trouble Tree}
    (changes : Except.Alike (Tree.Alike same) (change host.tree) (change' other.tree)) :
    (other.attempt call paths fun tree => changing (change' tree)).1 =
        (host.attempt call paths fun tree => changing (change tree)).1 ∧
      (host.attempt call paths fun tree => changing (change tree)).2.Alike same
        (other.attempt call paths fun tree => changing (change' tree)).2 := by
  have effects : Except.Alike (fun had had' : Unit × Tree => had.1 = had'.1 ∧ had.2.Alike same had'.2)
      (changing (change host.tree)) (changing (change' other.tree)) :=
    changes.map fun _ _ after => ⟨rfl, after⟩
  have ends : Except.Alike Eq (host.attempt call paths fun tree => changing (change tree)).1
      (other.attempt call paths fun tree => changing (change' tree)).1 ∧ _ :=
    alike.attempt call paths effects
  exact ⟨ends.1.eq, ends.2⟩

/-- Whatever is called for to start a session is replied to alike, if new files are alike. -/
theorem answer (alike : host.Alike same other) (empty : same [] []) {call : Call}
    (starting : call.isStarting = true) :
    (other.answer call).1 = (host.answer call).1 ∧
      (host.answer call).2.Alike same (other.answer call).2 := by
  obtain ⟨tree, trees, rfl⟩ := alike
  have alike : host.Alike same { host with tree := tree } := ⟨tree, trees, rfl⟩
  cases call with
  | makeDirectory path => exact alike.attempt_changing _ _ (trees.makeDirectory host.current path)
  | setMode path mode => exact alike.attempt_changing _ _ (trees.setMode host.current path mode)
  | openLog path =>
    have ends : Except.Alike Eq (host.answer (.openLog path)).1
        (Host.answer { host with tree := tree } (.openLog path)).1 ∧ _ :=
      alike.attempt (.openLog path) _ (trees.openFile empty host.current (host.absolute path))
    exact ⟨ends.1.eq, ends.2⟩
  | isDirectory path =>
    refine ⟨?_, alike⟩
    have found := trees.lookup host.current path
    unfold Host.answer
    dsimp only
    generalize host.tree.lookup host.current path = result at found ⊢
    generalize tree.lookup host.current path = result' at found ⊢
    rcases found with trouble | @⟨⟨place, node⟩, ⟨place', node'⟩, rfl, _ | _⟩
    all_goals rfl
  | «variable» name => exact ⟨rfl, alike⟩
  | depth => exact ⟨rfl, alike⟩
  | homeOf owner => exact ⟨rfl, alike⟩
  | now => exact ⟨rfl, alike⟩
  | _ => cases starting

/-- A file is read as what it holds there and here. -/
theorem answer_readFile (alike : host.Alike same other) (path : Text) :
    Except.Alike same (host.answer (.readFile path)).1 (other.answer (.readFile path)).1 ∧
      (host.answer (.readFile path)).2.Alike same (other.answer (.readFile path)).2 := by
  obtain ⟨tree, trees, rfl⟩ := alike
  refine Alike.attempt ⟨tree, trees, rfl⟩ _ _ ?_
  exact (trees.read host.current path).map fun _ _ holds => ⟨holds, trees⟩

/-- A plan that only makes calls to start a session has one value on both hosts. -/
theorem run_starting {α : Type} {plan : Plan α} (makes : plan.Makes (·.isStarting = true))
    (alike : host.Alike same other) (empty : same [] []) :
    (plan.run other).1 = (plan.run host).1 ∧ (plan.run host).2.Alike same (plan.run other).2 :=
  makes.run_related (fun starting alike => alike.answer empty starting) alike

end Alike

/-! ## What is shown -/

/-- Nothing but the files of two hosts differs. -/
def DiffersInFiles (host other : Host) : Prop :=
  ∃ tree, other = { host with tree := tree }

theorem Alike.differsInFiles (alike : host.Alike same other) : host.DiffersInFiles other := by
  obtain ⟨tree, -, rfl⟩ := alike
  exact ⟨tree, rfl⟩

theorem DiffersInFiles.output (differs : host.DiffersInFiles other) : other.output = host.output := by
  obtain ⟨tree, rfl⟩ := differs
  rfl

theorem DiffersInFiles.errors (differs : host.DiffersInFiles other) : other.errors = host.errors := by
  obtain ⟨tree, rfl⟩ := differs
  rfl

/-- Files have no part in whether a file takes some octets. -/
theorem DiffersInFiles.hand (differs : host.DiffersInFiles other) (call : Call) (number : Nat)
    (bytes : Bytes) :
    (other.hand call number bytes).1 = (host.hand call number bytes).1 ∧
      (host.hand call number bytes).2.DiffersInFiles (other.hand call number bytes).2 := by
  obtain ⟨tree, rfl⟩ := differs
  unfold Host.hand
  dsimp only
  cases host.faults host.performed call with
  | some error => exact ⟨rfl, tree, rfl⟩
  | none => exact ⟨rfl, _, rfl⟩

/-- Files have no part in what a call shows. -/
theorem DiffersInFiles.answer (differs : host.DiffersInFiles other) {call : Call}
    (showing : call.isShowing = true) :
    (other.answer call).1 = (host.answer call).1 ∧
      (host.answer call).2.DiffersInFiles (other.answer call).2 := by
  have handed := differs.hand
  obtain ⟨tree, rfl⟩ := differs
  cases call with
  | append number bytes => exact handed ..
  | flush number =>
    unfold Host.answer
    dsimp only
    split
    · exact ⟨rfl, tree, rfl⟩
    · exact handed ..
  | closeLog number =>
    obtain ⟨same, after, equal⟩ := handed (.closeLog number) number []
    exact ⟨same, after, congrArg (forgetting · number) equal⟩
  | now => exact ⟨rfl, tree, rfl⟩
  | print text =>
    have same : Host.printError? { host with tree := tree } (.print text) text =
        host.printError? (.print text) text := rfl
    unfold Host.answer
    dsimp only
    rw [same]
    cases host.printError? (.print text) text <;> exact ⟨rfl, tree, rfl⟩
  | printError text =>
    unfold Host.answer
    dsimp only
    cases host.faults host.performed (.printError text) <;> exact ⟨rfl, tree, rfl⟩
  | _ => cases showing

/-- A plan that only shows something has one value on both hosts. -/
theorem DiffersInFiles.run {α : Type} {plan : Plan α} (makes : plan.Makes (·.isShowing = true))
    (differs : host.DiffersInFiles other) :
    (plan.run other).1 = (plan.run host).1 ∧
      (plan.run host).2.DiffersInFiles (plan.run other).2 :=
  makes.run_related (fun showing differs => differs.answer showing) differs

end Host

end Keyring
