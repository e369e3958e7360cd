import Keyring.Proofs.Host.Course

/-!
# The numbers of files

Whoever has opened a file goes on writing to its number. That one file grows by it, and the same file
as long as the path leads there, rests on the numbers: no two files of a tree have the same one, and
the next one is free (`Tree.Numbered`).

A file leaves its place only when it is moved or removed. A plan that does neither leaves each where it
is and gives new ones new numbers (`Plan.Makes.stays`).
-/

namespace Keyring

/-- The number of a file. -/
def Node.number? : Node → Option Nat
  | .directory _ => none
  | .file number _ _ => some number

namespace Tree

variable {tree middle after : Tree} {current place other : Place} {path : Text} {number : Nat}

/-- The number of the file that a place holds. -/
def numberAt (tree : Tree) (place : Place) : Option Nat :=
  (tree.node? place).bind Node.number?

theorem numberAt_eq_some :
    tree.numberAt place = some number ↔
      ∃ mode content, tree.node? place = some (.file number mode content) := by
  unfold numberAt
  rcases tree.node? place with - | ⟨mode⟩ | ⟨stored, mode, content⟩ <;> simp [Node.number?]

/-- A place below the root that is set has the number of what it was set to. -/
theorem numberAt_set (node : Node) (below : place ≠ []) :
    (tree.set place node).numberAt other =
      if other = place then node.number? else tree.numberAt other := by
  unfold numberAt
  rw [node?_set _ _ _ below]
  split <;> rfl

/-- Setting a place takes no new number. -/
@[simp]
theorem nextNumber_set (node : Node) : (tree.set place node).nextNumber = tree.nextNumber := by
  unfold set
  split <;> rfl

/-- Appending changes no number. -/
theorem numberAt_append (bytes : Bytes) :
    (tree.append number bytes).numberAt place = tree.numberAt place := by
  unfold numberAt
  rw [node?_append]
  rcases tree.node? place with - | ⟨mode⟩ | ⟨stored, mode, content⟩ <;> rfl

/-- Files have numbers of their own, all of them below the next one. -/
structure Numbered (tree : Tree) : Prop where
  below : ∀ place number, tree.numberAt place = some number → number < tree.nextNumber
  apart : ∀ place other number, tree.numberAt place = some number →
    tree.numberAt other = some number → place = other

/-- Where there are no files, none share a number. -/
theorem Numbered.empty : Numbered .empty := by
  have none (place : Place) : Tree.empty.numberAt place = none := by
    unfold numberAt
    by_cases root : place = []
    · subst root
      rfl
    · rw [node?_of_ne_nil _ root]
      rfl
  exact ⟨fun place number found => by simp [none] at found,
    fun place other number found => by simp [none] at found⟩

/-- Each file is still where it was, and those that have come since have numbers of their own. -/
structure Stays (tree after : Tree) : Prop where
  files : ∀ place number, tree.numberAt place = some number → after.numberAt place = some number
  numbered : after.Numbered

theorem Stays.trans (first : tree.Stays middle) (next : middle.Stays after) : tree.Stays after :=
  ⟨fun place number found => next.files place number (first.files place number found),
    next.numbered⟩

/-- A path leads to the same file as long as directories and files stay. -/
theorem Stays.lookup (stays : tree.Stays after) (keeps : tree.Keeps after) {mode : Nat}
    {content : Bytes} (found : tree.lookup current path = .ok (place, .file number mode content)) :
    ∃ mode content, after.lookup current path = .ok (place, .file number mode content) := by
  obtain ⟨parent, name, located, same, there⟩ := lookup_eq_file.mp found
  obtain ⟨mode, content, here⟩ :=
    numberAt_eq_some.mp (stays.files place number (numberAt_eq_some.mpr ⟨mode, content, there⟩))
  exact ⟨mode, content, lookup_eq_file.mpr ⟨parent, name, keeps.locate located, same, here⟩⟩

namespace Numbered

/-- Where all numbers are the same, files stay. -/
theorem stays_of_same (numbered : tree.Numbered)
    (same : ∀ place, after.numberAt place = tree.numberAt place)
    (next : after.nextNumber = tree.nextNumber) : tree.Stays after where
  files place number found := (same place).trans found
  numbered :=
    { below := fun place number found => by
        rw [same] at found
        exact next ▸ numbered.below place number found
      apart := fun place other number found found' => by
        rw [same] at found found'
        exact numbered.apart place other number found found' }

theorem stays_refl (numbered : tree.Numbered) : tree.Stays tree :=
  numbered.stays_of_same (fun _ => rfl) rfl

theorem stays_append (numbered : tree.Numbered) (number : Nat) (bytes : Bytes) :
    tree.Stays (tree.append number bytes) :=
  numbered.stays_of_same (fun _ => numberAt_append bytes) rfl

/-- Putting something with the same number, or none, where something was. -/
theorem stays_set (numbered : tree.Numbered) {node : Node} (below : place ≠ [])
    (same : node.number? = tree.numberAt place) : tree.Stays (tree.set place node) := by
  refine numbered.stays_of_same (fun other => ?_) (nextNumber_set node)
  rw [numberAt_set node below]
  split
  · rename_i here
    rw [here, same]
  · rfl

theorem stays_makeDirectory (numbered : tree.Numbered)
    (made : tree.makeDirectory current path = .ok after) : tree.Stays after := by
  obtain ⟨parent, name, slash, -, free, rfl⟩ := makeDirectory_ok made
  exact numbered.stays_set (by simp) (by simp [numberAt, free, Node.number?])

/-- A new file takes the next number. -/
theorem stays_createFile (numbered : tree.Numbered) {mode : Nat}
    (made : tree.createFile current path mode = .ok after) : tree.Stays after := by
  obtain ⟨parent, name, -, free, rfl⟩ := createFile_ok made
  have numbers (other : Place) :
      ({ tree.set (parent ++ [name]) (.file tree.nextNumber mode []) with
        nextNumber := tree.nextNumber + 1 } : Tree).numberAt other =
        if other = parent ++ [name] then some tree.nextNumber else tree.numberAt other :=
    numberAt_set (.file tree.nextNumber mode []) (by simp)
  have empty : tree.numberAt (parent ++ [name]) = none := by simp [numberAt, free]
  refine ⟨fun other number found => ?_, fun other number found => ?_,
    fun first second number found found' => ?_⟩
  · have different : other ≠ parent ++ [name] := fun same => by simp [same, empty] at found
    rw [numbers, if_neg different, found]
  · rw [numbers] at found
    split at found
    · cases found
      exact Nat.lt_succ_self _
    · exact Nat.lt_succ_of_lt (numbered.below other number found)
  · rw [numbers] at found found'
    split at found <;> split at found'
    · rename_i here there
      rw [here, there]
    · cases found
      exact absurd (numbered.below second _ found') (Nat.lt_irrefl _)
    · cases found'
      exact absurd (numbered.below first _ found) (Nat.lt_irrefl _)
    · exact numbered.apart first second number found found'

theorem stays_openFile (numbered : tree.Numbered)
    (opened : tree.openFile current path = .ok (number, after)) : tree.Stays after := by
  rcases openFile_ok opened with rfl | made
  · exact numbered.stays_refl
  · exact numbered.stays_createFile made

theorem stays_fill (numbered : tree.Numbered) {content : Bytes}
    (filled : tree.fill current path content = .ok after) : tree.Stays after := by
  obtain ⟨place, number, mode, old, found, rfl⟩ := fill_ok filled
  obtain ⟨parent, name, -, rfl, there⟩ := lookup_eq_file.mp found
  exact numbered.stays_set (by simp) (by simp [numberAt, there, Node.number?])

/-- Other permissions are no other file. -/
theorem stays_setMode (numbered : tree.Numbered) (formed : tree.WellFormed)
    (start : tree.IsDirectory current) {mode : Nat}
    (changed : tree.setMode current path mode = .ok after) : tree.Stays after := by
  rcases setMode_ok changed with
    ⟨place, number, old, content, found, rfl⟩ | ⟨place, old, found, rfl | rfl⟩
  · obtain ⟨parent, name, -, rfl, there⟩ := lookup_eq_file.mp found
    exact numbered.stays_set (by simp) (by simp [numberAt, there, Node.number?])
  · by_cases root : place = []
    · subst root
      refine numbered.stays_of_same (fun other => ?_) (nextNumber_set _)
      rw [numberAt, node?_set_nil, numberAt]
    · obtain ⟨_, there⟩ := formed.isDirectory_of_lookup start found
      exact numbered.stays_set root (by simp [numberAt, there, Node.number?])
  · exact numbered.stays_refl

end Numbered

/-! ## Opening and appending -/

/-- The path of a file that is opened leads to the file of the number. -/
theorem lookup_of_openFile (opened : tree.openFile current path = .ok (number, after)) :
    ∃ place mode content, after.lookup current path = .ok (place, .file number mode content) := by
  unfold openFile at opened
  split at opened
  · rename_i place found mode content there
    cases opened
    exact ⟨place, mode, content, there⟩
  · cases opened
  · cases made : tree.createFile current path 0o644 with
    | error trouble => simp [made, Except.map] at opened
    | ok grown =>
      rw [made] at opened
      cases opened
      obtain ⟨parent, name, located, free, rfl⟩ := createFile_ok made
      have keeps : tree.Keeps { tree.set (parent ++ [name]) (.file tree.nextNumber 0o644 []) with
          nextNumber := tree.nextNumber + 1 } :=
        Keeps.set (.file tree.nextNumber 0o644 []) (by simp) (by simp [IsDirectory, free])
      refine ⟨parent ++ [name], 0o644, [], lookup_eq_file.mpr ⟨parent, name, ?_, rfl, ?_⟩⟩
      · exact keeps.locate located
      · exact (node?_set tree _ _ (by simp)).trans (if_pos rfl)
  · cases opened

/-- The file that a path leads to is longer by some octets, and nothing else is different. -/
def Gains (tree : Tree) (current : Place) (path : Text) (bytes : Bytes) (after : Tree) : Prop :=
  ∃ place number mode content, tree.lookup current path = .ok (place, .file number mode content) ∧
    ∀ other, after.node? other =
      if other = place then some (.file number mode (content ++ bytes)) else tree.node? other

/-- What is appended to the number of a file gets into this file alone. -/
theorem Numbered.gains_append (numbered : tree.Numbered) {mode : Nat} {content : Bytes}
    (found : tree.lookup current path = .ok (place, .file number mode content)) (bytes : Bytes) :
    tree.Gains current path bytes (tree.append number bytes) := by
  obtain ⟨parent, name, -, -, there⟩ := lookup_eq_file.mp found
  refine ⟨place, number, mode, content, found, fun other => ?_⟩
  rw [node?_append]
  split
  · rename_i same
    subst same
    simp [there]
  · rename_i different
    rcases stored : tree.node? other with - | ⟨old⟩ | ⟨second, old, kept⟩
    · rfl
    · rfl
    · have unlike : second ≠ number := fun same =>
        different (numbered.apart other place number
          (numberAt_eq_some.mpr ⟨old, kept, same ▸ stored⟩)
          (numberAt_eq_some.mpr ⟨mode, content, there⟩))
      simp [unlike]

/-- A file that got longer is read as what it was and what it got. -/
theorem Gains.read {bytes content : Bytes} (gains : tree.Gains current path bytes after)
    (read : tree.read current path = .ok content) :
    after.read current path = .ok (content ++ bytes) := by
  obtain ⟨place, number, mode, old, found, nodes⟩ := gains
  obtain ⟨parent, name, located, same, there⟩ := lookup_eq_file.mp found
  have keeps : tree.Keeps after := by
    rintro other ⟨permissions, stored⟩
    have different : other ≠ place := fun here => by simp [here, there] at stored
    exact ⟨permissions, by rw [nodes, if_neg different, stored]⟩
  obtain ⟨_, _, _, found'⟩ := read_eq_ok.mp read
  rw [found] at found'
  cases found'
  exact read_eq_ok.mpr ⟨place, number, mode, lookup_eq_file.mpr
    ⟨parent, name, keeps.locate located, same, (nodes place).trans (if_pos rfl)⟩⟩

end Tree

/-! ## Calls and plans -/

/-- A call that neither moves a file nor removes one. -/
def Call.leavesFiles : Call → Bool
  | .replace _ _ | .unlink _ => false
  | _ => true

namespace Host

variable {host : Host}

/-- No call moves the clock. -/
@[simp]
theorem moment_answer (host : Host) (call : Call) :
    (host.answer call).2.moment = host.moment := by
  rw [snd_answer]

/-- A file that takes what waits for it stays where it is. -/
theorem stays_hand (numbered : host.tree.Numbered) (call : Call) (number : Nat) (bytes : Bytes) :
    host.tree.Stays (host.hand call number bytes).2.tree := by
  unfold hand
  dsimp only
  split
  · exact numbered.stays_refl
  · exact numbered.stays_append ..

/-- A call that neither moves nor removes files leaves each where it is. -/
theorem Settled.stays_answer (settled : host.Settled) (numbered : host.tree.Numbered) {call : Call}
    (leaves : call.leavesFiles = true) : host.tree.Stays (host.answer call).2.tree := by
  have same := numbered.stays_refl
  cases call with
  | makeDirectory path =>
    exact tree_attempt_changing _ same fun after => numbered.stays_makeDirectory
  | readFile path =>
    refine tree_attempt _ same fun reply after had => ?_
    cases content : host.tree.read host.current path <;> simp [content, Except.map] at had
    exact had.2 ▸ same
  | list path =>
    refine tree_attempt _ same fun reply after had => ?_
    cases names : host.tree.names host.current path <;> simp [names, Except.map] at had
    exact had.2 ▸ same
  | createTemporary directory stem =>
    cases made : (host.answer (.createTemporary directory stem)).1 with
    | error error => exact tree_answer_createTemporary_of_error made ▸ same
    | ok path =>
      obtain ⟨-, -, created⟩ := answer_createTemporary_ok made
      exact numbered.stays_createFile created
  | fill path content => exact tree_attempt_changing _ same fun after => numbered.stays_fill
  | sync path => exact tree_answer_sync host path ▸ same
  | setMode path mode =>
    exact tree_attempt_changing _ same fun after =>
      numbered.stays_setMode settled.wellFormed settled.current
  | openLog path => exact tree_attempt _ same fun reply after => numbered.stays_openFile
  | append number bytes => exact stays_hand numbered ..
  | flush number =>
    unfold Host.answer
    dsimp only
    split
    · exact same
    · exact stays_hand numbered ..
  | closeLog number =>
    have stays : host.tree.Stays (host.hand (.closeLog number) number []).2.tree :=
      stays_hand numbered ..
    exact stays
  | print text =>
    rw [snd_answer_print]
    exact same
  | printError text =>
    rw [snd_answer_printError]
    exact same
  | ask prompt =>
    rw [Host.answer, snd_asking]
    exact same
  | askSecretly prompt =>
    rw [Host.answer, snd_asking]
    exact same
  | replace source target => cases leaves
  | unlink path => cases leaves
  | _ => exact same

/-! ## Appending at once -/

/-- Files take at once whatever is appended to them: no such call is made to fail, and nothing waits for
a file. -/
structure Appends (host : Host) : Prop where
  faultless : ∀ count number bytes, host.faults count (.append number bytes) = none
  unwritten : ∀ number, host.unwritten number = []

namespace Appends

/-- Only two things matter. -/
theorem of_same (appends : host.Appends) {after : Host} (faults : after.faults = host.faults)
    (unwritten : after.unwritten = host.unwritten) : after.Appends :=
  ⟨fun count number bytes => faults ▸ appends.faultless count number bytes,
    fun number => unwritten ▸ appends.unwritten number⟩

theorem attempt (appends : host.Appends) {α : Type} (call : Call) (paths : List Text)
    (effect : Tree → Except Trouble (α × Tree)) : (host.attempt call paths effect).2.Appends := by
  rw [snd_attempt]
  exact appends.of_same rfl rfl

theorem asking (appends : host.Appends) (call : Call) (prompt : Text) :
    (host.asking call prompt).2.Appends := by
  rw [snd_asking]
  exact appends.of_same rfl rfl

/-- What waits is no octet, whether or not the file takes it. -/
theorem hand (appends : host.Appends) (call : Call) (number : Nat) :
    (host.hand call number []).2.Appends := by
  have nothing : host.unwritten number ++ [] = [] := by rw [appends.unwritten, List.append_nil]
  refine ⟨fun count => ?_, fun other => ?_⟩
  · rw [snd_hand]
    exact appends.faultless count
  · unfold Host.hand
    dsimp only
    rw [nothing]
    split <;> dsimp only <;> split <;> first | rfl | exact appends.unwritten other

/-- What is appended gets into the file, and nothing else changes. -/
theorem answer_append (appends : host.Appends) (number : Nat) (bytes : Bytes) :
    (host.answer (.append number bytes)).2 =
      { host with
        performed := host.performed + 1
        tree := host.tree.append number bytes } := by
  have keeping : (fun other => if other = number then [] else host.unwritten other) =
      host.unwritten := by
    funext other
    split
    · exact (appends.unwritten other).symm
    · rfl
  unfold answer Host.hand
  dsimp only
  rw [appends.faultless, appends.unwritten, List.nil_append, keeping]

/-- Every call leaves it so. -/
theorem answer (appends : host.Appends) (call : Call) : (host.answer call).2.Appends := by
  cases call with
  | append number bytes =>
    rw [appends.answer_append]
    exact appends.of_same rfl rfl
  | flush number =>
    unfold Host.answer
    dsimp only
    rw [if_pos (appends.unwritten number)]
    exact appends
  | closeLog number =>
    have handed := appends.hand (.closeLog number) number
    refine ⟨handed.faultless, fun other => ?_⟩
    show (if other = number then [] else _) = []
    split
    · rfl
    · exact handed.unwritten other
  | createTemporary directory stem =>
    unfold Host.answer
    dsimp only
    split
    · exact appends.of_same rfl rfl
    · split
      · exact appends.of_same rfl rfl
      · rw [snd_createTemporary]
        exact appends.of_same rfl rfl
  | makeDirectory path => exact appends.attempt ..
  | readFile path => exact appends.attempt ..
  | list path => exact appends.attempt ..
  | fill path content => exact appends.attempt ..
  | sync path => exact appends.attempt ..
  | setMode path mode => exact appends.attempt ..
  | replace source target => exact appends.attempt ..
  | unlink path => exact appends.attempt ..
  | openLog path => exact appends.attempt ..
  | print text =>
    rw [snd_answer_print]
    exact appends.of_same rfl rfl
  | printError text =>
    rw [snd_answer_printError]
    exact appends.of_same rfl rfl
  | ask prompt => exact appends.asking ..
  | askSecretly prompt => exact appends.asking ..
  | _ => exact appends.of_same rfl rfl

/-- Every plan leaves it so. -/
theorem run (appends : host.Appends) {α : Type} (plan : Plan α) : (plan.run host).2.Appends := by
  induction plan generalizing host with
  | done value => exact appends
  | call request next ih => exact ih _ (appends.answer request)

end Appends

end Host

namespace Plan

variable {α : Type} {host : Host}

/-- No plan moves the clock. -/
@[simp]
theorem moment_run (plan : Plan α) (host : Host) : (plan.run host).2.moment = host.moment := by
  induction plan generalizing host with
  | done value => rfl
  | call request next ih => exact (ih _ _).trans (host.moment_answer request)

/-- A plan that neither moves nor removes files leaves each where it is. -/
theorem Makes.stays {plan : Plan α} (makes : plan.Makes (·.leavesFiles = true))
    (settled : host.Settled) (numbered : host.tree.Numbered) :
    host.tree.Stays (plan.run host).2.tree := by
  induction plan generalizing host with
  | done value => exact numbered.stays_refl
  | call request next ih =>
    have stays := settled.stays_answer numbered makes.1
    exact stays.trans
      (ih _ (makes.2 _) ((settled.answer request).settled settled) stays.numbered)

end Plan

end Keyring
