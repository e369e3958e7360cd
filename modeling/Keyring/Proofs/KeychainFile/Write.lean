import Keyring.KeychainFile
import Keyring.Proofs.Host.Fault
import Keyring.Proofs.Host.Paving

/-!
# Writing a file in one step

Whenever somebody looks between two calls of a write, the name of the file leads to what it led to
before or to the whole new file (`isAtomic_write`). Nothing else changes but that directories are made
on the way and that there is a spare file for a while, which is gone at the end, unless removing it
is what fails. In particular a write that succeeds leaves the content at the name, and one that fails
leaves what the name shows as it was (`ends_write`).

One kind of name is not covered: one that leads back up behind a directory that is missing. When that
is made, the name leads to another file, which may be there already.
-/

namespace Keyring

namespace Host

/-- The name of a temporary file. -/
def temporaryName (stem mark : Text) : Name :=
  Name.ofText (Text.lit "." ++ stem ++ Text.lit "." ++ mark ++ Text.lit ".tmp")

/-- The name of a temporary file is longer than the name that it is made of. -/
theorem temporaryName_ne (stem mark : Text) : temporaryName stem mark ≠ Name.ofText stem := by
  intro same
  have lengths := congrArg List.length same
  have dot : (Name.ofText (Text.lit ".")).length = 1 := by decide
  unfold temporaryName at lengths
  simp only [Name.ofText_append, List.length_append, dot] at lengths
  omega

/-- The path of a temporary file ends at its name. -/
theorem located_temporaryPath {host : Host} {tree : Tree} {directory stem mark : Text}
    {current parent : Place} {name : Name} {slash : Bool} (single : Path.separator ∉ stem)
    (single' : Path.separator ∉ mark)
    (located : tree.locate current (host.temporaryPath directory stem mark) =
      .ok (.named parent name slash)) : name = temporaryName stem mark := by
  obtain ⟨-, last, -⟩ := Tree.located_named located
  have cut : ∃ before, host.absolute directory ++
      (if (host.absolute directory).getLast? = some Path.separator then [] else [Path.separator]) =
        before ++ [Path.separator] := by
    split
    · rename_i ended
      exact ⟨_, by rw [List.append_nil, List.dropLast_append_getLast? _ ended]⟩
    · exact ⟨_, rfl⟩
  obtain ⟨before, slashed⟩ := cut
  have text : host.temporaryPath directory stem mark = before ++ Path.separator ::
      (Text.lit "." ++ stem ++ Text.lit "." ++ mark ++ Text.lit ".tmp") := by
    unfold temporaryPath
    dsimp only
    rw [slashed]
    simp
  have part : Path.parts (Text.lit "." ++ stem ++ Text.lit "." ++ mark ++ Text.lit ".tmp") =
      [Text.lit "." ++ stem ++ Text.lit "." ++ mark ++ Text.lit ".tmp"] := by
    refine Path.parts_name (by simp [Text.lit]) ?_
    simp only [List.mem_append, single, single', or_false]
    decide
  rw [text, Tree.namesOf_eq, Path.parts_append_cons, part, List.map_append] at last
  simpa [temporaryName, eq_comm] using last

end Host

namespace KeychainFile

open Keyring.Tree (namesOf startOf)
open Directory (Paves)

/-! ## What can be seen -/

/-- The place of a spare file: nothing was there, and its name is made of that of the file and a
mark. -/
structure IsSpare (name : Text) (host : Host) (place : Place) : Prop where
  free : host.tree.node? place = none
  named : ∃ index,
    place.getLast? = some (Host.temporaryName (Path.ofText name).name (host.marks index))

/-- The file of a name is not written: nothing that was there has changed, and nothing is new but
directories on the way and a spare file. The name leads to what it led to before, unless it leads back
up behind a missing directory. -/
structure Unwritten (name : Text) (spare? : Option Place) (host later : Host) : Prop where
  tree : host.tree.Extends later.tree (startOf host.current name)
    ((Path.ofText name).parent.names.map Name.ofText) spare?
  target : host.tree.goesDown (startOf host.current name) (namesOf name) = true →
    (later.tree.lookup host.current name).toOption =
      (host.tree.lookup host.current name).toOption

/-- The file of a name is written: the name leads to a file with the content that nobody but its owner
may read or write. At no other place anything has changed, and nothing is new but directories on the
way. -/
structure Written (name : Text) (content : Bytes) (host later : Host) (place : Place) (number : Nat) :
    Prop where
  target : later.tree.lookup host.current name = .ok (place, .file number mode content)
  stays : ∀ other node, other ≠ place → host.tree.node? other = some node →
    later.tree.node? other = some node
  added : ∀ other node, other ≠ place → host.tree.node? other = none →
    later.tree.node? other = some node →
      Tree.Added later.tree (startOf host.current name)
        ((Path.ofText name).parent.names.map Name.ofText) none other node

/-- The spare file is still there after the calls, since removing it, the last of them, has failed. -/
structure Abandoned (name : Text) (calls : List (Σ call : Call, call.Reply)) (host later : Host)
    (spare : Place) : Prop where
  unwritten : Unwritten name (some spare) host later
  unlinked : ∃ temporary fault node, calls.getLast? = some ⟨.unlink temporary, .error fault⟩ ∧
    later.tree.lookup later.current temporary = .ok (spare, node)

/-- How a plan that does not write the file ends: no spare file is left, or it could not be removed. -/
def Failed (name : Text) (spare? : Option Place) (calls : List (Σ call : Call, call.Reply))
    (host later : Host) : Prop :=
  Unwritten name none host later ∨ ∃ spare ∈ spare?, Abandoned name calls host later spare

/-- The file of a name is always either not written or written, also between two calls. -/
def Whole (name : Text) (content : Bytes) (spare? : Option Place) (host later : Host) : Prop :=
  Unwritten name spare? host later ∨ ∃ place number, Written name content host later place number

/-- The marks in the names of spare files may stand in paths. -/
def MarksProper (host : Host) : Prop :=
  ∀ index, Path.fault? (host.marks index) = none

/-- A plan that goes on from some host is in one step what a write is since the beginning. Where a mark
may not stand in paths, the spare file may be left. -/
def IsAtomic (name : Text) (content : Bytes) (spare? : Option Place) (origin : Host)
    (plan : Plan (Except Failure Unit)) (host : Host) : Prop :=
  plan.Passes host (Whole name content spare? origin)
    (fun _ after => ∃ place number, Written name content origin after place number)
    (fun _ after => origin.tree.ShowsOn after.tree origin.current name ∧
      (MarksProper origin → Failed name spare? (plan.trace host) origin after))

/-- A host after some calls on which nothing has changed but directories on the way and the spare
file, of which something is known. -/
structure Spared (name temporary : Text) (place : Place) (known : Nat → Bytes → Prop)
    (host later : Host) : Prop where
  follows : host.Follows later
  tree : host.tree.Extends later.tree (startOf host.current name)
    ((Path.ofText name).parent.names.map Name.ofText) (some place)
  located : ∃ parent last, later.tree.locate host.current temporary = .ok (.named parent last false) ∧
    place = parent ++ [last]
  way : ∃ inside, later.tree.walk (startOf host.current name)
    ((Path.ofText name).parent.names.map Name.ofText) = .ok inside
  file : ∃ number mode content,
    later.tree.node? place = some (.file number mode content) ∧ known mode content

variable {name temporary : Text} {place : Place} {known : Nat → Bytes → Prop} {host later : Host}
  {content : Bytes} {spare? : Option Place}

/-- A spare file has another name. -/
theorem IsSpare.getLast?_ne (spare : IsSpare name host place) :
    place.getLast? ≠ some (Name.ofText (Path.ofText name).name) := by
  intro last
  obtain ⟨index, named⟩ := spare.named
  exact Host.temporaryName_ne _ _ (Option.some.inj (named.symm.trans last))

/-- Whatever is new on the way, the name leads to what it led to. -/
theorem Unwritten.of_extends (settled : host.Settled) (follows : host.Follows later)
    (spare : ∀ place ∈ spare?, IsSpare name host place)
    (tree : host.tree.Extends later.tree (startOf host.current name)
      ((Path.ofText name).parent.names.map Name.ofText) spare?) :
    Unwritten name spare? host later := by
  exact ⟨tree, tree.lookup_eq settled.wellFormed follows.grows.wellFormed settled.current
    fun place member => (spare place member).getLast?_ne⟩

namespace Spared

/-- The spare file is where its path leads. -/
theorem lookup (spared : Spared name temporary place known host later) :
    ∃ number mode content, known mode content ∧ place ≠ [] ∧
      later.tree.lookup later.current temporary = .ok (place, .file number mode content) := by
  obtain ⟨parent, last, located, rfl⟩ := spared.located
  obtain ⟨number, mode, content, there, is⟩ := spared.file
  refine ⟨number, mode, content, is, by simp, ?_⟩
  rw [spared.follows.current]
  exact Tree.lookup_eq_file.mpr ⟨parent, last, located, rfl, there⟩

theorem noDirectory (spared : Spared name temporary place known host later) :
    ¬ later.tree.IsDirectory place := by
  obtain ⟨number, mode, content, there, -⟩ := spared.file
  simp [Tree.IsDirectory, there]

theorem mono {known' : Nat → Bytes → Prop} (spared : Spared name temporary place known host later)
    (weaker : ∀ mode content, known mode content → known' mode content) :
    Spared name temporary place known' host later where
  follows := spared.follows
  tree := spared.tree
  located := spared.located
  way := spared.way
  file := by
    obtain ⟨number, mode, content, there, is⟩ := spared.file
    exact ⟨number, mode, content, there, weaker _ _ is⟩

/-- The name shows what it showed before. -/
theorem showsOn (spared : Spared name temporary place known host later) (settled : host.Settled)
    (spare : IsSpare name host place) : host.tree.ShowsOn later.tree host.current name := by
  obtain ⟨inside, walked⟩ := spared.way
  refine spared.tree.showsOn_of_walk settled.wellFormed spared.follows.grows.wellFormed
    settled.current (fun other member => ?_) walked
  cases member
  exact spare.getLast?_ne

/-- A call that leaves the tree as it is leaves the spare file as it is. -/
theorem of_tree_eq {after : Host} (spared : Spared name temporary place known host later)
    (follows : later.Follows after) (same : after.tree = later.tree) :
    Spared name temporary place known host after where
  follows := spared.follows.trans follows
  tree := same ▸ spared.tree
  located := same ▸ spared.located
  way := same ▸ spared.way
  file := same ▸ spared.file

/-- The spare file gets other permissions or another content. -/
theorem set {after : Host} {known' : Nat → Bytes → Prop}
    (spared : Spared name temporary place known host later) (free : host.tree.node? place = none)
    (follows : later.Follows after) {number mode : Nat} {content : Bytes}
    (tree : after.tree = later.tree.set place (.file number mode content))
    (is : known' mode content) : Spared name temporary place known' host after := by
  obtain ⟨-, -, -, -, below, -⟩ := spared.lookup
  obtain ⟨parent, last, located, same⟩ := spared.located
  obtain ⟨inside, walked⟩ := spared.way
  have keeps := follows.grows.keeps
  have nodes (other : Place) : after.tree.node? other =
      if other = place then some (.file number mode content) else later.tree.node? other := by
    rw [tree, Tree.node?_set _ _ _ below]
  exact ⟨spared.follows.trans follows, spared.tree.put_file free keeps nodes,
    ⟨parent, last, keeps.locate located, same⟩, ⟨inside, keeps.walk walked⟩,
    number, mode, content, (nodes place).trans (if_pos rfl), is⟩

end Spared

/-! ## Filling and moving the spare file -/

/-- Nothing is known of the spare file but that it is there. -/
def anything (_ : Nat) (_ : Bytes) : Prop := True

/-- The spare file is there, or it has become the file of the name. -/
def Midway (name temporary : Text) (place : Place) (content : Bytes) (host later : Host) : Prop :=
  Spared name temporary place anything host later ∨
    ∃ target number, Written name content host later target number

/-- Something has failed, and the spare file is there. It is the system that has failed, unless one of
the paths is none. -/
structure Stuck (name temporary : Text) (place : Place) (host : Host) (fault : CallError)
    (later : Host) : Prop where
  system : Path.fault? temporary = none → Path.fault? name = none → ∃ error, fault = .system error
  spared : Spared name temporary place anything host later

/-- An attempt that fails leaves the spare file there, and one that succeeds does what it is for. -/
theorem Spared.passes {call : Call} {paths : List Text}
    {effect : Tree → Except Trouble (Unit × Tree)} {plan : Plan (Tried Unit)}
    {succeeded : Unit → Host → Prop} (spared : Spared name temporary place known host later)
    (runs : plan.run later = later.attempt call paths effect)
    (one : plan.hosts later = [later, (plan.run later).2])
    (among : ∀ path ∈ paths, path = temporary ∨ path = name)
    (follows : later.Follows (plan.run later).2)
    (effective : (plan.run later).1 = .ok () →
      Midway name temporary place content host (plan.run later).2 ∧
        succeeded () (plan.run later).2) :
    plan.Passes later (Midway name temporary place content host) succeeded
      (Stuck name temporary place host) := by
  refine .of_call one (.inl (spared.mono fun _ _ _ => trivial)) (fun _ done => effective done)
    fun fault failed => ?_
  rw [runs] at failed follows ⊢
  have kept : Spared name temporary place anything host (later.attempt call paths effect).2 :=
    (spared.of_tree_eq follows (Host.tree_attempt_of_error failed)).mono fun _ _ _ => trivial
  refine ⟨.inl kept, fun proper proper' => Host.attempt_eq_error (fun path member => ?_) failed, kept⟩
  rcases among path member with rfl | rfl
  · exact proper
  · exact proper'

section Steps

variable (settled : host.Settled) (free : host.tree.node? place = none)

include settled

include free in
theorem passes_fill (spared : Spared name temporary place known host later) (content : Bytes) :
    (Plan.request (.fill temporary content)).Passes later
      (Midway name temporary place content host)
      (fun _ => Spared name temporary place (fun _ filled => filled = content) host)
      (Stuck name temporary place host) := by
  have follows := (spared.follows.settled settled).answer (.fill temporary content)
  have runs : (Plan.request (.fill temporary content)).run later =
      later.attempt (.fill temporary content) [temporary] fun tree =>
        Host.changing (tree.fill later.current temporary content) := rfl
  refine spared.passes runs rfl (by simp) follows fun done => ?_
  obtain ⟨number, mode, old, -, -, found⟩ := spared.lookup
  obtain ⟨other, number', mode', old', found', tree⟩ := Tree.fill_ok (Host.answer_fill_ok done)
  cases found.symm.trans found'
  have filled : Spared name temporary place (fun _ filled => filled = content) host
      (later.answer (.fill temporary content)).2 := spared.set free follows tree rfl
  exact ⟨.inl (filled.mono fun _ _ _ => trivial), filled⟩

theorem passes_sync (spared : Spared name temporary place known host later) (content : Bytes) :
    (Plan.request (.sync temporary)).Passes later (Midway name temporary place content host)
      (fun _ => Spared name temporary place known host) (Stuck name temporary place host) := by
  have follows := (spared.follows.settled settled).answer (.sync temporary)
  have runs : (Plan.request (.sync temporary)).run later =
      later.attempt (.sync temporary) [temporary] fun tree => .ok ((), tree) := rfl
  refine spared.passes runs rfl (by simp) follows fun _ => ?_
  have kept := spared.of_tree_eq follows (later.tree_answer_sync temporary)
  exact ⟨.inl (kept.mono fun _ _ _ => trivial), kept⟩

include free in
theorem passes_setMode
    (spared : Spared name temporary place (fun _ filled => filled = content) host later) :
    (Plan.request (.setMode temporary mode)).Passes later
      (Midway name temporary place content host)
      (fun _ => Spared name temporary place (fun set filled => set = mode ∧ filled = content) host)
      (Stuck name temporary place host) := by
  have follows := (spared.follows.settled settled).answer (.setMode temporary mode)
  have runs : (Plan.request (.setMode temporary mode)).run later =
      later.attempt (.setMode temporary mode) [temporary] fun tree =>
        Host.changing (tree.setMode later.current temporary mode) := rfl
  refine spared.passes runs rfl (by simp) follows fun done => ?_
  obtain ⟨number, old, filled, rfl, -, found⟩ := spared.lookup
  rcases Tree.setMode_ok (Host.answer_setMode_ok done) with
    ⟨other, number', old', content', found', tree⟩ | ⟨other, old', found', -⟩
  · cases found.symm.trans found'
    have ready : Spared name temporary place (fun set other => set = mode ∧ other = filled) host
        (later.answer (.setMode temporary mode)).2 := spared.set free follows tree ⟨rfl, rfl⟩
    exact ⟨.inl (ready.mono fun _ _ _ => trivial), ready⟩
  · cases found.symm.trans found'

include free in
theorem passes_replace
    (spared : Spared name temporary place (fun set filled => set = mode ∧ filled = content) host
      later) :
    (Plan.request (.replace temporary name)).Passes later
      (Midway name temporary place content host)
      (fun _ after => ∃ target number, Written name content host after target number)
      (Stuck name temporary place host) := by
  have settled' := spared.follows.settled settled
  have follows := settled'.answer (.replace temporary name)
  have runs : (Plan.request (.replace temporary name)).run later =
      later.attempt (.replace temporary name) [temporary, name] fun tree =>
        Host.changing (tree.replace later.current temporary name) := rfl
  refine spared.passes runs rfl (by simp) follows fun done => ?_
  suffices written : ∃ target number,
      Written name content host (later.answer (.replace temporary name)).2 target number from
    ⟨.inr written, written⟩
  have moved := Host.answer_replace_ok done
  have keeps := (settled'.wellFormed.grows_replace settled'.current moved).keeps
  obtain ⟨number, set, filled, ⟨rfl, rfl⟩, below, found⟩ := spared.lookup
  obtain ⟨other, number', set', filled', parent, last, found', located, -, tree⟩ :=
    Tree.replace_ok moved
  cases found.symm.trans found'
  rw [spared.follows.current] at located
  have node (other : Place) (apart : other ≠ parent ++ [last]) :
      (later.answer (.replace temporary name)).2.tree.node? other =
        if other = place then none else later.tree.node? other := by
    rw [tree, Tree.node?_set _ _ _ (by simp), if_neg apart, Tree.node?_erase _ _ below]
  refine ⟨parent ++ [last], number, ?_, fun other node' apart there => ?_,
    fun other node' apart free' there => ?_⟩
  · refine Tree.lookup_eq_file.mpr ⟨parent, last, keeps.locate located, rfl, ?_⟩
    rw [tree, Tree.node?_set _ _ _ (by simp), if_pos rfl]
  · rw [node other apart, if_neg]
    · exact spared.tree.stays other node' there
    · rintro rfl
      cases free.symm.trans there
  · rw [node other apart] at there
    split at there
    · cases there
    · rename_i different
      cases spared.tree.added other node' free' there with
      | directory names first walked => exact .directory names first (keeps.walk walked)
      | file spare => exact absurd (Option.some.inj spare).symm different

/-- Until the spare file takes the name nothing else has changed. -/
theorem passes_fillAndReplace (spared : Spared name temporary place known host later)
    (free : host.tree.node? place = none) (content : Bytes) :
    (fillAndReplace name temporary content).Passes later (Midway name temporary place content host)
      (fun _ after => ∃ target number, Written name content host after target number)
      (Stuck name temporary place host) :=
  (passes_fill settled free spared content).onSuccess fun _ _ filled =>
    (passes_sync settled filled content).onSuccess fun _ _ synced =>
      (passes_setMode settled free synced).onSuccess fun _ _ ready =>
        passes_replace settled free ready

end Steps

/-! ## Making and removing the spare file -/

/-- With only directories on the way the name leads to what it led to. -/
theorem Unwritten.of_paves (settled : host.Settled)
    (spare : ∀ place ∈ spare?, IsSpare name host place) (paves : Paves name host later) :
    Unwritten name spare? host later :=
  .of_extends settled paves.follows spare (paves.tree.of_none spare?)

/-- With a spare file the name leads to what it led to. -/
theorem Unwritten.of_spared (settled : host.Settled) (spare : IsSpare name host place)
    (spared : Spared name temporary place known host later) :
    Unwritten name (some place) host later :=
  .of_extends settled spared.follows (fun _ member => Option.some.inj member ▸ spare) spared.tree

/-- A spare file that is made in the directory of the file is made where nothing was. -/
theorem Spared.of_createTemporary (settled : host.Settled)
    (single : ∀ index, Path.separator ∉ host.marks index) (paves : Paves name host later)
    (ensured : Directory.Ensured (Path.ofText name).parent.toText later)
    (made : (later.answer (.createTemporary (Path.ofText name).parent.toText
      (Path.ofText name).name)).1 = .ok temporary) :
    ∃ place, IsSpare name host place ∧
      Spared name temporary place anything host (later.answer (.createTemporary
        (Path.ofText name).parent.toText (Path.ofText name).name)).2 := by
  have settled' := paves.follows.settled settled
  have follows := settled'.answer
    (.createTemporary (Path.ofText name).parent.toText (Path.ofText name).name)
  obtain ⟨index, text, created⟩ := Host.answer_createTemporary_ok made
  have keeps := (settled'.wellFormed.grows_createFile settled'.current created).keeps
  obtain ⟨parent, last, located, free, tree⟩ := Tree.createFile_ok created
  obtain ⟨inside, walked⟩ := ensured.walk (Directory.proper_parent name)
  have named := Host.located_temporaryPath (Directory.single_name name)
    (paves.follows.marks ▸ single index) (text ▸ located)
  have nodes (other : Place) := (congrArg (Tree.node? · other) tree).trans
    (Tree.node?_set later.tree (.file later.tree.nextNumber 0o600 []) other (by simp))
  have spare : IsSpare name host (parent ++ [last]) := by
    refine ⟨?_, index, ?_⟩
    · cases there : host.tree.node? (parent ++ [last]) with
      | none => rfl
      | some node => cases free.symm.trans (paves.tree.stays _ _ there)
    · rw [List.getLast?_concat, named, paves.follows.marks]
  refine ⟨parent ++ [last], spare, paves.follows.trans follows, ?_, ?_, ?_, ?_⟩
  · exact (paves.tree.of_none _).put_file spare.free keeps nodes
  · exact ⟨parent, last, paves.follows.current ▸ keeps.locate located, rfl⟩
  · exact ⟨inside, keeps.walk (paves.follows.current ▸ walked)⟩
  · exact ⟨_, _, _, (nodes _).trans (if_pos rfl), trivial⟩

/-- A call for a spare file makes one or nothing. -/
theorem passes_makeTemporary (settled : host.Settled)
    (single : ∀ index, Path.separator ∉ host.marks index) (paves : Paves name host later)
    (ensured : Directory.Ensured (Path.ofText name).parent.toText later) :
    ∃ spare?, (∀ spare ∈ spare?, IsSpare name host spare) ∧
      (Plan.request (.createTemporary (Path.ofText name).parent.toText
        (Path.ofText name).name)).Passes later (Unwritten name spare? host)
        (fun temporary after => ∃ place ∈ spare?, Spared name temporary place anything host after ∧
          (MarksProper host → Path.fault? temporary = none ∧ Path.fault? name = none))
        (fun _ after => Paves name host after) := by
  cases made : (later.answer (.createTemporary (Path.ofText name).parent.toText
    (Path.ofText name).name)).1 with
  | error fault =>
    have none : ∀ place ∈ (Option.none : Option Place), IsSpare name host place := by simp
    have follows := (paves.follows.settled settled).answer
      (.createTemporary (Path.ofText name).parent.toText (Path.ofText name).name)
    have kept : Paves name host (later.answer (.createTemporary (Path.ofText name).parent.toText
        (Path.ofText name).name)).2 :=
      ⟨paves.follows.trans follows,
        Host.tree_answer_createTemporary_of_error made ▸ paves.tree⟩
    refine ⟨Option.none, none, .of_call rfl (.of_paves settled none paves) (fun _ done => ?_)
      fun _ _ => ⟨.of_paves settled none kept, kept⟩⟩
    cases done.symm.trans made
  | ok temporary =>
    obtain ⟨place, spare, spared⟩ := Spared.of_createTemporary settled single paves ensured made
    have only : ∀ other ∈ some place, IsSpare name host other :=
      fun other member => Option.some.inj member ▸ spare
    refine ⟨some place, only, .of_call rfl (.of_paves settled only paves)
      (fun value done => ⟨.of_spared settled spare spared, place, rfl, ?_⟩) fun _ failed => ?_⟩
    · cases done.symm.trans made
      refine ⟨spared, fun marks => ?_⟩
      obtain ⟨proper, stem⟩ :=
        Host.fault?_of_answer_createTemporary made (paves.follows.marks ▸ marks)
      exact ⟨proper, Path.fault?_of_parent ensured.fault? stem⟩
    · cases failed.symm.trans made

/-- While the spare file is made, the file of the name is not written. -/
theorem passes_createTemporary (settled : host.Settled)
    (single : ∀ index, Path.separator ∉ host.marks index) (name : Text) :
    ∃ spare?, (∀ spare ∈ spare?, IsSpare name host spare) ∧
      (createTemporary name).Passes host (Unwritten name spare? host)
        (fun temporary after => ∃ place ∈ spare?, Spared name temporary place anything host after ∧
          (MarksProper host → Path.fault? temporary = none ∧ Path.fault? name = none))
        (fun _ after => Paves name host after) := by
  have paves := Directory.preserves_ensure settled name host (.refl settled name)
  have last := paves _ (Plan.run_mem_hosts _ host)
  have ensured (done : ((Directory.ensure (Path.ofText name).parent).run host).1 = .ok ()) :=
    Directory.ensured_ensure done
  rcases first : (Directory.ensure (Path.ofText name).parent).run host with ⟨fault | ⟨⟩, middle⟩
  · rw [first] at last
    have none : ∀ place ∈ (Option.none : Option Place), IsSpare name host place := by simp
    refine ⟨Option.none, none,
      .bind (fun later member => .of_paves settled none (paves later member)) ?_⟩
    rw [first]
    exact .done (.of_paves settled none last) last
  · rw [first] at last ensured
    obtain ⟨spare?, spare, passes⟩ := passes_makeTemporary settled single last (ensured rfl)
    refine ⟨spare?, spare,
      .bind (fun later member => .of_paves settled spare (paves later member)) ?_⟩
    rw [first]
    exact passes

/-- Removing the spare file is one call. -/
theorem removeTemporary_eq (name temporary : Text) (error : SystemError) :
    ∃ failure : Tried Unit → Failure, removeTemporary name temporary error =
      .call (.unlink temporary) fun reply => .done (failure reply) := by
  obtain ⟨next, once, ends⟩ : ∃ next, removeTemporary name temporary error =
      .call (.unlink temporary) next ∧ ∀ reply, ∃ failure, next reply = .done failure := by
    refine ⟨_, rfl, fun reply => ?_⟩
    rcases reply with (trouble | fault) | done
    · cases missing : trouble.isMissing <;> simp [Plan.bind, missing]
    · exact ⟨_, rfl⟩
    · exact ⟨_, rfl⟩
  choose failure ends using ends
  exact ⟨failure, once.trans (congrArg _ (funext ends))⟩

/-- A spare file that is removed is gone, and one that cannot be removed stays as it was. -/
theorem isAtomic_removeTemporary (settled : host.Settled) (spare : IsSpare name host place)
    (spared : Spared name temporary place anything host later) (error : SystemError) :
    IsAtomic name content (some place) host
      ((removeTemporary name temporary error).bind fun failure => .done (.error failure)) later := by
  obtain ⟨failure, once⟩ := removeTemporary_eq name temporary error
  rw [once]
  have here := (spared.follows.settled settled).answer (.unlink temporary)
  have follows := spared.follows.trans here
  obtain ⟨number, mode, found, -, below, there⟩ := spared.lookup
  refine .of_call rfl (.inl (.of_spared settled spare spared)) (fun _ done => ?_) fun _ _ => ?_
  · cases done
  · cases result : (later.answer (.unlink temporary)).1 with
    | ok done =>
      obtain ⟨other, number', mode', found', there', tree⟩ :=
        Tree.unlink_ok (Host.answer_unlink_ok result)
      cases there.symm.trans there'
      have erased := spared.tree.erase below spare.free spared.noDirectory
      rw [← tree] at erased
      have gone : Paves name host (later.answer (.unlink temporary)).2 := ⟨follows, erased⟩
      exact ⟨.inl (.of_paves settled (by simpa using spare) gone), gone.showsOn settled,
        fun _ => .inl (.of_paves settled (by simp) gone)⟩
    | error fault =>
      have same : (later.answer (.unlink temporary)).2.tree = later.tree :=
        Host.tree_attempt_of_error result
      have kept := spared.of_tree_eq here same
      have unwritten : Unwritten name (some place) host (later.answer (.unlink temporary)).2 :=
        .of_spared settled spare kept
      refine ⟨.inl unwritten, kept.showsOn settled spare, fun _ => .inr ⟨place, rfl, unwritten,
        temporary, fault, .file number mode found, ?_, ?_⟩⟩
      · exact congrArg (fun reply => some (⟨.unlink temporary, reply⟩ : Σ call : Call, call.Reply))
          result
      · exact (congrArg₂ (Tree.lookup · · temporary) same here.current).trans there

/-! ## The whole write -/

/-- What is in one step after some calls is so from the first of them on. -/
theorem IsAtomic.bind {α : Type} {plan : Plan α} {next : α → Plan (Except Failure Unit)}
    {origin : Host} (first : ∀ later ∈ plan.hosts host, Whole name content spare? origin later)
    (rest : IsAtomic name content spare? origin (next (plan.run host).1) (plan.run host).2) :
    IsAtomic name content spare? origin (plan.bind next) host := by
  refine Plan.Passes.bind first ⟨rest.during, rest.ends.mono (fun _ _ => id) fun _ _ failed => ?_⟩
  refine failed.imp id fun failed marks => (failed marks).imp id ?_
  rintro ⟨spare, member, left, temporary, fault, node, last, there⟩
  exact ⟨spare, member, left, temporary, fault, node, Plan.getLast?_trace_bind last, there⟩

/-- Between two calls of a write the name leads to what it led to or to the whole new file, and at the
end it leads to the new file if the write succeeds and to what it led to if it fails. No spare file is
left, unless it could not be removed. -/
theorem isAtomic_write (settled : host.Settled)
    (single : ∀ index, Path.separator ∉ host.marks index) (name : Text) (content : Bytes) :
    ∃ spare?, (∀ spare ∈ spare?, IsSpare name host spare) ∧
      IsAtomic name content spare? host (write name content) host := by
  obtain ⟨spare?, isSpare, made⟩ := passes_createTemporary settled single name
  have sooner := made.during _ (Plan.run_mem_hosts _ host)
  have ends := made.ends
  refine ⟨spare?, isSpare, .bind (fun later member => .inl (made.during later member)) ?_⟩
  unfold Plan.Ends at ends
  generalize (createTemporary name).run host = outcome at ends sooner ⊢
  obtain ⟨fault | temporary, middle⟩ := outcome
  · exact .done (.inl sooner) ⟨ends.showsOn settled,
      fun _ => .inl (.of_paves settled (by simp) ends)⟩
  · obtain ⟨place, member, spared, proper⟩ := ends
    have spare := isSpare place member
    cases member
    obtain ⟨during, ends⟩ := passes_fillAndReplace settled spared spare.free content
    have whole (later : Host) (midway : Midway name temporary place content host later) :
        Whole name content (some place) host later :=
      midway.imp (.of_spared settled spare) id
    refine .bind (fun later member => whole later (during later member)) ?_
    have sooner := whole _ (during _ (Plan.run_mem_hosts _ middle))
    unfold Plan.Ends at ends
    generalize (fillAndReplace name temporary content).run middle = outcome at ends sooner ⊢
    obtain ⟨(error | fault) | ⟨⟩, after⟩ := outcome
    · exact isAtomic_removeTemporary settled spare ends.spared error
    · refine .done sooner ⟨ends.spared.showsOn settled spare, fun marks => ?_⟩
      obtain ⟨error, impossible⟩ := ends.system (proper marks).1 (proper marks).2
      cases impossible
    · exact .done sooner ends

/-- A write that succeeds leaves the content at the name of the file, and one that fails leaves what
the name shows as it was. -/
theorem ends_write (settled : host.Settled)
    (single : ∀ index, Path.separator ∉ host.marks index) (name : Text) (content : Bytes) :
    (write name content).Ends host
      (fun _ after => after.tree.read host.current name = .ok content)
      (fun _ after => host.tree.ShowsOn after.tree host.current name) := by
  obtain ⟨spare?, -, -, ends⟩ := isAtomic_write settled single name content
  refine ends.mono (fun _ after ⟨place, number, written⟩ => ?_) fun _ _ failed => failed.1
  exact Tree.read_eq_ok.mpr ⟨place, number, mode, written.target⟩

end KeychainFile

end Keyring
