import Keyring.Proofs.Host.Addition
import Keyring.Proofs.Host.Course

/-!
# Directories on the way

While somebody makes sure of the directory of a file, nothing changes at any time but that
directories are made where the names of the way lead (`preserves_ensure`).
-/

namespace Keyring

namespace Directory

open Keyring.Tree (startOf)

/-- A host after some calls, on which nothing has changed but directories on the way to a file. -/
structure Paves (path : Text) (origin host : Host) : Prop where
  follows : origin.Follows host
  tree : origin.tree.Extends host.tree (startOf origin.current path)
    ((Path.ofText path).parent.names.map Name.ofText) none

variable {path : Text} {names : List Text} {origin host : Host}

theorem Paves.refl (settled : origin.Settled) (path : Text) : Paves path origin origin :=
  ⟨settled.follows_refl rfl rfl rfl rfl rfl, .refl ..⟩

/-- The path shows what it showed before. -/
theorem Paves.showsOn (paves : Paves path origin host) (settled : origin.Settled) :
    origin.tree.ShowsOn host.tree origin.current path :=
  paves.tree.showsOn_of_none settled.wellFormed paves.follows.grows.wellFormed settled.current

/-- A new directory is one on the way. -/
theorem Paves.makeDirectory (paves : Paves path origin host) (settled : origin.Settled)
    (proper : Proper names)
    (first : names.map Name.ofText <+: (Path.ofText path).parent.names.map Name.ofText) :
    Paves path origin
      (host.answer (.makeDirectory (Path.toText ⟨Path.rootOf path, names⟩))).2 := by
  have follows := (paves.follows.settled settled).answer
    (.makeDirectory (Path.toText ⟨Path.rootOf path, names⟩))
  refine ⟨paves.follows.trans follows, ?_⟩
  refine Host.tree_attempt_changing (fun tree => origin.tree.Extends tree _ _ none) paves.tree
    fun after made => paves.tree.trans ?_
  rw [paves.follows.current] at made
  obtain ⟨before, there, name, -, walked, missing, rfl, reached⟩ :=
    makeDirectory_toText_ok proper made
  obtain ⟨-, -, -, free⟩ := Tree.enter_eq_missing.mp missing
  exact .set_directory first (by simp) free reached

/-- Whoever makes a directory on the way, unless it is there, changes nothing else. -/
theorem preserves_makeUnlessThere (settled : origin.Settled) (proper : Proper names)
    (first : names.map Name.ofText <+: (Path.ofText path).parent.names.map Name.ofText)
    {otherwise : SystemError → Plan (Tried Unit)}
    (preserves : ∀ error, (otherwise error).Preserves (Paves path origin)) :
    (makeUnlessThere (Path.toText ⟨Path.rootOf path, names⟩) otherwise).Preserves
      (Paves path origin) := by
  have making : (Plan.request (.makeDirectory (Path.toText ⟨Path.rootOf path, names⟩))).Preserves
      (Paves path origin) := .request fun _ paves => paves.makeDirectory settled proper first
  refine making.bind fun
    | .ok () => .done _
    | .error (.badPath fault) => .done _
    | .error (.system error) => ?_
  dsimp only
  split
  · exact preserves error
  · refine Plan.Preserves.bind (.request fun _ paves => paves) fun
      | .ok true => .done _
      | .ok false => .done _
      | .error fault => .done _

theorem preserves_ensureNames (settled : origin.Settled) (depth : Nat) {names : List Text}
    (proper : Proper names.reverse)
    (first : names.reverse.map Name.ofText <+: (Path.ofText path).parent.names.map Name.ofText) :
    (ensureNames (Path.rootOf path) depth names).Preserves (Paves path origin) := by
  induction depth generalizing names with
  | zero => exact .done _
  | succ depth ih =>
    cases names with
    | nil => exact preserves_makeUnlessThere settled proper first fun _ => .done _
    | cons name above =>
      refine preserves_makeUnlessThere settled proper first fun _ => ?_
      refine Plan.Preserves.onSuccess (ih ?_ ?_) fun _ =>
        preserves_makeUnlessThere settled proper first fun _ => .done _
      · intro other member
        exact proper other (by simp [List.mem_reverse.mp member])
      · refine List.IsPrefix.trans ?_ first
        rw [List.reverse_cons, List.map_append]
        exact List.prefix_append _ _

/-- Making sure of the directory in which a path ends changes nothing but directories on the way. -/
theorem preserves_ensure (settled : origin.Settled) (path : Text) :
    (ensure (Path.ofText path).parent).Preserves (Paves path origin) := by
  refine (Plan.Preserves.request fun _ paves => paves).bind fun depth =>
    preserves_ensureNames settled depth ?_ ?_
  · rw [List.reverse_reverse]
    exact proper_parent path
  · simp

end Directory

end Keyring
