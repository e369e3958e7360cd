import Keyring.Host.Directory
import Keyring.Proofs.Host.Upkeep
import Keyring.Proofs.Host.Vacancy

/-!
# Making sure of a directory

Whoever makes sure of a directory and succeeds has made it or found it (`ensured_ensure`). So its names
lead somewhere (`Ensured.walk`).
-/

namespace Keyring

/-- Names lead into a directory that is there. -/
theorem Tree.walk_concat {tree : Tree} {here there : Place} {names : List Name} {name : Name}
    {mode : Nat} (walked : tree.walk here names = .ok there) (notDot : name ≠ Name.dot)
    (notDots : name ≠ Name.dots) (short : name.length ≤ Name.maxLength)
    (made : tree.node? (there ++ [name]) = some (.directory mode)) :
    tree.walk here (names ++ [name]) = .ok (there ++ [name]) := by
  rw [walk_append, walked]
  show tree.walk there [name] = _
  rw [walk_cons, enter, if_neg notDot, if_neg notDots, if_neg (by omega), made]
  rfl

/-- The directory that a path leads to is where its names lead. -/
theorem Tree.walk_of_lookup {tree : Tree} {current place : Place} {path : Text} {mode : Nat}
    (found : tree.lookup current path = .ok (place, .directory mode)) :
    tree.walk (startOf current path) (namesOf path) = .ok place := by
  unfold lookup at found
  split at found
  · cases found
  · rename_i reached located
    cases found
    exact walk_of_reached located
  · rename_i parent name slash located
    obtain ⟨walked, last, notDot, notDots, short⟩ := located_named located
    split at found
    · cases found
    · rename_i there
      cases found
      rw [← List.dropLast_append_getLast? name last]
      exact walk_concat walked notDot notDots short there
    · split at found <;> cases found

namespace Directory

open Keyring.Tree (namesOf startOf)

/-- Names that paths keep as they are. -/
def Proper (names : List Text) : Prop :=
  ∀ name ∈ names, (name ≠ [] ∧ Path.separator ∉ name) ∧ name ≠ Path.dot

/-- The names of a path are proper. -/
theorem proper_names (path : Text) : Proper (Path.ofText path).names := by
  intro name member
  rw [Path.names_ofText] at member
  obtain ⟨part, different⟩ := List.mem_filter.mp member
  exact ⟨Path.of_mem_parts part, by simpa using different⟩

/-- So are the names of the directory in which it ends. -/
theorem proper_parent (path : Text) : Proper (Path.ofText path).parent.names :=
  fun name member => proper_names path name (List.dropLast_subset _ member)

/-- The last name of a path has no slash, if there is one at all. -/
theorem single_name (path : Text) : Path.separator ∉ (Path.ofText path).name := by
  unfold Path.name
  cases found : (Path.ofText path).names.getLast? with
  | none => simp
  | some name => exact (proper_names path name (List.mem_of_getLast? found)).1.2

variable {path : Text} {names : List Text} {host : Host}

/-- A new directory comes to be where the last of its names was missing. -/
theorem makeDirectory_toText_ok {tree after : Tree} {current : Place} (proper : Proper names)
    (made : tree.makeDirectory current (Path.toText ⟨Path.rootOf path, names⟩) = .ok after) :
    ∃ before there name, names.map Name.ofText = before ++ [name] ∧
      tree.walk (startOf current path) before = .ok there ∧
      tree.enter there name = .error .missing ∧
      after = tree.set (there ++ [name]) (.directory 0o755) ∧
      after.walk (startOf current path) (names.map Name.ofText) = .ok (there ++ [name]) := by
  have each := fun name member => (proper name member).1
  obtain ⟨parent, last, slash, located, free, rfl⟩ := Tree.makeDirectory_ok made
  obtain ⟨walked, found, notDot, notDots, short⟩ := Tree.located_named located
  rw [Tree.startOf_toText current path each] at walked
  have cut := Tree.map_ofText_of_getLast? each found notDot
  have missing := Tree.enter_eq_missing.mpr ⟨notDot, notDots, short, free⟩
  refine ⟨_, parent, last, cut, walked, missing, rfl, ?_⟩
  rw [cut]
  have made := (Tree.node?_set tree (.directory 0o755) (parent ++ [last]) (by simp)).trans
    (if_pos rfl)
  exact Tree.walk_concat ((Tree.Keeps.set_directory tree _ _).walk walked) notDot notDots short made

/-- A directory has just been made, or it is found to be there. -/
def Ensured (path : Text) (after : Host) : Prop :=
  (∃ before : Host, before.answer (.makeDirectory path) = (.ok (), after)) ∨
    (after.answer (.isDirectory path)).1 = .ok true

/-- Making a directory, unless it is there, ensures it, if the other way to make it does. -/
theorem ensured_makeUnlessThere {otherwise : SystemError → Plan (Tried Unit)}
    (ensured : ∀ error after, ((otherwise error).run after).1 = .ok () →
      Ensured path ((otherwise error).run after).2)
    (done : ((makeUnlessThere path otherwise).run host).1 = .ok ()) :
    Ensured path ((makeUnlessThere path otherwise).run host).2 := by
  unfold makeUnlessThere at done ⊢
  simp only [Plan.bind_eq_bind, Plan.run_bind, Plan.request, Plan.run_call, Plan.run_done] at done ⊢
  rcases made : host.answer (.makeDirectory path) with ⟨(error | fault) | ⟨⟩, after⟩
  · rw [made] at done
    dsimp only at done ⊢
    split at done
    · rename_i missing
      rw [if_pos missing]
      exact ensured error after done
    · rename_i other
      rw [if_neg other]
      have same : (after.answer (.isDirectory path)).2 = after := rfl
      simp only [Plan.run_bind, Plan.run_call, Plan.run_done, same] at done ⊢
      cases found : (after.answer (.isDirectory path)).1 with
      | error fault =>
        rw [found] at done
        cases done
      | ok found' =>
        rw [found] at done
        cases found' with
        | false => cases done
        | true => exact .inr found
  · rw [made] at done
    cases done
  · exact .inl ⟨host, made⟩

/-- How many directories are looked at is up to the host. -/
theorem run_ensure (path : Path) (host : Host) :
    (ensure path).run host =
      (ensureNames path.root host.maxDepth path.names.reverse).run host := rfl

/-- Making sure of a directory ensures it. -/
theorem ensured_ensure {path : Path} (done : ((ensure path).run host).1 = .ok ()) :
    Ensured path.toText ((ensure path).run host).2 := by
  have gaveUp (error : SystemError) (after : Host) : ((giveUp error).run after).1 = .ok () →
      Ensured path.toText ((giveUp error).run after).2 :=
    fun done => by cases done
  rw [run_ensure] at done ⊢
  generalize host.maxDepth = depth at done ⊢
  obtain _ | depth := depth
  · cases done
  cases reversed : path.names.reverse with
  | nil =>
    have empty : path = ⟨path.root, []⟩ := by
      rw [List.reverse_eq_nil_iff] at reversed
      rw [← reversed]
    rw [reversed, ensureNames, ← empty] at done
    rw [ensureNames, ← empty]
    exact ensured_makeUnlessThere gaveUp done
  | cons name above =>
    have whole : path = ⟨path.root, (name :: above).reverse⟩ := by
      rw [← reversed, List.reverse_reverse]
    rw [reversed, ensureNames, ← whole] at done
    rw [ensureNames, ← whole]
    refine ensured_makeUnlessThere (fun error after done => ?_) done
    rw [Plan.run_onSuccess] at done ⊢
    split at done
    · exact ensured_makeUnlessThere gaveUp done
    · cases done

/-- The names of a directory that was made or found lead somewhere. -/
theorem Ensured.walk (proper : Proper names)
    (ensured : Ensured (Path.toText ⟨Path.rootOf path, names⟩) host) :
    ∃ place, host.tree.walk (startOf host.current path) (names.map Name.ofText) = .ok place := by
  have each := fun name member => (proper name member).1
  rcases ensured with ⟨before, made⟩ | found
  · obtain ⟨done, after⟩ := Prod.ext_iff.mp made
    have here : (before.answer (.makeDirectory (Path.toText ⟨Path.rootOf path, names⟩))).2.current =
        before.current := by
      unfold Host.answer
      rw [Host.snd_attempt]
    have had : before.tree.makeDirectory before.current (Path.toText ⟨Path.rootOf path, names⟩) =
        .ok (before.answer (.makeDirectory (Path.toText ⟨Path.rootOf path, names⟩))).2.tree :=
      Host.attempt_changing_ok done
    rw [after] at here had
    obtain ⟨-, parent, last, -, -, -, -, reached⟩ := makeDirectory_toText_ok proper had
    exact ⟨parent ++ [last], here ▸ reached⟩
  · unfold Host.answer at found
    dsimp only at found
    split at found
    · cases found
    · split at found
      · rename_i place mode there
        have walked := Tree.walk_of_lookup there
        rw [Tree.startOf_toText host.current path each, Tree.walk_toText _ _ _ each] at walked
        exact ⟨place, walked⟩
      all_goals cases found

end Directory

end Keyring
