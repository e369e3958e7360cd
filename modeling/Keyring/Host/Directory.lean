import Keyring.Host.Call

/-!
# Directories that have to be there

`ensure` makes a directory together with everything that is missing on the way to it. A directory
that is there already is as good as a new one, for whatever reason making it fails. Where more
directories are missing than the surroundings let it look at, nothing is made.
-/

namespace Keyring.Directory

/-- Makes a directory, unless it is there. Where something on the way is missing, `otherwise` tells
how to go on. -/
def makeUnlessThere (path : Text) (otherwise : SystemError → Plan (Tried Unit)) :
    Plan (Tried Unit) := do
  match ← Plan.request (.makeDirectory path) with
  | .ok () => return .ok ()
  | .error (.badPath fault) => return .error (.badPath fault)
  | .error (.system error) =>
    if error.isMissing then otherwise error
    else
      match ← Plan.request (.isDirectory path) with
      | .ok true => return .ok ()
      | .ok false => return .error (.system error)
      | .error fault => return .error fault

/-- Gives up with an error. -/
def giveUp (error : SystemError) : Plan (Tried Unit) :=
  return .error (.system error)

/-- Makes the directory that some names lead to from a root, the last name first, and those on the
way to it, unless there are more than `depth` to look at. -/
def ensureNames (root : Text) : Nat → List Text → Plan (Tried Unit)
  | 0, _ => return .error (.badPath .tooDeep)
  | _ + 1, [] => makeUnlessThere (Path.toText ⟨root, []⟩) giveUp
  | depth + 1, name :: above =>
    let path := Path.toText ⟨root, (name :: above).reverse⟩
    makeUnlessThere path fun _ =>
      (ensureNames root depth above).onSuccess fun () => makeUnlessThere path giveUp

/-- Makes a directory and those on the way to it. -/
def ensure (path : Path) : Plan (Tried Unit) := do
  let depth ← Plan.request .depth
  ensureNames path.root depth path.names.reverse

end Keyring.Directory
