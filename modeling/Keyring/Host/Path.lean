import Keyring.Failure
import Keyring.Host.Name

/-!
# Paths

What can be said about a path from its text alone. A path has a root, which is empty for a path that
starts from the current directory, and the names on the way. `ofText` passes over empty names and
single dots, but keeps two dots: what these lead to depends on the tree.
-/

namespace Keyring

open Text (lit)

/-- The names on a way from a root. -/
structure Path where
  /-- Empty, one slash, or exactly two. -/
  root : Text
  names : List Text
  deriving DecidableEq, Repr

namespace Path

/-- The slash between names. -/
def separator : CodePoint := 47

/-- The name of a directory itself. -/
def dot : Text := lit "."

/-- The name of the directory above. -/
def dots : Text := lit ".."

/-- The root that a text starts with. -/
def rootOf (text : Text) : Text :=
  match (text.takeWhile (· = separator)).length with
  | 0 => []
  | 2 => [separator, separator]
  | _ => [separator]

/-- The path that a text writes. -/
def ofText (text : Text) : Path where
  root := rootOf text
  names := (splitAll separator text).filter fun name => !name.isEmpty && name ≠ dot

/-- The text of a path, a dot for the current directory. -/
def toText (path : Path) : Text :=
  if path.root.isEmpty && path.names.isEmpty then dot
  else path.root ++ Text.join [separator] path.names

/-- The path without its last name. -/
def parent (path : Path) : Path :=
  { path with names := path.names.dropLast }

/-- The last name, empty if there is none. -/
def name (path : Path) : Text :=
  path.names.getLast?.getD []

/-- A path one name further. -/
def child (path : Path) (name : Text) : Path :=
  { path with names := path.names ++ [name] }

/-- The names after two dots have taken back the one before them, as far as there is one. At a root
two dots lead nowhere. -/
def reduce (rooted : Bool) (names : List Text) : List Text :=
  names.foldl
    (fun kept name =>
      if name = dots then
        match kept.getLast? with
        | none => if rooted then [] else [dots]
        | some last => if last = dots then kept ++ [dots] else kept.dropLast
      else kept ++ [name])
    []

/-- A path from the root, without dots. One that starts from the current directory is continued
from there. -/
def absolute (current path : Path) : Path :=
  if path.root.isEmpty then ⟨current.root, reduce true (current.names ++ path.names)⟩
  else ⟨path.root, reduce true path.names⟩

/-- The first surrogate that stands for no octet, with the surrogates after it; counting from
`start`. -/
def firstUnencodable (start : Nat) : Text → Option Utf8.Unencodable
  | [] => none
  | point :: rest =>
    if point.isSurrogate && !Name.isEscape point then
      some ⟨point, start, start + 1 + (rest.takeWhile CodePoint.isSurrogate).length⟩
    else firstUnencodable (start + 1) rest

/-- Why a text is no path. -/
def fault? (text : Text) : Option PathFault :=
  match firstUnencodable 0 text with
  | some run => some (.unencodable run)
  | none => if text.contains 0 then some .zero else none

/-- The most octets of a path. -/
def maxLength : Nat := 4095

/-- A path has more octets than the system takes. -/
def isTooLong (text : Text) : Bool :=
  maxLength < (Name.ofText text).length

/-- A text without the slashes at its end. -/
def withoutSlashes (text : Text) : Text :=
  (text.reverse.dropWhile (· = separator)).reverse

/-- Whose home directory a tilde at the start of a path stands for, and the rest of the path. The
name is empty for the home of whoever runs the program. -/
def tilde? : Text → Option (Text × Text)
  | 126 :: rest => some (rest.takeWhile (· ≠ separator), rest.dropWhile (· ≠ separator))
  | _ => none

/-- A path in a home directory, by what stands behind the tilde. -/
def inHome (home rest : Text) : Text :=
  let expanded := withoutSlashes home ++ rest
  if expanded.isEmpty then [separator] else expanded

/-- The home directory followed by some names. -/
def underHome (home : Text) (names : List Text) : Text :=
  withoutSlashes home ++ names.flatMap fun name => separator :: name

end Path

end Keyring
