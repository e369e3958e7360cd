import Keyring.Host.Path

/-!
# File trees

The files and directories below a root, each under the names that lead to it. `Tree.locate` follows
a path as an operating system does: every name but the last must lead to a directory, and two dots
lead up from wherever one is.

A file has a number of its own besides its place. Whoever has opened it goes on writing to the file
of that number, wherever it is moved and whatever takes its place.
-/

namespace Keyring

open Text (lit)

/-- What a place in a tree holds. -/
inductive Node where
  | directory (mode : Nat)
  | file (number mode : Nat) (content : Bytes)
  deriving DecidableEq, Repr

/-- The names that lead to a place from the root. -/
abbrev Place := List Name

/-- Files and directories. The root is a directory that is always there. -/
structure Tree where
  nodes : List (Place × Node)
  /-- The number of the next file. -/
  nextNumber : Nat
  deriving DecidableEq, Repr

/-- Why a call about a tree fails. -/
inductive Trouble where
  | missing
  | present
  | notDirectory
  | isDirectory
  | busy
  | nameTooLong
  deriving DecidableEq, Repr

/-- The error that tells of some trouble with some paths. -/
def Trouble.error (operands : List Text) : Trouble → SystemError
  | .missing => .missing operands
  | .present => .present operands
  | .notDirectory => .notDirectory operands
  | .isDirectory => .isDirectory operands
  | .busy => .busy operands
  | .nameTooLong => .nameTooLong operands

/-- Where a path ends: in a directory that was reached on the way, or at a name in one, where there
may be something or nothing. -/
inductive Spot where
  | reached (place : Place)
  | named (parent : Place) (name : Name) (slash : Bool)
  deriving DecidableEq, Repr

namespace Tree

/-- The tree without anything. -/
def empty : Tree := ⟨[], 0⟩

/-- What a place holds. -/
def node? (tree : Tree) (place : Place) : Option Node :=
  if place.isEmpty then some (.directory 0o755)
  else (tree.nodes.find? (·.1 = place)).map (·.2)

/-- The tree with something else at a place. -/
def set (tree : Tree) (place : Place) (node : Node) : Tree :=
  if (tree.nodes.find? (·.1 = place)).isSome then
    { tree with
      nodes := tree.nodes.map fun (other, old) => (other, if other = place then node else old) }
  else { tree with nodes := tree.nodes ++ [(place, node)] }

/-- The tree without what a place holds. -/
def erase (tree : Tree) (place : Place) : Tree :=
  { tree with nodes := tree.nodes.filter fun (other, _) => other ≠ place }

/-- The tree without what a place holds and everything below it. -/
def eraseBelow (tree : Tree) (place : Place) : Tree :=
  { tree with nodes := tree.nodes.filter fun (other, _) => !place.isPrefixOf other }

/-- Goes on from a directory through more of them. -/
def walk (tree : Tree) (here : Place) : List Name → Except Trouble Place
  | [] => .ok here
  | name :: names =>
    if name = Name.dot then walk tree here names
    else if name = Name.dots then walk tree here.dropLast names
    else if Name.maxLength < name.length then .error .nameTooLong
    else
      match tree.node? (here ++ [name]) with
      | none => .error .missing
      | some (.file _ _ _) => .error .notDirectory
      | some (.directory _) => walk tree (here ++ [name]) names

/-- Where a path ends. A path that starts from the current directory starts at `current`. One that
is too long ends nowhere. -/
def locate (tree : Tree) (current : Place) (path : Text) : Except Trouble Spot :=
  let names := ((splitAll Path.separator path).filter fun name => !name.isEmpty).map Name.ofText
  let start := if path.head? = some Path.separator then [] else current
  if path.isEmpty then .error .missing
  else if Path.isTooLong path then .error .nameTooLong
  else
    match names.getLast? with
    | none => .ok (.reached [])
    | some last =>
      match tree.walk start names.dropLast with
      | .error trouble => .error trouble
      | .ok here =>
        if last = Name.dot then .ok (.reached here)
        else if last = Name.dots then .ok (.reached here.dropLast)
        else if Name.maxLength < last.length then .error .nameTooLong
        else .ok (.named here last (path.getLast? = some Path.separator))

/-- The place and the node that a path leads to. -/
def lookup (tree : Tree) (current : Place) (path : Text) : Except Trouble (Place × Node) :=
  match tree.locate current path with
  | .error trouble => .error trouble
  | .ok (.reached place) => .ok (place, .directory 0o755)
  | .ok (.named parent name slash) =>
    match tree.node? (parent ++ [name]) with
    | none => .error .missing
    | some (.directory mode) => .ok (parent ++ [name], .directory mode)
    | some (.file number mode content) =>
      if slash then .error .notDirectory else .ok (parent ++ [name], .file number mode content)

/-- The content of a file. -/
def read (tree : Tree) (current : Place) (path : Text) : Except Trouble Bytes :=
  match tree.lookup current path with
  | .error trouble => .error trouble
  | .ok (_, .directory _) => .error .isDirectory
  | .ok (_, .file _ _ content) => .ok content

/-- A new directory. -/
def makeDirectory (tree : Tree) (current : Place) (path : Text) : Except Trouble Tree :=
  match tree.locate current path with
  | .error trouble => .error trouble
  | .ok (.reached _) => .error .present
  | .ok (.named parent name _) =>
    if (tree.node? (parent ++ [name])).isSome then .error .present
    else .ok (tree.set (parent ++ [name]) (.directory 0o755))

/-- A new empty file where nothing was. -/
def createFile (tree : Tree) (current : Place) (path : Text) (mode : Nat) : Except Trouble Tree :=
  match tree.locate current path with
  | .error trouble => .error trouble
  | .ok (.reached _) => .error .present
  | .ok (.named parent name slash) =>
    if (tree.node? (parent ++ [name])).isSome then .error .present
    else if slash then .error .isDirectory
    else
      .ok { tree.set (parent ++ [name]) (.file tree.nextNumber mode []) with
        nextNumber := tree.nextNumber + 1 }

/-- The number of a file to write to, which is new and empty if there was none. -/
def openFile (tree : Tree) (current : Place) (path : Text) : Except Trouble (Nat × Tree) :=
  match tree.lookup current path with
  | .ok (_, .file number _ _) => .ok (number, tree)
  | .ok (_, .directory _) => .error .isDirectory
  | .error .missing =>
    (tree.createFile current path 0o644).map fun after => (tree.nextNumber, after)
  | .error trouble => .error trouble

/-- The tree after a file got other content. -/
def fill (tree : Tree) (current : Place) (path : Text) (content : Bytes) : Except Trouble Tree :=
  match tree.lookup current path with
  | .error trouble => .error trouble
  | .ok (_, .directory _) => .error .isDirectory
  | .ok (place, .file number mode _) => .ok (tree.set place (.file number mode content))

/-- The tree after more was written to the file of a number, wherever that is. -/
def append (tree : Tree) (number : Nat) (bytes : Bytes) : Tree :=
  { tree with
    nodes := tree.nodes.map fun (place, node) =>
      match node with
      | .file other mode content =>
        if other = number then (place, .file other mode (content ++ bytes)) else (place, node)
      | .directory _ => (place, node) }

/-- The tree after a file or a directory got other permissions. -/
def setMode (tree : Tree) (current : Place) (path : Text) (mode : Nat) : Except Trouble Tree :=
  match tree.lookup current path with
  | .error trouble => .error trouble
  | .ok (place, .file number _ content) => .ok (tree.set place (.file number mode content))
  | .ok (place, .directory _) =>
    .ok (if (tree.nodes.find? (·.1 = place)).isSome then tree.set place (.directory mode) else tree)

/-- The tree after a file was removed. -/
def unlink (tree : Tree) (current : Place) (path : Text) : Except Trouble Tree :=
  match tree.lookup current path with
  | .error trouble => .error trouble
  | .ok (_, .directory _) => .error .isDirectory
  | .ok (place, .file _ _ _) => .ok (tree.erase place)

/-- The tree after a file was moved to where another may have been. -/
def replace (tree : Tree) (current : Place) (source target : Text) : Except Trouble Tree :=
  match tree.lookup current source with
  | .error trouble => .error trouble
  | .ok (_, .directory _) => .error .isDirectory
  | .ok (place, .file number mode content) =>
    match tree.locate current target with
    | .error trouble => .error trouble
    | .ok (.reached _) => .error .busy
    | .ok (.named parent name slash) =>
      if slash then .error .notDirectory
      else
        match tree.node? (parent ++ [name]) with
        | some (.directory _) => .error .isDirectory
        | _ => .ok ((tree.erase place).set (parent ++ [name]) (.file number mode content))

/-- The names of what a directory holds. -/
def names (tree : Tree) (current : Place) (path : Text) : Except Trouble (List Text) :=
  match tree.lookup current path with
  | .error trouble => .error trouble
  | .ok (_, .file _ _ _) => .error .notDirectory
  | .ok (place, .directory _) =>
    .ok (tree.nodes.filterMap fun (other, _) =>
      if other.dropLast = place then other.getLast?.map Name.toText else none)

/-- What a place holds below it, each with the names that lead there from it. -/
def below (tree : Tree) (place : Place) : List (Place × Node) :=
  tree.nodes.filterMap fun (other, node) =>
    if place.isPrefixOf other && place ≠ other then some (other.drop place.length, node) else none

end Tree

end Keyring
