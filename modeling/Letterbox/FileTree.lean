import Letterbox.Failure
import Letterbox.Text.Split

/-!
# File trees

The files and directories that a program sees. A path is read name by name, from the root or from the
directory that the program works in.
-/

namespace Letterbox

/-- What stands at a place. -/
inductive FileNode where
  | file (content : Bytes)
  | directory
deriving DecidableEq, Repr

/-- A place in a tree: the names on the way from the root. -/
abbrev Place := List String

/-- A tree of files and directories; the root is always a directory. -/
structure FileTree where
  /-- The directory in which relative paths start. -/
  home : Place
  nodes : List (Place × FileNode)

namespace FileTree

/-- What stands at a place, if anything does. -/
def nodeAt? (tree : FileTree) (place : Place) : Option FileNode :=
  if place = [] then some .directory else tree.nodes.lookup place

/-- Whether a place is a directory. -/
def isDirectoryAt (tree : FileTree) (place : Place) : Bool :=
  tree.nodeAt? place = some .directory

/-- The tree with something put at a place. -/
def put (tree : FileTree) (place : Place) (node : FileNode) : FileTree :=
  { tree with nodes := (place, node) :: tree.nodes.filter (·.1 ≠ place) }

/-- The largest number of bytes of a name. -/
def maxNameBytes : Nat := 255

/-- The names of a path. -/
def namesOf (path : String) : List String :=
  Text.splitString '/' path

/-- The place where a path starts. -/
def startOf (tree : FileTree) (path : String) : Place :=
  if path.toList.head? = some '/' then [] else tree.home

/-- The place that one more name leads to from a directory. -/
def step (tree : FileTree) (place : Place) (name : String) : Except FileFault Place :=
  if ! tree.isDirectoryAt place then .error .notADirectory
  else if name = "" ∨ name = "." then .ok place
  else if name = ".." then .ok place.dropLast
  else if name.utf8ByteSize > maxNameBytes then .error .nameTooLong
  else if (tree.nodeAt? (place ++ [name])).isNone then .error .notFound
  else .ok (place ++ [name])

/-- The largest number of bytes of a path. -/
def maxPathBytes : Nat := 4095

/-- What makes a path unusable as a whole. -/
def pathFault? (path : String) : Option FileFault :=
  if path.toList.contains '\x00' then some .nulInName
  else if path = "" then some .notFound
  else if path.utf8ByteSize > maxPathBytes then some .nameTooLong
  else none

/-- The place of a path; something stands there. -/
def locate (tree : FileTree) (path : String) : Except FileFault Place :=
  match pathFault? path with
  | some fault => .error fault
  | none => (namesOf path).foldlM tree.step (tree.startOf path)

/-- Whether something stands at a path. -/
def exists? (tree : FileTree) (path : String) : Bool :=
  (tree.locate path).isOk

/-- Whether a path leads to a directory. -/
def isDirectory (tree : FileTree) (path : String) : Bool :=
  match tree.locate path with
  | .ok place => tree.isDirectoryAt place
  | .error _ => false

/-- The content of a file. -/
def read (tree : FileTree) (path : String) : Except FileFault Bytes :=
  match tree.locate path with
  | .error fault => .error fault
  | .ok place =>
    match tree.nodeAt? place with
    | some (.file content) => .ok content
    | some .directory => .error .isADirectory
    | none => .error .notFound

/-- The tree with a new directory; the directory around it must be there, and its place must be free. -/
def makeDirectory (tree : FileTree) (start : Place) (names : List String) : Except FileFault FileTree :=
  match (names.reverse.dropWhile (· = "")) with
  | [] => .error .alreadyThere
  | last :: around =>
    match around.reverse.foldlM tree.step start with
    | .error fault => .error fault
    | .ok place =>
      match tree.step place last with
      | .ok _ => .error .alreadyThere
      | .error .notFound => .ok (tree.put (place ++ [last]) .directory)
      | .error fault => .error fault

/-- The tree with a directory that may have been there before. -/
def haveDirectory (tree : FileTree) (start : Place) (names : List String) : Except FileFault FileTree :=
  match tree.makeDirectory start names with
  | .ok made => .ok made
  | .error fault =>
    match names.foldlM tree.step start with
    | .ok place => if tree.isDirectoryAt place then .ok tree else .error fault
    | .error _ => .error fault

/--
The tree with the first of some directories, each of which lies in the next one. The others are made only
as far as they are missing; what was made stays even if the first cannot be.
-/
def haveDirectories (start : Place) : List (List String) → FileTree → FileTree × Except FileFault Unit
  | [], tree => (tree, .ok ())
  | names :: outer, tree =>
    let attempt (tree : FileTree) : FileTree × Except FileFault Unit :=
      match tree.haveDirectory start names with
      | .ok made => (made, .ok ())
      | .error fault => (tree, .error fault)
    match attempt tree with
    | (_, .error .notFound) =>
      match haveDirectories start outer tree with
      | (tree, .ok ()) => attempt tree
      | failed => failed
    | done => done

/-- The directories on the way to a path, the nearest first. -/
def directoriesAround (path : String) : List (List String) :=
  let names := (namesOf path).filter fun name => name ≠ "" ∧ name ≠ "."
  (List.range names.length).reverse.map fun count => names.take count

/-- The tree with the directory of a path and those on the way to it. An empty path needs none. -/
def makeDirectories (tree : FileTree) (path : String) : FileTree × Except FileFault Unit :=
  if path = "" then (tree, .ok ())
  else
    match pathFault? path with
    | some fault => (tree, .error fault)
    | none => haveDirectories (tree.startOf path) (namesOf path :: directoriesAround path) tree

end FileTree

end Letterbox
