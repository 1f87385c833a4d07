import VerilogLibrary.Files.Tree
import VerilogLibrary.Path
import VerilogLibrary.Text.Utf8

/-!
# Following paths in a file tree

A path is followed name by name from the root, or from the working directory if
it is not absolute. Every name but the last has to lead to a directory, and so
has the last if a slash or a dot comes behind it. Two dots lead back to the
directory before, and from the root to the root.

What is made is put under the last name of a path, in the directory to which the
names before it lead. A name with slashes behind it can be given to a directory,
but never to a file, whether or not there is such a file already.
-/

namespace VerilogLibrary.FileTree

/-- The most bytes that a name can have. -/
def maxNameBytes : Nat := 255

/-- The most bytes that a path can have. -/
def maxPathBytes : Nat := 4095

/-- Whether a name has too many bytes. -/
def isTooLong (name : String) : Bool :=
  maxNameBytes < (Text.utf8 name).length

/-- The nodes that a walk from the root has entered, with their names, the latest first. -/
abbrev Trail := List (String × FileNode)

/-- The place that a trail leads to. -/
def Trail.place (trail : Trail) : Place :=
  (trail.map (·.1)).reverse

/-- The node that a trail leads to. -/
def arrival (t : FileTree) : Trail → FileNode
  | [] => t.root
  | (_, node) :: _ => node

/-- Goes on from a trail along the segments of a path. -/
def follow (t : FileTree) (trail : Trail) : List (List Char) → Except FileError Trail
  | [] => .ok trail
  | segment :: rest =>
    match t.arrival trail with
    | .file _ => .error .notADirectory
    | .directory entries =>
      if Path.isTrivial segment then t.follow trail rest
      else if segment = ['.', '.'] then t.follow trail.tail rest
      else
        let name := String.ofList segment
        if isTooLong name then .error .nameTooLong
        else
          match entries.lookup name with
          | none => .error .notFound
          | some node => t.follow ((name, node) :: trail) rest

/-- The segments that lead from the root to where a path leads. -/
def route (cwd : Place) (path : String) : Except FileError (List (List Char)) :=
  if path.isEmpty then .error .notFound
  else if path.toList.contains '\x00' then .error .invalidPath
  else if maxPathBytes < (Text.utf8 path).length then .error .nameTooLong
  else
    let segs := Path.segments path.toList
    .ok (if Path.isAbsolute path then segs else cwd.map String.toList ++ segs)

/-- The place that a path leads to, and what is there. -/
def locate (t : FileTree) (cwd : Place) (path : String) : Except FileError (Place × FileNode) := do
  let trail ← t.follow [] (← route cwd path)
  return (trail.place, t.arrival trail)

/-- Where something is to be made. -/
structure Slot where
  /-- The place of the directory. -/
  directory : Place
  name : String
  /-- What has the name so far. -/
  occupant? : Option FileNode

/-- Segments without the empty ones at the end, which stem from slashes there. -/
def withoutEndSlashes (segs : List (List Char)) : List (List Char) :=
  (segs.reverse.dropWhile List.isEmpty).reverse

/-- Whether a path ends in a slash. -/
def endsInSlash (path : String) : Bool :=
  path.toList.getLast? = some '/'

/-- Where the last name of a path is to be made. A path to the root, or with dots at
its end, has none. -/
def slot? (t : FileTree) (cwd : Place) (path : String) : Except FileError (Option Slot) := do
  let segs := withoutEndSlashes (← route cwd path)
  let trail ← t.follow [] segs.dropLast
  match t.arrival trail with
  | .file _ => .error .notADirectory
  | .directory entries =>
    let last := segs.getLast?.getD []
    if Path.isTrivial last || last = ['.', '.'] then return none
    else
      let name := String.ofList last
      return some ⟨trail.place, name, entries.lookup name⟩

/-- What a path leads to, if anything. -/
def kind? (t : FileTree) (cwd : Place) (path : String) : Option FileKind :=
  match t.locate cwd path with
  | .ok (_, node) => some node.kind
  | .error _ => none

/-- The content of a file. -/
def read (t : FileTree) (cwd : Place) (path : String) : Except FileError (List UInt8) := do
  match ← t.locate cwd path with
  | (_, .file content) => return content
  | (_, .directory _) => .error .isADirectory

/-- Gives a file its content. -/
def write (t : FileTree) (cwd : Place) (path : String) (content : List UInt8) :
    Except FileError FileTree := do
  match ← t.slot? cwd path with
  | none => .error .isADirectory
  | some slot =>
    if endsInSlash path || slot.occupant?.any (·.kind == .directory) then .error .isADirectory
    else if isTooLong slot.name then .error .nameTooLong
    else return t.insert slot.directory slot.name (.file content)

/-- Makes a directory. -/
def makeDirectory (t : FileTree) (cwd : Place) (path : String) : Except FileError FileTree := do
  match ← t.slot? cwd path with
  | none => .error .alreadyExists
  | some slot =>
    if isTooLong slot.name then .error .nameTooLong
    else if slot.occupant?.isSome then .error .alreadyExists
    else return t.insert slot.directory slot.name (.directory [])

/-- Makes a change if it succeeds, and leaves the tree alone otherwise. -/
def update (change : FileTree → Except FileError FileTree) :
    StateM FileTree (Except FileError Unit) := do
  match change (← get) with
  | .ok t => set t; return .ok ()
  | .error e => return .error e

/-- The actions on a tree in memory, as seen from a working directory. -/
def files (cwd : Place) : Files (StateM FileTree) where
  kind? path := do return (← get).kind? cwd path
  read path := do return (← get).read cwd path
  write path content := update fun t => t.write cwd path content
  makeDirectory path := update fun t => t.makeDirectory cwd path
  workingDirectory := return pathOf cwd

end VerilogLibrary.FileTree
